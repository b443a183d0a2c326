/-
Schedules, occurrences, notifications and canonical events
(`harness-v2/src/contracts.ts`).

A value of one of these types stands for what its `parse` function has read:
fields that no modelled function looks at are left out.  `Date.parse` and
`toISOString` belong to the host of the program and are a parameter.
-/

import AnnaAgent.Foundation.Transaction

namespace AnnaAgent.EventStore

open Foundation

abbrev WorkspaceId := String
abbrev ChannelId := String
abbrev RunId := String
abbrev EventId := String
abbrev StreamId := String
abbrev CommandId := String
abbrev ActorId := String
abbrev ScheduleId := String
abbrev OccurrenceId := String
abbrev NotificationId := String

/-- A date as the text the program passes around. -/
abbrev Timestamp := String

/-- `Date.parse` (`none` for `NaN`) and `Date.prototype.toISOString` (`none`
outside the range of a date), in milliseconds. -/
structure Dates where
  parse : Timestamp → Option Int
  toISOString : Int → Option Timestamp

inductive Thrown where
  | schemaValidationError (message : String)
  | eventScopeMismatchError
  | eventConflictError
  | eventSequenceConflictError
  | commandConflictError
  | channelSessionConflictError
  | projectionSourceEventNotFoundError
  | projectionVersionConflictError
  | terminalEventConflictError
  | scheduleConflictError
  | scheduleNotificationConflictError
  | sqliteConstraintError
  | rangeError
  | error (message : String)
  deriving DecidableEq

/-- White space and line terminators, as `trim` removes them. -/
def isSpace (c : Char) : Bool :=
  decide (c.toNat ∈ [0x09, 0x0A, 0x0B, 0x0C, 0x0D, 0x20, 0xA0, 0x1680, 0x2028, 0x2029, 0x202F,
    0x205F, 0x3000, 0xFEFF]) || (decide (0x2000 ≤ c.toNat) && decide (c.toNat ≤ 0x200A))

def expectNonEmptyString (input name : String) : Except Thrown String :=
  if input.toList.all isSpace then
    .error (.schemaValidationError s!"{name} must be a non-empty string")
  else .ok input

variable {input result name : String}

theorem notBlank_of_parsed (parsed : expectNonEmptyString input name = .ok result) :
    input.toList.all isSpace = false := by
  unfold expectNonEmptyString at parsed
  cases blank : input.toList.all isSpace with
  | false => rfl
  | true =>
    rw [blank, if_pos rfl] at parsed
    cases parsed

theorem parsed_of_notBlank (name : String) (notBlank : input.toList.all isSpace = false) :
    expectNonEmptyString input name = .ok input := by
  unfold expectNonEmptyString
  rw [notBlank, if_neg Bool.false_ne_true]

def parseId (input name : String) : Except Thrown String :=
  expectNonEmptyString input name

def parseIds (name : String) : Nat → List String → Except Thrown (List String)
  | _, [] => .ok []
  | index, item :: rest => do
      let id ← parseId item s!"{name}[{index}]"
      let others ← parseIds name (index + 1) rest
      return id :: others

def parseTimestamp (dates : Dates) (input name : String) : Except Thrown Timestamp := do
  let timestamp ← expectNonEmptyString input name
  if dates.parse timestamp = none then
    .error (.schemaValidationError s!"{name} must be a parseable timestamp")
  else .ok timestamp

structure ChannelScope where
  workspaceId : WorkspaceId
  channelId : ChannelId
  deriving DecidableEq

inductive ScheduleTrigger where
  | explicit (label : String)
  | unresolvedThreadSla (threadId : String) (deadlineAt : Timestamp)
  | waitingNodeDeadline (nodeId : String) (deadlineAt : Timestamp)
  | connectorEvent (connector eventType registrationId : String)
  | monitor (monitorId label : String)
  deriving DecidableEq

inductive ScheduleTriggerKind where
  | explicit
  | unresolvedThreadSla
  | waitingNodeDeadline
  | connectorEvent
  | monitor
  deriving DecidableEq

def ScheduleTrigger.kind : ScheduleTrigger → ScheduleTriggerKind
  | .explicit _ => .explicit
  | .unresolvedThreadSla _ _ => .unresolvedThreadSla
  | .waitingNodeDeadline _ _ => .waitingNodeDeadline
  | .connectorEvent _ _ _ => .connectorEvent
  | .monitor _ _ => .monitor

inductive ScheduleCatchUpPolicy where
  | skip
  | runLatest
  deriving DecidableEq

inductive ScheduleStatus where
  | active
  | cancelled
  | completed
  deriving DecidableEq

/-- A fixed interval; `expectPositiveInteger` accepts safe integers from one
on. -/
structure ScheduleRecurrence where
  intervalMs : Nat
  positive : 0 < intervalMs
  safe : intervalMs ≤ 9007199254740991
  deriving DecidableEq

structure ScheduledRunSpec where
  workspaceId : WorkspaceId
  channelId : ChannelId
  goal : String
  sourceEventId : EventId
  permissionScope : String
  stopCondition : String
  /-- `runProfileSnapshot.allowedTools`. -/
  allowedTools : List String
  trigger : ScheduleTrigger
  notificationAudience : List ActorId
  deriving DecidableEq

structure ScheduleRun extends ScheduledRunSpec where
  commandId : CommandId
  runId : RunId

structure ScheduleRecord where
  id : ScheduleId
  workspaceId : WorkspaceId
  channelId : ChannelId
  kind : ScheduleTriggerKind
  trigger : ScheduleTrigger
  dueAt : Timestamp
  catchUpPolicy : ScheduleCatchUpPolicy
  status : ScheduleStatus
  run : ScheduledRunSpec
  recurrence : Option ScheduleRecurrence
  deriving DecidableEq

inductive OccurrenceStatus where
  | claimed
  | started
  | skipped
  deriving DecidableEq

structure ScheduleOccurrence where
  workspaceId : WorkspaceId
  channelId : ChannelId
  id : OccurrenceId
  scheduleId : ScheduleId
  dueAt : Timestamp
  runId : RunId
  commandId : CommandId
  claimedAt : Timestamp
  status : Option OccurrenceStatus
  deriving DecidableEq

inductive ScheduleOccurrenceClaim where
  | claimed (occurrence : ScheduleOccurrence)
  | alreadyClaimed (occurrence : ScheduleOccurrence)
  | scheduleInactive
  deriving DecidableEq

structure ScheduleNotification where
  id : NotificationId
  workspaceId : WorkspaceId
  channelId : ChannelId
  scheduleId : ScheduleId
  occurrenceId : OccurrenceId
  runId : RunId
  trigger : ScheduleTrigger
  audience : List ActorId
  createdAt : Timestamp
  deriving DecidableEq

/-- An event, with its payload up to the order of keys. -/
structure CanonicalEvent (Payload : Type) where
  id : EventId
  workspaceId : WorkspaceId
  channelId : ChannelId
  streamId : StreamId
  seq : Nat
  type : String
  timestamp : Timestamp
  schemaVersion : Nat
  payload : Payload
  deriving DecidableEq

def parseScheduleTrigger (dates : Dates) (value : ScheduleTrigger) :
    Except Thrown ScheduleTrigger := do
  match value with
  | .explicit label =>
    let label ← expectNonEmptyString label "ScheduleTrigger.label"
    return .explicit label
  | .unresolvedThreadSla threadId deadlineAt =>
    let threadId ← expectNonEmptyString threadId "ScheduleTrigger.threadId"
    let deadlineAt ← parseTimestamp dates deadlineAt "ScheduleTrigger.deadlineAt"
    return .unresolvedThreadSla threadId deadlineAt
  | .waitingNodeDeadline nodeId deadlineAt =>
    let nodeId ← expectNonEmptyString nodeId "ScheduleTrigger.nodeId"
    let deadlineAt ← parseTimestamp dates deadlineAt "ScheduleTrigger.deadlineAt"
    return .waitingNodeDeadline nodeId deadlineAt
  | .connectorEvent connector eventType registrationId =>
    let connector ← expectNonEmptyString connector "ScheduleTrigger.connector"
    let eventType ← expectNonEmptyString eventType "ScheduleTrigger.eventType"
    let registrationId ← expectNonEmptyString registrationId "ScheduleTrigger.registrationId"
    return .connectorEvent connector eventType registrationId
  | .monitor monitorId label =>
    let monitorId ← expectNonEmptyString monitorId "ScheduleTrigger.monitorId"
    let label ← expectNonEmptyString label "ScheduleTrigger.label"
    return .monitor monitorId label

def parseStartRun (dates : Dates) (value : ScheduleRun) : Except Thrown ScheduleRun := do
  let stopCondition ← expectNonEmptyString value.stopCondition "StartRun.stopCondition"
  let trigger ← parseScheduleTrigger dates value.trigger
  let notificationAudience ←
    parseIds "StartRun.notificationAudience" 0 value.notificationAudience
  let commandId ← parseId value.commandId "StartRun.commandId"
  let runId ← parseId value.runId "StartRun.runId"
  let goal ← expectNonEmptyString value.goal "StartRun.goal"
  let workspaceId ← parseId value.workspaceId "StartRun.workspaceId"
  let channelId ← parseId value.channelId "StartRun.channelId"
  let sourceEventId ← parseId value.sourceEventId "StartRun.source.eventId"
  let permissionScope ← parseId value.permissionScope "StartRun.permissionScope"
  return { workspaceId, channelId, goal, sourceEventId, permissionScope, stopCondition
           allowedTools := value.allowedTools
           trigger, notificationAudience, commandId, runId }

def parseScheduledRunSpec (dates : Dates) (value : ScheduledRunSpec) :
    Except Thrown ScheduledRunSpec := do
  let parsed ← parseStartRun dates
    { value with
      commandId := "schedule-template-command"
      runId := "schedule-template-run" }
  let trigger ← parseScheduleTrigger dates value.trigger
  let notificationAudience ←
    parseIds "ScheduledRunSpec.notificationAudience" 0 value.notificationAudience
  return { parsed.toScheduledRunSpec with trigger, notificationAudience }

def parseSchedule (dates : Dates) (value : ScheduleRecord) : Except Thrown ScheduleRecord := do
  let run ← parseScheduledRunSpec dates value.run
  let id ← parseId value.id "ScheduleRecord.id"
  let trigger ← parseScheduleTrigger dates value.trigger
  if value.kind ≠ trigger.kind then
    .error (.schemaValidationError "ScheduleRecord.kind must match ScheduleRecord.trigger.kind")
  else if run.trigger ≠ trigger then
    .error (.schemaValidationError "ScheduleRecord.trigger must match ScheduledRunSpec.trigger")
  else do
    let workspaceId ← parseId value.workspaceId "ScheduleRecord.workspaceId"
    if run.workspaceId ≠ workspaceId then
      .error (.schemaValidationError "ScheduleRecord scope must match its ScheduledRunSpec")
    else do
      let channelId ← parseId value.channelId "ScheduleRecord.channelId"
      if run.channelId ≠ channelId then
        .error (.schemaValidationError "ScheduleRecord scope must match its ScheduledRunSpec")
      else do
        let dueAt ← parseTimestamp dates value.dueAt "ScheduleRecord.dueAt"
        return { id
                 workspaceId := run.workspaceId
                 channelId := run.channelId
                 kind := trigger.kind
                 trigger, dueAt
                 catchUpPolicy := value.catchUpPolicy
                 status := value.status
                 run
                 recurrence := value.recurrence }

def parseScheduleOccurrence (dates : Dates) (value : ScheduleOccurrence) :
    Except Thrown ScheduleOccurrence := do
  let id ← parseId value.id "ScheduleOccurrence.id"
  let scheduleId ← parseId value.scheduleId "ScheduleOccurrence.scheduleId"
  let dueAt ← parseTimestamp dates value.dueAt "ScheduleOccurrence.dueAt"
  let runId ← parseId value.runId "ScheduleOccurrence.runId"
  let commandId ← parseId value.commandId "ScheduleOccurrence.commandId"
  let claimedAt ← parseTimestamp dates value.claimedAt "ScheduleOccurrence.claimedAt"
  let workspaceId ← parseId value.workspaceId "ScheduleOccurrence.workspaceId"
  let channelId ← parseId value.channelId "ScheduleOccurrence.channelId"
  return { workspaceId, channelId, id, scheduleId, dueAt, runId, commandId, claimedAt
           status := value.status }

def parseScheduleNotification (dates : Dates) (value : ScheduleNotification) :
    Except Thrown ScheduleNotification := do
  let id ← parseId value.id "ScheduleNotification.id"
  let scheduleId ← parseId value.scheduleId "ScheduleNotification.scheduleId"
  let occurrenceId ← parseId value.occurrenceId "ScheduleNotification.occurrenceId"
  let runId ← parseId value.runId "ScheduleNotification.runId"
  let trigger ← parseScheduleTrigger dates value.trigger
  let audience ← parseIds "ScheduleNotification.audience" 0 value.audience
  let createdAt ← parseTimestamp dates value.createdAt "ScheduleNotification.createdAt"
  let workspaceId ← parseId value.workspaceId "ScheduleNotification.workspaceId"
  let channelId ← parseId value.channelId "ScheduleNotification.channelId"
  return { id, workspaceId, channelId, scheduleId, occurrenceId, runId, trigger, audience,
           createdAt }

def parseCanonicalEvent {Payload : Type} (dates : Dates) (value : CanonicalEvent Payload) :
    Except Thrown (CanonicalEvent Payload) := do
  let id ← parseId value.id "CanonicalEvent.id"
  let workspaceId ← parseId value.workspaceId "CanonicalEvent.workspaceId"
  let channelId ← parseId value.channelId "CanonicalEvent.channelId"
  let streamId ← parseId value.streamId "CanonicalEvent.streamId"
  let type ← expectNonEmptyString value.type "CanonicalEvent.type"
  let timestamp ← parseTimestamp dates value.timestamp "CanonicalEvent.timestamp"
  if value.schemaVersion = 0 then
    .error (.schemaValidationError "CanonicalEvent.schemaVersion must be a positive integer")
  else
    return { id, workspaceId, channelId, streamId, seq := value.seq, type, timestamp
             schemaVersion := value.schemaVersion
             payload := value.payload }

theorem expectNonEmptyString_eq (parsed : expectNonEmptyString input name = .ok result) :
    result = input := by
  unfold expectNonEmptyString at parsed
  split at parsed
  · cases parsed
  · cases parsed
    rfl

theorem parseTimestamp_eq {dates : Dates} (parsed : parseTimestamp dates input name = .ok result) :
    result = input := by
  obtain ⟨timestamp, isText, parsed⟩ := bind_ok parsed
  split at parsed
  · cases parsed
  · cases parsed
    exact expectNonEmptyString_eq isText

theorem parseScheduleOccurrence_eq {dates : Dates} {value result : ScheduleOccurrence}
    (parsed : parseScheduleOccurrence dates value = .ok result) : result = value := by
  obtain ⟨id, isId, parsed⟩ := bind_ok parsed
  obtain ⟨scheduleId, isScheduleId, parsed⟩ := bind_ok parsed
  obtain ⟨dueAt, isDueAt, parsed⟩ := bind_ok parsed
  obtain ⟨runId, isRunId, parsed⟩ := bind_ok parsed
  obtain ⟨commandId, isCommandId, parsed⟩ := bind_ok parsed
  obtain ⟨claimedAt, isClaimedAt, parsed⟩ := bind_ok parsed
  obtain ⟨workspaceId, isWorkspaceId, parsed⟩ := bind_ok parsed
  obtain ⟨channelId, isChannelId, parsed⟩ := bind_ok parsed
  cases parsed
  rw [expectNonEmptyString_eq isId, expectNonEmptyString_eq isScheduleId,
    parseTimestamp_eq isDueAt, expectNonEmptyString_eq isRunId,
    expectNonEmptyString_eq isCommandId, parseTimestamp_eq isClaimedAt,
    expectNonEmptyString_eq isWorkspaceId, expectNonEmptyString_eq isChannelId]

end AnnaAgent.EventStore
