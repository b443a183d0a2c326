/-
`SchedulerService` (`scheduler/src/index.ts`).

Each method is the program of its requests: the operations of the scoped store
and the call of `createRun`, at which it suspends, and its accesses to what
its instance keeps in memory (the clock, the set of occurrences in process,
the lease-renewal timers), which the source makes between two suspensions.
-/

import AnnaAgent.Foundation.Program
import AnnaAgent.EventStore.SqliteSchedules

namespace AnnaAgent.Scheduler

open Foundation EventStore

def schedulerStreamId : StreamId := "scheduler"

/-- Payloads of the scheduler's events; the store may hold events of other
writers, with payloads of their own. -/
inductive LifecyclePayload where
  | created (scheduleId : ScheduleId) (trigger : ScheduleTrigger) (dueAt : Timestamp)
  | cancelled (scheduleId : ScheduleId)
  | occurrenceSkipped (scheduleId : ScheduleId) (dueAt : Timestamp) (trigger : ScheduleTrigger)
  | occurrenceClaimed (scheduleId : ScheduleId) (occurrenceId : OccurrenceId) (dueAt : Timestamp)
  | notificationCreated (scheduleId : ScheduleId) (occurrenceId : OccurrenceId) (runId : RunId)
  | other (json : String)
  deriving DecidableEq

abbrev TimerId := Nat

/-- `createRun` names the occurrence it is called for beside its argument. -/
inductive Request where
  | listSchedules
  | createSchedule (schedule : ScheduleRecord)
  | cancelSchedule (scheduleId : ScheduleId) (cancelledAt : Timestamp)
  | hasScheduleTriggerRegistration (trigger : ScheduleTrigger)
  | appendIdempotent (event : CanonicalEvent LifecyclePayload)
  | skipScheduleOccurrence (occurrence : ScheduleOccurrence)
  | listScheduleOccurrences (scheduleId : ScheduleId)
  | claimScheduleOccurrence (occurrence : ScheduleOccurrence)
  | listScheduleNotifications (scheduleId : ScheduleId)
  | claimScheduleOccurrenceRecovery (occurrence : ScheduleOccurrence) (ownerId : String)
  | claimScheduleOccurrenceExecution (occurrence : ScheduleOccurrence) (ownerId : String)
  | recordScheduleNotification (notification : ScheduleNotification)
  | createRun (scheduleId : ScheduleId) (dueAt : Timestamp) (run : ScheduleRun)
  | now
  | processingHas (processingKey : String)
  | processingAdd (processingKey : String)
  | processingDelete (processingKey : String)
  | setInterval (occurrence : ScheduleOccurrence)
  | leaseLost (timer : TimerId)
  | clearInterval (timer : TimerId)

abbrev Request.Response : Request → Type
  | .listSchedules => List ScheduleRecord
  | .createSchedule _ => ScheduleRecord
  | .cancelSchedule _ _ => Option ScheduleRecord
  | .hasScheduleTriggerRegistration _ => Bool
  | .appendIdempotent _ => Bool
  | .skipScheduleOccurrence _ => Bool
  | .listScheduleOccurrences _ => List ScheduleOccurrence
  | .claimScheduleOccurrence _ => ScheduleOccurrenceClaim
  | .listScheduleNotifications _ => List ScheduleNotification
  | .claimScheduleOccurrenceRecovery _ _ => Bool
  | .claimScheduleOccurrenceExecution _ _ => Bool
  | .recordScheduleNotification _ => ScheduleNotification
  | .createRun _ _ _ => Unit
  | .now => Timestamp
  | .processingHas _ => Bool
  | .processingAdd _ => Unit
  | .processingDelete _ => Unit
  | .setInterval _ => TimerId
  | .leaseLost _ => Bool
  | .clearInterval _ => Unit

abbrev Async (α : Type) : Type := Program Request Request.Response Thrown α

abbrev ask (request : Request) : Async request.Response := Program.call request

/-- An instance's constructor arguments and its `recoveryOwnerId`. -/
structure SchedulerService where
  recoveryOwnerId : String
  permissionScopes : List String
  allowedTools : List String

def parseInstant (dates : Dates) (value : Timestamp) (name : String) : Except Thrown Int :=
  match dates.parse value with
  | some instant => .ok instant
  | none => .error (.error s!"{name} must be a parseable timestamp")

def kindText : ScheduleTriggerKind → String
  | .explicit => "explicit"
  | .unresolvedThreadSla => "unresolved_thread_sla"
  | .waitingNodeDeadline => "waiting_node_deadline"
  | .connectorEvent => "connector_event"
  | .monitor => "monitor"

def occurrenceFor (schedule : ScheduleRecord) (dueAt claimedAt : Timestamp) :
    ScheduleOccurrence :=
  { workspaceId := schedule.workspaceId
    channelId := schedule.channelId
    id := "occurrence:" ++ schedule.id ++ ":" ++ dueAt
    scheduleId := schedule.id
    dueAt
    runId := "scheduled-run:" ++ schedule.id ++ ":" ++ dueAt
    commandId := "scheduled-command:" ++ schedule.id ++ ":" ++ dueAt
    claimedAt
    status := none }

namespace SchedulerService

variable (dates : Dates) (service : SchedulerService)

def latestDueAt (schedule : ScheduleRecord) (nowMs : Int) : Except Thrown (Option Timestamp) := do
  let firstDueMs ← parseInstant dates schedule.dueAt "ScheduleRecord.dueAt"
  if nowMs < firstDueMs then return none
  else
    match schedule.recurrence with
    | none => return some schedule.dueAt
    | some recurrence =>
      let elapsedIntervals := (nowMs - firstDueMs) / recurrence.intervalMs
      match dates.toISOString (firstDueMs + elapsedIntervals * recurrence.intervalMs) with
      | some dueAt => return some dueAt
      | none => .error .rangeError

def assertPolicy (schedule : ScheduleRecord) : Except Thrown Unit :=
  let permissionScope := schedule.run.permissionScope
  if permissionScope ∉ service.permissionScopes then
    .error (.error s!"Schedule permission scope is not allowed: {permissionScope}")
  else
    match schedule.run.allowedTools.find? (fun tool => tool ∉ service.allowedTools) with
    | some tool => .error (.error s!"Schedule tool is not allowed: {tool}")
    | none => .ok ()

def appendLifecycleOnce (id : EventId) (type : String) (payload : LifecyclePayload)
    (scope : ScheduleRecord) : Async Unit := do
  let timestamp ← ask .now
  let event ← Program.lift (parseCanonicalEvent dates
    { id
      workspaceId := scope.workspaceId
      channelId := scope.channelId
      streamId := schedulerStreamId
      seq := 0
      type, timestamp
      schemaVersion := 1
      payload })
  let _ ← ask (.appendIdempotent event)
  return ()

def triggerRegistered (trigger : ScheduleTrigger) : Async Bool :=
  if trigger.kind = .connectorEvent ∨ trigger.kind = .monitor then
    ask (.hasScheduleTriggerRegistration trigger)
  else return true

def schedule (record : ScheduleRecord) : Async ScheduleRecord := do
  let parsed ← Program.lift (parseSchedule dates record)
  let _ ← Program.lift (service.assertPolicy parsed)
  let registered ← triggerRegistered parsed.trigger
  if registered = false then
    let kind := kindText parsed.trigger.kind
    .throw (.error s!"Schedule trigger is not registered: {kind}")
  else do
    let schedule ← ask (.createSchedule parsed)
    appendLifecycleOnce dates ("schedule:" ++ schedule.id ++ ":created") "schedule.created"
      (.created schedule.id schedule.trigger schedule.dueAt) schedule
    return schedule

def list : Async (List ScheduleRecord) :=
  ask .listSchedules

def cancel (scheduleId : ScheduleId) : Async (Option ScheduleRecord) := do
  let timestamp ← ask .now
  match ← ask (.cancelSchedule scheduleId timestamp) with
  | none => return none
  | some schedule => do
      appendLifecycleOnce dates ("schedule:" ++ schedule.id ++ ":cancelled") "schedule.cancelled"
        (.cancelled schedule.id) schedule
      return some schedule

/-- The body of the `try` block, with the lease renewal `timer` running. -/
def runOccurrence (now : Timestamp) (schedule : ScheduleRecord) (dueAt : Timestamp)
    (claimedOccurrence : ScheduleOccurrence) (timer : TimerId) : Async Unit := do
  let run ← Program.lift (parseStartRun dates
    { schedule.run with
      commandId := claimedOccurrence.commandId
      runId := claimedOccurrence.runId })
  let _ ← ask (.createRun schedule.id claimedOccurrence.dueAt
    { run with
      trigger := schedule.trigger
      notificationAudience := schedule.run.notificationAudience })
  let leaseLost ← ask (.leaseLost timer)
  if leaseLost then
    .throw (.error "Schedule occurrence execution lease lost")
  else do
    appendLifecycleOnce dates ("schedule:" ++ schedule.id ++ ":occurrence:" ++ dueAt ++ ":claimed")
      "schedule.occurrence.claimed"
      (.occurrenceClaimed schedule.id claimedOccurrence.id dueAt) schedule
    let _ ← ask (.recordScheduleNotification
      { id := "notification:" ++ schedule.id ++ ":" ++ dueAt
        workspaceId := schedule.workspaceId
        channelId := schedule.channelId
        scheduleId := schedule.id
        occurrenceId := claimedOccurrence.id
        runId := claimedOccurrence.runId
        trigger := schedule.trigger
        audience := schedule.run.notificationAudience
        createdAt := now })
    appendLifecycleOnce dates
      ("schedule:" ++ schedule.id ++ ":occurrence:" ++ dueAt ++ ":notification")
      "schedule.notification.created"
      (.notificationCreated schedule.id claimedOccurrence.id claimedOccurrence.runId) schedule

/-- From the check of the occurrences in process to the end of an iteration. -/
def takeUp (now : Timestamp) (schedule : ScheduleRecord) (dueAt : Timestamp)
    (claimedOccurrence : ScheduleOccurrence) : Async Unit := do
  let processingKey := schedule.id ++ ":" ++ claimedOccurrence.dueAt
  let busy ← ask (.processingHas processingKey)
  if busy then return ()
  else do
    let leased ←
      ask (.claimScheduleOccurrenceRecovery claimedOccurrence service.recoveryOwnerId)
    if leased = false then return ()
    else do
      let executing ←
        ask (.claimScheduleOccurrenceExecution claimedOccurrence service.recoveryOwnerId)
      if executing = false then return ()
      else do
        let _ ← ask (.processingAdd processingKey)
        let timer ← ask (.setInterval claimedOccurrence)
        Program.tryFinally (runOccurrence dates now schedule dueAt claimedOccurrence timer) (do
          let _ ← ask (.clearInterval timer)
          let _ ← ask (.processingDelete processingKey)
          return ())

/-- The branch of `recovering && catchUpPolicy === "skip"`. -/
def skipDue (schedule : ScheduleRecord) (dueAt : Timestamp) (occurrence : ScheduleOccurrence) :
    Async Unit := do
  let appendSkipped := appendLifecycleOnce dates
    ("schedule:" ++ schedule.id ++ ":occurrence:" ++ dueAt ++ ":skipped")
    "schedule.occurrence.skipped" (.occurrenceSkipped schedule.id dueAt schedule.trigger) schedule
  let skipped ← ask (.skipScheduleOccurrence occurrence)
  if skipped then appendSkipped
  else do
    let occurrences ← ask (.listScheduleOccurrences schedule.id)
    let existing := occurrences.find? (fun item => item.dueAt = dueAt)
    if existing.bind ScheduleOccurrence.status ≠ some .skipped then return ()
    else appendSkipped

def claimDue (recovering : Bool) (now : Timestamp) (schedule : ScheduleRecord) (dueAt : Timestamp)
    (occurrence : ScheduleOccurrence) : Async Unit := do
  match ← ask (.claimScheduleOccurrence occurrence) with
  | .claimed claimedOccurrence => takeUp dates service now schedule dueAt claimedOccurrence
  | .scheduleInactive => return ()
  | .alreadyClaimed claimedOccurrence =>
    if recovering = false ∨ claimedOccurrence.status = some .skipped then return ()
    else do
      let notifications ← ask (.listScheduleNotifications schedule.id)
      if notifications.any (fun notification =>
          notification.occurrenceId = claimedOccurrence.id) then return ()
      else takeUp dates service now schedule dueAt claimedOccurrence

/-- One iteration of the loop. -/
def processSchedule (recovering : Bool) (now : Timestamp) (nowMs : Int)
    (schedule : ScheduleRecord) : Async Unit :=
  if schedule.status ≠ .active then return ()
  else do
    match ← Program.lift (latestDueAt dates schedule nowMs) with
    | none => return ()
    | some dueAt =>
      let occurrence := occurrenceFor schedule dueAt now
      if recovering = true ∧ schedule.catchUpPolicy = .skip then
        skipDue dates schedule dueAt occurrence
      else claimDue dates service recovering now schedule dueAt occurrence

def processDue (recovering : Bool) : Async Unit := do
  let now ← ask .now
  let nowMs ← Program.lift (parseInstant dates now "Scheduler.now")
  let schedules ← ask .listSchedules
  Program.forEach schedules (processSchedule dates service recovering now nowMs)

def tick : Async Unit := processDue dates service false

def recover : Async Unit := processDue dates service true

end SchedulerService

end AnnaAgent.Scheduler
