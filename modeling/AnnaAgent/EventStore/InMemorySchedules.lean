/-
The schedule operations of `InMemoryScopedChannelStore`
(`event-store/src/index.ts`).

An occurrence is kept twice: under its identity and under its due instant.
`now` is the reading of `Date.now()`.  Two records have the same stable text
when they are equal.
-/

import AnnaAgent.EventStore.InMemory

namespace AnnaAgent.EventStore

open Foundation
open SqliteScopedChannelStore (assertScheduleScope)

namespace InMemoryEventStore

variable (dates : Dates) (localeCompare : String → String → Ordering) (scope : ChannelScope)
  (store : InMemoryEventStore)

/-- `[...map].filter(([key]) => key.startsWith(scopedPrefix(scope, kind)))`. -/
def scan {Value : Type} (map : OrderedMap String Value) (kind : String) : List (String × Value) :=
  map.entries.filter (fun entry => startsWith entry.1 (scopedPrefix scope kind))

def createSchedule (schedule : ScheduleRecord) :
    Except Thrown (ScheduleRecord × InMemoryEventStore) := do
  let candidate ← parseSchedule dates schedule
  let _ ← assertScheduleScope scope candidate.workspaceId candidate.channelId
  let key := scopedKey scope "schedule" candidate.id
  match store.schedules.get? key with
  | some existing =>
    if existing = candidate then .ok (existing, store) else .error .scheduleConflictError
  | none => .ok (candidate, { store with schedules := store.schedules.set key candidate })

def listSchedules : List ScheduleRecord :=
  ((scan scope store.schedules "schedule").map Prod.snd).insertionSort (fun left right =>
    localeCompare left.id right.id ≠ .gt)

def cancelSchedule (scheduleId : ScheduleId) :
    Except Thrown (Option ScheduleRecord × InMemoryEventStore) :=
  let key := scopedKey scope "schedule" scheduleId
  match store.schedules.get? key with
  | none => .ok (none, store)
  | some existing =>
    let cancelled := { existing with status := .cancelled }
    .ok (some cancelled, { store with schedules := store.schedules.set key cancelled })

/-- `schedule?.status === "active"`. -/
def scheduleActive (scheduleId : ScheduleId) : Bool :=
  match store.schedules.get? (scopedKey scope "schedule" scheduleId) with
  | some schedule => decide (schedule.status = .active)
  | none => false

def occurrenceKey (occurrenceId : OccurrenceId) : String :=
  scopedKey scope "schedule-occurrence" occurrenceId

def claimKey (scheduleId : ScheduleId) (dueAt : Timestamp) : String :=
  scopedKey scope "schedule-occurrence-claim" (Json.arr [.str scheduleId, .str dueAt]).stableJson

def recoveryKey (occurrenceId : OccurrenceId) : String :=
  scopedKey scope "schedule-occurrence-recovery" occurrenceId

def conflictingRun (candidate : ScheduleOccurrence) : Bool :=
  (scan scope store.occurrences "schedule-occurrence").any (fun entry =>
    entry.2.runId = candidate.runId ∨ entry.2.commandId = candidate.commandId)

/-- `occurrences.set(idKey, candidate)` and `occurrenceClaims.set(claimKey, candidate)`. -/
def setOccurrence (candidate : ScheduleOccurrence) : InMemoryEventStore :=
  { store with
    occurrences := store.occurrences.set (occurrenceKey scope candidate.id) candidate
    occurrenceClaims :=
      store.occurrenceClaims.set (claimKey scope candidate.scheduleId candidate.dueAt) candidate }

def claimScheduleOccurrence (occurrence : ScheduleOccurrence) :
    Except Thrown (ScheduleOccurrenceClaim × InMemoryEventStore) := do
  let candidate ← parseScheduleOccurrence dates occurrence
  let _ ← assertScheduleScope scope candidate.workspaceId candidate.channelId
  if store.scheduleActive scope candidate.scheduleId = false then .ok (.scheduleInactive, store)
  else
    match store.occurrenceClaims.get? (claimKey scope candidate.scheduleId candidate.dueAt) with
    | some claimed => .ok (.alreadyClaimed claimed, store)
    | none =>
      if store.occurrences.has (occurrenceKey scope candidate.id) then
        .error .scheduleConflictError
      else if store.conflictingRun scope candidate then .error .scheduleConflictError
      else .ok (.claimed candidate, store.setOccurrence scope candidate)

def skipScheduleOccurrence (occurrence : ScheduleOccurrence) :
    Except Thrown (Bool × InMemoryEventStore) := do
  let candidate ← parseScheduleOccurrence dates { occurrence with status := some .skipped }
  let _ ← assertScheduleScope scope candidate.workspaceId candidate.channelId
  if store.scheduleActive scope candidate.scheduleId = false then .ok (false, store)
  else if store.occurrenceClaims.has (claimKey scope candidate.scheduleId candidate.dueAt) then
    .ok (false, store)
  else if store.occurrences.has (occurrenceKey scope candidate.id) then
    .error .scheduleConflictError
  else .ok (true, store.setOccurrence scope candidate)

def claimScheduleOccurrenceRecovery (now : Int) (occurrence : ScheduleOccurrence)
    (ownerId : String) : Except Thrown (Bool × InMemoryEventStore) := do
  let candidate ← parseScheduleOccurrence dates occurrence
  let _ ← assertScheduleScope scope candidate.workspaceId candidate.channelId
  let key := recoveryKey scope candidate.id
  if (store.occurrenceRecoveryLeases.get? key).any (fun existing =>
      decide (now - existing.claimedAt < 60000)) then .ok (false, store)
  else
    .ok (true, { store with
      occurrenceRecoveryLeases := store.occurrenceRecoveryLeases.set key
        { claimedAt := now, ownerId } })

def renewScheduleOccurrenceRecovery (now : Int) (occurrence : ScheduleOccurrence)
    (ownerId : String) : Except Thrown (Bool × InMemoryEventStore) := do
  let candidate ← parseScheduleOccurrence dates occurrence
  let _ ← assertScheduleScope scope candidate.workspaceId candidate.channelId
  let key := recoveryKey scope candidate.id
  if (store.occurrenceRecoveryLeases.get? key).map InMemoryRecoveryLease.ownerId ≠ some ownerId then
    .ok (false, store)
  else
    .ok (true, { store with
      occurrenceRecoveryLeases := store.occurrenceRecoveryLeases.set key
        { claimedAt := now, ownerId } })

def claimScheduleOccurrenceExecution (now : Int) (occurrence : ScheduleOccurrence)
    (ownerId : String) : Except Thrown (Bool × InMemoryEventStore) := do
  let candidate ← parseScheduleOccurrence dates occurrence
  let _ ← assertScheduleScope scope candidate.workspaceId candidate.channelId
  match store.occurrenceRecoveryLeases.get? (recoveryKey scope candidate.id) with
  | none => .ok (false, store)
  | some lease =>
    if lease.ownerId ≠ ownerId ∨ 60000 ≤ now - lease.claimedAt then .ok (false, store)
    else
      match store.occurrences.get? (occurrenceKey scope candidate.id) with
      | none => .ok (false, store)
      | some existing =>
        if existing.status = some .started ∨ existing.status = some .skipped then
          .ok (false, store)
        else
          .ok (true, { store with
            occurrences := store.occurrences.set (occurrenceKey scope candidate.id)
              { existing with status := some .started } })

def listScheduleOccurrences (scheduleId : ScheduleId) : List ScheduleOccurrence :=
  (((scan scope store.occurrences "schedule-occurrence").filter (fun entry =>
    entry.2.scheduleId = scheduleId)).map Prod.snd).insertionSort (fun left right =>
      localeCompare left.dueAt right.dueAt ≠ .gt)

def recordScheduleNotification (notification : ScheduleNotification) :
    Except Thrown (ScheduleNotification × InMemoryEventStore) := do
  let candidate ← parseScheduleNotification dates notification
  let _ ← assertScheduleScope scope candidate.workspaceId candidate.channelId
  match store.occurrences.get? (occurrenceKey scope candidate.occurrenceId) with
  | none => .error .scheduleNotificationConflictError
  | some occurrence =>
    if occurrence.scheduleId ≠ candidate.scheduleId ∨ occurrence.runId ≠ candidate.runId then
      .error .scheduleNotificationConflictError
    else
      match store.schedules.get? (scopedKey scope "schedule" candidate.scheduleId) with
      | none => .error .scheduleNotificationConflictError
      | some schedule =>
        if schedule.trigger ≠ candidate.trigger ∨
            schedule.run.notificationAudience ≠ candidate.audience then
          .error .scheduleNotificationConflictError
        else
          let key := scopedKey scope "schedule-notification" candidate.id
          match store.notifications.get? key with
          | some existing =>
            if existing = candidate then .ok (existing, store)
            else .error .scheduleNotificationConflictError
          | none =>
            match (scan scope store.notifications "schedule-notification").find? (fun entry =>
                entry.2.occurrenceId = candidate.occurrenceId) with
            | some (_, stored) =>
              if stored = candidate then .ok (stored, store)
              else .error .scheduleNotificationConflictError
            | none =>
              .ok (candidate, { store with
                notifications := store.notifications.set key candidate })

def listScheduleNotifications (scheduleId : ScheduleId) : List ScheduleNotification :=
  (((scan scope store.notifications "schedule-notification").filter (fun entry =>
    entry.2.scheduleId = scheduleId)).map Prod.snd).insertionSort (fun left right =>
      localeCompare left.createdAt right.createdAt ≠ .gt)

def triggerKey (trigger : ScheduleTrigger) : String :=
  scopedKey scope "schedule-trigger-registration" trigger.json.stableJson

def registerScheduleTrigger (trigger : ScheduleTrigger) : InMemoryEventStore :=
  { store with
    triggerRegistrations := store.triggerRegistrations.set (triggerKey scope trigger) trigger }

def hasScheduleTriggerRegistration (trigger : ScheduleTrigger) : Bool :=
  store.triggerRegistrations.has (triggerKey scope trigger)

end InMemoryEventStore

inductive ScheduleCall where
  | createSchedule (schedule : ScheduleRecord)
  | listSchedules
  | cancelSchedule (scheduleId : ScheduleId)
  | claimScheduleOccurrence (occurrence : ScheduleOccurrence)
  | skipScheduleOccurrence (occurrence : ScheduleOccurrence)
  | claimScheduleOccurrenceRecovery (now : Int) (occurrence : ScheduleOccurrence) (ownerId : String)
  | renewScheduleOccurrenceRecovery (now : Int) (occurrence : ScheduleOccurrence) (ownerId : String)
  | claimScheduleOccurrenceExecution (now : Int) (occurrence : ScheduleOccurrence)
      (ownerId : String)
  | recordScheduleNotification (notification : ScheduleNotification)
  | listScheduleOccurrences (scheduleId : ScheduleId)
  | listScheduleNotifications (scheduleId : ScheduleId)
  | registerScheduleTrigger (trigger : ScheduleTrigger)
  | hasScheduleTriggerRegistration (trigger : ScheduleTrigger)

abbrev ScheduleCall.Answer : ScheduleCall → Type
  | .createSchedule _ => ScheduleRecord
  | .listSchedules => List ScheduleRecord
  | .cancelSchedule _ => Option ScheduleRecord
  | .claimScheduleOccurrence _ => ScheduleOccurrenceClaim
  | .skipScheduleOccurrence _ => Bool
  | .claimScheduleOccurrenceRecovery _ _ _ => Bool
  | .renewScheduleOccurrenceRecovery _ _ _ => Bool
  | .claimScheduleOccurrenceExecution _ _ _ => Bool
  | .recordScheduleNotification _ => ScheduleNotification
  | .listScheduleOccurrences _ => List ScheduleOccurrence
  | .listScheduleNotifications _ => List ScheduleNotification
  | .registerScheduleTrigger _ => Unit
  | .hasScheduleTriggerRegistration _ => Bool

def InMemoryEventStore.performSchedule (dates : Dates) (localeCompare : String → String → Ordering)
    (scope : ChannelScope) (store : InMemoryEventStore) :
    (call : ScheduleCall) → Except Thrown (call.Answer × InMemoryEventStore)
  | .createSchedule schedule => store.createSchedule dates scope schedule
  | .listSchedules => .ok (store.listSchedules localeCompare scope, store)
  | .cancelSchedule scheduleId => store.cancelSchedule scope scheduleId
  | .claimScheduleOccurrence occurrence => store.claimScheduleOccurrence dates scope occurrence
  | .skipScheduleOccurrence occurrence => store.skipScheduleOccurrence dates scope occurrence
  | .claimScheduleOccurrenceRecovery now occurrence ownerId =>
    store.claimScheduleOccurrenceRecovery dates scope now occurrence ownerId
  | .renewScheduleOccurrenceRecovery now occurrence ownerId =>
    store.renewScheduleOccurrenceRecovery dates scope now occurrence ownerId
  | .claimScheduleOccurrenceExecution now occurrence ownerId =>
    store.claimScheduleOccurrenceExecution dates scope now occurrence ownerId
  | .recordScheduleNotification notification =>
    store.recordScheduleNotification dates scope notification
  | .listScheduleOccurrences scheduleId =>
    .ok (store.listScheduleOccurrences localeCompare scope scheduleId, store)
  | .listScheduleNotifications scheduleId =>
    .ok (store.listScheduleNotifications localeCompare scope scheduleId, store)
  | .registerScheduleTrigger trigger => .ok ((), store.registerScheduleTrigger scope trigger)
  | .hasScheduleTriggerRegistration trigger =>
    .ok (store.hasScheduleTriggerRegistration scope trigger, store)

def SqliteScopedChannelStore.performSchedule {Payload : Type} (dates : Dates)
    (scope : ChannelScope) (store : SqliteScopedChannelStore Payload) :
    (call : ScheduleCall) → Except Thrown (call.Answer × SqliteScopedChannelStore Payload)
  | .createSchedule schedule => store.createSchedule dates scope schedule
  | .listSchedules => .ok (store.listSchedules, store)
  | .cancelSchedule scheduleId => store.cancelSchedule scheduleId
  | .claimScheduleOccurrence occurrence => store.claimScheduleOccurrence dates scope occurrence
  | .skipScheduleOccurrence occurrence => store.skipScheduleOccurrence dates scope occurrence
  | .claimScheduleOccurrenceRecovery now occurrence ownerId =>
    store.claimScheduleOccurrenceRecovery dates scope now occurrence ownerId
  | .renewScheduleOccurrenceRecovery now occurrence ownerId =>
    store.renewScheduleOccurrenceRecovery dates scope now occurrence ownerId
  | .claimScheduleOccurrenceExecution now occurrence ownerId =>
    store.claimScheduleOccurrenceExecution dates scope now occurrence ownerId
  | .recordScheduleNotification notification =>
    store.recordScheduleNotification dates scope notification
  | .listScheduleOccurrences scheduleId => .ok (store.listScheduleOccurrences scheduleId, store)
  | .listScheduleNotifications scheduleId =>
    .ok (store.listScheduleNotifications scheduleId, store)
  | .registerScheduleTrigger trigger => .ok ((), store.registerScheduleTrigger trigger)
  | .hasScheduleTriggerRegistration trigger =>
    .ok (store.hasScheduleTriggerRegistration trigger, store)

end AnnaAgent.EventStore
