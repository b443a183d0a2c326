/-
The schedule operations of `SqliteScopedChannelStore`
(`event-store/src/sqlite-event-store.ts`).

The tables hold the rows of one scope.  Every operation is one transaction, so
it is a function from the stored rows to a result and the new rows, or to what
it throws, and then the rows stay as they were.  `now` is the reading of
SQLite's own clock in milliseconds.  A stored row is what a parser returned,
and reading it parses it to itself.
-/

import Mathlib.Data.List.Sort
import AnnaAgent.Foundation.Table
import AnnaAgent.EventStore.Contracts

namespace AnnaAgent.EventStore

open Foundation

/-- The table `schedule_occurrences` with its unique indexes. -/
structure ScheduleOccurrences where
  table : Table OccurrenceId ScheduleOccurrence ScheduleOccurrence.id
  due : table.UniqueOn (fun row => (row.scheduleId, row.dueAt))
  runs : table.UniqueOn ScheduleOccurrence.runId
  commands : table.UniqueOn ScheduleOccurrence.commandId

namespace ScheduleOccurrences

def empty : ScheduleOccurrences :=
  { table := .empty
    due := Table.uniqueOn_empty
    runs := Table.uniqueOn_empty
    commands := Table.uniqueOn_empty }

/-- `INSERT`; `none` when it violates the primary key or a unique index. -/
def insert? (occurrences : ScheduleOccurrences) (row : ScheduleOccurrence) :
    Option ScheduleOccurrences :=
  if fresh : ∀ other ∈ occurrences.table.rows,
      (other.scheduleId, other.dueAt) ≠ (row.scheduleId, row.dueAt) ∧
        other.runId ≠ row.runId ∧ other.commandId ≠ row.commandId then
    match inserted : occurrences.table.insert? row with
    | some table => some
        { table := table
          due := occurrences.due.insert? inserted (fun other member => (fresh other member).1)
          runs := occurrences.runs.insert? inserted (fun other member => (fresh other member).2.1)
          commands :=
            occurrences.commands.insert? inserted (fun other member => (fresh other member).2.2) }
    | none => none
  else none

def setStatus (occurrences : ScheduleOccurrences) (id : OccurrenceId) (status : OccurrenceStatus) :
    ScheduleOccurrences :=
  { table := occurrences.table.update (fun row => row.id = id)
      (fun row => { row with status := some status }) (fun _ => rfl)
    due := occurrences.due.update _ _ _ (fun _ => rfl)
    runs := occurrences.runs.update _ _ _ (fun _ => rfl)
    commands := occurrences.commands.update _ _ _ (fun _ => rfl) }

end ScheduleOccurrences

structure RecoveryLease where
  occurrenceId : OccurrenceId
  claimedAt : Int
  ownerId : String

structure SqliteScopedChannelStore (Payload : Type) where
  schedules : Table ScheduleId ScheduleRecord ScheduleRecord.id
  scheduleOccurrences : ScheduleOccurrences
  scheduleOccurrenceRecoveryLeases : Table OccurrenceId RecoveryLease RecoveryLease.occurrenceId
  scheduleNotifications : Table NotificationId ScheduleNotification ScheduleNotification.id
  scheduleTriggerRegistrations : List ScheduleTrigger
  events : Table EventId (CanonicalEvent Payload) CanonicalEvent.id

/-- `finalEventTypes` of `lifecycle.ts`. -/
def isTerminalEvent (type : String) : Bool :=
  decide (type ∈ ["run.completed", "run.failed", "run.timed_out", "run.cancelled"])

namespace SqliteScopedChannelStore

variable {Payload : Type}

def empty : SqliteScopedChannelStore Payload :=
  { schedules := .empty
    scheduleOccurrences := .empty
    scheduleOccurrenceRecoveryLeases := .empty
    scheduleNotifications := .empty
    scheduleTriggerRegistrations := []
    events := .empty }

def assertScheduleScope (scope : ChannelScope) (workspaceId : WorkspaceId)
    (channelId : ChannelId) : Except Thrown Unit :=
  if workspaceId ≠ scope.workspaceId ∨ channelId ≠ scope.channelId then
    .error .eventScopeMismatchError
  else .ok ()

variable (dates : Dates) (scope : ChannelScope) (store : SqliteScopedChannelStore Payload)

def createSchedule (schedule : ScheduleRecord) :
    Except Thrown (ScheduleRecord × SqliteScopedChannelStore Payload) := do
  let candidate ← parseSchedule dates schedule
  let _ ← assertScheduleScope scope candidate.workspaceId candidate.channelId
  match store.schedules.find? candidate.id with
  | some stored =>
    if stored = candidate then .ok (stored, store) else .error .scheduleConflictError
  | none =>
    match store.schedules.insert? candidate with
    | some schedules => .ok (candidate, { store with schedules })
    | none => .error .sqliteConstraintError

def listSchedules : List ScheduleRecord :=
  store.schedules.rows.insertionSort (fun left right => left.id ≤ right.id)

def cancelSchedule (scheduleId : ScheduleId) :
    Except Thrown (Option ScheduleRecord × SqliteScopedChannelStore Payload) :=
  match store.schedules.find? scheduleId with
  | none => .ok (none, store)
  | some row =>
    let schedules := store.schedules.update (fun row => row.id = scheduleId)
      (fun row => { row with status := .cancelled }) (fun _ => rfl)
    .ok (some { row with status := .cancelled }, { store with schedules })

/-- `schedule !== undefined && schedule.status === "active"`. -/
def scheduleActive (scheduleId : ScheduleId) : Bool :=
  match store.schedules.find? scheduleId with
  | some schedule => decide (schedule.status = .active)
  | none => false

def findDue (scheduleId : ScheduleId) (dueAt : Timestamp) : Option ScheduleOccurrence :=
  store.scheduleOccurrences.table.rows.find? (fun row =>
    row.scheduleId = scheduleId ∧ row.dueAt = dueAt)

def conflictingIdentity (candidate : ScheduleOccurrence) : Bool :=
  store.scheduleOccurrences.table.rows.any (fun row =>
    row.id = candidate.id ∨ row.runId = candidate.runId ∨ row.commandId = candidate.commandId)

/-- The part that `claimScheduleOccurrence` and `skipScheduleOccurrence`
share. -/
def insertOccurrence (candidate : ScheduleOccurrence) :
    Except Thrown (SqliteScopedChannelStore Payload) :=
  if store.conflictingIdentity candidate then .error .scheduleConflictError
  else
    match store.scheduleOccurrences.insert? candidate with
    | some scheduleOccurrences => .ok { store with scheduleOccurrences }
    | none => .error .sqliteConstraintError

def claimScheduleOccurrence (occurrence : ScheduleOccurrence) :
    Except Thrown (ScheduleOccurrenceClaim × SqliteScopedChannelStore Payload) := do
  let candidate ← parseScheduleOccurrence dates occurrence
  let _ ← assertScheduleScope scope candidate.workspaceId candidate.channelId
  if store.scheduleActive candidate.scheduleId = false then .ok (.scheduleInactive, store)
  else
    match store.findDue candidate.scheduleId candidate.dueAt with
    | some stored => .ok (.alreadyClaimed stored, store)
    | none => do
        let store' ← store.insertOccurrence candidate
        return (.claimed candidate, store')

def skipScheduleOccurrence (occurrence : ScheduleOccurrence) :
    Except Thrown (Bool × SqliteScopedChannelStore Payload) := do
  let candidate ← parseScheduleOccurrence dates { occurrence with status := some .skipped }
  let _ ← assertScheduleScope scope candidate.workspaceId candidate.channelId
  if store.scheduleActive candidate.scheduleId = false then .ok (false, store)
  else
    match store.findDue candidate.scheduleId candidate.dueAt with
    | some _ => .ok (false, store)
    | none => do
        let store' ← store.insertOccurrence candidate
        return (true, store')

def claimScheduleOccurrenceRecovery (now : Int) (occurrence : ScheduleOccurrence)
    (ownerId : String) : Except Thrown (Bool × SqliteScopedChannelStore Payload) := do
  let candidate ← parseScheduleOccurrence dates occurrence
  let _ ← assertScheduleScope scope candidate.workspaceId candidate.channelId
  match store.scheduleOccurrenceRecoveryLeases.find? candidate.id with
  | some lease =>
    if now - lease.claimedAt < 60000 then .ok (false, store)
    else
      let leases := store.scheduleOccurrenceRecoveryLeases.update
        (fun lease => lease.occurrenceId = candidate.id)
        (fun lease => { lease with claimedAt := now, ownerId }) (fun _ => rfl)
      .ok (true, { store with scheduleOccurrenceRecoveryLeases := leases })
  | none =>
    match store.scheduleOccurrenceRecoveryLeases.insert?
        { occurrenceId := candidate.id, claimedAt := now, ownerId } with
    | some leases => .ok (true, { store with scheduleOccurrenceRecoveryLeases := leases })
    | none => .error .sqliteConstraintError

def renewScheduleOccurrenceRecovery (now : Int) (occurrence : ScheduleOccurrence)
    (ownerId : String) : Except Thrown (Bool × SqliteScopedChannelStore Payload) := do
  let candidate ← parseScheduleOccurrence dates occurrence
  let _ ← assertScheduleScope scope candidate.workspaceId candidate.channelId
  let mine := fun lease : RecoveryLease =>
    lease.occurrenceId = candidate.id ∧ lease.ownerId = ownerId
  let leases := store.scheduleOccurrenceRecoveryLeases.update mine
    (fun lease => { lease with claimedAt := now }) (fun _ => rfl)
  let changes := (store.scheduleOccurrenceRecoveryLeases.select mine).length
  return (decide (changes = 1), { store with scheduleOccurrenceRecoveryLeases := leases })

def claimScheduleOccurrenceExecution (now : Int) (occurrence : ScheduleOccurrence)
    (ownerId : String) : Except Thrown (Bool × SqliteScopedChannelStore Payload) := do
  let candidate ← parseScheduleOccurrence dates occurrence
  let _ ← assertScheduleScope scope candidate.workspaceId candidate.channelId
  match store.scheduleOccurrenceRecoveryLeases.find? candidate.id with
  | none => .ok (false, store)
  | some lease =>
    if lease.ownerId ≠ ownerId ∨ 60000 ≤ now - lease.claimedAt then .ok (false, store)
    else
      match store.scheduleOccurrences.table.find? candidate.id with
      | none => .ok (false, store)
      | some existing =>
        if existing.status = some .started ∨ existing.status = some .skipped then
          .ok (false, store)
        else
          .ok (true, { store with
            scheduleOccurrences := store.scheduleOccurrences.setStatus candidate.id .started })

def listScheduleOccurrences (scheduleId : ScheduleId) : List ScheduleOccurrence :=
  (store.scheduleOccurrences.table.select (fun row => row.scheduleId = scheduleId)).insertionSort
    (fun left right => left.dueAt ≤ right.dueAt)

def recordScheduleNotification (notification : ScheduleNotification) :
    Except Thrown (ScheduleNotification × SqliteScopedChannelStore Payload) := do
  let candidate ← parseScheduleNotification dates notification
  let _ ← assertScheduleScope scope candidate.workspaceId candidate.channelId
  match store.scheduleOccurrences.table.find? candidate.occurrenceId with
  | none => .error .scheduleNotificationConflictError
  | some occurrence =>
    if occurrence.scheduleId ≠ candidate.scheduleId ∨ occurrence.runId ≠ candidate.runId then
      .error .scheduleNotificationConflictError
    else
      match store.schedules.find? candidate.scheduleId with
      | none => .error .scheduleNotificationConflictError
      | some stored =>
        if stored.trigger ≠ candidate.trigger ∨
            stored.run.notificationAudience ≠ candidate.audience then
          .error .scheduleNotificationConflictError
        else
          match store.scheduleNotifications.rows.find? (fun row =>
              row.id = candidate.id ∨ row.occurrenceId = candidate.occurrenceId) with
          | some existing =>
            if existing = candidate then .ok (existing, store)
            else .error .scheduleNotificationConflictError
          | none =>
            match store.scheduleNotifications.insert? candidate with
            | some scheduleNotifications =>
              .ok (candidate, { store with scheduleNotifications })
            | none => .error .sqliteConstraintError

def listScheduleNotifications (scheduleId : ScheduleId) : List ScheduleNotification :=
  (store.scheduleNotifications.select (fun row => row.scheduleId = scheduleId)).insertionSort
    (fun left right => left.id ≤ right.id)

def registerScheduleTrigger (trigger : ScheduleTrigger) : SqliteScopedChannelStore Payload :=
  if trigger ∈ store.scheduleTriggerRegistrations then store
  else
    { store with
      scheduleTriggerRegistrations := store.scheduleTriggerRegistrations ++ [trigger] }

def hasScheduleTriggerRegistration (trigger : ScheduleTrigger) : Bool :=
  decide (trigger ∈ store.scheduleTriggerRegistrations)

def streamVersion (streamId : StreamId) : Nat :=
  (store.events.select (fun event => event.streamId = streamId)).length

def streamTerminated (streamId : StreamId) : Bool :=
  store.events.rows.any (fun event =>
    decide (event.streamId = streamId) && isTerminalEvent event.type)

def appendIdempotent [DecidableEq Payload] (event : CanonicalEvent Payload) :
    Except Thrown (Bool × SqliteScopedChannelStore Payload) := do
  let candidate ← parseCanonicalEvent dates event
  let _ ← assertScheduleScope scope candidate.workspaceId candidate.channelId
  match store.events.find? candidate.id with
  | some stored =>
    if { stored with seq := 0, timestamp := "" } = { candidate with seq := 0, timestamp := "" }
    then .ok (false, store)
    else .error .eventConflictError
  | none =>
    if store.streamTerminated candidate.streamId then .error .terminalEventConflictError
    else
      match store.events.insert?
          { candidate with seq := store.streamVersion candidate.streamId } with
      | some events => .ok (true, { store with events })
      | none => .error .sqliteConstraintError

end SqliteScopedChannelStore

end AnnaAgent.EventStore
