/-
Where the schedule operations of the two stores agree.

The maps of one scope hold the rows of its tables.  The copy that an
occurrence has under its due instant is that row up to its status: starting the
occurrence does not reach it.
-/

import AnnaAgent.EventStore.Conformance
import AnnaAgent.EventStore.InMemorySchedules
import AnnaAgent.EventStore.OccurrenceLifecycle

namespace AnnaAgent.EventStore

open Foundation SqliteScopedChannelStore OrderedMap Table
open InMemoryEventStore (occurrenceKey claimKey recoveryKey triggerKey scan)

variable {Payload : Type}

def scheduleEntry (scope : ChannelScope) (schedule : ScheduleRecord) : String × ScheduleRecord :=
  (scopedKey scope "schedule" schedule.id, schedule)

def occurrenceEntry (scope : ChannelScope) (occurrence : ScheduleOccurrence) :
    String × ScheduleOccurrence :=
  (occurrenceKey scope occurrence.id, occurrence)

def notificationEntry (scope : ChannelScope) (notification : ScheduleNotification) :
    String × ScheduleNotification :=
  (scopedKey scope "schedule-notification" notification.id, notification)

def RecoveryLease.inMemory (lease : RecoveryLease) : InMemoryRecoveryLease :=
  { claimedAt := lease.claimedAt
    ownerId := lease.ownerId }

def ScheduleOccurrence.unmarked (occurrence : ScheduleOccurrence) : ScheduleOccurrence :=
  { occurrence with status := none }

structure SimulatesSchedules (scope : ChannelScope) (memory : InMemoryEventStore)
    (database : SqliteScopedChannelStore Payload) : Prop where
  schedules : memory.schedules.entries = database.schedules.rows.map (scheduleEntry scope)
  occurrences : memory.occurrences.entries =
    database.scheduleOccurrences.table.rows.map (occurrenceEntry scope)
  claims : ∀ scheduleId dueAt,
    (memory.occurrenceClaims.get? (claimKey scope scheduleId dueAt)).map
        ScheduleOccurrence.unmarked =
      (database.findDue scheduleId dueAt).map ScheduleOccurrence.unmarked
  leases : ∀ occurrenceId,
    memory.occurrenceRecoveryLeases.get? (recoveryKey scope occurrenceId) =
      (database.scheduleOccurrenceRecoveryLeases.find? occurrenceId).map RecoveryLease.inMemory
  notifications : memory.notifications.entries =
    database.scheduleNotifications.rows.map (notificationEntry scope)
  notified : database.scheduleNotifications.UniqueOn ScheduleNotification.occurrenceId
  registrations : ∀ trigger, memory.hasScheduleTriggerRegistration scope trigger =
    database.hasScheduleTriggerRegistration trigger

theorem simulatesSchedules_empty (scope : ChannelScope) :
    SimulatesSchedules scope .empty (.empty : SqliteScopedChannelStore Payload) :=
  { schedules := rfl
    occurrences := rfl
    claims := fun _ _ => rfl
    leases := fun _ => rfl
    notifications := rfl
    notified := uniqueOn_empty
    registrations := fun _ => rfl }

theorem claimKey_inj {scope : ChannelScope} {first second : ScheduleId}
    {firstDue secondDue : Timestamp} :
    claimKey scope first firstDue = claimKey scope second secondDue ↔
      first = second ∧ firstDue = secondDue := by
  unfold claimKey
  rw [scopedKey_inj, Json.stableJson_eq_iff]
  simp only [Json.Same, Json.sortKeys, Json.sortItems, Json.arr.injEq, List.cons.injEq,
    Json.str.injEq, and_true, true_and]

theorem recoveryKey_inj {scope : ChannelScope} {first second : OccurrenceId} :
    recoveryKey scope first = recoveryKey scope second ↔ first = second := by
  unfold recoveryKey
  rw [scopedKey_inj]
  simp only [true_and]

theorem triggerKey_inj {scope : ChannelScope} {first second : ScheduleTrigger} :
    triggerKey scope first = triggerKey scope second ↔ first = second := by
  unfold triggerKey
  rw [scopedKey_inj, Json.stableJson_eq_iff]
  constructor
  · intro same
    exact ScheduleTrigger.json_inj same.2.2
  · intro same
    rw [same]
    exact ⟨rfl, rfl, rfl⟩

section Lookups

variable {scope : ChannelScope} {memory : InMemoryEventStore}
  {database : SqliteScopedChannelStore Payload}

theorem find_schedule (simulates : SimulatesSchedules scope memory database)
    (scheduleId : ScheduleId) :
    memory.schedules.get? (scopedKey scope "schedule" scheduleId) =
      database.schedules.find? scheduleId := by
  rw [get?_of_rows simulates.schedules, Option.map_id']
  refine congrArg (fun p => database.schedules.rows.find? p) ?_
  funext row
  rw [decide_eq_decide, scopedKey_inj]
  exact ⟨fun same => same.2.2, fun same => ⟨rfl, rfl, same⟩⟩

theorem find_occurrence (simulates : SimulatesSchedules scope memory database)
    (occurrenceId : OccurrenceId) :
    memory.occurrences.get? (occurrenceKey scope occurrenceId) =
      database.scheduleOccurrences.table.find? occurrenceId := by
  rw [get?_of_rows simulates.occurrences, Option.map_id']
  refine congrArg (fun p => database.scheduleOccurrences.table.rows.find? p) ?_
  funext row
  unfold occurrenceKey
  rw [decide_eq_decide, scopedKey_inj]
  exact ⟨fun same => same.2.2, fun same => ⟨rfl, rfl, same⟩⟩

theorem find_notification (simulates : SimulatesSchedules scope memory database)
    (notificationId : NotificationId) :
    memory.notifications.get? (scopedKey scope "schedule-notification" notificationId) =
      database.scheduleNotifications.find? notificationId := by
  rw [get?_of_rows simulates.notifications, Option.map_id']
  refine congrArg (fun p => database.scheduleNotifications.rows.find? p) ?_
  funext row
  rw [decide_eq_decide, scopedKey_inj]
  exact ⟨fun same => same.2.2, fun same => ⟨rfl, rfl, same⟩⟩

theorem scan_rows {Value : Type} {map : OrderedMap String Value} {kind : String}
    {rows : List Value} {id : Value → String}
    (isMap : map.entries = rows.map (fun row => (scopedKey scope kind (id row), row))) :
    scan scope map kind = map.entries := by
  unfold InMemoryEventStore.scan
  rw [List.filter_eq_self, isMap]
  intro entry member
  obtain ⟨row, _, isEntry⟩ := List.mem_map.1 member
  rw [← isEntry]
  exact startsWith_scopedPrefix.2 ⟨rfl, rfl⟩

section

variable (simulates : SimulatesSchedules scope memory database)

include simulates

theorem scheduleActive_agrees (scheduleId : ScheduleId) :
    memory.scheduleActive scope scheduleId = database.scheduleActive scheduleId := by
  have known := find_schedule simulates scheduleId
  unfold InMemoryEventStore.scheduleActive scheduleActive
  cases found : database.schedules.find? scheduleId with
  | none | some schedule =>
    rw [found] at known
    rw [known]

theorem conflictingRun_agrees (candidate : ScheduleOccurrence) :
    memory.conflictingRun scope candidate =
      database.scheduleOccurrences.table.rows.any (fun row =>
        row.runId = candidate.runId ∨ row.commandId = candidate.commandId) := by
  unfold InMemoryEventStore.conflictingRun
  rw [scan_rows simulates.occurrences, simulates.occurrences, List.any_map]
  rfl

theorem has_occurrence (occurrenceId : OccurrenceId) :
    memory.occurrences.has (occurrenceKey scope occurrenceId) =
      database.scheduleOccurrences.table.rows.any (fun row => row.id = occurrenceId) := by
  unfold has
  rw [find_occurrence simulates]
  exact List.isSome_find?

theorem conflictingIdentity_agrees (candidate : ScheduleOccurrence) :
    database.conflictingIdentity candidate =
      (memory.occurrences.has (occurrenceKey scope candidate.id) ||
        memory.conflictingRun scope candidate) := by
  rw [has_occurrence simulates, conflictingRun_agrees simulates, Bool.eq_iff_iff]
  unfold conflictingIdentity
  simp only [Bool.or_eq_true, List.any_eq_true, decide_eq_true_eq, ← exists_or, ← and_or_left]

end

end Lookups

section Steps

variable {scope : ChannelScope} {memory : InMemoryEventStore}
  {database : SqliteScopedChannelStore Payload}

theorem createSchedule_agrees (simulates : SimulatesSchedules scope memory database)
    (dates : Dates) (schedule : ScheduleRecord) :
    Agrees (SimulatesSchedules scope) Eq (memory.createSchedule dates scope schedule)
      (database.createSchedule dates scope schedule) := by
  unfold InMemoryEventStore.createSchedule createSchedule
  refine agrees_bind _ ?_
  intro candidate _
  refine agrees_bind _ ?_
  intro _ _
  dsimp only
  rw [find_schedule simulates]
  cases found : database.schedules.find? candidate.id with
  | some existing => exact agrees_check rfl simulates
  | none =>
    have unknown := find_schedule simulates candidate.id
    rw [found] at unknown
    obtain ⟨schedules, inserted⟩ := (insert?_isSome_iff _ _).2 found
    dsimp only
    rw [inserted]
    refine agrees_ok rfl ?_
    refine { simulates with schedules := ?_ }
    change (memory.schedules.set _ _).entries = schedules.rows.map (scheduleEntry scope)
    rw [entries_set_new unknown, insert?_rows inserted, List.map_append, simulates.schedules]
    rfl

theorem cancelSchedule_agrees (simulates : SimulatesSchedules scope memory database)
    (scheduleId : ScheduleId) :
    Agrees (SimulatesSchedules scope) Eq (memory.cancelSchedule scope scheduleId)
      (database.cancelSchedule scheduleId) := by
  unfold InMemoryEventStore.cancelSchedule cancelSchedule
  have known := find_schedule simulates scheduleId
  dsimp only
  rw [known]
  cases found : database.schedules.find? scheduleId with
  | none => exact agrees_ok rfl simulates
  | some existing =>
    rw [found] at known
    refine agrees_ok rfl ?_
    refine { simulates with schedules := ?_ }
    change (memory.schedules.set _ _).entries = _
    rw [entries_set_present known, simulates.schedules]
    refine replace_rows ?_ ?_
    · intro row member isRow
      have isExisting := find?_of_mem member
      rw [isRow, found] at isExisting
      rw [← Option.some.inj isExisting, ← find?_key found]
      exact ⟨rfl, rfl⟩
    · intro row _
      rw [scopedKey_inj]
      exact ⟨fun same => same.2.2, fun same => ⟨rfl, rfl, same⟩⟩

/-! ### Occurrences -/

theorem find_claim (simulates : SimulatesSchedules scope memory database) {scheduleId : ScheduleId}
    {dueAt : Timestamp} {row : ScheduleOccurrence}
    (found : database.findDue scheduleId dueAt = some row) :
    ∃ copy, memory.occurrenceClaims.get? (claimKey scope scheduleId dueAt) = some copy ∧
      memory.occurrences.get? (occurrenceKey scope copy.id) = some row := by
  have same := simulates.claims scheduleId dueAt
  rw [found, Option.map_some] at same
  obtain ⟨copy, isCopy, unmarked⟩ := Option.map_eq_some_iff.1 same
  refine ⟨copy, isCopy, ?_⟩
  have sameId : copy.unmarked.id = row.unmarked.id := by rw [unmarked]
  change copy.id = row.id at sameId
  rw [find_occurrence simulates, sameId]
  exact find?_of_mem (findDue_mem found)

theorem find_no_claim (simulates : SimulatesSchedules scope memory database)
    {scheduleId : ScheduleId} {dueAt : Timestamp}
    (none : database.findDue scheduleId dueAt = none) :
    memory.occurrenceClaims.get? (claimKey scope scheduleId dueAt) = .none := by
  have same := simulates.claims scheduleId dueAt
  rw [none, Option.map_none] at same
  exact Option.map_eq_none_iff.1 same

theorem insertOccurrence_ok {candidate : ScheduleOccurrence}
    (fresh : database.findDue candidate.scheduleId candidate.dueAt = none)
    (free : database.conflictingIdentity candidate = false) :
    ∃ occurrences, database.insertOccurrence candidate =
      .ok { database with scheduleOccurrences := occurrences } := by
  have others : ∀ other ∈ database.scheduleOccurrences.table.rows, other.id ≠ candidate.id ∧
      other.runId ≠ candidate.runId ∧ other.commandId ≠ candidate.commandId := by
    intro other member
    have differs := List.any_eq_false.1 free other member
    rw [decide_eq_true_iff, not_or, not_or] at differs
    exact differs
  have freshKeys : ∀ other ∈ database.scheduleOccurrences.table.rows,
      (other.scheduleId, other.dueAt) ≠ (candidate.scheduleId, candidate.dueAt) ∧
        other.runId ≠ candidate.runId ∧ other.commandId ≠ candidate.commandId := by
    intro other member
    refine ⟨?_, (others other member).2⟩
    intro same
    have differs := List.find?_eq_none.1 fresh other member
    exact differs (decide_eq_true (Prod.mk.inj same))
  have freshId : database.scheduleOccurrences.table.find? candidate.id = none := by
    rw [find?_eq_none_iff]
    intro taken
    obtain ⟨other, member, same⟩ := List.mem_map.1 taken
    exact (others other member).1 same
  obtain ⟨table, inserted⟩ := (insert?_isSome_iff _ _).2 freshId
  unfold insertOccurrence ScheduleOccurrences.insert?
  rw [free, dif_pos freshKeys, if_neg Bool.false_ne_true]
  split
  · rename_i occurrences isInserted
    exact ⟨occurrences, rfl⟩
  · rename_i refused
    split at refused
    · cases refused
    · rename_i notInserted
      rw [inserted] at notInserted
      cases notInserted

theorem insertOccurrence_simulates (simulates : SimulatesSchedules scope memory database)
    {candidate : ScheduleOccurrence}
    (fresh : database.findDue candidate.scheduleId candidate.dueAt = none)
    (free : database.conflictingIdentity candidate = false) :
    ∃ database', database.insertOccurrence candidate = .ok database' ∧
      SimulatesSchedules scope (memory.setOccurrence scope candidate) database' := by
  obtain ⟨occurrences, inserted⟩ := insertOccurrence_ok fresh free
  refine ⟨_, inserted, ?_⟩
  have isRows := (insertOccurrence_rows inserted).1
  have unknown : memory.occurrences.get? (occurrenceKey scope candidate.id) = none := by
    rw [conflictingIdentity_agrees simulates, Bool.or_eq_false_iff] at free
    exact Option.isNone_iff_eq_none.1 (Option.isSome_eq_false_iff.1 free.1)
  refine { simulates with occurrences := ?_, claims := ?_ }
  · change (memory.occurrences.set _ _).entries = _
    rw [entries_set_new unknown, isRows, List.map_append, simulates.occurrences]
    rfl
  · intro scheduleId dueAt
    rw [findDue_insertOccurrence inserted]
    change ((memory.occurrenceClaims.set _ _).get? _).map _ = _
    rw [get?_set]
    by_cases isDue : candidate.scheduleId = scheduleId ∧ candidate.dueAt = dueAt
    · rw [if_pos isDue, if_pos (claimKey_inj.2 ⟨isDue.1.symm, isDue.2.symm⟩), ← isDue.1,
        ← isDue.2, fresh]
      rfl
    · rw [if_neg isDue, Option.or_none, if_neg]
      · exact simulates.claims scheduleId dueAt
      · intro same
        have sameKey := claimKey_inj.1 same
        exact isDue ⟨sameKey.1.symm, sameKey.2.symm⟩

/-- The candidate that an operation makes of an occurrence. -/
def Accepts (dates : Dates) (scope : ChannelScope) (occurrence candidate : ScheduleOccurrence) :
    Prop :=
  parseScheduleOccurrence dates occurrence = .ok candidate ∧
    assertScheduleScope scope candidate.workspaceId candidate.channelId = .ok ()

/-- What a claim reports as recorded has not changed since. -/
def ClaimsCurrent (dates : Dates) (scope : ChannelScope) (memory : InMemoryEventStore)
    (occurrence : ScheduleOccurrence) : Prop :=
  ∀ candidate, Accepts dates scope occurrence candidate →
    memory.scheduleActive scope candidate.scheduleId = true → ∀ claimed,
      memory.occurrenceClaims.get? (claimKey scope candidate.scheduleId candidate.dueAt) =
        some claimed →
      memory.occurrences.get? (occurrenceKey scope claimed.id) = some claimed

/-- A skip that records its occurrence takes no run and no command of another
one. -/
def SkipsFree (dates : Dates) (scope : ChannelScope) (memory : InMemoryEventStore)
    (occurrence : ScheduleOccurrence) : Prop :=
  ∀ candidate, Accepts dates scope { occurrence with status := some .skipped } candidate →
    memory.scheduleActive scope candidate.scheduleId = true →
    memory.occurrenceClaims.get? (claimKey scope candidate.scheduleId candidate.dueAt) = none →
    memory.occurrences.has (occurrenceKey scope candidate.id) = false →
    memory.conflictingRun scope candidate = false

variable {occurrence : ScheduleOccurrence}

section

variable {dates : Dates} (simulates : SimulatesSchedules scope memory database)

include simulates

theorem claimScheduleOccurrence_agrees (current : ClaimsCurrent dates scope memory occurrence) :
    Agrees (SimulatesSchedules scope) Eq (memory.claimScheduleOccurrence dates scope occurrence)
      (database.claimScheduleOccurrence dates scope occurrence) := by
  unfold InMemoryEventStore.claimScheduleOccurrence claimScheduleOccurrence
  refine agrees_bind _ ?_
  intro candidate parsed
  refine agrees_bind _ ?_
  intro _ inScope
  rw [scheduleActive_agrees simulates]
  refine agrees_ite Iff.rfl (fun _ => agrees_ok rfl simulates) ?_
  intro active
  rw [← scheduleActive_agrees simulates, Bool.not_eq_false] at active
  cases found : database.findDue candidate.scheduleId candidate.dueAt with
  | some row =>
    obtain ⟨copy, isCopy, isRow⟩ := find_claim simulates found
    have isCurrent := current candidate ⟨parsed, inScope⟩ active copy isCopy
    rw [isRow] at isCurrent
    rw [isCopy]
    refine agrees_ok ?_ simulates
    rw [Option.some.inj isCurrent]
  | none =>
    rw [find_no_claim simulates found]
    dsimp only
    cases conflict : database.conflictingIdentity candidate with
    | true =>
      have inMemory := conflictingIdentity_agrees simulates candidate
      unfold insertOccurrence
      rw [conflict, if_pos rfl]
      rw [conflict] at inMemory
      cases taken : memory.occurrences.has (occurrenceKey scope candidate.id) with
      | true => exact agrees_error _
      | false =>
        rw [taken, Bool.false_or] at inMemory
        rw [← inMemory]
        exact agrees_error _
    | false =>
      have inMemory := conflictingIdentity_agrees simulates candidate
      rw [conflict, eq_comm, Bool.or_eq_false_iff] at inMemory
      obtain ⟨database', inserted, simulates'⟩ :=
        insertOccurrence_simulates simulates found conflict
      rw [inMemory.1, inMemory.2, bind_of_ok _ inserted]
      exact agrees_ok rfl simulates'

theorem claimsCurrent_of_same
    (same : Agrees (fun _ _ => True) Eq (memory.claimScheduleOccurrence dates scope occurrence) (database.claimScheduleOccurrence dates scope occurrence))
    :
    ClaimsCurrent dates scope memory occurrence := by
  intro candidate accepted active claimed isClaimed
  have known := simulates.claims candidate.scheduleId candidate.dueAt
  rw [isClaimed, Option.map_some] at known
  obtain ⟨row, found, _⟩ := Option.map_eq_some_iff.1 known.symm
  obtain ⟨copy, isCopy, isRow⟩ := find_claim simulates found
  rw [isClaimed] at isCopy
  unfold InMemoryEventStore.claimScheduleOccurrence claimScheduleOccurrence at same
  rw [bind_of_ok _ accepted.1, bind_of_ok _ accepted.1, bind_of_ok _ accepted.2,
    bind_of_ok _ accepted.2, ← scheduleActive_agrees simulates, active, isClaimed, found] at same
  have sameAnswer : ScheduleOccurrenceClaim.alreadyClaimed claimed = .alreadyClaimed row := same.1
  rw [← Option.some.inj isCopy, ← ScheduleOccurrenceClaim.alreadyClaimed.inj sameAnswer] at isRow
  exact isRow

theorem skipScheduleOccurrence_agrees (free : SkipsFree dates scope memory occurrence) :
    Agrees (SimulatesSchedules scope) Eq (memory.skipScheduleOccurrence dates scope occurrence)
      (database.skipScheduleOccurrence dates scope occurrence) := by
  unfold InMemoryEventStore.skipScheduleOccurrence skipScheduleOccurrence
  refine agrees_bind _ ?_
  intro candidate parsed
  refine agrees_bind _ ?_
  intro _ inScope
  rw [scheduleActive_agrees simulates]
  refine agrees_ite Iff.rfl (fun _ => agrees_ok rfl simulates) ?_
  intro active
  rw [← scheduleActive_agrees simulates, Bool.not_eq_false] at active
  unfold has
  cases found : database.findDue candidate.scheduleId candidate.dueAt with
  | some row =>
    obtain ⟨copy, isCopy, _⟩ := find_claim simulates found
    rw [isCopy]
    exact agrees_ok rfl simulates
  | none =>
    have unclaimed := find_no_claim simulates found
    rw [unclaimed]
    have inMemory := conflictingIdentity_agrees simulates candidate
    cases taken : memory.occurrences.has (occurrenceKey scope candidate.id) with
    | true =>
      rw [taken, Bool.true_or] at inMemory
      unfold insertOccurrence
      unfold has at taken
      rw [taken, inMemory]
      exact agrees_error _
    | false =>
      rw [taken, Bool.false_or, free candidate ⟨parsed, inScope⟩ active unclaimed taken] at inMemory
      obtain ⟨database', inserted, simulates'⟩ :=
        insertOccurrence_simulates simulates found inMemory
      unfold has at taken
      dsimp only
      rw [taken, bind_of_ok _ inserted]
      exact agrees_ok rfl simulates'

theorem skipsFree_of_same
    (same : Agrees (fun _ _ => True) Eq (memory.skipScheduleOccurrence dates scope occurrence) (database.skipScheduleOccurrence dates scope occurrence))
    :
    SkipsFree dates scope memory occurrence := by
  intro candidate accepted active unclaimed free
  have known := simulates.claims candidate.scheduleId candidate.dueAt
  rw [unclaimed, Option.map_none] at known
  have unknown := Option.map_eq_none_iff.1 known.symm
  unfold InMemoryEventStore.skipScheduleOccurrence skipScheduleOccurrence has at same
  unfold has at free
  rw [bind_of_ok _ accepted.1, bind_of_ok _ accepted.1, bind_of_ok _ accepted.2,
    bind_of_ok _ accepted.2, ← scheduleActive_agrees simulates, active, unclaimed, unknown,
    free] at same
  cases taken : memory.conflictingRun scope candidate with
  | false => rfl
  | true =>
    have conflict : database.insertOccurrence candidate = .error .scheduleConflictError := by
      unfold insertOccurrence
      rw [conflictingIdentity_agrees simulates, taken, Bool.or_true, if_pos rfl]
    dsimp only at same
    rw [conflict] at same
    exact same.elim

end

section

variable (simulates : SimulatesSchedules scope memory database)

include simulates

theorem leases_set (occurrenceId : OccurrenceId) (lease : RecoveryLease)
    {leases : Table OccurrenceId RecoveryLease RecoveryLease.occurrenceId}
    (isSet : ∀ other, leases.find? other = if other = occurrenceId then some lease else database.scheduleOccurrenceRecoveryLeases.find? other)
    :
    SimulatesSchedules scope
      { memory with
        occurrenceRecoveryLeases := memory.occurrenceRecoveryLeases.set
          (recoveryKey scope occurrenceId) lease.inMemory }
      { database with scheduleOccurrenceRecoveryLeases := leases } := by
  refine { simulates with leases := ?_ }
  intro other
  change (memory.occurrenceRecoveryLeases.set _ _).get? _ = (leases.find? other).map _
  rw [get?_set, isSet]
  by_cases isOwn : other = occurrenceId
  · rw [if_pos isOwn, if_pos (recoveryKey_inj.2 isOwn)]
    rfl
  · rw [if_neg isOwn, if_neg (fun same => isOwn (recoveryKey_inj.1 same))]
    exact simulates.leases other

theorem claimScheduleOccurrenceRecovery_agrees (dates : Dates) (now : Int)
    (occurrence : ScheduleOccurrence) (ownerId : String) :
    Agrees (SimulatesSchedules scope) Eq
      (memory.claimScheduleOccurrenceRecovery dates scope now occurrence ownerId)
      (database.claimScheduleOccurrenceRecovery dates scope now occurrence ownerId) := by
  unfold InMemoryEventStore.claimScheduleOccurrenceRecovery claimScheduleOccurrenceRecovery
  refine agrees_bind _ ?_
  intro candidate _
  refine agrees_bind _ ?_
  intro _ _
  dsimp only
  rw [simulates.leases]
  cases found : database.scheduleOccurrenceRecoveryLeases.find? candidate.id with
  | some lease =>
    refine agrees_ite ?_ (fun _ => agrees_ok rfl simulates) ?_
    · exact decide_eq_true_iff
    · intro _
      refine agrees_ok rfl ?_
      refine leases_set simulates candidate.id { lease with claimedAt := now, ownerId } ?_
      have isOwn := find?_key found
      exact find?_update_row (fun lease => lease.occurrenceId = candidate.id)
        (fun lease => { lease with claimedAt := now, ownerId }) (fun _ => rfl) found isOwn
        (fun _ same => same)
  | none =>
    obtain ⟨leases, inserted⟩ := (insert?_isSome_iff
      database.scheduleOccurrenceRecoveryLeases
        { occurrenceId := candidate.id, claimedAt := now, ownerId }).2 found
    dsimp only
    rw [inserted]
    refine agrees_ok rfl ?_
    refine leases_set simulates candidate.id ⟨candidate.id, now, ownerId⟩ ?_
    intro other
    rw [find?_insert? inserted]
    by_cases isOwn : other = candidate.id
    · rw [if_pos isOwn, if_pos isOwn.symm]
    · rw [if_neg isOwn, if_neg (fun same => isOwn same.symm)]

theorem renewScheduleOccurrenceRecovery_agrees (dates : Dates) (now : Int)
    (occurrence : ScheduleOccurrence) (ownerId : String) :
    Agrees (SimulatesSchedules scope) Eq
      (memory.renewScheduleOccurrenceRecovery dates scope now occurrence ownerId)
      (database.renewScheduleOccurrenceRecovery dates scope now occurrence ownerId) := by
  unfold InMemoryEventStore.renewScheduleOccurrenceRecovery renewScheduleOccurrenceRecovery
  refine agrees_bind _ ?_
  intro candidate _
  refine agrees_bind _ ?_
  intro _ _
  dsimp only
  rw [simulates.leases, Option.map_map]
  by_cases mine : ∃ lease, database.scheduleOccurrenceRecoveryLeases.find? candidate.id =
      some lease ∧ lease.ownerId = ownerId
  · obtain ⟨lease, found, isOwner⟩ := mine
    have isOwn : (Option.map (InMemoryRecoveryLease.ownerId ∘ RecoveryLease.inMemory)
        (database.scheduleOccurrenceRecoveryLeases.find? candidate.id)) = some ownerId := by
      rw [found, ← isOwner]
      rfl
    have only : database.scheduleOccurrenceRecoveryLeases.select (fun lease =>
        lease.occurrenceId = candidate.id ∧ lease.ownerId = ownerId) = [lease] := by
      apply select_eq_singleton
      intro other
      constructor
      · rintro ⟨member, isId, _⟩
        have foundOther := find?_of_mem member
        rw [isId, found] at foundOther
        exact (Option.some.inj foundOther).symm
      · intro same
        rw [same]
        exact ⟨find?_mem found, find?_key found, isOwner⟩
    rw [if_neg (not_not.2 isOwn)]
    refine agrees_ok ?_ ?_
    · rw [only]
      rfl
    · have isId := find?_key found
      have isSet := find?_update_row
        (fun lease => lease.occurrenceId = candidate.id ∧ lease.ownerId = ownerId)
        (fun lease => { lease with claimedAt := now }) (fun _ => rfl) found
        ⟨isId, isOwner⟩ (fun _ both => both.1)
      have set := leases_set simulates candidate.id { lease with claimedAt := now } isSet
      rw [← isOwner] at set ⊢
      exact set
  · have notOwn : (Option.map (InMemoryRecoveryLease.ownerId ∘ RecoveryLease.inMemory)
        (database.scheduleOccurrenceRecoveryLeases.find? candidate.id)) ≠ some ownerId := by
      intro isOwn
      obtain ⟨lease, found, isOwner⟩ := Option.map_eq_some_iff.1 isOwn
      exact mine ⟨lease, found, isOwner⟩
    have unchosen : ∀ lease ∈ database.scheduleOccurrenceRecoveryLeases.rows,
        ¬ (lease.occurrenceId = candidate.id ∧ lease.ownerId = ownerId) := by
      rintro lease member ⟨isId, isOwner⟩
      have found := find?_of_mem member
      rw [isId] at found
      exact mine ⟨lease, found, isOwner⟩
    have nothing : database.scheduleOccurrenceRecoveryLeases.select (fun lease =>
        lease.occurrenceId = candidate.id ∧ lease.ownerId = ownerId) = [] := by
      refine List.filter_eq_nil_iff.2 ?_
      intro lease member both
      exact unchosen lease member (of_decide_eq_true both)
    rw [if_pos notOwn]
    refine agrees_ok ?_ ?_
    · rw [nothing]
      rfl
    · rw [update_of_none _ _ _ _ unchosen]
      exact simulates

theorem claimScheduleOccurrenceExecution_agrees (dates : Dates) (now : Int)
    (occurrence : ScheduleOccurrence) (ownerId : String) :
    Agrees (SimulatesSchedules scope) Eq
      (memory.claimScheduleOccurrenceExecution dates scope now occurrence ownerId)
      (database.claimScheduleOccurrenceExecution dates scope now occurrence ownerId) := by
  unfold InMemoryEventStore.claimScheduleOccurrenceExecution claimScheduleOccurrenceExecution
  refine agrees_bind _ ?_
  intro candidate _
  refine agrees_bind _ ?_
  intro _ _
  rw [simulates.leases]
  cases database.scheduleOccurrenceRecoveryLeases.find? candidate.id with
  | none => exact agrees_ok rfl simulates
  | some lease =>
    refine agrees_ite Iff.rfl (fun _ => agrees_ok rfl simulates) ?_
    intro _
    have known := find_occurrence simulates candidate.id
    rw [known]
    cases found : database.scheduleOccurrences.table.find? candidate.id with
    | none => exact agrees_ok rfl simulates
    | some existing =>
      rw [found] at known
      refine agrees_ite Iff.rfl (fun _ => agrees_ok rfl simulates) ?_
      intro _
      refine agrees_ok rfl ?_
      refine { simulates with occurrences := ?_, claims := ?_ }
      · change (memory.occurrences.set _ _).entries = _
        rw [entries_set_present known, simulates.occurrences]
        refine replace_rows ?_ ?_
        · intro row member isRow
          have isExisting := find?_of_mem member
          rw [isRow, found] at isExisting
          rw [← Option.some.inj isExisting, ← find?_key found]
          exact ⟨rfl, rfl⟩
        · intro row _
          unfold occurrenceKey
          rw [scopedKey_inj]
          exact ⟨fun same => same.2.2, fun same => ⟨rfl, rfl, same⟩⟩
      · intro scheduleId dueAt
        rw [findDue_setStatus, Option.map_map]
        refine (simulates.claims scheduleId dueAt).trans ?_
        refine congrArg (fun f => Option.map f (database.findDue scheduleId dueAt)) ?_
        funext row
        by_cases isRow : row.id = candidate.id
        · rw [Function.comp_apply, if_pos isRow]
          rfl
        · rw [Function.comp_apply, if_neg isRow]

end

/-! ### Notifications -/

variable {candidate stored : ScheduleNotification}

theorem notification_eq_iff (simulates : SimulatesSchedules scope memory database)
    (member : stored ∈ database.scheduleNotifications.rows)
    (meets : stored.id = candidate.id ∨ stored.occurrenceId = candidate.occurrenceId) :
    stored = candidate ↔ candidate ∈ database.scheduleNotifications.rows := by
  constructor
  · intro same
    rw [← same]
    exact member
  · intro isStored
    cases meets with
    | inl sameId =>
      exact List.inj_on_of_nodup_map database.scheduleNotifications.keysNodup member isStored sameId
    | inr sameOccurrence =>
      exact List.inj_on_of_nodup_map simulates.notified member isStored sameOccurrence

theorem find_meeting (simulates : SimulatesSchedules scope memory database)
    (member : stored ∈ database.scheduleNotifications.rows)
    (meets : stored.id = candidate.id ∨ stored.occurrenceId = candidate.occurrenceId) :
    ∃ existing, database.scheduleNotifications.rows.find? (fun row =>
        row.id = candidate.id ∨ row.occurrenceId = candidate.occurrenceId) = some existing ∧
      (stored = candidate ↔ existing = candidate) := by
  cases found : database.scheduleNotifications.rows.find? (fun row =>
      row.id = candidate.id ∨ row.occurrenceId = candidate.occurrenceId) with
  | none => exact absurd (decide_eq_true meets) (List.find?_eq_none.1 found stored member)
  | some existing =>
    have matched := List.find?_some found
    have isExisting := notification_eq_iff simulates (List.mem_of_find?_eq_some found)
      (of_decide_eq_true matched)
    exact ⟨existing, rfl, (notification_eq_iff simulates member meets).trans isExisting.symm⟩

theorem recordScheduleNotification_agrees (simulates : SimulatesSchedules scope memory database)
    (dates : Dates) (notification : ScheduleNotification) :
    Agrees (SimulatesSchedules scope) Eq
      (memory.recordScheduleNotification dates scope notification)
      (database.recordScheduleNotification dates scope notification) := by
  unfold InMemoryEventStore.recordScheduleNotification recordScheduleNotification
  refine agrees_bind _ ?_
  intro candidate _
  refine agrees_bind _ ?_
  intro _ _
  rw [find_occurrence simulates]
  cases database.scheduleOccurrences.table.find? candidate.occurrenceId with
  | none => exact agrees_error _
  | some occurrence =>
    refine agrees_ite Iff.rfl (fun _ => agrees_error _) ?_
    intro _
    rw [find_schedule simulates]
    cases database.schedules.find? candidate.scheduleId with
    | none => exact agrees_error _
    | some schedule =>
      refine agrees_ite Iff.rfl (fun _ => agrees_error _) ?_
      intro _
      have known := find_notification simulates candidate.id
      dsimp only
      rw [known, scan_rows simulates.notifications, simulates.notifications, List.find?_map]
      cases stored : database.scheduleNotifications.find? candidate.id with
      | some row =>
        obtain ⟨existing, found, same⟩ := find_meeting simulates (find?_mem stored)
          (Or.inl (find?_key stored))
        rw [found]
        refine agrees_ite same ?_ (fun _ => agrees_error _)
        intro isRow
        rw [isRow, same.1 isRow]
        exact agrees_ok rfl simulates
      | none =>
        rw [stored] at known
        cases told : database.scheduleNotifications.rows.find?
            ((fun entry => decide (entry.2.occurrenceId = candidate.occurrenceId)) ∘
              notificationEntry scope) with
        | some row =>
          have matched := List.find?_some told
          obtain ⟨existing, found, same⟩ := find_meeting simulates
            (List.mem_of_find?_eq_some told) (Or.inr (of_decide_eq_true matched))
          rw [found]
          refine agrees_ite same ?_ (fun _ => agrees_error _)
          intro isRow
          change row = candidate at isRow
          rw [same.1 isRow]
          exact agrees_ok isRow simulates
        | none =>
          have freshOccurrence : ∀ other ∈ database.scheduleNotifications.rows,
              other.occurrenceId ≠ candidate.occurrenceId := by
            intro other member same
            exact List.find?_eq_none.1 told other member (decide_eq_true same)
          have fresh : database.scheduleNotifications.rows.find? (fun row =>
              row.id = candidate.id ∨
                row.occurrenceId = candidate.occurrenceId) = none := by
            refine List.find?_eq_none.2 ?_
            intro other member meets
            cases of_decide_eq_true meets with
            | inl sameId =>
              exact List.find?_eq_none.1 stored other member (decide_eq_true sameId)
            | inr sameOccurrence => exact freshOccurrence other member sameOccurrence
          obtain ⟨notifications, inserted⟩ := (insert?_isSome_iff _ _).2 stored
          rw [fresh]
          dsimp only [Option.map_none]
          rw [inserted]
          refine agrees_ok rfl ?_
          refine { simulates with notifications := ?_, notified := ?_ }
          · change (memory.notifications.set _ _).entries =
              notifications.rows.map (notificationEntry scope)
            rw [entries_set_new known, insert?_rows inserted,
              List.map_append, simulates.notifications]
            rfl
          · exact simulates.notified.insert? inserted freshOccurrence

theorem listSchedules_agrees (simulates : SimulatesSchedules scope memory database)
    (localeCompare : String → String → Ordering) (schedule : ScheduleRecord) :
    schedule ∈ memory.listSchedules localeCompare scope ↔ schedule ∈ database.listSchedules := by
  unfold InMemoryEventStore.listSchedules listSchedules
  rw [List.mem_insertionSort, List.mem_insertionSort, scan_rows simulates.schedules,
    simulates.schedules, List.map_map]
  exact iff_of_eq (congrArg (schedule ∈ ·) (List.map_id _))

theorem mem_entries_filter {Value : Type} {rows : List Value} (key : Value → String)
    (p : Value → Prop) [DecidablePred p] (value : Value) :
    value ∈ ((rows.map (fun row => (key row, row))).filter (fun entry => p entry.2)).map Prod.snd ↔
      value ∈ rows ∧ p value := by
  simp only [List.mem_map, List.mem_filter, decide_eq_true_iff]
  constructor
  · rintro ⟨entry, ⟨⟨row, member, isEntry⟩, holds⟩, isValue⟩
    rw [← isEntry] at holds isValue
    exact isValue ▸ ⟨member, holds⟩
  · rintro ⟨member, holds⟩
    exact ⟨_, ⟨⟨value, member, rfl⟩, holds⟩, rfl⟩

theorem listScheduleOccurrences_agrees (simulates : SimulatesSchedules scope memory database)
    (localeCompare : String → String → Ordering) (scheduleId : ScheduleId)
    (occurrence : ScheduleOccurrence) :
    occurrence ∈ memory.listScheduleOccurrences localeCompare scope scheduleId ↔
      occurrence ∈ database.listScheduleOccurrences scheduleId := by
  unfold InMemoryEventStore.listScheduleOccurrences listScheduleOccurrences
  rw [List.mem_insertionSort, List.mem_insertionSort, scan_rows simulates.occurrences,
    simulates.occurrences, mem_select]
  exact mem_entries_filter _ (fun row => row.scheduleId = scheduleId) occurrence

theorem listScheduleNotifications_agrees (simulates : SimulatesSchedules scope memory database)
    (localeCompare : String → String → Ordering) (scheduleId : ScheduleId)
    (notification : ScheduleNotification) :
    notification ∈ memory.listScheduleNotifications localeCompare scope scheduleId ↔
      notification ∈ database.listScheduleNotifications scheduleId := by
  unfold InMemoryEventStore.listScheduleNotifications listScheduleNotifications
  rw [List.mem_insertionSort, List.mem_insertionSort, scan_rows simulates.notifications,
    simulates.notifications, mem_select]
  exact mem_entries_filter _ (fun row => row.scheduleId = scheduleId) notification

theorem registerScheduleTrigger_simulates (simulates : SimulatesSchedules scope memory database)
    (trigger : ScheduleTrigger) :
    SimulatesSchedules scope (memory.registerScheduleTrigger scope trigger)
      (database.registerScheduleTrigger trigger) := by
  have registrations : ∀ other,
      (memory.registerScheduleTrigger scope trigger).hasScheduleTriggerRegistration scope other =
        decide (other ∈ database.scheduleTriggerRegistrations ++ [trigger]) := by
    intro other
    change ((memory.triggerRegistrations.set _ _).get? _).isSome = _
    rw [get?_set]
    by_cases isOwn : other = trigger
    · rw [if_pos (triggerKey_inj.2 isOwn)]
      exact (decide_eq_true (List.mem_append_right _ (List.mem_singleton.2 isOwn))).symm
    · rw [if_neg (fun same => isOwn (triggerKey_inj.1 same))]
      refine (simulates.registrations other).trans (decide_eq_decide.2 ?_)
      rw [List.mem_append, List.mem_singleton]
      exact (or_iff_left isOwn).symm
  unfold registerScheduleTrigger
  by_cases known : trigger ∈ database.scheduleTriggerRegistrations
  · rw [if_pos known]
    refine { simulates with registrations := ?_ }
    intro other
    rw [registrations]
    refine decide_eq_decide.2 ?_
    rw [List.mem_append, List.mem_singleton]
    refine or_iff_left_of_imp ?_
    intro same
    rw [same]
    exact known
  · rw [if_neg known]
    exact { simulates with registrations := registrations }

end Steps

/-- Equal answers; lists are compared as sets. -/
def ScheduleCall.Same : (call : ScheduleCall) → call.Answer → call.Answer → Prop
  | .listSchedules, left, right => ∀ schedule, schedule ∈ left ↔ schedule ∈ right
  | .listScheduleOccurrences _, left, right => ∀ occurrence, occurrence ∈ left ↔ occurrence ∈ right
  | .listScheduleNotifications _, left, right =>
    ∀ notification, notification ∈ left ↔ notification ∈ right
  | .createSchedule _, left, right => left = right
  | .cancelSchedule _, left, right => left = right
  | .claimScheduleOccurrence _, left, right => left = right
  | .skipScheduleOccurrence _, left, right => left = right
  | .claimScheduleOccurrenceRecovery _ _ _, left, right => left = right
  | .renewScheduleOccurrenceRecovery _ _ _, left, right => left = right
  | .claimScheduleOccurrenceExecution _ _ _, left, right => left = right
  | .recordScheduleNotification _, left, right => left = right
  | .registerScheduleTrigger _, left, right => left = right
  | .hasScheduleTriggerRegistration _, left, right => left = right

/-- The call is no claim that reports an occurrence started since it was
recorded, and no skip that records a run or a command a second time. -/
def ScheduleCall.Uniform (dates : Dates) (scope : ChannelScope) (memory : InMemoryEventStore) :
    ScheduleCall → Prop
  | .claimScheduleOccurrence occurrence => ClaimsCurrent dates scope memory occurrence
  | .skipScheduleOccurrence occurrence => SkipsFree dates scope memory occurrence
  | _ => True

/-- The same value or the same error. -/
def SameScheduleOutcome {State State' : Type} (call : ScheduleCall)
    (outcome : Except Thrown (call.Answer × State))
    (outcome' : Except Thrown (call.Answer × State')) : Prop :=
  Agrees (fun _ _ => True) call.Same outcome outcome'

section Calls

variable {scope : ChannelScope} {memory : InMemoryEventStore}
  {database : SqliteScopedChannelStore Payload}

theorem performSchedule_agrees (simulates : SimulatesSchedules scope memory database)
    (dates : Dates) (localeCompare : String → String → Ordering) {call : ScheduleCall}
    (uniform : call.Uniform dates scope memory) :
    Agrees (SimulatesSchedules scope) call.Same
      (memory.performSchedule dates localeCompare scope call)
      (database.performSchedule dates scope call) := by
  cases call with
  | createSchedule schedule => exact createSchedule_agrees simulates dates schedule
  | listSchedules => exact agrees_ok (listSchedules_agrees simulates localeCompare) simulates
  | cancelSchedule scheduleId => exact cancelSchedule_agrees simulates scheduleId
  | claimScheduleOccurrence occurrence => exact claimScheduleOccurrence_agrees simulates uniform
  | skipScheduleOccurrence occurrence => exact skipScheduleOccurrence_agrees simulates uniform
  | claimScheduleOccurrenceRecovery now occurrence ownerId =>
    exact claimScheduleOccurrenceRecovery_agrees simulates dates now occurrence ownerId
  | renewScheduleOccurrenceRecovery now occurrence ownerId =>
    exact renewScheduleOccurrenceRecovery_agrees simulates dates now occurrence ownerId
  | claimScheduleOccurrenceExecution now occurrence ownerId =>
    exact claimScheduleOccurrenceExecution_agrees simulates dates now occurrence ownerId
  | recordScheduleNotification notification =>
    exact recordScheduleNotification_agrees simulates dates notification
  | listScheduleOccurrences scheduleId =>
    exact agrees_ok (listScheduleOccurrences_agrees simulates localeCompare scheduleId) simulates
  | listScheduleNotifications scheduleId =>
    exact agrees_ok (listScheduleNotifications_agrees simulates localeCompare scheduleId) simulates
  | registerScheduleTrigger trigger =>
    exact agrees_ok rfl (registerScheduleTrigger_simulates simulates trigger)
  | hasScheduleTriggerRegistration trigger =>
    exact agrees_ok (simulates.registrations trigger) simulates

theorem performSchedule_same_iff (simulates : SimulatesSchedules scope memory database)
    (dates : Dates) (localeCompare : String → String → Ordering) (call : ScheduleCall) :
    SameScheduleOutcome call (memory.performSchedule dates localeCompare scope call)
        (database.performSchedule dates scope call) ↔ call.Uniform dates scope memory := by
  constructor
  · intro same
    cases call with
    | claimScheduleOccurrence occurrence => exact claimsCurrent_of_same simulates same
    | skipScheduleOccurrence occurrence => exact skipsFree_of_same simulates same
    | _ => exact trivial
  · intro uniform
    exact agrees_weaken (fun _ _ _ => trivial)
      (performSchedule_agrees simulates dates localeCompare uniform)

end Calls

def memoryScheduleCall (dates : Dates) (localeCompare : String → String → Ordering)
    (scope : ChannelScope) (call : ScheduleCall) (store : InMemoryEventStore) :
    Except Thrown (call.Answer × InMemoryEventStore) :=
  store.performSchedule dates localeCompare scope call

def databaseScheduleCall (dates : Dates) (scope : ChannelScope) (call : ScheduleCall)
    (store : SqliteScopedChannelStore Payload) :
    Except Thrown (call.Answer × SqliteScopedChannelStore Payload) :=
  store.performSchedule dates scope call

def monitorSchedule (id : ScheduleId) : ScheduleRecord :=
  { id
    workspaceId := "workspace"
    channelId := "channel"
    kind := .monitor
    trigger := .monitor "monitor" "label"
    dueAt := "1970-01-01T00:00:00.000Z"
    catchUpPolicy := .skip
    status := .active
    run :=
      { workspaceId := "workspace"
        channelId := "channel"
        goal := "goal"
        sourceEventId := "event"
        permissionScope := "scope"
        stopCondition := "done"
        allowedTools := []
        trigger := .monitor "monitor" "label"
        notificationAudience := [] }
    recurrence := none }

def monitorOccurrence (id : OccurrenceId) (scheduleId : ScheduleId) : ScheduleOccurrence :=
  { workspaceId := "workspace"
    channelId := "channel"
    id
    scheduleId
    dueAt := "1970-01-01T00:00:00.000Z"
    runId := "run"
    commandId := "command"
    claimedAt := "1970-01-01T00:00:00.000Z"
    status := none }

end AnnaAgent.EventStore
