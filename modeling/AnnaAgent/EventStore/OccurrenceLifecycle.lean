/-
What every schedule operation of the store keeps.

An occurrence that is recorded stays recorded under its identity, started and
skipped are final, a cancelled schedule stays inactive, and an inactive
schedule gets no new occurrence.  `Later` says so, and one operation after the
other respects it.
-/

import AnnaAgent.EventStore.SqliteSchedules

namespace AnnaAgent.EventStore

open Foundation

def OccurrenceStatus.Final : Option OccurrenceStatus → Prop
  | some .started => True
  | some .skipped => True
  | _ => False

namespace SqliteScopedChannelStore

variable {Payload : Type} {store store' before after : SqliteScopedChannelStore Payload}

def Retired (store : SqliteScopedChannelStore Payload) (scheduleId : ScheduleId) : Prop :=
  ∃ schedule, store.schedules.find? scheduleId = some schedule ∧ schedule.status ≠ .active

structure Later (before after : SqliteScopedChannelStore Payload) : Prop where
  recorded : ∀ {scheduleId dueAt row}, before.findDue scheduleId dueAt = some row →
    ∃ row', after.findDue scheduleId dueAt = some row' ∧ row'.id = row.id ∧
      (OccurrenceStatus.Final row.status → row'.status = row.status)
  retired : ∀ {scheduleId}, before.Retired scheduleId → after.Retired scheduleId
  closed : ∀ {scheduleId dueAt}, before.Retired scheduleId →
    before.findDue scheduleId dueAt = none → after.findDue scheduleId dueAt = none

theorem Later.refl (store : SqliteScopedChannelStore Payload) : Later store store :=
  { recorded := fun found => ⟨_, found, rfl, fun _ => rfl⟩
    retired := fun retired => retired
    closed := fun _ none => none }

theorem Later.trans {first second third : SqliteScopedChannelStore Payload}
    (early : Later first second) (late : Later second third) : Later first third := by
  refine ⟨?_, fun retired => late.retired (early.retired retired), ?_⟩
  · intro scheduleId dueAt row found
    obtain ⟨row', found', sameId, keeps⟩ := early.recorded found
    obtain ⟨row'', found'', sameId', keeps'⟩ := late.recorded found'
    refine ⟨row'', found'', sameId'.trans sameId, ?_⟩
    intro final
    have same := keeps final
    rw [keeps' (same ▸ final), same]
  · intro scheduleId dueAt retired none
    exact late.closed (early.retired retired) (early.closed retired none)

variable {scheduleId : ScheduleId} {candidate occurrence : ScheduleOccurrence}
  {schedule : ScheduleRecord} {ownerId : String} {row : ScheduleOccurrence}

theorem findDue_mem {dueAt : Timestamp} (found : store.findDue scheduleId dueAt = some row) :
    row ∈ store.scheduleOccurrences.table.rows :=
  List.mem_of_find?_eq_some found

theorem findDue_due {dueAt : Timestamp} (found : store.findDue scheduleId dueAt = some row) :
    row.scheduleId = scheduleId ∧ row.dueAt = dueAt := by
  unfold findDue at found
  have chosen := List.find?_some found
  exact of_decide_eq_true chosen

theorem findDue_setStatus (id : OccurrenceId) (status : OccurrenceStatus)
    (scheduleId : ScheduleId) (dueAt : Timestamp) :
    SqliteScopedChannelStore.findDue
        { store with scheduleOccurrences := store.scheduleOccurrences.setStatus id status }
        scheduleId dueAt =
      (store.findDue scheduleId dueAt).map
        (fun row => if row.id = id then { row with status := some status } else row) := by
  change (store.scheduleOccurrences.table.rows.map
      (fun row => if row.id = id then { row with status := some status } else row)).find? _ = _
  rw [List.find?_map]
  unfold findDue
  congr 2
  funext row
  by_cases chosen : row.id = id
  · simp only [Function.comp_apply, if_pos chosen]
  · simp only [Function.comp_apply, if_neg chosen]

theorem insertOccurrence_rows (inserted : store.insertOccurrence candidate = .ok store') :
    store'.scheduleOccurrences.table.rows =
        store.scheduleOccurrences.table.rows ++ [candidate] ∧
      store'.schedules = store.schedules := by
  unfold insertOccurrence at inserted
  split at inserted
  · cases inserted
  · split at inserted
    · rename_i occurrences isInserted
      cases inserted
      unfold ScheduleOccurrences.insert? at isInserted
      split at isInserted
      · split at isInserted
        · rename_i table rows
          cases isInserted
          exact ⟨Table.insert?_rows rows, rfl⟩
        · cases isInserted
      · cases isInserted
    · cases inserted

theorem findDue_insertOccurrence (inserted : store.insertOccurrence candidate = .ok store')
    (scheduleId : ScheduleId) (dueAt : Timestamp) :
    store'.findDue scheduleId dueAt =
      (store.findDue scheduleId dueAt).or
        (if candidate.scheduleId = scheduleId ∧ candidate.dueAt = dueAt then some candidate
        else none) := by
  unfold findDue
  rw [(insertOccurrence_rows inserted).1, List.find?_append, List.find?_singleton]
  simp only [decide_eq_true_eq]

/-! ### Operations -/

theorem later_of_same (sameOccurrences : after.scheduleOccurrences = before.scheduleOccurrences)
    (sameSchedules : after.schedules = before.schedules) : Later before after := by
  have sameDue : ∀ scheduleId dueAt,
      after.findDue scheduleId dueAt = before.findDue scheduleId dueAt := by
    intro scheduleId dueAt
    unfold findDue
    rw [sameOccurrences]
  refine ⟨?_, ?_, ?_⟩
  · intro scheduleId dueAt row found
    exact ⟨row, (sameDue scheduleId dueAt).trans found, rfl, fun _ => rfl⟩
  · rintro scheduleId ⟨schedule, found, inactive⟩
    exact ⟨schedule, by rw [sameSchedules, found], inactive⟩
  · intro scheduleId dueAt _ none
    exact (sameDue scheduleId dueAt).trans none

theorem later_of_schedules (sameOccurrences : after.scheduleOccurrences = before.scheduleOccurrences)
    (retired : ∀ {scheduleId}, before.Retired scheduleId → after.Retired scheduleId) :
    Later before after := by
  refine ⟨?_, retired, ?_⟩
  · intro scheduleId dueAt row found
    refine ⟨row, ?_, rfl, fun _ => rfl⟩
    unfold findDue
    rw [sameOccurrences]
    exact found
  · intro scheduleId dueAt _ none
    unfold findDue
    rw [sameOccurrences]
    exact none

theorem not_retired_of_active (active : store.scheduleActive scheduleId ≠ false) :
    ¬ store.Retired scheduleId := by
  rintro ⟨schedule, found, inactive⟩
  apply active
  unfold scheduleActive
  rw [found]
  exact decide_eq_false inactive

theorem insertOccurrence_later (active : store.scheduleActive candidate.scheduleId ≠ false)
    (inserted : store.insertOccurrence candidate = .ok store') : Later store store' := by
  have sameSchedules := (insertOccurrence_rows inserted).2
  refine ⟨?_, ?_, ?_⟩
  · intro scheduleId dueAt row found
    refine ⟨row, ?_, rfl, fun _ => rfl⟩
    rw [findDue_insertOccurrence inserted, found]
    rfl
  · rintro scheduleId ⟨schedule, found, inactive⟩
    exact ⟨schedule, by rw [sameSchedules, found], inactive⟩
  · intro scheduleId dueAt retired none
    have other : ¬ (candidate.scheduleId = scheduleId ∧ candidate.dueAt = dueAt) := by
      rintro ⟨same, _⟩
      exact not_retired_of_active active (same ▸ retired)
    rw [findDue_insertOccurrence inserted, none, if_neg other]
    rfl

variable {dates : Dates} {scope : ChannelScope}

theorem createSchedule_later {result : ScheduleRecord}
    (created : store.createSchedule dates scope schedule = .ok (result, store')) :
    Later store store' := by
  obtain ⟨candidate, _, created⟩ := bind_ok created
  obtain ⟨_, _, created⟩ := bind_ok created
  split at created
  · split at created
    · cases created
      exact Later.refl _
    · cases created
  · rename_i absent
    split at created
    · rename_i schedules inserted
      cases created
      refine later_of_schedules rfl ?_
      rintro scheduleId ⟨stored, found, inactive⟩
      refine ⟨stored, ?_, inactive⟩
      change schedules.find? scheduleId = some stored
      rw [Table.find?_insert? inserted, if_neg, found]
      intro same
      rw [← same, absent] at found
      cases found
    · cases created

theorem cancelSchedule_schedules
    (cancelled : store.cancelSchedule scheduleId = .ok (some schedule, store')) :
    (∃ row, store.schedules.find? scheduleId = some row) ∧
      store'.scheduleOccurrences = store.scheduleOccurrences ∧
      ∀ other, store'.schedules.find? other = (store.schedules.find? other).map
        (fun row => if row.id = scheduleId then { row with status := .cancelled } else row) := by
  unfold cancelSchedule at cancelled
  split at cancelled
  · cases cancelled
  · rename_i row found
    cases cancelled
    exact ⟨⟨row, found⟩, rfl, fun other => Table.find?_update store.schedules
      (fun row => row.id = scheduleId) (fun row => { row with status := .cancelled })
      (fun _ => rfl) other⟩

theorem cancelSchedule_none (cancelled : store.cancelSchedule scheduleId = .ok (none, store')) :
    store' = store := by
  unfold cancelSchedule at cancelled
  split at cancelled
  · cases cancelled
    rfl
  · cases cancelled

theorem cancelSchedule_later {result : Option ScheduleRecord}
    (cancelled : store.cancelSchedule scheduleId = .ok (result, store')) : Later store store' := by
  cases result with
  | none =>
    rw [cancelSchedule_none cancelled]
    exact Later.refl store
  | some schedule =>
    obtain ⟨_, sameOccurrences, schedules⟩ := cancelSchedule_schedules cancelled
    refine later_of_schedules sameOccurrences ?_
    rintro other ⟨stored, found, inactive⟩
    unfold Retired
    rw [schedules other, found, Option.map_some]
    by_cases chosen : stored.id = scheduleId
    · rw [if_pos chosen]
      exact ⟨_, rfl, by intro same; cases same⟩
    · rw [if_neg chosen]
      exact ⟨stored, rfl, inactive⟩

theorem cancelSchedule_retired
    (cancelled : store.cancelSchedule scheduleId = .ok (some schedule, store')) :
    store'.Retired scheduleId := by
  obtain ⟨⟨row, found⟩, _, schedules⟩ := cancelSchedule_schedules cancelled
  unfold Retired
  rw [schedules scheduleId, found, Option.map_some, if_pos (Table.find?_key found)]
  exact ⟨_, rfl, by intro same; cases same⟩

variable {claim : ScheduleOccurrenceClaim}

theorem claimScheduleOccurrence_later
    (claimed : store.claimScheduleOccurrence dates scope occurrence = .ok (claim, store')) :
    Later store store' := by
  obtain ⟨candidate, _, claimed⟩ := bind_ok claimed
  obtain ⟨_, _, claimed⟩ := bind_ok claimed
  split at claimed
  · cases claimed
    exact Later.refl _
  · rename_i active
    split at claimed
    · cases claimed
      exact Later.refl _
    · obtain ⟨inserted, isInserted, claimed⟩ := bind_ok claimed
      cases claimed
      exact insertOccurrence_later active isInserted

theorem claimScheduleOccurrence_recorded {claimed : ScheduleOccurrence}
    (claims : store.claimScheduleOccurrence dates scope occurrence = .ok (claim, store'))
    (isClaimed : claim = .claimed claimed ∨ claim = .alreadyClaimed claimed) :
    claimed.scheduleId = occurrence.scheduleId ∧
      ∃ row, store'.findDue claimed.scheduleId claimed.dueAt = some row ∧
        row.id = claimed.id := by
  obtain ⟨candidate, isCandidate, claims⟩ := bind_ok claims
  obtain ⟨_, _, claims⟩ := bind_ok claims
  rw [parseScheduleOccurrence_eq isCandidate] at claims
  split at claims
  · cases claims
    rcases isClaimed with impossible | impossible
    · cases impossible
    · cases impossible
  · split at claims
    · rename_i stored found
      cases claims
      rcases isClaimed with impossible | isStored
      · cases impossible
      · cases isStored
        have due := findDue_due found
        refine ⟨due.1, _, ?_, rfl⟩
        rw [due.1, due.2]
        exact found
    · rename_i absent
      obtain ⟨inserted, isInserted, claims⟩ := bind_ok claims
      cases claims
      rcases isClaimed with isOwn | impossible
      · cases isOwn
        refine ⟨rfl, occurrence, ?_, rfl⟩
        rw [findDue_insertOccurrence isInserted, absent, if_pos ⟨rfl, rfl⟩]
        rfl
      · cases impossible

theorem skipScheduleOccurrence_later {skipped : Bool}
    (skips : store.skipScheduleOccurrence dates scope occurrence = .ok (skipped, store')) :
    Later store store' := by
  obtain ⟨candidate, _, skips⟩ := bind_ok skips
  obtain ⟨_, _, skips⟩ := bind_ok skips
  split at skips
  · cases skips
    exact Later.refl _
  · rename_i active
    split at skips
    · cases skips
      exact Later.refl _
    · obtain ⟨inserted, isInserted, skips⟩ := bind_ok skips
      cases skips
      exact insertOccurrence_later active isInserted

variable {now : Int}

theorem claimScheduleOccurrenceRecovery_later {leased : Bool}
    (claimed : store.claimScheduleOccurrenceRecovery dates scope now occurrence ownerId = .ok (leased, store')) :
    Later store store' := by
  obtain ⟨candidate, _, claimed⟩ := bind_ok claimed
  obtain ⟨_, _, claimed⟩ := bind_ok claimed
  split at claimed
  · split at claimed
    · cases claimed
      exact Later.refl _
    · cases claimed
      exact later_of_same rfl rfl
  · split at claimed
    · cases claimed
      exact later_of_same rfl rfl
    · cases claimed

theorem renewScheduleOccurrenceRecovery_later {renewed : Bool}
    (renews : store.renewScheduleOccurrenceRecovery dates scope now occurrence ownerId = .ok (renewed, store')) :
    Later store store' := by
  obtain ⟨candidate, _, renews⟩ := bind_ok renews
  obtain ⟨_, _, renews⟩ := bind_ok renews
  cases renews
  exact later_of_same rfl rfl

theorem claimScheduleOccurrenceExecution_true
    (claimed : store.claimScheduleOccurrenceExecution dates scope now occurrence ownerId = .ok (true, store')) :
    ∃ existing, store.scheduleOccurrences.table.find? occurrence.id = some existing ∧
      ¬ OccurrenceStatus.Final existing.status ∧
      store' = { store with
        scheduleOccurrences := store.scheduleOccurrences.setStatus occurrence.id .started } := by
  obtain ⟨candidate, isCandidate, claimed⟩ := bind_ok claimed
  obtain ⟨_, _, claimed⟩ := bind_ok claimed
  rw [parseScheduleOccurrence_eq isCandidate] at claimed
  split at claimed
  · cases claimed
  · split at claimed
    · cases claimed
    · split at claimed
      · cases claimed
      · rename_i existing found
        split at claimed
        · cases claimed
        · rename_i unfinished
          cases claimed
          refine ⟨existing, found, ?_, rfl⟩
          intro final
          apply unfinished
          cases status : existing.status with
          | none =>
            rw [status] at final
            exact final.elim
          | some value =>
            rw [status] at final
            cases value with
            | claimed => exact final.elim
            | started => exact Or.inl rfl
            | skipped => exact Or.inr rfl

theorem claimScheduleOccurrenceExecution_false
    (claimed : store.claimScheduleOccurrenceExecution dates scope now occurrence ownerId = .ok (false, store')) :
    store' = store := by
  obtain ⟨candidate, _, claimed⟩ := bind_ok claimed
  obtain ⟨_, _, claimed⟩ := bind_ok claimed
  split at claimed
  · cases claimed
    rfl
  · split at claimed
    · cases claimed
      rfl
    · split at claimed
      · cases claimed
        rfl
      · split at claimed
        · cases claimed
          rfl
        · cases claimed

theorem claimScheduleOccurrenceExecution_later {executing : Bool}
    (claimed : store.claimScheduleOccurrenceExecution dates scope now occurrence ownerId = .ok (executing, store')) :
    Later store store' := by
  cases executing with
  | false =>
    rw [claimScheduleOccurrenceExecution_false claimed]
    exact Later.refl store
  | true =>
    obtain ⟨existing, found, unfinished, isAfter⟩ := claimScheduleOccurrenceExecution_true claimed
    subst isAfter
    refine ⟨?_, fun retired => retired, ?_⟩
    · intro scheduleId dueAt row foundRow
      rw [findDue_setStatus, foundRow, Option.map_some]
      by_cases chosen : row.id = occurrence.id
      · rw [if_pos chosen]
        refine ⟨_, rfl, rfl, ?_⟩
        intro final
        have looked := Table.find?_of_mem (findDue_mem foundRow)
        rw [chosen, found] at looked
        cases looked
        exact absurd final unfinished
      · rw [if_neg chosen]
        exact ⟨row, rfl, rfl, fun _ => rfl⟩
    · intro scheduleId dueAt _ none
      rw [findDue_setStatus, none]
      rfl

theorem recordScheduleNotification_later {notification result : ScheduleNotification}
    (recorded : store.recordScheduleNotification dates scope notification =
      .ok (result, store')) : Later store store' := by
  obtain ⟨candidate, _, recorded⟩ := bind_ok recorded
  obtain ⟨_, _, recorded⟩ := bind_ok recorded
  repeat' split at recorded
  all_goals cases recorded
  · exact Later.refl _
  · exact later_of_same rfl rfl

theorem appendIdempotent_later [DecidableEq Payload] {event : CanonicalEvent Payload}
    {appended : Bool}
    (appends : store.appendIdempotent dates scope event = .ok (appended, store')) :
    Later store store' := by
  obtain ⟨candidate, _, appends⟩ := bind_ok appends
  obtain ⟨_, _, appends⟩ := bind_ok appends
  repeat' split at appends
  all_goals cases appends
  · exact Later.refl _
  · exact later_of_same rfl rfl

end SqliteScopedChannelStore

end AnnaAgent.EventStore
