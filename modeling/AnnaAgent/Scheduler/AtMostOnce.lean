/-
At most one run per occurrence.

The permit to call `createRun` for an occurrence is a successful
`claimScheduleOccurrenceExecution`, which starts the occurrence; started is
final, so there is one permit for each occurrence.  An instance asks for it
with an occurrence it has read from the store, and what it has read stays
recorded under its identity whatever the others do in between.
-/

import AnnaAgent.Foundation.Permit
import AnnaAgent.EventStore.OccurrenceLifecycle
import AnnaAgent.Scheduler.System

namespace AnnaAgent.Scheduler

open Foundation EventStore SqliteScopedChannelStore
open SqliteScopedChannelStore (Later)

variable {deployment : Deployment}

variable {after before : World} {occurrence : ScheduleOccurrence}

theorem transact_later {α : Type} {world : World} {body : Store → Except Thrown (α × Store)}
    {answer : Except Thrown α}
    (keeps : ∀ value store', body world.store = .ok (value, store') → Later world.store store')
    (done : world.transact body = (answer, after)) : Later world.store after.store := by
  have isAfter := congrArg Prod.snd done
  change { world with store := (atomically body world.store).2 } = after at isAfter
  rw [← isAfter]
  change Later world.store (atomically body world.store).2
  unfold atomically
  cases result : body world.store with
  | error error => exact Later.refl world.store
  | ok committed =>
    rcases committed with ⟨value, store'⟩
    exact keeps value store' result

theorem perform_later {env : Env} {id : InstanceId} {request : Request}
    {answer : Except Thrown request.Response}
    (done : perform deployment env id before request = (answer, after)) :
    Later before.store after.store := by
  cases request with
  | createSchedule schedule =>
    exact transact_later (fun _ _ => createSchedule_later) done
  | cancelSchedule scheduleId cancelledAt =>
    exact transact_later (fun _ _ => cancelSchedule_later) done
  | appendIdempotent event =>
    exact transact_later (fun _ _ => appendIdempotent_later) done
  | skipScheduleOccurrence occurrence =>
    exact transact_later (fun _ _ => skipScheduleOccurrence_later) done
  | claimScheduleOccurrence occurrence =>
    exact transact_later (fun _ _ => claimScheduleOccurrence_later) done
  | claimScheduleOccurrenceRecovery occurrence ownerId =>
    exact transact_later (fun _ _ => claimScheduleOccurrenceRecovery_later) done
  | claimScheduleOccurrenceExecution occurrence ownerId =>
    exact transact_later (fun _ _ => claimScheduleOccurrenceExecution_later) done
  | recordScheduleNotification notification =>
    exact transact_later (fun _ _ => recordScheduleNotification_later) done
  | listSchedules | hasScheduleTriggerRegistration | listScheduleOccurrences |
    listScheduleNotifications | createRun | now | processingHas | processingAdd |
    processingDelete | setInterval | leaseLost | clearInterval =>
      cases done
      exact Later.refl _

theorem renew_later (storeNow : Int) (id : InstanceId) (timer : Timer) (world : World) :
    Later world.store (renew deployment storeNow id timer world).store := by
  change Later world.store (world.transact (fun store => store.renewScheduleOccurrenceRecovery
    deployment.dates deployment.scope storeNow timer.occurrence
    (deployment.services id).recoveryOwnerId)).2.store
  exact transact_later (fun _ _ => renewScheduleOccurrenceRecovery_later) rfl

theorem drift_later (drifted : Drift deployment before after) : Later before.store after.store := by
  cases drifted with
  | renewed storeNow id set => exact renew_later storeNow id _ before
  | registered trigger =>
    refine later_of_same ?_ ?_
    · change (before.store.registerScheduleTrigger trigger).scheduleOccurrences = _
      unfold registerScheduleTrigger
      split
      · rfl
      · rfl
    · change (before.store.registerScheduleTrigger trigger).schedules = _
      unfold registerScheduleTrigger
      split
      · rfl
      · rfl
  | appended events longer => exact later_of_same rfl rfl

theorem host_respects (deployment : Deployment) :
    (host deployment).Respects (fun before after => Later before.store after.store) :=
  { refl := fun world => Later.refl world.store
    trans := Later.trans
    performs := by
      rintro id request before answer after ⟨env, done⟩
      exact perform_later done
    stops := by
      intro id before after stopped
      change after = before.setInstance id _ at stopped
      rw [stopped]
      exact Later.refl before.store
    drifts := drift_later }

abbrev Due := ScheduleId × Timestamp

def executionGrants : (request : Request) → Except Thrown request.Response → Option Due
  | .claimScheduleOccurrenceExecution occurrence _, .ok true =>
    some (occurrence.scheduleId, occurrence.dueAt)
  | _, _ => none

def createRunNeeds : Request → Option Due
  | .createRun scheduleId dueAt _ => some (scheduleId, dueAt)
  | _ => none

def World.Started (due : Due) (world : World) : Prop :=
  ∃ row, world.store.findDue due.1 due.2 = some row ∧ row.status = some .started

theorem started_later {due : Due} (later : Later before.store after.store)
    (started : before.Started due) : after.Started due := by
  rcases started with ⟨row, found, isStarted⟩
  obtain ⟨row', found', _, keeps⟩ := later.recorded found
  refine ⟨row', found', ?_⟩
  rw [keeps (isStarted ▸ trivial), isStarted]

def createRunProtocol (deployment : Deployment) :
    Protocol World InstanceId Request Request.Response Thrown Due :=
  { host := host deployment
    later := fun before after => Later before.store after.store
    respects := host_respects deployment
    grants := executionGrants
    needs := createRunNeeds
    spent := World.Started
    stays := started_later
    exclusive := by
      intro request due needed answer
      cases request with
      | createRun scheduleId dueAt run => rfl
      | _ => cases needed }

def World.Recorded (occurrence : ScheduleOccurrence) (world : World) : Prop :=
  ∃ row, world.store.findDue occurrence.scheduleId occurrence.dueAt = some row ∧
    row.id = occurrence.id

theorem recorded_later (later : Later before.store after.store)
    (recorded : before.Recorded occurrence) : after.Recorded occurrence := by
  rcases recorded with ⟨row, found, sameId⟩
  obtain ⟨row', found', sameId', _⟩ := later.recorded found
  exact ⟨row', found', sameId'.trans sameId⟩

theorem transact_ok {α : Type} {world : World} {body : Store → Except Thrown (α × Store)}
    {value : α} (done : world.transact body = (.ok value, after)) :
    body world.store = .ok (value, after.store) := by
  have isAnswer : (atomically body world.store).1 = .ok value := congrArg Prod.fst done
  have isAfter : { world with store := (atomically body world.store).2 } = after :=
    congrArg Prod.snd done
  rw [← isAfter]
  change body world.store = Except.ok (value, (atomically body world.store).2)
  unfold atomically at isAnswer ⊢
  cases result : body world.store with
  | error error =>
    rw [result] at isAnswer
    cases isAnswer
  | ok committed =>
    rcases committed with ⟨other, store'⟩
    rw [result] at isAnswer
    cases isAnswer
    rfl

theorem claim_recorded {env : Env} {id : InstanceId} {claim : ScheduleOccurrenceClaim}
    (done : perform deployment env id before (.claimScheduleOccurrence occurrence) = (.ok claim,
      after)) {claimed : ScheduleOccurrence}
    (isClaimed : claim = .claimed claimed ∨ claim = .alreadyClaimed claimed) :
    claimed.scheduleId = occurrence.scheduleId ∧ after.Recorded claimed :=
  claimScheduleOccurrence_recorded (transact_ok done) isClaimed

theorem execution_grants {env : Env} {id : InstanceId} {ownerId : String}
    (recorded : before.Recorded occurrence)
    (done : perform deployment env id before (.claimScheduleOccurrenceExecution occurrence ownerId)
      = (.ok true, after)) :
    ¬ before.Started (occurrence.scheduleId, occurrence.dueAt) ∧
      after.Started (occurrence.scheduleId, occurrence.dueAt) := by
  obtain ⟨existing, found, unfinished, isAfter⟩ :=
    claimScheduleOccurrenceExecution_true (transact_ok done)
  rcases recorded with ⟨row, foundRow, sameId⟩
  have looked := Table.find?_of_mem (findDue_mem foundRow)
  rw [sameId, found] at looked
  cases looked
  refine ⟨?_, ?_⟩
  · rintro ⟨other, foundOther, isStarted⟩
    change before.store.findDue occurrence.scheduleId occurrence.dueAt = some other at foundOther
    rw [foundRow] at foundOther
    cases foundOther
    apply unfinished
    rw [isStarted]
    exact trivial
  · refine ⟨{ existing with status := some .started }, ?_, rfl⟩
    rw [isAfter, findDue_setStatus]
    change (before.store.findDue occurrence.scheduleId occurrence.dueAt).map _ = _
    rw [foundRow, Option.map_some, if_pos sameId]

section Abides

variable {id : InstanceId} {held : Option Due} {world : World} {dates : Dates}
  {service : SchedulerService}

open Protocol

theorem appendLifecycleOnce_abides (eventId : EventId) (type : String)
    (payload : LifecyclePayload) (scope : ScheduleRecord) :
    (createRunProtocol deployment).Abides id
      (SchedulerService.appendLifecycleOnce dates eventId type payload scope) none world := by
  refine abides_call_any ⟨rfl, fun _ => rfl⟩ ?_
  intro timestamp now _
  refine abides_lift_bind ?_
  intro event _
  exact abides_call_any ⟨rfl, fun _ => rfl⟩ (fun _ _ _ => trivial)

variable {now : Timestamp} {schedule : ScheduleRecord} {claimedOccurrence : ScheduleOccurrence}
  {dueAt : Timestamp}

theorem runOccurrence_abides {timer : TimerId} :
    (createRunProtocol deployment).Abides id
      (SchedulerService.runOccurrence dates now schedule dueAt claimedOccurrence timer)
      (some (schedule.id, claimedOccurrence.dueAt)) world := by
  refine abides_lift_bind ?_
  intro run _
  refine abides_spend rfl ?_
  intro _ _ _
  refine abides_call_any ⟨rfl, fun _ => rfl⟩ ?_
  intro leaseLost _ _
  cases leaseLost with
  | true => exact trivial
  | false =>
    refine abides_bind (appendLifecycleOnce_abides _ _ _ _) ?_
    intro _ _ _
    refine abides_call_any ⟨rfl, fun _ => rfl⟩ ?_
    intro _ _ _
    exact appendLifecycleOnce_abides _ _ _ _

theorem takeUp_abides (sameSchedule : claimedOccurrence.scheduleId = schedule.id)
    (recorded : world.Recorded claimedOccurrence) :
    (createRunProtocol deployment).Abides id
      (service.takeUp dates now schedule dueAt claimedOccurrence) none world := by
  refine abides_call_any ⟨rfl, fun _ => rfl⟩ ?_
  intro busy asked askedLater
  cases busy with
  | true => exact trivial
  | false =>
    refine abides_call_any ⟨rfl, fun _ => rfl⟩ ?_
    intro leased leasedAt leasedLater
    cases leased with
    | false => exact trivial
    | true =>
      have leasedRecorded := recorded_later leasedLater (recorded_later askedLater recorded)
      refine abides_grant rfl ?_ ?_
      · rintro before beforeLater answer after ⟨env, done⟩ due granted
        cases answer with
        | error error => cases granted
        | ok executing =>
          cases executing with
          | false => cases granted
          | true =>
            cases granted
            exact execution_grants (recorded_later beforeLater leasedRecorded) done
      · intro executing _ _
        cases executing with
        | false => exact trivial
        | true =>
          change (createRunProtocol deployment).Abides id _
            (some (claimedOccurrence.scheduleId, claimedOccurrence.dueAt)) _
          rw [sameSchedule]
          refine abides_call_any ⟨rfl, fun _ => rfl⟩ ?_
          intro _ _ _
          refine abides_call_any ⟨rfl, fun _ => rfl⟩ ?_
          intro timer _ _
          refine abides_tryFinally runOccurrence_abides ?_
          intro _ _
          refine abides_call_any ⟨rfl, fun _ => rfl⟩ ?_
          intro _ _ _
          exact abides_call_any ⟨rfl, fun _ => rfl⟩ (fun _ _ _ => trivial)

theorem skipDue_abides :
    (createRunProtocol deployment).Abides id
      (SchedulerService.skipDue dates schedule dueAt occurrence) none world := by
  refine abides_call_any ⟨rfl, fun _ => rfl⟩ ?_
  intro skipped _ _
  cases skipped with
  | true => exact appendLifecycleOnce_abides _ _ _ _
  | false =>
    refine abides_call_any ⟨rfl, fun _ => rfl⟩ ?_
    intro occurrences _ _
    dsimp only
    split
    · exact trivial
    · exact appendLifecycleOnce_abides _ _ _ _

theorem claimDue_abides {recovering : Bool} (sameSchedule : occurrence.scheduleId = schedule.id) :
    (createRunProtocol deployment).Abides id
      (service.claimDue dates recovering now schedule dueAt occurrence) none world := by
  refine abides_call ⟨rfl, fun _ => rfl⟩ ?_
  rintro before _ claim after ⟨env, done⟩
  cases claim with
  | claimed claimedOccurrence =>
    obtain ⟨same, recorded⟩ := claim_recorded done (Or.inl rfl)
    exact takeUp_abides (same.trans sameSchedule) recorded
  | scheduleInactive => exact trivial
  | alreadyClaimed claimedOccurrence =>
    obtain ⟨same, recorded⟩ := claim_recorded done (Or.inr rfl)
    dsimp only
    split
    · exact trivial
    · refine abides_call_any ⟨rfl, fun _ => rfl⟩ ?_
      intro notifications listed listedLater
      split
      · exact trivial
      · exact takeUp_abides (same.trans sameSchedule) (recorded_later listedLater recorded)

theorem processSchedule_abides {recovering : Bool} {nowMs : Int} :
    (createRunProtocol deployment).Abides id
      (service.processSchedule dates recovering now nowMs schedule) none world := by
  unfold SchedulerService.processSchedule
  split
  · exact trivial
  · refine abides_lift_bind ?_
    intro latest _
    cases latest with
    | none => exact trivial
    | some dueAt =>
      dsimp only
      split
      · exact skipDue_abides
      · exact claimDue_abides rfl

theorem processDue_abides (recovering : Bool) :
    (createRunProtocol deployment).Abides id (service.processDue dates recovering) none world := by
  refine abides_call_any ⟨rfl, fun _ => rfl⟩ ?_
  intro now _ _
  refine abides_lift_bind ?_
  intro nowMs _
  refine abides_call_any ⟨rfl, fun _ => rfl⟩ ?_
  intro schedules _ _
  exact abides_forEach (fun _ _ _ _ => processSchedule_abides)

theorem schedule_abides (record : ScheduleRecord) :
    (createRunProtocol deployment).Abides id (service.schedule dates record) none world := by
  refine abides_lift_bind ?_
  intro parsed _
  refine abides_lift_bind ?_
  intro _ _
  refine abides_bind ?_ ?_
  · unfold SchedulerService.triggerRegistered
    split
    · exact abides_request ⟨rfl, fun _ => rfl⟩
    · exact trivial
  · intro registered _ _
    dsimp only
    split
    · exact trivial
    · refine abides_call_any ⟨rfl, fun _ => rfl⟩ ?_
      intro schedule _ _
      exact abides_bind (appendLifecycleOnce_abides _ _ _ _) (fun _ _ _ => trivial)

theorem cancel_abides (scheduleId : ScheduleId) :
    (createRunProtocol deployment).Abides id (SchedulerService.cancel dates scheduleId) none
      world := by
  refine abides_call_any ⟨rfl, fun _ => rfl⟩ ?_
  intro timestamp _ _
  refine abides_call_any ⟨rfl, fun _ => rfl⟩ ?_
  intro cancelled _ _
  cases cancelled with
  | none => exact trivial
  | some schedule => exact abides_bind (appendLifecycleOnce_abides _ _ _ _) (fun _ _ _ => trivial)

end Abides

theorem protocol_admits (deployment : Deployment) : (createRunProtocol deployment).Admits := by
  rintro id program world ⟨_, call, isProgram⟩
  rw [isProgram]
  cases call with
  | schedule record => exact Protocol.abides_bind (schedule_abides record) (fun _ _ _ => trivial)
  | list => exact Protocol.abides_call_any ⟨rfl, fun _ => rfl⟩ (fun _ _ _ => trivial)
  | cancel scheduleId =>
    exact Protocol.abides_bind (cancel_abides scheduleId) (fun _ _ _ => trivial)
  | tick => exact processDue_abides false
  | recover => exact processDue_abides true

/-! ### Runs -/

section Runs

variable {trace : List (Move Crowd Happening)} {last : Crowd} {scheduleId : ScheduleId}
  {dueAt : Timestamp}

theorem createRuns_eq_spends (deployment : Deployment) (trace : List (Move Crowd Happening))
    (scheduleId : ScheduleId) (dueAt : Timestamp) :
    createRuns scheduleId dueAt trace =
      trace.countP ((createRunProtocol deployment).spends (scheduleId, dueAt)) := by
  unfold createRuns
  congr 1
  funext move
  unfold Protocol.spends
  cases move.label with
  | answered id request answer =>
    cases request with
    | createRun schedule due run =>
      change decide (schedule = scheduleId ∧ due = dueAt) =
        decide (some (schedule, due) = some (scheduleId, dueAt))
      simp only [Option.some.injEq, Prod.mk.injEq]
    | _ => rfl
  | _ => rfl

variable {move : Move Crowd Happening}

theorem later_of_mem (run : SchedulerRun deployment trace last) (member : move ∈ trace) :
    Later move.after.shared.store last.shared.store := by
  obtain ⟨early, late, isTrace⟩ := List.append_of_mem member
  subst isTrace
  exact (host_respects deployment).run run.around.2.2

theorem createRuns_eq_zero (run : SchedulerRun deployment trace last)
    (unstarted : ¬ last.shared.Started (scheduleId, dueAt)) :
    createRuns scheduleId dueAt trace = 0 := by
  rw [createRuns_eq_spends deployment]
  exact Protocol.spends_eq_zero (protocol_admits deployment) run unstarted

theorem not_started_of_skipped {world : World} (later : Later world.store after.store)
    (skipped : world.Skipped scheduleId dueAt) : ¬ after.Started (scheduleId, dueAt) := by
  rintro ⟨row, found, isStarted⟩
  rcases skipped with ⟨old, foundOld, isSkipped⟩
  obtain ⟨row', found', _, keeps⟩ := later.recorded foundOld
  have same := keeps (isSkipped ▸ trivial)
  change after.store.findDue scheduleId dueAt = some row at found
  rw [found'] at found
  cases found
  rw [same, isSkipped] at isStarted
  cases isStarted

theorem not_started_of_cancelled {world : World} (later : Later world.store after.store)
    (retired : world.store.Retired scheduleId) (unclaimed : world.Unclaimed scheduleId dueAt) :
    ¬ after.Started (scheduleId, dueAt) := by
  rintro ⟨row, found, _⟩
  change after.store.findDue scheduleId dueAt = some row at found
  rw [later.closed retired unclaimed] at found
  cases found

theorem retired_of_cancels (step : (host deployment).Step move.before move.label move.after)
    (cancels : move.label.Cancels scheduleId) : move.after.shared.store.Retired scheduleId := by
  rcases move with ⟨before, label, after⟩
  rcases cancels with ⟨id, cancelledAt, schedule, isLabel⟩
  change label = _ at isLabel
  subst isLabel
  cases step with
  | answered waiting performed =>
    rcases performed with ⟨env, done⟩
    exact cancelSchedule_retired (transact_ok done)

/-- `createRun` is invoked at most once for an occurrence, never for one that
is recorded as skipped at some point of the run, and never for one that is not
claimed yet when its schedule is cancelled. -/
theorem create_run_at_most_once (run : SchedulerRun deployment trace last)
    (scheduleId : ScheduleId) (dueAt : Timestamp) :
    createRuns scheduleId dueAt trace ≤ 1 ∧
      (∀ move ∈ trace, move.after.shared.Skipped scheduleId dueAt →
        createRuns scheduleId dueAt trace = 0) ∧
      (∀ move ∈ trace, move.label.Cancels scheduleId →
        move.after.shared.Unclaimed scheduleId dueAt →
        createRuns scheduleId dueAt trace = 0) := by
  refine ⟨?_, ?_, ?_⟩
  · rw [createRuns_eq_spends deployment]
    exact Protocol.spends_le_one (protocol_admits deployment) run _
  · intro move member skipped
    exact createRuns_eq_zero run (not_started_of_skipped (later_of_mem run member) skipped)
  · intro move member cancels unclaimed
    have retired := retired_of_cancels (run.step_of_mem member) cancels
    exact createRuns_eq_zero run
      (not_started_of_cancelled (later_of_mem run member) retired unclaimed)

def sampleScope : ChannelScope := { workspaceId := "w", channelId := "c" }

def sampleRun : ScheduledRunSpec :=
  { workspaceId := "w"
    channelId := "c"
    goal := "brief"
    sourceEventId := "e1"
    permissionScope := "p1"
    stopCondition := "done"
    allowedTools := []
    trigger := .explicit "call"
    notificationAudience := ["a1"] }

def sampleSchedule : ScheduleRecord :=
  { id := "s1"
    workspaceId := "w"
    channelId := "c"
    kind := .explicit
    trigger := .explicit "call"
    dueAt := "noon"
    catchUpPolicy := .runLatest
    status := .active
    run := sampleRun
    recurrence := none }

/-- Every text is the instant zero. -/
def sampleDeployment : Deployment :=
  { dates :=
      { parse := fun _ => some 0
        toISOString := fun _ => none }
    scope := sampleScope
    services := fun id =>
      { recoveryOwnerId := if id = 0 then "first" else "second"
        permissionScopes := ["p1"]
        allowedTools := [] } }

def sampleEnv : Env :=
  { storeNow := 0
    clock := "noon"
    createRun := .ok () }

/-- One instance schedules, then two instances tick step by step in turn. -/
def tickTogether : List Choice :=
  .call 0 (.schedule sampleSchedule) :: List.replicate 4 (.answer 0 sampleEnv) ++
    .call 0 .tick :: .call 1 .tick ::
      (List.replicate 14 [.answer 1 sampleEnv, .answer 2 sampleEnv]).flatten

theorem create_run_at_most_once_two_ticks :
    0 < createRuns "s1" "noon"
        (play sampleDeployment tickTogether ⟨World.empty, []⟩).1 ∧
      createRuns "s1" "noon"
        (play sampleDeployment tickTogether ⟨World.empty, []⟩).1 ≤ 1 :=
  ⟨by decide +kernel, (create_run_at_most_once
    (play_run sampleDeployment tickTogether ⟨World.empty, []⟩) _ _).1⟩

end Runs

end AnnaAgent.Scheduler
