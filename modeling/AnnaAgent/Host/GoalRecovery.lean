/-
An active goal after a restart.

A goal that no operation is working on refers to a run that is claimed or has
failed its admission, and no run is recorded that it does not refer to.  Then a
tick moves it on as soon as that run has come to an end.  A stop of the host
between the first record of a run and its claim breaks this.
-/

import AnnaAgent.Host.GoalControl

namespace AnnaAgent.Host.GoalRuns

open Foundation
open EventStore (OutcomeStatus)

variable {sessionId : String} {before after : Service} {event : Event}

def Service.Landed (service : Service) (goal : WorkbenchGoalRecord) : Prop :=
  ∃ last run, goal.runIds.getLast? = some last ∧ service.state.getRun last = some run ∧
    (run.admissionStatus = some .failed ∨ (service.events last).isSome = true)

def Service.Refers (sessionId : String) (service : Service) (run : WorkbenchRunRecord) : Prop :=
  (∃ goal, service.goal sessionId = some goal ∧ goal.runIds.getLast? = some run.runId) ∧
    (service.state.getRun run.runId).isSome = true

def Service.Unsubmitted (sessionId : String) (service : Service) (goalId : String) (count : Nat) :
    Prop :=
  ∀ index, count < index → service.state.runOfSource sessionId (goalSource goalId index) = none

def Phase.Leads (sessionId : String) (service : Service) : Phase → Prop
  | .deciding goal _ => service.Landed goal
  | .resuming _ goal => service.Landed goal
  | .submitting _ goal _ _ => goal.runIds = [] ∨ service.Landed goal
  | .referring goal run isNew =>
    isNew = true ∧ run.runId ∉ goal.runIds ∧
      (service.state.getRun run.runId).isSome = true ∧
        service.Unsubmitted sessionId goal.goalId (goal.runIds.length + 1)
  | .checking _ => False
  | .preparing run => service.Refers sessionId run
  | .starting run => service.Refers sessionId run
  | .markingStarted run =>
    service.Refers sessionId run ∧ (service.events run.runId).isSome = true
  | .markingFailed run _ => service.Refers sessionId run

/-- A run is recorded that the goal does not refer to yet. -/
def Phase.isReferring : Phase → Bool
  | .referring _ _ _ => true
  | _ => false

structure Recoverable (sessionId : String) (service : Service) : Prop where
  known : ∀ goal, service.goal sessionId = some goal → ∀ id ∈ goal.runIds, id ∈ service.state.runIds
  unsubmitted : service.busy.any Phase.isReferring = false → ∀ goal,
    service.goal sessionId = some goal →
      service.Unsubmitted sessionId goal.goalId goal.runIds.length
  idle : service.busy = none → ∀ goal, service.goal sessionId = some goal → service.Landed goal
  busy : ∀ phase, service.busy = some phase → phase.Leads sessionId service

/-- The host does not stop between the first record of a run of the goal and its
claim; before its first run, that is the record of the goal. -/
def Phase.Survives (service : Service) : Phase → Prop
  | .submitting _ goal _ _ => goal.runIds ≠ []
  | .referring _ _ _ => False
  | .checking run => (service.events run.runId).isSome = true
  | .preparing run => (service.events run.runId).isSome = true
  | .starting run => (service.events run.runId).isSome = true
  | .markingFailed run _ => (service.events run.runId).isSome = true
  | _ => True

def Recovers (before : Service) : Event → Prop
  | .crashed => ∀ phase, before.busy = some phase → phase.Survives before
  | _ => True

variable {goal : WorkbenchGoalRecord} {goalId runId : String} {state : WorkbenchState}
variable {patched : WorkbenchGoalRecord}

theorem Service.Landed.of_state (landed : before.Landed goal)
    (sameRuns : after.state.runs = before.state.runs)
    (events : ∀ id, (before.events id).isSome = true → (after.events id).isSome = true)
    (sameIds : patched.runIds = goal.runIds) : after.Landed patched := by
  rcases landed with ⟨last, run, isLast, isRun, ended⟩
  refine ⟨last, run, ?_, ?_, ?_⟩
  · rw [sameIds]
    exact isLast
  · unfold WorkbenchState.getRun
    rw [sameRuns]
    exact isRun
  · rcases ended with hasFailed | isClaimed
    · exact Or.inl hasFailed
    · exact Or.inr (events last isClaimed)

theorem AlikeRuns.runOfSource {left right : WorkbenchState} (alike : AlikeRuns left right)
    {source : String} (absent : left.runOfSource sessionId source = none) :
    right.runOfSource sessionId source = none := by
  apply List.find?_eq_none.2
  intro run' member
  rcases alike.back member with ⟨run, isRun, alikeRun⟩
  rw [alikeRun.sessionId, alikeRun.sourceEventId]
  exact List.find?_eq_none.1 absent run isRun

theorem goalSource_injective {index other : Nat}
    (same : goalSource goalId index = goalSource goalId other) : index = other :=
  Nat.repr_inj.1 ((String.append_right_inj _).1 same)

/-! ### The steps of one submission -/

theorem getLast_referRun (fresh : runId ∉ goal.runIds) (timestamp : String) :
    (referRun runId timestamp goal).runIds = goal.runIds ++ [runId] := by
  simp only [referRun]
  rw [if_neg fresh]

variable {run : WorkbenchRunRecord}

theorem markRunAdmission_getRun {status : AdmissionStatus} {error : Option String}
    {left right : WorkbenchState} (isRun : left.getRun runId = some run)
    (marked : markRunAdmission runId status error left = .ok right) :
    ∃ run', right.getRun runId = some run' ∧ run'.admissionStatus = some status := by
  have sameId := List.find?_some isRun
  unfold markRunAdmission at marked
  rw [isRun] at marked
  cases marked
  refine ⟨_, find?_updateFirst_of_both isRun isRun ?_, rfl⟩
  exact sameId

variable {id : String}

theorem getRun_isSome (member : id ∈ state.runIds) :
    (state.getRun id).isSome = true := by
  rcases List.mem_map.1 member with ⟨run, isRun, sameId⟩
  apply List.find?_isSome.2
  exact ⟨run, isRun, decide_eq_true sameId⟩

theorem getRun_mem (isRun : state.getRun id = some run) :
    id ∈ state.runIds := by
  have sameId : run.runId = id := by
    unfold WorkbenchState.getRun at isRun
    have found := List.find?_some isRun
    exact of_decide_eq_true found
  rw [← sameId]
  exact List.mem_map_of_mem (List.mem_of_find?_eq_some isRun)

theorem Recoverable.known_step (recoverable : Recoverable sessionId before)
    (safe : Safe sessionId before) (taken : Step sessionId before event after)
    (isGoal : after.goal sessionId = some goal) (member : id ∈ goal.runIds) :
    id ∈ after.state.runIds := by
  have grows : ∀ other ∈ before.state.runIds, other ∈ after.state.runIds := by
    intro other wasRun
    cases runs_step taken with
    | alike alike =>
      rw [alike.runIds]
      exact wasRun
    | added _ _ _ runs _ _ =>
      unfold WorkbenchState.runIds
      rw [runs, List.map_append]
      exact List.mem_append_left _ wasRun
  apply grows
  cases safe.change taken with
  | same kept _ _ =>
    rw [kept] at isGoal
    exact recoverable.known goal isGoal id member
  | written isWritten _ _ _ _ =>
    cases isWritten.symm.trans isGoal
    cases member
  | controlled wasGoal allowed isPatched _ =>
    cases isPatched.symm.trans isGoal
    rw [(controlGoal_ok allowed).2] at member
    exact recoverable.known _ wasGoal id member
  | decided _ wasGoal isPatched _ =>
    cases isPatched.symm.trans isGoal
    rw [(decidedGoal_same _ _ _ _).2.1] at member
    exact recoverable.known _ wasGoal id member
  | referred wasBusy wasGoal isPatched _ =>
    cases isPatched.symm.trans isGoal
    have leads := recoverable.busy _ wasBusy
    rw [getLast_referRun leads.2.1] at member
    rcases List.mem_append.1 member with old | isNew
    · exact recoverable.known _ wasGoal id old
    · rw [List.mem_singleton.1 isNew]
      rcases Option.isSome_iff_exists.1 leads.2.2.1 with ⟨run, isRun⟩
      exact getRun_mem isRun

variable {session : WorkbenchSessionRecord}

theorem submit_created {service : Service} {prompt : String} {trigger : RunTrigger}
    {timestamp : String} (sameSession : session.sessionId = sessionId)
    (unsubmitted : service.Unsubmitted sessionId goal.goalId goal.runIds.length)
    (unused : runId ∉ service.state.runIds) :
    createOrGetRun (goalRun session goal prompt trigger runId timestamp) service.state =
      (.created (goalRun session goal prompt trigger runId timestamp),
        { sessions := touchSession (goalRun session goal prompt trigger runId timestamp)
            service.state.sessions
          runs := service.state.runs ++
            [goalRun session goal prompt trigger runId timestamp] }) := by
  apply createOrGetRun_absent _ unused
  change service.state.runOfSource session.sessionId _ = none
  rw [sameSession]
  exact unsubmitted _ (Nat.lt_succ_self _)

variable {phase : Phase}

theorem Recoverable.submitted (recoverable : Recoverable sessionId before)
    (safe : Safe sessionId before) {prompt : String} {trigger : RunTrigger} {timestamp : String}
    (here : before.busy = some (.submitting session goal prompt trigger))
    (unused : runId ∉ before.state.runIds)
    (isNext : (before.submit goal (goalRun session goal prompt trigger runId timestamp)).busy =
      some phase) :
    phase.isReferring = true ∧ phase.Leads sessionId
      (before.submit goal (goalRun session goal prompt trigger runId timestamp)) := by
  have fits := safe.busy _ here
  have unsubmitted : before.Unsubmitted sessionId goal.goalId goal.runIds.length := by
    apply recoverable.unsubmitted _ goal fits.1.1
    rw [here]
    rfl
  unfold Service.submit at isNext ⊢
  rw [submit_created fits.1.2 unsubmitted unused] at isNext ⊢
  cases isNext
  refine ⟨rfl, rfl, ?_, ?_, ?_⟩
  · intro member
    exact unused (recoverable.known goal fits.1.1 runId member)
  · apply getRun_isSome
    unfold WorkbenchState.runIds
    change runId ∈ (before.state.runs ++ _).map WorkbenchRunRecord.runId
    rw [List.map_append]
    exact List.mem_append_right _ (List.mem_singleton.2 rfl)
  · intro index later
    have wasNone := unsubmitted index (by omega)
    unfold WorkbenchState.runOfSource at wasNone ⊢
    change (before.state.runs ++ [_]).find? _ = none
    rw [List.find?_append, wasNone, Option.none_or, List.find?_cons]
    have otherSource : goalSource goal.goalId (goal.runIds.length + 1) ≠
        goalSource goal.goalId index := by
      intro same
      have sameIndex := goalSource_injective same
      omega
    have notSource : decide ((goalRun session goal prompt trigger runId timestamp).sourceEventId =
        goalSource goal.goalId index) = false := decide_eq_false otherSource
    rw [notSource, Bool.and_false]
    rfl

theorem referring_left (taken : Step sessionId before event after)
    (wasReferring : before.busy.any Phase.isReferring = true) :
    after.busy = before.busy ∨ (∃ goalId runId, event = .referred goalId runId) ∨
      event = .crashed := by
  cases taken with
  | created request goalId timestamp idle found fresh unused unowned written stored
  | controlled action timestamp idle found hasGoal allowed stored
  | ticked idle found hasGoal active =>
    rw [idle] at wasReferring
    cases wasReferring
  | evidenceRead here | decided timestamp here stored
  | submitted runId timestamp here unused unclaimed | checked here | prepared here
  | prepareFailed failureCode here | claimed here unclaimed
  | startReturned here isClaimed | startFailed failureCode here
  | markedStarted here marked | markedFailed here marked =>
    rw [here] at wasReferring
    cases wasReferring
  | referred timestamp here stored => exact Or.inr (Or.inl ⟨_, _, rfl⟩)
  | appended runId event isClaimed goesOn notResumed
  | continued runId isClaimed hasOutcome suspended => exact Or.inl rfl
  | crashed => exact Or.inr (Or.inr rfl)

theorem Recoverable.unsubmitted_step (recoverable : Recoverable sessionId before)
    (safe : Safe sessionId before) (taken : Step sessionId before event after)
    (recovers : Recovers before event) (notReferring : after.busy.any Phase.isReferring = false)
    (isGoal : after.goal sessionId = some goal) :
    after.Unsubmitted sessionId goal.goalId goal.runIds.length := by
  cases runs_step taken with
  | added _ _ _ _ _ isReferring =>
    rw [isReferring] at notReferring
    cases notReferring
  | alike alike =>
    have transfer : ∀ {goalId : String} {count : Nat},
        before.Unsubmitted sessionId goalId count → after.Unsubmitted sessionId goalId count :=
      fun wasNone index later => alike.runOfSource (wasNone index later)
    have wasNotReferring : (∀ goalId runId, event ≠ .referred goalId runId) →
        before.busy.any Phase.isReferring = false := by
      intro notReferred
      cases wasReferring : before.busy.any Phase.isReferring with
      | false => rfl
      | true =>
        rcases referring_left taken wasReferring with sameBusy | ⟨goalId, runId, isReferred⟩ |
          isCrash
        · rw [sameBusy, wasReferring] at notReferring
          cases notReferring
        · exact absurd isReferred (notReferred goalId runId)
        · rw [isCrash] at recovers
          rcases (Option.any_eq_true _ _).1 wasReferring with ⟨phase, isPhase, isReferring⟩
          have survives := recovers phase isPhase
          cases phase with
          | referring run goal isNew => exact survives.elim
          | _ => cases isReferring
    apply transfer
    cases safe.change taken with
    | same kept _ notReferral =>
      rw [kept] at isGoal
      apply recoverable.unsubmitted (wasNotReferring _) _ isGoal
      intro goalId runId isReferred
      rw [isReferred] at notReferral
      cases notReferral
    | written isWritten _ _ _ unused =>
      cases isWritten.symm.trans isGoal
      intro index _
      exact unused index
    | controlled wasGoal allowed isPatched _ =>
      cases isPatched.symm.trans isGoal
      have patched := controlGoal_ok allowed
      rw [patched.1.goalId, patched.2]
      apply recoverable.unsubmitted (wasNotReferring _) _ wasGoal
      intro goalId runId isReferred
      cases isReferred
    | @decided old evidence progress timestamp wasBusy wasGoal isPatched _ =>
      cases isPatched.symm.trans isGoal
      have patched := decidedGoal_same (decideGoal old evidence) progress timestamp old
      rw [patched.1.goalId, patched.2.1]
      apply recoverable.unsubmitted (wasNotReferring _) _ wasGoal
      intro goalId runId isReferred
      cases isReferred
    | @referred old run isNew timestamp wasBusy wasGoal isPatched _ =>
      cases isPatched.symm.trans isGoal
      have leads := recoverable.busy _ wasBusy
      rw [getLast_referRun leads.2.1, List.length_append, List.length_singleton]
      exact leads.2.2.2

theorem Service.Landed.same (landed : before.Landed goal)
    (sameRuns : after.state.runs = before.state.runs) (events : after.events = before.events)
    (sameIds : patched.runIds = goal.runIds) : after.Landed patched :=
  landed.of_state sameRuns (fun id isClaimed => by rw [events]; exact isClaimed) sameIds

theorem Service.Refers.landed (refers : before.Refers sessionId run)
    (isGoal : before.goal sessionId = some goal)
    (isClaimed : (before.events run.runId).isSome = true) : before.Landed goal := by
  rcases refers with ⟨⟨stored, isStored, isLast⟩, isRecorded⟩
  cases isStored.symm.trans isGoal
  rcases Option.isSome_iff_exists.1 isRecorded with ⟨record, isRecord⟩
  exact ⟨run.runId, record, isLast, isRecord, Or.inr isClaimed⟩

theorem append_isSome {service : Service} {other : String} {event : RunEvent}
    (isClaimed : (service.events other).isSome = true) :
    ((service.append runId event).events other).isSome = true := by
  by_cases isRun : other = runId
  · subst isRun
    unfold Service.append
    dsimp only
    rw [Function.update_self, Option.isSome_map]
    exact isClaimed
  · rw [append_of_ne event isRun]
    exact isClaimed

theorem Recoverable.idle_step (recoverable : Recoverable sessionId before)
    (safe : Safe sessionId before) (taken : Step sessionId before event after)
    (recovers : Recovers before event) (isIdle : after.busy = none)
    (isGoal : after.goal sessionId = some goal) : after.Landed goal := by
  cases taken with
  | created request goalId timestamp idle found fresh unused unowned written stored =>
    cases isIdle
  | controlled action timestamp idle found hasGoal allowed stored =>
    rcases updateSession_found stored with ⟨_, _, changed, isSaved, _, sameRuns⟩
    cases changed
    cases (goal_of_state_session isSaved).symm.trans isGoal
    have landed := recoverable.idle idle _ ((goal_of_session found).trans hasGoal)
    exact landed.same sameRuns rfl (controlGoal_ok allowed).2
  | @evidenceRead session resumed here =>
    have leads : before.Landed resumed := recoverable.busy _ here
    have fits := safe.busy _ here
    split at isIdle
    · cases isIdle
    · rename_i goesOn
      rw [if_neg goesOn] at isGoal ⊢
      cases fits.1.1.symm.trans isGoal
      exact leads.same rfl rfl rfl
  | ticked idle found hasGoal active => cases isIdle
  | @decided decided evidence saved state timestamp here stored =>
    have fits := safe.busy _ here
    have leads : before.Landed decided := recoverable.busy _ here
    rcases onGoal_stored { before with state } fits.1 stored with ⟨isStored, _, _, sameRuns⟩
    cases isStored.symm.trans isGoal
    exact leads.same sameRuns rfl (decidedGoal_same _ _ _ _).2.1
  | @submitted session submitted prompt trigger runId timestamp here unused unclaimed =>
    have fits := safe.busy _ here
    have unsubmitted : before.Unsubmitted sessionId submitted.goalId submitted.runIds.length := by
      apply recoverable.unsubmitted _ submitted fits.1.1
      rw [here]
      rfl
    unfold Service.submit at isIdle
    rw [submit_created fits.1.2 unsubmitted unused] at isIdle
    cases isIdle
  | referred timestamp here stored => cases isIdle
  | checked here => exact (recoverable.busy _ here).elim
  | prepared here => cases isIdle
  | prepareFailed failureCode here => cases isIdle
  | claimed here unclaimed =>
    rw [here] at isIdle
    cases isIdle
  | startReturned here isClaimed => cases isIdle
  | startFailed failureCode here => cases isIdle
  | @markedStarted run state here marked =>
    have leads := recoverable.busy _ here
    have sameGoal : Service.goal sessionId { before with state } = before.goal sessionId :=
      goal_of_sessions (markRunAdmission_alike marked).2
    rcases leads.1 with ⟨⟨stored, isStored, isLast⟩, isRecorded⟩
    cases (isStored.symm.trans sameGoal.symm).trans isGoal
    rcases Option.isSome_iff_exists.1 isRecorded with ⟨record, isRecord⟩
    rcases markRunAdmission_getRun isRecord marked with ⟨later, isLater, _⟩
    exact ⟨run.runId, later, isLast, isLater, Or.inr leads.2⟩
  | @markedFailed run failureCode state here marked =>
    have leads := recoverable.busy _ here
    have sameGoal : Service.goal sessionId { before with state } = before.goal sessionId :=
      goal_of_sessions (markRunAdmission_alike marked).2
    rcases leads with ⟨⟨stored, isStored, isLast⟩, isRecorded⟩
    cases (isStored.symm.trans sameGoal.symm).trans isGoal
    rcases Option.isSome_iff_exists.1 isRecorded with ⟨record, isRecord⟩
    rcases markRunAdmission_getRun isRecord marked with ⟨later, isLater, hasFailed⟩
    exact ⟨run.runId, later, isLast, isLater, Or.inl hasFailed⟩
  | appended runId event isClaimed goesOn notResumed
  | continued runId isClaimed hasOutcome suspended =>
    exact (recoverable.idle isIdle goal isGoal).of_state rfl
      (fun _ wasClaimed => append_isSome wasClaimed) rfl
  | crashed =>
    have wasGoal : before.goal sessionId = some goal := isGoal
    cases wasBusy : before.busy with
    | none => exact (recoverable.idle wasBusy goal wasGoal).same rfl rfl rfl
    | some phase =>
      have leads := recoverable.busy phase wasBusy
      have fits := safe.busy phase wasBusy
      have survives := recovers phase wasBusy
      have landed : before.Landed goal := by
        cases phase with
        | deciding stored evidence =>
          cases fits.1.symm.trans wasGoal
          exact leads
        | resuming session stored =>
          cases fits.1.1.symm.trans wasGoal
          exact leads
        | submitting session stored prompt trigger =>
          cases fits.1.1.symm.trans wasGoal
          exact leads.resolve_left survives
        | referring stored run isNew => exact survives.elim
        | checking run => exact leads.elim
        | preparing run | starting run | markingFailed run failureCode =>
          exact leads.landed wasGoal survives
        | markingStarted run => exact leads.1.landed wasGoal leads.2
      exact landed.same rfl rfl rfl

theorem Service.Refers.same (refers : before.Refers sessionId run)
    (sameState : after.state = before.state) : after.Refers sessionId run := by
  unfold Service.Refers
  rw [goal_of_state sameState, sameState]
  exact refers

theorem Phase.Leads.of_append {runEvent : RunEvent} (leads : phase.Leads sessionId before) :
    phase.Leads sessionId (before.append runId runEvent) := by
  have landed : ∀ {goal : WorkbenchGoalRecord}, before.Landed goal →
      (before.append runId runEvent).Landed goal :=
    fun wasLanded => wasLanded.of_state rfl (fun _ isClaimed => append_isSome isClaimed) rfl
  cases phase with
  | deciding goal evidence | resuming session goal => exact landed leads
  | submitting session goal prompt trigger =>
    rcases leads with isFirst | wasLanded
    · exact Or.inl isFirst
    · exact Or.inr (landed wasLanded)
  | referring goal run isNew => exact leads
  | checking run => exact leads
  | preparing run => exact leads
  | starting run => exact leads
  | markingStarted run => exact ⟨leads.1, append_isSome leads.2⟩
  | markingFailed run failureCode => exact leads

theorem Recoverable.busy_step (recoverable : Recoverable sessionId before)
    (safe : Safe sessionId before) (taken : Step sessionId before event after)
    (isNext : after.busy = some phase) : phase.Leads sessionId after := by
  cases taken with
  | created request goalId timestamp idle found fresh unused unowned written stored =>
    cases isNext
    rw [createGoal_written written]
    exact Or.inl rfl
  | controlled action timestamp idle found hasGoal allowed stored =>
    rcases updateSession_found stored with ⟨_, _, _, _, _, sameRuns⟩
    have landed := recoverable.idle idle _ ((goal_of_session found).trans hasGoal)
    cases action with
    | resume maxRuns =>
      cases isNext
      exact landed.same sameRuns rfl (controlGoal_ok allowed).2
    | pause => cases isNext
    | stop => cases isNext
    | complete => cases isNext
  | evidenceRead here =>
    have leads := recoverable.busy _ here
    split at isNext
    · rename_i isTerminal
      cases isNext
      rw [if_pos isTerminal]
      exact Or.inr (leads.same rfl rfl rfl)
    · cases isNext
  | ticked idle found hasGoal active =>
    cases isNext
    have landed := recoverable.idle idle _ ((goal_of_session found).trans hasGoal)
    exact landed.same rfl rfl rfl
  | @decided goal evidence saved state timestamp here stored =>
    have fits := safe.busy _ here
    have leads : before.Landed goal := recoverable.busy _ here
    rcases onGoal_stored { before with state } fits.1 stored with ⟨_, hasGoal, _, sameRuns⟩
    rcases continueGoal_eq isNext with ⟨reason, updated, _, isUpdated, rfl⟩
    cases hasGoal.symm.trans isUpdated
    exact Or.inr (leads.same sameRuns rfl (decidedGoal_same _ _ _ _).2.1)
  | submitted runId timestamp here unused unclaimed =>
    exact (recoverable.submitted safe here unused isNext).2
  | @referred goal run isNew saved state timestamp here stored =>
    have fits := safe.busy _ here
    rcases recoverable.busy _ here with ⟨rfl, fresh, isRecorded, _⟩
    rcases onGoal_stored { before with state } fits.1 stored with ⟨isStored, _, _, sameRuns⟩
    cases isNext
    refine ⟨⟨_, isStored, ?_⟩, ?_⟩
    · rw [getLast_referRun fresh]
      exact List.getLast?_concat
    · unfold WorkbenchState.getRun at isRecorded ⊢
      rw [show Service.state _ = state from rfl, sameRuns]
      exact isRecorded
  | checked here => exact (recoverable.busy _ here).elim
  | prepared here | prepareFailed failureCode here | startFailed failureCode here =>
    have leads := recoverable.busy _ here
    cases isNext
    exact leads.same rfl
  | claimed here unclaimed =>
    have leads := recoverable.busy _ here
    cases here.symm.trans isNext
    exact leads.same rfl
  | startReturned here isClaimed =>
    have leads := recoverable.busy _ here
    cases isNext
    exact ⟨leads.same rfl, isClaimed⟩
  | markedStarted here marked => cases isNext
  | markedFailed here marked => cases isNext
  | appended runId event isClaimed goesOn notResumed
  | continued runId isClaimed hasOutcome suspended =>
    exact (recoverable.busy phase isNext).of_append
  | crashed => cases isNext

theorem Recoverable.step (recoverable : Recoverable sessionId before)
    (safe : Safe sessionId before) (taken : Step sessionId before event after)
    (recovers : Recovers before event) : Recoverable sessionId after :=
  { known := fun _ isGoal _ member => recoverable.known_step safe taken isGoal member
    unsubmitted := fun notReferring _ isGoal =>
      recoverable.unsubmitted_step safe taken recovers notReferring isGoal
    idle := fun isIdle _ isGoal => recoverable.idle_step safe taken recovers isIdle isGoal
    busy := fun _ isNext => recoverable.busy_step safe taken isNext }

/-! ### The next tick -/

def MovesOn (sessionId goalId : String) (service : Service) : Prop :=
  ∀ ticked decided, Step sessionId service (.ticked goalId) ticked →
    Step sessionId ticked (.decided goalId) decided →
      (∃ goal, decided.goal sessionId = some goal ∧ goal.status ≠ .active) ∨
        decided.busy.isSome = true ∧ ∀ runId submitted,
          Step sessionId decided (.submitted goalId runId) submitted →
            ∃ run, submitted.state.runs = decided.state.runs ++ [run] ∧ run.runId = runId ∧
              run.goalId = some goalId

def Service.GoesOn (service : Service) (goal : WorkbenchGoalRecord) : Prop :=
  ∃ last events, goal.runIds.getLast? = some last ∧ service.events last = some events ∧
    terminalEvent events = none

theorem decideGoal_wait {latest : GoalRunEvidence} (active : goal.status = .active)
    (waits : decideGoal goal latest = .wait) :
    latest.admissionError = none ∧ latest.terminalStatus = none := by
  unfold decideGoal at waits
  rw [if_neg (not_not_intro active)] at waits
  cases hasError : latest.admissionError with
  | some error =>
    rw [hasError] at waits
    cases waits
  | none =>
    refine ⟨rfl, ?_⟩
    rw [hasError] at waits
    cases terminal : latest.terminalStatus with
    | none => rfl
    | some status =>
      rw [terminal] at waits
      cases status with
      | cancelled => cases waits
      | failed => cases waits
      | awaitingInput => cases waits
      | awaitingApproval => cases waits
      | timedOut =>
        dsimp only at waits
        split at waits
        · cases waits
        · cases waits
      | completed =>
        dsimp only at waits
        split at waits
        · cases waits
        · split at waits
          · cases waits
          · split at waits
            · cases waits
            · split at waits
              · cases waits
              · cases waits

theorem Service.Landed.goesOn_or (landed : before.Landed goal) (active : goal.status = .active) :
    before.GoesOn goal ∨ decideGoal goal (before.goalEvidence goal) ≠ .wait := by
  rcases landed with ⟨last, run, isLast, isRun, ended⟩
  have isLatest : before.latestRun goal = some run := by
    unfold Service.latestRun
    rw [isLast]
    exact isRun
  have sameId : run.runId = last := by
    unfold WorkbenchState.getRun at isRun
    have found := List.find?_some isRun
    exact of_decide_eq_true found
  by_cases hasFailed : run.admissionStatus = some .failed
  · right
    intro waits
    have noError := (decideGoal_wait active waits).1
    unfold Service.goalEvidence at noError
    rw [isLatest] at noError
    dsimp only at noError
    rw [if_pos hasFailed] at noError
    cases noError
  · rcases Option.isSome_iff_exists.1 (ended.resolve_left hasFailed) with ⟨events, isEvents⟩
    cases terminal : terminalEvent events with
    | none => exact Or.inl ⟨last, events, isLast, isEvents, terminal⟩
    | some ending =>
      right
      intro waits
      have noTerminal := (decideGoal_wait active waits).2
      unfold Service.goalEvidence at noTerminal
      rw [isLatest] at noTerminal
      dsimp only at noTerminal
      rw [if_neg hasFailed] at noTerminal
      have isRead : before.readEvents run.runId = events := by
        unfold Service.readEvents
        rw [sameId, isEvents]
        rfl
      rw [isRead, terminal] at noTerminal
      cases noTerminal

theorem ticked_result (taken : Step sessionId before event after) (isTick : event = .ticked goalId) :
    ∃ goal, before.goal sessionId = some goal ∧ goal.goalId = goalId ∧
      after = before.moveTo (.deciding goal (before.goalEvidence goal)) := by
  cases taken with
  | @ticked session goal idle found hasGoal active =>
    cases isTick
    exact ⟨goal, (goal_of_session found).trans hasGoal, rfl, rfl⟩
  | _ => cases isTick

theorem decided_result {evidence : GoalRunEvidence} (safe : Safe sessionId before)
    (here : before.busy = some (.deciding goal evidence))
    (taken : Step sessionId before event after) (isDecision : event = .decided goalId) :
    ∃ decided saved,
      (∀ status reason, decideGoal goal evidence = .settle status reason →
        decided.status = status) ∧
      after.goal sessionId = some decided ∧ saved.goal = some decided ∧
      after.busy = continueGoal (decideGoal goal evidence) evidence.plan saved := by
  cases taken with
  | @decided stored evidence' saved state timestamp wasHere isStored =>
    cases here.symm.trans wasHere
    rcases onGoal_stored { before with state } (safe.busy _ wasHere).1 isStored with
      ⟨isGoal, hasGoal, _, _⟩
    refine ⟨_, saved, ?_, isGoal, hasGoal, rfl⟩
    intro status reason settles
    rw [settles]
    rfl
  | _ => cases isDecision

theorem submitted_result (recoverable : Recoverable sessionId before) (safe : Safe sessionId before)
    (taken : Step sessionId before event after) (isSubmission : event = .submitted goalId runId) :
    ∃ run, after.state.runs = before.state.runs ++ [run] ∧ run.runId = runId ∧
      run.goalId = some goalId := by
  cases taken with
  | @submitted session goal prompt trigger _ timestamp here unused unclaimed =>
    cases isSubmission
    have fits := safe.busy _ here
    have unsubmitted : before.Unsubmitted sessionId goal.goalId goal.runIds.length := by
      apply recoverable.unsubmitted _ goal fits.1.1
      rw [here]
      rfl
    refine ⟨goalRun session goal prompt trigger runId timestamp, ?_, rfl, rfl⟩
    unfold Service.submit
    rw [submit_created fits.1.2 unsubmitted unused]
    rfl
  | _ => cases isSubmission

theorem Recoverable.movesOn (recoverable : Recoverable sessionId before)
    (safe : Safe sessionId before) (isGoal : before.goal sessionId = some goal)
    (moves : decideGoal goal (before.goalEvidence goal) ≠ .wait) :
    MovesOn sessionId goal.goalId before := by
  intro ticked decided tick decision
  rcases ticked_result tick rfl with ⟨stored, isStored, _, isTicked⟩
  cases isGoal.symm.trans isStored
  have safeTicked := safe.step tick
  have recoverableTicked := recoverable.step safe tick trivial
  have here : ticked.busy = some (.deciding goal (before.goalEvidence goal)) := by
    rw [isTicked]
    rfl
  rcases decided_result safeTicked here decision rfl with
    ⟨later, saved, status, isLater, hasLater, isNext⟩
  cases isDecision : decideGoal goal (before.goalEvidence goal) with
  | wait => exact absurd isDecision moves
  | settle settled reason =>
    left
    refine ⟨later, isLater, ?_⟩
    intro active
    have member := decideGoal_settle isDecision
    rw [← status settled reason isDecision, active] at member
    simp at member
  | «continue» reason =>
    right
    rw [isDecision] at isNext
    refine ⟨?_, ?_⟩
    · rw [isNext]
      unfold continueGoal
      rw [hasLater]
      rfl
    · intro runId submitted submission
      exact submitted_result (recoverableTicked.step safeTicked decision trivial)
        (safeTicked.step decision) submission rfl

theorem recoverable_initial {goalIds : List String}
    (noGoal : (initial state goalIds).goal sessionId = none) :
    Recoverable sessionId (initial state goalIds) := by
  refine ⟨?_, ?_, ?_, ?_⟩
  · intro goal isGoal
    cases noGoal.symm.trans isGoal
  · intro _ goal isGoal
    cases noGoal.symm.trans isGoal
  · intro _ goal isGoal
    cases noGoal.symm.trans isGoal
  · intro phase here
    cases here

theorem recoverable_run {trace : List (Move Service Event)} {first last : Service}
    (run : Run (Step sessionId) first trace last)
    (recovers : ∀ move ∈ trace, Recovers move.before move.label) (safe : Safe sessionId first)
    (recoverable : Recoverable sessionId first) : Recoverable sessionId last := by
  have both : Safe sessionId last ∧ Recoverable sessionId last := by
    apply run.keeps (fun service => Safe sessionId service ∧ Recoverable sessionId service)
    · intro move member taken held
      exact ⟨held.1.step taken, held.2.step held.1 taken (recovers move member)⟩
    · exact ⟨safe, recoverable⟩
  exact both.2

/-- If no stop of the host falls between the first record of a run and its
claim, an active goal that no operation works on has a latest run that is
claimed and goes on, or the next tick moves the goal on. -/
theorem active_goal_moves_on {state : WorkbenchState} {goalIds : List String}
    {trace : List (Move Service Event)} {last : Service} (distinct : state.runIds.Nodup)
    (noGoal : (initial state goalIds).goal sessionId = none)
    (run : Run (Step sessionId) (initial state goalIds) trace last)
    (recovers : ∀ move ∈ trace, Recovers move.before move.label) (idle : last.busy = none)
    {goal : WorkbenchGoalRecord} (isGoal : last.goal sessionId = some goal)
    (active : goal.status = .active) :
    last.GoesOn goal ∨ MovesOn sessionId goal.goalId last := by
  have safe := safe_run run (safe_initial distinct noGoal)
  have recoverable :=
    recoverable_run run recovers (safe_initial distinct noGoal) (recoverable_initial noGoal)
  rcases (recoverable.idle idle goal isGoal).goesOn_or active with goesOn | moves
  · exact Or.inl goesOn
  · exact Or.inr (recoverable.movesOn safe isGoal moves)

theorem active_goal_moves_on_first :
    ∃ last, (∃ trace, Run (Step "session") (initial openState []) trace last) ∧
      (last.GoesOn (summaryGoal .active none ["first"]) ∨ MovesOn "session" "goal" last) := by
  have run : Run (Step "session") (initial openState []) _ _ :=
    .cons (@Step.created _ _ openSession (summarySession (summaryGoal .active none []))
      (summaryGoal .active none []) (summaryState (summaryGoal .active none []) [])
      summaryRequest "goal" summaryTime rfl rfl List.not_mem_nil (fun _ => rfl)
      (fun _ member => by cases member) rfl rfl) <|
    .cons (.submitted "first" summaryTime rfl List.not_mem_nil rfl) <|
    .cons (@Step.referred _ _ (summaryGoal .active none []) firstRun true
      (summarySession (summaryGoal .active none ["first"]))
      (summaryState (summaryGoal .active none ["first"]) [firstRun]) summaryTime rfl rfl) <|
    .cons (@Step.prepared _ _ firstRun rfl) <|
    .cons (@Step.claimed _ _ firstRun rfl rfl) <|
    .cons (@Step.startReturned _ _ firstRun rfl rfl) <|
    .cons (@Step.markedStarted _ _ firstRun
      (summaryState (summaryGoal .active none ["first"]) [startedRun]) rfl rfl) <|
    .nil _
  have distinct : openState.runIds.Nodup := List.nodup_nil
  refine ⟨_, ⟨_, run⟩, active_goal_moves_on distinct rfl run ?_ rfl rfl rfl⟩
  intro move member
  simp only [List.mem_cons, List.not_mem_nil, or_false] at member
  rcases member with rfl | rfl | rfl | rfl | rfl | rfl | rfl
  all_goals trivial

/-- The host stops when the goal has been written: the goal stays active without
a run, and a tick waits. -/
theorem stopped_host_strands_the_goal :
    ∃ trace last, Run (Step "session") (initial openState []) trace last ∧
      trace.map Move.label = [.created "goal", .crashed, .ticked "goal", .decided "goal"] ∧
      last.busy = none ∧ last.goal "session" = some (summaryGoal .active none []) ∧
      last.state.runs = [] := by
  refine ⟨_, _,
    .cons (@Step.created _ _ openSession (summarySession (summaryGoal .active none []))
      (summaryGoal .active none []) (summaryState (summaryGoal .active none []) [])
      summaryRequest "goal" summaryTime rfl rfl List.not_mem_nil (fun _ => rfl)
      (fun _ member => by cases member) rfl rfl) <|
    .cons .crashed <|
    .cons (@Step.ticked _ _ (summarySession (summaryGoal .active none []))
      (summaryGoal .active none []) rfl rfl rfl rfl) <|
    .cons (@Step.decided _ _ (summaryGoal .active none []) _
      (summarySession (summaryGoal .active none []))
      (summaryState (summaryGoal .active none []) []) summaryTime rfl rfl) <|
    .nil _, rfl, rfl, rfl, rfl⟩

end AnnaAgent.Host.GoalRuns
