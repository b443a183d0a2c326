/-
What the goal of a session is bound to.

Whatever the order of controls, ticks, admissions, outcomes and restarts, a goal
keeps its budget, its permission mode and its resources, it is completed only by
the user, and no run is submitted for it once it has been halted.  At most one
of its runs is queued or running, as long as no run is submitted while one that
has been suspended, or has failed its admission, goes on.
-/

import AnnaAgent.Host.GoalSteps

namespace AnnaAgent.Host.GoalRuns

open Foundation
open EventStore (OutcomeStatus)

variable {sessionId : String} {before after : Service} {event : Event}

structure Carries (goal : WorkbenchGoalRecord) (run : WorkbenchRunRecord) : Prop where
  permissionMode : run.permissionMode.getD .readonly = goal.permissionMode
  resourceRefs : run.resourceRefs = goal.resourceRefs

variable {goal : WorkbenchGoalRecord} {service : Service} {runId : String}
  {trace : List (Move Service Event)}

theorem Carries.alike {run run' : WorkbenchRunRecord} (carries : Carries goal run)
    (alike : Alike run run') : Carries goal run' := by
  constructor
  · rw [alike.permissionMode]
    exact carries.permissionMode
  · rw [alike.resourceRefs]
    exact carries.resourceRefs

theorem Carries.same {patched : WorkbenchGoalRecord} {run : WorkbenchRunRecord}
    (carries : Carries goal run) (same : SameGoal goal patched) : Carries patched run := by
  constructor
  · rw [same.permissionMode]
    exact carries.permissionMode
  · rw [same.resourceRefs]
    exact carries.resourceRefs

theorem goalRun_carries (session : WorkbenchSessionRecord) (goal : WorkbenchGoalRecord)
    (prompt : String) (trigger : RunTrigger) (runId timestamp : String) :
    Carries goal (goalRun session goal prompt trigger runId timestamp) := by
  constructor
  · change Option.getD (if goal.permissionMode = .containedWrite then _ else none) _ = _
    cases goal.permissionMode with
    | readonly => rfl
    | containedWrite => rfl
  · rfl

theorem sameRunIdentity_goalId {left right : WorkbenchRunRecord}
    (same : sameRunIdentity left right = true) : left.goalId = right.goalId := by
  simp only [sameRunIdentity, Bool.and_eq_true, decide_eq_true_eq] at same
  simp [same]

def Service.Has (service : Service) (run : WorkbenchRunRecord) : Prop :=
  ∃ member ∈ service.state.runs, member.runId = run.runId ∧ member.goalId = run.goalId

theorem Service.Has.alike {run : WorkbenchRunRecord} (has : before.Has run)
    (alike : AlikeRuns before.state after.state) : after.Has run := by
  rcases has with ⟨member, isMember, sameId, sameGoal⟩
  rcases alike.forth isMember with ⟨member', isMember', alikeRun⟩
  exact ⟨member', isMember', alikeRun.runId.trans sameId, alikeRun.goalId.trans sameGoal⟩

def Phase.Fits (sessionId : String) (service : Service) : Phase → Prop
  | .deciding goal _ => service.goal sessionId = some goal ∧ goal.status = .active
  | .resuming session goal =>
    (service.goal sessionId = some goal ∧ session.sessionId = sessionId) ∧
      goal.runIds.length < goal.maxRuns
  | .submitting session goal _ _ =>
    (service.goal sessionId = some goal ∧ session.sessionId = sessionId) ∧
      goal.runIds.length < goal.maxRuns
  | .referring goal run _ =>
    service.goal sessionId = some goal ∧ goal.runIds.length < goal.maxRuns ∧
      service.Has run ∧ run.goalId = some goal.goalId
  | .checking run => service.Has run
  | .preparing run => service.Has run
  | .starting run => service.Has run
  | .markingStarted run => service.Has run
  | .markingFailed run _ => service.Has run

variable {phase : Phase}

theorem Phase.Fits.current (fits : phase.Fits sessionId service) :
    phase.Current sessionId service := by
  cases phase with
  | deciding goal evidence => exact fits.1
  | resuming session goal => exact fits.1
  | submitting session goal prompt trigger => exact fits.1
  | referring goal run isNew => exact fits.1
  | _ => trivial

structure Safe (sessionId : String) (service : Service) : Prop where
  runIds : service.state.runIds.Nodup
  references : ∀ goal, service.goal sessionId = some goal → goal.runIds.Nodup
  issued : ∀ goal, service.goal sessionId = some goal → goal.goalId ∈ service.goalIds
  carried : ∀ goal, service.goal sessionId = some goal → ∀ run ∈ service.state.runs,
    run.goalId = some goal.goalId → Carries goal run
  busy : ∀ phase, service.busy = some phase → phase.Fits sessionId service

theorem Safe.change (safe : Safe sessionId before) (taken : Step sessionId before event after) :
    GoalChange sessionId before after event :=
  goal_step (fun phase here => (safe.busy phase here).current) taken

theorem referRun_nodup (distinct : goal.runIds.Nodup) (runId timestamp : String) :
    (referRun runId timestamp goal).runIds.Nodup := by
  simp only [referRun]
  split
  · exact distinct
  · rename_i fresh
    exact nodup_concat distinct fresh

theorem referRun_length (goal : WorkbenchGoalRecord) (runId timestamp : String) :
    (referRun runId timestamp goal).runIds.length ≤ goal.runIds.length + 1 := by
  simp only [referRun]
  split
  · exact Nat.le_succ _
  · rw [List.length_append, List.length_singleton]

theorem Safe.carried_step (safe : Safe sessionId before) (taken : Step sessionId before event after)
    (isGoal : after.goal sessionId = some goal) {run : WorkbenchRunRecord}
    (member : run ∈ after.state.runs) (owned : run.goalId = some goal.goalId) :
    Carries goal run := by
  have changed := safe.change taken
  have earlier : ∀ {old : WorkbenchGoalRecord}, AlikeRuns before.state after.state →
      before.goal sessionId = some old → SameGoal old goal → Carries goal run := by
    intro old alike wasGoal same
    rcases alike.back member with ⟨run', isRun, alikeRun⟩
    rw [alikeRun.goalId, same.goalId] at owned
    exact ((safe.carried old wasGoal run' isRun owned).alike alikeRun).same same
  cases runs_step taken with
  | alike alike =>
    cases changed with
    | same kept _ _ =>
      rw [kept] at isGoal
      exact earlier alike isGoal ⟨rfl, rfl, rfl⟩
    | written isWritten fresh _ unowned _ =>
      cases isWritten.symm.trans isGoal
      rcases alike.back member with ⟨run', isRun, alikeRun⟩
      rw [alikeRun.goalId] at owned
      exact absurd owned (unowned run' isRun)
    | controlled wasGoal allowed isPatched _ =>
      cases isPatched.symm.trans isGoal
      exact earlier alike wasGoal (controlGoal_ok allowed).1
    | decided _ wasGoal isPatched _ =>
      cases isPatched.symm.trans isGoal
      exact earlier alike wasGoal (decidedGoal_same _ _ _ _).1
    | referred _ wasGoal isPatched _ =>
      cases isPatched.symm.trans isGoal
      exact earlier alike wasGoal ⟨rfl, rfl, rfl⟩
  | added wasBusy unused _ runs _ _ =>
    cases changed with
    | same kept _ _ =>
      rw [kept] at isGoal
      rw [runs] at member
      rcases List.mem_append.1 member with old | isNew
      · exact safe.carried goal isGoal run old owned
      · cases (safe.busy _ wasBusy).1.1.symm.trans isGoal
        rw [List.mem_singleton.1 isNew]
        exact goalRun_carries _ _ _ _ _ _

theorem Safe.references_step (safe : Safe sessionId before)
    (taken : Step sessionId before event after) (isGoal : after.goal sessionId = some goal) :
    goal.runIds.Nodup ∧ goal.goalId ∈ after.goalIds := by
  cases safe.change taken with
  | same kept goalIds _ =>
    rw [kept] at isGoal
    rw [goalIds]
    exact ⟨safe.references goal isGoal, safe.issued goal isGoal⟩
  | written isWritten _ goalIds _ _ =>
    cases isWritten.symm.trans isGoal
    rw [goalIds]
    exact ⟨List.nodup_nil, List.mem_append_right _ (List.mem_singleton.2 rfl)⟩
  | controlled wasGoal allowed isPatched goalIds =>
    cases isPatched.symm.trans isGoal
    have patched := controlGoal_ok allowed
    rw [goalIds, patched.1.goalId, patched.2]
    exact ⟨safe.references _ wasGoal, safe.issued _ wasGoal⟩
  | @decided old evidence progress timestamp _ wasGoal isPatched goalIds =>
    cases isPatched.symm.trans isGoal
    have patched := decidedGoal_same (decideGoal old evidence) progress timestamp old
    rw [goalIds, patched.1.goalId, patched.2.1]
    exact ⟨safe.references _ wasGoal, safe.issued _ wasGoal⟩
  | referred _ wasGoal isPatched goalIds =>
    cases isPatched.symm.trans isGoal
    have issued := safe.issued _ wasGoal
    rw [goalIds]
    exact ⟨referRun_nodup (safe.references _ wasGoal) _ _, issued⟩

theorem Safe.runIds_step (safe : Safe sessionId before)
    (taken : Step sessionId before event after) : after.state.runIds.Nodup := by
  cases runs_step taken with
  | alike alike =>
    rw [alike.runIds]
    exact safe.runIds
  | added _ unused _ runs _ _ =>
    unfold WorkbenchState.runIds
    rw [runs, List.map_append, List.map_singleton]
    exact nodup_concat safe.runIds unused

theorem continueGoal_eq {decision : GoalDecision} {plan : Option PlanSnapshot}
    {saved : WorkbenchSessionRecord} (isNext : continueGoal decision plan saved = some phase) :
    ∃ reason updated, decision = .continue reason ∧ saved.goal = some updated ∧
      phase = .submitting saved updated (continuationPrompt updated plan reason)
        .goalContinuation := by
  unfold continueGoal at isNext
  split at isNext
  · rename_i reason updated hasGoal
    cases isNext
    exact ⟨reason, updated, rfl, hasGoal, rfl⟩
  · cases isNext

theorem Safe.busy_step (safe : Safe sessionId before) (taken : Step sessionId before event after)
    (here : after.busy = some phase) : phase.Fits sessionId after := by
  cases taken with
  | created request goalId timestamp idle found fresh unused unowned written stored =>
    rcases updateSession_found stored with ⟨_, _, changed, isSaved, _, _⟩
    cases changed
    cases here
    refine ⟨⟨goal_of_state_session isSaved, ?_⟩, ?_⟩
    · unfold WorkbenchState.getSession at found
      have isSession := List.find?_some found
      exact of_decide_eq_true isSession
    · rw [createGoal_written written]
      exact request.one_le_maxRuns
  | controlled action timestamp idle found hasGoal allowed stored =>
    rcases updateSession_found stored with ⟨_, _, changed, isSaved, sameId, _⟩
    cases changed
    cases action with
    | resume maxRuns =>
      cases here
      exact ⟨⟨goal_of_state_session isSaved, sameId⟩, (controlGoal_resume allowed).2⟩
    | pause => cases here
    | stop => cases here
    | complete => cases here
  | @evidenceRead session goal wasHere =>
    have fits := safe.busy _ wasHere
    split at here
    · cases here
      rename_i isTerminal
      rw [if_pos isTerminal]
      exact fits
    · cases here
  | ticked idle found hasGoal active =>
    cases here
    exact ⟨(goal_of_session found).trans hasGoal, active⟩
  | @decided goal evidence saved state timestamp wasHere stored =>
    have fits := safe.busy _ wasHere
    rcases onGoal_stored { before with state } fits.1 stored with
      ⟨isStored, hasGoal, sameId, _⟩
    rcases continueGoal_eq here with ⟨reason, updated, continues, isUpdated, rfl⟩
    cases hasGoal.symm.trans isUpdated
    have same := decidedGoal_same (decideGoal goal evidence) (planProgress evidence.plan)
      timestamp goal
    refine ⟨⟨isStored, sameId⟩, ?_⟩
    rw [same.2.1, same.2.2]
    exact (decideGoal_continue continues).2.2.2
  | @submitted session goal prompt trigger runId timestamp wasHere unused unclaimed =>
    have fits := safe.busy _ wasHere
    unfold Service.submit at here ⊢
    have kept : ∀ {lookup : WorkbenchRunLookup} {state : WorkbenchState},
        createOrGetRun (goalRun session goal prompt trigger runId timestamp) before.state =
          (lookup, state) → Service.goal sessionId { before with state } = some goal := by
      intro lookup state looked
      have unchanged : Service.goal sessionId { before with state } = before.goal sessionId :=
        createOrGetRun_goal _ looked rfl
      exact unchanged.trans fits.1.1
    rcases createOrGetRun_result (goalRun session goal prompt trigger runId timestamp)
      before.state with ⟨_, _, created⟩ | ⟨found, isFound, same, existing⟩ | ⟨conflict, _⟩
    · rw [created] at here ⊢
      cases here
      refine ⟨kept created, fits.2, ⟨_, ?_, rfl, rfl⟩, rfl⟩
      exact List.mem_append_right _ (List.mem_singleton.2 rfl)
    · rw [existing] at here ⊢
      cases here
      exact ⟨kept existing, fits.2, ⟨found, isFound, rfl, rfl⟩, sameRunIdentity_goalId same⟩
    · rw [conflict] at here
      cases here
  | @referred goal run isNew saved state timestamp wasHere stored =>
    have fits := safe.busy _ wasHere
    rcases updateSession_found stored with ⟨_, _, _, _, _, sameRuns⟩
    have has : Service.Has { before with state } run :=
      fits.2.2.1.alike (alikeRuns_of_eq sameRuns)
    cases isNew with
    | true | false =>
      cases here
      exact has
  | checked wasHere =>
    have fits := safe.busy _ wasHere
    unfold Service.check at here ⊢
    split at here
    · cases here
    · cases here
      rename_i open_
      rw [if_neg open_]
      exact fits
  | prepared wasHere | prepareFailed failureCode wasHere
  | startReturned wasHere isClaimed | startFailed failureCode wasHere =>
    have fits := safe.busy _ wasHere
    cases here
    exact fits
  | claimed wasHere unclaimed =>
    have fits := safe.busy phase here
    cases wasHere.symm.trans here
    exact fits
  | markedStarted wasHere marked => cases here
  | markedFailed wasHere marked => cases here
  | appended runId event isClaimed goesOn notResumed
  | continued runId isClaimed hasOutcome suspended =>
    have fits := safe.busy phase here
    cases phase with
    | _ => exact fits
  | crashed => cases here

theorem Safe.step (safe : Safe sessionId before) (taken : Step sessionId before event after) :
    Safe sessionId after :=
  { runIds := safe.runIds_step taken
    references := fun _ isGoal => (safe.references_step taken isGoal).1
    issued := fun _ isGoal => (safe.references_step taken isGoal).2
    carried := fun _ isGoal _ member owned => safe.carried_step taken isGoal member owned
    busy := fun _ here => safe.busy_step taken here }

theorem safe_initial {state : WorkbenchState} {goalIds : List String}
    (distinct : state.runIds.Nodup) (noGoal : (initial state goalIds).goal sessionId = none) :
    Safe sessionId (initial state goalIds) := by
  refine ⟨distinct, ?_, ?_, ?_, ?_⟩
  · intro goal isGoal
    cases noGoal.symm.trans isGoal
  · intro goal isGoal
    cases noGoal.symm.trans isGoal
  · intro goal isGoal
    cases noGoal.symm.trans isGoal
  · intro phase here
    cases here

/-! ### One run at a time -/

/-- An operation is under way that is going to start a run of the goal. -/
def Phase.Submits (service : Service) (goalId : String) : Phase → Prop
  | .deciding goal evidence =>
    goal.goalId = goalId ∧ ∃ reason, decideGoal goal evidence = .continue reason
  | .resuming _ _ => False
  | .submitting _ goal _ _ => goal.goalId = goalId
  | .referring goal _ _ => goal.goalId = goalId
  | .checking run => run.goalId = some goalId
  | .preparing run => run.goalId = some goalId
  | .starting run => run.goalId = some goalId ∧ service.events run.runId = none
  | .markingStarted _ => False
  | .markingFailed _ _ => False

/-- No run of the goal is queued or running. -/
def Service.Quiet (service : Service) (goalId : String) : Prop :=
  ∀ run ∈ service.state.runs, run.goalId = some goalId → service.live run.runId = false

structure Single (service : Service) : Prop where
  single : ∀ goalId, ∀ run ∈ service.state.runs, ∀ other ∈ service.state.runs,
    run.goalId = some goalId → other.goalId = some goalId → service.live run.runId = true →
      service.live other.runId = true → run.runId = other.runId
  quiet : ∀ phase, service.busy = some phase → ∀ goalId, phase.Submits service goalId →
    service.Quiet goalId

/-- The steps that may let a second run of a goal go on: a run is going to be
submitted while one is queued or running, or a suspended run is continued while
another one is queued, running or going to be submitted. -/
def Orderly (sessionId : String) (before : Service) : Event → Prop
  | .ticked goalId =>
    ∀ goal, before.goal sessionId = some goal →
      (∃ reason, decideGoal goal (before.goalEvidence goal) = .continue reason) →
        before.Quiet goalId
  | .evidenceRead goalId =>
    ∀ goal, before.goal sessionId = some goal → before.latestTerminal goal = true →
      before.Quiet goalId
  | .continued runId =>
    ∀ run ∈ before.state.runs, run.runId = runId → ∀ goalId, run.goalId = some goalId →
      before.Quiet goalId ∧ ∀ phase, before.busy = some phase → ¬ phase.Submits before goalId
  | _ => True

theorem Service.Quiet.alike {goalId : String} (quiet : before.Quiet goalId)
    (alike : AlikeRuns before.state after.state) (sameEvents : after.events = before.events) :
    after.Quiet goalId := by
  intro run member owned
  rcases alike.back member with ⟨run', isRun, alikeRun⟩
  unfold Service.live
  rw [sameEvents, alikeRun.runId]
  exact quiet run' isRun (alikeRun.goalId.symm.trans owned)

theorem Single.alike (single : Single before) (alike : AlikeRuns before.state after.state)
    (sameEvents : after.events = before.events) {goalId : String} {run other : WorkbenchRunRecord}
    (member : run ∈ after.state.runs) (otherMember : other ∈ after.state.runs)
    (owned : run.goalId = some goalId) (otherOwned : other.goalId = some goalId)
    (isLive : after.live run.runId = true) (otherLive : after.live other.runId = true) :
    run.runId = other.runId := by
  rcases alike.back member with ⟨run', isRun, alikeRun⟩
  rcases alike.back otherMember with ⟨other', isOther, alikeOther⟩
  unfold Service.live at isLive otherLive
  rw [sameEvents] at isLive otherLive
  rw [alikeRun.runId] at isLive ⊢
  rw [alikeOther.runId] at otherLive ⊢
  exact single.single goalId run' isRun other' isOther (alikeRun.goalId.symm.trans owned)
    (alikeOther.goalId.symm.trans otherOwned) isLive otherLive

theorem Single.of_alike (single : Single before) (alike : AlikeRuns before.state after.state)
    (sameEvents : after.events = before.events)
    (quiet : ∀ phase, after.busy = some phase → ∀ goalId, phase.Submits after goalId →
      before.Quiet goalId) : Single after := by
  refine ⟨?_, ?_⟩
  · intro goalId run member other otherMember owned otherOwned isLive otherLive
    exact single.alike alike sameEvents member otherMember owned otherOwned isLive otherLive
  · intro phase here goalId submits
    exact (quiet phase here goalId submits).alike alike sameEvents

theorem live_of_eq (same : after.events runId = before.events runId) :
    after.live runId = before.live runId := by
  unfold Service.live
  rw [same]

variable {other : String}

theorem append_of_ne (event : RunEvent) (isOther : other ≠ runId) :
    (service.append runId event).events other = service.events other :=
  Function.update_of_ne isOther _ _

theorem append_eq_none {event : RunEvent}
    (unclaimed : (service.append runId event).events other = none) :
    service.events other = none := by
  by_cases isRun : other = runId
  · subst isRun
    unfold Service.append at unclaimed
    dsimp only at unclaimed
    rw [Function.update_self, Option.map_eq_none_iff] at unclaimed
    exact unclaimed
  · rw [append_of_ne event isRun] at unclaimed
    exact unclaimed

theorem Phase.Submits.of_append {goalId : String} {event : RunEvent}
    (submits : phase.Submits (service.append runId event) goalId) :
    phase.Submits service goalId := by
  cases phase with
  | starting run => exact ⟨submits.1, append_eq_none submits.2⟩
  | _ => exact submits

theorem live_of_append {event : RunEvent} {events : List RunEvent}
    (isClaimed : service.events runId = some events) (goesOn : currentOutcome events = none)
    (isLive : (service.append runId event).live other = true) : service.live other = true := by
  by_cases isRun : other = runId
  · subst isRun
    unfold Service.live
    rw [isClaimed, Option.any_some, goesOn]
    rfl
  · rw [live_of_eq (append_of_ne event isRun)] at isLive
    exact isLive

theorem Single.appended (single : Single before) {event : RunEvent} {events : List RunEvent}
    (isClaimed : before.events runId = some events) (goesOn : currentOutcome events = none) :
    Single (before.append runId event) := by
  refine ⟨?_, ?_⟩
  · intro goalId run member other otherMember owned otherOwned isLive otherLive
    exact single.single goalId run member other otherMember owned otherOwned
      (live_of_append isClaimed goesOn isLive) (live_of_append isClaimed goesOn otherLive)
  · intro phase here goalId submits run member owned
    have wasQuiet := single.quiet phase here goalId submits.of_append run member owned
    cases isLive : (before.append runId event).live run.runId with
    | false => rfl
    | true =>
      rw [live_of_append isClaimed goesOn isLive] at wasQuiet
      cases wasQuiet

theorem Single.starts (single : Single before) (runId : String)
    (sameState : after.state = before.state)
    (others : ∀ other, other ≠ runId → after.events other = before.events other)
    (wasQuiet : ∀ run ∈ before.state.runs, run.runId = runId → ∀ goalId,
      run.goalId = some goalId → before.Quiet goalId)
    (quiet : ∀ phase, after.busy = some phase → ∀ goalId, phase.Submits after goalId →
      after.Quiet goalId) : Single after := by
  refine ⟨?_, quiet⟩
  intro goalId run member other otherMember owned otherOwned isLive otherLive
  rw [sameState] at member otherMember
  by_cases isRun : run.runId = runId
  · by_cases isOther : other.runId = runId
    · rw [isRun, isOther]
    · rw [live_of_eq (others _ isOther)] at otherLive
      have notLive := wasQuiet run member isRun goalId owned other otherMember otherOwned
      rw [otherLive] at notLive
      cases notLive
  · rw [live_of_eq (others _ isRun)] at isLive
    by_cases isOther : other.runId = runId
    · have notLive := wasQuiet other otherMember isOther goalId otherOwned run member owned
      rw [isLive] at notLive
      cases notLive
    · rw [live_of_eq (others _ isOther)] at otherLive
      exact single.single goalId run member other otherMember owned otherOwned isLive otherLive

theorem Service.Has.goalId {run record : WorkbenchRunRecord} (distinct : service.state.runIds.Nodup)
    (has : service.Has run) (member : record ∈ service.state.runs)
    (sameId : record.runId = run.runId) :
    record.goalId = run.goalId := by
  rcases has with ⟨known, isKnown, knownId, knownGoal⟩
  have same : record = known :=
    List.inj_on_of_nodup_map distinct member isKnown (sameId.trans knownId.symm)
  rw [same]
  exact knownGoal

theorem Single.added (single : Single before) {run : WorkbenchRunRecord} {goalId : String}
    (unclaimed : before.events run.runId = none)
    (wasQuiet : before.Quiet goalId) (runs : after.state.runs = before.state.runs ++ [run])
    (events : after.events = before.events)
    (submits : ∀ phase, after.busy = some phase → ∀ other, phase.Submits after other →
      other = goalId) : Single after := by
  have notLive : after.live run.runId = false := by
    unfold Service.live
    rw [events, unclaimed]
    rfl
  have isOld {record : WorkbenchRunRecord} (member : record ∈ after.state.runs)
      (isLive : after.live record.runId = true) :
      record ∈ before.state.runs ∧ before.live record.runId = true := by
    rw [runs] at member
    rcases List.mem_append.1 member with early | isNew
    · refine ⟨early, ?_⟩
      rw [← live_of_eq (congrFun events record.runId)]
      exact isLive
    · rw [List.mem_singleton.1 isNew, notLive] at isLive
      cases isLive
  refine ⟨?_, ?_⟩
  · intro other first member second otherMember firstOwned secondOwned isLive otherLive
    rcases isOld member isLive with ⟨wasFirst, wasLive⟩
    rcases isOld otherMember otherLive with ⟨wasSecond, wasOtherLive⟩
    exact single.single other first wasFirst second wasSecond firstOwned secondOwned wasLive
      wasOtherLive
  · intro phase here other isSubmitted record member recordOwned
    cases isLive : after.live record.runId with
    | false => rfl
    | true =>
      rcases isOld member isLive with ⟨wasRecord, wasLive⟩
      rw [submits phase here other isSubmitted] at recordOwned
      rw [wasQuiet record wasRecord recordOwned] at wasLive
      cases wasLive

theorem Single.step (single : Single before) (safe : Safe sessionId before)
    (taken : Step sessionId before event after) (orderly : Orderly sessionId before event) :
    Single after := by
  cases taken with
  | created request goalId timestamp idle found fresh unused unowned written stored =>
    rcases updateSession_found stored with ⟨_, _, _, _, _, sameRuns⟩
    refine single.of_alike (alikeRuns_of_eq sameRuns) rfl ?_
    intro phase here other submits run member owned
    cases here
    rw [createGoal_written written] at submits
    cases submits
    exact absurd owned (unowned run member)
  | controlled action timestamp idle found hasGoal allowed stored =>
    rcases updateSession_found stored with ⟨_, _, _, _, _, sameRuns⟩
    refine single.of_alike (alikeRuns_of_eq sameRuns) rfl ?_
    intro phase here other submits
    cases action with
    | resume maxRuns =>
      cases here
      exact submits.elim
    | pause => cases here
    | stop => cases here
    | complete => cases here
  | @evidenceRead session goal wasHere =>
    have fits := safe.busy _ wasHere
    split
    · rename_i isTerminal
      refine single.of_alike (alikeRuns_of_eq rfl) rfl ?_
      intro phase here other submits
      cases here
      cases submits
      exact orderly goal fits.1.1 isTerminal
    · refine single.of_alike (alikeRuns_of_eq rfl) rfl ?_
      intro phase here
      cases here
  | ticked idle found hasGoal active =>
    refine single.of_alike (alikeRuns_of_eq rfl) rfl ?_
    intro phase here other submits
    cases here
    rcases submits with ⟨rfl, continues⟩
    exact orderly _ ((goal_of_session found).trans hasGoal) continues
  | @decided goal evidence saved state timestamp wasHere stored =>
    have fits := safe.busy _ wasHere
    rcases onGoal_stored { before with state } fits.1 stored with ⟨_, hasGoal, _, sameRuns⟩
    refine single.of_alike (alikeRuns_of_eq sameRuns) rfl ?_
    intro phase here other submits
    rcases continueGoal_eq here with ⟨reason, updated, continues, isUpdated, rfl⟩
    cases hasGoal.symm.trans isUpdated
    have same := decidedGoal_same (decideGoal goal evidence) (planProgress evidence.plan)
      timestamp goal
    apply single.quiet _ wasHere
    exact ⟨same.1.goalId.symm.trans submits, reason, continues⟩
  | @submitted session goal prompt trigger runId timestamp wasHere unused unclaimed =>
    have wasQuiet := single.quiet _ wasHere goal.goalId rfl
    unfold Service.submit
    rcases createOrGetRun_result (goalRun session goal prompt trigger runId timestamp)
      before.state with ⟨_, _, created⟩ | ⟨found, isFound, same, existing⟩ | ⟨conflict, _⟩
    · rw [created]
      refine single.added unclaimed wasQuiet rfl rfl ?_
      intro phase here other submits
      cases here
      exact submits.symm
    · rw [existing]
      refine single.of_alike (alikeRuns_of_eq rfl) rfl ?_
      intro phase here other submits
      cases here
      rw [← show goal.goalId = other from submits]
      exact wasQuiet
    · rw [conflict]
      refine single.of_alike (alikeRuns_of_eq rfl) rfl ?_
      intro phase here
      cases here
  | @referred goal run isNew saved state timestamp wasHere stored =>
    have fits := safe.busy _ wasHere
    rcases updateSession_found stored with ⟨_, _, _, _, _, sameRuns⟩
    refine single.of_alike (alikeRuns_of_eq sameRuns) rfl ?_
    intro phase here other submits
    apply single.quiet _ wasHere
    have owned : run.goalId = some other := by
      cases isNew with
      | true | false =>
        cases here
        exact submits
    exact Option.some.inj (fits.2.2.2.symm.trans owned)
  | checked wasHere =>
    unfold Service.check
    split
    · refine single.of_alike (alikeRuns_of_eq rfl) rfl ?_
      intro phase here
      cases here
    · refine single.of_alike (alikeRuns_of_eq rfl) rfl ?_
      intro phase here other submits
      cases here
      exact single.quiet _ wasHere other submits
  | prepared wasHere =>
    refine single.of_alike (alikeRuns_of_eq rfl) rfl ?_
    intro phase here other submits
    cases here
    exact single.quiet _ wasHere other submits.1
  | prepareFailed failureCode wasHere | startReturned wasHere isClaimed
  | startFailed failureCode wasHere =>
    refine single.of_alike (alikeRuns_of_eq rfl) rfl ?_
    intro phase here other submits
    cases here
    exact submits.elim
  | @claimed run wasHere unclaimed =>
    have fits : before.Has run := safe.busy _ wasHere
    refine single.starts run.runId rfl ?_ ?_ ?_
    · intro other isOther
      exact Function.update_of_ne isOther _ _
    · intro record member sameId goalId owned
      rw [fits.goalId safe.runIds member sameId] at owned
      exact single.quiet _ wasHere goalId ⟨owned, unclaimed⟩
    · intro phase here goalId submits
      cases wasHere.symm.trans here
      have stillUnclaimed : Function.update before.events run.runId (some []) run.runId = none :=
        submits.2
      rw [Function.update_self] at stillUnclaimed
      cases stillUnclaimed
  | markedStarted wasHere marked | markedFailed wasHere marked =>
    refine single.of_alike (markRunAdmission_alike marked).1 rfl ?_
    intro phase here
    cases here
  | appended runId event isClaimed goesOn notResumed => exact single.appended isClaimed goesOn
  | continued runId isClaimed hasOutcome suspended =>
    refine single.starts runId rfl ?_ ?_ ?_
    · intro other isOther
      exact append_of_ne _ isOther
    · intro run member sameId goalId owned
      exact (orderly run member sameId goalId owned).1
    · intro phase here goalId submits run member owned
      have wasSubmitted := submits.of_append
      by_cases isRun : run.runId = runId
      · exact absurd wasSubmitted ((orderly run member isRun goalId owned).2 phase here)
      · rw [live_of_eq (append_of_ne _ isRun)]
        exact single.quiet phase here goalId wasSubmitted run member owned
  | crashed =>
    refine single.of_alike (alikeRuns_of_eq rfl) rfl ?_
    intro phase here
    cases here

theorem single_initial (state : WorkbenchState) (goalIds : List String) :
    Single (initial state goalIds) := by
  refine ⟨?_, ?_⟩
  · intro goalId run _ other _ _ _ isLive
    cases isLive
  · intro phase here
    cases here

/-! ### Halted goals -/

/-- The goal that the operation under way may submit a run of. -/
def Phase.ahead : Phase → Option String
  | .deciding goal _ => some goal.goalId
  | .resuming _ goal => some goal.goalId
  | .submitting _ goal _ _ => some goal.goalId
  | _ => none

/-- The user has paused, stopped or completed the goal and not resumed it. -/
structure Halted (sessionId goalId : String) (service : Service) : Prop where
  issued : goalId ∈ service.goalIds
  inactive : ∀ goal, service.goal sessionId = some goal → goal.goalId = goalId →
    goal.status ≠ .active
  idle : ∀ phase, service.busy = some phase → phase.ahead ≠ some goalId

def Event.Halts (goalId : String) : Event → Prop
  | .controlled action halted => halted = goalId ∧ ∀ maxRuns, action ≠ .resume maxRuns
  | _ => False

def Event.Resumes (goalId : String) (event : Event) : Prop :=
  ∃ maxRuns, event = .controlled (.resume maxRuns) goalId

theorem Halted.inactive_step {goalId : String} (halted : Halted sessionId goalId before)
    (changed : GoalChange sessionId before after event) (notResumed : ¬ event.Resumes goalId) :
    goalId ∈ after.goalIds ∧ ∀ goal, after.goal sessionId = some goal → goal.goalId = goalId →
      goal.status ≠ .active := by
  cases changed with
  | same kept goalIds _ =>
    rw [kept, goalIds]
    exact ⟨halted.issued, halted.inactive⟩
  | written isWritten fresh goalIds _ _ =>
    rw [goalIds]
    refine ⟨List.mem_append_left _ halted.issued, ?_⟩
    intro goal isGoal sameId
    cases isWritten.symm.trans isGoal
    cases sameId
    exact absurd halted.issued fresh
  | @controlled action timestamp old patched wasGoal allowed isPatched goalIds =>
    rw [goalIds]
    refine ⟨halted.issued, ?_⟩
    intro goal isGoal sameId
    cases isPatched.symm.trans isGoal
    rw [(controlGoal_ok allowed).1.goalId] at sameId
    apply (controlGoal_halts _ allowed).1
    intro maxRuns isResume
    apply notResumed
    rw [isResume, sameId]
    exact ⟨maxRuns, rfl⟩
  | @decided old evidence progress timestamp wasBusy wasGoal isPatched goalIds =>
    rw [goalIds]
    refine ⟨halted.issued, ?_⟩
    intro goal isGoal sameId
    cases isPatched.symm.trans isGoal
    rw [(decidedGoal_same _ _ _ _).1.goalId] at sameId
    exact absurd (congrArg some sameId) (halted.idle _ wasBusy)
  | referred _ wasGoal isPatched goalIds =>
    rw [goalIds]
    refine ⟨halted.issued, ?_⟩
    intro goal isGoal sameId
    cases isPatched.symm.trans isGoal
    have wasInactive := halted.inactive _ wasGoal sameId
    exact wasInactive

theorem Halted.step {goalId : String} (halted : Halted sessionId goalId before)
    (safe : Safe sessionId before) (taken : Step sessionId before event after)
    (notResumed : ¬ event.Resumes goalId) : Halted sessionId goalId after := by
  have inactive := halted.inactive_step (safe.change taken) notResumed
  refine ⟨inactive.1, inactive.2, ?_⟩
  intro phase here isAhead
  cases taken with
  | created request newId timestamp idle found fresh unused unowned written stored =>
    cases here
    rw [createGoal_written written] at isAhead
    cases isAhead
    exact fresh halted.issued
  | controlled action timestamp idle found hasGoal allowed stored =>
    cases action with
    | resume maxRuns =>
      cases here
      apply notResumed
      have sameId := Option.some.inj isAhead
      rw [(controlGoal_ok allowed).1.goalId] at sameId
      rw [sameId]
      exact ⟨maxRuns, rfl⟩
    | pause => cases here
    | stop => cases here
    | complete => cases here
  | evidenceRead wasHere =>
    split at here
    · cases here
      exact halted.idle _ wasHere isAhead
    · cases here
  | ticked idle found hasGoal active =>
    cases here
    exact halted.inactive _ ((goal_of_session found).trans hasGoal) (Option.some.inj isAhead) active
  | @decided goal evidence saved state timestamp wasHere stored =>
    have fits := safe.busy _ wasHere
    rcases onGoal_stored { before with state } fits.1 stored with ⟨_, hasGoal, _, _⟩
    rcases continueGoal_eq here with ⟨reason, updated, continues, isUpdated, rfl⟩
    cases hasGoal.symm.trans isUpdated
    have sameId := Option.some.inj isAhead
    rw [(decidedGoal_same _ _ _ _).1.goalId] at sameId
    exact halted.idle _ wasHere (congrArg some sameId)
  | submitted runId timestamp wasHere unused unclaimed =>
    unfold Service.submit at here
    split at here
    · cases here
      cases isAhead
    · cases here
      cases isAhead
    · cases here
  | @referred goal run isNew saved state timestamp wasHere stored =>
    cases isNew with
    | true | false =>
      cases here
      cases isAhead
  | checked wasHere =>
    unfold Service.check at here
    split at here
    · cases here
    · cases here
      cases isAhead
  | prepared wasHere | prepareFailed failureCode wasHere
  | startReturned wasHere isClaimed | startFailed failureCode wasHere =>
    cases here
    cases isAhead
  | claimed wasHere unclaimed | appended runId event isClaimed goesOn stillOn
  | continued runId isClaimed hasOutcome suspended => exact halted.idle phase here isAhead
  | markedStarted wasHere marked => cases here
  | markedFailed wasHere marked => cases here
  | crashed => cases here

theorem halted_of_halts {goalId : String} (safe : Safe sessionId before)
    (taken : Step sessionId before event after) (halts : event.Halts goalId) :
    Halted sessionId goalId after := by
  cases taken with
  | @controlled session saved goal patched state action timestamp idle found hasGoal allowed
      stored =>
      rcases halts with ⟨rfl, notResumed⟩
      rcases updateSession_found stored with ⟨_, _, changed, isSaved, _, _⟩
      cases changed
      have wasGoal := (goal_of_session found).trans hasGoal
      refine ⟨safe.issued goal wasGoal, ?_, ?_⟩
      · intro later isGoal _
        cases (goal_of_state_session isSaved).symm.trans isGoal
        exact (controlGoal_halts notResumed allowed).1
      · intro phase here
        cases action with
        | resume maxRuns => exact absurd rfl (notResumed maxRuns)
        | pause => cases here
        | stop => cases here
        | complete => cases here
  | _ => exact halts.elim

theorem submitted_ahead {goalId : String} (taken : Step sessionId before event after)
    (submits : event = .submitted goalId runId) :
    ∃ phase, before.busy = some phase ∧ phase.ahead = some goalId := by
  cases taken with
  | submitted _ timestamp here unused unclaimed =>
    cases submits
    exact ⟨_, here, rfl⟩
  | _ => cases submits

def AddsWithinBudget (sessionId : String) (before after : Service) : Prop :=
  ∀ goal, after.goal sessionId = some goal → ∀ id ∈ goal.runIds,
    (∀ earlier, before.goal sessionId = some earlier → earlier.goalId = goal.goalId →
      id ∉ earlier.runIds) → goal.runIds.length ≤ goal.maxRuns

def CompletedByUser (sessionId : String) (before : Service) (event : Event) (after : Service) :
    Prop :=
  ∀ goal, after.goal sessionId = some goal → goal.status = .completed →
    ∃ earlier, before.goal sessionId = some earlier ∧ earlier.goalId = goal.goalId ∧
      (earlier.status = .completed ∨
        event = .controlled .complete goal.goalId ∧ earlier.status = .awaitingReview)

theorem Safe.addsWithinBudget (safe : Safe sessionId before)
    (taken : Step sessionId before event after) : AddsWithinBudget sessionId before after := by
  intro goal isGoal id member isNew
  cases safe.change taken with
  | same kept _ _ =>
    rw [kept] at isGoal
    exact absurd member (isNew goal isGoal rfl)
  | written isWritten _ _ _ _ =>
    cases isWritten.symm.trans isGoal
    cases member
  | controlled wasGoal allowed isPatched _ =>
    cases isPatched.symm.trans isGoal
    have patched := controlGoal_ok allowed
    rw [patched.2] at member
    exact absurd member (isNew _ wasGoal patched.1.goalId.symm)
  | @decided old evidence progress timestamp _ wasGoal isPatched _ =>
    cases isPatched.symm.trans isGoal
    have patched := decidedGoal_same (decideGoal old evidence) progress timestamp old
    rw [patched.2.1] at member
    exact absurd member (isNew _ wasGoal patched.1.goalId.symm)
  | @referred old run isFresh timestamp wasBusy wasGoal isPatched _ =>
    cases isPatched.symm.trans isGoal
    have budget : old.runIds.length < old.maxRuns := (safe.busy _ wasBusy).2.1
    have length := referRun_length old run.runId timestamp
    change (referRun run.runId timestamp old).runIds.length ≤ old.maxRuns
    omega

theorem Safe.completedByUser (safe : Safe sessionId before)
    (taken : Step sessionId before event after) : CompletedByUser sessionId before event after := by
  intro goal isGoal isCompleted
  cases safe.change taken with
  | same kept _ _ =>
    rw [kept] at isGoal
    exact ⟨goal, isGoal, rfl, Or.inl isCompleted⟩
  | written isWritten _ _ _ _ =>
    cases isWritten.symm.trans isGoal
    cases isCompleted
  | @controlled action timestamp old patched wasGoal allowed isPatched _ =>
    cases isPatched.symm.trans isGoal
    have sameId := (controlGoal_ok allowed).1.goalId
    refine ⟨old, wasGoal, sameId.symm, Or.inr ?_⟩
    have halts : ∀ maxRuns, action ≠ .resume maxRuns := by
      intro maxRuns isResume
      subst isResume
      rw [(controlGoal_resume allowed).1] at isCompleted
      cases isCompleted
    rcases (controlGoal_halts halts allowed).2 isCompleted with ⟨rfl, awaiting⟩
    rw [sameId]
    exact ⟨rfl, awaiting⟩
  | @decided old evidence progress timestamp _ wasGoal isPatched _ =>
    cases isPatched.symm.trans isGoal
    have patched := decidedGoal_same (decideGoal old evidence) progress timestamp old
    refine ⟨old, wasGoal, patched.1.goalId.symm, Or.inl ?_⟩
    rcases decidedGoal_status (decideGoal old evidence) progress timestamp old with
      unchanged | ⟨reason, settles⟩
    · rw [← unchanged]
      exact isCompleted
    · have status := decideGoal_settle settles
      rw [isCompleted] at status
      simp at status
  | referred _ wasGoal isPatched _ =>
    cases isPatched.symm.trans isGoal
    exact ⟨_, wasGoal, rfl, Or.inl isCompleted⟩

section

variable {first last : Service} (run : Run (Step sessionId) first trace last)

include run

theorem safe_run (safe : Safe sessionId first) : Safe sessionId last :=
  run.invariant (Safe sessionId) (fun _ _ _ taken held => held.step taken) safe

theorem single_run (orderly : ∀ move ∈ trace, Orderly sessionId move.before move.label)
    (safe : Safe sessionId first) (single : Single first) : Single last := by
  have both : Safe sessionId last ∧ Single last := by
    apply run.keeps (fun service => Safe sessionId service ∧ Single service)
    · intro move member taken held
      exact ⟨held.1.step taken, held.2.step held.1 taken (orderly move member)⟩
    · exact ⟨safe, single⟩
  exact both.2

theorem resumed_between (safe : Safe sessionId first)
    {early between late : List (Move Service Event)} {halt made : Move Service Event}
    (isTrace : trace = early ++ halt :: (between ++ made :: late)) {goalId : String}
    (halts : halt.label.Halts goalId) (submits : made.label = .submitted goalId runId) :
    ∃ move ∈ between, move.label.Resumes goalId := by
  subst isTrace
  rcases run.around with ⟨start, halting, finish⟩
  rcases finish.around with ⟨middle, submitting, _⟩
  have safeHalt := safe_run start safe
  have stays := middle.stays_or
    (fun service => Safe sessionId service ∧ Halted sessionId goalId service)
    (fun move => move.label.Resumes goalId)
    (fun move _ taken held => by
      by_cases resumes : move.label.Resumes goalId
      · exact Or.inr resumes
      · exact Or.inl ⟨held.1.step taken, held.2.step held.1 taken resumes⟩)
    ⟨safeHalt.step halting, halted_of_halts safeHalt halting halts⟩
  rcases stays with ⟨_, halted⟩ | resumed
  · rcases submitted_ahead submitting submits with ⟨phase, here, isAhead⟩
    exact absurd isAhead (halted.idle phase here)
  · exact resumed

end

/-- In every run, a goal keeps its budget, its permission mode and its
resources, is completed by the user only, and gets no run while it is halted.
If all steps are orderly, at most one run of a goal is queued or running. -/
theorem goal_safety {state : WorkbenchState} {goalIds : List String}
    {trace : List (Move Service Event)} {last : Service} (distinct : state.runIds.Nodup)
    (noGoal : (initial state goalIds).goal sessionId = none)
    (run : Run (Step sessionId) (initial state goalIds) trace last) :
    (∀ goal, last.goal sessionId = some goal → goal.runIds.Nodup ∧
        ∀ record ∈ last.state.runs, record.goalId = some goal.goalId → Carries goal record) ∧
      (∀ move ∈ trace, AddsWithinBudget sessionId move.before move.after ∧
        CompletedByUser sessionId move.before move.label move.after) ∧
      (∀ early halt between made late,
        trace = early ++ halt :: (between ++ made :: late) → ∀ goalId runId,
          halt.label.Halts goalId → made.label = .submitted goalId runId →
            ∃ move ∈ between, move.label.Resumes goalId) ∧
      ((∀ move ∈ trace, Orderly sessionId move.before move.label) →
        ∀ goalId, ∀ record ∈ last.state.runs, ∀ other ∈ last.state.runs,
          record.goalId = some goalId → other.goalId = some goalId →
            last.live record.runId = true → last.live other.runId = true →
              record.runId = other.runId) := by
  have first : Safe sessionId (initial state goalIds) := safe_initial distinct noGoal
  have safe := safe_run run first
  refine ⟨?_, ?_, ?_, ?_⟩
  · intro goal isGoal
    exact ⟨safe.references goal isGoal, safe.carried goal isGoal⟩
  · intro move member
    rcases List.append_of_mem member with ⟨early, late, isTrace⟩
    subst isTrace
    rcases run.around with ⟨start, taken, _⟩
    have safeBefore := safe_run start first
    exact ⟨safeBefore.addsWithinBudget taken, safeBefore.completedByUser taken⟩
  · intro early halt between made late isTrace goalId runId halts submits
    exact resumed_between run first isTrace halts submits
  · intro orderly
    exact (single_run run orderly first (single_initial state goalIds)).single

def openSession : WorkbenchSessionRecord :=
  { sessionId := "session"
    workspaceId := "workspace"
    actorUserId := "user"
    channelId := "channel"
    projectId := none
    surface := "product-chat"
    createdAt := "2026-01-01T00:00:00.000Z"
    updatedAt := "2026-01-01T00:00:00.000Z"
    goal := none }

def openState : WorkbenchState :=
  { sessions := [openSession]
    runs := [] }

def summaryRequest : GoalRequest :=
  { objective := "Write the summary."
    sourceEventId := "event"
    maxRuns := 4
    permissionMode := .readonly
    resourceRefs := []
    objective_ne := by decide
    objective_length := by decide
    one_le_maxRuns := by decide
    maxRuns_le := by decide }

def summaryTime : String := "2026-01-01T00:00:00.000Z"

def summaryGoal (status : GoalStatus) (reason : Option String) (runIds : List String) :
    WorkbenchGoalRecord :=
  { summaryRequest.goal "goal" summaryTime with
    status
    lastReason := reason
    runIds }

def summarySession (goal : WorkbenchGoalRecord) : WorkbenchSessionRecord :=
  { openSession with goal := some goal }

def summaryState (goal : WorkbenchGoalRecord) (runs : List WorkbenchRunRecord) : WorkbenchState :=
  { sessions := [summarySession goal]
    runs }

def firstRun : WorkbenchRunRecord :=
  goalRun openSession (summaryGoal .active none []) "Write the summary." .user "first" summaryTime

theorem goal_safety_first :
    ∃ trace last, Run (Step "session") (initial openState []) trace last ∧
      last.state.runs = [firstRun] ∧ ∀ goal, last.goal "session" = some goal →
        goal.runIds.Nodup ∧ ∀ record ∈ last.state.runs, record.goalId = some goal.goalId →
          Carries goal record := by
  have run : Run (Step "session") (initial openState []) _ _ :=
    .cons (@Step.created _ _ openSession (summarySession (summaryGoal .active none []))
      (summaryGoal .active none []) (summaryState (summaryGoal .active none []) [])
      summaryRequest "goal" summaryTime rfl rfl List.not_mem_nil (fun _ => rfl)
      (fun _ member => by cases member) rfl rfl) <|
    .cons (.submitted "first" summaryTime rfl List.not_mem_nil rfl) <|
    .cons (@Step.referred _ _ (summaryGoal .active none []) firstRun true
      (summarySession (summaryGoal .active none ["first"]))
      (summaryState (summaryGoal .active none ["first"]) [firstRun]) summaryTime rfl rfl) <|
    .nil _
  have distinct : openState.runIds.Nodup := List.nodup_nil
  exact ⟨_, _, run, rfl, (goal_safety distinct rfl run).1⟩

def startedRun : WorkbenchRunRecord :=
  { firstRun with admissionStatus := some .started }

def pausedGoal : WorkbenchGoalRecord :=
  summaryGoal .paused (some "run_awaiting_input") ["first"]

def resumedGoal : WorkbenchGoalRecord :=
  summaryGoal .active (some "user_resumed") ["first"]

def secondRun : WorkbenchRunRecord :=
  goalRun (summarySession resumedGoal) resumedGoal
    (continuationPrompt resumedGoal none .userResumed) .goalContinuation "second" summaryTime

def overlap : List Event :=
  [.created "goal", .submitted "goal" "first", .referred "goal" "first", .prepared "first",
    .claimed "first", .startReturned "first", .markedStarted "first",
    .appended "first" (.outcome .awaitingInput none), .ticked "goal", .decided "goal",
    .continued "first", .controlled (.resume none) "goal", .evidenceRead "goal",
    .submitted "goal" "second", .referred "goal" "second", .prepared "second", .claimed "second"]

/-- A goal is paused because its run awaits input.  The user continues the run
and then resumes the goal: a second run is started beside the first. -/
theorem resumed_goal_starts_a_second_run :
    ∃ trace last, Run (Step "session") (initial openState []) trace last ∧
      trace.map Move.label = overlap ∧ last.state.runs = [startedRun, secondRun] ∧
      startedRun.goalId = secondRun.goalId ∧ last.live "first" = true ∧
      last.live "second" = true := by
  refine ⟨_, _,
    .cons (@Step.created _ _ openSession (summarySession (summaryGoal .active none []))
      (summaryGoal .active none []) (summaryState (summaryGoal .active none []) []) summaryRequest
        "goal" summaryTime rfl rfl List.not_mem_nil (fun _ => rfl)
        (fun _ member => by cases member) rfl rfl) <|
    .cons (.submitted "first" summaryTime rfl List.not_mem_nil rfl) <|
    .cons (@Step.referred _ _ (summaryGoal .active none []) firstRun true
      (summarySession (summaryGoal .active none ["first"]))
      (summaryState (summaryGoal .active none ["first"]) [firstRun]) summaryTime rfl rfl) <|
    .cons (@Step.prepared _ _ firstRun rfl) <|
    .cons (@Step.claimed _ _ firstRun rfl rfl) <|
    .cons (@Step.startReturned _ _ firstRun rfl rfl) <|
    .cons (@Step.markedStarted _ _ firstRun
      (summaryState (summaryGoal .active none ["first"]) [startedRun]) rfl rfl) <|
    .cons (@Step.appended _ _ [] "first" (.outcome .awaitingInput none) rfl rfl
      (fun same => by cases same)) <|
    .cons (@Step.ticked _ _ (summarySession (summaryGoal .active none ["first"]))
      (summaryGoal .active none ["first"]) rfl rfl rfl rfl) <|
    .cons (@Step.decided _ _ (summaryGoal .active none ["first"]) _
      (summarySession pausedGoal) (summaryState pausedGoal [startedRun]) summaryTime rfl rfl) <|
    .cons (@Step.continued _ _ [.outcome .awaitingInput none] .awaitingInput "first" rfl rfl
      rfl) <|
    .cons (@Step.controlled _ _ (summarySession pausedGoal) (summarySession resumedGoal)
      pausedGoal resumedGoal (summaryState resumedGoal [startedRun]) (.resume none) summaryTime
      rfl rfl rfl rfl rfl) <|
    .cons (@Step.evidenceRead _ _ (summarySession resumedGoal) resumedGoal rfl) <|
    .cons (@Step.submitted _ _ (summarySession resumedGoal) resumedGoal
      (continuationPrompt resumedGoal none .userResumed) .goalContinuation "second" summaryTime
      rfl ?_ rfl) <|
    .cons (@Step.referred _ _ resumedGoal secondRun true
      (summarySession (summaryGoal .active (some "user_resumed") ["first", "second"]))
      (summaryState (summaryGoal .active (some "user_resumed") ["first", "second"])
        [startedRun, secondRun]) summaryTime rfl rfl) <|
    .cons (@Step.prepared _ _ secondRun rfl) <|
    .cons (@Step.claimed _ _ secondRun rfl rfl) (.nil _), ?_, ?_, ?_, ?_, ?_⟩
  · decide
  · rfl
  · rfl
  · rfl
  · rfl
  · rfl

end AnnaAgent.Host.GoalRuns
