/-
What one step does to the goal of a session and to the records of its runs.

A goal changes in four ways: it is written, the user controls it, the host
decides about it, or it gets a reference to a run.  A run record changes only in
its admission.
-/

import AnnaAgent.Host.GoalRuns
import AnnaAgent.Host.SessionAtomicity

namespace AnnaAgent.Host.GoalRuns

open Foundation
open EventStore (OutcomeStatus)

variable {sessionId timestamp : String} {saved session : WorkbenchSessionRecord}
  {goal patched : WorkbenchGoalRecord}

theorem updateSession_found
    {mutation : WorkbenchSessionRecord → Except SessionStoreError WorkbenchSessionRecord}
    {before after : WorkbenchState}
    (stored : updateSession sessionId mutation before = .ok (saved, after)) :
    ∃ session, before.getSession sessionId = some session ∧ mutation session = .ok saved ∧
      after.getSession sessionId = some saved ∧ saved.sessionId = sessionId ∧
      after.runs = before.runs := by
  unfold updateSession at stored
  split at stored
  · cases stored
  · rename_i session found
    cases mutated : mutation session with
    | error error =>
      simp only [mutated] at stored
      cases stored
    | ok next =>
      simp only [mutated] at stored
      split at stored
      · cases stored
      · rename_i sameId
        have isSame := not_not.1 sameId
        cases stored
        refine ⟨session, found, mutated, ?_, isSame, rfl⟩
        exact find?_updateFirst_of_both found found (decide_eq_true isSame)

theorem touchSession_goal (run : WorkbenchRunRecord) (state : WorkbenchState)
    (runs : List WorkbenchRunRecord) (sessionId : String) :
    (WorkbenchState.getSession { sessions := touchSession run state.sessions, runs := runs }
        sessionId).map WorkbenchSessionRecord.goal =
      (state.getSession sessionId).map WorkbenchSessionRecord.goal := by
  unfold WorkbenchState.getSession touchSession
  induction state.sessions with
  | nil => rfl
  | cons session rest ih =>
    rw [updateFirst]
    by_cases isRun : session.sessionId = run.sessionId
    · rw [if_pos (decide_eq_true isRun), List.find?_cons, List.find?_cons]
      have sameId : (if session.updatedAt < run.createdAt then
          { session with updatedAt := run.createdAt } else session).sessionId =
            session.sessionId := by
        split
        · rfl
        · rfl
      have sameGoal : (if session.updatedAt < run.createdAt then
          { session with updatedAt := run.createdAt } else session).goal = session.goal := by
        split
        · rfl
        · rfl
      rw [sameId]
      cases decide (session.sessionId = sessionId) with
      | true => exact congrArg some sameGoal
      | false => rfl
    · rw [if_neg (fun isSame => isRun (of_decide_eq_true isSame)), List.find?_cons,
        List.find?_cons]
      cases decide (session.sessionId = sessionId) with
      | true => rfl
      | false => exact ih

theorem goal_of_map {before after : Service}
    (same : (after.state.getSession sessionId).map WorkbenchSessionRecord.goal =
      (before.state.getSession sessionId).map WorkbenchSessionRecord.goal) :
    after.goal sessionId = before.goal sessionId := by
  unfold Service.goal
  have joined := congrArg (fun goals => goals.bind id) same
  simp only [Option.bind_map] at joined
  exact joined

/-- What an admission leaves of the record of a run. -/
structure Alike (run run' : WorkbenchRunRecord) : Prop where
  runId : run'.runId = run.runId
  sessionId : run'.sessionId = run.sessionId
  sourceEventId : run'.sourceEventId = run.sourceEventId
  goalId : run'.goalId = run.goalId
  permissionMode : run'.permissionMode = run.permissionMode
  resourceRefs : run'.resourceRefs = run.resourceRefs

theorem Alike.refl (run : WorkbenchRunRecord) : Alike run run :=
  ⟨rfl, rfl, rfl, rfl, rfl, rfl⟩

def AlikeRuns (before after : WorkbenchState) : Prop :=
  List.Forall₂ Alike before.runs after.runs

theorem alikeRuns_of_eq {before after : WorkbenchState} (same : after.runs = before.runs) :
    AlikeRuns before after := by
  unfold AlikeRuns
  rw [same]
  exact List.forall₂_same.2 (fun run _ => Alike.refl run)

section

variable {before after : WorkbenchState} (alike : AlikeRuns before after)

include alike

theorem AlikeRuns.back {run' : WorkbenchRunRecord} (member : run' ∈ after.runs) :
    ∃ run ∈ before.runs, Alike run run' := by
  unfold AlikeRuns at alike
  generalize before.runs = runs, after.runs = runs' at alike member
  induction alike with
  | nil => cases member
  | cons isAlike rest ih =>
    rcases List.mem_cons.1 member with rfl | later
    · exact ⟨_, List.mem_cons_self, isAlike⟩
    · rcases ih later with ⟨run, isRun, alikeRun⟩
      exact ⟨run, List.mem_cons_of_mem _ isRun, alikeRun⟩

theorem AlikeRuns.forth {run : WorkbenchRunRecord} (member : run ∈ before.runs) :
    ∃ run' ∈ after.runs, Alike run run' := by
  unfold AlikeRuns at alike
  generalize before.runs = runs, after.runs = runs' at alike member
  induction alike with
  | nil => cases member
  | cons isAlike rest ih =>
    rcases List.mem_cons.1 member with rfl | later
    · exact ⟨_, List.mem_cons_self, isAlike⟩
    · rcases ih later with ⟨run', isRun, alikeRun⟩
      exact ⟨run', List.mem_cons_of_mem _ isRun, alikeRun⟩

theorem AlikeRuns.runIds : after.runIds = before.runIds := by
  unfold AlikeRuns at alike
  unfold WorkbenchState.runIds
  generalize before.runs = runs, after.runs = runs' at alike
  induction alike with
  | nil => rfl
  | cons isAlike rest ih => rw [List.map_cons, List.map_cons, isAlike.runId, ih]

end

theorem markRunAdmission_alike {runId : String} {status : AdmissionStatus} {error : Option String}
    {before after : WorkbenchState}
    (marked : markRunAdmission runId status error before = .ok after) :
    AlikeRuns before after ∧ after.sessions = before.sessions := by
  unfold markRunAdmission at marked
  split at marked
  · cases marked
  · cases marked
    refine ⟨?_, rfl⟩
    apply updateFirst_forall₂
    · exact Alike.refl
    · intro run _
      exact ⟨rfl, rfl, rfl, rfl, rfl, rfl⟩

theorem createOrGetRun_result (run : WorkbenchRunRecord) (before : WorkbenchState) :
    (run.runId ∉ before.runIds ∧
        before.runOfSource run.sessionId run.sourceEventId = none ∧
        createOrGetRun run before = (.created run,
          { sessions := touchSession run before.sessions, runs := before.runs ++ [run] })) ∨
      (∃ found ∈ before.runs, sameRunIdentity found run = true ∧
        createOrGetRun run before = (.existing found, before)) ∨
      createOrGetRun run before = (.conflict, before) ∧
        ((before.runOfSource run.sessionId run.sourceEventId).isSome = true ∨
          run.runId ∈ before.runIds) := by
  unfold createOrGetRun
  cases bySource : before.runOfSource run.sessionId run.sourceEventId with
  | some found =>
    rw [Option.some_or]
    dsimp only
    cases same : sameRunIdentity found run with
    | true =>
      exact Or.inr (Or.inl ⟨found, List.mem_of_find?_eq_some bySource, same, rfl⟩)
    | false => exact Or.inr (Or.inr ⟨rfl, Or.inl rfl⟩)
  | none =>
    rw [Option.none_or]
    cases byId : before.getRun run.runId with
    | some found =>
      dsimp only
      have member := List.mem_of_find?_eq_some byId
      cases same : sameRunIdentity found run with
      | true => exact Or.inr (Or.inl ⟨found, member, same, rfl⟩)
      | false =>
        refine Or.inr (Or.inr ⟨rfl, Or.inr ?_⟩)
        unfold WorkbenchState.getRun at byId
        have isFound := List.find?_some byId
        have sameId : found.runId = run.runId := of_decide_eq_true isFound
        rw [← sameId]
        exact List.mem_map_of_mem member
    | none =>
      refine Or.inl ⟨?_, rfl, rfl⟩
      intro member
      rcases List.mem_map.1 member with ⟨found, isFound, sameId⟩
      exact List.find?_eq_none.1 byId found isFound (decide_eq_true sameId)

theorem createOrGetRun_goal (run : WorkbenchRunRecord) {before : Service} {after : WorkbenchState}
    {lookup : WorkbenchRunLookup} (looked : createOrGetRun run before.state = (lookup, after))
    {later : Service} (isLater : later.state = after) :
    later.goal sessionId = before.goal sessionId := by
  apply goal_of_map
  rw [isLater]
  rcases createOrGetRun_result run before.state with ⟨_, _, created⟩ | ⟨_, _, _, existing⟩ |
    ⟨conflict, _⟩
  · cases created.symm.trans looked
    exact touchSession_goal run before.state _ sessionId
  · cases existing.symm.trans looked
    rfl
  · cases conflict.symm.trans looked
    rfl

/-! ### Patches of a goal -/

structure SameGoal (goal patched : WorkbenchGoalRecord) : Prop where
  goalId : patched.goalId = goal.goalId
  permissionMode : patched.permissionMode = goal.permissionMode
  resourceRefs : patched.resourceRefs = goal.resourceRefs

theorem controlGoal_ok {action : GoalAction}
    (allowed : controlGoal action timestamp goal = .ok patched) :
    SameGoal goal patched ∧ patched.runIds = goal.runIds := by
  cases action with
  | pause | complete | stop =>
    simp only [controlGoal] at allowed
    split at allowed
    · cases allowed
    · cases allowed
      exact ⟨⟨rfl, rfl, rfl⟩, rfl⟩
  | resume maxRuns =>
    simp only [controlGoal] at allowed
    split at allowed
    · cases allowed
    · split at allowed
      · cases allowed
      · split at allowed
        · cases allowed
        · cases allowed
          exact ⟨⟨rfl, rfl, rfl⟩, rfl⟩

theorem controlGoal_resume {maxRuns : Option Nat}
    (allowed : controlGoal (.resume maxRuns) timestamp goal = .ok patched) :
    patched.status = .active ∧ patched.runIds.length < patched.maxRuns := by
  simp only [controlGoal] at allowed
  split at allowed
  · cases allowed
  · split at allowed
    · cases allowed
    · split at allowed
      · cases allowed
      · rename_i left
        cases allowed
        exact ⟨rfl, Nat.lt_of_not_le left⟩

/-- Any other action leaves the goal inactive, and only the confirmation of a
goal that awaits review completes it. -/
theorem controlGoal_halts {action : GoalAction} (halts : ∀ maxRuns, action ≠ .resume maxRuns)
    (allowed : controlGoal action timestamp goal = .ok patched) :
    patched.status ≠ .active ∧
      (patched.status = .completed → action = .complete ∧ goal.status = .awaitingReview) := by
  cases action with
  | pause | stop =>
    simp only [controlGoal] at allowed
    split at allowed
    · cases allowed
    · cases allowed
      constructor
      · intro isActive
        cases isActive
      · intro isCompleted
        cases isCompleted
  | complete =>
    simp only [controlGoal] at allowed
    split at allowed
    · cases allowed
    · rename_i awaiting
      cases allowed
      constructor
      · intro isActive
        cases isActive
      · intro _
        exact ⟨rfl, not_not.1 awaiting⟩
  | resume maxRuns => exact absurd rfl (halts maxRuns)

theorem decidedGoal_same (decision : GoalDecision) (progress : Option PlanCounts)
    (timestamp : String) (goal : WorkbenchGoalRecord) :
    SameGoal goal (decidedGoal decision progress timestamp goal) ∧
      (decidedGoal decision progress timestamp goal).runIds = goal.runIds ∧
      (decidedGoal decision progress timestamp goal).maxRuns = goal.maxRuns := by
  cases decision with
  | wait =>
    simp only [decidedGoal]
    split
    · exact ⟨⟨rfl, rfl, rfl⟩, rfl, rfl⟩
    · exact ⟨⟨rfl, rfl, rfl⟩, rfl, rfl⟩
  | «continue» reason | settle status reason => exact ⟨⟨rfl, rfl, rfl⟩, rfl, rfl⟩

theorem decidedGoal_status (decision : GoalDecision) (progress : Option PlanCounts)
    (timestamp : String) (goal : WorkbenchGoalRecord) :
    (decidedGoal decision progress timestamp goal).status = goal.status ∨
      ∃ reason, decision = .settle (decidedGoal decision progress timestamp goal).status
        reason := by
  cases decision with
  | wait =>
    left
    simp only [decidedGoal]
    split
    · rfl
    · rfl
  | «continue» reason => exact Or.inl rfl
  | settle status reason => exact Or.inr ⟨reason, rfl⟩

variable {change : WorkbenchGoalRecord → WorkbenchGoalRecord}

theorem onGoal_ok {goalId : String} (hasGoal : session.goal = some goal)
    (sameId : goal.goalId = goalId) (changed : onGoal goalId change session = .ok saved) :
    saved.goal = some (change goal) := by
  unfold onGoal at changed
  rw [hasGoal] at changed
  dsimp only at changed
  rw [if_neg (not_not_intro sameId)] at changed
  cases changed
  rfl

theorem createGoal_written {request : GoalRequest} {goalId : String}
    {current : Option WorkbenchGoalRecord}
    (written : createGoal request goalId timestamp current = .ok (.written goal)) :
    goal = request.goal goalId timestamp := by
  unfold createGoal at written
  split at written
  · split at written
    · cases written
    · split at written
      · cases written
      · cases written
        rfl
  · cases written
    rfl

def Event.isReferral : Event → Bool
  | .referred _ _ => true
  | _ => false

inductive GoalChange (sessionId : String) (before : Service) (after : Service) : Event → Prop
  | same {event : Event} (kept : after.goal sessionId = before.goal sessionId)
      (goalIds : after.goalIds = before.goalIds) (other : event.isReferral = false) :
      GoalChange sessionId before after event
  | written {request : GoalRequest} {goalId timestamp : String}
      (isGoal : after.goal sessionId = some (request.goal goalId timestamp))
      (fresh : goalId ∉ before.goalIds) (goalIds : after.goalIds = before.goalIds ++ [goalId])
      (unowned : ∀ run ∈ before.state.runs, run.goalId ≠ some goalId)
      (unused : ∀ index, before.state.runOfSource sessionId (goalSource goalId index) = none) :
      GoalChange sessionId before after (.created goalId)
  | controlled {action : GoalAction} {timestamp : String} {goal patched : WorkbenchGoalRecord}
      (wasGoal : before.goal sessionId = some goal)
      (allowed : controlGoal action timestamp goal = .ok patched)
      (isGoal : after.goal sessionId = some patched) (goalIds : after.goalIds = before.goalIds) :
      GoalChange sessionId before after (.controlled action goal.goalId)
  | decided {goal : WorkbenchGoalRecord} {evidence : GoalRunEvidence}
      {progress : Option PlanCounts} {timestamp : String}
      (wasBusy : before.busy = some (.deciding goal evidence))
      (wasGoal : before.goal sessionId = some goal)
      (isGoal : after.goal sessionId =
        some (decidedGoal (decideGoal goal evidence) progress timestamp goal))
      (goalIds : after.goalIds = before.goalIds) :
      GoalChange sessionId before after (.decided goal.goalId)
  | referred {goal : WorkbenchGoalRecord} {run : WorkbenchRunRecord} {isNew : Bool}
      {timestamp : String} (wasBusy : before.busy = some (.referring goal run isNew))
      (wasGoal : before.goal sessionId = some goal)
      (isGoal : after.goal sessionId = some (referRun run.runId timestamp goal))
      (goalIds : after.goalIds = before.goalIds) :
      GoalChange sessionId before after (.referred goal.goalId run.runId)

/-- The operation under way works on the goal that is stored. -/
def Phase.Current (sessionId : String) (service : Service) : Phase → Prop
  | .deciding goal _ => service.goal sessionId = some goal
  | .resuming session goal => service.goal sessionId = some goal ∧ session.sessionId = sessionId
  | .submitting session goal _ _ =>
    service.goal sessionId = some goal ∧ session.sessionId = sessionId
  | .referring goal _ _ => service.goal sessionId = some goal
  | _ => True

theorem goal_of_session {service : Service}
    (found : service.state.getSession sessionId = some session) :
    service.goal sessionId = session.goal := by
  unfold Service.goal
  rw [found]
  rfl

theorem goal_of_state_session {state : WorkbenchState} {events : String → Option (List RunEvent)}
    {busy : Option Phase} {goalIds : List String}
    (found : state.getSession sessionId = some session) :
    Service.goal sessionId { state, events, busy, goalIds } = session.goal := by
  unfold Service.goal
  rw [found]
  rfl

theorem goal_of_state {before after : Service} (same : after.state = before.state) :
    after.goal sessionId = before.goal sessionId := by
  unfold Service.goal
  rw [same]

theorem goal_of_sessions {before after : Service}
    (same : after.state.sessions = before.state.sessions) :
    after.goal sessionId = before.goal sessionId := by
  unfold Service.goal WorkbenchState.getSession
  rw [same]

theorem onGoal_stored {before : Service} (after : Service)
    (wasGoal : before.goal sessionId = some goal)
    (stored : updateSession sessionId (onGoal goal.goalId change) before.state = .ok (saved, after.state)) :
    after.goal sessionId = some (change goal) ∧ saved.goal = some (change goal) ∧
      saved.sessionId = sessionId ∧ after.state.runs = before.state.runs := by
  rcases updateSession_found stored with ⟨session, found, changed, isSaved, sameId, sameRuns⟩
  have hasGoal : session.goal = some goal := (goal_of_session found).symm.trans wasGoal
  have newGoal := onGoal_ok hasGoal rfl changed
  exact ⟨(goal_of_session isSaved).trans newGoal, newGoal, sameId, sameRuns⟩

theorem goal_step {before after : Service} {event : Event}
    (current : ∀ phase, before.busy = some phase → phase.Current sessionId before)
    (taken : Step sessionId before event after) : GoalChange sessionId before after event := by
  cases taken with
  | created request goalId timestamp idle found fresh unused unowned written stored =>
    rcases updateSession_found stored with ⟨_, _, changed, isSaved, _, _⟩
    cases changed
    rw [createGoal_written written] at isSaved ⊢
    exact .written (goal_of_state_session isSaved) fresh rfl unowned unused
  | @controlled session saved goal patched state action timestamp idle found hasGoal allowed
      stored =>
      rcases updateSession_found stored with ⟨_, _, changed, isSaved, _, _⟩
      cases changed
      have wasGoal := (goal_of_session found).trans hasGoal
      exact .controlled wasGoal allowed (goal_of_state_session isSaved) rfl
  | evidenceRead here =>
    split
    · exact .same rfl rfl rfl
    · exact .same rfl rfl rfl
  | ticked idle found hasGoal active | prepared here | prepareFailed failureCode here
  | claimed here unclaimed | startReturned here isClaimed | startFailed failureCode here
  | appended runId event isClaimed goesOn notResumed
  | continued runId isClaimed hasOutcome suspended | crashed => exact .same rfl rfl rfl
  | @decided goal evidence saved state timestamp here stored =>
    have wasGoal : before.goal sessionId = some goal := current _ here
    have isStored := onGoal_stored { before with state } wasGoal stored
    exact .decided here wasGoal isStored.1 rfl
  | submitted runId timestamp here unused unclaimed =>
    unfold Service.submit
    split
    · rename_i looked
      exact .same (createOrGetRun_goal _ looked rfl) rfl rfl
    · rename_i looked
      exact .same (createOrGetRun_goal _ looked rfl) rfl rfl
    · rename_i looked
      exact .same (createOrGetRun_goal _ looked rfl) rfl rfl
  | @referred goal run isNew saved state timestamp here stored =>
    have wasGoal : before.goal sessionId = some goal := current _ here
    have isStored := onGoal_stored { before with state } wasGoal stored
    exact .referred here wasGoal isStored.1 rfl
  | checked here =>
    unfold Service.check
    split
    · exact .same rfl rfl rfl
    · exact .same rfl rfl rfl
  | markedStarted here marked | markedFailed here marked =>
    exact .same (goal_of_sessions (markRunAdmission_alike marked).2) rfl rfl

/-- The records that a step leaves: the same ones, up to their admission, and at
most one new one. -/
inductive RunsChange (before after : Service) : Event → Prop
  | alike {event : Event} (alike : AlikeRuns before.state after.state) :
      RunsChange before after event
  | added {session : WorkbenchSessionRecord} {goal : WorkbenchGoalRecord} {prompt : String}
      {trigger : RunTrigger} {runId timestamp : String}
      (wasBusy : before.busy = some (.submitting session goal prompt trigger))
      (unused : runId ∉ before.state.runIds) (unclaimed : before.events runId = none)
      (runs : after.state.runs =
        before.state.runs ++ [goalRun session goal prompt trigger runId timestamp])
      (events : after.events = before.events)
      (busy : after.busy = some (.referring goal
        (goalRun session goal prompt trigger runId timestamp) true)) :
      RunsChange before after (.submitted goal.goalId runId)

theorem runs_step {before after : Service} {event : Event}
    (taken : Step sessionId before event after) : RunsChange before after event := by
  cases taken with
  | created request goalId timestamp idle found fresh unused unowned written stored
  | controlled action timestamp idle found hasGoal allowed stored
  | decided timestamp here stored | referred timestamp here stored =>
    rcases updateSession_found stored with ⟨_, _, _, _, _, sameRuns⟩
    exact .alike (alikeRuns_of_eq sameRuns)
  | evidenceRead here =>
    apply RunsChange.alike
    apply alikeRuns_of_eq
    split
    · rfl
    · rfl
  | ticked idle found hasGoal active | prepared here | prepareFailed failureCode here
  | claimed here unclaimed | startReturned here isClaimed | startFailed failureCode here
  | appended runId event isClaimed goesOn notResumed
  | continued runId isClaimed hasOutcome suspended | crashed => exact .alike (alikeRuns_of_eq rfl)
  | @submitted session goal prompt trigger runId timestamp here unused unclaimed =>
    unfold Service.submit
    rcases createOrGetRun_result (goalRun session goal prompt trigger runId timestamp)
      before.state with ⟨_, _, created⟩ | ⟨_, _, _, existing⟩ | ⟨conflict, _⟩
    · rw [created]
      exact .added here unused unclaimed rfl rfl rfl
    · rw [existing]
      exact .alike (alikeRuns_of_eq rfl)
    · rw [conflict]
      exact .alike (alikeRuns_of_eq rfl)
  | checked here =>
    unfold Service.check
    split
    · exact .alike (alikeRuns_of_eq rfl)
    · exact .alike (alikeRuns_of_eq rfl)
  | markedStarted here marked | markedFailed here marked =>
    exact .alike (markRunAdmission_alike marked).1

end AnnaAgent.Host.GoalRuns
