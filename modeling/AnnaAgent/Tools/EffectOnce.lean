/-
Effects execute at most once.
-/

import AnnaAgent.Tools.EffectLedger

namespace AnnaAgent.Tools

open Foundation EventStore

def ExecutesEffect : Call → Prop
  | .executeEffect _ _ _ => True
  | _ => False

/-- Every answer is possible. -/
def Unconditional (_ : SeamId) (request : Request) (_ : World)
    (_ : Except Thrown request.Response) : Prop :=
  True

section Admits

variable {meets : SeamId → (request : Request) → World → Except Thrown request.Response → Prop}

theorem ledgerProtocol_admits (digest : String → String) :
    (ledgerProtocol digest ExecutesEffect meets).Admits := by
  rintro seam program world ⟨call, isEffect, isProgram⟩
  rw [isProgram]
  cases call with
  | executeEffect sandbox request replayPolicy =>
    exact Protocol.abides_bind executeEffect_abides (fun _ _ _ => trivial)
  | execute gateway request | answerApproval gateway answer => exact isEffect.elim

theorem ledgerContract_admits (digest : String → String) :
    (ledgerContract digest ExecutesEffect meets).Admits := by
  rintro seam program world ⟨call, isEffect, isProgram⟩ _
  rw [isProgram]
  cases call with
  | executeEffect sandbox request replayPolicy =>
    exact Contract.ensures_bind ledgerContract_ensures (fun _ _ _ _ _ _ _ _ => trivial)
      (fun _ _ _ _ _ => trivial)
  | execute gateway request | answerApproval gateway answer => exact isEffect.elim

end Admits

section Runs

variable {digest : String → String} {trace : List (Move Crowd Happening)} {last : Crowd}

theorem later_of_mem {calls : Call → Prop}
    {meets : SeamId → (request : Request) → World → Except Thrown request.Response → Prop}
    {first : Crowd} (run : Run ((host digest calls).within meets).Step first trace last)
    {move : Move Crowd Happening} (member : move ∈ trace) :
    Later move.before.shared last.shared := by
  obtain ⟨early, late, isTrace⟩ := List.append_of_mem member
  subst isTrace
  have around := run.around
  exact ((host_respects digest calls meets).step around.2.1).trans
    ((host_respects digest calls meets).run around.2.2)

theorem executionKey_ne_empty {request : ToolRequest} {replayPolicy : ReplayPolicy}
    {effectKey intentHash : String} :
    executionKey request replayPolicy effectKey intentHash ≠ "" := by
  intro isEmpty
  have chars := congrArg String.toList isEmpty
  unfold executionKey at chars
  rw [String.toList_ofList] at chars
  cases chars

theorem executionKey_same {first second : ToolRequest} {firstPolicy secondPolicy : ReplayPolicy}
    {firstKey secondKey firstHash secondHash : String}
    (same : executionKey first firstPolicy firstKey firstHash =
      executionKey second secondPolicy secondKey secondHash) :
    firstKey = secondKey ∧ firstHash = secondHash := by
  have values := Json.chars_injective (String.ofList_inj.1 same)
  simp only [Json.arr.injEq, List.cons.injEq, Json.str.injEq, and_true] at values
  exact ⟨effectStreamId_injective values.2.2.1, values.2.2.2.2⟩

theorem joined_agrees {world : World} (inv : LedgerInv digest world)
    (distinct : DistinctIntents digest world) {joined : Joined} (member : joined ∈ world.joins)
    {effectKey : String} (isKey : joined.cause.request.effectKey = some effectKey) :
    ∃ execution, world.executions[joined.execution]? = some execution ∧
      execution.cause.request.effectKey = some effectKey ∧
      (joined.cause.request.toRunAttribution = execution.cause.request.toRunAttribution →
        Agrees joined.cause execution.cause) := by
  rcases inv.joined joined member with ⟨isPolicy, execution, found, sameKey⟩
  have joinedCalled : world.CalledWith joined.cause := Or.inr ⟨joined, member, rfl⟩
  have executionCalled : world.CalledWith execution.cause :=
    Or.inl ⟨execution, List.mem_of_getElem? found, rfl⟩
  refine ⟨execution, found, ?_⟩
  rcases joined with ⟨⟨request, replayPolicy⟩, id⟩
  rcases execution with ⟨⟨other, otherPolicy⟩, recorded, outcome⟩
  change request.effectKey = some effectKey at isKey
  cases replayPolicy with
  | none => exact absurd rfl isPolicy
  | some replayPolicy =>
    unfold Cause.executionKey at sameKey
    dsimp only at sameKey
    rw [isKey] at sameKey
    cases otherKey : other.effectKey with
    | none =>
      rw [otherKey] at sameKey
      exact absurd sameKey executionKey_ne_empty
    | some otherEffect =>
      rw [otherKey] at sameKey
      cases otherPolicy with
      | none => exact absurd sameKey executionKey_ne_empty
      | some otherPolicy =>
        rcases executionKey_same sameKey with ⟨sameEffect, sameHash⟩
        refine ⟨congrArg some sameEffect.symm, ?_⟩
        intro sameAttribution
        rcases effectIntent_same (distinct _ _ _ _ joinedCalled executionCalled
            (effectIntentHash_eq sameHash)) with
          ⟨sameScope, sameRun, sameWorker, sameName, sameInput, samePolicy⟩
        exact ⟨sameScope, sameAttribution, sameRun, sameWorker, sameName, sameInput,
          congrArg some samePolicy⟩

theorem recorded_agrees {world : World} (inv : LedgerInv digest world)
    (distinct : DistinctIntents digest world) {effectKey : String} {started : Entry}
    {recorded : Cause} (member : started ∈ world.entries (effectStreamId effectKey))
    (isRecorded : RecordedFor digest (effectStreamId effectKey) started recorded)
    {cause : Cause} (isCalled : world.CalledWith cause)
    (isMatch : matchesCause digest started.event cause = true) : Agrees cause recorded := by
  have recordedKnown : world.Known recorded := by
    rcases inv.known _ started member with ⟨own, isOwn, known⟩
    rw [isRecorded.isStarted.2.2] at isOwn
    cases isOwn
    exact known
  rcases isRecorded with ⟨replayPolicy, key, id, timestamp, isPolicy, _, _, isStarted⟩
  rcases recorded with ⟨request, recordedPolicy⟩
  change recordedPolicy = some replayPolicy at isPolicy
  subst isPolicy
  rcases cause with ⟨other, otherPolicy⟩
  cases otherPolicy with
  | none => cases isMatch
  | some otherPolicy =>
    rw [isStarted] at isMatch
    exact agrees_of_matches distinct isCalled (Or.inl recordedKnown) isMatch

/-- In every run of calls of effects, the sandbox is called at most once for an
effect key, only for the call that the started event is recorded for; the
stream of the effect holds at most that event and one terminal event; and an
execution for another call ends with a conflict, or else with an error when it
was entered before that event.  A call that joins an execution of another call
with the same attribution agrees with it. -/
theorem effect_executes_once (run : ToolRun digest ExecutesEffect trace last)
    (distinct : DistinctIntents digest last.shared) (effectKey : String) :
    sandboxCalls effectKey trace ≤ 1 ∧
      EffectHistory digest (effectStreamId effectKey)
        (last.shared.entries (effectStreamId effectKey)) ∧
      (∀ started ∈ last.shared.entries (effectStreamId effectKey), ∀ recorded,
        RecordedFor digest (effectStreamId effectKey) started recorded →
          (∀ move ∈ trace, ∀ seam request replayPolicy answer,
            move.label = .answered seam (.sandboxExecute request replayPolicy) answer →
            request.effectKey = some effectKey → recorded = ⟨request, replayPolicy⟩) ∧
          (∀ execution ∈ last.shared.executions,
            execution.cause.request.effectKey = some effectKey →
            ¬ Agrees execution.cause recorded → ∀ outcome, execution.outcome = some outcome →
              outcome = .ok effectKeyConflict ∨
                ((∃ error, outcome = .error error) ∧ started ∉ execution.recorded))) ∧
      (∀ joined ∈ last.shared.joins, joined.cause.request.effectKey = some effectKey →
        ∃ execution, last.shared.executions[joined.execution]? = some execution ∧
          execution.cause.request.effectKey = some effectKey ∧
          (joined.cause.request.toRunAttribution = execution.cause.request.toRunAttribution →
            Agrees joined.cause execution.cause)) := by
  have within : Run ((host digest ExecutesEffect).within Unconditional).Step
      ⟨World.empty, []⟩ trace last := run_within run (fun _ _ _ _ _ _ => trivial)
  have admits : (ledgerContract digest ExecutesEffect Unconditional).Admits :=
    ledgerContract_admits digest
  rcases Contract.run_allowed admits (ledgerInv_empty digest) within with ⟨inv, allowed⟩
  have sandboxAllowed : ∀ move ∈ trace, ∀ seam request replayPolicy answer,
      move.label = .answered seam (.sandboxExecute request replayPolicy) answer →
      LedgerAllows digest (.sandboxExecute request replayPolicy) move.before.shared :=
    fun move member seam request replayPolicy answer isLabel =>
      (allowed move member).2 seam _ answer isLabel
  refine ⟨?_, inv.histories _, ?_, ?_⟩
  · refine sandboxCalls_le_one (ledgerProtocol_admits digest) within ?_
    intro move member seam request answer isLabel
    exact absurd rfl (sandboxAllowed move member seam request none answer isLabel).1
  · intro started member recorded isRecorded
    have onlyStarted : ∀ other ∈ last.shared.entries (effectStreamId effectKey),
        other.event.type = "tool.effect.started" → other = started := by
      intro other otherMember isStarted
      rcases (inv.histories _).started_unique otherMember isStarted with ⟨_, _, isHead, _⟩
      rcases (inv.histories _).started_unique member isRecorded.isStarted.1 with
        ⟨_, _, isHead', _⟩
      rw [isHead] at isHead'
      exact (List.cons.inj isHead').1
    refine ⟨?_, ?_⟩
    · intro move moveMember seam request replayPolicy answer isLabel isKey
      rcases (sandboxAllowed move moveMember seam request replayPolicy answer isLabel).2 with
        ⟨otherKey, isOther, other, otherMember, isStarted, isCause⟩
      have sameKey : effectKey = otherKey := Option.some.inj (isKey.symm.trans isOther)
      subst sameKey
      have atEnd := ((later_of_mem within moveMember).streams _).subset otherMember
      have same := onlyStarted other atEnd isStarted
      rw [same, isRecorded.isStarted.2.2] at isCause
      exact Option.some.inj isCause
    · intro execution isExecution isKey differs outcome isOutcome
      have fits := inv.settled execution isExecution outcome isOutcome
      cases outcome with
      | ok result =>
        rcases fits effectKey isKey with ⟨other, otherMember, isStarted, agrees⟩
        rw [onlyStarted other otherMember isStarted] at agrees
        rcases agrees with isMatch | isConflict
        · exact absurd (recorded_agrees inv distinct member isRecorded
              (Or.inl ⟨execution, isExecution, rfl⟩) isMatch) differs
        · exact Or.inl (congrArg Except.ok isConflict)
      | error error =>
        refine Or.inr ⟨⟨error, rfl⟩, ?_⟩
        intro wasRecorded
        have isMatch := fits started wasRecorded isRecorded.isStarted.1
        exact absurd (recorded_agrees inv distinct member isRecorded
              (Or.inl ⟨execution, isExecution, rfl⟩) isMatch) differs
  · intro joined member isKey
    exact joined_agrees inv distinct member isKey

def raceRequest (input : String) : ToolRequest :=
  { workspaceId := "w"
    channelId := "c"
    runId := "r"
    workerProfileId := "p"
    name := "bounded_patch"
    input := .str input
    effectKey := some "k"
    toolCallId := "t"
    parentRunId := none
    parentEventId := none
    laneId := none }

def raceCause (input : String) : Cause :=
  { request := raceRequest input
    replayPolicy := some .never }

def raceEnv : Env :=
  { append := .appended
    text := .ok "e"
    decision := .ok "allow"
    sandbox := .ok { status := .succeeded, output := none }
    aborted := false }

/-- Two calls with different inputs, answered in turn. -/
def race : List Choice :=
  .call 0 (.executeEffect .direct (raceRequest "a") .never) ::
    .call 1 (.executeEffect .direct (raceRequest "b") .never) ::
      (List.replicate 12 [.answer 0 raceEnv, .answer 1 raceEnv]).flatten

def raced : List (Move Crowd Happening) × Crowd :=
  play id race ⟨World.empty, []⟩

theorem raced_run : ToolRun id ExecutesEffect raced.1 raced.2 := by
  refine play_run id ?_ ⟨World.empty, []⟩
  intro choice member
  have kinds : ∀ other ∈ race, other.Of ExecutesEffect := by
    unfold race
    intro other isOther
    rcases List.mem_cons.1 isOther with isFirst | isOther
    · rw [isFirst]
      exact trivial
    · rcases List.mem_cons.1 isOther with isSecond | isAnswer
      · rw [isSecond]
        exact trivial
      · rcases List.mem_flatten.1 isAnswer with ⟨turn, isTurn, inTurn⟩
        rw [List.eq_of_mem_replicate isTurn] at inTurn
        rcases List.mem_cons.1 inTurn with isAnswer | inTurn
        · rw [isAnswer]
          exact trivial
        · rw [List.mem_singleton.1 inTurn]
          exact trivial
  exact kinds choice member

theorem raced_distinct : DistinctIntents id raced.2.shared :=
  fun _ _ _ _ _ _ same => same

theorem effect_executes_once_race :
    0 < sandboxCalls "k" raced.1 ∧ sandboxCalls "k" raced.1 ≤ 1 :=
  ⟨by decide +kernel, (effect_executes_once raced_run raced_distinct "k").1⟩

/-- The call that loses the race does not return a conflict: it fails with the
refusal of its own started event. -/
theorem racing_call_fails :
    ToolRun id ExecutesEffect raced.1 raced.2 ∧
      (∃ started ∈ raced.2.shared.entries (effectStreamId "k"),
        started.event.type = "tool.effect.started" ∧ started.cause = some (raceCause "a")) ∧
      (∃ execution ∈ raced.2.shared.executions, execution.cause = raceCause "b" ∧
        execution.outcome.map Except.toOption = some none) ∧
      ¬ Agrees (raceCause "b") (raceCause "a") := by
  refine ⟨raced_run, ?_, ?_, ?_⟩
  · have found : raced.2.shared.entries (effectStreamId "k") |>.any (fun started =>
        decide (started.event.type = "tool.effect.started") &&
          decide (started.cause = some (raceCause "a"))) := by
      decide +kernel
    rcases List.any_eq_true.1 found with ⟨started, member, isStarted⟩
    rw [Bool.and_eq_true, decide_eq_true_eq, decide_eq_true_eq] at isStarted
    exact ⟨started, member, isStarted⟩
  · have found : raced.2.shared.executions.any (fun execution =>
        decide (execution.cause = raceCause "b") &&
          decide (execution.outcome.map Except.toOption = some none)) := by
      decide +kernel
    rcases List.any_eq_true.1 found with ⟨execution, member, isExecution⟩
    rw [Bool.and_eq_true, decide_eq_true_eq, decide_eq_true_eq] at isExecution
    exact ⟨execution, member, isExecution⟩
  · intro agrees
    have sameInput := agrees.input
    unfold Json.Same at sameInput
    exact absurd sameInput (by decide)

end Runs

end AnnaAgent.Tools
