/-
Calls that share an execution, and what the ledger replays for them.

A call joins the execution in flight under its key.  The key leaves out the attribution
of a run, which the ledger compares: what the call is given is what its own replay says
only when the effect was started for a call with the same attribution.
-/

import AnnaAgent.Tools.EffectOnce

namespace AnnaAgent.Tools

open Foundation EventStore

structure ReplayInv (digest : String → String) (world : World) : Prop where
  ledger : LedgerInv digest world
  replayed : ∀ execution ∈ world.executions, ∀ outcome, execution.outcome = some outcome →
    Replayed digest execution.cause outcome world

def ReplayAllows (digest : String → String) (request : Request) (world : World) : Prop :=
  LedgerAllows digest request world ∧
    ∀ id outcome, request = .settle id outcome → ∀ execution,
      world.executions[id]? = some execution → Replayed digest execution.cause outcome world

section Keeps

variable {digest : String → String} {before after : World}

theorem perform_replayInv {env : Env} {seam : SeamId} {request : Request}
    {answer : Except Thrown request.Response} (inv : ReplayInv digest before)
    (allowed : ReplayAllows digest request before)
    (done : perform env seam before request = some (answer, after)) : ReplayInv digest after := by
  have ledger := perform_keeps inv.ledger allowed.1 done
  have later := perform_later done
  refine ⟨ledger, ?_⟩
  intro execution member outcome isOutcome
  rcases perform_outcome done member isOutcome with isOld | ⟨id, old, isSettle, found, sameCause, _⟩
  · exact replayed_later later inv.ledger ledger (inv.replayed execution isOld outcome isOutcome)
  · rw [sameCause]
    exact replayed_later later inv.ledger ledger (allowed.2 id outcome isSettle old found)

end Keeps

def replayContract (digest : String → String) (calls : Call → Prop)
    (meets : SeamId → (request : Request) → World → Except Thrown request.Response → Prop) :
    Contract World SeamId Request Request.Response Thrown :=
  { host := (host digest calls).within meets
    later := Later
    respects := host_respects digest calls meets
    inv := ReplayInv digest
    allowed := fun _ request world => ReplayAllows digest request world
    keeps := by
      rintro seam request before answer after ⟨⟨env, done⟩, _⟩ inv allowed
      exact perform_replayInv inv allowed done
    stops := by
      intro seam before after stopped inv
      have ledger := (ledgerContract digest calls meets).stops stopped inv.ledger
      have later := (ledgerContract digest calls meets).respects.stops stopped
      refine ⟨ledger, ?_⟩
      intro execution member outcome isOutcome
      change after = { before with inFlight := _ } at stopped
      rw [stopped] at member
      exact replayed_later later inv.ledger ledger (inv.replayed execution member outcome isOutcome)
    drifts := fun drifted => drifted.elim }

section Runs

variable {digest : String → String} {trace : List (Move Crowd Happening)} {last : Crowd}

theorem replayContract_over {calls : Call → Prop}
    {meets : SeamId → (request : Request) → World → Except Thrown request.Response → Prop} :
    OverLedger digest (replayContract digest calls meets) :=
  { performs := fun performed => performed.1
    later := id
    inv := fun inv => inv.ledger
    allowed := by
      intro seam request world notSettled isAllowed
      refine ⟨isAllowed, ?_⟩
      intro id outcome isSettle
      rw [isSettle] at notSettled
      exact notSettled.elim }

theorem replayContract_admits (digest : String → String) :
    (replayContract digest ExecutesEffect Unconditional).Admits := by
  rintro seam program world ⟨call, isEffect, isProgram⟩ _
  rw [isProgram]
  cases call with
  | executeEffect sandbox request replayPolicy =>
    refine Contract.ensures_bind (executeEffect_ensures replayContract_over ?_)
      (fun _ _ _ _ _ _ _ _ => trivial) (fun _ _ _ _ _ => trivial)
    intro id cause recorded outcome now isOwn _ ends
    refine ⟨?_, ?_⟩
    · intro execution found
      rcases isOwn execution found with ⟨sameCause, sameRecorded⟩
      rw [sameCause, sameRecorded]
      exact ends.1
    · intro id' outcome' isSettle execution found
      cases isSettle
      rw [(isOwn execution found).1]
      exact ends.2
  | execute gateway request | answerApproval gateway answer => exact isEffect.elim

theorem run_replayInv (run : ToolRun digest ExecutesEffect trace last) :
    ReplayInv digest last.shared := by
  have within : Run ((host digest ExecutesEffect).within Unconditional).Step
      ⟨World.empty, []⟩ trace last := run_within run (fun _ _ _ _ _ _ => trivial)
  have empty : ReplayInv digest World.empty :=
    ⟨ledgerInv_empty digest, nofun⟩
  exact (Contract.run_allowed (replayContract_admits digest) empty within).1

def StartedAlike (digest : String → String) (world : World) (effectKey : String)
    (first second : Cause) : Prop :=
  ∀ started ∈ world.entries (effectStreamId effectKey), ∀ recorded,
    RecordedFor digest (effectStreamId effectKey) started recorded →
      Agrees first recorded ∧ Agrees second recorded

variable {second first : Cause}

theorem matchesCause_of_agrees (agrees : Agrees first second)
    (sameKey : first.request.effectKey = second.request.effectKey) (event : Event) :
    matchesCause digest event first = matchesCause digest event second := by
  rcases first with ⟨first, firstPolicy⟩
  rcases second with ⟨second, secondPolicy⟩
  have samePolicy : firstPolicy = secondPolicy := agrees.replayPolicy
  subst samePolicy
  cases firstPolicy with
  | none => rfl
  | some replayPolicy => exact matchesEffectIntent_of_agrees agrees sameKey event

theorem recorded_of_agrees (agrees : Agrees first second)
    (sameKey : first.request.effectKey = second.request.effectKey) (durableEvents : List Event) :
    first.recorded digest durableEvents = second.recorded digest durableEvents := by
  rcases first with ⟨first, firstPolicy⟩
  rcases second with ⟨second, secondPolicy⟩
  have samePolicy : firstPolicy = secondPolicy := agrees.replayPolicy
  subst samePolicy
  change first.effectKey = second.effectKey at sameKey
  unfold Cause.recorded
  dsimp only
  rw [sameKey]
  split
  · exact recordedEffect_of_agrees agrees sameKey durableEvents
  · rfl

theorem recalls_of_agrees {durableEvents : List Event} {replayed : ToolResult}
    (agrees : Agrees first second) (sameKey : first.request.effectKey = second.request.effectKey)
    (recalls : Recalls digest durableEvents second replayed) :
    Recalls digest durableEvents first replayed := by
  refine ⟨?_, ?_⟩
  · intro event member isStarted
    rw [matchesCause_of_agrees agrees sameKey]
    exact recalls.agrees event member isStarted
  · rw [recorded_of_agrees agrees sameKey]
    exact recalls.replays

theorem matches_of_recorded {cause recorded : Cause} {effectKey : String} {started : Entry}
    (isRecorded : RecordedFor digest (effectStreamId effectKey) started recorded)
    (isKey : cause.request.effectKey = some effectKey) (agrees : Agrees cause recorded) :
    matchesCause digest started.event cause = true := by
  rcases isRecorded with ⟨replayPolicy, otherKey, id, timestamp, isPolicy, isOther, same, isStarted⟩
  have sameKey : effectKey = otherKey := effectStreamId_injective same
  subst sameKey
  rw [matchesCause_of_agrees agrees (isKey.trans isOther.symm), isStarted]
  rcases recorded with ⟨request, recordedPolicy⟩
  change recordedPolicy = some replayPolicy at isPolicy
  subst isPolicy
  exact matches_own isOther

/-- In every run of calls of effects: once the execution that a call joined has ended with
a result, the durable path replays that result for both of them, up to what a failure does
not record and without a conflict, exactly when the effect was started for a call with
which both agree. -/
theorem joined_replays_iff (run : ToolRun digest ExecutesEffect trace last)
    (distinct : DistinctIntents digest last.shared) {joined : Joined}
    (member : joined ∈ last.shared.joins) {execution : Execution}
    (found : last.shared.executions[joined.execution]? = some execution) {effectKey : String}
    (isKey : joined.cause.request.effectKey = some effectKey) {result : ToolResult}
    (isOutcome : execution.outcome = some (.ok result)) :
    (∃ replayed,
      Recalls digest (last.shared.streams (effectStreamId effectKey)).events execution.cause
        replayed ∧
      Recalls digest (last.shared.streams (effectStreamId effectKey)).events joined.cause replayed ∧
      Replays result replayed) ↔
    StartedAlike digest last.shared effectKey execution.cause joined.cause := by
  have inv := run_replayInv run
  have isExecution := List.mem_of_getElem? found
  rcases joined_agrees inv.ledger distinct member isKey with ⟨same, isSame, isOwnKey, _⟩
  have sameExecution : same = execution := Option.some.inj (isSame.symm.trans found)
  subst sameExecution
  constructor
  · rintro ⟨replayed, first, second, _⟩ started isStarted recorded isRecorded
    have inStream : started.event ∈ (last.shared.streams (effectStreamId effectKey)).events :=
      List.mem_map_of_mem isStarted
    have isType := isRecorded.isStarted.1
    refine ⟨?_, ?_⟩
    · exact recorded_agrees inv.ledger distinct isStarted isRecorded
        (Or.inl ⟨same, isExecution, rfl⟩) (first.agrees _ inStream isType)
    · exact recorded_agrees inv.ledger distinct isStarted isRecorded
        (Or.inr ⟨joined, member, rfl⟩) (second.agrees _ inStream isType)
  · intro alike
    rcases inv.ledger.settled same isExecution _ isOutcome effectKey isOwnKey with
      ⟨started, isStarted, isType, _⟩
    have history := inv.ledger.histories (effectStreamId effectKey)
    rcases history.started_unique isStarted isType with ⟨recorded, rest, isHead, isRecorded⟩
    rcases alike started isStarted recorded isRecorded with ⟨first, second⟩
    have agreed : ∀ event ∈ (last.shared.streams (effectStreamId effectKey)).events,
        event.type = "tool.effect.started" → matchesCause digest event same.cause = true := by
      intro event inStream isOther
      rcases List.mem_map.1 inStream with ⟨other, isEntry, rfl⟩
      rcases history.started_unique isEntry isOther with ⟨_, _, isOtherHead, _⟩
      rw [isHead] at isOtherHead
      rw [← (List.cons.inj isOtherHead).1]
      exact matches_of_recorded isRecorded isOwnKey first
    rcases inv.replayed same isExecution _ isOutcome result rfl effectKey isOwnKey agreed with
      ⟨replayed, recalls, replays⟩
    refine ⟨replayed, recalls, ?_, replays⟩
    exact recalls_of_agrees (second.trans first.symm) (isKey.trans isOwnKey.symm) recalls

/-- The call of the race with another lane. -/
def laneRequest (laneId : Option String) : ToolRequest :=
  { raceRequest "a" with laneId }

def laneCause (laneId : Option String) : Cause :=
  { request := laneRequest laneId
    replayPolicy := some .never }

/-- A call with another lane joins the call of the race, which runs to its end. -/
def sharing (laneId : Option String) : List Choice :=
  .call 0 (.executeEffect .direct (raceRequest "a") .never) ::
    .call 0 (.executeEffect .direct (laneRequest laneId) .never) ::
      .answer 0 raceEnv :: .answer 1 raceEnv :: List.replicate 12 (.answer 0 raceEnv)

def sharedPlay (laneId : Option String) : List (Move Crowd Happening) × Crowd :=
  play id (sharing laneId) ⟨World.empty, []⟩

theorem shared_run (laneId : Option String) :
    ToolRun id ExecutesEffect (sharedPlay laneId).1 (sharedPlay laneId).2 := by
  apply play_run id
  intro choice member
  unfold sharing at member
  rcases List.mem_cons.1 member with rfl | member
  · exact trivial
  · rcases List.mem_cons.1 member with rfl | member
    · exact trivial
    · rcases List.mem_cons.1 member with rfl | member
      · exact trivial
      · rcases List.mem_cons.1 member with rfl | member
        · exact trivial
        · rw [List.eq_of_mem_replicate member]
          exact trivial

theorem shared_distinct (laneId : Option String) : DistinctIntents id (sharedPlay laneId).2.shared :=
  fun _ _ _ _ _ _ same => same

/-- What is left of the run: one execution, the call that joined it, and the records of the
effect. -/
def sharedEnd (laneId : Option String) : Bool :=
  decide ((sharedPlay laneId).2.shared.joins.map (fun joined => (joined.cause, joined.execution)) =
      [(laneCause laneId, 0)]) &&
    decide ((sharedPlay laneId).2.shared.executions.map
        (fun execution => (execution.cause, execution.outcome.map Except.toOption)) =
      [(raceCause "a", some (some { status := .succeeded, output := none }))]) &&
    ((sharedPlay laneId).2.shared.entries (effectStreamId "k")).all (fun entry =>
      decide (entry.cause = some (raceCause "a")))

theorem sharedEnd_cases {laneId : Option String} (isEnd : sharedEnd laneId = true) :
    ∃ joined execution, joined ∈ (sharedPlay laneId).2.shared.joins ∧
      joined.cause = laneCause laneId ∧
      (sharedPlay laneId).2.shared.executions[joined.execution]? = some execution ∧
      execution.cause = raceCause "a" ∧
      execution.outcome = some (.ok { status := .succeeded, output := none }) ∧
      ∀ started ∈ (sharedPlay laneId).2.shared.entries (effectStreamId "k"),
        started.cause = some (raceCause "a") := by
  rcases (Bool.and_eq_true _ _).mp isEnd with ⟨early, areOwn⟩
  rcases (Bool.and_eq_true _ _).mp early with ⟨joins, executions⟩
  have joins := of_decide_eq_true joins
  have executions := of_decide_eq_true executions
  rcases List.map_eq_singleton_iff.mp joins with ⟨joined, isJoined, sameJoined⟩
  rcases List.map_eq_singleton_iff.mp executions with ⟨execution, isExecution, sameExecution⟩
  rcases Prod.mk.inj sameJoined with ⟨joinedCause, isFirst⟩
  rcases Prod.mk.inj sameExecution with ⟨executionCause, isOutcome⟩
  refine ⟨joined, execution, ?_, joinedCause, ?_, executionCause, ?_, ?_⟩
  · rw [isJoined]
    exact List.mem_singleton_self _
  · rw [isExecution, isFirst]
    rfl
  · rcases Option.map_eq_some_iff.mp isOutcome with ⟨outcome, isSome, isOk⟩
    rw [isSome]
    cases outcome with
    | ok result =>
      cases isOk
      rfl
    | error error => cases isOk
  · intro started member
    exact of_decide_eq_true (List.all_eq_true.mp areOwn started member)

/-- A call that joins one with its own attribution is given what is replayed for it. -/
theorem same_lane_replays :
    ∃ joined ∈ (sharedPlay none).2.shared.joins, ∃ execution replayed,
      (sharedPlay none).2.shared.executions[joined.execution]? = some execution ∧
      Recalls id ((sharedPlay none).2.shared.streams (effectStreamId "k")).events joined.cause
        replayed ∧
      Replays { status := .succeeded, output := none } replayed := by
  rcases sharedEnd_cases (by decide +kernel : sharedEnd none = true) with
    ⟨joined, execution, member, joinedCause, found, executionCause, isOutcome, areOwn⟩
  have isKey : joined.cause.request.effectKey = some "k" := by
    rw [joinedCause]
    rfl
  have alike : StartedAlike id (sharedPlay none).2.shared "k" execution.cause joined.cause := by
    intro started isStarted recorded isRecorded
    have isCause := isRecorded.isStarted.2.2
    rw [areOwn started isStarted] at isCause
    rw [← Option.some.inj isCause, executionCause, joinedCause]
    exact ⟨⟨rfl, rfl, rfl, rfl, rfl, rfl, rfl⟩, ⟨rfl, rfl, rfl, rfl, rfl, rfl, rfl⟩⟩
  rcases (joined_replays_iff (shared_run none) (shared_distinct none) member found isKey
    isOutcome).mpr alike with ⟨replayed, _, second, replays⟩
  exact ⟨joined, member, execution, replayed, found, second, replays⟩

/-- A call with another lane joins it too, and its own replay is a conflict. -/
theorem other_lane_conflicts :
    ToolRun id ExecutesEffect (sharedPlay (some "lane")).1 (sharedPlay (some "lane")).2 ∧
      ∃ joined ∈ (sharedPlay (some "lane")).2.shared.joins, ∃ execution,
        (sharedPlay (some "lane")).2.shared.executions[joined.execution]? = some execution ∧
        execution.outcome = some (.ok { status := .succeeded, output := none }) ∧
        joined.cause.recorded id
          ((sharedPlay (some "lane")).2.shared.streams (effectStreamId "k")).events =
            .result effectKeyConflict ∧
        ¬ ∃ replayed, Recalls id
          ((sharedPlay (some "lane")).2.shared.streams (effectStreamId "k")).events joined.cause
            replayed := by
  rcases sharedEnd_cases (by decide +kernel : sharedEnd (some "lane") = true) with
    ⟨joined, execution, member, joinedCause, found, executionCause, isOutcome, areOwn⟩
  have conflict : ((sharedPlay (some "lane")).2.shared.streams (effectStreamId "k")).events.any
      (fun event => decide (event.type = "tool.effect.started") &&
        !matchesCause id event (laneCause (some "lane"))) = true := by
    decide +kernel
  rcases List.any_eq_true.mp conflict with ⟨event, inStream, differs⟩
  rcases (Bool.and_eq_true _ _).mp differs with ⟨isStarted, isNot⟩
  have isType := of_decide_eq_true isStarted
  refine ⟨shared_run _, joined, member, execution, found, isOutcome, ?_, ?_⟩
  · rw [joinedCause]
    rcases recordedEffect_cases
        ((sharedPlay (some "lane")).2.shared.streams (effectStreamId "k")).events
        (laneRequest (some "lane")) .never "k"
        (effectIntentHash id (laneRequest (some "lane")) .never) with ⟨isConflict, _⟩ | ⟨all, _⟩
    · exact isConflict
    · have isMatch : matchesCause id event (laneCause (some "lane")) = true :=
        all event inStream isType
      rw [isMatch] at isNot
      cases isNot
  · rintro ⟨replayed, recalls⟩
    have isMatch := recalls.agrees event inStream isType
    rw [joinedCause] at isMatch
    rw [isMatch] at isNot
    cases isNot

end Runs

end AnnaAgent.Tools
