/-
What an internal segment can do to the run that it works on.

A segment leaves the delivered terminal as it was, fails the run with an empty answer,
or answers it.  An answer that cannot be hashed raises after it has been written.
-/

import AnnaAgent.Chat.Judgment

namespace AnnaAgent.Chat

open Foundation Runtime

variable {env : ChatEnvironment}

theorem ofTurn_after (events : List LoopEvent) (result : TurnResult) :
    RoundEnd.ofTurn (result.after events) = RoundEnd.ofTurn result := by
  cases result with
  | finished earlier outcome => rfl
  | continued earlier state => rfl

theorem runTurn_completes {turn : Turn} {state : RunState}
    (noFailure : turn.streamed.failure = none) (noTools : turn.streamed.toolCalls.isEmpty = true)
    (noNudge : turn.onAssistantFinal = none) :
    ∃ outcome, RoundEnd.ofTurn (runTurn chatConfig chatHooks turn state) = .finished outcome ∧
      outcome.status = .completed := by
  unfold runTurn
  dsimp only
  rw [noFailure]
  dsimp only
  rw [if_pos noTools, ofTurn_after]
  unfold finalTurn
  rw [noNudge]
  exact ⟨_, rfl, rfl⟩

/-- How a turn of a segment ends that does not complete it. -/
inductive TurnGoesOn (turn : Nat) : RoundEnd → Prop where
  | broken {outcome : LoopOutcome} (unfinished : outcome.status ≠ .completed) :
      TurnGoesOn turn (.finished outcome)
  | continued {next : RunState} (counted : next.turnCount = turn + 1) (within : turn < 8) :
      TurnGoesOn turn (.continued next)

variable {state : RunState}

theorem nextTurnOr_goesOn {messages : List Message} {transition : Transition} :
    TurnGoesOn state.turnCount (.ofTurn (nextTurnOr chatConfig state messages transition)) := by
  unfold nextTurnOr
  by_cases spent : chatConfig.isSpent (state.turnCount + 1) = true
  · rw [if_pos spent]
    apply TurnGoesOn.broken
    intro completed
    cases completed
  · rw [if_neg spent]
    apply TurnGoesOn.continued
    · rfl
    · unfold QueryConfig.isSpent chatConfig at spent
      simp only [decide_eq_true_eq] at spent
      omega

theorem toolTurn_goesOn {turn : Turn} {text : String} {toolCalls : List ModelToolCall} :
    TurnGoesOn state.turnCount (.ofTurn (toolTurn chatConfig chatHooks turn state text toolCalls)) := by
  unfold toolTurn
  dsimp only
  cases (dispatchBatch chatHooks turn state.turnCount toolCalls).raised with
  | none =>
    dsimp only
    rw [ofTurn_after]
    exact nextTurnOr_goesOn
  | some raised =>
    cases raised with
    | capabilitySuspend reason detail | capabilityError errorCode message =>
      apply TurnGoesOn.broken
      intro completed
      cases completed

theorem runTurn_goesOn {turn : Turn}
    (wanted : turn.streamed.failure = none → turn.streamed.toolCalls.isEmpty = true → turn.onAssistantFinal ≠ none) :
    TurnGoesOn state.turnCount (.ofTurn (runTurn chatConfig chatHooks turn state)) := by
  unfold runTurn
  dsimp only
  cases failed : turn.streamed.failure with
  | some failure =>
    apply TurnGoesOn.broken
    intro completed
    cases completed
  | none =>
    dsimp only
    by_cases noTools : turn.streamed.toolCalls.isEmpty = true
    · rw [if_pos noTools, ofTurn_after]
      unfold finalTurn
      cases asked : turn.onAssistantFinal with
      | none => exact absurd asked (wanted failed noTools)
      | some nudge => exact nextTurnOr_goesOn
    · rw [if_neg noTools, ofTurn_after]
      exact toolTurn_goesOn

/-- The run keeps what it has delivered. -/
structure Kept (before after : Live) : Prop where
  terminal : terminalSnapshot after.run = terminalSnapshot before.run
  continuations : after.run.evaluationContinuations = before.run.evaluationContinuations
  finals : after.finals = before.finals

theorem Kept.refl (live : Live) : Kept live live := ⟨rfl, rfl, rfl⟩

variable {second first third : Live}

theorem Kept.trans (one : Kept first second) (other : Kept second third) : Kept first third where
  terminal := other.terminal.trans one.terminal
  continuations := other.continuations.trans one.continuations
  finals := other.finals.trans one.finals

/-- The answer of a model that has stopped. -/
def Round.finalAnswer (env : ChatEnvironment) (round : Round) : Option String :=
  if round.streamed.failure = none ∧ round.streamed.toolCalls.isEmpty = true ∧
      env.strip round.streamed.text ≠ "" then
    some (env.strip round.streamed.text)
  else none

structure AnsweredWith (env : ChatEnvironment) (said : String → Prop) (before after : Live)
    (text : String) : Prop where
  answer : env.isAnswer text
  said : said text
  terminal : terminalSnapshot after.run =
    { terminalSnapshot before.run with
      status := .ready
      assistantMessage := some text }
  continuations : after.run.evaluationContinuations = before.run.evaluationContinuations
  finals : after.finals = before.finals ++ [text]

variable {said : String → Prop}

theorem AnsweredWith.after_kept {text : String} (kept : Kept first second)
    (answered : AnsweredWith env said second third text) :
    AnsweredWith env said first third text where
  answer := answered.answer
  said := answered.said
  terminal := by rw [answered.terminal, kept.terminal]
  continuations := answered.continuations.trans kept.continuations
  finals := by rw [answered.finals, kept.finals]

/-- The model has answered with no text. -/
structure FailedEmpty (before after : Live) : Prop where
  failed : after.run.status = .failed
  code : after.run.errorCode = some "chat_response_empty"
  continuations : after.run.evaluationContinuations = before.run.evaluationContinuations
  finals : after.finals = before.finals

theorem FailedEmpty.after_kept (kept : Kept first second) (empty : FailedEmpty second third) :
    FailedEmpty first third where
  failed := empty.failed
  code := empty.code
  continuations := empty.continuations.trans kept.continuations
  finals := empty.finals.trans kept.finals

inductive SegmentResult (env : ChatEnvironment) (said : String → Prop) (before after : Live) :
    SegmentEnd → Prop where
  | raised (kept : Kept before after) : SegmentResult env said before after .raised
  | broken {outcome : LoopOutcome} (kept : Kept before after)
      (unfinished : outcome.status ≠ .completed) : SegmentResult env said before after (.ended outcome)
  | empty {outcome : LoopOutcome} (failed : FailedEmpty before after) :
      SegmentResult env said before after (.ended outcome)
  | answered {outcome : LoopOutcome} {text : String}
      (answered : AnsweredWith env said before after text) (encoded : env.hashMessage text ≠ none)
      (completed : outcome.status = .completed) : SegmentResult env said before after (.ended outcome)
  | unencoded {text : String} (answered : AnsweredWith env said before after text)
      (unencoded : env.hashMessage text = none) : SegmentResult env said before after .raised

theorem SegmentResult.after_kept {ended : SegmentEnd} (kept : Kept first second)
    (result : SegmentResult env said second third ended) :
    SegmentResult env said first third ended := by
  cases result with
  | raised later => exact .raised (kept.trans later)
  | broken later unfinished => exact .broken (kept.trans later) unfinished
  | empty failed => exact .empty (failed.after_kept kept)
  | answered answered encoded completed =>
    exact .answered (answered.after_kept kept) encoded completed
  | unencoded answered unencoded => exact .unencoded (answered.after_kept kept) unencoded

theorem SegmentResult.then_kept {ended : SegmentEnd}
    (result : SegmentResult env said first second ended) (kept : Kept second third) :
    SegmentResult env said first third ended := by
  have answers : ∀ text, AnsweredWith env said first second text →
      AnsweredWith env said first third text := by
    intro text answered
    constructor
    · exact answered.answer
    · exact answered.said
    · exact kept.terminal.trans answered.terminal
    · exact kept.continuations.trans answered.continuations
    · exact kept.finals.trans answered.finals
  cases result with
  | raised earlier => exact .raised (earlier.trans kept)
  | broken earlier unfinished => exact .broken (earlier.trans kept) unfinished
  | empty failed =>
    have status := congrArg TerminalSnapshot.status kept.terminal
    have code := congrArg TerminalSnapshot.errorCode kept.terminal
    exact .empty ⟨status.trans failed.failed, code.trans failed.code,
      kept.continuations.trans failed.continuations, kept.finals.trans failed.finals⟩
  | answered answered encoded completed => exact .answered (answers _ answered) encoded completed
  | unencoded answered unencoded => exact .unencoded (answers _ answered) unencoded

/-! ### The end of an answer -/

theorem planGateNudge_kept (env : ChatEnvironment) (handler : ChatHandler) (run : ChatRun) :
    terminalSnapshot (planGateNudge env handler run).2.1 = terminalSnapshot run ∧
      (planGateNudge env handler run).2.1.evaluationContinuations =
        run.evaluationContinuations := by
  unfold planGateNudge
  dsimp only
  split
  · exact ⟨rfl, rfl⟩
  · split
    · exact ⟨rfl, rfl⟩
    · split
      · exact ⟨rfl, rfl⟩
      · split
        · exact ⟨rfl, rfl⟩
        · exact ⟨rfl, rfl⟩

inductive FinalResult (env : ChatEnvironment) (said : String → Prop) (before after : Live)
    (final : Finalized) : Prop where
  | nudged {text : String} (kept : Kept before after) (nudged : final.nudge = some text)
      (quiet : final.raised = false)
  | empty (failed : FailedEmpty before after) (ended : final.nudge = none)
      (quiet : final.raised = false)
  | answered {text : String} (answered : AnsweredWith env said before after text)
      (encoded : env.hashMessage text ≠ none) (ended : final.nudge = none)
      (quiet : final.raised = false)
  | unencoded {text : String} (answered : AnsweredWith env said before after text)
      (unencoded : env.hashMessage text = none) (raised : final.raised = true)

def Live.finalized (live : Live) (final : Finalized) : Live :=
  { live with
    run := final.run
    queue := final.queue
    finals := live.finals ++ final.answered.toList
    unsent := live.queue.head? }

theorem onAssistantFinal_result (live : Live) (handler : ChatHandler)
    {assistantMessage : Option String}
    (isSaid : env.strip (assistantMessage.getD "") ≠ "" → said (env.strip (assistantMessage.getD ""))) :
    FinalResult env said live
      (live.finalized (onAssistantFinal env handler live.run live.queue assistantMessage))
      (onAssistantFinal env handler live.run live.queue assistantMessage) := by
  unfold onAssistantFinal
  cases live.queue with
  | cons steer rest => exact .nudged ⟨rfl, rfl, List.append_nil _⟩ rfl rfl
  | nil =>
    have gate := planGateNudge_kept env handler live.run
    dsimp only
    generalize planGateNudge env handler live.run = gated at gate
    rcases gated with ⟨handler, run, nudge⟩
    rcases gate with ⟨terminal, continuations⟩
    cases nudge with
    | some nudge => exact .nudged ⟨terminal, continuations, List.append_nil _⟩ rfl rfl
    | none =>
      dsimp only at terminal continuations ⊢
      by_cases isEmpty : env.strip (assistantMessage.getD "") = ""
      · rw [if_pos isEmpty]
        exact .empty ⟨rfl, rfl, continuations, List.append_nil _⟩ rfl rfl
      · rw [if_neg isEmpty]
        have errors := congrArg TerminalSnapshot.errorCode terminal
        have texts := congrArg TerminalSnapshot.errorMessage terminal
        unfold terminalSnapshot at errors texts
        dsimp only at errors texts
        cases hashed : env.hashMessage (env.strip (assistantMessage.getD "")) with
        | none =>
          refine .unencoded ⟨isAnswer_strip isEmpty, isSaid isEmpty, ?_, continuations, rfl⟩ hashed rfl
          unfold terminalSnapshot Live.finalized
          rw [errors, texts]
        | some hash =>
          have encoded : env.hashMessage (env.strip (assistantMessage.getD "")) ≠ none := by
            rw [hashed]
            exact Option.some_ne_none hash
          refine .answered ⟨isAnswer_strip isEmpty, isSaid isEmpty, ?_, continuations, rfl⟩ encoded rfl rfl
          unfold terminalSnapshot Live.finalized ChatRun.audited
          rw [errors, texts]

theorem interject_kept (live : Live) (text : String) : Kept live (live.interject text) := by
  unfold Live.interject
  by_cases terminal : live.run.status.isTerminal = true
  · rw [if_pos terminal]
    exact Kept.refl live
  · rw [if_neg terminal]
    exact ⟨rfl, rfl, rfl⟩

theorem arrive_kept (live : Live) (arrival : Arrival) : Kept live (live.arrive arrival) := by
  cases arrival with
  | said text => exact interject_kept live text
  | evicted => exact ⟨rfl, rfl, rfl⟩

theorem hear_kept (arrivals : List Arrival) : ∀ live : Live, Kept live (live.hear arrivals) := by
  induction arrivals with
  | nil =>
    intro live
    exact Kept.refl live
  | cons arrival rest ih =>
    intro live
    exact (arrive_kept live arrival).trans (ih (live.arrive arrival))

theorem closedInternal_kept (live : Live) (base : List Message) :
    Kept live (live.closedInternal base) := ⟨rfl, rfl, rfl⟩

theorem recordCall_kept (live : Live) (streamed : Streamed) :
    Kept live { live with run := recordCall live.run streamed } := by
  unfold recordCall
  cases streamed.failure with
  | none | some failure => exact ⟨rfl, rfl, rfl⟩

inductive RoundResult (env : ChatEnvironment) (said : String → Prop) (before after : Live)
    (turn : Nat) : RoundEnd → Prop where
  | raised (result : SegmentResult env said before after .raised) :
      RoundResult env said before after turn .raised
  | finished {outcome : LoopOutcome} (result : SegmentResult env said before after (.ended outcome)) :
      RoundResult env said before after turn (.finished outcome)
  | continued {next : RunState} (kept : Kept before after)
      (counted : next.turnCount = turn + 1) (within : turn < 8) :
      RoundResult env said before after turn (.continued next)

theorem RoundResult.after_kept {turn : Nat} {ended : RoundEnd} (kept : Kept first second)
    (result : RoundResult env said second third turn ended) :
    RoundResult env said first third turn ended := by
  cases result with
  | raised result => exact .raised (result.after_kept kept)
  | finished result => exact .finished (result.after_kept kept)
  | continued later counted within => exact .continued (kept.trans later) counted within

theorem TurnGoesOn.result {before after : Live} {turn : Nat} {ended : RoundEnd}
    (kept : Kept before after) (goesOn : TurnGoesOn turn ended) :
    RoundResult env said before after turn ended := by
  cases goesOn with
  | broken unfinished => exact .finished (.broken kept unfinished)
  | continued counted within => exact .continued kept counted within

theorem getD_orNone (text : String) : (orNone text).getD "" = text := by
  unfold orNone
  by_cases isEmpty : text = ""
  · rw [if_pos isEmpty, isEmpty]
    rfl
  · rw [if_neg isEmpty]
    rfl

theorem closeRound_result {handler : ChatHandler} {live : Live} {round : Round}
    {drained : List String} (isSaid : ∀ text, round.finalAnswer env = some text → said text) :
    RoundResult env said live (closeRound env handler live state round drained).1 state.turnCount
      (closeRound env handler live state round drained).2.2 := by
  unfold closeRound
  dsimp only
  by_cases isFinal : round.streamed.failure = none ∧ round.streamed.toolCalls.isEmpty = true
  · rw [if_pos isFinal]
    have saysFinal : env.strip ((orNone round.streamed.text).getD "") ≠ "" →
        said (env.strip ((orNone round.streamed.text).getD "")) := by
      rw [getD_orNone]
      intro notEmpty
      apply isSaid
      unfold Round.finalAnswer
      rw [if_pos ⟨isFinal.1, isFinal.2, notEmpty⟩]
    have result := onAssistantFinal_result live handler saysFinal
    unfold Live.finalized at result
    generalize onAssistantFinal env handler live.run live.queue (orNone round.streamed.text) =
      final at result
    cases result with
    | nudged kept nudged quiet =>
      rw [if_neg (by rw [quiet]; exact Bool.false_ne_true)]
      apply TurnGoesOn.result kept
      apply runTurn_goesOn
      intro _noFailure _noTools noNudge
      change final.nudge = none at noNudge
      rw [nudged] at noNudge
      cases noNudge
    | empty failed ended quiet =>
      rw [if_neg (by rw [quiet]; exact Bool.false_ne_true)]
      rcases @runTurn_completes (round.turn drained final.nudge) state isFinal.1 isFinal.2 ended with ⟨outcome, finished, _⟩
      dsimp only
      rw [finished]
      exact .finished (.empty failed)
    | answered answered encoded ended quiet =>
      rw [if_neg (by rw [quiet]; exact Bool.false_ne_true)]
      rcases @runTurn_completes (round.turn drained final.nudge) state isFinal.1 isFinal.2 ended with ⟨outcome, finished, completed⟩
      dsimp only
      rw [finished]
      exact .finished (.answered answered encoded completed)
    | unencoded answered unencoded raised =>
      rw [if_pos raised]
      exact .raised (.unencoded answered unencoded)
  · rw [if_neg isFinal]
    apply TurnGoesOn.result
    · by_cases noFailure : round.streamed.failure = none
      · rw [if_pos noFailure]
        exact ⟨rfl, rfl, rfl⟩
      · rw [if_neg noFailure]
        exact Kept.refl live
    · apply runTurn_goesOn
      intro noFailure noTools
      exact absurd ⟨noFailure, noTools⟩ isFinal

theorem runRound_result {round : Round} (handler : ChatHandler) (live : Live) (state : RunState)
    (isSaid : ∀ text, round.finalAnswer env = some text → said text) :
    RoundResult env said live (runRound env handler live state round).1 state.turnCount
      (runRound env handler live state round).2.2 := by
  unfold runRound
  dsimp only
  have asked : Kept live
      ({ live with
        queue := []
        requests := live.requests ++ [(steer chatHooks (round.turn live.queue none) state).messages]
        unsent := none }.hear
        round.arrivals) := by
    apply Kept.trans ?_ (hear_kept round.arrivals _)
    exact ⟨rfl, rfl, rfl⟩
  by_cases raises : round.raises = true
  · rw [if_pos raises]
    exact .raised (.raised asked)
  · rw [if_neg raises]
    exact RoundResult.after_kept (asked.trans (recordCall_kept _ round.streamed))
      (closeRound_result isSaid)

theorem runRounds_result {rounds : Nat → Round}
    (isSaid : ∀ turn text, (rounds turn).finalAnswer env = some text → said text) (fuel : Nat) :
    ∀ (handler : ChatHandler) (live : Live) (state : RunState), 9 ≤ fuel + state.turnCount →
      state.turnCount ≤ 8 →
      SegmentResult env said live (runRounds env rounds fuel handler live state).1
        (runRounds env rounds fuel handler live state).2 := by
  induction fuel with
  | zero =>
    intro handler live state enough within
    omega
  | succ fuel ih =>
    intro handler live state enough within
    unfold runRounds
    have result := runRound_result handler live state (isSaid state.turnCount)
    generalize runRound env handler live state (rounds state.turnCount) = ended at result
    rcases ended with ⟨after, handler, ended⟩
    cases result with
    | raised result => exact result
    | finished result => exact result
    | continued kept counted within =>
      dsimp only at kept ⊢
      apply SegmentResult.after_kept kept
      apply ih
      · omega
      · omega

theorem runSegment_result {said : String → Prop} {rounds : Nat → Round} (resumes : Bool)
    (live : Live) (messages : List Message)
    (isSaid : ∀ turn text, (rounds turn).finalAnswer env = some text → said text) :
    SegmentResult env said live (runSegment env rounds resumes live messages).1
      (runSegment env rounds resumes live messages).2 := by
  unfold runSegment
  apply runRounds_result isSaid
  · simp
  · simp

end AnnaAgent.Chat
