/-
The judgment layer and the delivered answer.

Whatever a judge says and an internal segment does, the run ends ready with the answer,
after a bounded number of judge calls and segments.
-/

import AnnaAgent.Chat.StandingAnswer

namespace AnnaAgent.Chat

open Foundation Runtime

variable {env : ChatEnvironment} {inputs : JudgmentInputs} {first : Live} {answer : String}

structure RoundOpen (inputs : JudgmentInputs) (judged : Judged) : Prop where
  judgeCalls : judged.judgeCalls = judged.continuedOn.length
  segments : judged.segments = judged.continuedOn.length
  bounded : judged.continuedOn.length ≤ inputs.maxContinuations

structure RoundsOver (inputs : JudgmentInputs) (judged : Judged) : Prop where
  judgeCalls : judged.judgeCalls ≤ judged.continuedOn.length + 1
  segments : judged.segments = judged.continuedOn.length
  bounded : judged.continuedOn.length ≤ inputs.maxContinuations

variable {judged : Judged} {status : ChatRunStatus}

theorem RoundsOver.moved {later : Judged} (isOver : RoundsOver inputs judged)
    (sameCalls : later.judgeCalls = judged.judgeCalls)
    (sameSegments : later.segments = judged.segments)
    (sameContinued : later.continuedOn = judged.continuedOn) : RoundsOver inputs later where
  judgeCalls := by rw [sameCalls, sameContinued]; exact isOver.judgeCalls
  segments := by rw [sameSegments, sameContinued]; exact isOver.segments
  bounded := by rw [sameContinued]; exact isOver.bounded

theorem RoundsOver.fallOpen (isOver : RoundsOver inputs judged) :
    RoundsOver inputs (fallOpen judged) := isOver.moved rfl rfl rfl

theorem RoundsOver.skipped {reason : String} (isOver : RoundsOver inputs judged) :
    RoundsOver inputs (skipped judged reason) := isOver.moved rfl rfl rfl

theorem RoundOpen.onRun (isOpen : RoundOpen inputs judged) (change : ChatRun → ChatRun) :
    RoundOpen inputs (judged.onRun change) :=
  ⟨isOpen.judgeCalls, isOpen.segments, isOpen.bounded⟩

/-- Where a round with a judge leads. -/
inductive AfterResult (env : ChatEnvironment) (inputs : JudgmentInputs) (first : Live)
    (answer : String) (length : Nat) : AfterRound → Prop where
  | returned {after : Judged} {carry : EvaluationCarry} (standing :
      Standing env inputs first answer .ready after) (isOver : RoundsOver inputs after) :
      AfterResult env inputs first answer length (.returned after carry)
  | again {after : Judged} {carry : EvaluationCarry} (standing :
      Standing env inputs first answer .ready after) (isOpen : RoundOpen inputs after)
      (longer : after.continuedOn.length = length + 1) :
      AfterResult env inputs first answer length (.again after carry)

theorem fallOpen_standing (standing : Standing env inputs first answer status judged)
    (isLive : status.isLive) : Standing env inputs first answer .ready (fallOpen judged) :=
  (standing.finished isLive).audited _ _

theorem skipped_standing {reason : String}
    (standing : Standing env inputs first answer status judged) (isLive : status.isLive) :
    Standing env inputs first answer .ready (skipped judged reason) :=
  (standing.finished isLive).audited _ _

theorem asksToContinue_of_parsed {raw : Option String} {verdict : Verdict}
    (parsed : parseVerdict env raw = .verdict verdict) (notAchieved : verdict.category ≠ "achieved")
    (notUser : verdict.category ≠ "needs_user")
    (reaches : confidenceActThreshold ≤ verdict.confidence) : asksToContinue env raw := by
  rcases parseVerdict_spec env parsed with
    ⟨text, data, confidence, value, isText, loaded, isCategory, known, isConfidence, isValue, clamped⟩
  refine ⟨text, data, verdict.category, confidence, value, isText, loaded, isCategory, ?_,
    isConfidence, isValue, clamped ▸ reaches⟩
  unfold verdictCategories at known
  simp only [List.mem_cons, List.not_mem_nil, or_false] at known ⊢
  rcases known with achieved | completion | isPartial | user
  · exact absurd achieved notAchieved
  · exact Or.inl completion
  · exact Or.inr isPartial
  · exact absurd user notUser

theorem continueRun_result {carry : EvaluationCarry} {verdict : Verdict}
    (standing : Standing env inputs first answer .generating judged)
    (asked : judged.judgeCalls = judged.continuedOn.length + 1)
    (segments : judged.segments = judged.continuedOn.length)
    (within : judged.live.run.evaluationContinuations < inputs.maxContinuations)
    (asks : ∃ raw, (inputs.judgings (judged.judgeCalls - 1)).answer = some raw ∧ asksToContinue env
      raw) :
    AfterResult env inputs first answer judged.continuedOn.length
      (continueRun env inputs judged carry verdict) := by
  have bounded : judged.continuedOn.length + 1 ≤ inputs.maxContinuations := by
    have counted := standing.counted
    omega
  unfold continueRun
  dsimp only
  let noted := appendVerdict env judged verdict judged.live.run.evaluationContinuations
  let counted : Judged :=
    { noted.onRun (fun run =>
        { run with evaluationContinuations := run.evaluationContinuations + 1 }) with
      continuedOn := noted.continuedOn ++ [(inputs.judgings (judged.judgeCalls - 1)).answer] }
  have begun : Standing env inputs first answer .generating counted := by
    constructor
    · exact standing.status
    · exact standing.noErrorCode
    · exact standing.noErrorMessage
    · exact standing.message
    · exact standing.answers
    · change judged.live.run.evaluationContinuations + 1 =
        first.run.evaluationContinuations + (judged.continuedOn ++ [_]).length
      rw [List.length_append, List.length_singleton, standing.counted]
      omega
    · intro heard present
      change heard ∈ judged.continuedOn ++ [_] at present
      rw [List.mem_append, List.mem_singleton] at present
      rcases present with before | isLast
      · exact standing.gated heard before
      · rw [isLast]
        exact asks
  have result := driveContinuation_result counted.segments
    (carry.lastMessages.getD []) (userMessage (evaluatorNudgeText verdict.gaps))
    begun (Or.inl rfl)
  have counts := driveContinuation_counts env counted (inputs.segments counted.segments)
    (carry.lastMessages.getD []) (userMessage (evaluatorNudgeText verdict.gaps))
  generalize driveContinuation env (inputs.segments counted.segments) counted
    (carry.lastMessages.getD []) (userMessage (evaluatorNudgeText verdict.gaps)) = ended
    at result counts ⊢
  rcases ended with ⟨driven, ended⟩
  rcases counts with ⟨sameCalls, oneMore, sameContinued⟩
  dsimp only at sameCalls oneMore sameContinued result
  have longer : driven.continuedOn.length = judged.continuedOn.length + 1 := by
    rw [sameContinued]
    exact List.length_append
  have calls : driven.judgeCalls = driven.continuedOn.length := by
    rw [longer, sameCalls]
    exact asked
  have driven_segments : driven.segments = driven.continuedOn.length := by
    rw [longer, oneMore]
    exact congrArg (· + 1) segments
  have isOver : RoundsOver inputs driven := by
    constructor
    · omega
    · exact driven_segments
    · omega
  cases result with
  | raised isLive drivenStanding =>
    have fallen := fallOpen_standing drivenStanding isLive
    exact AfterResult.returned fallen isOver.fallOpen
  | @clean outcome clean drivenStanding =>
    have isClean : (restoreFailedContinuation driven.live.run
          (terminalSnapshot counted.live.run)).2 = false ∧ outcome.status = .completed ∧
        (restoreFailedContinuation driven.live.run
          (terminalSnapshot counted.live.run)).1.status = .ready := clean
    dsimp only
    rw [if_pos isClean]
    have isOpen : RoundOpen inputs driven := by
      constructor
      · exact calls
      · exact driven_segments
      · omega
    exact AfterResult.again drivenStanding ((isOpen.onRun _).onRun _) longer
  | @unclean outcome status unclean isLive drivenStanding =>
    cases outcome with
    | none =>
      dsimp only
      exact .returned (skipped_standing drivenStanding isLive) (isOver.moved rfl rfl rfl)
    | some value =>
      have notClean : ¬((restoreFailedContinuation driven.live.run
            (terminalSnapshot counted.live.run)).2 = false ∧ value.status = .completed ∧
          (restoreFailedContinuation driven.live.run
            (terminalSnapshot counted.live.run)).1.status = .ready) := unclean value rfl
      dsimp only
      rw [if_neg notClean]
      exact .returned (skipped_standing drivenStanding isLive) (isOver.moved rfl rfl rfl)

theorem judgeRound_result (carry : EvaluationCarry) (trigger : String)
    (standing : Standing env inputs first answer status judged) (isOpen : RoundOpen inputs judged) :
    AfterResult env inputs first answer judged.continuedOn.length
      (judgeRound env inputs judged carry trigger) := by
  unfold judgeRound judgeRun
  dsimp only
  let opened := (judged.onRun (fun run => { run with status := .generating })).audited
    "run.evaluation.started" [("trigger", .str trigger)]
  let asked : Judged :=
    { opened with
      live := opened.live.hear (inputs.judgings opened.judgeCalls).arrivals
      judgeCalls := opened.judgeCalls + 1 }
  have askedStanding : Standing env inputs first answer .generating asked := by
    have heard := (standing.generating.audited "run.evaluation.started"
      [("trigger", .str trigger)]).kept
        (hear_kept (inputs.judgings opened.judgeCalls).arrivals opened.live)
    exact heard.moved rfl rfl
  have calls : asked.judgeCalls = asked.continuedOn.length + 1 := congrArg (· + 1) isOpen.judgeCalls
  have isOver : RoundsOver inputs asked := ⟨Nat.le_of_eq calls, isOpen.segments, isOpen.bounded⟩
  have running : ¬asked.live.run.status ≠ .generating := not_not.mpr askedStanding.status
  have finished := askedStanding.finished (Or.inl rfl)
  cases answered : (inputs.judgings opened.judgeCalls).answer with
  | none =>
    change AfterResult env inputs first answer judged.continuedOn.length
      (if asked.live.run.status ≠ .generating then .returned asked carry
        else .returned (skipped asked "judge_unavailable_or_malformed") carry)
    rw [if_neg running]
    exact .returned (skipped_standing askedStanding (Or.inl rfl)) isOver.skipped
  | some raw =>
    dsimp only
    cases parsed : parseVerdict env raw with
    | raised =>
      exact .returned (fallOpen_standing askedStanding (Or.inl rfl)) isOver.fallOpen
    | refused =>
      change AfterResult env inputs first answer judged.continuedOn.length
        (if asked.live.run.status ≠ .generating then .returned asked carry
          else .returned (skipped asked "judge_unavailable_or_malformed") carry)
      rw [if_neg running]
      exact .returned (skipped_standing askedStanding (Or.inl rfl)) isOver.skipped
    | verdict verdict =>
      dsimp only
      change AfterResult env inputs first answer judged.continuedOn.length
        (if asked.live.run.status ≠ .generating then .returned asked carry else _)
      rw [if_neg running]
      by_cases achieved : verdict.category = "achieved"
      · rw [if_pos achieved]
        exact .returned (finished.audited _ _) (isOver.moved rfl rfl rfl)
      · rw [if_neg achieved]
        by_cases user : verdict.category = "needs_user"
        · rw [if_pos user]
          exact .returned (finished.audited _ _) (isOver.moved rfl rfl rfl)
        · rw [if_neg user]
          by_cases reaches : confidenceActThreshold ≤ verdict.confidence
          · rw [if_pos reaches]
            by_cases within : asked.live.run.evaluationContinuations < inputs.maxContinuations
            · rw [if_pos within]
              refine continueRun_result askedStanding calls isOpen.segments within ⟨raw, ?_, ?_⟩
              · exact answered
              · exact asksToContinue_of_parsed parsed achieved user reaches
            · rw [if_neg within]
              exact .returned (finished.audited _ _) (isOver.moved rfl rfl rfl)
          · rw [if_neg reaches]
            exact .returned (finished.audited _ _) (isOver.moved rfl rfl rfl)

/-! ### All rounds -/

theorem evaluationRounds_result (fuel : Nat) :
    ∀ (isFirst : Bool) (judged : Judged) (carry : EvaluationCarry),
      Standing env inputs first answer .ready judged → RoundOpen inputs judged →
        inputs.maxContinuations < judged.continuedOn.length + fuel →
      ∃ after left, evaluationRounds env inputs fuel isFirst judged carry = (after, some left) ∧
        Standing env inputs first answer .ready after ∧ RoundsOver inputs after := by
  induction fuel with
  | zero =>
    intro isFirst judged carry standing isOpen enough
    have bounded := isOpen.bounded
    omega
  | succ fuel ih =>
    intro isFirst judged carry standing isOpen enough
    unfold evaluationRounds
    cases (if isFirst = true then shouldEvaluate env judged.live.run
      else some "post_continuation") with
    | none =>
      refine ⟨judged, carry, rfl, standing, ?_, isOpen.segments, isOpen.bounded⟩
      rw [isOpen.judgeCalls]
      omega
    | some trigger =>
      dsimp only
      have result := judgeRound_result { carry with roundsStarted := true } trigger standing
        isOpen
      generalize judgeRound env inputs judged { carry with roundsStarted := true } trigger =
        ended at result
      cases result with
      | @returned after left afterStanding isOver =>
        exact ⟨after, left, rfl, afterStanding, isOver⟩
      | @again after left afterStanding stillOpen longer =>
        apply ih false after left afterStanding stillOpen
        omega

structure WithinBounds (inputs : JudgmentInputs) (judged : Judged) : Prop where
  judgeCalls : judged.judgeCalls ≤ inputs.maxContinuations + 1
  segments : judged.segments ≤ inputs.maxContinuations + 1

theorem WithinBounds.onRun (bounds : WithinBounds inputs judged) (change : ChatRun → ChatRun) :
    WithinBounds inputs (judged.onRun change) :=
  ⟨bounds.judgeCalls, bounds.segments⟩

theorem WithinBounds.audited (bounds : WithinBounds inputs judged) (kind : String)
    (payload : Fields) : WithinBounds inputs (judged.audited kind payload) :=
  bounds.onRun _

theorem RoundsOver.withinBounds (isOver : RoundsOver inputs judged) :
    WithinBounds inputs judged where
  judgeCalls := isOver.judgeCalls.trans (Nat.succ_le_succ isOver.bounded)
  segments := isOver.segments.trans_le (Nat.le_succ_of_le isOver.bounded)

theorem deliverPendingInterjections_result {carry : EvaluationCarry}
    (standing : Standing env inputs first answer .ready judged) (isOver : RoundsOver inputs judged) :
    ∃ after, deliverPendingInterjections env inputs judged carry = (after, true) ∧
      Standing env inputs first answer .ready after ∧ WithinBounds inputs after := by
  unfold deliverPendingInterjections
  rw [if_neg (not_not.mpr standing.status)]
  cases queued : judged.live.queue with
  | nil => exact ⟨judged, rfl, standing, isOver.withinBounds⟩
  | cons firstText rest =>
    dsimp only
    let popped : Judged :=
      { judged with
        live := { judged.live with
          queue := rest
          unsent := some firstText } }
    have poppedStanding : Standing env inputs first answer .ready popped :=
      standing.kept ⟨rfl, rfl, rfl⟩
    have result := driveContinuation_result popped.segments
      (carry.lastMessages.getD []) (userMessage firstText) poppedStanding (Or.inr rfl)
    have counts := driveContinuation_counts env popped (inputs.segments popped.segments)
      (carry.lastMessages.getD []) (userMessage firstText)
    generalize driveContinuation env (inputs.segments popped.segments) popped
      (carry.lastMessages.getD []) (userMessage firstText) = ended at result counts ⊢
    rcases ended with ⟨driven, ended⟩
    rcases counts with ⟨sameCalls, oneMore, _⟩
    dsimp only at sameCalls oneMore result
    have bounds : WithinBounds inputs driven := by
      constructor
      · exact sameCalls.trans_le isOver.withinBounds.judgeCalls
      · rw [oneMore]
        exact Nat.succ_le_succ (isOver.segments.trans_le isOver.bounded)
    cases result with
    | raised isLive drivenStanding =>
      exact ⟨_, rfl, fallOpen_standing drivenStanding isLive, (bounds.onRun _).audited _ _⟩
    | @clean outcome clean drivenStanding =>
      have isClean : (restoreFailedContinuation driven.live.run
            (terminalSnapshot popped.live.run)).2 = false ∧ outcome.status = .completed ∧
          (restoreFailedContinuation driven.live.run
            (terminalSnapshot popped.live.run)).1.status = .ready := clean
      dsimp only
      rw [if_pos (decide_eq_true isClean)]
      exact ⟨_, rfl, drivenStanding.finished (Or.inr rfl), ((bounds.onRun _).onRun _).onRun _⟩
    | @unclean outcome status unclean isLive drivenStanding =>
      cases outcome with
      | none =>
        exact ⟨_, rfl, (drivenStanding.audited _ _).finished isLive,
          ((bounds.onRun _).audited _ _).onRun _⟩
      | some value =>
        have notClean : ¬((restoreFailedContinuation driven.live.run
              (terminalSnapshot popped.live.run)).2 = false ∧ value.status = .completed ∧
            (restoreFailedContinuation driven.live.run
              (terminalSnapshot popped.live.run)).1.status = .ready) := unclean value rfl
        dsimp only
        rw [if_neg (by rw [decide_eq_false notClean]; exact Bool.false_ne_true)]
        exact ⟨_, rfl, (drivenStanding.audited _ _).finished isLive,
          ((bounds.onRun _).audited _ _).onRun _⟩

/-- What the judgment layer promises. -/
structure KeepsAnswer (env : ChatEnvironment) (inputs : JudgmentInputs) (live : Live)
    (answer : String) (ended : Judged × Bool) : Prop where
  finished : ended.2 = true
  ready : ended.1.live.run.status = .ready
  noErrorCode : ended.1.live.run.errorCode = none
  noErrorMessage : ended.1.live.run.errorMessage = none
  message : ∃ message, ended.1.live.run.assistantMessage = some message ∧ beginsWith answer message
  judgeCalls : ended.1.judgeCalls ≤ inputs.maxContinuations + 1
  segments : ended.1.segments ≤ inputs.maxContinuations + 1
  counted : ended.1.live.run.evaluationContinuations =
    live.run.evaluationContinuations + ended.1.continuedOn.length
  gated : ∀ heard ∈ ended.1.continuedOn, ∃ raw, heard = some raw ∧ asksToContinue env raw

theorem evaluateAndContinue_result (inputs : JudgmentInputs) {live : Live}
    (messages : Option (List Message)) (completed : CompletedWith env live answer) :
    ∃ after, evaluateAndContinue env inputs live messages = (after, true) ∧
      Standing env inputs live answer .ready after ∧ WithinBounds inputs after := by
  let start : Judged :=
    { live := live
      judgeCalls := 0
      segments := 0
      continuedOn := [] }
  have standing : Standing env inputs live answer .ready start := by
    constructor
    · exact completed.ready
    · exact completed.noErrorCode
    · exact completed.noErrorMessage
    · refine ⟨answer, completed.message, completed.isAnswer, ?_⟩
      change beginsWith ((lastUnencoded env live.finals).getD answer) answer
      rw [lastUnencoded_none completed.finalsEncoded]
      exact Or.inl rfl
    · intro text present unencoded
      exact absurd unencoded (completed.finalsEncoded text present)
    · rfl
    · intro heard present
      exact absurd present List.not_mem_nil
  have isOpen : RoundOpen inputs start := ⟨rfl, rfl, Nat.zero_le _⟩
  unfold evaluateAndContinue
  dsimp only
  by_cases disabled : inputs.enabled = false
  · rw [if_pos disabled]
    exact ⟨start, rfl, standing, Nat.zero_le _, Nat.zero_le _⟩
  · rw [if_neg disabled]
    have enough : inputs.maxContinuations < 0 + (inputs.maxContinuations + 1) := by omega
    rcases evaluationRounds_result (inputs.maxContinuations + 1) true start ⟨messages, false⟩
      standing isOpen enough with ⟨after, left, ended, afterStanding, isOver⟩
    rw [ended]
    dsimp only
    by_cases started : left.roundsStarted = true
    · rw [if_pos started]
      exact deliverPendingInterjections_result afterStanding isOver
    · rw [if_neg started]
      exact ⟨after, rfl, afterStanding, isOver.withinBounds⟩

/-- The answer is kept, unless the last answer of an internal segment that cannot be
encoded takes its place. -/
theorem answer_survives {env : ChatEnvironment} (encodes : env.EncodesTexts)
    (inputs : JudgmentInputs) {live : Live} (messages : Option (List Message)) {answer : String}
    (completed : CompletedWith env live answer) :
    (KeepsAnswer env inputs live answer (evaluateAndContinue env inputs live messages) ↔
        ∀ text, lastUnencoded env
            (evaluateAndContinue env inputs live messages).1.live.finals = some text →
          ∃ rest, text = answer ++ "\n\n" ++ rest) ∧
      ((∀ segment turn text, ((inputs.segments segment).rounds turn).finalAnswer env = some text →
          env.hashMessage text ≠ none) →
        KeepsAnswer env inputs live answer (evaluateAndContinue env inputs live messages)) := by
  rcases evaluateAndContinue_result inputs messages completed with
    ⟨after, ended, standing, bounds⟩
  rw [ended]
  rcases standing.message with ⟨message, isMessage, isAnswer, begins⟩
  have keeps : (∀ text, lastUnencoded env after.live.finals = some text →
      ∃ rest, text = answer ++ "\n\n" ++ rest) → KeepsAnswer env inputs live answer (after, true) := by
    intro allowed
    constructor
    · rfl
    · exact standing.status
    · exact standing.noErrorCode
    · exact standing.noErrorMessage
    · refine ⟨message, isMessage, ?_⟩
      cases last : lastUnencoded env after.live.finals with
      | none =>
        rw [last] at begins
        exact begins
      | some text =>
        rw [last] at begins
        rcases allowed text last with ⟨rest, parts⟩
        rcases begins with same | ⟨later, whole⟩
        · exact Or.inr ⟨rest, same.trans parts⟩
        · refine Or.inr ⟨rest ++ "\n\n" ++ later, ?_⟩
          rw [whole]
          dsimp only [Option.getD]
          rw [parts]
          simp only [String.append_assoc]
    · exact bounds.judgeCalls
    · exact bounds.segments
    · exact standing.counted
    · exact standing.gated
  constructor
  · constructor
    · intro kept text last
      rcases kept.message with ⟨delivered, isDelivered, startsSo⟩
      have same : delivered = message := Option.some.inj (isDelivered.symm.trans isMessage)
      rw [same] at startsSo
      rw [last] at begins
      rcases unencoded_of_last last with ⟨present, unencoded⟩
      exact begins_of_unencoded encodes completed.encoded unencoded
        (standing.answers text present unencoded).1 begins startsSo
    · exact keeps
  · intro encodable
    apply keeps
    intro text last
    rcases unencoded_of_last last with ⟨present, unencoded⟩
    rcases (standing.answers text present unencoded).2 with ⟨segment, turn, isFinal⟩
    exact absurd unencoded (encodable segment turn text isFinal)

/-- A reading of texts in which `\uFFFD` stands for an unpaired surrogate, which is in no
`String`; every JSON text is the verdict `partial`. -/
def partialEnvironment : ChatEnvironment :=
  { number := fun _ => 1
    floatOfText := fun _ => none
    textOf := fun _ => ""
    isSpace := fun c => decide (c = ' ' ∨ c = '\n')
    isAlnum := Char.isAlphanum
    loads := fun _ => .value
      (.obj [("category", .str "partial"), ("confidence", .num (JsonNumber.ofNat 1))])
    splitLines := fun text => [text]
    floatOf := fun _ => some 1
    numberOf := fun _ => JsonNumber.ofNat 1
    hashMessage := fun text => if '\uFFFD' ∈ text.toList then none else some "hash" }

theorem partialEnvironment_encodes : partialEnvironment.EncodesTexts where
  newlineIsSpace := rfl
  unencodedBeginning := by
    intro text rest unencoded
    change (if '\uFFFD' ∈ text.toList then none else some "hash") = none at unencoded
    change (if '\uFFFD' ∈ (text ++ rest).toList then none else some "hash") = none
    by_cases present : '\uFFFD' ∈ text.toList
    · rw [String.toList_append, if_pos (List.mem_append_left _ present)]
    · rw [if_neg present] at unencoded
      cases unencoded

/-- A run that says it is done without a tool. -/
def doneLive : Live :=
  { run :=
      { message := "report"
        templateId := none
        status := .ready
        assistantMessage := some "done"
        associateGoalText := none
        auditEvents := []
        plan := []
        suspendedMessages := none
        evaluationContinuations := 0
        errorCode := none
        errorMessage := none }
    queue := []
    accepted := []
    requests := []
    finals := ["done"]
    unsent := none
    traces := []
    discards := [] }

def oneTextInputs (text : String) : JudgmentInputs :=
  { enabled := true
    maxContinuations := 1
    judgings := fun _ =>
      { arrivals := []
        answer := some (some "partial") }
    segments := fun _ =>
      { preparation := .prepared
        rounds := fun _ =>
          { arrivals := []
            chunks :=
              [ { kind := "text_delta"
                  text := text
                  toolCalls := []
                  errorCode := none
                  message := none } ]
            raises := false
            plan := []
            dispatchTool := fun _ _ => .ok [] } } }

theorem doneLive_completed : CompletedWith partialEnvironment doneLive "done" where
  ready := rfl
  noErrorCode := rfl
  noErrorMessage := rfl
  message := rfl
  isAnswer := ⟨by decide, by decide +kernel⟩
  encoded := by decide +kernel
  finalsEncoded := by decide +kernel

theorem answer_survives_continuation :
    KeepsAnswer partialEnvironment (oneTextInputs "more") doneLive "done"
      (evaluateAndContinue partialEnvironment (oneTextInputs "more") doneLive (some [])) :=
  (answer_survives partialEnvironment_encodes (oneTextInputs "more") (some [])
    doneLive_completed).2 (by
      intro segment turn text isFinal
      have isMore : (((oneTextInputs "more").segments 0).rounds 0).finalAnswer
          partialEnvironment = some "more" := by decide +kernel
      cases isFinal.symm.trans isMore
      decide +kernel)

/-- A continuation whose text has an unpaired surrogate puts it in the place of the answer. -/
theorem answer_replaced_by_delta :
    CompletedWith partialEnvironment doneLive "done" ∧
      ¬KeepsAnswer partialEnvironment (oneTextInputs "rest\uFFFD") doneLive "done"
        (evaluateAndContinue partialEnvironment (oneTextInputs "rest\uFFFD") doneLive (some []))
      := by
  refine ⟨doneLive_completed, ?_⟩
  intro keeps
  rcases keeps.message with ⟨message, isMessage, begins⟩
  have isRest : (evaluateAndContinue partialEnvironment (oneTextInputs "rest\uFFFD") doneLive
      (some [])).1.live.run.assistantMessage = some "rest\uFFFD" := by decide +kernel
  have same : message = "rest\uFFFD" := Option.some.inj (isMessage.symm.trans isRest)
  rw [same] at begins
  rcases begins with isDone | ⟨rest, parts⟩
  · exact absurd isDone (by decide)
  · have heads := congrArg (fun text => text.toList.head?) parts
    rw [String.toList_append, String.toList_append, List.append_assoc] at heads
    exact absurd heads (by simp)

end AnnaAgent.Chat
