/-
The answer that stands while the judgment layer works.

Every step keeps a message that begins with the answer that stands: the delivered one,
unless a later answer could not be hashed.
-/

import AnnaAgent.Chat.SegmentOutcome

namespace AnnaAgent.Chat

open Foundation Runtime

/-- What the answer of a run relies on: a line break is white space, and the beginning of
a text that can be encoded can be encoded. -/
structure ChatEnvironment.EncodesTexts (env : ChatEnvironment) : Prop where
  newlineIsSpace : env.isSpace '\n' = true
  unencodedBeginning : ∀ text rest, env.hashMessage text = none →
    env.hashMessage (text ++ rest) = none

/-- A message that is an answer, or starts with it and a blank line. -/
def beginsWith (answer message : String) : Prop :=
  message = answer ∨ ∃ rest, message = answer ++ "\n\n" ++ rest

def ChatEnvironment.isUnencoded (env : ChatEnvironment) (text : String) : Bool :=
  (env.hashMessage text).isNone

/-- The last of the answers that could not be encoded. -/
def lastUnencoded (env : ChatEnvironment) (finals : List String) : Option String :=
  (finals.filter env.isUnencoded).getLast?

/-- The answer of a judge that is an object with a category of a gap and a number that
reaches the threshold. -/
def asksToContinue (env : ChatEnvironment) (raw : Option String) : Prop :=
  ∃ text data category confidence value, raw = some text ∧
    env.loads (stripCodeFence env (env.strip text)) = .value (.obj data) ∧
      Fields.get data "category" = .str category ∧ category ∈ ["false_completion", "partial"] ∧
        Fields.get data "confidence" = .num confidence ∧ env.floatOf confidence = some value ∧
          confidenceActThreshold ≤ max 0 (min 1 value)

structure CompletedWith (env : ChatEnvironment) (live : Live) (answer : String) : Prop where
  ready : live.run.status = .ready
  noErrorCode : live.run.errorCode = none
  noErrorMessage : live.run.errorMessage = none
  message : live.run.assistantMessage = some answer
  isAnswer : env.isAnswer answer
  encoded : env.hashMessage answer ≠ none
  finalsEncoded : ∀ text ∈ live.finals, env.hashMessage text ≠ none

variable {env : ChatEnvironment}

theorem beginsWith_stitched {answer message delta : String} (begins : beginsWith answer message) :
    beginsWith answer (message ++ "\n\n" ++ delta) := by
  rcases begins with same | ⟨rest, parts⟩
  · rw [same]
    exact Or.inr ⟨delta, rfl⟩
  · refine Or.inr ⟨rest ++ "\n\n" ++ delta, ?_⟩
    rw [parts]
    simp only [String.append_assoc]

variable {finals : List String} {text : String}

theorem lastUnencoded_encoded (encoded : env.hashMessage text ≠ none) :
    lastUnencoded env (finals ++ [text]) = lastUnencoded env finals := by
  have isEncoded : env.isUnencoded text = false := by
    unfold ChatEnvironment.isUnencoded
    cases hashed : env.hashMessage text with
    | none => exact absurd hashed encoded
    | some hash => rfl
  unfold lastUnencoded
  rw [List.filter_append, List.filter_cons_of_neg (by simp [isEncoded]), List.filter_nil,
    List.append_nil]

theorem lastUnencoded_unencoded (unencoded : env.hashMessage text = none) :
    lastUnencoded env (finals ++ [text]) = some text := by
  have isUnencoded : env.isUnencoded text = true := by
    unfold ChatEnvironment.isUnencoded
    rw [unencoded]
    rfl
  unfold lastUnencoded
  rw [List.filter_append, List.filter_cons_of_pos isUnencoded, List.filter_nil,
    List.getLast?_append]
  rfl

theorem lastUnencoded_none (encoded : ∀ text ∈ finals, env.hashMessage text ≠ none) :
    lastUnencoded env finals = none := by
  unfold lastUnencoded
  rw [List.getLast?_eq_none_iff, List.filter_eq_nil_iff]
  intro text present isUnencoded
  unfold ChatEnvironment.isUnencoded at isUnencoded
  exact encoded text present (Option.isNone_iff_eq_none.mp isUnencoded)

theorem unencoded_of_last (last : lastUnencoded env finals = some text) :
    text ∈ finals ∧ env.hashMessage text = none := by
  have present := List.mem_of_getLast? last
  rw [List.mem_filter] at present
  exact ⟨present.1, Option.isNone_iff_eq_none.mp present.2⟩

/-- A message that begins with an answer that cannot be encoded begins with the delivered
one only if that answer does. -/
theorem begins_of_unencoded (encodes : env.EncodesTexts) {answer message : String}
    (encoded : env.hashMessage answer ≠ none) (unencoded : env.hashMessage text = none)
    (isAnswer : env.isAnswer text) (begins : beginsWith text message)
    (delivered : beginsWith answer message) : ∃ rest, text = answer ++ "\n\n" ++ rest := by
  have apart : ∀ rest, answer ≠ text ++ rest := by
    intro rest same
    apply encoded
    rw [same]
    exact encodes.unencodedBeginning text rest unencoded
  rcases begins with same | ⟨later, parts⟩
  · rcases delivered with isDelivered | ⟨rest, delivered⟩
    · have none := apart ""
      rw [String.append_empty] at none
      exact absurd (isDelivered.symm.trans same) none
    · exact ⟨rest, same.symm.trans delivered⟩
  · rcases delivered with isDelivered | ⟨rest, delivered⟩
    · rw [isDelivered, String.append_assoc] at parts
      exact absurd parts (apart _)
    · rw [parts] at delivered
      have chars := congrArg String.toList delivered
      simp only [String.toList_append] at chars
      rw [List.append_assoc, List.append_assoc, List.append_eq_append_iff] at chars
      rcases chars with ⟨more, isMore, _⟩ | ⟨more, isMore, restChars⟩
      · exfalso
        apply apart (String.ofList more)
        apply String.toList_injective
        rw [String.toList_append, String.toList_ofList]
        exact isMore
      · cases more with
        | nil =>
          exfalso
          apply apart ""
          apply String.toList_injective
          rw [String.toList_append]
          rw [List.append_nil] at isMore
          exact isMore.symm.trans (List.append_nil _).symm
        | cons first more =>
          cases more with
          | nil =>
            exfalso
            have isBreak : first = '\n' := by
              have heads := congrArg List.head? restChars
              exact (Option.some.inj heads).symm
            have ends := (ends_of_isAnswer isAnswer).2.1 first (by rw [isMore]; simp)
            rw [isBreak, encodes.newlineIsSpace] at ends
            cases ends
          | cons second more =>
            refine ⟨String.ofList more, ?_⟩
            apply String.toList_injective
            have isFirst : first = '\n' := by
              have heads := congrArg List.head? restChars
              exact (Option.some.inj heads).symm
            have isSecond : second = '\n' := by
              have heads := congrArg (fun chars => chars.tail.head?) restChars
              exact (Option.some.inj heads).symm
            simp only [String.toList_append, String.toList_ofList]
            rw [isMore, isFirst, isSecond, List.append_assoc]
            rfl

/-! ### What every step of the judgment layer keeps -/

/-- The final answers of the models in the internal segments. -/
def JudgmentInputs.said (inputs : JudgmentInputs) (env : ChatEnvironment) (text : String) : Prop :=
  ∃ segment turn, ((inputs.segments segment).rounds turn).finalAnswer env = some text

variable {inputs : JudgmentInputs} {first : Live} {answer : String}

/-- A drive in the judgment layer between two steps. -/
structure Standing (env : ChatEnvironment) (inputs : JudgmentInputs) (first : Live)
    (answer : String) (status : ChatRunStatus) (judged : Judged) : Prop where
  status : judged.live.run.status = status
  noErrorCode : judged.live.run.errorCode = none
  noErrorMessage : judged.live.run.errorMessage = none
  message : ∃ message, judged.live.run.assistantMessage = some message ∧ env.isAnswer message ∧
    beginsWith ((lastUnencoded env judged.live.finals).getD answer) message
  answers : ∀ text ∈ judged.live.finals, env.hashMessage text = none →
    env.isAnswer text ∧ inputs.said env text
  counted : judged.live.run.evaluationContinuations =
    first.run.evaluationContinuations + judged.continuedOn.length
  gated : ∀ heard ∈ judged.continuedOn, ∃ raw, heard = some raw ∧ asksToContinue env raw

namespace Standing

variable {status next : ChatRunStatus} {judged later : Judged}

section

variable (standing : Standing env inputs first answer status judged)

include standing

theorem of_eq (isNext : later.live.run.status = next) (sameCode : later.live.run.errorCode = none)
    (sameErrorMessage : later.live.run.errorMessage = none)
    (sameMessage : later.live.run.assistantMessage = judged.live.run.assistantMessage)
    (sameCount : later.live.run.evaluationContinuations = judged.live.run.evaluationContinuations)
    (sameFinals : later.live.finals = judged.live.finals)
    (sameContinued : later.continuedOn = judged.continuedOn) :
    Standing env inputs first answer next later where
  status := isNext
  noErrorCode := sameCode
  noErrorMessage := sameErrorMessage
  message := by rw [sameMessage, sameFinals]; exact standing.message
  answers := by rw [sameFinals]; exact standing.answers
  counted := by rw [sameCount, sameContinued]; exact standing.counted
  gated := by rw [sameContinued]; exact standing.gated

theorem moved (sameLive : later.live = judged.live)
    (sameContinued : later.continuedOn = judged.continuedOn) :
    Standing env inputs first answer status later := by
  apply standing.of_eq
  · rw [sameLive]
    exact standing.status
  · rw [sameLive]
    exact standing.noErrorCode
  · rw [sameLive]
    exact standing.noErrorMessage
  · rw [sameLive]
  · rw [sameLive]
  · rw [sameLive]
  · exact sameContinued

theorem audited (kind : String) (payload : Fields)
    : Standing env inputs first answer status (judged.audited kind payload) :=
  standing.of_eq standing.status standing.noErrorCode standing.noErrorMessage rfl rfl rfl rfl

theorem generating :
    Standing env inputs first answer .generating
      (judged.onRun (fun run => { run with status := .generating })) :=
  standing.of_eq rfl standing.noErrorCode standing.noErrorMessage rfl rfl rfl rfl

theorem finished (either : status = .generating ∨ status = .ready) :
    Standing env inputs first answer .ready (judged.onRun finishEvaluationReady) := by
  have isStatus := standing.status
  rcases either with generating | ready
  · rw [generating] at isStatus
    have finishes : finishEvaluationReady judged.live.run =
        { judged.live.run with
          status := .ready
          errorCode := none
          errorMessage := none } := by
      unfold finishEvaluationReady
      rw [if_pos isStatus]
    apply standing.of_eq
    · exact congrArg ChatRun.status finishes
    · exact congrArg ChatRun.errorCode finishes
    · exact congrArg ChatRun.errorMessage finishes
    · exact (congrArg ChatRun.assistantMessage finishes).trans rfl
    · exact (congrArg ChatRun.evaluationContinuations finishes).trans rfl
    · rfl
    · rfl
  · rw [ready] at isStatus
    have finishes : finishEvaluationReady judged.live.run = judged.live.run := by
      unfold finishEvaluationReady
      rw [if_neg (by rw [isStatus]; simp)]
    apply standing.of_eq
    · exact (congrArg ChatRun.status finishes).trans isStatus
    · exact (congrArg ChatRun.errorCode finishes).trans standing.noErrorCode
    · exact (congrArg ChatRun.errorMessage finishes).trans standing.noErrorMessage
    · exact congrArg ChatRun.assistantMessage finishes
    · exact congrArg ChatRun.evaluationContinuations finishes
    · rfl
    · rfl

variable {after : Live}

theorem kept (kept : Kept judged.live after) :
    Standing env inputs first answer status { judged with live := after } := by
  apply standing.of_eq
  · exact (congrArg TerminalSnapshot.status kept.terminal).trans standing.status
  · exact (congrArg TerminalSnapshot.errorCode kept.terminal).trans standing.noErrorCode
  · exact (congrArg TerminalSnapshot.errorMessage kept.terminal).trans standing.noErrorMessage
  · exact congrArg TerminalSnapshot.assistantMessage kept.terminal
  · exact kept.continuations
  · exact kept.finals
  · rfl

theorem unencoded (answered : AnsweredWith env (inputs.said env) judged.live after text)
    (unencoded : env.hashMessage text = none) :
    Standing env inputs first answer .ready { judged with live := after } where
  status := congrArg TerminalSnapshot.status answered.terminal
  noErrorCode := (congrArg TerminalSnapshot.errorCode answered.terminal).trans standing.noErrorCode
  noErrorMessage :=
    (congrArg TerminalSnapshot.errorMessage answered.terminal).trans standing.noErrorMessage
  message := by
    refine ⟨text, congrArg TerminalSnapshot.assistantMessage answered.terminal, answered.answer, ?_⟩
    rw [answered.finals, lastUnencoded_unencoded unencoded]
    exact Or.inl rfl
  answers := by
    intro other present isUnencoded
    rw [answered.finals, List.mem_append, List.mem_singleton] at present
    rcases present with before | same
    · exact standing.answers other before isUnencoded
    · rw [same]
      exact ⟨answered.answer, answered.said⟩
  counted := answered.continuations.trans standing.counted
  gated := standing.gated

theorem stitched (answered : AnsweredWith env (inputs.said env) judged.live after text)
    (encoded : env.hashMessage text ≠ none) :
    Standing env inputs first answer .ready
      { judged with
        live := { after with run := stitchAnswer env after.run judged.live.run.assistantMessage } }
    := by
  rcases standing.message with ⟨message, isMessage, isAnswer, begins⟩
  have isText := congrArg TerminalSnapshot.assistantMessage answered.terminal
  change after.run.assistantMessage = some text at isText
  have stitchedFields : (stitchAnswer env after.run judged.live.run.assistantMessage).status =
        after.run.status ∧
      (stitchAnswer env after.run judged.live.run.assistantMessage).errorCode =
        after.run.errorCode ∧
      (stitchAnswer env after.run judged.live.run.assistantMessage).errorMessage =
        after.run.errorMessage ∧
      (stitchAnswer env after.run judged.live.run.assistantMessage).evaluationContinuations =
        after.run.evaluationContinuations ∧
      (stitchAnswer env after.run judged.live.run.assistantMessage).assistantMessage =
        if text = message then some message else some (message ++ "\n\n" ++ text) := by
    unfold stitchAnswer
    rw [isMessage, isText]
    dsimp only [Option.getD]
    rw [isAnswer.2, answered.answer.2]
    by_cases same : text = message
    · rw [if_pos (Or.inr (Or.inr same)), if_pos same]
      exact ⟨rfl, rfl, rfl, rfl, isText.trans (congrArg some same)⟩
    · have joined : ¬(message = "" ∨ text = "" ∨ text = message) := by
        rintro (empty | empty | isSame)
        · exact isAnswer.1 empty
        · exact answered.answer.1 empty
        · exact same isSame
      rw [if_neg joined, if_neg same]
      exact ⟨rfl, rfl, rfl, rfl, rfl⟩
  rcases stitchedFields with ⟨sameStatus, sameCode, sameErrorMessage, sameCount, isJoined⟩
  constructor
  · exact sameStatus.trans (congrArg TerminalSnapshot.status answered.terminal)
  · exact sameCode.trans
      ((congrArg TerminalSnapshot.errorCode answered.terminal).trans standing.noErrorCode)
  · exact sameErrorMessage.trans
      ((congrArg TerminalSnapshot.errorMessage answered.terminal).trans standing.noErrorMessage)
  · change ∃ joined, (stitchAnswer env after.run judged.live.run.assistantMessage).assistantMessage
      = some joined ∧ env.isAnswer joined ∧
        beginsWith ((lastUnencoded env after.finals).getD answer) joined
    rw [answered.finals, lastUnencoded_encoded encoded, isJoined]
    by_cases same : text = message
    · rw [if_pos same]
      exact ⟨message, rfl, isAnswer, begins⟩
    · rw [if_neg same]
      exact ⟨_, rfl, isAnswer_stitched isAnswer answered.answer, beginsWith_stitched begins⟩
  · intro other present isUnencoded
    change other ∈ after.finals at present
    rw [answered.finals, List.mem_append, List.mem_singleton] at present
    rcases present with before | isText
    · exact standing.answers other before isUnencoded
    · rw [isText] at isUnencoded
      exact absurd isUnencoded encoded
  · exact (sameCount.trans answered.continuations).trans standing.counted
  · exact standing.gated

theorem restored (failed : FailedEmpty judged.live after) :
    restoreFailedContinuation after.run (terminalSnapshot judged.live.run) =
        ({ after.run with
          status := judged.live.run.status
          errorCode := judged.live.run.errorCode
          errorMessage := judged.live.run.errorMessage
          assistantMessage := judged.live.run.assistantMessage }, true) ∧
      Standing env inputs first answer status
        { judged with
          live := { after with
            run := { after.run with
              status := judged.live.run.status
              errorCode := judged.live.run.errorCode
              errorMessage := judged.live.run.errorMessage
              assistantMessage := judged.live.run.assistantMessage } } } := by
  constructor
  · unfold restoreFailedContinuation
    rw [if_neg]
    · rfl
    · rintro (running | stopped)
      · exact running failed.failed
      · rw [failed.code] at stopped
        simp at stopped
  · apply standing.of_eq
    · exact standing.status
    · exact standing.noErrorCode
    · exact standing.noErrorMessage
    · rfl
    · exact failed.continuations
    · exact failed.finals
    · rfl

end

end Standing

def ChatRunStatus.isLive (status : ChatRunStatus) : Prop := status = .generating ∨ status = .ready

/-- The run after the restore of a failed continuation. -/
def resumedAfter (driven judged : Judged) : Judged :=
  driven.onRun (fun _ =>
    (restoreFailedContinuation driven.live.run (terminalSnapshot judged.live.run)).1)

/-- The completion of a continuation that is joined to the answer. -/
def isClean (driven judged : Judged) (outcome : LoopOutcome) : Prop :=
  (restoreFailedContinuation driven.live.run (terminalSnapshot judged.live.run)).2 = false ∧
    outcome.status = .completed ∧
      (restoreFailedContinuation driven.live.run (terminalSnapshot judged.live.run)).1.status =
        .ready

/-- How a continuation ends. -/
inductive DrivenResult (env : ChatEnvironment) (inputs : JudgmentInputs) (first : Live)
    (answer : String) (judged driven : Judged) : Driven → Prop where
  | raised {status : ChatRunStatus} (isLive : status.isLive)
      (standing : Standing env inputs first answer status driven) :
      DrivenResult env inputs first answer judged driven .raised
  | clean {outcome : LoopOutcome} (clean : isClean driven judged outcome)
      (standing : Standing env inputs first answer .ready
        ((resumedAfter driven judged).onRun
          (fun run => stitchAnswer env run judged.live.run.assistantMessage))) :
      DrivenResult env inputs first answer judged driven (.returned (some outcome))
  | unclean {outcome : Option LoopOutcome} {status : ChatRunStatus}
      (unclean : ∀ value, outcome = some value → ¬isClean driven judged value)
      (isLive : status.isLive)
      (standing : Standing env inputs first answer status (resumedAfter driven judged)) :
      DrivenResult env inputs first answer judged driven (.returned outcome)

theorem restore_live {run : ChatRun} {snapshot : TerminalSnapshot} (isLive : run.status.isLive) :
    restoreFailedContinuation run snapshot = (run, false) := by
  unfold restoreFailedContinuation
  rw [if_pos]
  left
  rcases isLive with generating | ready
  · rw [generating]
    simp
  · rw [ready]
    simp

theorem driveContinuation_result {status : ChatRunStatus} {judged : Judged} (index : Nat)
    (base : List Message) (opening : Message)
    (standing : Standing env inputs first answer status judged) (isLive : status.isLive) :
    DrivenResult env inputs first answer judged
      (driveContinuation env (inputs.segments index) judged base opening).1
      (driveContinuation env (inputs.segments index) judged base opening).2 := by
  unfold driveContinuation
  dsimp only
  cases (inputs.segments index).preparation with
  | unprepared =>
    have notFailed : (judged.live.closedInternal base).run.status.isLive := standing.status ▸ isLive
    have unopened := standing.kept (closedInternal_kept judged.live base)
    have resumed : Standing env inputs first answer status
        (resumedAfter
          { judged with
            live := judged.live.closedInternal base
            segments := judged.segments + 1 } judged) := by
      unfold resumedAfter
      dsimp only
      rw [restore_live notFailed]
      exact unopened.moved rfl rfl
    apply DrivenResult.unclean ?_ isLive resumed
    intro value isValue
    cases isValue
  | raises =>
    have unopened := standing.kept (closedInternal_kept judged.live base)
    exact .raised isLive (unopened.moved rfl rfl)
  | prepared =>
    let counted : Judged := { judged with segments := judged.segments + 1 }
    let started := counted.onRun (fun run => { run with status := .generating })
    have same : Standing env inputs first answer status counted := standing.moved rfl rfl
    have begun : Standing env inputs first answer .generating started := same.generating
    have open_result := runSegment_result true started.live (base ++ [opening])
      (fun turn text isFinal => (⟨index, turn, isFinal⟩ : inputs.said env text))
    dsimp only
    generalize runSegment env (inputs.segments index).rounds true started.live
      (base ++ [opening]) = ended at open_result ⊢
    rcases ended with ⟨opened, ended⟩
    have result := open_result.then_kept (closedInternal_kept opened base)
    dsimp only at result
    generalize isAfter : opened.closedInternal base = after at result
    cases result with
    | raised kept =>
      dsimp only
      rw [isAfter]
      exact .raised (Or.inl rfl) (begun.kept kept)
    | unencoded answered unencoded =>
      dsimp only
      rw [isAfter]
      exact .raised (Or.inr rfl) (begun.unencoded answered unencoded)
    | broken kept unfinished =>
      dsimp only
      rw [isAfter]
      have driven := begun.kept kept
      have resumed : Standing env inputs first answer .generating
          (resumedAfter { started with live := after } judged) := by
        unfold resumedAfter
        rw [restore_live (Or.inl driven.status)]
        exact driven.moved rfl rfl
      apply DrivenResult.unclean ?_ (Or.inl rfl) resumed
      intro value isValue clean
      cases isValue
      exact unfinished clean.2.1
    | empty failed =>
      dsimp only
      rw [isAfter]
      have fromJudged : FailedEmpty judged.live after :=
        ⟨failed.failed, failed.code, failed.continuations, failed.finals⟩
      rcases standing.restored fromJudged with ⟨restores, restored⟩
      have resumed : Standing env inputs first answer status
          (resumedAfter { started with live := after } judged) := by
        unfold resumedAfter
        dsimp only
        rw [restores]
        exact restored.moved rfl rfl
      apply DrivenResult.unclean ?_ isLive resumed
      intro value isValue clean
      have notRestored := clean.1
      dsimp only at notRestored
      rw [restores] at notRestored
      cases notRestored
    | answered answered encoded completed =>
      dsimp only
      rw [isAfter]
      have isReady := congrArg TerminalSnapshot.status answered.terminal
      change after.run.status = .ready at isReady
      apply DrivenResult.clean
      · unfold isClean
        dsimp only
        rw [restore_live (Or.inr isReady)]
        exact ⟨rfl, completed, isReady⟩
      · unfold resumedAfter
        dsimp only
        rw [restore_live (Or.inr isReady)]
        exact (begun.stitched answered encoded).moved rfl rfl

theorem driveContinuation_counts (env : ChatEnvironment) (judged : Judged) (segment : InternalSegment)
    (base : List Message) (opening : Message) :
    (driveContinuation env segment judged base opening).1.judgeCalls = judged.judgeCalls ∧
      (driveContinuation env segment judged base opening).1.segments = judged.segments + 1 ∧
        (driveContinuation env segment judged base opening).1.continuedOn = judged.continuedOn := by
  unfold driveContinuation
  dsimp only
  cases segment.preparation with
  | unprepared | raises => exact ⟨rfl, rfl, rfl⟩
  | prepared =>
    dsimp only
    split
    · exact ⟨rfl, rfl, rfl⟩
    · exact ⟨rfl, rfl, rfl⟩
    · exact ⟨rfl, rfl, rfl⟩

end AnnaAgent.Chat
