/-
The judgment layer of the chat (`services/chat/app/orchestrator.py`).

A finished run is shown to a judge, may be continued by a segment of its own, and in
the end hears what the user has said meanwhile.
-/

import AnnaAgent.Chat.Segments

namespace AnnaAgent.Chat

open Foundation Runtime

variable (env : ChatEnvironment)

/-- What `_prepare_evaluator_resume` comes to. -/
inductive Preparation where
  | prepared
  /-- It returns `None`. -/
  | unprepared
  | raises

structure InternalSegment where
  preparation : Preparation
  rounds : Nat → Round

/-- What happens while a judge is asked: the texts that come, and its answer, where
`none` is an exception of the judge. -/
structure Judging where
  arrivals : List Arrival
  answer : Option (Option String)

/-- What the judgment layer meets: its settings, the judge call after call, and the
segments one after the other. -/
structure JudgmentInputs where
  /-- The evaluation is enabled, and there is a judge. -/
  enabled : Bool
  maxContinuations : Nat
  judgings : Nat → Judging
  segments : Nat → InternalSegment

structure EvaluationCarry where
  lastMessages : Option (List Message)
  roundsStarted : Bool

/-- A drive in the judgment layer, with the calls of the judge and the segments that it
has seen, and the answers that made it continue. -/
structure Judged where
  live : Live
  judgeCalls : Nat
  segments : Nat
  continuedOn : List (Option (Option String))

namespace Judged

variable (judged : Judged)

def onRun (change : ChatRun → ChatRun) : Judged :=
  { judged with live := { judged.live with run := change judged.live.run } }

def audited (kind : String) (payload : Fields) : Judged :=
  judged.onRun (fun run => run.audited kind payload)

end Judged

def finishEvaluationReady (run : ChatRun) : ChatRun :=
  if run.status = .generating then
    { run with
      status := .ready
      errorCode := none
      errorMessage := none }
  else run

structure TerminalSnapshot where
  status : ChatRunStatus
  errorCode : Option String
  errorMessage : Option String
  assistantMessage : Option String

def terminalSnapshot (run : ChatRun) : TerminalSnapshot :=
  { status := run.status
    errorCode := run.errorCode
    errorMessage := run.errorMessage
    assistantMessage := run.assistantMessage }

def restoreFailedContinuation (run : ChatRun) (snapshot : TerminalSnapshot) : ChatRun × Bool :=
  if run.status ≠ .failed ∨ run.errorCode = some "stopped_by_user" then (run, false)
  else
    ({ run with
      status := snapshot.status
      errorCode := snapshot.errorCode
      errorMessage := snapshot.errorMessage
      assistantMessage := snapshot.assistantMessage }, true)

def stitchAnswer (run : ChatRun) (firstAnswer : Option String) : ChatRun :=
  let head := env.strip (firstAnswer.getD "")
  let delta := env.strip (run.assistantMessage.getD "")
  if head = "" ∨ delta = "" ∨ delta = head then run
  else
    let stitched := head ++ "\n\n" ++ delta
    { run with
      assistantMessage := some stitched
      associateGoalText :=
        if run.templateId = some "associate_goal" then some stitched else run.associateGoalText }

def continuationSkipReason (outcome : Option LoopOutcome) : String :=
  match outcome with
  | some value =>
    if value.status = .exhausted ∨ value.status = .exhaustedSuspended then
      "continuation_exhausted"
    else "continuation_incomplete"
  | none => "continuation_incomplete"

/-- How `_drive_continuation` ends. -/
inductive Driven where
  | raised
  | returned (outcome : Option LoopOutcome)
  | running

/-- `_drive_continuation`, on a conversation and the message that opens the segment. -/
def driveContinuation (segment : InternalSegment) (judged : Judged) (base : List Message)
    (opening : Message) : Judged × Driven :=
  let counted := { judged with segments := judged.segments + 1 }
  let unopened := { counted with live := counted.live.closedInternal base }
  match segment.preparation with
  | .unprepared => (unopened, .returned none)
  | .raises => (unopened, .raised)
  | .prepared =>
    let started := counted.onRun (fun run => { run with status := .generating })
    match runSegment env segment.rounds true started.live (base ++ [opening]) with
    | (live, .raised) => ({ started with live := live.closedInternal base }, .raised)
    | (live, .ended outcome) =>
      ({ started with live := live.closedInternal base }, .returned (some outcome))
    | (live, .running) => ({ started with live := live.closedInternal base }, .running)

/-- The end of an evaluation in which something was raised. -/
def fallOpen (judged : Judged) : Judged :=
  (judged.onRun finishEvaluationReady).audited "run.evaluation.skipped"
    [("reason", .str "evaluator_error")]

def skipped (judged : Judged) (reason : String) : Judged :=
  (judged.onRun finishEvaluationReady).audited "run.evaluation.skipped" [("reason", .str reason)]

def appendVerdict (judged : Judged) (verdict : Verdict) (index : Nat) : Judged :=
  judged.audited "run.evaluation.verdict"
    [("category", .str verdict.category), ("confidence", .num (env.numberOf verdict.confidence)),
      ("continuation_index", .num (JsonNumber.ofNat index))]

def appendFlagged (judged : Judged) (verdict : Verdict) : Judged :=
  judged.audited "run.evaluation.flagged" [("gaps", .arr (verdict.gaps.map Json.str))]

def judgeRun (inputs : JudgmentInputs) (judged : Judged) : Judged × Parsed :=
  let judging := inputs.judgings judged.judgeCalls
  ({ judged with
      live := judged.live.hear judging.arrivals
      judgeCalls := judged.judgeCalls + 1 },
    match judging.answer with
    | none => .refused
    | some raw => parseVerdict env raw)

/-- Where an evaluation goes on after a judge has been asked. -/
inductive AfterRound where
  | returned (judged : Judged) (carry : EvaluationCarry)
  | again (judged : Judged) (carry : EvaluationCarry)
  | running (judged : Judged)

def continueRun (inputs : JudgmentInputs) (judged : Judged) (carry : EvaluationCarry)
    (verdict : Verdict) : AfterRound :=
  let answer := (inputs.judgings (judged.judgeCalls - 1)).answer
  let noted := appendVerdict env judged verdict judged.live.run.evaluationContinuations
  let counted :=
    { noted.onRun (fun run =>
        { run with evaluationContinuations := run.evaluationContinuations + 1 }) with
      continuedOn := noted.continuedOn ++ [answer] }
  let snapshot := terminalSnapshot counted.live.run
  match driveContinuation env (inputs.segments counted.segments) counted
      (carry.lastMessages.getD []) (userMessage (evaluatorNudgeText verdict.gaps)) with
  | (driven, .running) => .running driven
  | (driven, .raised) => .returned (fallOpen driven) carry
  | (driven, .returned outcome) =>
    let restored := restoreFailedContinuation driven.live.run snapshot
    let resumed := driven.onRun (fun _ => restored.1)
    match outcome with
    | some value =>
      if restored.2 = false ∧ value.status = .completed ∧ restored.1.status = .ready then
        .again (resumed.onRun (fun run => stitchAnswer env run snapshot.assistantMessage))
          { carry with lastMessages := (value.messages.orElse (fun _ => carry.lastMessages)) }
      else .returned (skipped resumed (continuationSkipReason outcome)) carry
    | none => .returned (skipped resumed (continuationSkipReason outcome)) carry

def judgeRound (inputs : JudgmentInputs) (judged : Judged) (carry : EvaluationCarry)
    (trigger : String) : AfterRound :=
  let opened := (judged.onRun (fun run => { run with status := .generating })).audited
    "run.evaluation.started" [("trigger", .str trigger)]
  match judgeRun env inputs opened with
  | (asked, parsed) =>
    match parsed with
    | .raised => .returned (fallOpen asked) carry
    | .refused =>
      if asked.live.run.status ≠ .generating then .returned asked carry
      else .returned (skipped asked "judge_unavailable_or_malformed") carry
    | .verdict verdict =>
      if asked.live.run.status ≠ .generating then .returned asked carry
      else if verdict.category = "achieved" then
        .returned (appendVerdict env (asked.onRun finishEvaluationReady) verdict
          asked.live.run.evaluationContinuations) carry
      else if verdict.category = "needs_user" then
        .returned (appendFlagged (asked.onRun finishEvaluationReady) verdict) carry
      else if confidenceActThreshold ≤ verdict.confidence then
        if asked.live.run.evaluationContinuations < inputs.maxContinuations then
          continueRun env inputs asked carry verdict
        else .returned (appendFlagged (asked.onRun finishEvaluationReady) verdict) carry
      else
        .returned (appendVerdict env (asked.onRun finishEvaluationReady) verdict
          asked.live.run.evaluationContinuations) carry

/-- `_evaluation_rounds`, with the carry that it leaves; `none` when the rounds that were
looked at are used up. -/
def evaluationRounds (inputs : JudgmentInputs) :
    Nat → Bool → Judged → EvaluationCarry → Judged × Option EvaluationCarry
  | 0, _, judged, _ => (judged, none)
  | fuel + 1, first, judged, carry =>
    match if first = true then shouldEvaluate env judged.live.run else some "post_continuation" with
    | none => (judged, some carry)
    | some trigger =>
      match judgeRound env inputs judged { carry with roundsStarted := true } trigger with
      | .returned judged carry => (judged, some carry)
      | .again judged carry => evaluationRounds inputs fuel false judged carry
      | .running judged => (judged, none)

def deliverPendingInterjections (inputs : JudgmentInputs) (judged : Judged)
    (carry : EvaluationCarry) : Judged × Bool :=
  if judged.live.run.status ≠ .ready then (judged, true)
  else
    match judged.live.queue with
    | [] => (judged, true)
    | firstText :: rest =>
      let popped :=
        { judged with
          live := { judged.live with
            queue := rest
            unsent := some firstText } }
      let snapshot := terminalSnapshot popped.live.run
      match driveContinuation env (inputs.segments popped.segments) popped
          (carry.lastMessages.getD []) (userMessage firstText) with
      | (driven, .running) => (driven, false)
      | (driven, .raised) => (fallOpen driven, true)
      | (driven, .returned outcome) =>
        let restored := restoreFailedContinuation driven.live.run snapshot
        let resumed := driven.onRun (fun _ => restored.1)
        let delivered :=
          match outcome with
          | some value =>
            decide (restored.2 = false ∧ value.status = .completed ∧ restored.1.status = .ready)
          | none => false
        let noted :=
          if delivered = true then
            resumed.onRun (fun run => stitchAnswer env run snapshot.assistantMessage)
          else
            resumed.audited "run.evaluation.skipped"
              [("reason", .str (continuationSkipReason outcome))]
        (noted.onRun finishEvaluationReady, true)

/-- `_evaluate_and_continue`, and whether it has come to its end. -/
def evaluateAndContinue (inputs : JudgmentInputs) (live : Live)
    (completedMessages : Option (List Message)) : Judged × Bool :=
  let start : Judged :=
    { live := live
      judgeCalls := 0
      segments := 0
      continuedOn := [] }
  if inputs.enabled = false then (start, true)
  else
    match evaluationRounds env inputs (inputs.maxContinuations + 1) true start
        ⟨completedMessages, false⟩ with
    | (judged, none) => (judged, false)
    | (judged, some carry) =>
      if carry.roundsStarted = true then deliverPendingInterjections env inputs judged carry
      else (judged, true)

end AnnaAgent.Chat
