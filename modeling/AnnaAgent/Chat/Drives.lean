/-
Drives of a chat run (`services/chat/app/orchestrator.py`, and the task of
`services/api/app/routes/chat.py`).

A drive prepares one segment, runs it and passes a completed run to the judgment layer.
A run that is out of turns is parked, and its next drive starts from the snapshot.
-/

import AnnaAgent.Chat.Judgment

namespace AnnaAgent.Chat

open Foundation Runtime

variable (env : ChatEnvironment)

/-- What happens in a drive: what comes before its segment starts, while the run is parked
or waits for a slot, how its preparation fails the run, its turns, the text of an exception,
and its judgment. -/
structure DriveInputs where
  waiting : List Arrival
  prepareFails : Option (String × String)
  rounds : Nat → Round
  exceptionText : String
  judgment : JudgmentInputs

def chatContinueNudge : String := "继续完成剩余任务；已完成的部分不要重做。"

def orText (text : Option String) (fallback : String) : String :=
  match text with
  | none => fallback
  | some value => if value = "" then fallback else value

/-- `_resolve_outcome`.  A `suspended` outcome raises, and the body of the stream fails the
run with the text of the exception. -/
def resolveOutcome (run : ChatRun) (outcome : LoopOutcome) : ChatRun :=
  match outcome.status with
  | .completed => run
  | .exhaustedSuspended =>
    { run with
      status := .awaitingContinue
      suspendedMessages := outcome.messages }.audited "run.suspended"
        [("reason", .str (orText outcome.message "max_turns")),
          ("turns_used", .num (JsonNumber.ofNat outcome.turns))]
  | .exhausted =>
    run.failRun "tool_loop_exhausted"
      "chat model tool loop exceeded the maximum number of rounds"
  | .suspended =>
    run.failRun "chat_run_failed"
      ("chat outcome mapping does not support 'suspended'" ++
        " — add explicit handling before introducing CapabilitySuspend" ++
        " to a chat handler")
  | .failed =>
    run.failRun (orText outcome.errorCode "model_call_failed") (orText outcome.message "")

namespace Live

def onRun (live : Live) (change : ChatRun → ChatRun) : Live :=
  { live with run := change live.run }

/-- `clear_interjections` of a run that is over, at the end of `_drive`. -/
def settled (live : Live) : Live :=
  if live.run.status.isTerminal = true then
    { live with
      queue := []
      discards := if live.queue = [] then live.discards else live.discards ++ [.cleared] }
  else live

end Live

def afterSegment (inputs : DriveInputs) (base : List Message) (live : Live)
    (outcome : LoopOutcome) : Live :=
  let resolved := resolveOutcome live.run outcome
  if outcome.status = .completed ∧ resolved.status = .ready then
    (evaluateAndContinue env inputs.judgment
      ((live.closed base none).onRun (fun _ => resolved)) outcome.messages).1.live
  else if outcome.status = .exhaustedSuspended then
    { (live.closed base resolved.suspendedMessages).onRun (fun _ => resolved) with unsent := none }
  else (live.closed base none).onRun (fun _ => resolved)

def streamRunBody (inputs : DriveInputs) (resumes : Bool) (live : Live)
    (base opening : List Message) : Live :=
  match inputs.prepareFails with
  | some (errorCode, message) => live.onRun (fun run => run.failRun errorCode message)
  | none =>
    match runSegment env inputs.rounds resumes live (base ++ opening) with
    | (after, .raised) =>
      (after.closed base none).onRun
        (fun run => run.failRun "chat_run_failed" inputs.exceptionText)
    | (after, .ended outcome) => afterSegment env inputs base after outcome
    | (after, .running) => after

/-- `_drive`, from the time its task is created. -/
def driveRun (inputs : DriveInputs) (resumes : Bool) (live : Live)
    (base opening : List Message) : Live :=
  (streamRunBody env inputs resumes (live.hear inputs.waiting) base opening).settled

/-- `continue_run` and the drive that it starts; what comes while the run is parked is
among the inputs of the drive. -/
def resumeRun (live : Live) (inputs : DriveInputs) : Live :=
  if live.run.status = .awaitingContinue then
    driveRun env inputs true (live.onRun (fun run => { run with status := .generating }))
      (live.run.suspendedMessages.getD []) [userMessage chatContinueNudge]
  else live

def createdRun (message : String) (templateId : Option String) : ChatRun :=
  let run : ChatRun :=
    { message := message
      templateId := templateId
      status := .generating
      assistantMessage := none
      associateGoalText := none
      auditEvents := []
      plan := []
      suspendedMessages := none
      evaluationContinuations := 0
      errorCode := none
      errorMessage := none }
  run.audited "chat.run.created" []

/-- A run that was created and has not been driven yet. -/
def submitted (message : String) (templateId : Option String) : Live :=
  { run := createdRun message templateId
    queue := []
    accepted := []
    requests := []
    finals := []
    unsent := none
    traces := []
    discards := [] }

/-- A run with its drives: the one that `submit` starts, on the messages of the first
request, and those of the continuations. -/
def runDrives (message : String) (templateId : Option String) (opening : List Message)
    (first : DriveInputs) (later : List DriveInputs) : Live :=
  later.foldl (resumeRun env) (driveRun env first false (submitted message templateId) [] opening)

end AnnaAgent.Chat
