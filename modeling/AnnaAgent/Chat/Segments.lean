/-
Segments of a chat run (`services/chat/app/capability.py` on the agent loop).

A segment is one run of the loop with the handler of the chat.  What the model, the
tools and the user do in it is given turn by turn; a text that is accepted while the
model streams waits in the queue of the run.
-/

import AnnaAgent.Chat.Evaluator

namespace AnnaAgent.Chat

open Foundation Runtime

variable (env : ChatEnvironment)

/-- How many texts the queue of a run holds. -/
@[irreducible] def perRunCap : Nat := 32

/-- What the handler of a segment remembers. -/
structure ChatHandler where
  /-- `resume_messages` is set. -/
  resumes : Bool
  planGateFires : Nat
  planGateExhaustedLogged : Bool

def freshHandler (resumes : Bool) : ChatHandler :=
  { resumes := resumes
    planGateFires := 0
    planGateExhaustedLogged := false }

def planGateNudgeText (pending : List Fields) : String :=
  let titles := (pending.take 3).map (fun item =>
    let title := Fields.get item "title"
    if env.truthy title = true then env.text title else "")
  let listed := "、".intercalate titles
  let counted :=
    if 3 < pending.length then listed ++ "等" ++ toString pending.length ++ "项" else listed
  "计划中还有未完成项：" ++ counted ++ "。请继续完成并用 plan.update 更新状态；" ++
    "若某项实际无法完成，请把它改为说明并更新计划。"

def planGateNudge (handler : ChatHandler) (run : ChatRun) :
    ChatHandler × ChatRun × Option String :=
  let pending := run.plan.filter isOpenItem
  let count : Json := .num (JsonNumber.ofNat pending.length)
  if handler.resumes = true then (handler, run, none)
  else if pending = [] then (handler, run, none)
  else if handler.planGateFires < 2 then
    let fires := handler.planGateFires + 1
    ({ handler with planGateFires := fires },
      run.audited "plan.gate.fired"
        [("pending_count", count), ("fire_index", .num (JsonNumber.ofNat fires))],
      some (planGateNudgeText env pending))
  else if handler.planGateExhaustedLogged = true then (handler, run, none)
  else
    ({ handler with planGateExhaustedLogged := true },
      run.audited "plan.gate.exhausted" [("pending_count", count)], none)

/-- What `on_assistant_final` leaves behind. -/
structure Finalized where
  handler : ChatHandler
  run : ChatRun
  queue : List String
  nudge : Option String
  /-- The message that the run has been answered with. -/
  answered : Option String
  raised : Bool

def onAssistantFinal (handler : ChatHandler) (run : ChatRun) (queue : List String)
    (assistantMessage : Option String) : Finalized :=
  match queue with
  | steer :: rest =>
    { handler := handler
      run := run
      queue := rest
      nudge := some steer
      answered := none
      raised := false }
  | [] =>
    match planGateNudge env handler run with
    | (handler, run, some nudge) =>
      { handler := handler
        run := run
        queue := []
        nudge := some nudge
        answered := none
        raised := false }
    | (handler, run, none) =>
      let message := env.strip (assistantMessage.getD "")
      if message = "" then
        { handler := handler
          run :=
            { run with
              status := .failed
              errorCode := some "chat_response_empty"
              errorMessage := some "model response must include assistant content"
              }.audited "chat.run.failed" [("error_code", .str "chat_response_empty")]
          queue := []
          nudge := none
          answered := none
          raised := false }
      else
        let answered : ChatRun :=
          { run with
            assistantMessage := some message
            associateGoalText :=
              if run.templateId = some "associate_goal" then some message else none
            status := .ready }
        match env.hashMessage message with
        | none =>
          { handler := handler
            run := answered
            queue := []
            nudge := none
            answered := some message
            raised := true }
        | some hash =>
          { handler := handler
            run := answered.audited "chat.response.generated" [("response_hash", .str hash)]
            queue := []
            nudge := none
            answered := some message
            raised := false }

/-- What a segment has shown to the model beyond the conversation that it continues, and
the snapshot that it has left. -/
structure SegmentTrace where
  base : List Message
  requests : List (List Message)
  snapshot : Option (List Message)

/-- Why an accepted text is given up. -/
inductive Discard where
  /-- More texts wait than the queue of a run holds. -/
  | overflow
  /-- More runs have a queue than the process keeps. -/
  | evicted
  /-- The text was taken for a request that was not made. -/
  | unsent
  /-- The text waits when the run is over. -/
  | cleared
  deriving DecidableEq

/-- What comes from outside while a run is driven: a text of the user, or so many texts
for other runs that its queue is given up. -/
inductive Arrival where
  | said (text : String)
  | evicted

/-- The run that is driven and its queue, with what has happened so far: the texts that
were accepted, the requests of the segment, the messages the run was answered with, the
text that was taken for the next request, the segments before, and the texts given up. -/
structure Live where
  run : ChatRun
  queue : List String
  accepted : List String
  requests : List (List Message)
  finals : List String
  unsent : Option String
  traces : List SegmentTrace
  discards : List Discard

namespace Live

variable (live : Live)

def pushed (queue : List String) (text : String) : List String :=
  (queue ++ [text]).drop ((queue ++ [text]).length - perRunCap)

def interject (text : String) : Live :=
  if live.run.status.isTerminal = true then live
  else
    { live with
      queue := pushed live.queue text
      accepted := live.accepted ++ [text]
      run := live.run.audited "run.interjected" []
      discards :=
        if live.queue.length < perRunCap then live.discards else live.discards ++ [.overflow] }

def arrive : Arrival → Live
  | .said text => live.interject text
  | .evicted =>
    { live with
      queue := []
      discards := if live.queue = [] then live.discards else live.discards ++ [.evicted] }

def hear (arrivals : List Arrival) : Live := arrivals.foldl arrive live

/-- The end of a segment on a conversation. -/
def closed (base : List Message) (snapshot : Option (List Message)) : Live :=
  { live with
    requests := []
    traces := live.traces ++ [⟨base, live.requests, snapshot⟩] }

/-- The end of an internal segment: what was taken for a request is not kept. -/
def closedInternal (base : List Message) : Live :=
  { live.closed base none with
    unsent := none
    discards := if live.unsent = none then live.discards else live.discards ++ [.unsent] }

end Live

/-- What happens in a turn: the texts that come while the model streams, what the model
answers, and what the tools do to the plan.  An exception of the stream or of a tool
that is no `CapabilityError` ends the segment. -/
structure Round where
  arrivals : List Arrival
  chunks : List ModelChunk
  raises : Bool
  plan : List Fields
  dispatchTool : Nat → ModelToolCall → Except Raised Message

def chatConfig : QueryConfig :=
  { maxTurns := 8
    suspendOnExhaust := true
    carryMessagesOnComplete := true
    carryMessagesOnSuspend := false }

def chatHooks : CapabilityHandler :=
  { initialRequest := ⟨[], []⟩
    humanizesStep := true
    drainsInterjections := true }

/-- The answers of a turn, as the loop reads them. -/
def Round.turn (round : Round) (interjections : List String) (nudge : Option String) : Turn :=
  { interjections := interjections
    intents := fun _ => ""
    chunks := round.chunks
    onAssistantFinal := nudge
    onToolBatch := none
    dispatchTool := round.dispatchTool }

/-- What the model has answered in a turn. -/
def Round.streamed (round : Round) : Streamed := readStream round.chunks "" []

def recordCall (run : ChatRun) (streamed : Streamed) : ChatRun :=
  match streamed.failure with
  | some _ => run.audited "model.call.failed" []
  | none =>
    run.audited "model.call.completed"
      [("requested_tool_names", .arr (streamed.toolCalls.map (fun call => .str call.name)))]

inductive RoundEnd where
  | raised
  | finished (outcome : LoopOutcome)
  | continued (state : RunState)

def RoundEnd.ofTurn : TurnResult → RoundEnd
  | .finished _ outcome => .finished outcome
  | .continued _ state => .continued state

/-- The turn after the model call has been recorded. -/
def closeRound (handler : ChatHandler) (live : Live) (state : RunState) (round : Round)
    (drained : List String) : Live × ChatHandler × RoundEnd :=
  let streamed := round.streamed
  if streamed.failure = none ∧ streamed.toolCalls.isEmpty = true then
    let final := onAssistantFinal env handler live.run live.queue (orNone streamed.text)
    let after :=
      { live with
        run := final.run
        queue := final.queue
        finals := live.finals ++ final.answered.toList
        unsent := live.queue.head? }
    if final.raised = true then (after, final.handler, .raised)
    else
      (after, final.handler,
        .ofTurn (runTurn chatConfig chatHooks (round.turn drained final.nudge) state))
  else
    let after :=
      if streamed.failure = none then { live with run := { live.run with plan := round.plan } }
      else live
    (after, handler, .ofTurn (runTurn chatConfig chatHooks (round.turn drained none) state))

/-- One turn of a segment: the queue is drained into the request, the model streams,
and the turn ends. -/
def runRound (handler : ChatHandler) (live : Live) (state : RunState) (round : Round) :
    Live × ChatHandler × RoundEnd :=
  let steered := steer chatHooks (round.turn live.queue none) state
  let asked :=
    { live with
      queue := []
      requests := live.requests ++ [steered.messages]
      unsent := none }.hear round.arrivals
  if round.raises = true then (asked, handler, .raised)
  else
    closeRound env handler { asked with run := recordCall asked.run round.streamed } steered round
      live.queue

inductive SegmentEnd where
  | raised
  | ended (outcome : LoopOutcome)
  /-- The turns that were looked at are used up. -/
  | running

/-- The loop of a segment.  The rounds are told apart by the number of the turn. -/
def runRounds (rounds : Nat → Round) : Nat → ChatHandler → Live → RunState → Live × SegmentEnd
  | 0, _, live, _ => (live, .running)
  | fuel + 1, handler, live, state =>
    match runRound env handler live state (rounds state.turnCount) with
    | (live, _, .raised) => (live, .raised)
    | (live, _, .finished outcome) => (live, .ended outcome)
    | (live, handler, .continued next) => runRounds rounds fuel handler live next

def runSegment (rounds : Nat → Round) (resumes : Bool) (live : Live) (messages : List Message) :
    Live × SegmentEnd :=
  runRounds env rounds 8 (freshHandler resumes) live
    { messages := messages
      turnCount := 1
      transition := none }

end AnnaAgent.Chat
