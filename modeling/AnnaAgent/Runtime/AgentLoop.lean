/-
The streaming agent loop.

What happens in one turn depends on the answers of the model stream and of the
hooks of the handler in that turn.  The loop is a function of these answers,
one `Turn` after another; a run that is still going when the turns are used up
has no outcome yet.
-/

import AnnaAgent.Runtime.Messages

namespace AnnaAgent.Runtime

open Foundation

structure ModelToolCall where
  id : String
  name : String
  arguments : Json

structure ModelRequest where
  messages : List Message
  tools : List Json

structure ModelChunk where
  kind : String
  text : String
  toolCalls : List ModelToolCall
  errorCode : Option String
  message : Option String

inductive LoopStatus where
  | completed
  | exhausted
  | failed
  | suspended
  | exhaustedSuspended
  deriving DecidableEq

structure LoopOutcome where
  status : LoopStatus
  finalMessage : Option String := none
  turns : Nat := 0
  errorCode : Option String := none
  message : Option String := none
  messages : Option (List Message) := none

/-- What `on_tool_batch` and `dispatch_tool` raise. -/
inductive Raised where
  | capabilitySuspend (reason : String) (detail : Json)
  | capabilityError (errorCode message : String)

structure QueryConfig where
  maxTurns : Int
  suspendOnExhaust : Bool
  carryMessagesOnComplete : Bool
  carryMessagesOnSuspend : Bool

/-- What the loop reads of the handler before the first turn: its initial
request, and which of the optional hooks it defines. -/
structure CapabilityHandler where
  initialRequest : ModelRequest
  humanizesStep : Bool
  drainsInterjections : Bool

/-- The answers in one turn: of `drain_interjections`, of the calls of
`humanize_step` by their position, of the model, of `on_assistant_final`, of
`on_tool_batch` where it is defined, and of the calls of `dispatch_tool` by
their position. -/
structure Turn where
  interjections : List String
  intents : Nat → String
  chunks : List ModelChunk
  onAssistantFinal : Option String
  onToolBatch : Option (Except Raised Unit)
  dispatchTool : Nat → ModelToolCall → Except Raised Message

inductive Transition where
  | guidanceNudge
  | nextTurn

structure RunState where
  messages : List Message
  turnCount : Nat
  transition : Option Transition

inductive LoopEvent where
  | textDelta (text : String)
  | step (phase intent : String) (tool : Option String) (turn : Nat)
  | toolStart (name : String)
  | toolDone (name : String)
  | done (turns : Nat)
  | exhausted (turns : Nat)
  | error (errorCode message : Option String)
  | awaitingInput (reason : String) (detail : Json)
  | awaitingApproval (reason : String) (detail : Json)

def LoopEvent.isTerminal : LoopEvent → Bool
  | .textDelta _ | .step _ _ _ _ | .toolStart _ | .toolDone _ => false
  | _ => true

def orNone (text : String) : Option String :=
  if text = "" then none else some text

def contentOf (text : String) : Json :=
  if text = "" then .null else .str text

def userMessage (text : String) : Message :=
  [("role", .str "user"), ("content", .str text)]

def assistantMessage (text : String) : Message :=
  [("role", .str "assistant"), ("content", contentOf text)]

def toolCallEntry (toolCall : ModelToolCall) : Json :=
  .obj [("id", .str toolCall.id), ("type", .str "function"),
    ("function", .obj [("name", .str toolCall.name),
      ("arguments", .str (String.ofList (dumpsChars toolCall.arguments.sortKeys)))])]

def assistantToolCallMessage (text : String) (toolCalls : List ModelToolCall) : Message :=
  [("role", .str "assistant"), ("content", contentOf text),
    ("tool_calls", .arr (toolCalls.map toolCallEntry))]

structure Streamed where
  text : String
  toolCalls : List ModelToolCall
  events : List LoopEvent
  failure : Option (Option String × Option String)

def readStream : List ModelChunk → String → List ModelToolCall → Streamed
  | [], text, toolCalls => { text, toolCalls, events := [], failure := none }
  | chunk :: rest, text, toolCalls =>
    if chunk.kind = "text_delta" then
      if chunk.text = "" then readStream rest text toolCalls
      else
        let later := readStream rest (text ++ chunk.text) toolCalls
        { later with events := .textDelta chunk.text :: later.events }
    else if chunk.kind = "error" then
      { text, toolCalls, events := [], failure := some (chunk.errorCode, chunk.message) }
    else if chunk.kind = "final" then readStream rest text chunk.toolCalls
    else readStream rest text toolCalls

def Turn.streamed (turn : Turn) : Streamed :=
  readStream turn.chunks "" []

namespace CapabilityHandler

def stepFrames (handler : CapabilityHandler) (phase intent : String) (tool : Option String)
    (turn : Nat) : List LoopEvent :=
  if handler.humanizesStep then [.step phase intent tool turn] else []

/-- What the user said since the last turn. -/
def drained (handler : CapabilityHandler) (turn : Turn) : List String :=
  if handler.drainsInterjections then turn.interjections else []

end CapabilityHandler

/-- How far the dispatches of a batch came. -/
structure Dispatched where
  events : List LoopEvent
  observations : List Message
  raised : Option Raised

def dispatchAll (handler : CapabilityHandler) (turn : Turn) (turnCount : Nat) :
    Nat → List ModelToolCall → Dispatched
  | _, [] => { events := [], observations := [], raised := none }
  | position, toolCall :: rest =>
    let started := handler.stepFrames "tool" (turn.intents (position + 1))
      (some toolCall.name) turnCount ++ [.toolStart toolCall.name]
    match turn.dispatchTool position toolCall with
    | .error raised => { events := started, observations := [], raised := some raised }
    | .ok observation =>
      let later := dispatchAll handler turn turnCount (position + 1) rest
      { events := started ++ .toolDone toolCall.name :: later.events
        observations := observation :: later.observations
        raised := later.raised }

/-- The hook on the whole batch comes before every dispatch. -/
def dispatchBatch (handler : CapabilityHandler) (turn : Turn) (turnCount : Nat)
    (toolCalls : List ModelToolCall) : Dispatched :=
  match turn.onToolBatch with
  | some (.error raised) => { events := [], observations := [], raised := some raised }
  | _ => dispatchAll handler turn turnCount 0 toolCalls

def exhaustedOutcome (config : QueryConfig) (turnCount : Nat)
    (suspendedMessages : List Message) : LoopOutcome :=
  if config.suspendOnExhaust then
    { status := .exhaustedSuspended, turns := turnCount, message := some "max_turns"
      messages := some suspendedMessages }
  else { status := .exhausted, turns := turnCount }

inductive TurnResult where
  | finished (events : List LoopEvent) (outcome : LoopOutcome)
  | continued (events : List LoopEvent) (state : RunState)

namespace TurnResult

def events : TurnResult → List LoopEvent
  | finished events _ => events
  | continued events _ => events

def after (earlier : List LoopEvent) : TurnResult → TurnResult
  | finished events outcome => .finished (earlier ++ events) outcome
  | continued events state => .continued (earlier ++ events) state

end TurnResult

/-- `config.max_turns and next_turn > config.max_turns`. -/
def QueryConfig.isSpent (config : QueryConfig) (nextTurn : Nat) : Bool :=
  decide (config.maxTurns ≠ 0 ∧ config.maxTurns < (nextTurn : Int))

/-- Both ends of a turn that wants another one. -/
def nextTurnOr (config : QueryConfig) (state : RunState) (messages : List Message)
    (transition : Transition) : TurnResult :=
  if config.isSpent (state.turnCount + 1) then
    .finished [.exhausted state.turnCount] (exhaustedOutcome config state.turnCount messages)
  else
    .continued []
      { messages, turnCount := state.turnCount + 1, transition := some transition }

/-- The model has stopped requesting tools. -/
def finalTurn (config : QueryConfig) (handler : CapabilityHandler) (turn : Turn)
    (state : RunState) (text : String) : TurnResult :=
  match turn.onAssistantFinal with
  | none =>
    .finished (handler.stepFrames "deliver" (turn.intents 1) none state.turnCount ++
        [.done state.turnCount])
      { status := .completed
        finalMessage := orNone text
        turns := state.turnCount
        messages := if config.carryMessagesOnComplete then
          some (state.messages ++ [assistantMessage text]) else none }
  | some nudge =>
    nextTurnOr config state (state.messages ++ [assistantMessage text, userMessage nudge])
      .guidanceNudge

def suspendEvent (reason : String) (detail : Json) : LoopEvent :=
  if reason = "awaiting_input" then .awaitingInput reason detail
  else .awaitingApproval reason detail

def toolTurn (config : QueryConfig) (handler : CapabilityHandler) (turn : Turn)
    (state : RunState) (text : String) (toolCalls : List ModelToolCall) : TurnResult :=
  let dispatched := dispatchBatch handler turn state.turnCount toolCalls
  let spliced := state.messages ++
    assistantToolCallMessage text toolCalls :: dispatched.observations
  match dispatched.raised with
  | some (.capabilitySuspend reason detail) =>
    .finished (dispatched.events ++ [suspendEvent reason detail])
      { status := .suspended, turns := state.turnCount, message := some reason
        messages := if config.carryMessagesOnSuspend then some spliced else none }
  | some (.capabilityError errorCode message) =>
    .finished (dispatched.events ++ [.error (some errorCode) (some message)])
      { status := .failed, errorCode := some errorCode, message := some message }
  | none => (nextTurnOr config state spliced .nextTurn).after dispatched.events

/-- The drained interjections enter as user messages of their own. -/
def steer (handler : CapabilityHandler) (turn : Turn) (state : RunState) : RunState :=
  { state with messages := state.messages ++ (handler.drained turn).map userMessage }

def runTurn (config : QueryConfig) (handler : CapabilityHandler) (turn : Turn)
    (state : RunState) : TurnResult :=
  let streamed := turn.streamed
  let events := handler.stepFrames "analyze" (turn.intents 0) none state.turnCount ++
    streamed.events
  match streamed.failure with
  | some (errorCode, message) =>
    .finished (events ++ [.error errorCode message]) { status := .failed, errorCode, message }
  | none =>
    if streamed.toolCalls.isEmpty then
      (finalTurn config handler turn state streamed.text).after events
    else (toolTurn config handler turn state streamed.text streamed.toolCalls).after events

/-- What a run has sent to the model and yielded, and how it ended. -/
structure Report where
  requests : List ModelRequest
  events : List LoopEvent
  outcome : Option LoopOutcome

def loop (config : QueryConfig) (handler : CapabilityHandler) : RunState → List Turn → Report
  | _, [] => { requests := [], events := [], outcome := none }
  | state, turn :: turns =>
    let steered := steer handler turn state
    let request : ModelRequest :=
      { messages := steered.messages, tools := handler.initialRequest.tools }
    match runTurn config handler turn steered with
    | .finished events outcome => { requests := [request], events, outcome := some outcome }
    | .continued events next =>
      let later := loop config handler next turns
      { requests := request :: later.requests
        events := events ++ later.events
        outcome := later.outcome }

def agentLoop (config : QueryConfig) (handler : CapabilityHandler) (turns : List Turn) :
    Report :=
  loop config handler
    { messages := handler.initialRequest.messages, turnCount := 1, transition := none } turns

end AnnaAgent.Runtime
