/-
`projectTrace` (`trace/src/index.ts`).

The events of a run, of its tools and of its child runs are sorted, and one pass over them
opens and closes the spans of a document.  A span is known by its place in the document.
What is left open at an outcome is closed there, and a span is closed once.
-/

import AnnaAgent.Foundation.Sorting
import AnnaAgent.EventStore.InMemory

namespace AnnaAgent.Trace

open Foundation
open EventStore
open InMemoryEventStore (payloadText)

inductive TraceStatus where
  | ok
  | error
  | unset
  deriving DecidableEq

inductive TraceSpanKind where
  | agent
  | turn
  | inference
  | tool
  deriving DecidableEq

abbrev Attributes := OrderedMap String Json

structure TraceSpanEvent where
  name : String
  time : Timestamp
  attributes : Attributes

structure TraceSpan where
  spanId : String
  parentSpanId : Option String
  name : String
  kind : TraceSpanKind
  startTime : Timestamp
  endTime : Option Timestamp
  durationMs : Int
  status : TraceStatus
  attributes : Attributes
  events : List TraceSpanEvent

structure TraceDocument where
  traceId : String
  surface : String
  spans : List TraceSpan

structure ProjectTraceOptions where
  runId : RunId
  surface : String
  scope : ChannelScope
  conversationId : Option String := none

def fromEntries (entries : List (String × Json)) : Attributes :=
  entries.foldl (fun attributes entry => attributes.set entry.1 entry.2) .empty

def isScalar : Json → Bool
  | .str _ | .bool _ | .num _ => true
  | _ => false

def scalarAttributes : Json → Attributes
  | .obj fields => fromEntries (fields.filter (fun field => isScalar field.2))
  | _ => .empty

/-- `isRecord(value) ? value : undefined`. -/
def asRecord (value : Option Json) : Option Json :=
  value.filter Json.isRecord

def numberField (value : Option Json) (key : String) : Option Json :=
  match value.bind (fun record => record.get? key) with
  | some (.num number) => some (.num number)
  | _ => none

def textField (value : Option Json) (key : String) : Option String :=
  match value.bind (fun record => record.get? key) with
  | some (.str text) => some text
  | _ => none

def firstText (keys : List String) : List Event → Option String
  | [] => none
  | event :: rest =>
    match keys.findSome? (fun key => (event.payload.get? key).filter (fun value =>
      match value with
      | .null => false
      | _ => true)) with
    | some (.str text) => if text.isEmpty then firstText keys rest else some text
    | _ => firstText keys rest

def conversationIdFromEvent (events : List Event) (fallback : String) : String :=
  (firstText ["thread_id", "threadId"] events).getD
    ((firstText ["conversation_id", "conversationId"] events).getD fallback)

def eventBelongsToRun (options : ProjectTraceOptions) (event : Event) : Bool :=
  decide (event.scope = options.scope) &&
    (decide (event.streamId = options.runId) ||
      decide (payloadText event "parentRunId" = some options.runId) ||
      (decide (payloadText event "runId" = some options.runId) &&
        (startsWith event.streamId ("tool:" ++ options.runId ++ ":") ||
          startsWith event.streamId "effect:")))

section Sorting

variable (dates : Dates) (localeCompare : String → String → Ordering)

/-- The difference of two times; a difference that is `NaN` decides nothing. -/
def compareTimes (left right : Timestamp) : Ordering :=
  match dates.parse left, dates.parse right with
  | some left, some right => compare left right
  | _, _ => .eq

def eventOrder (left right : Event) : Ordering :=
  (compareTimes dates left.timestamp right.timestamp).then
    ((localeCompare left.streamId right.streamId).then
      ((compare left.seq right.seq).then (localeCompare left.id right.id)))

/-- The index decides last. -/
def sortedEvents (events : List Event) : List Event :=
  sortPlaced (eventOrder dates localeCompare) events

end Sorting

def spanId (index : Nat) : String := "s" ++ toString (index + 1)

def TraceSpan.close (dates : Dates) (timestamp : Timestamp) (status : TraceStatus)
    (span : TraceSpan) : TraceSpan :=
  if span.endTime.isSome then span
  else
    let duration := match dates.parse timestamp, dates.parse span.startTime with
      | some ended, some started => max 0 (ended - started)
      | _, _ => 0
    { span with endTime := some timestamp, durationMs := duration, status }

def TraceSpan.setAttribute (key : String) (value : Json) (span : TraceSpan) : TraceSpan :=
  { span with attributes := span.attributes.set key value }

def TraceSpan.setAll (attributes : List (String × Option Json)) (span : TraceSpan) : TraceSpan :=
  attributes.foldl (fun span entry =>
    match entry.2 with
    | some value => span.setAttribute entry.1 value
    | none => span) span

def TraceSpan.addEvent (event : TraceSpanEvent) (span : TraceSpan) : TraceSpan :=
  { span with events := span.events ++ [event] }

/-- The document so far; the span of the run is its first. -/
structure Projecting where
  spans : List TraceSpan
  currentTurn : Option Nat := none
  currentInference : Option Nat := none
  openTools : OrderedMap String Nat := .empty

namespace Projecting

def isOpen (state : Projecting) (index : Nat) : Bool :=
  match state.spans[index]? with
  | some span => span.endTime.isNone
  | none => false

/-- `current !== undefined && current.end_time === null`. -/
def isOpenAt (state : Projecting) (current : Option Nat) : Bool :=
  current.any state.isOpen

def change (index : Nat) (update : TraceSpan → TraceSpan) (state : Projecting) : Projecting :=
  { state with spans := state.spans.modify index update }

def changeAt (current : Option Nat) (update : TraceSpan → TraceSpan) (state : Projecting) :
    Projecting :=
  match current with
  | some index => state.change index update
  | none => state

def push (parent : Nat) (name : String) (kind : TraceSpanKind) (startTime : Timestamp)
    (attributes : List (String × Json)) (state : Projecting) : Projecting :=
  { state with
    spans := state.spans ++
      [{ spanId := spanId state.spans.length
         parentSpanId := some (spanId parent)
         name
         kind
         startTime
         endTime := none
         durationMs := 0
         status := .unset
         attributes := fromEntries attributes
         events := [] }] }

def turns (state : Projecting) : Nat :=
  state.spans.countP (fun span => decide (span.kind = .turn))

def hasFailed (state : Projecting) (turn : Nat) : Bool :=
  state.spans.any (fun span =>
    decide (span.parentSpanId = some (spanId turn)) && decide (span.status = .error))

variable (dates : Dates) (event : Event) (state : Projecting)

def closeAt (current : Option Nat) (status : TraceStatus) : Projecting :=
  state.changeAt current (TraceSpan.close dates event.timestamp status)

def closeTurn : Projecting :=
  match state.currentTurn with
  | some turn =>
    if state.isOpen turn then
      state.closeAt dates event (some turn) (if state.hasFailed turn then .error else .ok)
    else state
  | none => state

def orphan (index : Nat) : Projecting :=
  if state.isOpen index then
    (state.change index (TraceSpan.setAttribute "anna.orphaned" (.bool true))).closeAt dates event
      (some index) .error
  else state

def appendEvent : Projecting :=
  let target := (payloadText event "toolCallId").bind (fun toolCallId =>
    state.openTools.get? toolCallId)
  let container := target.getD
    (if state.isOpenAt state.currentInference then state.currentInference.getD 0
    else state.currentTurn.getD 0)
  state.change container (TraceSpan.addEvent
    { name := event.type
      time := event.timestamp
      attributes := scalarAttributes event.payload })

/-! ### Tools -/

def toolCallIdOf : String :=
  (payloadText event "toolCallId").getD event.id

def openTool : Projecting :=
  let toolCallId := toolCallIdOf event
  let toolName := (payloadText event "tool").getD "unknown"
  let pushed := state.push (state.currentTurn.getD 0) ("execute_tool " ++ toolName) .tool
    event.timestamp [("gen_ai.operation.name", .str "execute_tool"),
      ("gen_ai.tool.name", .str toolName), ("anna.tool.call_id", .str toolCallId)]
  { pushed with openTools := state.openTools.set toolCallId state.spans.length }

def forgetTool (toolCallId : String) : Projecting :=
  { state with openTools := state.openTools.restrict (fun key => decide (key ≠ toolCallId)) }

def requestTool : Projecting :=
  if state.openTools.has (toolCallIdOf event) then state
  else (state.closeAt dates event state.currentInference .ok).openTool event

def isFailedResult : Bool :=
  decide (payloadText event "outcome" = some "failed") ||
    decide (payloadText event "status" = some "failed") ||
    decide (payloadText event "status" = some "unknown")

def finishTool : Projecting :=
  match state.openTools.get? (toolCallIdOf event) with
  | some tool =>
    (state.closeAt dates event (some tool) (if isFailedResult event then .error else .ok)).forgetTool
      (toolCallIdOf event)
  | none => state.appendEvent event

def dispatchTool : Projecting :=
  if state.openTools.has (toolCallIdOf event) then state else state.openTool event

def resultStatus : Option String :=
  textField (asRecord (event.payload.get? "result")) "status"

def respondTool : Projecting :=
  let found := (payloadText event "toolCallId").bind (fun toolCallId =>
    (state.openTools.get? toolCallId).map (fun tool => (toolCallId, tool)))
  match found with
  | some (toolCallId, tool) =>
    let named := state.change tool
      (TraceSpan.setAll [("anna.tool.status", (resultStatus event).map Json.str)])
    (named.closeAt dates event (some tool)
      (if resultStatus event = some "succeeded" then .ok else .error)).forgetTool toolCallId
  | none => state.appendEvent event

def rootStatus (type : String) : TraceStatus :=
  if type = "run.completed" then .ok
  else if type = "run.awaiting_input" ∨ type = "run.awaiting_approval" then .unset
  else .error

def endRun : Projecting :=
  let orphaned := (state.currentInference.toList ++ state.openTools.values).foldl
    (fun state index => state.orphan dates event index) state
  let closed := (orphaned.closeTurn dates event).closeAt dates event (some 0)
    (rootStatus event.type)
  closed.change 0 (TraceSpan.setAttribute "anna.outcome"
    (.str (String.ofList (event.type.toList.drop "run.".length))))

def openTurn (attributes : List (String × Json)) : Projecting :=
  let model := payloadText event "model"
  let turn := state.spans.length
  let withTurn := state.push 0 ("turn " ++ toString (state.turns + 1)) .turn event.timestamp
    attributes
  let withInference := withTurn.push turn
    (match model with
      | some model => "chat " ++ model
      | none => "chat")
    .inference event.timestamp
    (("gen_ai.operation.name", .str "chat") ::
      (model.map (fun model => ("gen_ai.request.model", Json.str model))).toList)
  let opened : Projecting :=
    { withInference with currentTurn := some turn, currentInference := some (turn + 1) }
  opened.change 0 (TraceSpan.setAttribute "anna.turns" (.num (.ofNat opened.turns)))

/-- `run.model.requested`. -/
def requestModel : Projecting :=
  let orphaned := match state.currentInference with
    | some inference => state.orphan dates event inference
    | none => state
  (orphaned.closeAt dates event orphaned.currentTurn .ok).openTurn event
    ((numberField (some event.payload) "requestIndex").map
      (fun index => ("anna.request.index", index))).toList

def respondModel : Projecting :=
  if state.isOpenAt state.currentInference then
    let message := asRecord (event.payload.get? "message")
    let usage := asRecord (message.bind (fun message => message.get? "usage"))
    (state.changeAt state.currentInference (TraceSpan.setAll
      [("gen_ai.usage.input_tokens", numberField usage "input"),
        ("gen_ai.usage.output_tokens", numberField usage "output"),
        ("gen_ai.response.finish_reasons",
          (textField message "stopReason").map (fun reason => .arr [.str reason]))])).closeAt
      dates event state.currentInference .ok
  else state.appendEvent event

/-- A `run.progress` with the phase `turn_end`. -/
def endTurn : Projecting :=
  let noted := state.appendEvent event
  if noted.isOpenAt noted.currentInference then noted else noted.closeTurn dates event

/-- A `run.progress` with the phase `turn_finished`. -/
def finishTurn : Projecting :=
  let usage := asRecord (event.payload.get? "usage")
  let answered := (state.changeAt state.currentInference (TraceSpan.setAll
      [("gen_ai.usage.input_tokens", numberField usage "input"),
        ("gen_ai.usage.output_tokens", numberField usage "output"),
        ("anna.usage.cost", numberField usage "cost")])).closeAt dates event
    state.currentInference .ok
  { answered.closeAt dates event state.currentTurn .ok with
    currentTurn := none
    currentInference := none }

end Projecting

def isRunTerminal (type : String) : Bool :=
  decide (type ∈ ["run.completed", "run.awaiting_input", "run.awaiting_approval", "run.failed",
    "run.timed_out", "run.cancelled"])

inductive TraceSignal where
  | toolRequested
  | toolFinished
  | runEnded
  | runStarted
  | modelRequested
  | modelResponded
  | toolDispatched
  | toolResponded
  | turnEnded
  | turnFinished
  | responseStarted
  | other
  deriving DecidableEq

def progressSignal (event : Event) : TraceSignal :=
  if payloadText event "phase" = some "turn_end" then .turnEnded
  else if payloadText event "phase" = some "turn_finished" then .turnFinished
  else if payloadText event "phase" = some "model_response_started" then .responseStarted
  else .other

/-- The conditions after those for outcomes. -/
def checkpointSignal (runId : RunId) (event : Event) : TraceSignal :=
  let isRecord := event.payload.isRecord
  let ofRun := decide (event.streamId = runId)
  if event.type = "run.started" ∧ ofRun then .runStarted
  else if event.type = "run.model.requested" ∧ ofRun ∧ isRecord then .modelRequested
  else if event.type = "omp.model.response" ∧ ofRun ∧ isRecord then .modelResponded
  else if event.type = "omp.tool.dispatch" ∧ ofRun ∧ isRecord then .toolDispatched
  else if event.type = "omp.tool.response" ∧ ofRun ∧ isRecord then .toolResponded
  else if event.type = "run.progress" ∧ isRecord then progressSignal event
  else .other

/-- The conditions of the loop, in their order. -/
def signalOf (runId : RunId) (event : Event) : TraceSignal :=
  let isRecord := event.payload.isRecord
  let ofRun := decide (event.streamId = runId)
  if (event.type = "run.tool.started" ∨ event.type = "tool.requested") ∧ isRecord then
    .toolRequested
  else if (event.type = "run.tool.completed" ∨ event.type = "tool.result") ∧ isRecord then
    .toolFinished
  else if isRunTerminal event.type ∧ ofRun then .runEnded
  else if isRunTerminal event.type then .other
  else checkpointSignal runId event

def Projecting.step (dates : Dates) (runId : RunId) (state : Projecting) (event : Event) :
    Projecting :=
  match signalOf runId event with
  | .toolRequested => state.requestTool dates event
  | .toolFinished => state.finishTool dates event
  | .runEnded => state.endRun dates event
  | .runStarted => state
  | .modelRequested => state.requestModel dates event
  | .modelResponded => state.respondModel dates event
  | .toolDispatched => state.dispatchTool event
  | .toolResponded => state.respondTool dates event
  | .turnEnded => state.endTurn dates event
  | .turnFinished => state.finishTurn dates event
  | .responseStarted => state.openTurn event []
  | .other => state.appendEvent event

def rootSpan (options : ProjectTraceOptions) (first : Event) (runEvents : List Event) :
    TraceSpan :=
  { spanId := spanId 0
    parentSpanId := none
    name := "invoke_agent " ++ options.surface
    kind := .agent
    startTime := first.timestamp
    endTime := none
    durationMs := 0
    status := .unset
    attributes := fromEntries
      [("gen_ai.operation.name", .str "invoke_agent"),
        ("gen_ai.agent.name", .str ("anna." ++ options.surface)),
        ("gen_ai.conversation.id", .str (options.conversationId.getD
          (conversationIdFromEvent runEvents options.runId))),
        ("anna.turns", .num (.ofNat 0))]
    events := [] }

def projectSpans (dates : Dates) (options : ProjectTraceOptions) (runEvents : List Event) :
    List TraceSpan :=
  match runEvents with
  | [] => []
  | first :: _ =>
    (runEvents.foldl (Projecting.step dates options.runId)
      { spans := [rootSpan options first runEvents] }).spans

def projectTrace (dates : Dates) (localeCompare : String → String → Ordering)
    (events : List Event) (options : ProjectTraceOptions) : TraceDocument :=
  { traceId := options.runId
    surface := options.surface
    spans := projectSpans dates options
      (sortedEvents dates localeCompare (events.filter (eventBelongsToRun options))) }

end AnnaAgent.Trace
