/-
The model transport of the host
(`harness-service/src/omp-model-transport.ts`).

The payloads of a provider response are gathered into the blocks of one message,
and every part that is gathered leaves a delta behind.  A streamed response is
any number of payloads, a plain completion is one.

A tool block is shared by the list of blocks and the map of tool blocks.  Here
the text of its arguments stands in the list, and the map holds what does not
change.  The live view of a stream is left out.
-/

import AnnaAgent.Worker.Protocol
import AnnaAgent.Foundation.FailingLoops
import AnnaAgent.Foundation.OrderedMap

namespace AnnaAgent.Worker

open Foundation

inductive Block where
  | text (text : String)
  | toolCall (id name argumentsText : String)
  deriving DecidableEq

/-- What the map of tool blocks knows about a block; the index is its place
among all blocks. -/
structure ToolBlock where
  id : String
  name : String
  index : Nat

structure CompletionAccumulator where
  deltas : List ModelDelta
  blocks : List Block
  /-- By the index that the provider gives to a call. -/
  toolBlocks : OrderedMap JsonNumber ToolBlock
  reasoningContent : String
  reasoningSeen : Bool
  finishReason : Option StopReason
  usage : Option Usage

def createAccumulator : CompletionAccumulator :=
  { deltas := []
    blocks := []
    toolBlocks := OrderedMap.empty
    reasoningContent := ""
    reasoningSeen := false
    finishReason := none
    usage := none }

structure HostModelResponse where
  deltas : List ModelDelta
  message : AssistantMessage

abbrev ProviderToolNameAliases := OrderedMap String String

def fromProviderToolName (name : String) (aliases : ProviderToolNameAliases) : String :=
  (aliases.get? name).getD name

def object : Option Json → Except String JsonObject
  | some (.obj fields) => .ok fields
  | _ => .error "OMP provider response object is invalid"

/-- A field that is neither missing nor null. -/
def present : Option Json → Option Json
  | some .null => none
  | value => value

def optionalObject (value : Option Json) : Except String JsonObject :=
  match present value with
  | none => .ok []
  | some value => object value

def optionalString (value : Option Json) (name : String) : Except String (Option String) :=
  match present value with
  | none => .ok none
  | some (.str text) => .ok (some text)
  | some _ => .error s!"{name} is invalid"

def firstString (record : JsonObject) (fields : List String) : Option String :=
  fields.findSome? (fun field => (record.lookup field).bind Json.str?)

def maxSafeInteger : Nat := 9007199254740991

def isSafeNatural (number : JsonNumber) : Bool :=
  match number.nat? with
  | some value => decide (value ≤ maxSafeInteger)
  | none => false

def tokenCount (value : Option Json) : Except String (Option JsonNumber) :=
  match present value with
  | none => .ok none
  | some (.num number) =>
    if isSafeNatural number then .ok (some number)
    else .error "OMP provider usage is invalid"
  | some _ => .error "OMP provider usage is invalid"

def parseUsage (value : Json) : Except String Usage := do
  let reported ← object value
  let input ← tokenCount (reported.lookup "prompt_tokens")
  let output ← tokenCount (reported.lookup "completion_tokens")
  .ok { input, output, cacheRead := none, cacheWrite := none, cost := none }

def parseFinishReason (value : Json) : Except String StopReason :=
  if value = .str "stop" then .ok .stop
  else if value = .str "length" then .ok .length
  else if value = .str "tool_calls" then .ok .toolUse
  else .error "OMP provider finish reason is invalid"

def Block.extend (text : String) : Block → Block
  | .text previous => .text (previous ++ text)
  | .toolCall id name argumentsText => .toolCall id name (argumentsText ++ text)

namespace CompletionAccumulator

def appendText (accumulator : CompletionAccumulator) (text : String) : CompletionAccumulator :=
  match accumulator.blocks.getLast? with
  | some (.text _) =>
    { accumulator with
      blocks := accumulator.blocks.modify (accumulator.blocks.length - 1) (Block.extend text)
      deltas := accumulator.deltas ++ [.text (accumulator.blocks.length - 1) text] }
  | _ =>
    { accumulator with
      blocks := accumulator.blocks ++ [.text text]
      deltas := accumulator.deltas ++ [.text accumulator.blocks.length text] }

def extendTool (accumulator : CompletionAccumulator) (existing : ToolBlock)
    (argumentsText : String) : CompletionAccumulator :=
  if argumentsText = "" then accumulator
  else
    { accumulator with
      blocks := accumulator.blocks.modify existing.index (Block.extend argumentsText)
      deltas := accumulator.deltas ++
        [.toolCall existing.index existing.id existing.name argumentsText] }

def appendTool (accumulator : CompletionAccumulator) (streamIndex : JsonNumber)
    (id name argumentsText : String) : Except String CompletionAccumulator :=
  match accumulator.toolBlocks.get? streamIndex with
  | some existing =>
    if existing.id ≠ id ∨ existing.name ≠ name then
      .error "OMP provider tool call identity changed"
    else .ok (accumulator.extendTool existing argumentsText)
  | none =>
    .ok { accumulator with
      blocks := accumulator.blocks ++ [.toolCall id name argumentsText]
      toolBlocks := accumulator.toolBlocks.set streamIndex
        { id, name, index := accumulator.blocks.length }
      deltas := accumulator.deltas ++ [.toolCall accumulator.blocks.length id name argumentsText] }

def takeUsage (accumulator : CompletionAccumulator) (value : Option Json) :
    Except String CompletionAccumulator :=
  match present value with
  | none => .ok accumulator
  | some usage => do
      let usage ← parseUsage usage
      .ok { accumulator with usage := some usage }

def takeFinishReason (accumulator : CompletionAccumulator) (value : Option Json) :
    Except String CompletionAccumulator :=
  match present value with
  | none => .ok accumulator
  | some reason => do
      let reason ← parseFinishReason reason
      .ok { accumulator with finishReason := some reason }

/-- The reasoning of a message stands for all that has been gathered. -/
def takeReasoning (accumulator : CompletionAccumulator) (value : Option Json) :
    CompletionAccumulator :=
  match value with
  | some (.str text) => { accumulator with reasoningSeen := true, reasoningContent := text }
  | _ => accumulator

def appendReasoning (accumulator : CompletionAccumulator) (reasoning : Option String) :
    CompletionAccumulator :=
  match reasoning with
  | none => accumulator
  | some text =>
    { accumulator with
      reasoningSeen := true
      reasoningContent := accumulator.reasoningContent ++ text
      deltas := accumulator.deltas ++ (if text = "" then [] else [.reasoning text]) }

def takeText (accumulator : CompletionAccumulator) (value : Option Json) (refusal : String) :
    Except String CompletionAccumulator :=
  match present value with
  | none => .ok accumulator
  | some (.str text) => .ok (if text = "" then accumulator else accumulator.appendText text)
  | some _ => .error refusal

def accumulateMessageCall (aliases : ProviderToolNameAliases)
    (accumulator : CompletionAccumulator) (rawCall : Json) :
    Except String CompletionAccumulator := do
  let call ← object rawCall
  let fn ← object (call.lookup "function")
  match (call.lookup "id").bind Json.str?, (fn.lookup "name").bind Json.str?,
      (fn.lookup "arguments").bind Json.str? with
  | some id, some name, some argumentsText =>
    if call.lookup "type" ≠ some (.str "function") then
      .error "OMP provider tool call is invalid"
    else
      let streamIndex :=
        match call.lookup "index" with
        | some (.num index) => index
        | _ => JsonNumber.ofNat accumulator.toolBlocks.entries.length
      accumulator.appendTool streamIndex id (fromProviderToolName name aliases) argumentsText
  | _, _, _ => .error "OMP provider tool call is invalid"

def accumulateMessage (accumulator : CompletionAccumulator) (message : JsonObject)
    (aliases : ProviderToolNameAliases) : Except String CompletionAccumulator :=
  if message.lookup "role" ≠ some (.str "assistant") then
    .error "OMP provider message role is invalid"
  else do
    let gathered ← (accumulator.takeReasoning (message.lookup "reasoning_content")).takeText
      (message.lookup "content") "OMP provider text is invalid"
    match message.lookup "tool_calls" with
    | none => .ok gathered
    | some (.arr calls) => calls.foldlM (accumulateMessageCall aliases) gathered
    | some _ => .error "OMP provider tool calls are invalid"

def accumulateDeltaCall (aliases : ProviderToolNameAliases)
    (accumulator : CompletionAccumulator) (entry : Json × Nat) :
    Except String CompletionAccumulator := do
  let call ← object entry.1
  let streamIndex :=
    match call.lookup "index" with
    | some (.num index) => if isSafeNatural index then index else JsonNumber.ofNat entry.2
    | _ => JsonNumber.ofNat entry.2
  let fn ← optionalObject (call.lookup "function")
  let id ← optionalString (call.lookup "id") "OMP provider tool call id"
  let name ← optionalString (fn.lookup "name") "OMP provider tool name"
  let argumentsDelta ← optionalString (fn.lookup "arguments") "OMP provider tool arguments"
  match accumulator.toolBlocks.get? streamIndex with
  | none =>
    match id, name with
    | some id, some name =>
      accumulator.appendTool streamIndex id (fromProviderToolName name aliases)
        (argumentsDelta.getD "")
    | _, _ => .error "OMP provider tool call identity is incomplete"
  | some existing =>
    if id.getD existing.id ≠ existing.id then
      .error "OMP provider tool call identity changed"
    else if (name.map (fromProviderToolName · aliases)).getD existing.name ≠ existing.name then
      .error "OMP provider tool name changed"
    else .ok (accumulator.extendTool existing (argumentsDelta.getD ""))

def reasoningFields : List String := ["reasoning_content", "reasoning", "reasoning_text"]

def accumulateDelta (accumulator : CompletionAccumulator) (delta : JsonObject)
    (aliases : ProviderToolNameAliases) : Except String CompletionAccumulator := do
  let gathered ← (accumulator.appendReasoning (firstString delta reasoningFields)).takeText
    (delta.lookup "content") "OMP provider text delta is invalid"
  match delta.lookup "tool_calls" with
  | none => .ok gathered
  | some (.arr calls) => calls.zipIdx.foldlM (accumulateDeltaCall aliases) gathered
  | some _ => .error "OMP provider tool calls are invalid"

/-- A part of a choice that may be missing. -/
def takePart (accumulator : CompletionAccumulator) (part : Option Json)
    (accumulate : CompletionAccumulator → JsonObject → Except String CompletionAccumulator) :
    Except String CompletionAccumulator :=
  match present part with
  | none => .ok accumulator
  | some value => do
      let fields ← object value
      accumulate accumulator fields

def accumulateChoice (accumulator : CompletionAccumulator) (choice : Json)
    (aliases : ProviderToolNameAliases) : Except String CompletionAccumulator := do
  let choice ← object choice
  let counted ← accumulator.takeUsage (choice.lookup "usage")
  let finished ← counted.takeFinishReason (choice.lookup "finish_reason")
  let told ← finished.takePart (choice.lookup "message")
    (fun accumulator message => accumulator.accumulateMessage message aliases)
  told.takePart (choice.lookup "delta")
    (fun accumulator delta => accumulator.accumulateDelta delta aliases)

def accumulatePayload (aliases : ProviderToolNameAliases) (accumulator : CompletionAccumulator)
    (payload : JsonObject) : Except String CompletionAccumulator :=
  if (payload.lookup "error").isSome then .error "OMP provider returned an in-band error"
  else do
    let counted ← accumulator.takeUsage (payload.lookup "usage")
    match payload.lookup "choices" with
    | none => .ok counted
    | some (.arr []) => .ok counted
    | some (.arr [choice]) => counted.accumulateChoice choice aliases
    | some _ => .error "OMP provider choice is invalid"

end CompletionAccumulator

section Response

variable (number : List Char → Option JsonNumber)

/-- Arguments that are no JSON object, or that use the reserved key, are replaced. -/
def readArguments (argumentsText : String) : JsonObject :=
  match Json.parse number argumentsText with
  | some (.obj fields) =>
    if hasInvalidToolArguments (.obj fields) then invalidToolArguments argumentsText else fields
  | _ => invalidToolArguments argumentsText

def Block.content : Block → Content
  | .text written => .text written
  | .toolCall id name argumentsText => .toolCall id name (readArguments number argumentsText)

def ModelDelta.isToolAt (contentIndex : Nat) : ModelDelta → Bool
  | .toolCall index _ _ _ => decide (index = contentIndex)
  | _ => false

/-- What is sent for the delta at a place of the list: the first delta of a call
whose arguments have been replaced carries all of them. -/
def emitDelta (deltas : List ModelDelta) (content : List Content) (entry : ModelDelta × Nat) :
    List ModelDelta :=
  match entry.1 with
  | .toolCall contentIndex id name _ =>
    match content[contentIndex]? with
    | some (.toolCall _ _ arguments) =>
      if hasInvalidToolArguments (.obj arguments) then
        if deltas.findIdx? (ModelDelta.isToolAt contentIndex) ≠ some entry.2 then []
        else [.toolCall contentIndex id name (Json.stringify (.obj arguments))]
      else [entry.1]
    | _ => [entry.1]
  | _ => [entry.1]

def emitDeltas (deltas : List ModelDelta) (content : List Content) : List ModelDelta :=
  deltas.zipIdx.flatMap (emitDelta deltas content)

def finishAccumulator (accumulator : CompletionAccumulator) : Except String HostModelResponse :=
  match accumulator.finishReason with
  | none => .error "OMP provider stop reason is invalid"
  | some stopReason =>
    let content := accumulator.blocks.map (Block.content number)
    if content = [] then .error "OMP provider returned no assistant content"
    else
      .ok
        { deltas := emitDeltas accumulator.deltas content
          message :=
            { content
              stopReason
              reasoningContent :=
                if accumulator.reasoningSeen then some accumulator.reasoningContent else none
              usage := accumulator.usage } }

def parseStreamingResponse (payloads : List JsonObject) (aliases : ProviderToolNameAliases) :
    Except String HostModelResponse := do
  let accumulator ← payloads.foldlM (CompletionAccumulator.accumulatePayload aliases)
    createAccumulator
  finishAccumulator number accumulator

def parseCompletionPayload (payload : JsonObject) (aliases : ProviderToolNameAliases) :
    Except String HostModelResponse := do
  let accumulator ← createAccumulator.accumulatePayload aliases payload
  finishAccumulator number accumulator

end Response

end AnnaAgent.Worker
