/-
The summary layer of the context window (`context_compaction.py`).

Above a threshold the middle of a conversation, between the system messages and
the last six, is replaced by one summary.
-/

import AnnaAgent.Runtime.Messages

namespace AnnaAgent.Runtime

open Foundation

def maxOutputTokensForSummary : Int := 20000

def autocompactBufferTokens : Int := 13000

def maxConsecutiveAutocompactFailures : Nat := 3

def protectedTailMessages : Nat := 6

def perMessageOverheadTokens : Nat := 4

def conversationSummaryOpen : String := "<conversation_summary>"

def conversationSummaryClose : String := "</conversation_summary>"

def getEffectiveContextWindowSize (window : Int) : Int :=
  window - maxOutputTokensForSummary

def getAutoCompactThreshold (window : Int) : Int :=
  getEffectiveContextWindowSize window - autocompactBufferTokens

def estimateMessageTokens (message : Message) : Nat :=
  let text := dumpsChars (.obj message)
  let asciiChars := text.countP (fun c => c.toNat < 128)
  asciiChars / 4 + (text.length - asciiChars) + perMessageOverheadTokens

def estimateTokens (messages : List Message) : Nat :=
  (messages.map estimateMessageTokens).sum

structure AutoCompactTrackingState where
  compacted : Bool
  turnCounter : Int
  turnId : String
  consecutiveFailures : Option Nat

structure AutoCompactInfo where
  beforeTokens : Nat
  afterTokens : Nat

def AutoCompactTrackingState.failures (state : AutoCompactTrackingState) : Nat :=
  state.consecutiveFailures.getD 0

/-- `str(value)` and `text.strip()`. -/
structure CompactionHost where
  str : Json → String
  strip : String → String

/-- A call of the summarizer returns a text or nothing, or it raises. -/
abbrev Summarizer := String → Except Unit (Option String)

def formatted (host : CompactionHost) : Json → String
  | .str text => text
  | value => host.str value

/-- The name of a call, or nothing where the code raises. -/
def callName (host : CompactionHost) (call : Json) : Option String :=
  match call.get? "function" with
  | none => some "?"
  | some function =>
    if isTrue function = false then some "?"
    else if function.isRecord = false then none
    else match function.get? "name" with
      | none => some "?"
      | some name => some (if isTrue name then formatted host name else "?")

/-- One message of the segment, or nothing where the code raises. -/
def renderMessage (host : CompactionHost) (message : Message) : Option String :=
  let role := message.get "role"
  let roleText := if isTrue role then formatted host role else ""
  match message.get "content", message.get "tool_calls" with
  | .null, .arr (call :: calls) =>
    (((call :: calls).filter Json.isRecord).mapM (callName host)).map (fun names =>
      roleText ++ ": [调用工具：" ++ ", ".intercalate names ++ "]")
  | .null, _ => some (roleText ++ ": ")
  | content, _ => some (roleText ++ ": " ++ formatted host content)

def renderSegment (host : CompactionHost) (messages : List Message) : Option String :=
  (messages.mapM (renderMessage host)).map ("\n".intercalate)

def splitHeadMiddleTail (messages : List Message) :
    List Message × List Message × List Message :=
  let headEnd := (messages.takeWhile (fun message => message.hasRole "system")).length
  let tailStart := max headEnd (messages.length - protectedTailMessages)
  (messages.take headEnd, (messages.take tailStart).drop headEnd, messages.drop tailStart)

def summaryMessage (summary : String) : Message :=
  [("role", .str "user"),
    ("content", .str (conversationSummaryOpen ++ "\n" ++ summary ++ "\n" ++
      conversationSummaryClose))]

def buildPostCompactMessages (head : List Message) (summary : String) (tail : List Message) :
    List Message :=
  head ++ summaryMessage summary :: tail

/-- The summary of the middle, unless it raises, fails or is blank. -/
def summaryOf (host : CompactionHost) (summarize : Summarizer) (middle : List Message) :
    Option String :=
  match renderSegment host middle with
  | none => none
  | some text =>
    match summarize text with
    | .ok (some summary) =>
      if summary = "" ∨ host.strip summary = "" then none else some (host.strip summary)
    | _ => none

def autocompactMessages (host : CompactionHost) (messages : List Message) (summarize : Summarizer)
    (state : AutoCompactTrackingState) (window : Int) (thresholdTokens : Option Int) :
    List Message × Option AutoCompactInfo × AutoCompactTrackingState :=
  let beforeTokens := estimateTokens messages
  let threshold := thresholdTokens.getD (getAutoCompactThreshold window)
  if (beforeTokens : Int) < threshold then (messages, none, state)
  else if state.failures ≥ maxConsecutiveAutocompactFailures then (messages, none, state)
  else
    let (head, middle, tail) := splitHeadMiddleTail messages
    if middle = [] then (messages, none, state)
    else match summaryOf host summarize middle with
      | none => (messages, none, { state with consecutiveFailures := some (state.failures + 1) })
      | some summary =>
        let rebuilt := buildPostCompactMessages head summary tail
        (rebuilt, some { beforeTokens, afterTokens := estimateTokens rebuilt },
          { compacted := true, turnCounter := 0, turnId := "", consecutiveFailures := some 0 })

end AnnaAgent.Runtime
