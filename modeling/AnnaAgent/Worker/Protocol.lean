/-
The data of the worker protocol (`omp-loop-kernel/runtime/protocol.ts`).

The messages of a model conversation, the deltas of a model response, and the
envelope that stands for tool arguments that cannot be read.
-/

import AnnaAgent.Foundation.JsonText
import AnnaAgent.Foundation.JsonFields

namespace AnnaAgent.Worker

open Foundation

abbrev JsonObject := List (String × Json)

def toolArgumentErrorKey : String := "_anna_tool_argument_error"

def invalidToolArguments (raw : String) : JsonObject :=
  [(toolArgumentErrorKey, .obj [("code", .str "invalid_tool_arguments"), ("raw", .str raw)])]

def hasInvalidToolArguments (input : Json) : Bool := (input.get? toolArgumentErrorKey).isSome

theorem hasInvalidToolArguments_invalid (raw : String) :
    hasInvalidToolArguments (.obj (invalidToolArguments raw)) = true := by
  simp [hasInvalidToolArguments, invalidToolArguments, Json.get?]

theorem invalidToolArguments_canonical (number : List Char → Option JsonNumber) (raw : String) :
    Json.Canonical number (.obj (invalidToolArguments raw)) := by
  have outer : Json.index? toolArgumentErrorKey = none := by decide
  have code : Json.index? "code" = none := by decide
  have rawKey : Json.index? "raw" = none := by decide
  refine ⟨?_, ⟨?_, trivial, trivial, trivial⟩, trivial⟩
  · simp [Json.ownFields, invalidToolArguments, Json.setField, outer]
  · simp [Json.ownFields, Json.setField, code, rawKey]

inductive Content where
  | text (text : String)
  | toolCall (id name : String) (arguments : JsonObject)
  deriving DecidableEq

structure Usage where
  input : Option JsonNumber
  output : Option JsonNumber
  cacheRead : Option JsonNumber
  cacheWrite : Option JsonNumber
  cost : Option JsonNumber

inductive StopReason where
  | stop
  | length
  | toolUse
  deriving DecidableEq

structure AssistantMessage where
  content : List Content
  stopReason : StopReason
  reasoningContent : Option String
  usage : Option Usage

inductive ModelDelta where
  | reasoning (text : String)
  | text (contentIndex : Nat) (text : String)
  | toolCall (contentIndex : Nat) (id name argumentsDelta : String)
  deriving DecidableEq

end AnnaAgent.Worker
