/-
Messages of a model conversation, in the wire format of the runtime.

A message is a decoded dictionary.  Its text is what `json.dumps` writes with
`ensure_ascii=False`; a number keeps the text it was written with.
-/

import AnnaAgent.Foundation.Json

namespace AnnaAgent.Runtime

open Foundation

/-- Parts with the separators of `json.dumps`. -/
def spaced : List (List Char) → List Char
  | [] => []
  | [part] => part
  | part :: others => part ++ ',' :: ' ' :: spaced others

mutual

def dumpsChars : Json → List Char
  | .null => ['n', 'u', 'l', 'l']
  | .bool true => ['t', 'r', 'u', 'e']
  | .bool false => ['f', 'a', 'l', 's', 'e']
  | .num value => value.text.toList
  | .str value => Json.quote value
  | .arr items => '[' :: (spaced (dumpsItems items) ++ [']'])
  | .obj fields => '\x7b' :: (spaced (dumpsFields fields) ++ ['\x7d'])

def dumpsItems : List Json → List (List Char)
  | [] => []
  | item :: rest => dumpsChars item :: dumpsItems rest

def dumpsFields : List (String × Json) → List (List Char)
  | [] => []
  | field :: rest => dumpsField field :: dumpsFields rest

def dumpsField : String × Json → List Char
  | (key, value) => Json.quote key ++ ':' :: ' ' :: dumpsChars value

end

/-- A number is zero when the digits before its exponent are. -/
def isZero (value : JsonNumber) : Bool :=
  (value.text.toList.takeWhile (fun c => c ≠ 'e' ∧ c ≠ 'E')).all (fun c =>
    c ∉ ['1', '2', '3', '4', '5', '6', '7', '8', '9'])

def isTrue : Json → Bool
  | .null => false
  | .bool value => value
  | .num value => !isZero value
  | .str value => decide (value ≠ "")
  | .arr items => !items.isEmpty
  | .obj fields => !fields.isEmpty

abbrev Message := List (String × Json)

namespace Message

def get (message : Message) (key : String) : Json :=
  (message.lookup key).getD .null

def hasRole (message : Message) (role : String) : Bool :=
  decide (message.get "role" = .str role)

def toolCallIds (message : Message) : List Json :=
  match message.get "tool_calls" with
  | .arr calls => calls.filterMap (fun call => call.get? "id")
  | _ => []

/-- The calls that the messages right after this one may answer. -/
def opens (message : Message) : List Json :=
  if message.hasRole "assistant" then message.toolCallIds else []

end Message

/-- Every tool message stands after the assistant message with its call, with
tool messages only in between; `opened` are the calls of that message. -/
def Answers (opened : List Json) : List Message → Prop
  | [] => True
  | message :: rest =>
    if message.hasRole "tool" then
      (∃ toolCallId ∈ opened, message.lookup "tool_call_id" = some toolCallId) ∧
        Answers opened rest
    else Answers message.opens rest

instance decidableAnswers : (opened : List Json) → (messages : List Message) →
    Decidable (Answers opened messages)
  | _, [] => .isTrue trivial
  | opened, message :: rest =>
    have := decidableAnswers opened rest
    have := decidableAnswers message.opens rest
    inferInstanceAs (Decidable (if message.hasRole "tool" then
      (∃ toolCallId ∈ opened, message.lookup "tool_call_id" = some toolCallId) ∧
        Answers opened rest
    else Answers message.opens rest))

/-- System messages come first, and every tool message follows its call. -/
structure WellFormed (messages : List Message) : Prop where
  systemFirst : ∀ message ∈ messages.dropWhile (fun message => message.hasRole "system"),
    message.hasRole "system" = false
  answers : Answers [] messages

theorem answers_of_head {opened opened' : List Json} {messages : List Message}
    (notTool : ∀ message, messages.head? = some message → message.hasRole "tool" = false) :
    Answers opened messages ↔ Answers opened' messages := by
  cases messages with
  | nil => exact Iff.rfl
  | cons message rest =>
    have isOther := notTool message rfl
    rw [Answers, Answers, isOther, if_neg Bool.false_ne_true, if_neg Bool.false_ne_true]

def openAfter (opened : List Json) : List Message → List Json
  | [] => opened
  | message :: rest =>
    if message.hasRole "tool" then openAfter opened rest else openAfter message.opens rest

theorem answers_append (opened : List Json) (first second : List Message) :
    Answers opened (first ++ second) ↔
      Answers opened first ∧ Answers (openAfter opened first) second := by
  induction first generalizing opened with
  | nil => exact ⟨fun answers => ⟨trivial, answers⟩, And.right⟩
  | cons message rest ih =>
    rw [List.cons_append, Answers, Answers, openAfter]
    by_cases isTool : message.hasRole "tool" = true
    · rw [if_pos isTool, if_pos isTool, if_pos isTool, ih, and_assoc]
    · rw [if_neg isTool, if_neg isTool, if_neg isTool, ih]

end AnnaAgent.Runtime
