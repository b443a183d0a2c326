/-
Runs of the chat (`services/chat/app/schemas.py`).

What the code takes from Python, its regular expressions and its JSON reader is an
environment; a text with an unpaired surrogate is one that the environment cannot
hash.
-/

import AnnaAgent.Foundation.PythonValues
import AnnaAgent.Runtime.AgentLoop

namespace AnnaAgent.Chat

open Foundation Runtime

inductive ChatRunStatus where
  | generating
  | ready
  | saved
  | failed
  | interrupted
  | awaitingContinue
  deriving DecidableEq

/-- `_TERMINAL_CHAT_STATUSES`. -/
def ChatRunStatus.isTerminal : ChatRunStatus → Bool
  | .ready | .saved | .failed | .interrupted => true
  | .generating | .awaitingContinue => false

structure AuditEvent where
  kind : String
  payload : Fields

/-- A run, without what only its creation and the views of it read. -/
structure ChatRun where
  message : String
  templateId : Option String
  status : ChatRunStatus
  assistantMessage : Option String
  associateGoalText : Option String
  auditEvents : List AuditEvent
  plan : List Fields
  suspendedMessages : Option (List Message)
  evaluationContinuations : Nat
  errorCode : Option String
  errorMessage : Option String

def ChatRun.audited (run : ChatRun) (kind : String) (payload : Fields) : ChatRun :=
  { run with auditEvents := run.auditEvents ++ [⟨kind, payload⟩] }

def ChatRun.failRun (run : ChatRun) (errorCode message : String) : ChatRun :=
  { run with
    status := .failed
    errorCode := some errorCode
    errorMessage := some message }.audited "chat.run.failed" [("error_code", .str errorCode)]

inductive Loaded where
  | value (value : Json)
  /-- A `ValueError`. -/
  | invalid
  /-- Any other exception. -/
  | raised

structure ChatEnvironment extends PythonReading where
  /-- The white space of `str.strip`. -/
  isSpace : Char → Bool
  /-- `str.isalnum` of a character. -/
  isAlnum : Char → Bool
  loads : String → Loaded
  splitLines : String → List String
  /-- `float` of a number; `none` is an `OverflowError`. -/
  floatOf : JsonNumber → Option ℚ
  numberOf : ℚ → JsonNumber
  /-- `_hash_payload` of the assistant message; `none` is a `UnicodeEncodeError`. -/
  hashMessage : String → Option String

def stripChars (isSpace : Char → Bool) (text : List Char) : List Char :=
  ((text.dropWhile isSpace).reverse.dropWhile isSpace).reverse

def ChatEnvironment.strip (env : ChatEnvironment) (text : String) : String :=
  String.ofList (stripChars env.isSpace text.toList)

/-- A text that is kept as it is and is not empty. -/
def ChatEnvironment.isAnswer (env : ChatEnvironment) (text : String) : Prop :=
  text ≠ "" ∧ env.strip text = text

variable {isSpace : Char → Bool} {text : List Char}

theorem dropWhile_eq_self (first : ∀ c, text.head? = some c → isSpace c = false) :
    text.dropWhile isSpace = text := by
  cases text with
  | nil => rfl
  | cons c rest => rw [List.dropWhile_cons_of_neg (by simp [first c rfl])]

theorem stripChars_eq_self (first : ∀ c, text.head? = some c → isSpace c = false)
    (last : ∀ c, text.getLast? = some c → isSpace c = false) : stripChars isSpace text = text := by
  unfold stripChars
  rw [dropWhile_eq_self first, dropWhile_eq_self, List.reverse_reverse]
  intro c isHead
  rw [List.head?_reverse] at isHead
  exact last c isHead

theorem head?_dropWhile :
    ∀ c, (text.dropWhile isSpace).head? = some c → isSpace c = false := by
  induction text with
  | nil =>
    intro c isHead
    cases isHead
  | cons d rest ih =>
    intro c isHead
    by_cases space : isSpace d = true
    · rw [List.dropWhile_cons_of_pos space] at isHead
      exact ih c isHead
    · rw [List.dropWhile_cons_of_neg space] at isHead
      cases isHead
      exact Bool.not_eq_true _ ▸ space

theorem getLast?_stripChars :
    ∀ c, (stripChars isSpace text).getLast? = some c → isSpace c = false := by
  intro c isLast
  unfold stripChars at isLast
  rw [List.getLast?_reverse] at isLast
  exact head?_dropWhile c isLast

theorem head?_stripChars :
    ∀ c, (stripChars isSpace text).head? = some c → isSpace c = false := by
  intro c isHead
  unfold stripChars at isHead
  have suffix : ((text.dropWhile isSpace).reverse.dropWhile isSpace).reverse <+:
      text.dropWhile isSpace := by
    have dropped := List.dropWhile_suffix (p := isSpace) (l := (text.dropWhile isSpace).reverse)
    rw [← List.reverse_prefix, List.reverse_reverse] at dropped
    exact dropped
  rcases suffix with ⟨rest, parts⟩
  apply @head?_dropWhile isSpace text c
  rw [← parts, List.head?_append, isHead]
  rfl

variable {env : ChatEnvironment}

theorem isAnswer_strip {text : String} (notEmpty : env.strip text ≠ "") :
    env.isAnswer (env.strip text) := by
  refine ⟨notEmpty, ?_⟩
  unfold ChatEnvironment.strip
  rw [String.toList_ofList, stripChars_eq_self head?_stripChars getLast?_stripChars]

theorem ends_of_isAnswer {text : String} (answer : env.isAnswer text) :
    (∀ c, text.toList.head? = some c → env.isSpace c = false) ∧
      (∀ c, text.toList.getLast? = some c → env.isSpace c = false) ∧ text.toList ≠ [] := by
  have same : stripChars env.isSpace text.toList = text.toList := by
    have stripped := congrArg String.toList answer.2
    unfold ChatEnvironment.strip at stripped
    rw [String.toList_ofList] at stripped
    exact stripped
  refine ⟨?_, ?_, ?_⟩
  · intro c isHead
    rw [← same] at isHead
    exact head?_stripChars c isHead
  · intro c isLast
    rw [← same] at isLast
    exact getLast?_stripChars c isLast
  · intro none
    exact answer.1 (String.toList_eq_nil_iff.mp none)

theorem isAnswer_stitched {head delta : String} (first : env.isAnswer head)
    (second : env.isAnswer delta) : env.isAnswer (head ++ "\n\n" ++ delta) := by
  rcases ends_of_isAnswer first with ⟨isFirst, _, notEmpty⟩
  rcases ends_of_isAnswer second with ⟨_, isLast, hasLast⟩
  have chars : (head ++ "\n\n" ++ delta).toList = head.toList ++ ("\n\n".toList ++ delta.toList) := by
    rw [String.toList_append, String.toList_append, List.append_assoc]
  constructor
  · intro none
    rw [none] at chars
    have empty := List.append_eq_nil_iff.mp chars.symm
    exact notEmpty empty.1
  · unfold ChatEnvironment.strip
    rw [stripChars_eq_self, String.ofList_toList]
    · intro c isHead
      rw [chars, List.head?_append_of_ne_nil _ notEmpty] at isHead
      exact isFirst c isHead
    · intro c isEnd
      rw [chars, ← List.append_assoc, List.getLast?_append_of_ne_nil _ hasLast] at isEnd
      exact isLast c isEnd

end AnnaAgent.Chat
