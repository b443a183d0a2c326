/-
The two forms of a message in the worker (`omp-loop-kernel/runtime/worker.ts`).

The messages of a restored transcript are given to the OMP agent in the form of the
agent, and what the agent holds is told to the host in the neutral form again.  The
usage of a response is converted apart, by a pair of functions that stays open here.
-/

import AnnaAgent.Worker.Protocol

namespace AnnaAgent.Worker

open Foundation

inductive ResultStatus where
  | succeeded
  | failed
  | unknown
  deriving DecidableEq

def ResultStatus.text : ResultStatus → String
  | succeeded => "succeeded"
  | failed => "failed"
  | unknown => "unknown"

inductive Message where
  | user (content : String)
  | assistant (message : AssistantMessage)
  | toolResult (toolCallId toolName content : String) (status : ResultStatus)
      (details : Option Json)

def isIdentifier (text : String) : Bool :=
  decide (text.toList ≠ []) && decide (text.utf8ByteSize ≤ 256)

/-- What `parseMessage` asks of a message beyond its form. -/
def Message.accepted : Message → Bool
  | user _ => true
  | assistant message => message.content.all fun block =>
      match block with
      | .text _ => true
      | .toolCall id name _ => isIdentifier id && isIdentifier name
  | toolResult toolCallId toolName _ _ _ => isIdentifier toolCallId && isIdentifier toolName

def Message.withoutUsage : Message → Message
  | assistant message => assistant { message with usage := none }
  | message => message

inductive OmpPart where
  | text (text : String)
  | image

inductive OmpContent where
  | plain (text : String)
  | parts (parts : List OmpPart)

inductive OmpBlock where
  | text (text : String)
  | thinking (thinking thinkingSignature : String)
  | toolCall (id name : String) (arguments : JsonObject)

inductive OmpStopReason where
  | reported (reason : StopReason)
  | error
  | aborted

structure OmpModel where
  id : String
  provider : String

structure OmpAssistantMessage (OmpUsage : Type) where
  content : List OmpBlock
  api : String
  provider : String
  model : String
  usage : OmpUsage
  stopReason : OmpStopReason
  timestamp : Nat

inductive OmpMessage (OmpUsage : Type) where
  | user (content : OmpContent) (timestamp : Nat)
  | developer (content : OmpContent) (timestamp : Nat)
  | assistant (message : OmpAssistantMessage OmpUsage)
  | toolResult (toolCallId toolName : String) (content : OmpContent)
      (details : Option Json) (isError : Bool) (timestamp : Nat)

def OmpPart.shown : OmpPart → String
  | .text shown => shown
  | .image => ""

def textContent : OmpContent → String
  | .plain text => text
  | .parts parts => "\n".intercalate (parts.map OmpPart.shown)

/-- The reminder that the agent puts before a prompt. -/
def managedDateCwdReminder (date attemptRoot : String) : String :=
  "<system-reminder>\nToday: " ++ date ++ "; current working directory: '" ++ attemptRoot ++
    "'. Do not repeat this information in your reply.\n</system-reminder>"

def reminderPrefix (reminder : String) : List Char := (reminder ++ "\n\n").toList

def neutralUserContent (reminder : String) : OmpContent → String
  | .plain text =>
      if (reminderPrefix reminder).isPrefixOf text.toList then
        String.ofList (text.toList.drop (reminderPrefix reminder).length)
      else text
  | .parts [] => ""
  | .parts (.text first :: rest) =>
      textContent (.parts (if first = reminder then rest else .text first :: rest))
  | .parts parts => textContent (.parts parts)

def detailStatus (details : Option Json) : Option ResultStatus :=
  match details.bind (fun details => details.get? "status") with
  | some (.str "succeeded") => some .succeeded
  | some (.str "failed") => some .failed
  | some (.str "unknown") => some .unknown
  | _ => none

section Conversions

variable {OmpUsage : Type} (toOmpUsage : Option Usage → OmpUsage)
  (toNeutralUsage : OmpUsage → Option Usage) (model : OmpModel) (now : Nat)

def toOmpBlock : Content → OmpBlock
  | .text text => .text text
  | .toolCall id name arguments => .toolCall id name arguments

def toOmpAssistant (message : AssistantMessage) : OmpAssistantMessage OmpUsage :=
  { content :=
      (match message.reasoningContent with
        | none => []
        | some reasoning => [.thinking reasoning "reasoning_content"]) ++
      message.content.map toOmpBlock
    api := "anna-host-transport-v1"
    provider := model.provider
    model := model.id
    usage := toOmpUsage message.usage
    stopReason := .reported message.stopReason
    timestamp := now }

def ompDetails (toolName : String) (status : ResultStatus) : Option Json → Json
  | some (.obj fields) =>
      if toolName = "todo" then .obj fields else .obj [("status", .str status.text)]
  | _ => .obj [("status", .str status.text)]

def toOmpMessage : Message → OmpMessage OmpUsage
  | .user content => .user (.plain content) now
  | .assistant message => .assistant (toOmpAssistant toOmpUsage model now message)
  | .toolResult toolCallId toolName content status details =>
      .toolResult toolCallId toolName (.parts [.text content])
        (some (ompDetails toolName status details)) (decide (status ≠ .succeeded)) now

/-- The visible blocks and the reasoning of an assistant message. -/
def toNeutralBlocks : List OmpBlock → List Content × Option String →
    List Content × Option String
  | [], gathered => gathered
  | .text text :: rest, (content, reasoning) =>
      toNeutralBlocks rest (content ++ [.text text], reasoning)
  | .thinking thinking _ :: rest, (content, reasoning) =>
      toNeutralBlocks rest
        (content, some (match reasoning with
          | none => thinking
          | some earlier => earlier ++ "\n" ++ thinking))
  | .toolCall id name arguments :: rest, (content, reasoning) =>
      toNeutralBlocks rest (content ++ [.toolCall id name arguments], reasoning)

def toNeutralMessage (reminder : String) : OmpMessage OmpUsage → Option Message
  | .user content _ => some (.user (neutralUserContent reminder content))
  | .developer content _ => some (.user (neutralUserContent reminder content))
  | .toolResult toolCallId toolName content details isError _ =>
      some (.toolResult toolCallId toolName (textContent content)
        ((detailStatus details).getD (if isError then .failed else .succeeded))
        (if toolName = "todo" then details else none))
  | .assistant message =>
      match message.stopReason with
      | .reported stopReason =>
          let gathered := toNeutralBlocks message.content ([], none)
          some (.assistant
            { content := gathered.1
              stopReason := stopReason
              reasoningContent := gathered.2
              usage := toNeutralUsage message.usage })
      | _ => none

def restored (reminder : String) (message : Message) : Option Message :=
  toNeutralMessage toNeutralUsage reminder (toOmpMessage toOmpUsage model now message)

/-- The messages of `toNeutralContext` once the agent holds the messages. -/
def restoredMessages (reminder : String) (messages : List Message) : List Message :=
  (messages.map (toOmpMessage toOmpUsage model now)).filterMap
    (toNeutralMessage toNeutralUsage reminder)

end Conversions

/-! ### What comes back -/

theorem toNeutralBlocks_map (content gathered : List Content) (reasoning : Option String) :
    toNeutralBlocks (content.map toOmpBlock) (gathered, reasoning) =
      (gathered ++ content, reasoning) := by
  induction content generalizing gathered with
  | nil => simp [toNeutralBlocks]
  | cons block rest ih =>
    cases block with
    | text text => simp [toOmpBlock, toNeutralBlocks, ih]
    | toolCall id name arguments => simp [toOmpBlock, toNeutralBlocks, ih]

theorem detailStatus_status (status : ResultStatus) :
    detailStatus (some (.obj [("status", .str status.text)])) = some status := by
  cases status <;> rfl

theorem neutralUserContent_plain_iff (reminder content : String) :
    neutralUserContent reminder (.plain content) = content ↔
      ¬ reminderPrefix reminder <+: content.toList := by
  change (if (reminderPrefix reminder).isPrefixOf content.toList then _ else content) = content ↔ _
  by_cases starts : reminderPrefix reminder <+: content.toList
  · rw [if_pos (List.isPrefixOf_iff_prefix.2 starts)]
    refine iff_of_false ?_ (fun without => without starts)
    intro same
    have cut : content.toList.drop (reminderPrefix reminder).length = content.toList := by
      rw [← String.toList_ofList (l := content.toList.drop _), same]
    have shorter := congrArg List.length cut
    have nonempty : 2 ≤ (reminderPrefix reminder).length := by simp [reminderPrefix]
    have fits := starts.length_le
    rw [List.length_drop] at shorter
    omega
  · rw [if_neg (fun isPrefix => starts (List.isPrefixOf_iff_prefix.1 isPrefix))]
    exact iff_of_true rfl starts

/-- The status that a restored result of the todo tool has: the one that its details tell, or
else whether it succeeded. -/
def todoStatus (fields : JsonObject) (status : ResultStatus) : ResultStatus :=
  (detailStatus (some (.obj fields))).getD (if status = .succeeded then .succeeded else .failed)

theorem todoStatus_eq_iff (fields : JsonObject) (status : ResultStatus) :
    todoStatus fields status = status ↔
      detailStatus (some (.obj fields)) = some status ∨
        detailStatus (some (.obj fields)) = none ∧ status ≠ .unknown := by
  unfold todoStatus
  cases detailStatus (some (.obj fields)) with
  | none => cases status <;> simp
  | some told => simp

/-- The message comes back as it is: a user message does not begin with the reminder, a
result of the todo tool has details that are an object and tell its status, or tell none while
it is known, and a result of another tool has no details. -/
def Message.Restorable (reminder : String) : Message → Prop
  | user content => ¬ reminderPrefix reminder <+: content.toList
  | assistant _ => True
  | toolResult _ toolName _ status details =>
      if toolName = "todo" then
        ∃ fields, details = some (.obj fields) ∧
          (detailStatus details = some status ∨ detailStatus details = none ∧ status ≠ .unknown)
      else details = none

section Restoring

variable {OmpUsage : Type} (toOmpUsage : Option Usage → OmpUsage)
  (toNeutralUsage : OmpUsage → Option Usage) (model : OmpModel) (now : Nat) (reminder : String)

theorem restored_user (content : String) :
    restored toOmpUsage toNeutralUsage model now reminder (.user content) =
      some (.user (neutralUserContent reminder (.plain content))) := rfl

theorem restored_assistant (message : AssistantMessage) :
    restored toOmpUsage toNeutralUsage model now reminder (.assistant message) =
      some (.assistant { message with usage := toNeutralUsage (toOmpUsage message.usage) }) := by
  cases reasoning : message.reasoningContent with
  | none =>
    simp [restored, toOmpMessage, toNeutralMessage, toOmpAssistant, toNeutralBlocks_map, reasoning]
  | some thinking =>
    simp [restored, toOmpMessage, toNeutralMessage, toOmpAssistant, toNeutralBlocks,
      toNeutralBlocks_map, reasoning]

theorem restored_todo (toolCallId content : String) (status : ResultStatus) (fields : JsonObject) :
    restored toOmpUsage toNeutralUsage model now reminder
        (.toolResult toolCallId "todo" content status (some (.obj fields))) =
      some (.toolResult toolCallId "todo" content (todoStatus fields status)
        (some (.obj fields))) := by
  cases status with
  | succeeded | failed | unknown =>
    simp [restored, toOmpMessage, toNeutralMessage, ompDetails, todoStatus, textContent,
      OmpPart.shown]

/-- A result that does not carry its details over carries its status in their place. -/
theorem restored_result (toolCallId toolName content : String) (status : ResultStatus)
    (details : Option Json)
    (replaced : ompDetails toolName status details = .obj [("status", .str status.text)]) :
    restored toOmpUsage toNeutralUsage model now reminder
        (.toolResult toolCallId toolName content status details) =
      some (.toolResult toolCallId toolName content status
        (if toolName = "todo" then some (.obj [("status", .str status.text)]) else none)) := by
  simp [restored, toOmpMessage, toNeutralMessage, replaced, detailStatus_status, textContent,
    OmpPart.shown]

theorem restored_toolResult_iff (toolCallId toolName content : String) (status : ResultStatus)
    (details : Option Json) :
    restored toOmpUsage toNeutralUsage model now reminder
        (.toolResult toolCallId toolName content status details) =
      some (.toolResult toolCallId toolName content status details) ↔
    (Message.toolResult toolCallId toolName content status details).Restorable reminder := by
  by_cases todo : toolName = "todo"
  · subst todo
    change _ ↔ ∃ fields, _
    by_cases record : ∃ fields, details = some (.obj fields)
    · rcases record with ⟨fields, rfl⟩
      rw [restored_todo]
      simp [todoStatus_eq_iff]
    · have replaced : ompDetails "todo" status details = .obj [("status", .str status.text)] := by
        unfold ompDetails
        split
        · exact absurd ⟨_, rfl⟩ record
        · rfl
      rw [restored_result toOmpUsage toNeutralUsage model now reminder _ _ _ _ _ replaced]
      refine iff_of_false ?_ (fun told => record (told.imp fun _ found => found.1))
      intro same
      injection same with same
      injection same with _ _ _ _ same
      exact record ⟨_, same.symm⟩
  · have replaced : ompDetails toolName status details = .obj [("status", .str status.text)] := by
      unfold ompDetails
      split
      · rw [if_neg todo]
      · rfl
    rw [restored_result toOmpUsage toNeutralUsage model now reminder _ _ _ _ _ replaced]
    simp [Message.Restorable, todo, eq_comm]

theorem restored_iff (message : Message) :
    (restored toOmpUsage toNeutralUsage model now reminder message).map Message.withoutUsage =
        some message.withoutUsage ↔
      message.Restorable reminder := by
  cases message with
  | user content =>
    rw [restored_user]
    simp [Message.withoutUsage, Message.Restorable, neutralUserContent_plain_iff]
  | assistant message =>
    rw [restored_assistant]
    simp [Message.withoutUsage, Message.Restorable]
  | toolResult toolCallId toolName content status details =>
    rw [← restored_toolResult_iff toOmpUsage toNeutralUsage model now reminder]
    change Option.map Message.withoutUsage (some _) = some _ ↔ some _ = some _
    simp [Message.withoutUsage]

theorem exists_restored (message : Message) :
    ∃ back, restored toOmpUsage toNeutralUsage model now reminder message = some back := by
  cases message with
  | user content => exact ⟨_, rfl⟩
  | assistant message =>
    exact ⟨_, restored_assistant toOmpUsage toNeutralUsage model now reminder message⟩
  | toolResult toolCallId toolName content status details => exact ⟨_, rfl⟩

theorem restoredMessages_iff (messages : List Message) :
    (restoredMessages toOmpUsage toNeutralUsage model now reminder messages).map
        Message.withoutUsage = messages.map Message.withoutUsage ↔
      ∀ message ∈ messages, message.Restorable reminder := by
  induction messages with
  | nil => simp [restoredMessages]
  | cons message rest ih =>
    rcases exists_restored toOmpUsage toNeutralUsage model now reminder message with ⟨back, isBack⟩
    have first := restored_iff toOmpUsage toNeutralUsage model now reminder message
    have split : restoredMessages toOmpUsage toNeutralUsage model now reminder (message :: rest) =
        back :: restoredMessages toOmpUsage toNeutralUsage model now reminder rest := by
      simp only [restoredMessages, List.map_cons]
      exact List.filterMap_cons_some isBack
    rw [isBack] at first
    rw [split, List.forall_mem_cons, ← ih, ← first]
    simp

/-- A message comes back equal up to its usage exactly when it is restorable, and the messages
of the first request are those of the transcript exactly when all of them are. -/
theorem restored_messages_equal_iff :
    (∀ message : Message,
      (restored toOmpUsage toNeutralUsage model now reminder message).map Message.withoutUsage =
          some message.withoutUsage ↔ message.Restorable reminder) ∧
    ∀ messages : List Message,
      (restoredMessages toOmpUsage toNeutralUsage model now reminder messages).map
          Message.withoutUsage = messages.map Message.withoutUsage ↔
        ∀ message ∈ messages, message.Restorable reminder :=
  ⟨restored_iff toOmpUsage toNeutralUsage model now reminder,
    restoredMessages_iff toOmpUsage toNeutralUsage model now reminder⟩

end Restoring

def unknownTodo : Message :=
  .toolResult "call_1" "todo" "The outcome is unknown." .unknown
    (some (.obj [("phases", .arr [])]))

/-- An accepted result of unknown outcome comes back as a failure. -/
theorem unknown_todo_restored_as_failed :
    unknownTodo.accepted = true ∧
      (restored (fun _ => ()) (fun _ => none) { id := "m", provider := "p" } 0
          (managedDateCwdReminder "2026-01-05" "/attempt") unknownTodo).map Message.withoutUsage =
        some (.toolResult "call_1" "todo" "The outcome is unknown." .failed
          (some (.obj [("phases", .arr [])]))) :=
  ⟨by decide +kernel, rfl⟩

end AnnaAgent.Worker
