/-
The deltas of the host and the fragments of the worker.

Whatever the payloads are, the worker can put together what the host has
gathered: its fragments are the blocks of the host, one by one.
-/

import AnnaAgent.Worker.ModelTransport
import AnnaAgent.Worker.ModelResponses

namespace AnnaAgent.Worker

open Foundation

/-- What the worker has to make of a block. -/
def Block.fragment : Block → Fragment
  | .text written => .text written
  | .toolCall id name argumentsText => .toolCall argumentsText id name

def Fragment.extend (text : String) : Fragment → Fragment
  | .text current => .text (current ++ text)
  | .toolCall current id name => .toolCall (current ++ text) id name

theorem fragment_extend (block : Block) (text : String) :
    (block.extend text).fragment = block.fragment.extend text := by
  cases block with
  | text written => rfl
  | toolCall id name argumentsText => rfl

theorem fragments_modify (blocks : List Block) (index : Nat) (text : String) :
    (blocks.modify index (Block.extend text)).map Block.fragment =
      (blocks.map Block.fragment).modify index (Fragment.extend text) := by
  apply List.ext_getElem?
  intro other
  rw [List.getElem?_map, List.getElem?_modify, List.getElem?_modify, List.getElem?_map]
  cases here : blocks[other]? with
  | none => rfl
  | some block =>
    by_cases same : index = other
    · simp [same, fragment_extend]
    · simp [same]

/-- The worker makes of the deltas what has been gathered, and the map of tool
blocks points to them. -/
structure Gathered (accumulator : CompletionAccumulator) : Prop where
  shown : ∃ fragments, gatherFragments accumulator.deltas = .ok fragments ∧
    Shows fragments (accumulator.blocks.map Block.fragment)
  known : ∀ streamIndex existing, accumulator.toolBlocks.get? streamIndex = some existing →
    ∃ argumentsText, accumulator.blocks[existing.index]? =
      some (.toolCall existing.id existing.name argumentsText)

/-- Nothing about the reasoning has changed. -/
structure SameReasoning (before after : CompletionAccumulator) : Prop where
  content : after.reasoningContent = before.reasoningContent
  seen : after.reasoningSeen = before.reasoningSeen
  text : reasoningText after.deltas = reasoningText before.deltas

/-- A step that adds to the blocks. -/
structure Adds (before after : CompletionAccumulator) : Prop where
  gathered : Gathered before → Gathered after
  reasoning : SameReasoning before after

namespace Adds

theorem refl (accumulator : CompletionAccumulator) : Adds accumulator accumulator :=
  { gathered := fun gathered => gathered
    reasoning := ⟨rfl, rfl, rfl⟩ }

theorem trans {first second third : CompletionAccumulator} (early : Adds first second)
    (late : Adds second third) : Adds first third :=
  { gathered := fun gathered => late.gathered (early.gathered gathered)
    reasoning :=
      { content := late.reasoning.content.trans early.reasoning.content
        seen := late.reasoning.seen.trans early.reasoning.seen
        text := late.reasoning.text.trans early.reasoning.text } }

theorem foldlM {α : Type} {f : CompletionAccumulator → α → Except String CompletionAccumulator}
    (step : ∀ before item after, f before item = .ok after → Adds before after)
    {items : List α} {first last : CompletionAccumulator}
    (ran : items.foldlM f first = .ok last) : Adds first last := by
  refine @foldlM_invariant String α CompletionAccumulator f (fun _ state => Adds first state)
    ?_ items [] first last (refl first) ran
  intro done before item after added taken
  exact added.trans (step before item after taken)

end Adds

variable {before after : CompletionAccumulator}
variable {delta : ModelDelta}

theorem reasoningText_block (noReasoning : delta.reasoning? = none) (deltas : List ModelDelta) :
    reasoningText (deltas ++ [delta]) = reasoningText deltas := by
  unfold reasoningText
  rw [List.filterMap_append, List.filterMap_cons_none noReasoning, List.filterMap_nil,
    List.append_nil]

theorem Gathered.extended (gathered : Gathered before) {index : Nat} {block : Block}
    (here : before.blocks[index]? = some block) {text : String}
    (added : ∀ fragments : OrderedMap Nat Fragment, fragments.get? index = some block.fragment →
      addFragment fragments delta = .ok (fragments.set index (block.fragment.extend text))) :
    Gathered { before with
      blocks := before.blocks.modify index (Block.extend text)
      deltas := before.deltas ++ [delta] } := by
  rcases gathered.shown with ⟨fragments, ran, shows⟩
  have atIndex : (before.blocks.map Block.fragment)[index]? = some block.fragment := by
    rw [List.getElem?_map, here]
    rfl
  have present : fragments.get? index = some block.fragment := by
    rw [shows.at_index, atIndex]
  constructor
  · refine ⟨fragments.set index (block.fragment.extend text), ?_, ?_⟩
    · rw [gatherFragments_append, ran]
      change List.foldlM addFragment fragments [delta] = _
      rw [List.foldlM_cons, added fragments present]
      rfl
    · rw [fragments_modify]
      exact shows.modify atIndex (Fragment.extend text)
  · intro streamIndex existing isKnown
    rcases gathered.known streamIndex existing isKnown with ⟨argumentsText, atBlock⟩
    change ∃ argumentsText, (before.blocks.modify index (Block.extend text))[existing.index]? = _
    rw [List.getElem?_modify, atBlock]
    by_cases same : index = existing.index
    · exact ⟨argumentsText ++ text, by simp [same, Block.extend]⟩
    · exact ⟨argumentsText, by simp [same]⟩

theorem Gathered.appended (gathered : Gathered before) {block : Block}
    {toolBlocks : OrderedMap JsonNumber ToolBlock}
    (added : ∀ fragments : OrderedMap Nat Fragment, fragments.get? before.blocks.length = none →
      addFragment fragments delta = .ok (fragments.set before.blocks.length block.fragment))
    (known : ∀ streamIndex existing, toolBlocks.get? streamIndex = some existing →
      before.toolBlocks.get? streamIndex = some existing ∨ ∃ argumentsText, existing.index =
      before.blocks.length ∧ block = .toolCall existing.id existing.name argumentsText) :
    Gathered { before with
      blocks := before.blocks ++ [block]
      toolBlocks := toolBlocks
      deltas := before.deltas ++ [delta] } := by
  rcases gathered.shown with ⟨fragments, ran, shows⟩
  have absent : fragments.get? before.blocks.length = none := by
    rw [shows.at_index, List.getElem?_eq_none]
    rw [List.length_map]
  constructor
  · refine ⟨fragments.set before.blocks.length block.fragment, ?_, ?_⟩
    · rw [gatherFragments_append, ran]
      change List.foldlM addFragment fragments [delta] = _
      rw [List.foldlM_cons, added fragments absent]
      rfl
    · have longer := shows.append block.fragment
      rw [List.length_map] at longer
      rw [List.map_append]
      exact longer
  · intro streamIndex existing isKnown
    rcases known streamIndex existing isKnown with wasKnown | ⟨argumentsText, isLast, isBlock⟩
    · rcases gathered.known streamIndex existing wasKnown with ⟨argumentsText, atBlock⟩
      refine ⟨argumentsText, ?_⟩
      change (before.blocks ++ [block])[existing.index]? = _
      rw [List.getElem?_append_left (List.getElem?_eq_some_iff.1 atBlock).1, atBlock]
    · refine ⟨argumentsText, ?_⟩
      change (before.blocks ++ [block])[existing.index]? = _
      rw [isLast, List.getElem?_concat_length, isBlock]

theorem appendText_adds (accumulator : CompletionAccumulator) (text : String) :
    Adds accumulator (accumulator.appendText text) := by
  have opens : Adds accumulator { accumulator with
      blocks := accumulator.blocks ++ [.text text]
      deltas := accumulator.deltas ++ [.text accumulator.blocks.length text] } := by
    refine ⟨fun gathered => gathered.appended ?_ (fun _ _ isKnown => .inl isKnown),
      ⟨rfl, rfl, reasoningText_block rfl _⟩⟩
    intro fragments absent
    unfold addFragment
    dsimp only
    rw [absent]
    rfl
  unfold CompletionAccumulator.appendText
  split
  · rename_i previous isLast
    refine ⟨fun gathered => ?_, ⟨rfl, rfl, reasoningText_block rfl _⟩⟩
    rw [List.getLast?_eq_getElem?] at isLast
    apply gathered.extended isLast
    intro fragments present
    unfold addFragment
    dsimp only
    rw [present]
    rfl
  · exact opens

theorem extendTool_adds {streamIndex : JsonNumber} {existing : ToolBlock}
    (isKnown : before.toolBlocks.get? streamIndex = some existing) (argumentsText : String) :
    Adds before (before.extendTool existing argumentsText) := by
  unfold CompletionAccumulator.extendTool
  split
  · exact .refl before
  · refine ⟨fun gathered => ?_, ⟨rfl, rfl, reasoningText_block rfl _⟩⟩
    rcases gathered.known streamIndex existing isKnown with ⟨gatheredText, atBlock⟩
    apply gathered.extended atBlock
    intro fragments present
    unfold addFragment
    dsimp only
    rw [present]
    simp [Block.fragment, Fragment.extend]

theorem appendTool_adds {streamIndex : JsonNumber} {id name argumentsText : String}
    (ran : before.appendTool streamIndex id name argumentsText = .ok after) :
    Adds before after := by
  unfold CompletionAccumulator.appendTool at ran
  split at ran
  · rename_i existing isKnown
    split at ran
    · cases ran
    · cases ran
      exact extendTool_adds isKnown argumentsText
  · cases ran
    refine ⟨fun gathered => gathered.appended ?_ ?_, ⟨rfl, rfl, reasoningText_block rfl _⟩⟩
    · intro fragments absent
      unfold addFragment
      dsimp only
      rw [absent]
      rfl
    · intro otherIndex existing isOther
      rw [OrderedMap.get?_set] at isOther
      split at isOther
      · cases isOther
        exact .inr ⟨argumentsText, rfl, rfl⟩
      · exact .inl isOther

/-! ### Messages and deltas -/

open CompletionAccumulator

variable {aliases : ProviderToolNameAliases}

theorem accumulateMessageCall_adds {rawCall : Json}
    (ran : accumulateMessageCall aliases before rawCall = .ok after) : Adds before after := by
  unfold accumulateMessageCall at ran
  rcases bind_ok_iff.1 ran with ⟨call, _, ran⟩
  rcases bind_ok_iff.1 ran with ⟨fn, _, ran⟩
  split at ran
  · split at ran
    · cases ran
    · exact appendTool_adds ran
  · cases ran

theorem accumulateDeltaCall_adds {entry : Json × Nat}
    (ran : accumulateDeltaCall aliases before entry = .ok after) : Adds before after := by
  unfold accumulateDeltaCall at ran
  rcases bind_ok_iff.1 ran with ⟨call, _, ran⟩
  rcases bind_ok_iff.1 ran with ⟨fn, _, ran⟩
  rcases bind_ok_iff.1 ran with ⟨id, _, ran⟩
  rcases bind_ok_iff.1 ran with ⟨name, _, ran⟩
  rcases bind_ok_iff.1 ran with ⟨argumentsDelta, _, ran⟩
  split at ran
  · split at ran
    · exact appendTool_adds ran
    · cases ran
  · rename_i existing isKnown
    split at ran
    · cases ran
    · split at ran
      · cases ran
      · cases ran
        exact extendTool_adds isKnown _

theorem takeText_adds {value : Option Json} {refusal : String}
    (ran : before.takeText value refusal = .ok after) : Adds before after := by
  unfold takeText at ran
  split at ran
  · cases ran
    exact .refl before
  · cases ran
    split
    · exact .refl before
    · exact appendText_adds before _
  · cases ran

/-- What a message says about reasoning. -/
def reasoningOf (message : JsonObject) : Option String :=
  (message.lookup "reasoning_content").bind Json.str?

/-- How the reasoning changes with a part of a payload: it is told anew, and more
of it is streamed. -/
structure Reasons (told : Option String) (streamed : String)
    (before after : CompletionAccumulator) : Prop where
  content : after.reasoningContent = told.getD before.reasoningContent ++ streamed
  seen : before.reasoningSeen = true ∨ streamed ≠ "" → after.reasoningSeen = true
  text : reasoningText after.deltas = reasoningText before.deltas ++ streamed

theorem Reasons.adds {told : Option String} {streamed : String}
    {middle : CompletionAccumulator} (reasons : Reasons told streamed before middle)
    (adds : Adds middle after) : Reasons told streamed before after :=
  { content := adds.reasoning.content.trans reasons.content
    seen := fun isSeen => adds.reasoning.seen.trans (reasons.seen isSeen)
    text := adds.reasoning.text.trans reasons.text }

theorem takeReasoning_reasons (accumulator : CompletionAccumulator) (value : Option Json) :
    Reasons (value.bind Json.str?) "" accumulator (accumulator.takeReasoning value) ∧
      (Gathered accumulator → Gathered (accumulator.takeReasoning value)) := by
  have isSame : Reasons none "" accumulator accumulator :=
    { content := by simp
      seen := by simp
      text := by simp }
  unfold takeReasoning
  split
  · exact ⟨⟨by simp [Json.str?], by simp, by simp⟩, fun gathered => ⟨gathered.1, gathered.2⟩⟩
  · rename_i noString
    have untold : value.bind Json.str? = none := by
      cases value with
      | none => rfl
      | some value =>
        cases value with
        | str text => exact absurd rfl (noString text)
        | null | bool | num | arr | obj => rfl
    rw [untold]
    exact ⟨isSame, fun gathered => gathered⟩

theorem appendReasoning_reasons (accumulator : CompletionAccumulator) (reasoning : Option String) :
    Reasons none (reasoning.getD "") accumulator (accumulator.appendReasoning reasoning) ∧
      (Gathered accumulator → Gathered (accumulator.appendReasoning reasoning)) := by
  cases reasoning with
  | none => exact ⟨⟨by simp [appendReasoning], by simp [appendReasoning],
      by simp [appendReasoning]⟩, fun gathered => gathered⟩
  | some text =>
    unfold appendReasoning
    dsimp only
    by_cases isEmpty : text = ""
    · rw [if_pos isEmpty, List.append_nil]
      exact ⟨⟨by simp, by simp, by simp [isEmpty]⟩, fun gathered => ⟨gathered.1, gathered.2⟩⟩
    · rw [if_neg isEmpty]
      refine ⟨⟨by simp, by simp, ?_⟩, fun gathered => ⟨?_, gathered.2⟩⟩
      · change reasoningText (accumulator.deltas ++ [.reasoning text]) = _
        rw [reasoningText_append]
        simp [reasoningText, ModelDelta.reasoning?]
      · rcases gathered.shown with ⟨fragments, ran, shows⟩
        refine ⟨fragments, ?_, shows⟩
        change gatherFragments (accumulator.deltas ++ [.reasoning text]) = _
        rw [gatherFragments_append, ran]
        rfl

theorem accumulateMessage_reasons {message : JsonObject}
    (ran : before.accumulateMessage message aliases = .ok after) :
    Reasons (reasoningOf message) "" before after ∧ (Gathered before → Gathered after) := by
  unfold accumulateMessage at ran
  split at ran
  · cases ran
  · rcases bind_ok_iff.1 ran with ⟨gathered, took, ran⟩
    rcases takeReasoning_reasons before (message.lookup "reasoning_content") with
      ⟨reasons, kept⟩
    have texts := takeText_adds took
    have calls : Adds gathered after := by
      split at ran
      · cases ran
        exact .refl _
      · exact Adds.foldlM (fun _ _ _ => accumulateMessageCall_adds) ran
      · cases ran
    exact ⟨reasons.adds (texts.trans calls),
      fun isGathered => calls.gathered (texts.gathered (kept isGathered))⟩

theorem accumulateDelta_reasons {delta : JsonObject}
    (ran : before.accumulateDelta delta aliases = .ok after) :
    Reasons none ((firstString delta reasoningFields).getD "") before after ∧
      (Gathered before → Gathered after) := by
  unfold accumulateDelta at ran
  rcases bind_ok_iff.1 ran with ⟨gathered, took, ran⟩
  rcases appendReasoning_reasons before (firstString delta reasoningFields) with ⟨reasons, kept⟩
  have texts := takeText_adds took
  have calls : Adds gathered after := by
    split at ran
    · cases ran
      exact .refl _
    · exact Adds.foldlM (fun _ _ _ => accumulateDeltaCall_adds) ran
    · cases ran
  exact ⟨reasons.adds (texts.trans calls),
    fun isGathered => calls.gathered (texts.gathered (kept isGathered))⟩

def choiceOf (payload : JsonObject) : JsonObject :=
  match payload.lookup "choices" with
  | some (.arr [.obj choice]) => choice
  | _ => []

def partOf (payload : JsonObject) (part : String) : JsonObject :=
  match (choiceOf payload).lookup part with
  | some (.obj fields) => fields
  | _ => []

def messageReasoning (payload : JsonObject) : Option String :=
  reasoningOf (partOf payload "message")

def deltaReasoning (payload : JsonObject) : String :=
  (firstString (partOf payload "delta") reasoningFields).getD ""

theorem takeUsage_keeps {value : Option Json} (ran : before.takeUsage value = .ok after) :
    Adds before after := by
  unfold takeUsage at ran
  split at ran
  · cases ran
    exact .refl before
  · rcases bind_ok_iff.1 ran with ⟨usage, _, ran⟩
    cases ran
    exact ⟨fun gathered => ⟨gathered.1, gathered.2⟩, ⟨rfl, rfl, rfl⟩⟩

theorem takeFinishReason_keeps {value : Option Json}
    (ran : before.takeFinishReason value = .ok after) : Adds before after := by
  unfold takeFinishReason at ran
  split at ran
  · cases ran
    exact .refl before
  · rcases bind_ok_iff.1 ran with ⟨reason, _, ran⟩
    cases ran
    exact ⟨fun gathered => ⟨gathered.1, gathered.2⟩, ⟨rfl, rfl, rfl⟩⟩

theorem takePart_cases {part : Option Json}
    {accumulate : CompletionAccumulator → JsonObject → Except String CompletionAccumulator}
    (ran : before.takePart part accumulate = .ok after) :
    (after = before ∧ ∀ fields, part ≠ some (.obj fields)) ∨
      ∃ fields, part = some (.obj fields) ∧ accumulate before fields = .ok after := by
  unfold takePart at ran
  split at ran
  · rename_i isMissing
    cases ran
    refine .inl ⟨rfl, ?_⟩
    intro fields isObject
    rw [isObject] at isMissing
    cases isMissing
  · rename_i value isPresent
    rcases bind_ok_iff.1 ran with ⟨fields, isObject, ran⟩
    cases value with
    | obj known =>
      cases isObject
      refine .inr ⟨_, ?_, ran⟩
      unfold present at isPresent
      split at isPresent
      · cases isPresent
      · exact isPresent
    | null | bool | num | str | arr => cases isObject

theorem choice_reasons {payload choice : JsonObject} (isChoice : choiceOf payload = choice)
    (ran : before.accumulateChoice (.obj choice) aliases = .ok after) :
    Reasons (messageReasoning payload) (deltaReasoning payload) before after ∧
      (Gathered before → Gathered after) := by
  unfold accumulateChoice at ran
  rcases bind_ok_iff.1 ran with ⟨fields, isFields, ran⟩
  cases isFields
  rcases bind_ok_iff.1 ran with ⟨counted, took, ran⟩
  rcases bind_ok_iff.1 ran with ⟨finished, finish, ran⟩
  rcases bind_ok_iff.1 ran with ⟨told, tells, streams⟩
  have early := (takeUsage_keeps took).trans (takeFinishReason_keeps finish)
  have message : Reasons (messageReasoning payload) "" finished told ∧
      (Gathered finished → Gathered told) := by
    unfold messageReasoning partOf
    rw [isChoice]
    rcases takePart_cases tells with ⟨same, noObject⟩ | ⟨fields, isObject, ran⟩
    · rw [same]
      split
      · rename_i isObject
        exact absurd isObject (noObject _)
      · exact ⟨⟨by simp [reasoningOf], by simp, by simp⟩, fun gathered => gathered⟩
    · rw [isObject]
      exact accumulateMessage_reasons ran
  have delta : Reasons none (deltaReasoning payload) told after ∧
      (Gathered told → Gathered after) := by
    unfold deltaReasoning partOf
    rw [isChoice]
    rcases takePart_cases streams with ⟨same, noObject⟩ | ⟨fields, isObject, ran⟩
    · rw [same]
      split
      · rename_i isObject
        exact absurd isObject (noObject _)
      · exact ⟨⟨by simp [firstString, reasoningFields], by simp [firstString, reasoningFields],
          by simp [firstString, reasoningFields]⟩, fun gathered => gathered⟩
    · rw [isObject]
      exact accumulateDelta_reasons ran
  refine ⟨⟨?_, ?_, ?_⟩, fun gathered => delta.2 (message.2 (early.gathered gathered))⟩
  · rw [delta.1.content, message.1.content, early.reasoning.content]
    simp
  · intro isSeen
    apply delta.1.seen
    rcases isSeen with wasSeen | streamed
    · exact .inl (message.1.seen (.inl (early.reasoning.seen.trans wasSeen)))
    · exact .inr streamed
  · rw [delta.1.text, message.1.text, early.reasoning.text]
    simp

theorem accumulatePayload_reasons {payload : JsonObject}
    (ran : accumulatePayload aliases before payload = .ok after) :
    Reasons (messageReasoning payload) (deltaReasoning payload) before after ∧
      (Gathered before → Gathered after) := by
  have noChoice : choiceOf payload = [] → Adds before after →
      Reasons (messageReasoning payload) (deltaReasoning payload) before after ∧
        (Gathered before → Gathered after) := by
    intro isNone adds
    have untold : messageReasoning payload = none := by
      unfold messageReasoning partOf
      rw [isNone]
      rfl
    have silent : deltaReasoning payload = "" := by
      unfold deltaReasoning partOf
      rw [isNone]
      rfl
    rw [untold, silent]
    have isSame : Reasons none "" before before := ⟨by simp, by simp, by simp⟩
    exact ⟨isSame.adds adds, adds.gathered⟩
  unfold accumulatePayload at ran
  split at ran
  · cases ran
  · rcases bind_ok_iff.1 ran with ⟨counted, took, ran⟩
    have usage := takeUsage_keeps took
    split at ran
    · rename_i isChoices
      cases ran
      exact noChoice (by unfold choiceOf; rw [isChoices]) usage
    · rename_i isChoices
      cases ran
      exact noChoice (by unfold choiceOf; rw [isChoices]) usage
    · rename_i choice isChoices
      cases choice with
      | obj fields =>
        rcases choice_reasons (by unfold choiceOf; rw [isChoices]) ran with ⟨reasons, kept⟩
        refine ⟨⟨?_, ?_, ?_⟩, fun gathered => kept (usage.gathered gathered)⟩
        · rw [reasons.content, usage.reasoning.content]
        · intro isSeen
          apply reasons.seen
          rw [usage.reasoning.seen]
          exact isSeen
        · rw [reasons.text, usage.reasoning.text]
      | null | bool | num | str | arr => cases ran
    · cases ran

end AnnaAgent.Worker
