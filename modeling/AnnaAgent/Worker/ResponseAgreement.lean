/-
What the host transport accepts and what the worker accepts.

The deltas that the host sends differ from those it has gathered only for calls
whose arguments have been replaced.  The worker puts the blocks of the message
together from them, so all it can object to is the reasoning: a final message
may tell it otherwise than it has been streamed.
-/

import AnnaAgent.Worker.ResponseAssembly

namespace AnnaAgent.Worker

open Foundation ModelDelta OrderedMap

/-- What the worker makes of a fragment when the arguments of replaced calls are
sent in place of their text. -/
def sentFragment (content : List Content) (index : Nat) (fragment : Fragment) : Fragment :=
  match content[index]?, fragment with
  | some (.toolCall _ _ arguments), .toolCall current id name =>
    if hasInvalidToolArguments (.obj arguments) then
      .toolCall (Json.stringify (.obj arguments)) id name
    else .toolCall current id name
  | _, fragment => fragment

structure Sent (content : List Content) (fragments sent : OrderedMap Nat Fragment) : Prop where
  size : sent.entries.length = fragments.entries.length
  at_index : ∀ index, sent.get? index = (fragments.get? index).map (sentFragment content index)

theorem sentFragment_text (content : List Content) (index : Nat) (text : String) :
    sentFragment content index (.text text) = .text text := by
  unfold sentFragment
  split
  · rename_i impossible
    cases impossible
  · rfl

variable {content : List Content} {sent : OrderedMap Nat Fragment} {deltas : List ModelDelta}
  {index : Nat}

theorem sentFragment_kept
    (notReplaced : ∀ id name arguments, content[index]? = some (.toolCall id name arguments) → hasInvalidToolArguments (.obj arguments) = false)
    (fragment : Fragment) :
    sentFragment content index fragment = fragment := by
  unfold sentFragment
  split
  · rename_i isCall
    rw [notReplaced _ _ _ isCall, if_neg (by decide)]
  · rfl

theorem Sent.set {fragments : OrderedMap Nat Fragment} (isSent : Sent content fragments sent)
    (index : Nat) (fragment : Fragment) :
    Sent content (fragments.set index fragment)
      (sent.set index (sentFragment content index fragment)) := by
  have sentAt := isSent.at_index index
  constructor
  · cases present : fragments.get? index with
    | none =>
      rw [present, Option.map_none] at sentAt
      rw [entries_length_set_new sentAt, entries_length_set_new present, isSent.size]
    | some old =>
      rw [present, Option.map_some] at sentAt
      rw [entries_length_set_present sentAt, entries_length_set_present present, isSent.size]
  · intro other
    rw [get?_set, get?_set]
    by_cases same : other = index
    · rw [if_pos same, if_pos same, Option.map_some, same]
    · rw [if_neg same, if_neg same, isSent.at_index]

theorem Sent.set_replaced {fragments : OrderedMap Nat Fragment}
    (isSent : Sent content fragments sent) {old new : Fragment}
    (present : fragments.get? index = some old)
    (same : sentFragment content index new = sentFragment content index old) :
    Sent content (fragments.set index new) sent := by
  constructor
  · rw [entries_length_set_present present, isSent.size]
  · intro other
    rw [get?_set]
    by_cases here : other = index
    · rw [if_pos here, here, isSent.at_index, present, Option.map_some, Option.map_some, same]
    · rw [if_neg here, isSent.at_index]

variable {fragments after : OrderedMap Nat Fragment}

theorem known_iff (ran : gatherFragments deltas = .ok fragments) (index : Nat) :
    deltas.any (isToolAt index) = true ↔
      ∃ text id name, fragments.get? index = some (.toolCall text id name) := by
  refine @foldlM_invariant String ModelDelta (OrderedMap Nat Fragment) addFragment
    (fun done state => done.any (isToolAt index) = true ↔
      ∃ text id name, state.get? index = some (.toolCall text id name))
    ?_ deltas [] empty fragments
    (by simp [get?, empty]) ran
  intro done before delta after isKnown added
  rw [List.any_append, List.any_cons, List.any_nil, Bool.or_false, Bool.or_eq_true]
  unfold addFragment at added
  split at added
  · cases added
    simp [isToolAt, isKnown]
  · rename_i contentIndex text
    have notTool : isToolAt index (.text contentIndex text) = false := rfl
    rw [notTool]
    split at added
    · rename_i absent
      cases added
      rw [get?_set]
      by_cases here : index = contentIndex
      · rw [here] at isKnown ⊢
        rw [absent] at isKnown
        simp [isKnown]
      · rw [if_neg here]
        simp [isKnown]
    · rename_i current present
      cases added
      rw [get?_set]
      by_cases here : index = contentIndex
      · rw [here] at isKnown ⊢
        rw [present] at isKnown
        simp [isKnown]
      · rw [if_neg here]
        simp [isKnown]
    · cases added
  · rename_i contentIndex id name argumentsDelta
    have toolAt : isToolAt index (.toolCall contentIndex id name argumentsDelta) =
        decide (contentIndex = index) := rfl
    rw [toolAt, decide_eq_true_eq]
    have sets : ∀ text, ((∃ text id name, before.get? index = some (Fragment.toolCall text id name))
        ∨ contentIndex = index) ↔ ∃ otherText otherId otherName,
          (before.set contentIndex (.toolCall text id name)).get? index =
            some (Fragment.toolCall otherText otherId otherName) := by
      intro text
      rw [get?_set]
      by_cases here : index = contentIndex
      · rw [if_pos here]
        simp [here]
      · rw [if_neg here]
        simp [Ne.symm here]
    split at added
    · cases added
      rw [isKnown]
      exact sets _
    · split at added
      · cases added
      · cases added
        rw [isKnown]
        exact sets _
    · cases added

variable {early : List ModelDelta}

theorem findIdx?_first {late : List ModelDelta} {delta : ModelDelta}
    (whole : deltas = early ++ delta :: late) (isTool : delta.isToolAt index = true) :
    deltas.findIdx? (isToolAt index) = some early.length ↔ early.any (isToolAt index) = false := by
  rw [whole, List.findIdx?_append]
  cases found : early.findIdx? (isToolAt index) with
  | none =>
    rw [List.findIdx?_eq_none_iff] at found
    have here : (delta :: late).findIdx? (isToolAt index) = some 0 := by
      rw [List.findIdx?_cons, isTool]
      rfl
    simp [here]
    exact found
  | some place =>
    rcases List.findIdx?_eq_some_iff_getElem.1 found with ⟨inside, isAt, _⟩
    have known : early.any (isToolAt index) = true :=
      List.any_eq_true.2 ⟨_, List.getElem_mem inside, isAt⟩
    rw [known]
    simp
    omega

theorem emitDelta_sent {late : List ModelDelta} {delta : ModelDelta}
    (whole : deltas = early ++ delta :: late) (ran : gatherFragments early = .ok fragments)
    (isSent : Sent content fragments sent) (added : addFragment fragments delta = .ok after) :
    ∃ final, (emitDelta deltas content (delta, early.length)).foldlM addFragment sent =
      .ok final ∧ Sent content after final := by
  cases delta with
  | reasoning text =>
    cases added
    exact ⟨sent, rfl, isSent⟩
  | text contentIndex text =>
    have sentAt := isSent.at_index contentIndex
    have kept := isSent.set contentIndex
    unfold addFragment at added
    dsimp only at added
    split at added
    · rename_i absent
      cases added
      rw [absent, Option.map_none] at sentAt
      have next := kept (.text text)
      rw [sentFragment_text] at next
      exact ⟨_, by simp [emitDelta, addFragment, sentAt], next⟩
    · rename_i current present
      cases added
      rw [present, Option.map_some, sentFragment_text] at sentAt
      have next := kept (.text (current ++ text))
      rw [sentFragment_text] at next
      exact ⟨_, by simp [emitDelta, addFragment, sentAt], next⟩
    · cases added
  | toolCall contentIndex id name argumentsDelta =>
    have sentAt := isSent.at_index contentIndex
    have isTool : isToolAt contentIndex
        (.toolCall contentIndex id name argumentsDelta) = true := by
      simp [isToolAt]
    have first := findIdx?_first whole isTool
    have known := known_iff ran contentIndex
    by_cases isReplaced : ∃ id name arguments,
        content[contentIndex]? = some (.toolCall id name arguments) ∧
          hasInvalidToolArguments (.obj arguments) = true
    · rcases isReplaced with ⟨callId, callName, arguments, isCall, isInvalid⟩
      have replaced : ∀ text id name, sentFragment content contentIndex
          (.toolCall text id name) = .toolCall (Json.stringify (.obj arguments)) id name := by
        intro text id name
        simp [sentFragment, isCall, isInvalid]
      unfold addFragment at added
      dsimp only at added
      split at added
      · rename_i absent
        cases added
        rw [absent, Option.map_none] at sentAt
        have isFirst : early.any (isToolAt contentIndex) = false := by
          cases anyTool : early.any (isToolAt contentIndex) with
          | false => rfl
          | true =>
            rcases known.1 anyTool with ⟨_, _, _, present⟩
            cases absent.symm.trans present
        have next := isSent.set contentIndex (.toolCall argumentsDelta id name)
        rw [replaced] at next
        refine ⟨_, ?_, next⟩
        simp [emitDelta, isCall, isInvalid, first.2 isFirst, addFragment, sentAt]
      · rename_i current currentId currentName present
        split at added
        · cases added
        · rename_i sameNames
          have identity : currentId = id ∧ currentName = name := by
            simpa using sameNames
          cases added
          have isLater : deltas.findIdx? (isToolAt contentIndex) ≠
              some early.length := by
            intro isFirst
            have noTool := first.1 isFirst
            rw [known.2 ⟨_, _, _, present⟩] at noTool
            cases noTool
          refine ⟨sent, ?_, isSent.set_replaced present ?_⟩
          · simp [emitDelta, isCall, isInvalid, isLater]
            rfl
          · rw [replaced, replaced, identity.1, identity.2]
      · cases added
    · have notReplaced : ∀ id name arguments,
          content[contentIndex]? = some (.toolCall id name arguments) →
            hasInvalidToolArguments (.obj arguments) = false := by
        intro id name arguments isCall
        cases isInvalid : hasInvalidToolArguments (.obj arguments) with
        | false => rfl
        | true => exact absurd ⟨id, name, arguments, isCall, isInvalid⟩ isReplaced
      have emitted : emitDelta deltas content
          (.toolCall contentIndex id name argumentsDelta, early.length) =
            [.toolCall contentIndex id name argumentsDelta] := by
        unfold emitDelta
        dsimp only
        split
        · rename_i isCall
          rw [notReplaced _ _ _ isCall, if_neg (by decide)]
        · rfl
      have sameAt : sent.get? contentIndex = fragments.get? contentIndex := by
        rw [sentAt]
        cases fragments.get? contentIndex with
        | none => rfl
        | some fragment => rw [Option.map_some, sentFragment_kept notReplaced]
      rw [emitted]
      unfold addFragment at added
      dsimp only at added
      split at added
      · rename_i absent
        cases added
        rw [absent] at sameAt
        have next := isSent.set contentIndex (.toolCall argumentsDelta id name)
        rw [sentFragment_kept notReplaced] at next
        exact ⟨_, by simp [addFragment, sameAt], next⟩
      · rename_i current currentId currentName present
        split at added
        · cases added
        · rename_i sameNames
          cases added
          rw [present] at sameAt
          have next := isSent.set contentIndex (.toolCall (current ++ argumentsDelta) id name)
          rw [sentFragment_kept notReplaced] at next
          exact ⟨_, by simp [addFragment, sameAt, sameNames], next⟩
      · cases added

theorem emitted_sent (early late : List ModelDelta) (whole : deltas = early ++ late)
    (ran : gatherFragments early = .ok fragments) :
    ∃ sent, (early.zipIdx.flatMap (emitDelta deltas content)).foldlM addFragment
      empty = .ok sent ∧ Sent content fragments sent := by
  induction early using List.reverseRecOn generalizing late fragments with
  | nil =>
    cases ran
    exact ⟨empty, rfl, ⟨rfl, fun _ => rfl⟩⟩
  | append_singleton early delta ih =>
    rw [gatherFragments_append] at ran
    rcases bind_ok_iff.1 ran with ⟨middle, ranEarly, added⟩
    rw [List.foldlM_cons] at added
    rcases bind_ok_iff.1 added with ⟨last, added, done⟩
    cases done
    have split : deltas = early ++ delta :: late := by
      rw [whole, List.append_assoc, List.singleton_append]
    rcases ih (delta :: late) split ranEarly with ⟨sent, ranSent, isSent⟩
    rcases emitDelta_sent split ranEarly isSent added with ⟨final, ranDelta, isFinal⟩
    refine ⟨final, ?_, isFinal⟩
    rw [List.zipIdx_append, List.flatMap_append, List.foldlM_append, ranSent, ok_bind]
    simpa using ranDelta

theorem emitDeltas_sent (content : List Content) (ran : gatherFragments deltas = .ok fragments) :
    ∃ sent, gatherFragments (emitDeltas deltas content) = .ok sent ∧ Sent content fragments sent :=
  emitted_sent deltas [] (List.append_nil _).symm ran

theorem emitDelta_reasoning (deltas : List ModelDelta) (content : List Content)
    (entry : ModelDelta × Nat) :
    (emitDelta deltas content entry).filterMap reasoning? = entry.1.reasoning?.toList := by
  rcases entry with ⟨delta, place⟩
  cases delta with
  | reasoning text => rfl
  | text contentIndex text => rfl
  | toolCall contentIndex id name argumentsDelta =>
    unfold emitDelta
    dsimp only
    split
    · split
      · split
        · rfl
        · rfl
      · rfl
    · rfl

theorem reasoningText_emitDeltas (deltas : List ModelDelta) (content : List Content) :
    reasoningText (emitDeltas deltas content) = reasoningText deltas := by
  have same : ∀ entries : List (ModelDelta × Nat),
      (entries.flatMap (emitDelta deltas content)).filterMap reasoning? =
        (entries.map Prod.fst).filterMap reasoning? := by
    intro entries
    induction entries with
    | nil => rfl
    | cons entry rest ih =>
      rw [List.flatMap_cons, List.filterMap_append, emitDelta_reasoning, ih, List.map_cons,
        List.filterMap_cons]
      cases entry.1.reasoning? with
      | none => rfl
      | some text => rfl
  unfold reasoningText emitDeltas
  rw [same, List.zipIdx_map_fst]

/-! ### The final message -/

variable {accumulator : CompletionAccumulator} {response : HostModelResponse}

section Accepts

variable {number : List Char → Option JsonNumber}

theorem readArguments_cases (argumentsText : String) :
    (Json.parse number argumentsText = some (.obj (readArguments number argumentsText)) ∧
        hasInvalidToolArguments (.obj (readArguments number argumentsText)) = false) ∨
      readArguments number argumentsText = invalidToolArguments argumentsText := by
  unfold readArguments
  split
  · rename_i fields isObject
    split
    · exact .inr rfl
    · rename_i isValid
      exact .inl ⟨isObject, by simpa using isValid⟩
  · exact .inr rfl

theorem checkArguments_ok {text : String} {arguments : JsonObject}
    (read : Json.parse number text = some (.obj arguments)) :
    checkArguments number text arguments = .ok () := by
  unfold checkArguments
  rw [read]
  simp [Json.isRecord]

theorem checkBlock_ok {blocks : List Block} (shows : Shows fragments (blocks.map Block.fragment))
    (isSent : Sent (blocks.map (Block.content number)) fragments sent) {block : Block}
    (here : blocks[index]? = some block) :
    checkBlock number sent (block.content number, index) = .ok () := by
  have sentAt := isSent.at_index index
  rw [shows.at_index, List.getElem?_map, here, Option.map_some, Option.map_some] at sentAt
  have contentAt : (blocks.map (Block.content number))[index]? = some (block.content number) := by
    rw [List.getElem?_map, here, Option.map_some]
  unfold checkBlock
  dsimp only
  rw [sentAt]
  cases block with
  | text written =>
    simp [Block.fragment, sentFragment_text, Block.content]
  | toolCall id name argumentsText =>
    rcases @readArguments_cases number argumentsText with ⟨read, isValid⟩ | isInvalid
    · simp only [Block.content] at contentAt ⊢
      simp [sentFragment, contentAt, isValid, Block.fragment, checkArguments_ok read]
    · have read := Json.parse_stringify number
        (invalidToolArguments_canonical number argumentsText)
      simp only [Block.content, isInvalid] at contentAt ⊢
      simp [sentFragment, contentAt, hasInvalidToolArguments_invalid, Block.fragment,
        checkArguments_ok read]

theorem forM_ok {α : Type} {items : List α} {f : α → Except String Unit}
    (each : ∀ item ∈ items, f item = .ok ()) : items.forM f = .ok () := by
  induction items with
  | nil => rfl
  | cons item rest ih =>
    change (f item >>= fun _ => rest.forM f) = _
    rw [each item List.mem_cons_self, ok_bind]
    exact ih (fun other member => each other (List.mem_cons_of_mem item member))

theorem checkContent_ok {blocks : List Block} (shows : Shows fragments (blocks.map Block.fragment))
    (isSent : Sent (blocks.map (Block.content number)) fragments sent) :
    checkContent number sent (blocks.map (Block.content number)) = .ok () := by
  unfold checkContent
  rw [if_neg]
  · apply forM_ok
    rintro ⟨content, index⟩ member
    have contentAt : (blocks.map (Block.content number))[index]? = some content :=
      List.mem_zipIdx_iff_getElem?.1 member
    rw [List.getElem?_map] at contentAt
    rcases Option.map_eq_some_iff.1 contentAt with ⟨block, here, isContent⟩
    rw [← isContent]
    exact checkBlock_ok shows isSent here
  · rw [isSent.size, shows.size, List.length_map, List.length_map]
    exact fun differs => differs rfl

theorem asserted_iff (gathered : Gathered accumulator)
    (finished : finishAccumulator number accumulator = .ok response) :
    assertModelResponseMatchesDeltas number response.deltas response.message = .ok () ↔
      reasoningText accumulator.deltas = "" ∨
        (accumulator.reasoningSeen = true ∧
          accumulator.reasoningContent = reasoningText accumulator.deltas) := by
  unfold finishAccumulator at finished
  split at finished
  · cases finished
  · rename_i stopReason isStop
    dsimp only at finished
    split at finished
    · cases finished
    · cases finished
      rcases gathered.shown with ⟨fragments, ran, shows⟩
      rcases emitDeltas_sent (accumulator.blocks.map (Block.content number)) ran with
        ⟨sent, ranSent, isSent⟩
      have sameText := reasoningText_emitDeltas accumulator.deltas
        (accumulator.blocks.map (Block.content number))
      have checked : (gatherFragments (emitDeltas accumulator.deltas
          (accumulator.blocks.map (Block.content number))) >>= fun fragments =>
            checkContent number fragments (accumulator.blocks.map (Block.content number))) =
          .ok () := by
        rw [ranSent, ok_bind]
        exact checkContent_ok shows isSent
      unfold assertModelResponseMatchesDeltas
      dsimp only
      by_cases isEmpty : emitDeltas accumulator.deltas
          (accumulator.blocks.map (Block.content number)) = []
      · rw [isEmpty] at sameText
        rw [if_pos isEmpty, ← sameText]
        simp [reasoningText]
      · rw [if_neg isEmpty, sameText, checked]
        by_cases isSilent : reasoningText accumulator.deltas = ""
        · simp [isSilent]
        · cases seen : accumulator.reasoningSeen with
          | false | true => simp [isSilent]

end Accepts

def streamedReasoning (payloads : List JsonObject) : String :=
  String.join (payloads.map deltaReasoning)

def Repeats (payloads : List JsonObject) : Prop :=
  ∀ early payload late told, payloads = early ++ payload :: late →
    messageReasoning payload = some told → (∀ other ∈ late, messageReasoning other = none) →
      told = streamedReasoning early

theorem streamedReasoning_append (payloads : List JsonObject) (payload : JsonObject) :
    streamedReasoning (payloads ++ [payload]) =
      streamedReasoning payloads ++ deltaReasoning payload := by
  simp [streamedReasoning]

variable {payloads : List JsonObject} {payload : JsonObject}

theorem repeats_append_none (untold : messageReasoning payload = none) :
    Repeats (payloads ++ [payload]) ↔ Repeats payloads := by
  constructor
  · intro repeated early other late told isSplit isTold isLast
    apply repeated early other (late ++ [payload]) told
    · rw [isSplit]
      simp
    · exact isTold
    · intro later member
      rcases List.mem_append.1 member with inLate | isNew
      · exact isLast later inLate
      · rw [List.mem_singleton.1 isNew]
        exact untold
  · intro repeated early other late told isSplit isTold isLast
    cases late using List.reverseRecOn with
    | nil =>
      have same := (List.append_inj' isSplit rfl).2
      rw [List.singleton_inj.1 same] at untold
      cases untold.symm.trans isTold
    | append_singleton late final =>
      rw [← List.cons_append, ← List.append_assoc] at isSplit
      have same := List.append_inj' isSplit rfl
      apply repeated early other late told same.1 isTold
      intro later member
      exact isLast later (List.mem_append_left _ member)

theorem repeats_append_some {told : String} (isTold : messageReasoning payload = some told) :
    Repeats (payloads ++ [payload]) ↔ told = streamedReasoning payloads := by
  constructor
  · intro repeated
    exact repeated payloads payload [] told rfl isTold (fun _ member => absurd member (by simp))
  · intro same early other late otherTold isSplit isOther isLast
    cases late using List.reverseRecOn with
    | nil =>
      have parts := List.append_inj' isSplit rfl
      rw [← List.singleton_inj.1 parts.2, isTold] at isOther
      cases isOther
      rw [← parts.1]
      exact same
    | append_singleton late final =>
      rw [← List.cons_append, ← List.append_assoc] at isSplit
      have parts := List.append_inj' isSplit rfl
      have untold := isLast final (List.mem_append_right _ List.mem_cons_self)
      rw [← List.singleton_inj.1 parts.2, isTold] at untold
      cases untold

structure Reasoned (payloads : List JsonObject) (accumulator : CompletionAccumulator) : Prop where
  gathered : Gathered accumulator
  text : reasoningText accumulator.deltas = streamedReasoning payloads
  content : accumulator.reasoningContent = streamedReasoning payloads ↔ Repeats payloads
  seen : streamedReasoning payloads ≠ "" → accumulator.reasoningSeen = true

theorem created_reasoned : Reasoned [] createAccumulator := by
  refine ⟨⟨⟨empty, rfl, ⟨rfl, fun _ => rfl⟩⟩, ?_⟩, rfl, ?_, fun streamed => absurd rfl streamed⟩
  · intro streamIndex existing impossible
    cases impossible
  · constructor
    · intro _ early payload late told isSplit
      simp at isSplit
    · intro _
      rfl

variable {aliases : ProviderToolNameAliases}

theorem Reasoned.step {before after : CompletionAccumulator} (reasoned : Reasoned payloads before)
    (ran : before.accumulatePayload aliases payload = .ok after) :
    Reasoned (payloads ++ [payload]) after := by
  rcases accumulatePayload_reasons ran with ⟨reasons, kept⟩
  refine ⟨kept reasoned.gathered, ?_, ?_, ?_⟩
  · rw [reasons.text, reasoned.text, streamedReasoning_append]
  · rw [reasons.content, streamedReasoning_append]
    cases isTold : messageReasoning payload with
    | none =>
      rw [repeats_append_none isTold, ← reasoned.content, Option.getD_none]
      exact String.append_left_inj _
    | some told =>
      rw [repeats_append_some isTold, Option.getD_some]
      exact String.append_left_inj _
  · intro streamed
    apply reasons.seen
    by_cases silent : deltaReasoning payload = ""
    · left
      apply reasoned.seen
      intro isEmpty
      rw [streamedReasoning_append, isEmpty, silent] at streamed
      exact streamed rfl
    · exact .inr silent

theorem foldlM_reasoned
    (ran : payloads.foldlM (CompletionAccumulator.accumulatePayload aliases) createAccumulator =
      .ok accumulator) : Reasoned payloads accumulator :=
  foldlM_invariant Reasoned (fun _ _ _ _ reasoned taken => reasoned.step taken) created_reasoned ran

/-- Reasoning is streamed only if it is what the message tells. -/
def ReasonsAlike (payloads : List JsonObject) : Prop :=
  streamedReasoning payloads = "" ∨ Repeats payloads

theorem Reasoned.asserted_iff {number : List Char → Option JsonNumber}
    (reasoned : Reasoned payloads accumulator)
    (finished : finishAccumulator number accumulator = .ok response) :
    assertModelResponseMatchesDeltas number response.deltas response.message = .ok () ↔
      ReasonsAlike payloads := by
  rw [Worker.asserted_iff reasoned.gathered finished, reasoned.text, reasoned.content]
  unfold ReasonsAlike
  by_cases silent : streamedReasoning payloads = ""
  · simp [silent]
  · simp [silent, reasoned.seen silent]

/-- The worker accepts a response that the host transport has made exactly if the
reasoning of its payloads agrees. -/
theorem responses_accepted_iff (number : List Char → Option JsonNumber)
    (aliases : ProviderToolNameAliases) :
    (∀ payloads response, parseStreamingResponse number payloads aliases = .ok response →
      (assertModelResponseMatchesDeltas number response.deltas response.message = .ok () ↔
        ReasonsAlike payloads)) ∧
    (∀ payload response, parseCompletionPayload number payload aliases = .ok response →
      (assertModelResponseMatchesDeltas number response.deltas response.message = .ok () ↔
        ReasonsAlike [payload])) := by
  constructor
  · intro payloads response parsed
    rcases bind_ok_iff.1 parsed with ⟨accumulator, ran, finished⟩
    exact (foldlM_reasoned ran).asserted_iff finished
  · intro payload response parsed
    rcases bind_ok_iff.1 parsed with ⟨accumulator, ran, finished⟩
    exact (created_reasoned.step ran).asserted_iff finished

/-- The choice of a payload and why it ended. -/
def payloadOf (fields : JsonObject) : JsonObject := [("choices", .arr [.obj fields])]

/-- A plain answer without reasoning. -/
theorem responses_accepted_iff_plain :
    assertModelResponseMatchesDeltas (fun _ => none) [.text 0 "Done."]
        { content := [.text "Done."]
          stopReason := .stop
          reasoningContent := none
          usage := none } = .ok () ↔
      ReasonsAlike [payloadOf [("finish_reason", .str "stop"),
        ("message", .obj [("role", .str "assistant"), ("content", .str "Done.")])]] :=
  (responses_accepted_iff (fun _ => none) empty).2 _
    { deltas := [.text 0 "Done."]
      message :=
        { content := [.text "Done."]
          stopReason := .stop
          reasoningContent := none
          usage := none } } rfl

/-- A final message that tells the reasoning in other words. -/
theorem response_with_retold_reasoning_refused :
    ∃ payloads response,
      parseStreamingResponse (fun _ => none) payloads empty = .ok response ∧
        assertModelResponseMatchesDeltas (fun _ => none) response.deltas response.message =
          .error "OMP model reasoning delta mismatch" :=
  ⟨[payloadOf [("delta", .obj [("reasoning_content", .str "Let me see.")])],
    payloadOf [("finish_reason", .str "stop"),
      ("message", .obj [("role", .str "assistant"), ("content", .str "Done."),
        ("reasoning_content", .str "I looked.")])]],
    { deltas := [.reasoning "Let me see.", .text 0 "Done."]
      message :=
        { content := [.text "Done."]
          stopReason := .stop
          reasoningContent := some "I looked."
          usage := none } }, rfl, rfl⟩

end AnnaAgent.Worker
