/-
The truncation of old tool results (`context_compaction.py`).

Above the threshold the contents of tool messages before the protected tail are
replaced, the oldest first, until the estimate is below the threshold.
-/

import AnnaAgent.Runtime.ContextCompaction

namespace AnnaAgent.Runtime

open Foundation

def modelContextWindowDefault : Int := 200000

/-- `_ONE_MILLION_CONTEXT_PATTERN.search(model)`. -/
def hasOneMillionMarker (model : String) : Bool :=
  model.toList.tails.any (fun
    | '[' :: '1' :: c :: ']' :: _ => c = 'm' || c = 'M'
    | _ => false)

def getContextWindowForModel (model : String) (override : Option Int) : Int :=
  match override with
  | some window => if 0 < window then window else defaultWindow
  | none => defaultWindow
where
  defaultWindow : Int := if hasOneMillionMarker model then 1000000 else modelContextWindowDefault

/-- What the process reads of its environment, with `text.strip()` and `text.lower()`. -/
structure CompactionEnvironment where
  disableContextCompaction : Option String
  strip : String → String
  lower : String → String

/-- `_env_truthy("ANNA_DISABLE_CONTEXT_COMPACTION")`. -/
def CompactionEnvironment.disabled (env : CompactionEnvironment) : Bool :=
  match env.disableContextCompaction with
  | none => false
  | some value =>
    decide (value ≠ "") && decide (env.lower (env.strip value) ∈ ["1", "true", "yes", "on"])

def isContextCompactionEnabled (env : CompactionEnvironment) (settingEnabled : Bool) : Bool :=
  if env.disabled then false else settingEnabled

def truncatedToolResultPlaceholder : String :=
  "[earlier tool result omitted to fit the context window]"

namespace Message

/-- `{**message, "content": text}`, of a message with a content. -/
def withContent (text : String) : Message → Message
  | [] => []
  | (key, value) :: rest =>
    if key = "content" then (key, .str text) :: rest else (key, value) :: withContent text rest

/-- A tool message whose content is a text longer than the placeholder. -/
def isTruncatable (message : Message) : Bool :=
  if message.hasRole "tool" then
    match message.get "content" with
    | .str content =>
      decide (content ≠ truncatedToolResultPlaceholder) &&
        decide (truncatedToolResultPlaceholder.length < content.length)
    | _ => false
  else false

def truncated (message : Message) : Message :=
  message.withContent truncatedToolResultPlaceholder

end Message

/-- The loop over the indices before the protected tail. -/
def truncateFrom (threshold : Int) (work : List Message) : List Nat → List Message
  | [] => work
  | index :: rest =>
    match work[index]? with
    | none => truncateFrom threshold work rest
    | some message =>
      if message.isTruncatable then
        let truncated := work.set index message.truncated
        if (estimateTokens truncated : Int) < threshold then truncated
        else truncateFrom threshold truncated rest
      else truncateFrom threshold work rest

structure CompactionResult where
  messages : List Message
  compacted : Bool
  preCompactTokenCount : Nat
  postCompactTokenCount : Nat
  tokensFreed : Nat

def CompactionResult.unchanged (messages : List Message) : CompactionResult :=
  { messages := messages, compacted := false, preCompactTokenCount := estimateTokens messages
    postCompactTokenCount := estimateTokens messages, tokensFreed := 0 }

def compactMessages (env : CompactionEnvironment) (messages : List Message) (model : String)
    (contextWindow : Option Int) (enabled : Bool) : CompactionResult :=
  let preTokens := estimateTokens messages
  if isContextCompactionEnabled env enabled then
    let threshold := getAutoCompactThreshold (getContextWindowForModel model contextWindow)
    if (preTokens : Int) < threshold then .unchanged messages
    else
      let work := truncateFrom threshold messages
        (List.range (messages.length - protectedTailMessages))
      let postTokens := estimateTokens work
      { messages := work, compacted := decide (postTokens < preTokens)
        preCompactTokenCount := preTokens, postCompactTokenCount := postTokens
        tokensFreed := preTokens - postTokens }
  else .unchanged messages

variable {message : Message} {indices : List Nat}

theorem Message.truncated_split {content : String}
    (isContent : message.get "content" = .str content) :
    ∃ before after, message = before ++ ("content", .str content) :: after ∧
      ∀ text, message.withContent text = before ++ ("content", .str text) :: after := by
  induction message with
  | nil => cases isContent
  | cons field rest ih =>
    rcases field with ⟨key, value⟩
    by_cases here : key = "content"
    · subst here
      have same : value = .str content := isContent
      subst same
      exact ⟨[], rest, rfl, fun text => if_pos rfl⟩
    · have later : Message.get rest "content" = .str content := by
        unfold Message.get at isContent ⊢
        rw [List.lookup_cons, beq_false_of_ne (fun same => here same.symm)] at isContent
        exact isContent
      rcases ih later with ⟨before, after, split, replaced⟩
      refine ⟨(key, value) :: before, after, ?_, ?_⟩
      · rw [split]
        rfl
      · intro text
        unfold Message.withContent
        rw [if_neg here, replaced text]
        rfl

theorem dumpsFields_append (before after : List (String × Json)) :
    dumpsFields (before ++ after) = dumpsFields before ++ dumpsFields after := by
  induction before with
  | nil => simp [dumpsFields]
  | cons field rest ih => simp [dumpsFields, ih]

theorem spaced_around (before after : List (List Char)) :
    ∃ left right, ∀ part, spaced (before ++ part :: after) = left ++ part ++ right := by
  induction before with
  | nil =>
    cases after with
    | nil => exact ⟨[], [], fun part => by simp [spaced]⟩
    | cons next others =>
      exact ⟨[], ',' :: ' ' :: spaced (next :: others), fun part => by simp [spaced]⟩
  | cons first rest ih =>
    rcases ih with ⟨left, right, around⟩
    refine ⟨first ++ ',' :: ' ' :: left, right, ?_⟩
    intro part
    have nonempty : ∃ head tail, rest ++ part :: after = head :: tail := by
      cases rest with
      | nil => exact ⟨part, after, rfl⟩
      | cons head tail => exact ⟨head, tail ++ part :: after, rfl⟩
    rcases nonempty with ⟨head, tail, same⟩
    rw [List.cons_append, same]
    change first ++ ',' :: ' ' :: spaced (head :: tail) = _
    rw [← same, around part]
    simp

def escaped (text : String) : List Char :=
  text.toList.flatMap Json.escape

theorem dumps_around (before after : List (String × Json)) :
    ∃ left right, ∀ text, dumpsChars (.obj (before ++ ("content", .str text) :: after)) =
      left ++ escaped text ++ right := by
  rcases spaced_around (dumpsFields before) (dumpsFields after) with ⟨left, right, around⟩
  refine ⟨'\x7b' :: (left ++ Json.quote "content" ++ [':', ' ', '"']),
    '"' :: (right ++ ['\x7d']), ?_⟩
  intro text
  have fields : dumpsFields (before ++ ("content", .str text) :: after) =
      dumpsFields before ++ dumpsField ("content", .str text) :: dumpsFields after := by
    rw [dumpsFields_append]
    simp [dumpsFields]
  rw [dumpsChars, fields, around]
  simp [dumpsField, dumpsChars, Json.quote, escaped]

theorem escape_nonempty (c : Char) : 1 ≤ (Json.escape c).length := by
  rcases Json.escape_head c with ⟨head, tail, same, _⟩
  rw [same]
  simp

theorem length_le_escaped (text : String) : text.length ≤ (escaped text).length := by
  unfold escaped
  rw [← String.length_toList]
  induction text.toList with
  | nil => simp
  | cons c rest ih =>
    rw [List.flatMap_cons, List.length_append, List.length_cons]
    have atLeast := escape_nonempty c
    omega

theorem escaped_placeholder :
    escaped truncatedToolResultPlaceholder = truncatedToolResultPlaceholder.toList := by
  decide

theorem placeholder_ascii :
    truncatedToolResultPlaceholder.toList.countP (fun c => c.toNat < 128) =
      truncatedToolResultPlaceholder.length := by
  decide

theorem Message.isTruncatable_content (truncatable : message.isTruncatable = true) :
    ∃ content, message.get "content" = .str content ∧
      truncatedToolResultPlaceholder.length < content.length := by
  unfold Message.isTruncatable at truncatable
  split at truncatable
  · split at truncatable
    · rename_i content isContent
      rw [Bool.and_eq_true, decide_eq_true_eq, decide_eq_true_eq] at truncatable
      exact ⟨content, isContent, truncatable.2⟩
    · cases truncatable
  · cases truncatable

/-- A truncated message is never estimated higher: each character of the old content wrote
at least one, and the placeholder is plain. -/
theorem estimate_truncated_le (truncatable : message.isTruncatable = true) :
    estimateMessageTokens message.truncated ≤ estimateMessageTokens message := by
  rcases Message.isTruncatable_content truncatable with ⟨content, isContent, longer⟩
  rcases Message.truncated_split isContent with ⟨before, after, split, replaced⟩
  rcases dumps_around before after with ⟨left, right, around⟩
  have written := length_le_escaped content
  unfold Message.truncated
  rw [replaced, split]
  unfold estimateMessageTokens
  rw [around, around, escaped_placeholder]
  simp only [List.countP_append, List.length_append, placeholder_ascii, String.length_toList]
  have leftPlain : left.countP (fun c => c.toNat < 128) ≤ left.length := List.countP_le_length
  have rightPlain : right.countP (fun c => c.toNat < 128) ≤ right.length := List.countP_le_length
  have plain : (escaped content).countP (fun c => c.toNat < 128) ≤ (escaped content).length :=
    List.countP_le_length
  omega

/-! ### Truncating at indices -/

def truncateAt (messages : List Message) (indices : List Nat) : List Message :=
  messages.mapIdx (fun index message =>
    if index ∈ indices then message.truncated else message)

/-- Where a tool message before the protected tail can be truncated, the oldest first. -/
def truncatable (messages : List Message) (indices : List Nat) : List Nat :=
  indices.filter (fun index => (messages[index]?).any Message.isTruncatable)

def eligible (messages : List Message) : List Nat :=
  truncatable messages (List.range (messages.length - protectedTailMessages))

theorem truncateAt_nil (messages : List Message) : truncateAt messages [] = messages := by
  apply List.ext_getElem?
  intro index
  unfold truncateAt
  rw [List.getElem?_mapIdx]
  cases messages[index]? with
  | none => rfl
  | some message => rfl

theorem getElem?_truncateAt (messages : List Message) (indices : List Nat) (index : Nat) :
    (truncateAt messages indices)[index]? = (messages[index]?).map (fun message =>
      if index ∈ indices then message.truncated else message) :=
  List.getElem?_mapIdx

theorem length_truncateAt (messages : List Message) (indices : List Nat) :
    (truncateAt messages indices).length = messages.length :=
  List.length_mapIdx

variable {index : Nat}

theorem truncateAt_set {messages : List Message} (found : messages[index]? = some message)
    (fresh : index ∉ indices) :
    truncateAt (messages.set index message.truncated) indices =
      truncateAt messages (index :: indices) := by
  apply List.ext_getElem?
  intro place
  rw [getElem?_truncateAt, getElem?_truncateAt]
  by_cases same : place = index
  · subst same
    rw [List.getElem?_set_self', found]
    simp [fresh]
  · rw [List.getElem?_set_ne (fun equal => same equal.symm)]
    simp [same]

theorem truncatable_set {messages : List Message} (fresh : index ∉ indices) :
    truncatable (messages.set index message) indices = truncatable messages indices := by
  unfold truncatable
  apply List.filter_congr
  intro place member
  rw [List.getElem?_set_ne]
  intro same
  rw [same] at fresh
  exact fresh member

theorem estimateTokens_set {messages : List Message} {next : Message}
    (found : messages[index]? = some message)
    (less : estimateMessageTokens next ≤ estimateMessageTokens message) :
    estimateTokens (messages.set index next) ≤ estimateTokens messages := by
  induction messages generalizing index with
  | nil => simp
  | cons first rest ih =>
    cases index with
    | zero =>
      cases found
      unfold estimateTokens
      rw [List.set_cons_zero, List.map_cons, List.map_cons, List.sum_cons, List.sum_cons]
      omega
    | succ index =>
      have later : estimateTokens (rest.set index next) ≤ estimateTokens rest := ih found
      unfold estimateTokens at later ⊢
      rw [List.set_cons_succ, List.map_cons, List.map_cons, List.sum_cons, List.sum_cons]
      omega

/-- What the loop does: it truncates the first of the indices that it can, as many as
it needs. -/
structure Truncates (threshold : Int) (messages : List Message) (indices : List Nat)
    (after : List Message) (count : Nat) : Prop where
  result : after = truncateAt messages ((truncatable messages indices).take count)
  available : count ≤ (truncatable messages indices).length
  needed : ∀ fewer, 0 < fewer → fewer < count →
    threshold ≤ estimateTokens (truncateAt messages ((truncatable messages indices).take fewer))
  enough : (estimateTokens after : Int) < threshold ∨ count = (truncatable messages indices).length

theorem truncateFrom_spec (threshold : Int) (messages : List Message) (indices : List Nat)
    (distinct : indices.Nodup) :
    ∃ count, Truncates threshold messages indices (truncateFrom threshold messages indices)
      count ∧ (estimateTokens (truncateFrom threshold messages indices) : Int) ≤
        estimateTokens messages := by
  induction indices generalizing messages with
  | nil =>
    refine ⟨0, ⟨?_, Nat.le_refl _, ?_, Or.inr rfl⟩, Int.le_refl _⟩
    · exact (truncateAt_nil messages).symm
    · intro fewer positive less
      omega
  | cons index rest ih =>
    have fresh := (List.nodup_cons.mp distinct).1
    have later := (List.nodup_cons.mp distinct).2
    unfold truncateFrom
    cases found : messages[index]? with
    | none =>
      have passed : truncatable messages (index :: rest) = truncatable messages rest := by
        unfold truncatable
        rw [List.filter_cons_of_neg]
        rw [found]
        exact Bool.false_ne_true
      rcases ih messages later with ⟨count, ⟨result, available, needed, enough⟩, less⟩
      rw [← passed] at result available needed enough
      exact ⟨count, ⟨result, available, needed, enough⟩, less⟩
    | some message =>
      dsimp only
      by_cases able : message.isTruncatable = true
      · have first : truncatable messages (index :: rest) =
            index :: truncatable messages rest := by
          unfold truncatable
          rw [List.filter_cons_of_pos]
          rw [found]
          exact able
        have lower := estimateTokens_set found (estimate_truncated_le able)
        have unlisted : index ∉ truncatable messages rest :=
          fun member => fresh (List.mem_of_mem_filter member)
        have one : truncateAt messages [index] = messages.set index message.truncated := by
          rw [← truncateAt_set found List.not_mem_nil, truncateAt_nil]
        rw [if_pos able]
        by_cases below : (estimateTokens (messages.set index message.truncated) : Int) < threshold
        · rw [if_pos below]
          refine ⟨1, ⟨?_, ?_, ?_, Or.inl below⟩, ?_⟩
          · rw [first]
            exact one.symm
          · rw [first, List.length_cons]
            omega
          · intro fewer positive less
            omega
          · exact_mod_cast lower
        · rw [if_neg below]
          rcases ih (messages.set index message.truncated) later with
            ⟨count, ⟨result, available, needed, enough⟩, less⟩
          rw [truncatable_set fresh] at result available needed enough
          have joined : ∀ taken, truncateAt (messages.set index message.truncated)
              ((truncatable messages rest).take taken) = truncateAt messages
                ((truncatable messages (index :: rest)).take (taken + 1)) := by
            intro taken
            rw [first, List.take_succ_cons]
            exact truncateAt_set found (fun member => unlisted (List.mem_of_mem_take member))
          refine ⟨count + 1, ⟨?_, ?_, ?_, ?_⟩, ?_⟩
          · rw [result, joined]
          · rw [first, List.length_cons]
            omega
          · intro fewer positive less
            cases fewer with
            | zero => omega
            | succ fewer =>
              rw [← joined]
              cases fewer with
              | zero =>
                rw [List.take_zero, truncateAt_nil]
                omega
              | succ fewer => exact needed (fewer + 1) (Nat.succ_pos _) (by omega)
          · rcases enough with isBelow | all
            · exact Or.inl isBelow
            · right
              rw [first, List.length_cons, all]
          · omega
      · have passed : truncatable messages (index :: rest) = truncatable messages rest := by
          unfold truncatable
          rw [List.filter_cons_of_neg]
          rw [found]
          exact able
        rw [if_neg able]
        rcases ih messages later with ⟨count, ⟨result, available, needed, enough⟩, less⟩
        rw [← passed] at result available needed enough
        exact ⟨count, ⟨result, available, needed, enough⟩, less⟩

theorem Message.get_withContent {content : String}
    (isContent : message.get "content" = .str content) (text : String) :
    (message.withContent text).get "content" = .str text := by
  induction message with
  | nil => cases isContent
  | cons field rest ih =>
    rcases field with ⟨key, value⟩
    unfold Message.withContent
    by_cases here : key = "content"
    · subst here
      rw [if_pos rfl]
      rfl
    · rw [if_neg here]
      have other : ("content" == key) = false :=
        beq_false_of_ne (fun same => here same.symm)
      unfold Message.get at isContent ih ⊢
      rw [List.lookup_cons, other] at isContent ⊢
      exact ih isContent

theorem Message.truncated_isTruncatable (able : message.isTruncatable = true) :
    message.truncated.isTruncatable = false := by
  rcases isTruncatable_content able with ⟨content, isContent, _⟩
  unfold isTruncatable truncated
  rw [get_withContent isContent]
  split
  · simp
  · rfl

theorem mem_truncatable {messages : List Message} :
    index ∈ truncatable messages indices ↔
      index ∈ indices ∧ ∃ message, messages[index]? = some message ∧
        message.isTruncatable = true := by
  unfold truncatable
  rw [List.mem_filter, Option.any_eq_true]

theorem truncatable_truncateAt (messages : List Message) (indices : List Nat) :
    truncatable (truncateAt messages (truncatable messages indices)) indices = [] := by
  rw [List.eq_nil_iff_forall_not_mem]
  intro index member
  rcases mem_truncatable.mp member with ⟨listed, next, found, able⟩
  rw [getElem?_truncateAt] at found
  rcases Option.map_eq_some_iff.mp found with ⟨message, before, same⟩
  by_cases chosen : index ∈ truncatable messages indices
  · rw [if_pos chosen] at same
    rcases mem_truncatable.mp chosen with ⟨_, other, isOther, wasAble⟩
    have isMessage : other = message := Option.some.inj (isOther.symm.trans before)
    rw [isMessage] at wasAble
    rw [← same, Message.truncated_isTruncatable wasAble] at able
    cases able
  · rw [if_neg chosen] at same
    rw [← same] at able
    exact chosen (mem_truncatable.mpr ⟨listed, message, before, able⟩)

theorem truncateFrom_of_none {threshold : Int} {messages : List Message} (distinct : indices.Nodup)
    (none : truncatable messages indices = []) :
    truncateFrom threshold messages indices = messages := by
  rcases truncateFrom_spec threshold messages indices distinct with ⟨count, spec, _⟩
  have result := spec.result
  rw [none, List.take_nil, truncateAt_nil] at result
  exact result

def compactionThreshold (model : String) (contextWindow : Option Int) : Int :=
  getAutoCompactThreshold (getContextWindowForModel model contextWindow)

/-- What a call truncates: the oldest eligible tool results, as many as bring the estimate
below the threshold, or all. -/
structure Minimal (threshold : Int) (messages after : List Message) (count : Nat) : Prop where
  oldest : after = truncateAt messages ((eligible messages).take count)
  available : count ≤ (eligible messages).length
  needed : ∀ fewer, fewer < count →
    threshold ≤ estimateTokens (truncateAt messages ((eligible messages).take fewer))
  enough : (estimateTokens after : Int) < threshold ∨ count = (eligible messages).length

section Calls

variable (env : CompactionEnvironment) (messages : List Message) (model : String)
  (contextWindow : Option Int) (enabled : Bool)

theorem compactMessages_disabled (off : isContextCompactionEnabled env enabled = false) :
    (compactMessages env messages model contextWindow enabled).messages = messages := by
  unfold compactMessages
  dsimp only
  rw [off, if_neg Bool.false_ne_true]
  rfl

theorem compactMessages_below (below : (estimateTokens messages : Int) <
    compactionThreshold model contextWindow) :
    (compactMessages env messages model contextWindow enabled).messages = messages := by
  cases on : isContextCompactionEnabled env enabled with
  | false => exact compactMessages_disabled env messages model contextWindow enabled on
  | true =>
    unfold compactMessages
    dsimp only
    rw [if_pos on]
    exact congrArg CompactionResult.messages (if_pos below)

theorem compactMessages_above (on : isContextCompactionEnabled env enabled = true)
    (above : ¬(estimateTokens messages : Int) < compactionThreshold model contextWindow) :
    (compactMessages env messages model contextWindow enabled).messages =
      truncateFrom (compactionThreshold model contextWindow) messages
        (List.range (messages.length - protectedTailMessages)) := by
  unfold compactMessages
  dsimp only
  rw [if_pos on]
  exact congrArg CompactionResult.messages (if_neg above)

theorem compactMessages_minimal (on : isContextCompactionEnabled env enabled = true) :
    ∃ count, Minimal (compactionThreshold model contextWindow) messages
      (compactMessages env messages model contextWindow enabled).messages count ∧
      estimateTokens (compactMessages env messages model contextWindow enabled).messages ≤
        estimateTokens messages := by
  by_cases below : (estimateTokens messages : Int) < compactionThreshold model contextWindow
  · rw [compactMessages_below env messages model contextWindow enabled below]
    refine ⟨0, ⟨?_, Nat.zero_le _, ?_, Or.inl below⟩, Nat.le_refl _⟩
    · rw [List.take_zero, truncateAt_nil]
    · intro fewer impossible
      omega
  · rw [compactMessages_above env messages model contextWindow enabled on below]
    rcases truncateFrom_spec (compactionThreshold model contextWindow) messages
      (List.range (messages.length - protectedTailMessages)) List.nodup_range with
      ⟨count, spec, less⟩
    refine ⟨count, ⟨spec.result, spec.available, ?_, spec.enough⟩, ?_⟩
    · intro fewer isLess
      cases fewer with
      | zero =>
        rw [List.take_zero, truncateAt_nil]
        omega
      | succ fewer => exact spec.needed (fewer + 1) (Nat.succ_pos _) isLess
    · omega

theorem compactMessages_again :
    (compactMessages env (compactMessages env messages model contextWindow enabled).messages model
      contextWindow enabled).messages =
      (compactMessages env messages model contextWindow enabled).messages := by
  cases on : isContextCompactionEnabled env enabled with
  | false => exact compactMessages_disabled env _ model contextWindow enabled on
  | true =>
    rcases compactMessages_minimal env messages model contextWindow enabled on with
      ⟨count, minimal, _⟩
    by_cases below :
        (estimateTokens (compactMessages env messages model contextWindow enabled).messages : Int) <
          compactionThreshold model contextWindow
    · exact compactMessages_below env _ model contextWindow enabled below
    · rw [compactMessages_above env _ model contextWindow enabled on below]
      apply truncateFrom_of_none List.nodup_range
      have all := minimal.enough.resolve_left below
      rw [minimal.oldest, all, List.take_length, length_truncateAt]
      exact truncatable_truncateAt _ _

/-- Each message stays, or it is a tool message before the protected tail whose content
becomes the placeholder. -/
theorem compactMessages_pointwise (index : Nat) :
    (compactMessages env messages model contextWindow enabled).messages[index]? =
        messages[index]? ∨
      (index < messages.length - protectedTailMessages ∧
        ∃ before content behind,
          Message.hasRole (before ++ ("content", .str content) :: behind) "tool" = true ∧
          messages[index]? = some (before ++ ("content", .str content) :: behind) ∧
          (compactMessages env messages model contextWindow enabled).messages[index]? =
            some (before ++ ("content", .str truncatedToolResultPlaceholder) :: behind)) := by
  cases on : isContextCompactionEnabled env enabled with
  | false =>
    left
    rw [compactMessages_disabled env messages model contextWindow enabled on]
  | true =>
    rcases compactMessages_minimal env messages model contextWindow enabled on with
      ⟨count, minimal, _⟩
    rw [minimal.oldest, getElem?_truncateAt]
    by_cases chosen : index ∈ (eligible messages).take count
    · right
      rcases mem_truncatable.mp (List.mem_of_mem_take chosen) with
        ⟨listed, message, found, able⟩
      rcases Message.isTruncatable_content able with ⟨content, isContent, _⟩
      rcases Message.truncated_split isContent with ⟨before, behind, split, replaced⟩
      refine ⟨List.mem_range.mp listed, before, content, behind, ?_, ?_, ?_⟩
      · rw [← split]
        unfold Message.isTruncatable at able
        split at able
        · assumption
        · cases able
      · rw [found, split]
      · rw [found, Option.map_some, if_pos chosen]
        exact congrArg some (replaced _)
    · left
      cases messages[index]? with
      | none => rfl
      | some message => rw [Option.map_some, if_neg chosen]

end Calls

end AnnaAgent.Runtime
