/-
Conversations that are compacted again and again.

A compaction cuts the conversation at a fixed distance from its end.  The
result is well formed exactly when the message there is not of a tool.
Whatever is appended in between, there is never more than one summary, and
after three failures the summarizer is left alone.
-/

import AnnaAgent.Foundation.Run
import AnnaAgent.Runtime.ContextCompaction
import Mathlib.Data.List.Induction
import Mathlib.Data.List.TakeWhile

namespace AnnaAgent.Runtime

open Foundation

section Splitting

variable (messages : List Message)

def isSystem (message : Message) : Bool :=
  message.hasRole "system"

theorem split_head : (splitHeadMiddleTail messages).1 = messages.takeWhile isSystem := by
  unfold splitHeadMiddleTail
  exact (List.prefix_iff_eq_take.1 (List.takeWhile_prefix _)).symm

theorem split_append : (splitHeadMiddleTail messages).1 ++ ((splitHeadMiddleTail messages).2.1 ++
    (splitHeadMiddleTail messages).2.2) = messages := by
  unfold splitHeadMiddleTail
  dsimp only
  rw [← List.append_assoc]
  have headed : messages.take (messages.takeWhile (fun message => message.hasRole "system")).length =
      (messages.take (max (messages.takeWhile (fun message => message.hasRole "system")).length
        (messages.length - protectedTailMessages))).take
        (messages.takeWhile (fun message => message.hasRole "system")).length := by
    rw [List.take_take, Nat.min_eq_left (Nat.le_max_left _ _)]
  rw [headed, List.take_append_drop, List.take_append_drop]

theorem split_tail (split : (splitHeadMiddleTail messages).2.1 ≠ []) :
    (splitHeadMiddleTail messages).2.2 = messages.drop (messages.length - protectedTailMessages) ∧
    protectedTailMessages ≤ messages.length := by
  unfold splitHeadMiddleTail at split ⊢
  dsimp only at split ⊢
  have longer : (messages.takeWhile (fun message => message.hasRole "system")).length <
      messages.length - protectedTailMessages := by
    by_contra short
    rw [Nat.max_eq_left (Nat.not_lt.1 short), List.drop_take, Nat.sub_self, List.take_zero] at split
    exact split rfl
  rw [Nat.max_eq_right (Nat.le_of_lt longer)]
  exact ⟨rfl, by omega⟩

end Splitting

section Compaction

variable {host : CompactionHost} {messages : List Message} {summarize : Summarizer}
  {state : AutoCompactTrackingState} {window : Int} {thresholdTokens : Option Int}

/-- The middle is handed to the summarizer. -/
def attempts (messages : List Message) (state : AutoCompactTrackingState) (window : Int)
    (thresholdTokens : Option Int) : Bool :=
  decide (thresholdTokens.getD (getAutoCompactThreshold window) ≤ estimateTokens messages) &&
    decide (state.failures < maxConsecutiveAutocompactFailures) &&
    !(splitHeadMiddleTail messages).2.1.isEmpty

def newSummary (host : CompactionHost) (messages : List Message) (summarize : Summarizer)
    (state : AutoCompactTrackingState) (window : Int) (thresholdTokens : Option Int) :
    Option String :=
  if attempts messages state window thresholdTokens then
    summaryOf host summarize (splitHeadMiddleTail messages).2.1
  else none

theorem attempts_middle (attempted : attempts messages state window thresholdTokens = true) :
    (splitHeadMiddleTail messages).2.1 ≠ [] := by
  unfold attempts at attempted
  rw [Bool.and_eq_true, Bool.not_eq_true', List.isEmpty_eq_false_iff] at attempted
  exact attempted.2

theorem autocompact_skipped (skipped : attempts messages state window thresholdTokens = false) :
    autocompactMessages host messages summarize state window thresholdTokens =
      (messages, none, state) := by
  unfold autocompactMessages
  unfold attempts at skipped
  dsimp only
  by_cases below : (estimateTokens messages : Int) <
      thresholdTokens.getD (getAutoCompactThreshold window)
  · rw [if_pos below]
  · rw [if_neg below]
    by_cases tripped : state.failures ≥ maxConsecutiveAutocompactFailures
    · rw [if_pos tripped]
    · rw [if_neg tripped]
      rw [decide_eq_true (Int.not_lt.1 below), decide_eq_true (Nat.not_le.1 tripped),
        Bool.and_self, Bool.true_and, Bool.not_eq_false', List.isEmpty_iff] at skipped
      rw [if_pos skipped]

theorem autocompact_failed (attempted : attempts messages state window thresholdTokens = true)
    (failed : summaryOf host summarize (splitHeadMiddleTail messages).2.1 = none) :
    autocompactMessages host messages summarize state window thresholdTokens =
      (messages, none, { state with consecutiveFailures := some (state.failures + 1) }) := by
  have middle := attempts_middle attempted
  unfold attempts at attempted
  rw [Bool.and_eq_true, Bool.and_eq_true, decide_eq_true_iff, decide_eq_true_iff] at attempted
  unfold autocompactMessages
  dsimp only
  rw [if_neg (Int.not_lt.2 attempted.1.1), if_neg (Nat.not_le.2 attempted.1.2), if_neg middle,
    failed]

theorem autocompact_succeeded {summary : String}
    (attempted : attempts messages state window thresholdTokens = true)
    (succeeded : summaryOf host summarize (splitHeadMiddleTail messages).2.1 = some summary) :
    ∃ info, autocompactMessages host messages summarize state window thresholdTokens =
      (buildPostCompactMessages (splitHeadMiddleTail messages).1 summary
          (splitHeadMiddleTail messages).2.2, info,
        { compacted := true, turnCounter := 0, turnId := "", consecutiveFailures := some 0 }) := by
  have middle := attempts_middle attempted
  unfold attempts at attempted
  rw [Bool.and_eq_true, Bool.and_eq_true, decide_eq_true_iff, decide_eq_true_iff] at attempted
  unfold autocompactMessages
  dsimp only
  rw [if_neg (Int.not_lt.2 attempted.1.1), if_neg (Nat.not_le.2 attempted.1.2), if_neg middle,
    succeeded]
  exact ⟨_, rfl⟩

theorem autocompact_unchanged
    (noSummary : newSummary host messages summarize state window thresholdTokens = none) :
    (autocompactMessages host messages summarize state window thresholdTokens).1 = messages := by
  unfold newSummary at noSummary
  cases attempted : attempts messages state window thresholdTokens with
  | false => rw [autocompact_skipped attempted]
  | true =>
    rw [attempted, if_pos rfl] at noSummary
    rw [autocompact_failed attempted noSummary]

theorem autocompact_rebuilt {summary : String}
    (isSummary : newSummary host messages summarize state window thresholdTokens = some summary) :
    (autocompactMessages host messages summarize state window thresholdTokens).1 =
        messages.takeWhile isSystem ++ summaryMessage summary ::
          messages.drop (messages.length - protectedTailMessages) ∧
      (splitHeadMiddleTail messages).2.1 ≠ [] := by
  unfold newSummary at isSummary
  cases attempted : attempts messages state window thresholdTokens with
  | false =>
    rw [attempted, if_neg Bool.false_ne_true] at isSummary
    cases isSummary
  | true =>
    rw [attempted, if_pos rfl] at isSummary
    obtain ⟨info, compacted⟩ := autocompact_succeeded attempted isSummary
    have middle := attempts_middle attempted
    rw [compacted, ← split_head, ← (split_tail messages middle).1]
    exact ⟨rfl, middle⟩

def CutsToolGroup (host : CompactionHost) (messages : List Message) (summarize : Summarizer)
    (state : AutoCompactTrackingState) (window : Int) (thresholdTokens : Option Int) : Prop :=
  newSummary host messages summarize state window thresholdTokens ≠ none ∧
    ∃ message, (messages.drop (messages.length - protectedTailMessages)).head? = some message ∧
      message.hasRole "tool" = true

theorem summaryMessage_roles (summary : String) :
    (summaryMessage summary).hasRole "tool" = false ∧
      (summaryMessage summary).hasRole "system" = false ∧ (summaryMessage summary).opens = [] :=
  ⟨rfl, rfl, rfl⟩

theorem rebuilt_wellFormed_iff {head middle tail : List Message} (summary : String)
    (isHead : (head ++ (middle ++ tail)).takeWhile isSystem = head)
    (wellFormed : WellFormed (head ++ (middle ++ tail))) :
    WellFormed (head ++ summaryMessage summary :: tail) ↔
      ∀ message, tail.head? = some message → message.hasRole "tool" = false := by
  obtain ⟨notTool, notSystem, opensNone⟩ := summaryMessage_roles summary
  constructor
  · intro rebuilt message isFirst
    have answers := ((answers_append [] head (summaryMessage summary :: tail)).1 rebuilt.answers).2
    rw [Answers, notTool, if_neg Bool.false_ne_true, opensNone] at answers
    cases tail with
    | nil => cases isFirst
    | cons first rest =>
      cases isFirst
      by_contra isTool
      rw [Bool.not_eq_false] at isTool
      rw [Answers, if_pos isTool] at answers
      obtain ⟨⟨_, impossible, _⟩, _⟩ := answers
      cases impossible
  · intro notToolFirst
    have remains : (head ++ (middle ++ tail)).dropWhile isSystem = middle ++ tail := by
      have whole := List.takeWhile_append_dropWhile (p := isSystem) (l := head ++ (middle ++ tail))
      rw [isHead] at whole
      exact List.append_cancel_left whole
    have headSystem : ∀ message ∈ head, isSystem message = true := by
      intro message member
      rw [← isHead] at member
      exact List.mem_takeWhile_imp member
    refine ⟨?_, ?_⟩
    · intro message member
      change message ∈ (head ++ summaryMessage summary :: tail).dropWhile isSystem at member
      rw [List.dropWhile_append_of_pos headSystem, List.dropWhile_cons_of_neg
        (by rw [Bool.not_eq_true]; exact notSystem)] at member
      rcases List.mem_cons.1 member with rfl | isLate
      · exact notSystem
      · refine wellFormed.systemFirst message ?_
        change message ∈ (head ++ (middle ++ tail)).dropWhile isSystem
        rw [remains]
        exact List.mem_append_right _ isLate
    · obtain ⟨ofHead, ofRest⟩ := (answers_append [] head (middle ++ tail)).1 wellFormed.answers
      have ofTail := ((answers_append _ middle tail).1 ofRest).2
      refine (answers_append [] head _).2 ⟨ofHead, ?_⟩
      rw [Answers, notTool, if_neg Bool.false_ne_true]
      exact (answers_of_head notToolFirst).1 ofTail

theorem autocompact_wellFormed_iff (wellFormed : WellFormed messages) :
    WellFormed (autocompactMessages host messages summarize state window thresholdTokens).1 ↔
      ¬ CutsToolGroup host messages summarize state window thresholdTokens := by
  cases isSummary : newSummary host messages summarize state window thresholdTokens with
  | none =>
    rw [autocompact_unchanged isSummary]
    exact iff_of_true wellFormed (fun cuts => cuts.1 isSummary)
  | some summary =>
    obtain ⟨rebuilt, isMiddle⟩ := autocompact_rebuilt isSummary
    have whole := split_append messages
    rw [split_head, (split_tail messages isMiddle).1] at whole
    have isHead : (messages.takeWhile isSystem ++ ((splitHeadMiddleTail messages).2.1 ++
        messages.drop (messages.length - protectedTailMessages))).takeWhile isSystem =
          messages.takeWhile isSystem := by rw [whole]
    rw [rebuilt, rebuilt_wellFormed_iff summary isHead (whole.symm ▸ wellFormed)]
    constructor
    · rintro notTool ⟨_, message, isFirst, isTool⟩
      rw [notTool message isFirst] at isTool
      cases isTool
    · intro spares message isFirst
      rw [← Bool.not_eq_true]
      intro isTool
      refine spares ⟨?_, message, isFirst, isTool⟩
      rw [isSummary]
      exact Option.some_ne_none summary

theorem tracking_skipped (skipped : attempts messages state window thresholdTokens = false) :
    (autocompactMessages host messages summarize state window thresholdTokens).2.2 = state := by
  rw [autocompact_skipped skipped]

theorem tracking_attempted (attempted : attempts messages state window thresholdTokens = true) :
    (autocompactMessages host messages summarize state window thresholdTokens).2.2.failures =
      if (newSummary host messages summarize state window thresholdTokens).isSome then 0
      else state.failures + 1 := by
  unfold newSummary
  rw [if_pos attempted]
  cases isSummary : summaryOf host summarize (splitHeadMiddleTail messages).2.1 with
  | none =>
    rw [autocompact_failed attempted isSummary]
    rfl
  | some summary =>
    obtain ⟨info, compacted⟩ := autocompact_succeeded attempted isSummary
    rw [compacted]
    rfl

theorem attempts_closed (tripped : maxConsecutiveAutocompactFailures ≤ state.failures) :
    attempts messages state window thresholdTokens = false := by
  unfold attempts
  rw [decide_eq_false (Nat.not_lt.2 tripped), Bool.and_false, Bool.false_and]

end Compaction

/-! ### Runs -/

structure Conversation where
  messages : List Message
  tracking : AutoCompactTrackingState

inductive ConversationCall where
  | append (messages : List Message)
  | compact (summarize : Summarizer) (window : Int) (thresholdTokens : Option Int)

inductive ConversationStep (host : CompactionHost) :
    Conversation → ConversationCall → Conversation → Prop
  | appended (conversation : Conversation) (messages : List Message) :
      ConversationStep host conversation (.append messages)
        { conversation with messages := conversation.messages ++ messages }
  | compacted (conversation : Conversation) (summarize : Summarizer) (window : Int)
      (thresholdTokens : Option Int) :
      ConversationStep host conversation (.compact summarize window thresholdTokens)
        { messages := (autocompactMessages host conversation.messages summarize
            conversation.tracking window thresholdTokens).1
          tracking := (autocompactMessages host conversation.messages summarize
            conversation.tracking window thresholdTokens).2.2 }

/-- Everything that was ever appended, after the messages at the start. -/
def appended (trace : List (Move Conversation ConversationCall)) : List Message :=
  trace.flatMap (fun move =>
    match move.label with
    | .append messages => messages
    | .compact .. => [])

/-- Whether the attempts of a run gave a summary, in their order. -/
def outcomes (host : CompactionHost) (trace : List (Move Conversation ConversationCall)) :
    List Bool :=
  trace.filterMap (fun move =>
    match move.label with
    | .append _ => none
    | .compact summarize window thresholdTokens =>
      if attempts move.before.messages move.before.tracking window thresholdTokens then
        some (newSummary host move.before.messages summarize move.before.tracking window
          thresholdTokens).isSome
      else none)

/-- How many attempts at the end of a list of outcomes failed. -/
def failedLast (outcomes : List Bool) : Nat :=
  (outcomes.reverse.takeWhile (fun succeeded => !succeeded)).length

def OneSummary (history messages : List Message) : Prop :=
  messages = history ∨ ∃ head dropped late summary,
    history = head ++ (dropped ++ late) ∧ messages = head ++ summaryMessage summary :: late ∧
      (∀ message ∈ head, isSystem message = true) ∧ protectedTailMessages ≤ late.length

section Runs

variable {host : CompactionHost} {initial last : Conversation}
  {trace : List (Move Conversation ConversationCall)} {history messages : List Message}

theorem OneSummary.append (one : OneSummary history messages) (more : List Message) :
    OneSummary (history ++ more) (messages ++ more) := by
  rcases one with same | ⟨head, dropped, late, summary, isHistory, isMessages, systems, longEnough⟩
  · rw [same]
    exact Or.inl rfl
  · refine Or.inr ⟨head, dropped, late ++ more, summary, ?_, ?_, systems, ?_⟩
    · rw [isHistory, List.append_assoc, List.append_assoc]
    · rw [isMessages, List.append_assoc, List.cons_append]
    · rw [List.length_append]
      exact Nat.le_add_right_of_le longEnough

theorem OneSummary.compact (one : OneSummary history messages) (summarize : Summarizer)
    (state : AutoCompactTrackingState) (window : Int) (thresholdTokens : Option Int) :
    OneSummary history
      (autocompactMessages host messages summarize state window thresholdTokens).1 := by
  cases isSummary : newSummary host messages summarize state window thresholdTokens with
  | none =>
    rw [autocompact_unchanged isSummary]
    exact one
  | some summary =>
    obtain ⟨rebuilt, isMiddle⟩ := autocompact_rebuilt isSummary
    have whole := split_append messages
    rw [split_head, (split_tail messages isMiddle).1] at whole
    have longEnough := (split_tail messages isMiddle).2
    rw [rebuilt]
    have systems : ∀ message ∈ messages.takeWhile isSystem, isSystem message = true :=
      fun message member => List.mem_takeWhile_imp member
    rcases one with same | ⟨head, dropped, late, before, isHistory, isMessages, wereSystems, isLong⟩
    · refine Or.inr ⟨_, (splitHeadMiddleTail messages).2.1, _, summary, ?_, rfl, systems, ?_⟩
      · rw [whole, same]
      · rw [List.length_drop]
        omega
    · obtain ⟨_, notSystem, _⟩ := summaryMessage_roles before
      have isHead : messages.takeWhile isSystem = head := by
        rw [isMessages, List.takeWhile_append_of_pos wereSystems, List.takeWhile_cons_of_neg
          (by rw [Bool.not_eq_true]; exact notSystem), List.append_nil]
      have isTail : messages.drop (messages.length - protectedTailMessages) =
          late.drop (late.length - protectedTailMessages) := by
        have place : messages.length - protectedTailMessages =
            (head ++ [summaryMessage before]).length + (late.length - protectedTailMessages) := by
          rw [isMessages, List.length_append, List.length_append, List.length_cons,
            List.length_singleton]
          omega
        have regrouped : messages = (head ++ [summaryMessage before]) ++ late := by
          rw [isMessages, List.append_assoc]
          rfl
        rw [place, regrouped, List.drop_length_add_append]
      rw [isHead, isTail]
      refine Or.inr ⟨head, dropped ++ late.take (late.length - protectedTailMessages), _, summary,
        ?_, rfl, wereSystems, ?_⟩
      · rw [isHistory, List.append_assoc dropped, List.take_append_drop]
      · rw [List.length_drop]
        omega

theorem run_oneSummary (run : Run (ConversationStep host) initial trace last)
    (one : OneSummary history initial.messages) :
    OneSummary (history ++ appended trace) last.messages := by
  induction run generalizing history with
  | nil state =>
    change OneSummary (history ++ []) _
    rw [List.append_nil]
    exact one
  | @cons first middle last label rest step _ ih =>
    cases step with
    | appended messages =>
      change OneSummary (history ++ (messages ++ appended rest)) _
      rw [← List.append_assoc]
      exact ih (one.append messages)
    | compacted summarize window thresholdTokens =>
      exact ih (one.compact summarize first.tracking window thresholdTokens)

theorem outcomes_append (early late : List (Move Conversation ConversationCall)) :
    outcomes host (early ++ late) = outcomes host early ++ outcomes host late :=
  List.filterMap_append

theorem failedLast_concat (first : List Bool) (succeeded : Bool) :
    failedLast (first ++ [succeeded]) = if succeeded then 0 else failedLast first + 1 := by
  unfold failedLast
  rw [List.reverse_append, List.reverse_singleton, List.singleton_append]
  cases succeeded with
  | true => rfl
  | false => rfl

section Attempt

variable {before after : Conversation} {summarize : Summarizer} {window : Int}
  {thresholdTokens : Option Int}

theorem outcomes_skipped
    (skipped : attempts before.messages before.tracking window thresholdTokens = false)
    (rest : List (Move Conversation ConversationCall)) :
    outcomes host (⟨before, .compact summarize window thresholdTokens, after⟩ :: rest) =
      outcomes host rest := by
  unfold outcomes
  rw [List.filterMap_cons_none]
  dsimp only
  rw [skipped, if_neg Bool.false_ne_true]

theorem outcomes_attempted
    (attempted : attempts before.messages before.tracking window thresholdTokens = true)
    (rest : List (Move Conversation ConversationCall)) :
    outcomes host (⟨before, .compact summarize window thresholdTokens, after⟩ :: rest) =
      (newSummary host before.messages summarize before.tracking window thresholdTokens).isSome ::
        outcomes host rest := by
  unfold outcomes
  rw [List.filterMap_cons_some]
  dsimp only
  rw [attempted, if_pos rfl]

end Attempt

theorem run_failedLast (run : Run (ConversationStep host) initial trace last) :
    failedLast (outcomes host trace) ≤ last.tracking.failures := by
  induction trace using List.reverseRecOn generalizing last with
  | nil => exact Nat.zero_le _
  | append_singleton early move ih =>
    obtain ⟨start, step, finish⟩ := run.around
    cases finish
    have counted := ih start
    rw [outcomes_append]
    obtain ⟨before, label, after⟩ := move
    change ConversationStep host before label after at step
    cases step with
    | appended messages =>
      change failedLast (outcomes host early ++ []) ≤ _
      rw [List.append_nil]
      exact counted
    | compacted summarize window thresholdTokens =>
      cases attempted : attempts before.messages before.tracking window thresholdTokens with
      | false =>
        rw [outcomes_skipped attempted]
        change failedLast (outcomes host early ++ []) ≤ AutoCompactTrackingState.failures
          (autocompactMessages host before.messages summarize before.tracking window
            thresholdTokens).2.2
        rw [List.append_nil, tracking_skipped attempted]
        exact counted
      | true =>
        rw [outcomes_attempted attempted]
        change failedLast (outcomes host early ++ [_]) ≤ AutoCompactTrackingState.failures
          (autocompactMessages host before.messages summarize before.tracking window
            thresholdTokens).2.2
        rw [failedLast_concat, tracking_attempted attempted]
        split
        · exact Nat.le_refl _
        · exact Nat.succ_le_succ counted

theorem run_tripped (run : Run (ConversationStep host) initial trace last)
    (tripped : maxConsecutiveAutocompactFailures ≤ initial.tracking.failures) :
    outcomes host trace = [] := by
  induction run with
  | nil state => rfl
  | @cons first middle last label rest step _ ih =>
    cases step with
    | appended messages => exact ih tripped
    | compacted summarize window thresholdTokens =>
      have skipped : attempts first.messages first.tracking window thresholdTokens = false :=
        attempts_closed tripped
      rw [outcomes_skipped skipped]
      refine ih ?_
      change maxConsecutiveAutocompactFailures ≤ AutoCompactTrackingState.failures
        (autocompactMessages host first.messages summarize first.tracking window
          thresholdTokens).2.2
      rw [tracking_skipped skipped]
      exact tripped

/-- What a run of compactions is to keep. -/
structure SoundlyCompacted (host : CompactionHost) (initial : Conversation)
    (trace : List (Move Conversation ConversationCall)) (last : Conversation) : Prop where
  wellFormed : ∀ move ∈ trace, ∀ summarize window thresholdTokens,
    move.label = .compact summarize window thresholdTokens →
    WellFormed move.before.messages → WellFormed move.after.messages
  protects : ∀ move ∈ trace, ∀ summarize window thresholdTokens,
    move.label = .compact summarize window thresholdTokens →
    move.before.messages.takeWhile isSystem <+: move.after.messages ∧
      move.before.messages.drop (move.before.messages.length - protectedTailMessages) <:+
        move.after.messages
  unchanged : ∀ move ∈ trace, ∀ summarize window thresholdTokens,
    move.label = .compact summarize window thresholdTokens →
    newSummary host move.before.messages summarize move.before.tracking window thresholdTokens =
      none → move.after.messages = move.before.messages
  oneSummary : OneSummary (initial.messages ++ appended trace) last.messages
  breaker : ∀ early late, trace = early ++ late →
    maxConsecutiveAutocompactFailures ≤ failedLast (outcomes host early) → outcomes host late = []

theorem autocompact_protects (messages : List Message) (summarize : Summarizer)
    (state : AutoCompactTrackingState) (window : Int) (thresholdTokens : Option Int) :
    messages.takeWhile isSystem <+:
        (autocompactMessages host messages summarize state window thresholdTokens).1 ∧
      messages.drop (messages.length - protectedTailMessages) <:+
        (autocompactMessages host messages summarize state window thresholdTokens).1 := by
  cases isSummary : newSummary host messages summarize state window thresholdTokens with
  | none =>
    rw [autocompact_unchanged isSummary]
    exact ⟨List.takeWhile_prefix _, List.drop_suffix _ _⟩
  | some summary =>
    rw [(autocompact_rebuilt isSummary).1]
    refine ⟨List.prefix_append _ _, ?_⟩
    exact (List.suffix_cons _ _).trans (List.suffix_append _ _)

/-- Along every run of appended messages and compactions, the conversation is
kept as it should be exactly when no compaction cuts a well-formed conversation
right before a message of a tool. -/
theorem compacted_soundly_iff (run : Run (ConversationStep host) initial trace last) :
    SoundlyCompacted host initial trace last ↔
      ∀ move ∈ trace, ∀ summarize window thresholdTokens,
        move.label = .compact summarize window thresholdTokens →
        WellFormed move.before.messages →
        ¬ CutsToolGroup host move.before.messages summarize move.before.tracking window
          thresholdTokens := by
  have compacts : ∀ move ∈ trace, ∀ summarize window thresholdTokens,
      move.label = .compact summarize window thresholdTokens →
      move.after.messages = (autocompactMessages host move.before.messages summarize
        move.before.tracking window thresholdTokens).1 := by
    intro move member summarize window thresholdTokens isCompact
    have step := run.step_of_mem member
    obtain ⟨before, label, after⟩ := move
    change ConversationStep host before label after at step
    cases isCompact
    cases step with
    | compacted => rfl
  constructor
  · intro sound move member summarize window thresholdTokens isCompact wellFormed
    have kept := sound.wellFormed move member summarize window thresholdTokens isCompact wellFormed
    rw [compacts move member summarize window thresholdTokens isCompact] at kept
    exact (autocompact_wellFormed_iff wellFormed).1 kept
  · intro spares
    refine ⟨?_, ?_, ?_, run_oneSummary run (Or.inl rfl), ?_⟩
    · intro move member summarize window thresholdTokens isCompact wellFormed
      rw [compacts move member summarize window thresholdTokens isCompact]
      exact (autocompact_wellFormed_iff wellFormed).2
        (spares move member summarize window thresholdTokens isCompact wellFormed)
    · intro move member summarize window thresholdTokens isCompact
      rw [compacts move member summarize window thresholdTokens isCompact]
      exact autocompact_protects _ summarize _ window thresholdTokens
    · intro move member summarize window thresholdTokens isCompact noSummary
      rw [compacts move member summarize window thresholdTokens isCompact]
      exact autocompact_unchanged noSummary
    · intro early late split failed
      subst split
      obtain ⟨middle, start, finish⟩ := run.split
      exact run_tripped finish (failed.trans (run_failedLast start))

end Runs

def plainText : CompactionHost where
  str _ := ""
  strip text := text

def freshTracking : AutoCompactTrackingState where
  compacted := false
  turnCounter := 0
  turnId := ""
  consecutiveFailures := some 0

def textMessage (role content : String) : Message :=
  [("role", .str role), ("content", .str content)]

/-- A call of a tool with its answer, and five messages after it. -/
def queryConversation : Conversation where
  messages :=
    [textMessage "system" "You are Anna.",
      textMessage "user" "How much was spent?",
      [("role", .str "assistant"), ("content", .null),
        ("tool_calls", .arr [.obj [("id", .str "call_1"), ("type", .str "function"),
          ("function", .obj [("name", .str "erp.query"), ("arguments", .str "{}")])]])],
      [("role", .str "tool"), ("tool_call_id", .str "call_1"), ("content", .str "1200")],
      textMessage "assistant" "1200 were spent.",
      textMessage "user" "And in May?",
      textMessage "assistant" "300 of them.",
      textMessage "user" "And in June?",
      textMessage "assistant" "200."]
  tracking := freshTracking

theorem queryConversation_wellFormed : WellFormed queryConversation.messages :=
  ⟨by decide, by decide⟩

def brief : Summarizer := fun _ => .ok (some "Spending was asked for.")

/-- With one message more, the cut is behind the answer of the tool. -/
theorem longer_query_compacted_soundly :
    ∃ trace last, Run (ConversationStep plainText) queryConversation trace last ∧
      trace.map Move.label = [.append [textMessage "user" "Thanks."], .compact brief 0 (some 0)] ∧
      SoundlyCompacted plainText queryConversation trace last := by
  have run : Run (ConversationStep plainText) queryConversation _ _ :=
    .cons (.appended queryConversation [textMessage "user" "Thanks."])
      (.single (.compacted _ brief 0 (some 0)))
  refine ⟨_, _, run, rfl, (compacted_soundly_iff run).2 ?_⟩
  intro move member summarize window thresholdTokens isCompact _ cuts
  rcases List.mem_cons.1 member with rfl | isLast
  · cases isCompact
  · rw [List.mem_singleton.1 isLast] at cuts
    obtain ⟨_, message, isFirst, isTool⟩ := cuts
    cases isFirst
    revert isTool
    decide

theorem spares_of_sound {host : CompactionHost} {conversation : Conversation}
    (summarize : Summarizer) (window : Int) (thresholdTokens : Option Int)
    (sound : ∀ trace last, Run (ConversationStep host) conversation trace last →
      SoundlyCompacted host conversation trace last)
    (wellFormed : WellFormed conversation.messages) :
    ¬ CutsToolGroup host conversation.messages summarize conversation.tracking window
      thresholdTokens := by
  have kept := sound _ _ (.single (.compacted conversation summarize window thresholdTokens))
  exact (autocompact_wellFormed_iff wellFormed).1
    (kept.wellFormed _ List.mem_cons_self summarize window thresholdTokens rfl wellFormed)

/-- A compaction separates the answer of a tool from its call. -/
theorem compaction_cuts_tool_group :
    ¬ ∀ (host : CompactionHost) (initial last : Conversation)
      (trace : List (Move Conversation ConversationCall)), WellFormed initial.messages →
      Run (ConversationStep host) initial trace last →
      SoundlyCompacted host initial trace last := by
  intro claimed
  have spares := spares_of_sound brief 0 (some 0)
    (fun trace last run => claimed plainText queryConversation last trace
      queryConversation_wellFormed run) queryConversation_wellFormed
  refine spares ⟨?_, _, rfl, by decide⟩
  decide +kernel

end AnnaAgent.Runtime
