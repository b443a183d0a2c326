/-
Reaching a goal by steps that lower a measure.

A finite collection over an acyclic relation has a least member.  Where a
pending state always has a step that lowers the measure, a run to the goal is
built one step at a time.
-/

import AnnaAgent.Foundation.Run
import Mathlib

namespace AnnaAgent.Foundation

section Acyclic

variable {α β : Type} {R : α → α → Prop}

def Acyclic (R : α → α → Prop) : Prop :=
  ∀ item, ¬ Relation.TransGen R item item

theorem Acyclic.mono {R' : α → α → Prop} (acyclic : Acyclic R)
    (within : ∀ item other, R' item other → R item other) : Acyclic R' :=
  fun item loop => acyclic item (Relation.TransGen.mono within item item loop)

theorem acyclic_of_rank (rank : α → Nat) (lowers : ∀ {item other}, R item other →
    rank other < rank item) : Acyclic R := by
  have descends : ∀ {item other}, Relation.TransGen R item other → rank other < rank item := by
    intro item other path
    induction path with
    | single edge => exact lowers edge
    | tail _ edge ih => exact (lowers edge).trans ih
  intro item cycle
  exact Nat.lt_irrefl _ (descends cycle)

theorem Acyclic.exists_least (acyclic : Acyclic R) {items : List α} (nonempty : items ≠ []) :
    ∃ item ∈ items, ∀ other ∈ items, ¬ Relation.TransGen R item other := by
  induction items with
  | nil => exact absurd rfl nonempty
  | cons item rest ih =>
    by_cases isLast : rest = []
    · subst isLast
      refine ⟨item, List.mem_singleton.2 rfl, ?_⟩
      intro other member
      rw [List.mem_singleton.1 member]
      exact acyclic item
    · obtain ⟨least, member, isLeast⟩ := ih isLast
      by_cases reaches : Relation.TransGen R least item
      · refine ⟨item, List.mem_cons_self, ?_⟩
        intro other isOther further
        rcases List.mem_cons.1 isOther with same | later
        · rw [same] at further
          exact acyclic item further
        · exact isLeast other later (reaches.trans further)
      · refine ⟨least, List.mem_cons_of_mem item member, ?_⟩
        intro other isOther further
        rcases List.mem_cons.1 isOther with same | later
        · rw [same] at further
          exact reaches further
        · exact isLeast other later further

/-- An edge whose end does not lead back to its start closes no cycle. -/
theorem Acyclic.insert {R' : α → α → Prop} {first second : α} (acyclic : Acyclic R)
    (edges : ∀ {item other}, R' item other → R item other ∨ item = first ∧ other = second)
    (unreached : ¬ Relation.ReflTransGen R second first) : Acyclic R' := by
  have routes : ∀ {item other}, Relation.TransGen R' item other → Relation.TransGen R item other ∨
      Relation.ReflTransGen R item first ∧ Relation.ReflTransGen R second other := by
    intro item other path
    induction path with
    | single edge =>
      rcases edges edge with old | ⟨isFirst, isSecond⟩
      · exact Or.inl (.single old)
      · rw [isFirst, isSecond]
        exact Or.inr ⟨.refl, .refl⟩
    | tail _ edge ih =>
      rcases edges edge with old | ⟨isFirst, isSecond⟩
      · rcases ih with within | ⟨before, after⟩
        · exact Or.inl (within.tail old)
        · exact Or.inr ⟨before, after.tail old⟩
      · rw [isFirst] at ih
        rcases ih with within | ⟨_, after⟩
        · rw [isSecond]
          exact Or.inr ⟨within.to_reflTransGen, .refl⟩
        · exact absurd after unreached
  intro item loop
  rcases routes loop with within | ⟨before, after⟩
  · exact acyclic item within
  · exact unreached (after.trans before)

/-- Where the lower items lead to lower ones only, a cycle stays on one side. -/
theorem Acyclic.layered {R' S : α → α → Prop} (lower : α → Prop) (acyclic : Acyclic R)
    (acyclicAbove : Acyclic S)
    (edges : ∀ {item other}, R' item other → lower item ∧ lower other ∧ R item other ∨
      ¬ lower item ∧ (lower other ∨ S item other)) : Acyclic R' := by
  have routes : ∀ {item other}, Relation.TransGen R' item other →
      (lower item → lower other ∧ Relation.TransGen R item other) ∧
      (¬ lower other → ¬ lower item ∧ Relation.TransGen S item other) := by
    intro item other path
    induction path with
    | single edge =>
      rcases edges edge with ⟨below, stays, old⟩ | ⟨above, leads⟩
      · exact ⟨fun _ => ⟨stays, .single old⟩, fun isAbove => absurd stays isAbove⟩
      · refine ⟨fun below => absurd below above, fun isAbove => ⟨above, .single ?_⟩⟩
        exact leads.resolve_left isAbove
    | tail _ edge ih =>
      rcases edges edge with ⟨below, stays, old⟩ | ⟨above, leads⟩
      · refine ⟨fun isBelow => ⟨stays, (ih.1 isBelow).2.tail old⟩, fun isAbove => ?_⟩
        exact absurd stays isAbove
      · refine ⟨fun isBelow => absurd (ih.1 isBelow).1 above, fun isAbove => ?_⟩
        exact ⟨(ih.2 above).1, (ih.2 above).2.tail (leads.resolve_left isAbove)⟩
  intro item loop
  by_cases below : lower item
  · exact acyclic item ((routes loop).1 below).2
  · exact acyclicAbove item ((routes loop).2 below).2

section Named

variable {S : β → β → Prop} (name : α → β → Prop)

/-- A path of a relation that is simulated along a naming is a path of the
simulating one. -/
theorem transGen_of_named
    (unique : ∀ ⦃item other named⦄, name item named → name other named → item = other)
    (simulates : ∀ ⦃named named'⦄, S named named' →
      ∃ item item', name item named ∧ name item' named' ∧ R item item') {named named' : β}
    (path : Relation.TransGen S named named') :
    ∃ item item', name item named ∧ name item' named' ∧ Relation.TransGen R item item' := by
  induction path with
  | single edge =>
    obtain ⟨item, item', isItem, isItem', related⟩ := simulates edge
    exact ⟨item, item', isItem, isItem', .single related⟩
  | tail _ edge ih =>
    obtain ⟨item, middle, isItem, isMiddle, reached⟩ := ih
    obtain ⟨middle', item', isMiddle', isItem', related⟩ := simulates edge
    rw [unique isMiddle' isMiddle] at related
    exact ⟨item, item', isItem, isItem', reached.tail related⟩

theorem Acyclic.of_named (acyclic : Acyclic R)
    (unique : ∀ ⦃item other named⦄, name item named → name other named → item = other)
    (simulates : ∀ ⦃named named'⦄, S named named' →
      ∃ item item', name item named ∧ name item' named' ∧ R item item') : Acyclic S := by
  intro named loop
  obtain ⟨item, item', isItem, isItem', cycle⟩ := transGen_of_named name unique simulates loop
  rw [unique isItem' isItem] at cycle
  exact acyclic item cycle

end Named

end Acyclic

section Measure

variable {α : Type} (measure : α → Nat)

theorem sum_le_of_forall₂ {items items' : List α}
    (lowered : List.Forall₂ (fun item item' => measure item' ≤ measure item) items items') :
    (items'.map measure).sum ≤ (items.map measure).sum := by
  induction lowered with
  | nil => exact Nat.le_refl _
  | cons lower _ ih =>
    rw [List.map_cons, List.map_cons, List.sum_cons, List.sum_cons]
    exact Nat.add_le_add lower ih

theorem sum_lt_of_forall₂ (moved : α → Prop) {items items' : List α}
    (lowered : List.Forall₂ (fun item item' => measure item' ≤ measure item ∧
      (moved item → measure item' < measure item)) items items')
    (some_moved : ∃ item ∈ items, moved item) :
    (items'.map measure).sum < (items.map measure).sum := by
  induction lowered with
  | nil =>
    obtain ⟨_, member, _⟩ := some_moved
    cases member
  | @cons item item' rest rest' lower later ih =>
    rw [List.map_cons, List.map_cons, List.sum_cons, List.sum_cons]
    obtain ⟨other, member, isMoved⟩ := some_moved
    rcases List.mem_cons.1 member with same | further
    · rw [same] at isMoved
      exact Nat.add_lt_add_of_lt_of_le (lower.2 isMoved)
        (sum_le_of_forall₂ measure (later.imp (fun _ _ each => each.1)))
    · exact Nat.add_lt_add_of_le_of_lt lower.1 (ih ⟨other, further, isMoved⟩)

end Measure

theorem run_of_descent {State Label : Type} {step : State → Label → State → Prop}
    (Inv : State → Prop) {Goal : State → Prop} (measure : State → Nat)
    (descends : ∀ state, Inv state → ¬ Goal state →
      ∃ label next, step state label next ∧ Inv next ∧ measure next < measure state)
    {state : State} (held : Inv state) : ∃ trace last, Run step state trace last ∧ Goal last := by
  induction bound : measure state using Nat.strong_induction_on generalizing state with
  | _ height ih =>
    by_cases isGoal : Goal state
    · exact ⟨[], state, .nil state, isGoal⟩
    · obtain ⟨label, next, taken, kept, lower⟩ := descends state held isGoal
      rw [bound] at lower
      obtain ⟨trace, last, run, reached⟩ := ih (measure next) lower kept rfl
      exact ⟨_, last, .cons taken run, reached⟩

end AnnaAgent.Foundation
