/-
Head of line order.

Items stand in a queue; some are taken for good and some are held for a while.
Only the first item that is not taken may be held or become taken, so the taken
items are a prefix of the queue.
-/

import Mathlib.Data.List.Basic

namespace AnnaAgent.Foundation

variable {α : Type} {taken held : α → Prop} {items : List α}

def HeadOfLine (taken held : α → Prop) (items : List α) : Prop :=
  items.Pairwise (fun early late => ¬ taken early → ¬ taken late ∧ ¬ held late)

/-- What holds of every pair in order holds of two members that a strictly
increasing number orders. -/
theorem pairwise_of_lt {R : α → α → Prop} {number : α → Nat} (pairs : items.Pairwise R)
    (ordered : items.Pairwise (fun early late => number early < number late))
    {early late : α} (earlyMember : early ∈ items) (lateMember : late ∈ items)
    (before : number early < number late) : R early late := by
  induction items with
  | nil => exact absurd earlyMember List.not_mem_nil
  | cons head tail ih =>
    obtain ⟨headPairs, tailPairs⟩ := List.pairwise_cons.1 pairs
    obtain ⟨headFirst, tailOrdered⟩ := List.pairwise_cons.1 ordered
    cases List.mem_cons.1 lateMember with
    | inl lateHead =>
      rw [lateHead] at before
      cases List.mem_cons.1 earlyMember with
      | inl earlyHead =>
        rw [earlyHead] at before
        exact absurd before (Nat.lt_irrefl _)
      | inr earlyTail =>
        have after := headFirst early earlyTail
        omega
    | inr lateTail =>
      cases List.mem_cons.1 earlyMember with
      | inl earlyHead =>
        rw [earlyHead]
        exact headPairs late lateTail
      | inr earlyTail => exact ih tailPairs tailOrdered earlyTail lateTail

namespace HeadOfLine

theorem nil : HeadOfLine taken held [] := List.Pairwise.nil

theorem push (line : HeadOfLine taken held items) {item : α} (notTaken : ¬ taken item)
    (notHeld : ¬ held item) : HeadOfLine taken held (items ++ [item]) := by
  refine List.pairwise_append.2 ⟨line, List.pairwise_singleton _ _, ?_⟩
  intro early _ late member _
  rw [List.mem_singleton.1 member]
  exact ⟨notTaken, notHeld⟩

/-- A change that spares the taken items and whatever stands behind one that is
not taken. -/
theorem map (line : HeadOfLine taken held items) {change : α → α}
    (spares : ∀ item, taken item → change item = item)
    (first : items.Pairwise (fun early late => change late ≠ late → taken early)) :
    HeadOfLine taken held (items.map change) := by
  refine List.pairwise_map.2 ((List.Pairwise.and line first).imp ?_)
  rintro early late ⟨behind, onlyFirst⟩ open'
  have earlyOpen : ¬ taken early := by
    intro earlyTaken
    apply open'
    rw [spares early earlyTaken]
    exact earlyTaken
  have unchanged : change late = late := by
    by_contra changed
    exact earlyOpen (onlyFirst changed)
  rw [unchanged]
  exact behind earlyOpen

theorem taken_before (line : HeadOfLine taken held items) {number : α → Nat}
    (ordered : items.Pairwise (fun early late => number early < number late))
    {early late : α} (earlyMember : early ∈ items) (lateMember : late ∈ items)
    (before : number early < number late) (reached : taken late ∨ held late) : taken early := by
  by_contra earlyOpen
  obtain ⟨lateOpen, lateFree⟩ := pairwise_of_lt line ordered earlyMember lateMember before earlyOpen
  exact reached.elim lateOpen lateFree

end HeadOfLine

end AnnaAgent.Foundation
