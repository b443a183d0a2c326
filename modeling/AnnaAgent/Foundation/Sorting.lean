/-
Sorting with a comparison, and with the place in the list where it decides nothing.

A comparison may call different members equal; then their order in the result is their
order in the list.  Where it calls no two different members equal, the result does not
depend on the order of the list.
-/

import Mathlib.Data.List.Sort

namespace AnnaAgent.Foundation

variable {α β : Type}

section Comparisons

variable (cmp : β → β → Ordering) [Std.TransCmp cmp]

/-- Members are compared by what a function takes from them. -/
instance transCmp_comap (f : α → β) : Std.TransCmp (fun left right => cmp (f left) (f right)) where
  eq_swap := by
    intro left right
    exact (Std.OrientedCmp.eq_swap : cmp (f left) (f right) = (cmp (f right) (f left)).swap)
  isLE_trans := by
    intro first second third early late
    exact (Std.TransCmp.isLE_trans early late : (cmp (f first) (f third)).isLE = true)

theorem isLE_iff_ne_gt {ordering : Ordering} : ordering.isLE = true ↔ ordering ≠ .gt := by
  cases ordering <;> decide

theorem total_of_transCmp (left right : β) : cmp left right ≠ .gt ∨ cmp right left ≠ .gt := by
  have swapped : cmp right left = (cmp left right).swap := Std.OrientedCmp.eq_swap
  rw [swapped]
  cases cmp left right <;> decide

theorem trans_of_transCmp {first second third : β} (early : cmp first second ≠ .gt)
    (late : cmp second third ≠ .gt) : cmp first third ≠ .gt := by
  rw [← isLE_iff_ne_gt] at early late ⊢
  exact Std.TransCmp.isLE_trans early late

end Comparisons

theorem orderedInsert_congr {r r' : α → α → Prop} [DecidableRel r] [DecidableRel r'] {item : α}
    {items : List α} (agree : ∀ other ∈ items, r item other ↔ r' item other) :
    items.orderedInsert r item = items.orderedInsert r' item := by
  induction items with
  | nil => rfl
  | cons other rest ih =>
    unfold List.orderedInsert
    by_cases before : r item other
    · rw [if_pos before, if_pos ((agree other List.mem_cons_self).mp before)]
    · rw [if_neg before,
        if_neg (fun held => before ((agree other List.mem_cons_self).mpr held)),
        ih (fun last member => agree last (List.mem_cons_of_mem _ member))]

theorem insertionSort_congr {r r' : α → α → Prop} [DecidableRel r] [DecidableRel r']
    {items : List α} (agree : ∀ left ∈ items, ∀ right ∈ items, r left right ↔ r' left right) :
    items.insertionSort r = items.insertionSort r' := by
  induction items with
  | nil => rfl
  | cons item rest ih =>
    have sorted := ih (fun left isLeft right isRight =>
      agree left (List.mem_cons_of_mem _ isLeft) right (List.mem_cons_of_mem _ isRight))
    rw [List.insertionSort_cons, List.insertionSort_cons, sorted]
    apply orderedInsert_congr
    intro other member
    have isMember : other ∈ rest := (List.mem_insertionSort r').mp member
    exact agree item List.mem_cons_self other (List.mem_cons_of_mem _ isMember)

theorem pairwise_insertionSort_of_transCmp (cmp : α → α → Ordering) [Std.TransCmp cmp]
    (items : List α) :
    (items.insertionSort (fun left right => cmp left right ≠ .gt)).Pairwise
      (fun left right => cmp left right ≠ .gt) := by
  have : Std.Total (fun left right => cmp left right ≠ .gt) := ⟨total_of_transCmp cmp⟩
  have : IsTrans α (fun left right => cmp left right ≠ .gt) := ⟨fun _ _ _ => trans_of_transCmp cmp⟩
  exact List.pairwise_insertionSort _ items

section Places

variable (cmp : α → α → Ordering)

/-- The members with their places, the place deciding last. -/
def comparePlaced (left right : α × Nat) : Ordering :=
  (cmp left.1 right.1).then (compare left.2 right.2)

def sortPlaced (items : List α) : List α :=
  (items.zipIdx.insertionSort (fun left right => comparePlaced cmp left right ≠ .gt)).map Prod.fst

instance transCmp_comparePlaced [Std.TransCmp cmp] : Std.TransCmp (comparePlaced cmp) := by
  have both : Std.TransCmp (compareLex (fun left right : α × Nat => cmp left.1 right.1)
      (fun left right : α × Nat => compare left.2 right.2)) := inferInstance
  exact both

theorem sortPlaced_perm (items : List α) : (sortPlaced cmp items).Perm items := by
  have sorted := (List.perm_insertionSort
    (fun left right => comparePlaced cmp left right ≠ .gt) items.zipIdx).map Prod.fst
  rw [List.zipIdx_map_fst] at sorted
  exact sorted

theorem mem_sortPlaced {items : List α} {item : α} : item ∈ sortPlaced cmp items ↔ item ∈ items :=
  (sortPlaced_perm cmp items).mem_iff

theorem ne_gt_of_placed {left right : α × Nat} (placed : comparePlaced cmp left right ≠ .gt) :
    cmp left.1 right.1 ≠ .gt := by
  intro isGreater
  apply placed
  unfold comparePlaced
  rw [isGreater]
  rfl

theorem sortPlaced_pairwise [Std.TransCmp cmp] (items : List α) :
    (sortPlaced cmp items).Pairwise (fun left right => cmp left right ≠ .gt) := by
  unfold sortPlaced
  rw [List.pairwise_map]
  exact (pairwise_insertionSort_of_transCmp (comparePlaced cmp) items.zipIdx).imp
    (ne_gt_of_placed cmp)

/-- Without ties between different members, the order of the list does not matter. -/
theorem sortPlaced_eq_of_perm [Std.TransCmp cmp] {items items' : List α}
    (perm : items.Perm items')
    (untied : ∀ left ∈ items, ∀ right ∈ items, cmp left right = .eq → left = right) :
    sortPlaced cmp items = sortPlaced cmp items' := by
  have isPerm := (sortPlaced_perm cmp items).trans (perm.trans (sortPlaced_perm cmp items').symm)
  refine isPerm.eq_of_pairwise ?_ (sortPlaced_pairwise cmp items) (sortPlaced_pairwise cmp items')
  intro left right isLeft isRight before after
  apply untied left ((mem_sortPlaced cmp).mp isLeft) right
    (perm.mem_iff.mpr ((mem_sortPlaced cmp).mp isRight))
  have swapped : cmp right left = (cmp left right).swap := Std.OrientedCmp.eq_swap
  rw [swapped] at after
  revert before after
  cases cmp left right <;> decide

theorem sortPlaced_congr {cmp cmp' : α → α → Ordering} {items : List α}
    (agree : ∀ left ∈ items, ∀ right ∈ items, cmp left right = cmp' left right) :
    sortPlaced cmp items = sortPlaced cmp' items := by
  unfold sortPlaced
  congr 1
  apply insertionSort_congr
  intro left isLeft right isRight
  unfold comparePlaced
  rw [agree left.1 (List.fst_mem_of_mem_zipIdx isLeft) right.1 (List.fst_mem_of_mem_zipIdx isRight)]

end Places

section Groups

variable {κ : Type} [DecidableEq κ] (key : α → κ) {items items' : List α}

open Classical in
theorem count_group (items : List α) (item : α) :
    (items.filter (fun other => decide (key other = key item))).count item = items.count item :=
  List.count_filter (decide_eq_true rfl)

theorem perm_of_groups
    (same : ∀ wanted, (items.filter (fun item => decide (key item = wanted))).Perm
      (items'.filter (fun item => decide (key item = wanted)))) : items.Perm items' := by
  classical
  rw [List.perm_iff_count]
  intro item
  rw [← count_group key items, ← count_group key items']
  exact (same (key item)).count_eq item

theorem nodup_of_groups
    (distinct : ∀ wanted, (items.filter (fun item => decide (key item = wanted))).Nodup) :
    items.Nodup := by
  classical
  rw [List.nodup_iff_count_le_one]
  intro item
  rw [← count_group key items]
  exact List.nodup_iff_count_le_one.mp (distinct (key item)) item

end Groups

end AnnaAgent.Foundation
