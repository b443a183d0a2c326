/-
Relational tables with a primary key.

A table is the list of its rows in insertion order together with the fact that
no two rows share a key.  Statements of the form `SELECT ... WHERE`,
`UPDATE ... WHERE` and `INSERT` become operations on that list; an insertion
is refused when the key is taken, and an update may not touch the key.
-/

import Mathlib.Data.List.Nodup
import Mathlib.Data.List.Basic

namespace AnnaAgent.Foundation

/-- Rows in insertion order, no two with the same key. -/
structure Table (κ ρ : Type) (key : ρ → κ) where
  rows : List ρ
  keysNodup : (rows.map key).Nodup

namespace Table

variable {κ ρ : Type} {key : ρ → κ}

@[ext] theorem ext {left right : Table κ ρ key} (same : left.rows = right.rows) :
    left = right := by
  cases left
  cases right
  cases same
  rfl

def empty : Table κ ρ key :=
  { rows := []
    keysNodup := List.nodup_nil }

/-- `SELECT * WHERE p`, in insertion order. -/
def select (table : Table κ ρ key) (p : ρ → Prop) [DecidablePred p] : List ρ :=
  table.rows.filter p

/-- `SELECT * WHERE key = k`. -/
def find? [DecidableEq κ] (table : Table κ ρ key) (k : κ) : Option ρ :=
  table.rows.find? (fun row => key row = k)

/-- `UPDATE ... SET ... WHERE p` for an assignment that keeps the key. -/
def update (table : Table κ ρ key) (p : ρ → Prop) [DecidablePred p] (assign : ρ → ρ)
    (keeps : ∀ row, key (assign row) = key row) : Table κ ρ key :=
  { rows := table.rows.map (fun row => if p row then assign row else row)
    keysNodup := by
      have sameKeys : (table.rows.map (fun row => if p row then assign row else row)).map key =
          table.rows.map key := by
        rw [List.map_map]
        apply List.map_congr_left
        intro row _member
        by_cases selected : p row
        · simp only [Function.comp_apply, if_pos selected, keeps]
        · simp only [Function.comp_apply, if_neg selected]
      rw [sameKeys]
      exact table.keysNodup }

/-- `INSERT`; `none` when the key is already present. -/
def insert? [DecidableEq κ] (table : Table κ ρ key) (row : ρ) : Option (Table κ ρ key) :=
  if fresh : key row ∉ table.rows.map key then
    some
      { rows := table.rows ++ [row]
        keysNodup := by
          rw [List.map_append, List.map_singleton]
          exact List.nodup_append.2 ⟨table.keysNodup, List.nodup_singleton _, by
            intro left leftMember right rightMember same
            rw [List.mem_singleton] at rightMember
            exact fresh (rightMember ▸ same ▸ leftMember)⟩ }
  else none

/-- `INSERT ... ON CONFLICT DO UPDATE SET ...`. -/
def upsert [DecidableEq κ] (table : Table κ ρ key) (row : ρ) (assign : ρ → ρ)
    (keeps : ∀ other, key (assign other) = key other) : Table κ ρ key :=
  match table.insert? row with
  | some table' => table'
  | none => table.update (fun other => key other = key row) assign keeps

variable {row : ρ} {table : Table κ ρ key}

section Lookup

variable [DecidableEq κ]

theorem find?_mem {k : κ} (found : table.find? k = some row) :
    row ∈ table.rows :=
  List.mem_of_find?_eq_some found

theorem find?_key {k : κ} (found : table.find? k = some row) :
    key row = k := by
  have matched := List.find?_some found
  exact of_decide_eq_true matched

theorem find?_eq_none_iff (table : Table κ ρ key) (k : κ) :
    table.find? k = none ↔ k ∉ table.rows.map key := by
  simp [find?, List.find?_eq_none]

theorem find?_of_mem (member : row ∈ table.rows) :
    table.find? (key row) = some row := by
  cases found : table.find? (key row) with
  | none =>
    have absent := (find?_eq_none_iff table (key row)).1 found
    exact absurd (List.mem_map_of_mem member) absent
  | some other =>
    have same := List.inj_on_of_nodup_map table.keysNodup (find?_mem found) member (find?_key found)
    rw [same]

theorem find?_update (table : Table κ ρ key) (p : ρ → Prop) [DecidablePred p]
    (assign : ρ → ρ) (keeps : ∀ row, key (assign row) = key row) (k : κ) :
    (table.update p assign keeps).find? k =
      (table.find? k).map (fun row => if p row then assign row else row) := by
  have pointwise : (fun row => decide (key (if p row then assign row else row) = k)) =
      (fun row => decide (key row = k)) := by
    funext row
    by_cases selected : p row
    · simp only [if_pos selected, keeps]
    · simp only [if_neg selected]
  change (table.rows.map _).find? _ = (table.rows.find? _).map _
  rw [List.find?_map]
  change (table.rows.find? (fun row => decide (key (if p row then assign row else row) = k))).map _ = _
  rw [pointwise]

theorem find?_update_row (p : ρ → Prop) [DecidablePred p] (assign : ρ → ρ)
    (keeps : ∀ row, key (assign row) = key row) {k : κ} (found : table.find? k = some row)
    (chosen : p row) (only : ∀ other, p other → key other = k) (wanted : κ) :
    (table.update p assign keeps).find? wanted =
      if wanted = k then some (assign row) else table.find? wanted := by
  rw [find?_update]
  by_cases isRow : wanted = k
  · rw [if_pos isRow, isRow, found, Option.map_some, if_pos chosen]
  · rw [if_neg isRow]
    cases foundOther : table.find? wanted with
    | none => rfl
    | some other =>
      rw [Option.map_some, if_neg]
      exact fun hit => isRow ((find?_key foundOther).symm.trans (only other hit))

theorem isSome_find?_update (table : Table κ ρ key) (p : ρ → Prop) [DecidablePred p]
    (assign : ρ → ρ) (keeps : ∀ row, key (assign row) = key row) (k : κ) :
    ((table.update p assign keeps).find? k).isSome = (table.find? k).isSome := by
  rw [find?_update, Option.isSome_map]

end Lookup

theorem update_of_none (table : Table κ ρ key) (p : ρ → Prop) [DecidablePred p]
    (assign : ρ → ρ) (keeps : ∀ row, key (assign row) = key row)
    (none : ∀ row ∈ table.rows, ¬ p row) : table.update p assign keeps = table := by
  apply Table.ext
  have fixed : ∀ row ∈ table.rows, (if p row then assign row else row) = id row := by
    intro row member
    rw [if_neg (none row member)]
    rfl
  change table.rows.map _ = table.rows
  rw [List.map_congr_left fixed, List.map_id]

section Selection

variable (q : ρ → Prop) [DecidablePred q]

theorem mem_select : row ∈ table.select q ↔ row ∈ table.rows ∧ q row := by
  simp [select, List.mem_filter]

theorem rows_nodup (table : Table κ ρ key) : table.rows.Nodup :=
  table.keysNodup.of_map

theorem select_eq_singleton (table : Table κ ρ key)
    (only : ∀ other, other ∈ table.rows ∧ q other ↔ other = row) : table.select q = [row] := by
  rw [← List.perm_singleton]
  apply (List.perm_ext_iff_of_nodup (table.rows_nodup.filter _) (List.nodup_singleton row)).2
  intro other
  rw [List.mem_singleton, ← only other]
  exact mem_select q

/-- An update whose assignment does not move rows in or out of a selection
updates the selection in place. -/
theorem select_update (table : Table κ ρ key) (p : ρ → Prop) [DecidablePred p] (assign : ρ → ρ)
    (keeps : ∀ row, key (assign row) = key row) (stable : ∀ row, q (assign row) ↔ q row) :
    (table.update p assign keeps).select q =
      (table.select q).map (fun row => if p row then assign row else row) := by
  have pointwise : ((fun row => decide (q row)) ∘ fun row => if p row then assign row else row) =
      (fun row => decide (q row)) := by
    funext row
    by_cases selected : p row
    · simp only [Function.comp_apply, if_pos selected, stable]
    · simp only [Function.comp_apply, if_neg selected]
  change (table.rows.map _).filter _ = (table.rows.filter _).map _
  rw [List.filter_map, pointwise]

theorem select_update_of_disjoint (table : Table κ ρ key) (p : ρ → Prop) [DecidablePred p]
    (assign : ρ → ρ) (keeps : ∀ row, key (assign row) = key row)
    (stable : ∀ row, q (assign row) ↔ q row) (disjoint : ∀ row ∈ table.rows, q row → ¬ p row) :
    (table.update p assign keeps).select q = table.select q := by
  rw [select_update q table p assign keeps stable]
  have fixed : ∀ row ∈ table.select q, (if p row then assign row else row) = id row := by
    intro row member
    have selected := (mem_select q).1 member
    rw [if_neg (disjoint row selected.1 selected.2)]
    rfl
  rw [List.map_congr_left fixed, List.map_id]

/-- An update that moves no row into a selection and some row out of it makes
the selection shorter. -/
theorem select_update_shorter (table : Table κ ρ key) (p : ρ → Prop) [DecidablePred p]
    (assign : ρ → ρ) (keeps : ∀ row, key (assign row) = key row)
    (noneIn : ∀ row, p row → q (assign row) → q row) (member : row ∈ table.rows)
    (selected : q row) (chosen : p row) (leaves : ¬ q (assign row)) :
    ((table.update p assign keeps).select q).length < (table.select q).length := by
  have narrower : ((table.update p assign keeps).select q).length =
      (table.rows.filter (fun row => q (if p row then assign row else row))).length := by
    change ((table.rows.map _).filter _).length = _
    rw [List.filter_map, List.length_map]
    rfl
  have sublist : (table.rows.filter (fun row => q (if p row then assign row else row))).Sublist
      (table.select q) := by
    apply List.monotone_filter_right
    intro other stays
    rw [decide_eq_true_iff] at stays ⊢
    by_cases hit : p other
    · rw [if_pos hit] at stays
      exact noneIn other hit stays
    · rw [if_neg hit] at stays
      exact stays
  rw [narrower]
  apply Nat.lt_of_le_of_ne sublist.length_le
  intro sameLength
  have inBoth : row ∈ table.rows.filter (fun row => q (if p row then assign row else row)) := by
    rw [sublist.eq_of_length sameLength]
    exact (mem_select q).2 ⟨member, selected⟩
  have stays := of_decide_eq_true (List.mem_filter.1 inBoth).2
  rw [if_pos chosen] at stays
  exact leaves stays

end Selection

/-! ### Insertion -/

variable {table' : Table κ ρ key}

section Insertion

variable [DecidableEq κ]

theorem insert?_rows (inserted : table.insert? row = some table') :
    table'.rows = table.rows ++ [row] := by
  unfold insert? at inserted
  split at inserted
  · cases inserted
    rfl
  · cases inserted

theorem insert?_isSome_iff (table : Table κ ρ key) (row : ρ) :
    (∃ table', table.insert? row = some table') ↔ table.find? (key row) = none := by
  rw [find?_eq_none_iff]
  unfold insert?
  split
  · rename_i fresh
    exact ⟨fun _ => fresh, fun _ => ⟨_, rfl⟩⟩
  · rename_i taken
    constructor
    · rintro ⟨_, impossible⟩
      cases impossible
    · intro fresh
      exact absurd fresh taken

theorem insert?_fresh (inserted : table.insert? row = some table') :
    table.find? (key row) = none :=
  (insert?_isSome_iff table row).1 ⟨table', inserted⟩

theorem find?_insert? (inserted : table.insert? row = some table') (k : κ) :
    table'.find? k = if key row = k then some row else table.find? k := by
  have fresh := insert?_fresh inserted
  unfold find? at fresh ⊢
  rw [insert?_rows inserted, List.find?_append]
  by_cases same : key row = k
  · subst same
    rw [fresh, if_pos rfl]
    simp
  · rw [if_neg same]
    simp [same]

theorem find?_upsert (table : Table κ ρ key) (row : ρ) (assign : ρ → ρ)
    (keeps : ∀ other, key (assign other) = key other) (k : κ) :
    (table.upsert row assign keeps).find? k =
      if k = key row then some ((table.find? k).elim row assign) else table.find? k := by
  unfold upsert
  cases inserted : table.insert? row with
  | some table' =>
    have fresh := insert?_fresh inserted
    by_cases same : k = key row
    · rw [find?_insert? inserted, if_pos same.symm, if_pos same, same, fresh]
      rfl
    · rw [find?_insert? inserted, if_neg (Ne.symm same), if_neg same]
  | none =>
    rw [find?_update]
    by_cases same : k = key row
    · rw [if_pos same]
      cases found : table.find? k with
      | none =>
        have free := (insert?_isSome_iff table row).2 (same ▸ found)
        rw [inserted] at free
        rcases free with ⟨_, impossible⟩
        cases impossible
      | some other =>
        rw [Option.map_some, if_pos ((find?_key found).trans same)]
        rfl
    · rw [if_neg same]
      cases found : table.find? k with
      | none => rfl
      | some other =>
        rw [Option.map_some, if_neg]
        intro isRow
        exact same ((find?_key found).symm.trans isRow)

theorem select_insert? (inserted : table.insert? row = some table') (q : ρ → Prop) [DecidablePred q] :
    table'.select q = table.select q ++ if q row then [row] else [] := by
  unfold select
  rw [insert?_rows inserted, List.filter_append]
  congr 1
  by_cases selected : q row
  · rw [if_pos selected, List.filter_singleton, decide_eq_true selected]
    rfl
  · rw [if_neg selected, List.filter_singleton, decide_eq_false selected]
    rfl

end Insertion

section UniqueOn

variable {ι : Type} {index : ρ → ι}

def UniqueOn (table : Table κ ρ key) (index : ρ → ι) : Prop :=
  (table.rows.map index).Nodup

theorem uniqueOn_empty : (empty : Table κ ρ key).UniqueOn index := List.nodup_nil

theorem UniqueOn.update (unique : table.UniqueOn index) (p : ρ → Prop) [DecidablePred p]
    (assign : ρ → ρ) (keeps : ∀ row, key (assign row) = key row)
    (keepsIndex : ∀ row, index (assign row) = index row) :
    (table.update p assign keeps).UniqueOn index := by
  have same : (table.update p assign keeps).rows.map index = table.rows.map index := by
    change (table.rows.map (fun row => if p row then assign row else row)).map index = _
    rw [List.map_map]
    apply List.map_congr_left
    intro row _member
    by_cases selected : p row
    · simp only [Function.comp_apply, if_pos selected, keepsIndex]
    · simp only [Function.comp_apply, if_neg selected]
  unfold UniqueOn
  rw [same]
  exact unique

theorem UniqueOn.insert? [DecidableEq κ] (unique : table.UniqueOn index)
    (inserted : table.insert? row = some table')
    (fresh : ∀ other ∈ table.rows, index other ≠ index row) : table'.UniqueOn index := by
  unfold UniqueOn
  rw [insert?_rows inserted, List.map_append, List.map_singleton]
  refine List.nodup_append.2 ⟨unique, List.nodup_singleton _, ?_⟩
  intro left leftMember right rightMember
  obtain ⟨other, member, isLeft⟩ := List.mem_map.1 leftMember
  rw [List.mem_singleton.1 rightMember, ← isLeft]
  exact fresh other member

theorem UniqueOn.find?_and [DecidableEq ι] (unique : table.UniqueOn index) (wanted : ι)
    (p : ρ → Prop) [DecidablePred p] :
    table.rows.find? (fun row => index row = wanted ∧ p row) =
      (table.rows.find? (fun row => index row = wanted)).filter (fun row => p row) := by
  cases found : table.rows.find? (fun row => index row = wanted) with
  | none =>
    refine List.find?_eq_none.2 ?_
    intro row member both
    exact List.find?_eq_none.1 found row member (decide_eq_true (of_decide_eq_true both).1)
  | some row =>
    have matched := List.find?_some found
    have isWanted : index row = wanted := of_decide_eq_true matched
    have member := List.mem_of_find?_eq_some found
    have only : ∀ other ∈ table.rows, index other = wanted → other = row := by
      intro other otherMember same
      exact List.inj_on_of_nodup_map unique otherMember member (same.trans isWanted.symm)
    rw [Option.filter_some]
    by_cases holds : p row
    · rw [if_pos (decide_eq_true holds)]
      cases both : table.rows.find? (fun row => index row = wanted ∧ p row) with
      | none =>
        have refused := List.find?_eq_none.1 both row member
        exact absurd (decide_eq_true ⟨isWanted, holds⟩) refused
      | some other =>
        have matched := List.find?_some both
        have isOther : index other = wanted ∧ p other := of_decide_eq_true matched
        rw [only other (List.mem_of_find?_eq_some both) isOther.1]
    · rw [if_neg (fun chosen => holds (of_decide_eq_true chosen))]
      refine List.find?_eq_none.2 ?_
      intro other otherMember both
      have isOther : index other = wanted ∧ p other := of_decide_eq_true both
      rw [only other otherMember isOther.1] at isOther
      exact holds isOther.2

end UniqueOn

end Table

end AnnaAgent.Foundation
