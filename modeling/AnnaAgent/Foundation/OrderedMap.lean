/-
Maps that keep the order of insertion.

Setting a key that is present replaces its value and keeps its place; a new
key goes to the end.
-/

import Mathlib.Data.List.Induction
import Mathlib.Data.List.Nodup
import Mathlib.Data.List.Basic

namespace AnnaAgent.Foundation

structure OrderedMap (κ ν : Type) where
  entries : List (κ × ν)
  keysNodup : (entries.map Prod.fst).Nodup

namespace OrderedMap

variable {κ ν ρ : Type}

@[ext] theorem ext {left right : OrderedMap κ ν} (same : left.entries = right.entries) :
    left = right := by
  cases left
  cases right
  cases same
  rfl

def empty : OrderedMap κ ν :=
  { entries := []
    keysNodup := List.nodup_nil }

def values (map : OrderedMap κ ν) : List ν := map.entries.map Prod.snd

/-- The entries whose keys have a property. -/
def restrict (map : OrderedMap κ ν) (p : κ → Bool) : OrderedMap κ ν :=
  { entries := map.entries.filter (fun entry => p entry.1)
    keysNodup := (List.filter_sublist.map Prod.fst).nodup map.keysNodup }

variable [DecidableEq κ]

def get? (map : OrderedMap κ ν) (key : κ) : Option ν :=
  (map.entries.find? (fun entry => entry.1 = key)).map Prod.snd

def has (map : OrderedMap κ ν) (key : κ) : Bool := (map.get? key).isSome

def replace (entries : List (κ × ν)) (key : κ) (value : ν) : List (κ × ν) :=
  entries.map (fun entry => if entry.1 = key then (key, value) else entry)

theorem replace_keys (entries : List (κ × ν)) (key : κ) (value : ν) :
    (replace entries key value).map Prod.fst = entries.map Prod.fst := by
  unfold replace
  rw [List.map_map]
  apply List.map_congr_left
  intro entry _
  by_cases same : entry.1 = key
  · rw [Function.comp_apply, if_pos same, same]
  · rw [Function.comp_apply, if_neg same]

def set (map : OrderedMap κ ν) (key : κ) (value : ν) : OrderedMap κ ν :=
  if present : key ∈ map.entries.map Prod.fst then
    { entries := replace map.entries key value
      keysNodup := by
        rw [replace_keys]
        exact map.keysNodup }
  else
    { entries := map.entries ++ [(key, value)]
      keysNodup := by
        rw [List.map_append, List.map_singleton]
        refine List.nodup_append.2 ⟨map.keysNodup, List.nodup_singleton _, ?_⟩
        intro left leftMember right rightMember same
        rw [same, List.mem_singleton.1 rightMember] at leftMember
        exact present leftMember }

variable {entries : List (κ × ν)}

theorem find?_key {key : κ} {entry : κ × ν}
    (found : entries.find? (fun entry => entry.1 = key) = some entry) : entry.1 = key := by
  have matched := List.find?_some found
  exact of_decide_eq_true matched

variable {map : OrderedMap κ ν}

theorem get?_eq_some_iff {key : κ} {value : ν} :
    map.get? key = some value ↔ (key, value) ∈ map.entries := by
  unfold get?
  constructor
  · intro found
    obtain ⟨entry, isEntry, isValue⟩ := Option.map_eq_some_iff.1 found
    rw [← find?_key isEntry, ← isValue]
    exact List.mem_of_find?_eq_some isEntry
  · intro member
    cases found : map.entries.find? (fun entry => entry.1 = key) with
    | none =>
      have differs := List.find?_eq_none.1 found (key, value) member
      exact absurd (decide_eq_true rfl) differs
    | some entry =>
      have same := List.inj_on_of_nodup_map map.keysNodup (List.mem_of_find?_eq_some found)
        member (find?_key found)
      rw [same]
      rfl

theorem get?_eq_none_iff {key : κ} :
    map.get? key = none ↔ key ∉ map.entries.map Prod.fst := by
  constructor
  · intro missing present
    obtain ⟨entry, member, isKey⟩ := List.mem_map.1 present
    have found : map.get? key = some entry.2 := by
      rw [get?_eq_some_iff, ← isKey]
      exact member
    rw [missing] at found
    cases found
  · intro absent
    cases found : map.get? key with
    | none => rfl
    | some value =>
      exact absurd (List.mem_map.2 ⟨_, get?_eq_some_iff.1 found, rfl⟩) absent

variable {rows : List ρ}

/-- A map whose entries are made from rows looks up a row. -/
theorem get?_of_rows {key : ρ → κ} {value : ρ → ν}
    (isMap : map.entries = rows.map (fun row => (key row, value row))) (wanted : κ) :
    map.get? wanted = (rows.find? (fun row => key row = wanted)).map value := by
  unfold get?
  rw [isMap, List.find?_map, Option.map_map]
  rfl

theorem entries_set_new {key : κ} (absent : map.get? key = none) (value : ν) :
    (map.set key value).entries = map.entries ++ [(key, value)] := by
  unfold set
  rw [dif_neg (get?_eq_none_iff.1 absent)]

theorem entries_set_present {key : κ} {old : ν} (present : map.get? key = some old) (value : ν) :
    (map.set key value).entries = replace map.entries key value := by
  unfold set
  rw [dif_pos (List.mem_map.2 ⟨_, get?_eq_some_iff.1 present, rfl⟩)]

variable {wanted : κ}

/-- A map whose entries are made from rows replaces the value of the rows that
an update assigns. -/
theorem replace_rows {key : ρ → κ} {value : ρ → ν} {new : ν} {p : ρ → Prop} [DecidablePred p]
    {assign : ρ → ρ}
    (assigned : ∀ row ∈ rows, p row → key (assign row) = wanted ∧ value (assign row) = new)
    (chosen : ∀ row ∈ rows, key row = wanted ↔ p row) :
    replace (rows.map (fun row => (key row, value row))) wanted new =
      (rows.map (fun row => if p row then assign row else row)).map
        (fun row => (key row, value row)) := by
  unfold replace
  rw [List.map_map, List.map_map]
  refine List.map_congr_left ?_
  intro row member
  rw [Function.comp_apply, Function.comp_apply]
  by_cases isRow : p row
  · rw [if_pos ((chosen row member).2 isRow), if_pos isRow, (assigned row member isRow).1,
      (assigned row member isRow).2]
  · rw [if_neg (fun same => isRow ((chosen row member).1 same)), if_neg isRow]

theorem find?_replace (entries : List (κ × ν)) (key wanted : κ) (value : ν) :
    ((replace entries key value).find? (fun entry => entry.1 = wanted)).map Prod.snd =
      if wanted = key then (entries.find? (fun entry => entry.1 = key)).map (fun _ => value)
      else (entries.find? (fun entry => entry.1 = wanted)).map Prod.snd := by
  have pointwise : ∀ entry : κ × ν,
      (if entry.1 = key then (key, value) else entry).1 = entry.1 := by
    intro entry
    by_cases same : entry.1 = key
    · rw [if_pos same, same]
    · rw [if_neg same]
  unfold replace
  rw [List.find?_map, Option.map_map]
  have samePredicate : ((fun entry : κ × ν => decide (entry.1 = wanted)) ∘
      fun entry : κ × ν => if entry.1 = key then (key, value) else entry) =
        fun entry => decide (entry.1 = wanted) := by
    funext entry
    rw [Function.comp_apply, pointwise entry]
  rw [samePredicate]
  by_cases same : wanted = key
  · rw [if_pos same, same]
    cases found : entries.find? (fun entry => decide (entry.1 = key)) with
    | none => rfl
    | some entry =>
      rw [Option.map_some, Option.map_some, Function.comp_apply, if_pos (find?_key found)]
  · rw [if_neg same]
    cases found : entries.find? (fun entry => decide (entry.1 = wanted)) with
    | none => rfl
    | some entry =>
      have other : entry.1 ≠ key := fun isKey => same ((find?_key found).symm.trans isKey)
      rw [Option.map_some, Option.map_some, Function.comp_apply, if_neg other]

@[simp] theorem get?_set (map : OrderedMap κ ν) (key wanted : κ) (value : ν) :
    (map.set key value).get? wanted = if wanted = key then some value else map.get? wanted := by
  cases held : map.get? key with
  | none =>
    unfold get? at held ⊢
    rw [entries_set_new held, List.find?_append, Option.map_or]
    by_cases same : wanted = key
    · rw [if_pos same, same, held, List.find?_singleton, if_pos (decide_eq_true rfl)]
      rfl
    · rw [if_neg same, List.find?_singleton,
        if_neg (fun isKey => same (of_decide_eq_true isKey).symm), Option.map_none,
        Option.or_none]
  | some old =>
    unfold get? at held ⊢
    rw [entries_set_present held, find?_replace]
    by_cases same : wanted = key
    · rw [if_pos same, if_pos same]
      obtain ⟨entry, isEntry, _⟩ := Option.map_eq_some_iff.1 held
      rw [isEntry]
      rfl
    · rw [if_neg same, if_neg same]

section Restrict

variable {p : κ → Bool}

theorem get?_restrict (map : OrderedMap κ ν) {key : κ} (inside : p key = true) :
    (map.restrict p).get? key = map.get? key := by
  cases held : map.get? key with
  | none =>
    rw [get?_eq_none_iff] at held ⊢
    intro present
    obtain ⟨entry, member, isKey⟩ := List.mem_map.1 present
    exact held (List.mem_map.2 ⟨entry, (List.mem_filter.1 member).1, isKey⟩)
  | some value =>
    rw [get?_eq_some_iff] at held ⊢
    exact List.mem_filter.2 ⟨held, inside⟩

theorem replace_absent {key : κ} (value : ν) (absent : ∀ entry ∈ entries, entry.1 ≠ key) :
    replace entries key value = entries := by
  refine (List.map_congr_left ?_).trans (List.map_id _)
  intro entry member
  rw [if_neg (absent entry member)]
  rfl

end Restrict

/-- A key that is present keeps its place. -/
theorem entries_set_middle {early late : List (κ × ν)} {key : κ} {old : ν}
    (entries : map.entries = early ++ (key, old) :: late) (value : ν) :
    (map.set key value).entries = early ++ (key, value) :: late := by
  have distinct := map.keysNodup
  rw [entries, List.map_append, List.map_cons, List.nodup_append] at distinct
  have present : map.get? key = some old := by
    rw [get?_eq_some_iff, entries]
    exact List.mem_append_right _ List.mem_cons_self
  have earlier : ∀ entry ∈ early, entry.1 ≠ key := by
    intro entry member
    exact distinct.2.2 entry.1 (List.mem_map_of_mem member) key List.mem_cons_self
  have later : ∀ entry ∈ late, entry.1 ≠ key := by
    intro entry member sameKey
    apply (List.nodup_cons.1 distinct.2.1).1
    exact List.mem_map.2 ⟨entry, member, sameKey⟩
  rw [entries_set_present present, entries]
  unfold replace
  rw [List.map_append, List.map_cons, if_pos rfl]
  have sameEarly := replace_absent value earlier
  have sameLate := replace_absent value later
  unfold replace at sameEarly sameLate
  rw [sameEarly, sameLate]

theorem keys_prefix_set (map : OrderedMap κ ν) (key : κ) (value : ν) :
    map.entries.map Prod.fst <+: (map.set key value).entries.map Prod.fst := by
  cases held : map.get? key with
  | none =>
    rw [entries_set_new held, List.map_append]
    exact List.prefix_append _ _
  | some old =>
    exact ⟨[], by rw [List.append_nil, entries_set_present held, replace_keys]⟩

section Index

variable {key : ρ → κ}

/-- The rows by their keys; a later row replaces an earlier one. -/
def index (key : ρ → κ) (rows : List ρ) : OrderedMap κ ρ :=
  rows.foldl (fun map row => map.set (key row) row) empty

theorem index_concat (rows : List ρ) (row : ρ) :
    index key (rows ++ [row]) = (index key rows).set (key row) row := by
  unfold index
  rw [List.foldl_append]
  rfl

theorem get?_index_concat (rows : List ρ) (row : ρ) (wanted : κ) :
    (index key (rows ++ [row])).get? wanted =
      if wanted = key row then some row else (index key rows).get? wanted := by
  rw [index_concat, get?_set]

theorem get?_index_some {row : ρ} (held : (index key rows).get? wanted = some row) :
    row ∈ rows ∧ key row = wanted := by
  induction rows using List.reverseRecOn with
  | nil => cases held
  | append_singleton earlier last ih =>
    rw [get?_index_concat] at held
    by_cases isLast : wanted = key last
    · rw [if_pos isLast, Option.some.injEq] at held
      rw [← held, isLast]
      exact ⟨List.mem_append_right _ List.mem_cons_self, rfl⟩
    · rw [if_neg isLast] at held
      exact ⟨List.mem_append_left _ (ih held).1, (ih held).2⟩

theorem get?_index_none_iff :
    (index key rows).get? wanted = none ↔ wanted ∉ rows.map key := by
  induction rows using List.reverseRecOn with
  | nil =>
    constructor
    · intro _
      exact List.not_mem_nil
    · intro _
      rfl
  | append_singleton earlier last ih =>
    rw [get?_index_concat, List.map_append, List.mem_append, not_or, List.map_singleton,
      List.mem_singleton, ← ih]
    by_cases isLast : wanted = key last
    · rw [if_pos isLast]
      constructor
      · intro impossible
        cases impossible
      · intro both
        exact absurd isLast both.2
    · rw [if_neg isLast]
      exact (and_iff_left isLast).symm

end Index

end OrderedMap

end AnnaAgent.Foundation
