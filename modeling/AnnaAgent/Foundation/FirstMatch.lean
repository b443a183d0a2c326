/-
The first element of a list that has a property.

A list with such a first element is updated in one place.  Lists whose
elements are related in pairs, with the property on both sides or on none, find
related elements.
-/

import Mathlib.Data.List.Forall2
import Mathlib.Data.List.Nodup

namespace AnnaAgent.Foundation

variable {α β γ : Type}

def updateFirst (p : α → Bool) (assign : α → α) : List α → List α
  | [] => []
  | item :: rest => if p item then assign item :: rest else item :: updateFirst p assign rest

variable {items : List α} {p : α → Bool} {assign : α → α}

/-- The other elements stay. -/
theorem updateFirst_forall₂ {R : α → α → Prop} (refl : ∀ item, R item item)
    (assigned : ∀ item, items.find? p = some item → R item (assign item)) :
    List.Forall₂ R items (updateFirst p assign items) := by
  induction items with
  | nil => exact .nil
  | cons item rest ih =>
    rw [updateFirst]
    cases isFirst : p item with
    | true =>
      rw [if_pos rfl]
      refine .cons (assigned item ?_) (List.forall₂_same.2 (fun other _ => refl other))
      rw [List.find?_cons, isFirst]
    | false =>
      rw [if_neg Bool.false_ne_true]
      refine .cons (refl item) (ih ?_)
      intro found isFound
      refine assigned found ?_
      rw [List.find?_cons, isFirst]
      exact isFound

/-- The first match is found again after its update. -/
theorem find?_updateFirst (kept : ∀ item, p (assign item) = p item) (items : List α) :
    (updateFirst p assign items).find? p = (items.find? p).map assign := by
  induction items with
  | nil => rfl
  | cons item rest ih =>
    rw [updateFirst, List.find?_cons]
    cases isFirst : p item with
    | true =>
      rw [if_pos rfl, List.find?_cons, kept, isFirst]
      rfl
    | false =>
      rw [if_neg Bool.false_ne_true, List.find?_cons, isFirst]
      exact ih

/-- The first match is found after its update by any other property that finds
it before and that it keeps. -/
theorem find?_updateFirst_of_both {q : α → Bool} {found : α} (first : items.find? p = some found)
    (alsoFirst : items.find? q = some found) (kept : q (assign found) = true) :
    (updateFirst p assign items).find? q = some (assign found) := by
  induction items with
  | nil => cases first
  | cons item rest ih =>
    rw [updateFirst]
    rw [List.find?_cons] at first alsoFirst
    cases here : p item with
    | true =>
      rw [here] at first
      cases first
      rw [if_pos rfl, List.find?_cons, kept]
    | false =>
      rw [here] at first
      rw [if_neg Bool.false_ne_true, List.find?_cons]
      cases alsoHere : q item with
      | true =>
        rw [alsoHere] at alsoFirst
        cases alsoFirst
        rw [List.find?_some first] at here
        cases here
      | false =>
        rw [alsoHere] at alsoFirst
        exact ih first alsoFirst

variable {R : α → β → Prop} {items' : List β}

theorem find?_forall₂ {q : β → Bool} (alike : ∀ item item', R item item' → p item = q item')
    (related : List.Forall₂ R items items') : Option.Rel R (items.find? p) (items'.find? q) := by
  induction related with
  | nil => exact .none
  | @cons item item' rest rest' isRelated later ih =>
    rw [List.find?_cons, List.find?_cons, ← alike item item' isRelated]
    cases p item with
    | true => exact .some isRelated
    | false => exact ih

theorem find?_related {q : β → Bool} (alike : ∀ item item', R item item' → p item = q item')
    (related : List.Forall₂ R items items') {item' : β} (found : items'.find? q = some item') :
    ∃ item, items.find? p = some item ∧ R item item' := by
  have finds := find?_forall₂ alike related
  rw [found] at finds
  cases isItem : items.find? p with
  | none =>
    rw [isItem] at finds
    cases finds
  | some item =>
    rw [isItem] at finds
    cases finds with
    | some isRelated => exact ⟨item, rfl, isRelated⟩

theorem forall₂_mem_right (related : List.Forall₂ R items items') {item' : β}
    (member : item' ∈ items') : ∃ item ∈ items, R item item' := by
  induction related with
  | nil => cases member
  | @cons item first rest others isRelated _ ih =>
    rcases List.mem_cons.1 member with rfl | later
    · exact ⟨item, List.mem_cons_self, isRelated⟩
    · obtain ⟨found, isFound, alike⟩ := ih later
      exact ⟨found, List.mem_cons_of_mem _ isFound, alike⟩

theorem forall₂_mem_left (related : List.Forall₂ R items items') {item : α}
    (member : item ∈ items) : ∃ item' ∈ items', R item item' :=
  forall₂_mem_right related.flip member

theorem forall₂_comp {S : β → γ → Prop} {first : List α} {middle : List β} {last : List γ}
    (early : List.Forall₂ R first middle) (late : List.Forall₂ S middle last) :
    List.Forall₂ (fun left right => ∃ between, R left between ∧ S between right) first last := by
  induction early generalizing last with
  | nil =>
    cases late
    exact .nil
  | cons isRelated _ ih =>
    cases late with
    | cons isLater others => exact .cons ⟨_, isRelated, isLater⟩ (ih others)

section Keys

variable {κ : Type} [DecidableEq κ] {key : α → κ}

theorem find?_of_distinct (distinct : (items.map key).Nodup) {item : α} (member : item ∈ items) :
    items.find? (fun other => key other = key item) = some item := by
  cases found : items.find? (fun other => key other = key item) with
  | none =>
    have missed := List.find?_eq_none.1 found item member
    exact absurd (decide_eq_true rfl) missed
  | some other =>
    have matched := List.find?_some found
    have sameKey : key other = key item := of_decide_eq_true matched
    have same := List.inj_on_of_nodup_map distinct (List.mem_of_find?_eq_some found) member sameKey
    rw [same]

theorem updateFirst_of_distinct (distinct : (items.map key).Nodup) (k : κ) (assign : α → α) :
    updateFirst (fun item => key item = k) assign items =
      items.map (fun item => if key item = k then assign item else item) := by
  induction items with
  | nil => rfl
  | cons item rest ih =>
    rw [List.map_cons, List.nodup_cons] at distinct
    rw [updateFirst, List.map_cons]
    by_cases isFirst : key item = k
    · rw [if_pos (decide_eq_true isFirst), if_pos isFirst]
      congr 1
      have others : rest.map (fun item => if key item = k then assign item else item) =
          rest.map (fun item => item) := by
        refine List.map_congr_left ?_
        intro other member
        refine if_neg ?_
        intro sameKey
        exact distinct.1 (List.mem_map.2 ⟨other, member, sameKey.trans isFirst.symm⟩)
      rw [others, List.map_id']
    · rw [if_neg (fun holds => isFirst (of_decide_eq_true holds)), if_neg isFirst, ih distinct.2]

end Keys

theorem zip_snd_sublist (first : List α) (second : List β) :
    List.Sublist ((first.zip second).map Prod.snd) second := by
  induction first generalizing second with
  | nil => exact List.nil_sublist second
  | cons item rest ih =>
    cases second with
    | nil => exact List.nil_sublist []
    | cons other others => exact (ih others).cons_cons other

theorem distinct_of_related {κ ι : Type} {left : α → κ} {right : β → ι}
    (apart : ∀ {item item' other other'}, R item other → R item' other' → right other = right
      other' → left item = left item') {others : List β} (related : List.Forall₂ R items others)
    (distinct : (items.map left).Nodup) : (others.map right).Nodup := by
  induction related with
  | nil => exact List.nodup_nil
  | @cons item other rest rest' isRelated later ih =>
    rw [List.map_cons, List.nodup_cons] at distinct ⊢
    refine ⟨?_, ih distinct.2⟩
    intro member
    obtain ⟨again, isAgain, sameIndex⟩ := List.mem_map.1 member
    obtain ⟨found, isFound, alike⟩ := forall₂_mem_right later isAgain
    exact distinct.1 (List.mem_map.2 ⟨found, isFound, apart alike isRelated sameIndex⟩)

end AnnaAgent.Foundation
