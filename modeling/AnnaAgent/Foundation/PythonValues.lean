/-
JSON values as Python reads and compares them.

`==` compares numbers and truth values by what they count, and dicts by their
entries whatever the order.  How a text is read as a number and how a value
that is no text is written are left open.
-/

import AnnaAgent.Foundation.JsonText
import Mathlib

namespace AnnaAgent.Foundation

abbrev Fields := List (String × Json)

structure PythonReading where
  number : JsonNumber → ℚ
  /-- `float` of a text; `none` is a `ValueError`. -/
  floatOfText : String → Option ℚ
  /-- `str` of a value that is no text. -/
  textOf : Json → String

namespace PythonReading

variable (python : PythonReading)

def truthy : Json → Bool
  | .null => false
  | .bool value => value
  | .num value => decide (python.number value ≠ 0)
  | .str value => decide (value ≠ "")
  | .arr items => !items.isEmpty
  | .obj fields => !fields.isEmpty

/-- `float`; `none` is an exception. -/
def float : Json → Option ℚ
  | .bool value => some (if value then 1 else 0)
  | .num value => some (python.number value)
  | .str value => python.floatOfText value
  | _ => none

def text : Json → String
  | .str value => value
  | value => python.textOf value

def numeric : Json → Option ℚ
  | .bool value => some (if value then 1 else 0)
  | .num value => some (python.number value)
  | _ => none

def isNumber (number : ℚ) (value : Json) : Bool := decide (python.numeric value = some number)

mutual

/-- `==`. -/
def same : Json → Json → Bool
  | .null, .null => true
  | .str first, .str second => decide (first = second)
  | .arr first, .arr second => sameItems first second
  | .obj first, .obj second => decide (first.length = second.length) && sameFields first second
  | .bool first, second => python.isNumber (if first then 1 else 0) second
  | .num first, second => python.isNumber (python.number first) second
  | _, _ => false

def sameItems : List Json → List Json → Bool
  | [], [] => true
  | first :: firsts, second :: seconds => same first second && sameItems firsts seconds
  | _, _ => false

def sameFields : Fields → Fields → Bool
  | [], _ => true
  | (key, value) :: rest, others =>
    (match others.lookup key with
    | some other => same value other
    | none => false) && sameFields rest others

end

end PythonReading

mutual

/-- No dict in the value has a key twice. -/
def Json.Keyed : Json → Prop
  | .arr items => Json.ItemsKeyed items
  | .obj fields => (fields.map Prod.fst).Nodup ∧ Json.FieldsKeyed fields
  | _ => True

def Json.ItemsKeyed : List Json → Prop
  | [] => True
  | item :: rest => item.Keyed ∧ Json.ItemsKeyed rest

def Json.FieldsKeyed : Fields → Prop
  | [] => True
  | (_, value) :: rest => value.Keyed ∧ Json.FieldsKeyed rest

end

theorem lookup_of_mem {fields : Fields} (distinct : (fields.map Prod.fst).Nodup)
    {field : String × Json} (member : field ∈ fields) : fields.lookup field.1 = some field.2 := by
  induction fields with
  | nil => cases member
  | cons head tail ih =>
    rw [List.map_cons, List.nodup_cons] at distinct
    rw [List.lookup_cons]
    rcases List.mem_cons.mp member with here | later
    · rw [here, beq_self_eq_true]
    · have other : field.1 ≠ head.1 := by
        intro same
        exact distinct.1 (List.mem_map.mpr ⟨field, later, same⟩)
      rw [beq_false_of_ne other]
      exact ih distinct.2 later

namespace PythonReading

variable {python : PythonReading}

mutual

theorem same_refl : (value : Json) → value.Keyed → python.same value value = true
  | .null, _ => rfl
  | .bool _, _ | .num _, _ | .str _, _ => decide_eq_true rfl
  | .arr items, keyed => sameItems_refl items keyed
  | .obj fields, keyed => by
    unfold same
    rw [decide_eq_true rfl, Bool.true_and]
    exact sameFields_refl fields keyed.2 fields (fun _ => lookup_of_mem keyed.1)

theorem sameItems_refl : (items : List Json) → Json.ItemsKeyed items →
    python.sameItems items items = true
  | [], _ => rfl
  | item :: rest, keyed => by
    unfold sameItems
    rw [same_refl item keyed.1, sameItems_refl rest keyed.2]
    rfl

theorem sameFields_refl : (fields : Fields) → Json.FieldsKeyed fields → (others : Fields) →
    (∀ field ∈ fields, others.lookup field.1 = some field.2) →
      python.sameFields fields others = true
  | [], _, _, _ => rfl
  | (key, value) :: rest, keyed, others, found => by
    have isHere : others.lookup key = some value := found _ List.mem_cons_self
    unfold sameFields
    rw [isHere]
    dsimp only
    rw [same_refl value keyed.1, sameFields_refl rest keyed.2 others
      (fun field member => found field (List.mem_cons_of_mem _ member))]
    rfl

end

theorem lookup_of_sameFields {fields others : Fields} {key : String} {value : Json}
    (same : python.sameFields fields others = true) (found : fields.lookup key = some value) :
    ∃ other, others.lookup key = some other ∧ python.same value other = true := by
  induction fields with
  | nil => cases found
  | cons head tail ih =>
    unfold sameFields at same
    rw [Bool.and_eq_true] at same
    rw [List.lookup_cons] at found
    by_cases here : key = head.1
    · rw [here, beq_self_eq_true] at found
      cases found
      rw [here]
      cases isOther : others.lookup head.1 with
      | none =>
        rw [isOther] at same
        cases same.1
      | some other =>
        rw [isOther] at same
        exact ⟨other, rfl, same.1⟩
    · rw [beq_false_of_ne here] at found
      exact ih same.2 found

theorem same_of_numeric {first : Json} {number : ℚ} (isNumber : python.numeric first = some number)
    (second : Json) : python.same first second = python.isNumber number second := by
  cases first with
  | bool value | num value =>
    cases isNumber
    cases second with
    | _ => rfl
  | _ => cases isNumber

end PythonReading

def Fields.get (fields : Fields) (key : String) : Json := (fields.lookup key).getD .null

def Fields.has (fields : Fields) (key : String) : Bool := (fields.lookup key).isSome

theorem lookup_setField (fields : Fields) (key : String) (value : Json) :
    (Json.setField fields (key, value)).lookup key = some value := by
  unfold Json.setField
  split
  · rename_i present
    induction fields with
    | nil => cases present
    | cons head tail ih =>
      rw [List.map_cons]
      by_cases here : head.1 = key
      · rw [if_pos here, List.lookup_cons, beq_self_eq_true]
      · have inTail : key ∈ tail.map Prod.fst := by
          rcases List.mem_cons.mp present with same | later
          · exact absurd same.symm here
          · exact later
        rw [if_neg here, List.lookup_cons, beq_false_of_ne (fun same => here same.symm)]
        exact ih inTail
  · rename_i absent
    have missing : fields.lookup key = none := by
      rw [List.lookup_eq_none_iff]
      intro field member
      apply bne_iff_ne.mpr
      intro same
      exact absent (List.mem_map.mpr ⟨field, member, same.symm⟩)
    rw [List.lookup_append, missing, Option.none_or, List.lookup_cons, beq_self_eq_true]

theorem lookup_setField_other (fields : Fields) {key other : String} (different : other ≠ key)
    (value : Json) : (Json.setField fields (key, value)).lookup other = fields.lookup other := by
  unfold Json.setField
  split
  · rename_i present
    clear present
    induction fields with
    | nil => rfl
    | cons head tail ih =>
      rw [List.map_cons, List.lookup_cons]
      by_cases here : head.1 = key
      · have away : (other == head.1) = false := by
          rw [here]
          exact beq_false_of_ne different
        rw [if_pos here, beq_false_of_ne different, ih, List.lookup_cons, away]
      · rw [if_neg here, ih, List.lookup_cons]
  · rw [List.lookup_append, List.lookup_cons, beq_false_of_ne different, List.lookup_nil,
      Option.or_none]

@[simp] theorem get_setField (fields : Fields) (key : String) (value : Json) :
    Fields.get (Json.setField fields (key, value)) key = value := by
  unfold Fields.get
  rw [lookup_setField, Option.getD_some]

theorem get_setField_other (fields : Fields) {key other : String} (different : other ≠ key)
    (value : Json) :
    Fields.get (Json.setField fields (key, value)) other = Fields.get fields other := by
  unfold Fields.get
  rw [lookup_setField_other fields different]

end AnnaAgent.Foundation
