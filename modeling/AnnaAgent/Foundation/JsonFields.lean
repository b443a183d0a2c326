/-
Objects with optional fields.

A field without a value is left out of the object.  Reading a field of such an
object gives the value the field was written with.
-/

import AnnaAgent.Foundation.Json
import Mathlib

namespace AnnaAgent.Foundation

namespace JsonNumber

/-- The natural number that a text is the decimal notation of. -/
def nat? (number : JsonNumber) : Option Nat :=
  if number = ofNat (Nat.ofDigitChars 10 number.text.toList 0) then
    some (Nat.ofDigitChars 10 number.text.toList 0)
  else none

@[simp] theorem nat?_ofNat (value : Nat) : (ofNat value).nat? = some value := by
  have digits : Nat.ofDigitChars 10 (ofNat value).text.toList 0 = value := by
    unfold ofNat
    rw [String.toList_ofList]
    exact Nat.ofDigitChars_ten_toDigits
  unfold nat?
  rw [digits, if_pos rfl]

end JsonNumber

namespace Json

def ofFields (fields : List (String × Option Json)) : Json :=
  .obj (fields.filterMap (fun field => field.2.map (fun value => (field.1, value))))

variable {fields : List (String × Option Json)}

theorem lookup_filterMap_absent {key : String} (absent : key ∉ fields.map Prod.fst) :
    (fields.filterMap (fun field => field.2.map (fun value => (field.1, value)))).lookup key =
      none := by
  induction fields with
  | nil => rfl
  | cons field rest ih =>
    rw [List.map_cons, List.mem_cons, not_or] at absent
    have later := ih absent.2
    cases isValue : field.2 with
    | none =>
      rw [List.filterMap_cons_none (by rw [isValue, Option.map_none])]
      exact later
    | some value =>
      rw [List.filterMap_cons_some (by rw [isValue, Option.map_some]), List.lookup_cons,
        beq_eq_false_iff_ne.2 absent.1]
      exact later

theorem get?_ofFields (distinct : (fields.map Prod.fst).Nodup) (key : String) :
    (ofFields fields).get? key = (fields.lookup key).join := by
  change (fields.filterMap _).lookup key = _
  induction fields with
  | nil => rfl
  | cons field rest ih =>
    rw [List.map_cons, List.nodup_cons] at distinct
    rw [List.lookup_cons]
    by_cases here : key = field.1
    · rw [here, beq_self_eq_true]
      cases isValue : field.2 with
      | none =>
        rw [List.filterMap_cons_none (by rw [isValue, Option.map_none]),
          lookup_filterMap_absent distinct.1]
        rfl
      | some value =>
        rw [List.filterMap_cons_some (by rw [isValue, Option.map_some]), List.lookup_cons,
          beq_self_eq_true]
        rfl
    · rw [beq_eq_false_iff_ne.2 here]
      cases isValue : field.2 with
      | none =>
        rw [List.filterMap_cons_none (by rw [isValue, Option.map_none])]
        exact ih distinct.2
      | some value =>
        rw [List.filterMap_cons_some (by rw [isValue, Option.map_some]), List.lookup_cons,
          beq_eq_false_iff_ne.2 here]
        exact ih distinct.2

def str? : Json → Option String
  | .str text => some text
  | _ => none

def nat? : Json → Option Nat
  | .num number => number.nat?
  | _ => none

def bool? : Json → Option Bool
  | .bool value => some value
  | _ => none

def strs? : Json → Option (List String)
  | .arr items => items.mapM str?
  | _ => none

def strs (texts : List String) : Json := .arr (texts.map Json.str)

@[simp] theorem strs?_strs (texts : List String) : (strs texts).strs? = some texts := by
  change (texts.map Json.str).mapM str? = some texts
  induction texts with
  | nil => rfl
  | cons text rest ih =>
    rw [List.map_cons, List.mapM_cons, ih]
    rfl

/-- A field that may be missing. -/
def optional {α : Type} (read : Json → Option α) : Option Json → Option (Option α)
  | none => some none
  | some value => (read value).map some

/-- A field that must be there. -/
def required {α : Type} (read : Json → Option α) (field : Option Json) : Option α :=
  field.bind read

def all (check : Json → Bool) : Json → Bool
  | .arr items => items.all check
  | _ => false

/-- `typeof value === "string"`. -/
def isStr : Json → Bool
  | .str _ => true
  | _ => false

/-- `typeof value === "number"`. -/
def isNum : Json → Bool
  | .num _ => true
  | _ => false

/-- `typeof value === "boolean"`. -/
def isBool : Json → Bool
  | .bool _ => true
  | _ => false

/-- `Array.isArray(value)`. -/
def isArr : Json → Bool
  | .arr _ => true
  | _ => false

@[simp] theorem all_strs (texts : List String) : (strs texts).all isStr = true := by
  change (texts.map Json.str).all isStr = true
  rw [List.all_map, List.all_eq_true]
  intro text _
  rfl

end Json

end AnnaAgent.Foundation
