/-
JSON values and their stable text.

The stable text of a value is its JSON text after the keys of every object
have been sorted.  The text is a code without common prefixes: what follows a
value in a longer text can be split off, so two values have the same stable
text only when they are the same up to the order of keys.
-/

import Mathlib.Data.List.Sort
import Mathlib.Data.String.Basic
import Mathlib.Tactic.IntervalCases

namespace AnnaAgent.Foundation

def isNumberChar (c : Char) : Bool :=
  decide (c ∈ ['0', '1', '2', '3', '4', '5', '6', '7', '8', '9', '-', '+', '.', 'e', 'E'])

structure JsonNumber where
  text : String
  nonempty : text.toList ≠ []
  written : text.toList.all isNumberChar = true
  deriving DecidableEq

theorem isNumberChar_digit {c : Char} (digit : c.isDigit = true) : isNumberChar c = true := by
  have bounds : 48 ≤ c.toNat ∧ c.toNat ≤ 57 := by
    unfold Char.isDigit at digit
    rw [Bool.and_eq_true, decide_eq_true_eq, decide_eq_true_eq] at digit
    exact ⟨digit.1, digit.2⟩
  rcases bounds with ⟨lower, upper⟩
  rw [← Char.ofNat_toNat c]
  generalize c.toNat = code at lower upper
  interval_cases code
  all_goals decide

def JsonNumber.ofNat (value : Nat) : JsonNumber :=
  { text := String.ofList (Nat.toDigits 10 value)
    nonempty := by
      rw [String.toList_ofList]
      exact Nat.toDigits_ne_nil
    written := by
      rw [String.toList_ofList, List.all_eq_true]
      intro c member
      exact isNumberChar_digit (Nat.isDigit_of_mem_toDigits (by decide) (by decide) member) }

inductive Json where
  | null
  | bool (value : Bool)
  | num (value : JsonNumber)
  | str (value : String)
  | arr (items : List Json)
  | obj (fields : List (String × Json))

namespace Json

def isRecord : Json → Bool
  | .obj _ => true
  | _ => false

def get? (value : Json) (key : String) : Option Json :=
  match value with
  | .obj fields => fields.lookup key
  | _ => none

def hexDigit (value : Nat) : Char :=
  if value < 10 then Char.ofNat (48 + value) else Char.ofNat (87 + value)

/-- A character inside a quoted string. -/
def escape (c : Char) : List Char :=
  if c = '"' then ['\\', '"']
  else if c = '\\' then ['\\', '\\']
  else if c.toNat < 32 then
    match c.toNat with
    | 8 => ['\\', 'b']
    | 9 => ['\\', 't']
    | 10 => ['\\', 'n']
    | 12 => ['\\', 'f']
    | 13 => ['\\', 'r']
    | value => ['\\', 'u', '0', '0', hexDigit (value / 16), hexDigit (value % 16)]
  else [c]

def quote (text : String) : List Char :=
  '"' :: (text.toList.flatMap escape ++ ['"'])

def commaSeparated : List (List Char) → List Char
  | [] => []
  | [part] => part
  | part :: others => part ++ ',' :: commaSeparated others

mutual

/-- `JSON.stringify`. -/
def chars : Json → List Char
  | .null => ['n', 'u', 'l', 'l']
  | .bool true => ['t', 'r', 'u', 'e']
  | .bool false => ['f', 'a', 'l', 's', 'e']
  | .num value => value.text.toList
  | .str value => quote value
  | .arr items => '[' :: (commaSeparated (itemChars items) ++ [']'])
  | .obj fields => '\x7b' :: (commaSeparated (fieldsChars fields) ++ ['\x7d'])

def itemChars : List Json → List (List Char)
  | [] => []
  | item :: rest => chars item :: itemChars rest

def fieldsChars : List (String × Json) → List (List Char)
  | [] => []
  | field :: rest => fieldChars field :: fieldsChars rest

def fieldChars : String × Json → List Char
  | (key, value) => quote key ++ ':' :: chars value

end

mutual

def sortKeys : Json → Json
  | .null => .null
  | .bool value => .bool value
  | .num value => .num value
  | .str value => .str value
  | .arr items => .arr (sortItems items)
  | .obj fields => .obj ((sortFields fields).insertionSort (fun left right => left.1 ≤ right.1))

def sortItems : List Json → List Json
  | [] => []
  | item :: rest => sortKeys item :: sortItems rest

def sortFields : List (String × Json) → List (String × Json)
  | [] => []
  | field :: rest => sortField field :: sortFields rest

def sortField : String × Json → String × Json
  | (key, value) => (key, sortKeys value)

end

def stableJson (value : Json) : String :=
  String.ofList value.sortKeys.chars

/-- The same value up to the order of keys. -/
def Same (left right : Json) : Prop :=
  left.sortKeys = right.sortKeys

def hexValue (c : Char) : Nat :=
  if c.toNat < 58 then c.toNat - 48 else c.toNat - 87

/-- The first character of a quoted text, with what follows. -/
def unescape : List Char → Option (Char × List Char)
  | [] => none
  | '\\' :: 'u' :: '0' :: '0' :: high :: low :: rest =>
    some (Char.ofNat (16 * hexValue high + hexValue low), rest)
  | '\\' :: 'b' :: rest => some (Char.ofNat 8, rest)
  | '\\' :: 't' :: rest => some (Char.ofNat 9, rest)
  | '\\' :: 'n' :: rest => some (Char.ofNat 10, rest)
  | '\\' :: 'f' :: rest => some (Char.ofNat 12, rest)
  | '\\' :: 'r' :: rest => some (Char.ofNat 13, rest)
  | '\\' :: c :: rest => some (c, rest)
  | c :: rest => some (c, rest)

theorem unescape_control (rest : List Char) :
    ∀ value < 32, unescape (escape (Char.ofNat value) ++ rest) = some (Char.ofNat value, rest) := by
  intro value small
  interval_cases value <;> rfl

theorem unescape_escape (c : Char) (rest : List Char) :
    unescape (escape c ++ rest) = some (c, rest) := by
  by_cases isQuote : c = '"'
  · rw [isQuote]
    rfl
  · by_cases isBackslash : c = '\\'
    · rw [isBackslash]
      rfl
    · by_cases control : c.toNat < 32
      · have decoded := unescape_control rest c.toNat control
        rw [Char.ofNat_toNat] at decoded
        exact decoded
      · unfold escape
        rw [if_neg isQuote, if_neg isBackslash, if_neg control]
        change unescape (c :: rest) = _
        unfold unescape
        split
        all_goals first
          | rfl
          | simp_all

variable {left right : List Char}

theorem escape_append {first second : Char} (same : escape first ++ left = escape second ++ right) :
    first = second ∧ left = right := by
  have decoded := unescape_escape first left
  rw [same, unescape_escape] at decoded
  cases decoded
  exact ⟨rfl, rfl⟩

theorem escape_head (c : Char) : ∃ head tail, escape c = head :: tail ∧ head ≠ '"' := by
  unfold escape
  split
  · exact ⟨_, _, rfl, by decide⟩
  · rename_i isQuote
    split
    · exact ⟨_, _, rfl, by decide⟩
    · split
      · split
        all_goals exact ⟨_, _, rfl, by decide⟩
      · exact ⟨c, [], rfl, isQuote⟩

theorem escaped_append {first second : List Char}
    (same : first.flatMap escape ++ '"' :: left = second.flatMap escape ++ '"' :: right) :
    first = second ∧ left = right := by
  induction first generalizing second with
  | nil =>
    cases second with
    | nil =>
      cases same
      exact ⟨rfl, rfl⟩
    | cons c rest =>
      rcases escape_head c with ⟨head, tail, isHead, unquoted⟩
      rw [List.flatMap_cons, isHead] at same
      exact absurd (List.cons.inj same).1.symm unquoted
  | cons c rest ih =>
    cases second with
    | nil =>
      rcases escape_head c with ⟨head, tail, isHead, unquoted⟩
      rw [List.flatMap_cons, isHead] at same
      exact absurd (List.cons.inj same).1 unquoted
    | cons d others =>
      rw [List.flatMap_cons, List.flatMap_cons, List.append_assoc, List.append_assoc] at same
      rcases escape_append same with ⟨sameChar, sameRest⟩
      rcases ih sameRest with ⟨sameTail, sameEnd⟩
      rw [sameChar, sameTail]
      exact ⟨rfl, sameEnd⟩

theorem quote_append {first second : String} (same : quote first ++ left = quote second ++ right) :
    first = second ∧ left = right := by
  unfold quote at same
  rw [List.cons_append, List.cons_append, List.append_assoc, List.append_assoc] at same
  rcases escaped_append (List.cons.inj same).2 with ⟨sameChars, sameEnd⟩
  exact ⟨String.toList_inj.1 sameChars, sameEnd⟩

/-! ### Texts of values -/

/-- What can follow a value in a text. -/
def Ends (rest : List Char) : Prop :=
  ∀ c tail, rest = c :: tail → isNumberChar c = false

theorem ends_nil : Ends [] := by
  intro c tail impossible
  cases impossible

theorem ends_cons {c : Char} {rest : List Char} (other : isNumberChar c = false) :
    Ends (c :: rest) := by
  intro d tail same
  cases same
  exact other

theorem number_append {first second : List Char} (firstNumber : first.all isNumberChar = true)
    (secondNumber : second.all isNumberChar = true) (leftEnds : Ends left) (rightEnds : Ends right)
    (same : first ++ left = second ++ right) :
    first = second ∧ left = right := by
  have takes : ∀ {number rest : List Char}, number.all isNumberChar = true → Ends rest →
      (number ++ rest).takeWhile isNumberChar = number := by
    intro number rest isNumber ends
    rw [List.takeWhile_append_of_pos (List.all_eq_true.1 isNumber)]
    cases rest with
    | nil => rw [List.takeWhile_nil, List.append_nil]
    | cons c tail =>
      rw [List.takeWhile_cons_of_neg (by rw [ends c tail rfl]; decide), List.append_nil]
  have sameNumber : first = second := by
    rw [← takes firstNumber leftEnds, same, takes secondNumber rightEnds]
  rw [sameNumber] at same
  exact ⟨sameNumber, List.append_cancel_left same⟩

/-- What the first character of a text says about the value. -/
def kindAt (c : Char) : Nat :=
  if isNumberChar c then 1
  else
    match c with
    | 'n' => 2
    | 't' => 3
    | 'f' => 4
    | '"' => 5
    | '[' => 6
    | '\x7b' => 7
    | _ => 0

def kind : Json → Nat
  | .num _ => 1
  | .null => 2
  | .bool true => 3
  | .bool false => 4
  | .str _ => 5
  | .arr _ => 6
  | .obj _ => 7

theorem chars_head (value : Json) :
    ∃ head tail, value.chars = head :: tail ∧ kindAt head = value.kind := by
  cases value with
  | null => exact ⟨_, _, rfl, by decide⟩
  | bool value =>
    cases value with
    | true | false => exact ⟨_, _, rfl, by decide⟩
  | num value =>
    change ∃ head tail, value.text.toList = head :: tail ∧ kindAt head = 1
    cases isText : value.text.toList with
    | nil => exact absurd isText value.nonempty
    | cons head tail =>
      have isNumber := value.written
      rw [isText, List.all_cons, Bool.and_eq_true] at isNumber
      refine ⟨head, tail, rfl, ?_⟩
      unfold kindAt
      rw [if_pos isNumber.1]
  | str value | arr items | obj fields => exact ⟨_, _, rfl, rfl⟩

theorem kind_pos (value : Json) : 0 < value.kind := by
  cases value with
  | bool value =>
    cases value with
    | true => decide
    | false => decide
  | null | num | str | arr | obj => exact Nat.succ_pos _

theorem kind_eq {first second : Json} (same : first.chars ++ left = second.chars ++ right) :
    first.kind = second.kind := by
  rcases chars_head first with ⟨head, tail, isFirst, isKind⟩
  rcases chars_head second with ⟨head', tail', isSecond, isKind'⟩
  rw [isFirst, isSecond] at same
  rw [← isKind, ← isKind', (List.cons.inj same).1]

theorem chars_ne_closed {value : Json} {rest : List Char} {c : Char} (closed : kindAt c = 0)
    (same : value.chars ++ rest = c :: right) : False := by
  rcases chars_head value with ⟨head, tail, isValue, isKind⟩
  rw [isValue] at same
  rw [(List.cons.inj same).1, closed] at isKind
  exact Nat.lt_irrefl _ (isKind ▸ kind_pos value)

theorem commaSeparated_cons (part : List Char) (parts : List (List Char)) (rest : List Char) :
    commaSeparated (part :: parts) ++ rest =
      part ++ (match parts with
        | [] => rest
        | _ => ',' :: (commaSeparated parts ++ rest)) := by
  cases parts with
  | nil => rfl
  | cons next others =>
    change (part ++ ',' :: commaSeparated (next :: others)) ++ rest = _
    rw [List.append_assoc]
    rfl

/-- A text that can be split off whatever it stands before. -/
def SplitsBy {α : Type} (text : α → List Char) (first : α) : Prop :=
  ∀ (second : α) (left right : List Char), Ends left → Ends right →
    text first ++ left = text second ++ right → first = second ∧ left = right

theorem commaSeparated_append {α : Type} {text : α → List Char} {closing : Char}
    (opens : ∀ item rest right, text item ++ rest ≠ closing :: right)
    (closes : isNumberChar closing = false) (separates : closing ≠ ',') {first second : List α}
    (splits : ∀ item ∈ first, SplitsBy text item)
    (same : commaSeparated (first.map text) ++ closing :: left = commaSeparated (second.map text) ++
      closing :: right) : first = second ∧ left = right := by
  induction first generalizing second with
  | nil =>
    cases second with
    | nil => exact ⟨rfl, (List.cons.inj same).2⟩
    | cons item rest =>
      rw [List.map_cons, commaSeparated_cons] at same
      exact absurd same.symm (opens item _ _)
  | cons item rest ih =>
    cases second with
    | nil =>
      rw [List.map_cons, commaSeparated_cons] at same
      exact absurd same (opens item _ _)
    | cons other others =>
      rw [List.map_cons, List.map_cons, commaSeparated_cons, commaSeparated_cons] at same
      have splitsItem := splits item List.mem_cons_self
      cases rest with
      | nil =>
        cases others with
        | nil =>
          rcases splitsItem _ _ _ (ends_cons closes) (ends_cons closes) same with
            ⟨sameItem, sameRest⟩
          rw [sameItem]
          exact ⟨rfl, (List.cons.inj sameRest).2⟩
        | cons next more =>
          rcases splitsItem _ _ _ (ends_cons closes) (ends_cons (by decide)) same with
            ⟨_, sameRest⟩
          exact absurd (List.cons.inj sameRest).1 separates
      | cons following rest =>
        cases others with
        | nil =>
          rcases splitsItem _ _ _ (ends_cons (by decide)) (ends_cons closes) same with
            ⟨_, sameRest⟩
          exact absurd (List.cons.inj sameRest).1 (Ne.symm separates)
        | cons next more =>
          rcases splitsItem _ _ _ (ends_cons (by decide)) (ends_cons (by decide)) same with
            ⟨sameItem, sameRest⟩
          rcases ih (fun member isMember => splits member (List.mem_cons_of_mem _ isMember))
              (List.cons.inj sameRest).2 with ⟨sameItems, sameEnd⟩
          rw [sameItem, sameItems]
          exact ⟨rfl, sameEnd⟩

theorem itemChars_eq (items : List Json) : itemChars items = items.map chars := by
  induction items with
  | nil => rfl
  | cons item rest ih =>
    rw [List.map_cons, ← ih]
    rfl

theorem fieldsChars_eq (fields : List (String × Json)) :
    fieldsChars fields = fields.map fieldChars := by
  induction fields with
  | nil => rfl
  | cons field rest ih =>
    rw [List.map_cons, ← ih]
    rfl

theorem field_splits {field : String × Json} (splits : SplitsBy chars field.2) :
    SplitsBy fieldChars field := by
  intro second left right leftEnds rightEnds same
  rcases field with ⟨key, value⟩
  rcases second with ⟨otherKey, otherValue⟩
  simp only [fieldChars, List.append_assoc] at same
  rcases quote_append same with ⟨sameKey, sameRest⟩
  rcases splits _ _ _ leftEnds rightEnds (List.cons.inj sameRest).2 with ⟨sameValue, sameEnd⟩
  change value = otherValue at sameValue
  rw [sameKey, sameValue]
  exact ⟨rfl, sameEnd⟩

mutual

theorem chars_split : (value : Json) → SplitsBy chars value
  | .null => by
      intro second left right _ _ same
      have sameKind := kind_eq same
      cases second with
      | null => exact ⟨rfl, List.append_cancel_left same⟩
      | bool value => cases value <;> cases sameKind
      | num | str | arr | obj => cases sameKind
  | .bool true => by
      intro second left right _ _ same
      have sameKind := kind_eq same
      cases second with
      | bool value =>
        cases value with
        | true => exact ⟨rfl, List.append_cancel_left same⟩
        | false => cases sameKind
      | null | num | str | arr | obj => cases sameKind
  | .bool false => by
      intro second left right _ _ same
      have sameKind := kind_eq same
      cases second with
      | bool value =>
        cases value with
        | true => cases sameKind
        | false => exact ⟨rfl, List.append_cancel_left same⟩
      | null | num | str | arr | obj => cases sameKind
  | .num value => by
      intro second left right leftEnds rightEnds same
      have sameKind := kind_eq same
      cases second with
      | num other =>
        rcases number_append value.written other.written leftEnds rightEnds same with
          ⟨sameText, sameRest⟩
        refine ⟨?_, sameRest⟩
        cases value
        cases other
        cases String.toList_inj.1 sameText
        rfl
      | bool value => cases value <;> cases sameKind
      | null | str | arr | obj => cases sameKind
  | .str value => by
      intro second left right _ _ same
      have sameKind := kind_eq same
      cases second with
      | str other =>
        rcases quote_append same with ⟨sameText, sameRest⟩
        rw [sameText]
        exact ⟨rfl, sameRest⟩
      | bool value => cases value <;> cases sameKind
      | null | num | arr | obj => cases sameKind
  | .arr items => by
      intro second left right _ _ same
      have sameKind := kind_eq same
      have splits := items_split items
      cases second with
      | arr others =>
        simp only [chars, List.cons_append, List.append_assoc, List.nil_append,
          List.cons.injEq, true_and, itemChars_eq] at same
        rcases commaSeparated_append (fun _ _ _ closed => chars_ne_closed (by decide) closed)
            (by decide) (by decide) splits same with ⟨sameItems, sameRest⟩
        rw [sameItems]
        exact ⟨rfl, sameRest⟩
      | bool value => cases value <;> cases sameKind
      | null | num | str | obj => cases sameKind
  | .obj fields => by
      intro second left right _ _ same
      have sameKind := kind_eq same
      have splits := fields_split fields
      cases second with
      | obj others =>
        simp only [chars, List.cons_append, List.append_assoc, List.nil_append,
          List.cons.injEq, true_and, fieldsChars_eq] at same
        rcases commaSeparated_append (fun field rest right closed => by
              rcases field with ⟨key, value⟩
              exact absurd (List.cons.inj closed).1 (by decide))
            (by decide) (by decide) splits same with ⟨sameFields, sameRest⟩
        rw [sameFields]
        exact ⟨rfl, sameRest⟩
      | bool value => cases value <;> cases sameKind
      | null | num | str | arr => cases sameKind

theorem items_split : (items : List Json) → ∀ item ∈ items, SplitsBy chars item
  | [] => nofun
  | first :: rest => by
      intro item member
      have firstSplits := chars_split first
      have restSplit := items_split rest
      rcases List.mem_cons.1 member with isFirst | isLater
      · rw [isFirst]
        exact firstSplits
      · exact restSplit item isLater

theorem fields_split : (fields : List (String × Json)) →
    ∀ field ∈ fields, SplitsBy fieldChars field
  | [] => nofun
  | first :: rest => by
      intro field member
      have firstSplits := field_split first
      have restSplit := fields_split rest
      rcases List.mem_cons.1 member with isFirst | isLater
      · rw [isFirst]
        exact firstSplits
      · exact restSplit field isLater

theorem field_split : (field : String × Json) → SplitsBy fieldChars field
  | (_, value) => field_splits (chars_split value)

end

theorem chars_injective {first second : Json} (same : first.chars = second.chars) :
    first = second := by
  apply (chars_split first second [] [] ends_nil ends_nil ?_).1
  rw [List.append_nil, List.append_nil, same]

instance : DecidableEq Json := fun first second =>
  decidable_of_iff (first.chars = second.chars) ⟨chars_injective, fun same => congrArg chars same⟩

/-- The stable text tells values apart up to the order of keys. -/
theorem stableJson_eq_iff (first second : Json) :
    stableJson first = stableJson second ↔ Same first second := by
  constructor
  · intro same
    exact chars_injective (String.ofList_inj.1 same)
  · intro same
    exact congrArg (fun value => String.ofList value.chars) same

theorem field_of_same {fields others : List (String × Json)} (same : Same (.obj fields) (.obj others))
    {key : String} {value : Json} (member : (key, value) ∈ fields) :
    ∃ other, (key, other) ∈ others ∧ Same value other := by
  have isMap : ∀ fields : List (String × Json), sortFields fields = fields.map sortField := by
    intro fields
    induction fields with
    | nil => rfl
    | cons field rest ih => rw [sortFields, ih, List.map_cons]
  unfold Same at same
  rw [sortKeys, sortKeys, Json.obj.injEq, isMap, isMap] at same
  have sorted : sortField (key, value) ∈ (fields.map sortField).insertionSort
      (fun left right => left.1 ≤ right.1) :=
    (List.mem_insertionSort _).2 (List.mem_map_of_mem member)
  rw [same, List.mem_insertionSort, List.mem_map] at sorted
  obtain ⟨⟨otherKey, other⟩, otherMember, isField⟩ := sorted
  rw [sortField, sortField, Prod.mk.injEq] at isField
  rw [isField.1] at otherMember
  exact ⟨other, otherMember, isField.2.symm⟩

theorem text_of_same {text : String} {other : Json} (same : Same (.str text) other) :
    other = .str text := by
  unfold Same at same
  cases other with
  | str otherText =>
    rw [sortKeys, sortKeys, Json.str.injEq] at same
    rw [same]
  | null => cases same
  | bool value => cases same
  | num value => cases same
  | arr items => cases same
  | obj fields => cases same

end Json

end AnnaAgent.Foundation
