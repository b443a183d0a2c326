/-
Reading JSON texts.

A text that `JSON.stringify` writes is read back as the value that was written,
provided that the keys of its objects are distinct and stand in the order in
which an object keeps them.  What double a number literal denotes is a
parameter.  A text here is a list of Unicode characters, so an escaped half of a
surrogate pair that stands alone is refused.
-/

import AnnaAgent.Foundation.Json

namespace AnnaAgent.Foundation

namespace Json

def isSpace (c : Char) : Bool :=
  decide (c ∈ [' ', '\t', '\n', '\r'])

def skipSpaces (text : List Char) : List Char := text.dropWhile isSpace

def hexDigit? (c : Char) : Option Nat :=
  if 48 ≤ c.toNat ∧ c.toNat ≤ 57 then some (c.toNat - 48)
  else if 97 ≤ c.toNat ∧ c.toNat ≤ 102 then some (c.toNat - 87)
  else if 65 ≤ c.toNat ∧ c.toNat ≤ 70 then some (c.toNat - 55)
  else none

/-- Four hexadecimal digits, with what follows. -/
def readUnit : List Char → Option (Nat × List Char)
  | first :: second :: third :: fourth :: rest => do
      let first ← hexDigit? first
      let second ← hexDigit? second
      let third ← hexDigit? third
      let fourth ← hexDigit? fourth
      some (((first * 16 + second) * 16 + third) * 16 + fourth, rest)
  | _ => none

def readUnits (text : List Char) : Option (Char × List Char) := do
  let (unit, rest) ← readUnit text
  if 0xd800 ≤ unit ∧ unit < 0xdc00 then
    if rest.take 2 = ['\\', 'u'] then
      let (low, rest) ← readUnit (rest.drop 2)
      if 0xdc00 ≤ low ∧ low < 0xe000 then
        some (Char.ofNat (0x10000 + (unit - 0xd800) * 0x400 + (low - 0xdc00)), rest)
      else none
    else none
  else if 0xdc00 ≤ unit ∧ unit < 0xe000 then none
  else some (Char.ofNat unit, rest)

/-- What follows a backslash. -/
def readEscape : List Char → Option (Char × List Char)
  | '"' :: rest => some ('"', rest)
  | '\\' :: rest => some ('\\', rest)
  | '/' :: rest => some ('/', rest)
  | 'b' :: rest => some (Char.ofNat 8, rest)
  | 't' :: rest => some (Char.ofNat 9, rest)
  | 'n' :: rest => some (Char.ofNat 10, rest)
  | 'f' :: rest => some (Char.ofNat 12, rest)
  | 'r' :: rest => some (Char.ofNat 13, rest)
  | 'u' :: rest => readUnits rest
  | _ => none

def readChar (c : Char) (rest : List Char) : Option (Char × List Char) :=
  if c = '\\' then readEscape rest
  else if c.toNat < 32 then none
  else some (c, rest)

/-- The characters up to the closing quote. -/
def readChars : Nat → List Char → Option (List Char × List Char)
  | 0, _ => none
  | _ + 1, [] => none
  | fuel + 1, c :: rest =>
    if c = '"' then some ([], rest)
    else do
      let (c, rest) ← readChar c rest
      let (others, rest) ← readChars fuel rest
      some (c :: others, rest)

/-- A string whose opening quote has been read. -/
def readString (text : List Char) : Option (String × List Char) :=
  (readChars (text.length + 1) text).map (fun read => (String.ofList read.1, read.2))

/-- The number that a key is, where it is the index of an array. -/
def index? (key : String) : Option Nat :=
  if key.toList.all Char.isDigit = true ∧ key.toList ≠ []
      ∧ (key.toList.head? = some '0' → key.toList = ['0'])
      ∧ Nat.ofDigitChars 10 key.toList 0 < 4294967295 then
    some (Nat.ofDigitChars 10 key.toList 0)
  else none

def setField (fields : List (String × Json)) (field : String × Json) : List (String × Json) :=
  if field.1 ∈ fields.map Prod.fst then
    fields.map (fun known => if known.1 = field.1 then field else known)
  else fields ++ [field]

/-- The fields as an object keeps them: the last value of each key, with the
indices first. -/
def ownFields (fields : List (String × Json)) : List (String × Json) :=
  let known := fields.foldl setField []
  (known.filter (fun field => (index? field.1).isSome)).insertionSort
      (fun left right => (index? left.1).getD 0 ≤ (index? right.1).getD 0)
    ++ known.filter (fun field => (index? field.1).isNone)

def readWord (word : List Char) (value : Json) (text : List Char) : Option (Json × List Char) :=
  if word.isPrefixOf text then some (value, text.drop word.length) else none

def readNumber (number : List Char → Option JsonNumber) (text : List Char) :
    Option (Json × List Char) :=
  (number (text.takeWhile isNumberChar)).map
    (fun value => (.num value, text.dropWhile isNumberChar))

/-- What follows an item or a field: another one or the end. -/
def readNext (closing : Char) (text : List Char) : Option (Bool × List Char) :=
  match skipSpaces text with
  | [] => none
  | c :: rest =>
    if c = ',' then some (true, rest)
    else if c = closing then some (false, rest)
    else none

def readKey (text : List Char) : Option (String × List Char) :=
  match skipSpaces text with
  | [] => none
  | c :: rest =>
    if c = '"' then do
      let (key, rest) ← readString rest
      match skipSpaces rest with
      | [] => none
      | c :: rest => if c = ':' then some (key, rest) else none
    else none

mutual

def readValue (number : List Char → Option JsonNumber) : Nat → List Char →
    Option (Json × List Char)
  | 0, _ => none
  | fuel + 1, text =>
    match skipSpaces text with
    | [] => none
    | c :: rest =>
      if c = '"' then (readString rest).map (fun read => (.str read.1, read.2))
      else if c = '[' then
        if (skipSpaces rest).head? = some ']' then some (.arr [], (skipSpaces rest).tail)
        else (readItems number fuel rest).map (fun read => (.arr read.1, read.2))
      else if c = '\x7b' then
        if (skipSpaces rest).head? = some '\x7d' then some (.obj [], (skipSpaces rest).tail)
        else (readFields number fuel rest).map (fun read => (.obj (ownFields read.1), read.2))
      else if c = 'n' then readWord ['u', 'l', 'l'] .null rest
      else if c = 't' then readWord ['r', 'u', 'e'] (.bool true) rest
      else if c = 'f' then readWord ['a', 'l', 's', 'e'] (.bool false) rest
      else readNumber number (c :: rest)

def readItems (number : List Char → Option JsonNumber) : Nat → List Char →
    Option (List Json × List Char)
  | 0, _ => none
  | fuel + 1, text => do
      let (item, rest) ← readValue number fuel text
      let (goesOn, rest) ← readNext ']' rest
      if goesOn then
        let (others, rest) ← readItems number fuel rest
        some (item :: others, rest)
      else some ([item], rest)

def readFields (number : List Char → Option JsonNumber) : Nat → List Char →
    Option (List (String × Json) × List Char)
  | 0, _ => none
  | fuel + 1, text => do
      let (key, rest) ← readKey text
      let (value, rest) ← readValue number fuel rest
      let (goesOn, rest) ← readNext '\x7d' rest
      if goesOn then
        let (others, rest) ← readFields number fuel rest
        some ((key, value) :: others, rest)
      else some ([(key, value)], rest)

end

def parse (number : List Char → Option JsonNumber) (text : String) : Option Json := do
  let (value, rest) ← readValue number (2 * text.toList.length + 2) text.toList
  if skipSpaces rest = [] then some value else none

def stringify (value : Json) : String := String.ofList value.chars

theorem readEscape_control (rest : List Char) :
    ∀ value < 32, ∃ tail, escape (Char.ofNat value) = '\\' :: tail ∧
      readEscape (tail ++ rest) = some (Char.ofNat value, rest) := by
  intro value small
  interval_cases value
  all_goals exact ⟨_, rfl, rfl⟩

theorem readChar_escape (c : Char) (rest : List Char) :
    ∃ head tail, escape c = head :: tail ∧ head ≠ '"' ∧
      readChar head (tail ++ rest) = some (c, rest) := by
  by_cases isQuote : c = '"'
  · rw [isQuote]
    exact ⟨_, _, rfl, by decide, rfl⟩
  · by_cases isBackslash : c = '\\'
    · rw [isBackslash]
      exact ⟨_, _, rfl, by decide, rfl⟩
    · by_cases control : c.toNat < 32
      · rcases readEscape_control rest c.toNat control with ⟨tail, isEscape, read⟩
        rw [Char.ofNat_toNat] at isEscape read
        refine ⟨_, tail, isEscape, by decide, ?_⟩
        unfold readChar
        rw [if_pos rfl]
        exact read
      · refine ⟨c, [], ?_, isQuote, ?_⟩
        · unfold escape
          rw [if_neg isQuote, if_neg isBackslash, if_neg control]
        · unfold readChar
          rw [if_neg isBackslash, if_neg control]
          rfl

theorem readChars_escaped (text rest : List Char) :
    ∀ fuel, text.length < fuel →
      readChars fuel (text.flatMap escape ++ '"' :: rest) = some (text, rest) := by
  induction text with
  | nil =>
    intro fuel enough
    cases fuel with
    | zero => cases enough
    | succ fuel => rfl
  | cons c others ih =>
    intro fuel enough
    cases fuel with
    | zero => cases enough
    | succ fuel =>
      rcases readChar_escape c (others.flatMap escape ++ '"' :: rest) with
        ⟨head, tail, isEscape, unquoted, read⟩
      have later := ih fuel (Nat.lt_of_succ_lt_succ enough)
      rw [List.flatMap_cons, isEscape]
      change readChars (fuel + 1) (head :: (tail ++ others.flatMap escape ++ _)) = _
      rw [readChars, if_neg unquoted, List.append_assoc, read]
      simp [later]

theorem length_escaped (text : List Char) : text.length ≤ (text.flatMap escape).length := by
  induction text with
  | nil => exact Nat.le_refl 0
  | cons c rest ih =>
    rcases escape_head c with ⟨head, tail, isEscape, _⟩
    rw [List.flatMap_cons, isEscape, List.length_append, List.length_cons, List.length_cons]
    omega

theorem readString_quoted (text : String) (rest : List Char) :
    readString (text.toList.flatMap escape ++ '"' :: rest) = some (text, rest) := by
  have enough : text.toList.length <
      (text.toList.flatMap escape ++ '"' :: rest).length + 1 := by
    have longer := length_escaped text.toList
    rw [List.length_append]
    omega
  unfold readString
  rw [readChars_escaped text.toList rest _ enough, Option.map_some, String.ofList_toList]

/-! ### Values are read back -/

section RoundTrip

variable (number : List Char → Option JsonNumber)

mutual

/-- The value is one that a text is read as: an object has its fields in its own
order, and a number is written as it is written back. -/
def Canonical : Json → Prop
  | .num value => number value.text.toList = some value
  | .arr items => CanonicalItems items
  | .obj fields => ownFields fields = fields ∧ CanonicalFields fields
  | _ => True

def CanonicalItems : List Json → Prop
  | [] => True
  | item :: rest => Canonical item ∧ CanonicalItems rest

def CanonicalFields : List (String × Json) → Prop
  | [] => True
  | field :: rest => CanonicalField field ∧ CanonicalFields rest

def CanonicalField : String × Json → Prop
  | (_, value) => Canonical value

end

variable {rest : List Char}

theorem skipSpaces_of_kind {c : Char} (starts : 0 < kindAt c) :
    skipSpaces (c :: rest) = c :: rest := by
  unfold skipSpaces
  apply List.dropWhile_cons_of_neg
  intro isSpace
  have member : c ∈ [' ', '\t', '\n', '\r'] := of_decide_eq_true isSpace
  simp only [List.mem_cons, List.not_mem_nil, or_false] at member
  rcases member with rfl | rfl | rfl | rfl
  all_goals exact absurd starts (by decide)

theorem skipSpaces_chars (value : Json) (rest : List Char) :
    skipSpaces (value.chars ++ rest) = value.chars ++ rest := by
  rcases chars_head value with ⟨head, tail, isText, isKind⟩
  rw [isText]
  apply skipSpaces_of_kind
  rw [isKind]
  exact kind_pos value

theorem number_span {text : List Char} (isNumber : text.all isNumberChar = true) (ends : Ends rest) :
    (text ++ rest).takeWhile isNumberChar = text ∧
      (text ++ rest).dropWhile isNumberChar = rest := by
  rw [List.takeWhile_append_of_pos (List.all_eq_true.1 isNumber),
    List.dropWhile_append_of_pos (List.all_eq_true.1 isNumber)]
  cases rest with
  | nil =>
    rw [List.takeWhile_nil, List.append_nil, List.dropWhile_nil]
    exact ⟨rfl, rfl⟩
  | cons c tail =>
    have stops : ¬ isNumberChar c = true := by
      rw [ends c tail rfl]
      decide
    rw [List.takeWhile_cons_of_neg stops, List.append_nil, List.dropWhile_cons_of_neg stops]
    exact ⟨rfl, rfl⟩

theorem readKey_quoted (key : String) (rest : List Char) :
    readKey (quote key ++ ':' :: rest) = some (key, rest) := by
  have skips : skipSpaces (':' :: rest) = ':' :: rest := by
    rfl
  unfold quote
  rw [List.cons_append, List.append_assoc]
  unfold readKey
  rw [skipSpaces_of_kind (by decide)]
  dsimp only
  rw [if_pos rfl]
  change (readString (key.toList.flatMap escape ++ '"' :: (':' :: rest)) >>= _) = _
  rw [readString_quoted]
  simp [skips]

theorem readValue_number {value : JsonNumber} (canonical : number value.text.toList = some value)
    (fuel : Nat) (ends : Ends rest) :
    readValue number (fuel + 1) (value.text.toList ++ rest) = some (.num value, rest) := by
  have span := number_span value.written ends
  cases isText : value.text.toList with
  | nil => exact absurd isText value.nonempty
  | cons head tail =>
    have isNumber := value.written
    rw [isText, List.all_cons, Bool.and_eq_true] at isNumber
    have starts : 0 < kindAt head := by
      unfold kindAt
      rw [if_pos isNumber.1]
      exact Nat.succ_pos 0
    have differs : ∀ c, isNumberChar c = false → head ≠ c := by
      intro c other same
      rw [same, other] at isNumber
      cases isNumber.1
    rw [isText] at span canonical
    rw [List.cons_append] at span ⊢
    rw [readValue, skipSpaces_of_kind starts]
    dsimp only
    rw [if_neg (differs _ (by decide)), if_neg (differs _ (by decide)),
      if_neg (differs _ (by decide)), if_neg (differs _ (by decide)),
      if_neg (differs _ (by decide)), if_neg (differs _ (by decide))]
    unfold readNumber
    rw [span.1, span.2, canonical, Option.map_some]

def ReadsBack (value : Json) : Prop :=
  ∀ fuel rest, Ends rest → 2 * value.chars.length < fuel →
    readValue number fuel (value.chars ++ rest) = some (value, rest)

theorem readItems_chars {items : List Json} (readBack : ∀ item ∈ items, ReadsBack number item)
    (notEmpty : items ≠ []) :
    ∀ fuel rest, 2 * (commaSeparated (itemChars items)).length + 1 < fuel →
      readItems number fuel (commaSeparated (itemChars items) ++ ']' :: rest) =
        some (items, rest) := by
  induction items with
  | nil => exact absurd rfl notEmpty
  | cons item others ih =>
    intro fuel rest enough
    have first := readBack item List.mem_cons_self
    cases fuel with
    | zero => cases enough
    | succ fuel =>
      cases others with
      | nil =>
        simp only [itemChars, commaSeparated] at enough ⊢
        have read := first fuel (']' :: rest) (ends_cons (by decide)) (by omega)
        have next : readNext ']' (']' :: rest) = some (false, rest) := rfl
        rw [readItems, read]
        simp [next]
      | cons other more =>
        have later := ih (fun member isMember =>
          readBack member (List.mem_cons_of_mem _ isMember)) (by simp)
        simp only [itemChars, commaSeparated, List.length_append, List.length_cons]
          at enough later ⊢
        rw [List.append_assoc, List.cons_append]
        have read := first fuel
          (',' :: (commaSeparated (other.chars :: itemChars more) ++ ']' :: rest))
          (ends_cons (by decide)) (by omega)
        have next : readNext ']'
            (',' :: (commaSeparated (other.chars :: itemChars more) ++ ']' :: rest)) =
          some (true, commaSeparated (other.chars :: itemChars more) ++ ']' :: rest) := rfl
        rw [readItems, read]
        simp [next, later fuel rest (by omega)]

variable {fields : List (String × Json)}

theorem readFields_chars (readBack : ∀ field ∈ fields, ReadsBack number field.2)
    (notEmpty : fields ≠ []) :
    ∀ fuel rest, 2 * (commaSeparated (fieldsChars fields)).length + 1 < fuel →
      readFields number fuel (commaSeparated (fieldsChars fields) ++ '\x7d' :: rest) =
        some (fields, rest) := by
  induction fields with
  | nil => exact absurd rfl notEmpty
  | cons field others ih =>
    intro fuel rest enough
    rcases field with ⟨key, value⟩
    have first : ReadsBack number value := readBack (key, value) List.mem_cons_self
    cases fuel with
    | zero => cases enough
    | succ fuel =>
      cases others with
      | nil =>
        simp only [fieldsChars, fieldChars, commaSeparated, List.length_append,
          List.length_cons] at enough ⊢
        rw [List.append_assoc, List.cons_append]
        have read := first fuel ('\x7d' :: rest) (ends_cons (by decide)) (by omega)
        have next : readNext '\x7d' ('\x7d' :: rest) = some (false, rest) := rfl
        rw [readFields, readKey_quoted]
        simp [read, next]
      | cons other more =>
        have later := ih (fun member isMember =>
          readBack member (List.mem_cons_of_mem _ isMember)) (by simp)
        simp only [fieldsChars, commaSeparated] at enough later ⊢
        have split : fieldChars (key, value) = quote key ++ ':' :: value.chars := rfl
        rw [split] at enough ⊢
        simp only [List.length_append, List.length_cons] at enough
        rw [List.append_assoc, List.append_assoc, List.cons_append, List.cons_append]
        have read := first fuel
          (',' :: (commaSeparated (fieldChars other :: fieldsChars more) ++ '\x7d' :: rest))
          (ends_cons (by decide)) (by omega)
        have next : readNext '\x7d'
            (',' :: (commaSeparated (fieldChars other :: fieldsChars more) ++ '\x7d' :: rest)) =
          some (true, commaSeparated (fieldChars other :: fieldsChars more)
            ++ '\x7d' :: rest) := rfl
        rw [readFields, readKey_quoted]
        simp [read, next, later fuel rest (by omega)]

theorem readsBack_arr {items : List Json} (readBack : ∀ item ∈ items, ReadsBack number item) :
    ReadsBack number (.arr items) := by
  intro fuel rest ends enough
  cases fuel with
  | zero => cases enough
  | succ fuel =>
    change 2 * ('[' :: (commaSeparated (itemChars items) ++ [']'])).length < fuel + 1 at enough
    rw [List.length_cons, List.length_append, List.length_singleton] at enough
    change readValue number (fuel + 1)
      ('[' :: (commaSeparated (itemChars items) ++ [']']) ++ rest) = _
    rw [List.cons_append, List.append_assoc, readValue, skipSpaces_of_kind (by decide)]
    dsimp only
    rw [if_neg (by decide), if_pos rfl]
    cases items with
    | nil => rfl
    | cons item others =>
      have starts : ∃ tail, commaSeparated (itemChars (item :: others)) ++ ([']'] ++ rest) =
          item.chars ++ tail := by
        rw [itemChars, commaSeparated_cons]
        exact ⟨_, rfl⟩
      rcases starts with ⟨tail, starts⟩
      have notClosed : (skipSpaces (item.chars ++ tail)).head? ≠ some ']' := by
        rw [skipSpaces_chars]
        intro closed
        cases isText : item.chars ++ tail with
        | nil =>
          rw [isText] at closed
          cases closed
        | cons c more =>
          rw [isText] at closed
          cases closed
          exact chars_ne_closed (by decide) isText
      rw [starts, if_neg notClosed, ← starts, List.singleton_append,
        readItems_chars number readBack (by simp) fuel rest (by omega)]
      rfl

theorem readsBack_obj (readBack : ∀ field ∈ fields, ReadsBack number field.2)
    (own : ownFields fields = fields) :
    ReadsBack number (.obj fields) := by
  intro fuel rest ends enough
  cases fuel with
  | zero => cases enough
  | succ fuel =>
    change 2 * ('\x7b' :: (commaSeparated (fieldsChars fields) ++ ['\x7d'])).length < fuel + 1
      at enough
    rw [List.length_cons, List.length_append, List.length_singleton] at enough
    change readValue number (fuel + 1)
      ('\x7b' :: (commaSeparated (fieldsChars fields) ++ ['\x7d']) ++ rest) = _
    rw [List.cons_append, List.append_assoc, readValue, skipSpaces_of_kind (by decide)]
    dsimp only
    rw [if_neg (by decide), if_neg (by decide), if_pos rfl]
    cases fields with
    | nil => rfl
    | cons field others =>
      have starts : ∃ tail, commaSeparated (fieldsChars (field :: others))
          ++ (['\x7d'] ++ rest) = '"' :: tail := by
        rcases field with ⟨key, value⟩
        rw [fieldsChars, commaSeparated_cons]
        exact ⟨_, rfl⟩
      rcases starts with ⟨tail, starts⟩
      have notClosed : (skipSpaces ('"' :: tail)).head? ≠ some '\x7d' := by
        rw [skipSpaces_of_kind (by decide)]
        intro closed
        cases closed
      rw [starts, if_neg notClosed, ← starts, List.singleton_append,
        readFields_chars number readBack (by simp) fuel rest (by omega), Option.map_some, own]

mutual

theorem readsBack : (value : Json) → value.Canonical number → ReadsBack number value
  | .null | .bool true | .bool false => by
      intro _ fuel rest ends enough
      cases fuel with
      | zero => cases enough
      | succ fuel => rfl
  | .num value => by
      intro canonical fuel rest ends enough
      cases fuel with
      | zero => cases enough
      | succ fuel => exact readValue_number number canonical fuel ends
  | .str value => by
      intro _ fuel rest ends enough
      cases fuel with
      | zero => cases enough
      | succ fuel =>
        change readValue number (fuel + 1)
          ('"' :: (value.toList.flatMap escape ++ ['"']) ++ rest) = _
        rw [List.cons_append, List.append_assoc, readValue, skipSpaces_of_kind (by decide)]
        dsimp only
        rw [if_pos rfl, List.singleton_append, readString_quoted, Option.map_some]
  | .arr items => by
      intro canonical
      exact readsBack_arr number (itemsReadBack items canonical)
  | .obj fields => by
      intro canonical
      exact readsBack_obj number (fieldsReadBack fields canonical.2) canonical.1

theorem itemsReadBack : (items : List Json) → CanonicalItems number items →
    ∀ item ∈ items, ReadsBack number item
  | [] => nofun
  | first :: rest => by
      intro canonical item member
      have firstReads := readsBack first canonical.1
      have restRead := itemsReadBack rest canonical.2
      rcases List.mem_cons.1 member with isFirst | isLater
      · rw [isFirst]
        exact firstReads
      · exact restRead item isLater

theorem fieldsReadBack : (fields : List (String × Json)) → CanonicalFields number fields →
    ∀ field ∈ fields, ReadsBack number field.2
  | [] => nofun
  | first :: rest => by
      intro canonical field member
      have firstReads := fieldReadsBack first canonical.1
      have restRead := fieldsReadBack rest canonical.2
      rcases List.mem_cons.1 member with isFirst | isLater
      · rw [isFirst]
        exact firstReads
      · exact restRead field isLater

theorem fieldReadsBack : (field : String × Json) → CanonicalField number field →
    ReadsBack number field.2
  | (_, value) => readsBack value

end

theorem parse_stringify {value : Json} (canonical : value.Canonical number) :
    parse number value.stringify = some value := by
  have read := readsBack number value canonical (2 * value.chars.length + 2) [] ends_nil (by omega)
  rw [List.append_nil] at read
  unfold parse stringify
  rw [String.toList_ofList, read]
  rfl

end RoundTrip

end Json

end AnnaAgent.Foundation
