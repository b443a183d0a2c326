/-
Reading a file of the workdir page by page
(`readRegisteredWorkdirFile` in `harness-service/src/workbench-files.ts`).

A page begins at an offset in bytes.  The bytes that are read may end inside a character,
which is then left to the next page.  The file is found and checked before, and a read
returns all bytes that were asked for up to the end of the file.
-/

import Mathlib.Data.List.Basic

namespace AnnaAgent.Host

def encode (text : List Char) : List UInt8 := text.flatMap String.utf8EncodeChar

/-- A fatal `TextDecoder`, which keeps a byte order mark. -/
def decodeFatal (bytes : List UInt8) : Option (List Char) :=
  bytes.toByteArray.utf8Decode?.map Array.toList

def isContinuation (byte : UInt8) : Bool := byte &&& 0xc0 == 0x80

def sequenceLength (first : UInt8) : Nat :=
  if first.toNat ≤ 0x7f then 1
  else if 0xc2 ≤ first.toNat ∧ first.toNat ≤ 0xdf then 2
  else if 0xe0 ≤ first.toNat ∧ first.toNat ≤ 0xef then 3
  else if 0xf0 ≤ first.toNat ∧ first.toNat ≤ 0xf4 then 4
  else 0

/-- Where the last sequence starts when it is not complete; the bytes are looked at from the
end. -/
def incompleteTrailingSequenceStart (bytes : List UInt8) : Option Nat :=
  match bytes.reverse.dropWhile isContinuation with
  | [] => none
  | first :: earlier =>
      if 0 < sequenceLength first ∧ bytes.length - earlier.length < sequenceLength first then
        some earlier.length
      else none

def decodeUtf8Prefix (bytes : List UInt8) (allowIncompleteTrailing : Bool) : Option (List Char) :=
  let usable :=
    if allowIncompleteTrailing then
      (incompleteTrailingSequenceStart bytes).getD bytes.length
    else bytes.length
  decodeFatal (bytes.take usable)

def workdirReadMaxChars : Nat := 16384

def workdirReadMaxBytes : Nat := 65536

structure WorkdirPage where
  offset : Nat
  endOffset : Nat
  limit : Nat
  content : List Char
  truncated : Bool
  nextOffset : Option Nat

def readRegisteredWorkdirFile (file : List UInt8) (offset limit : Nat) :
    Except String WorkdirPage :=
  if file.length < offset then .error "workdir_offset_out_of_range"
  else if ((file.drop offset).head?.any isContinuation) then
    .error "workdir_offset_not_utf8_boundary"
  else
    let source := (file.drop offset).take workdirReadMaxBytes
    match decodeUtf8Prefix source (decide (offset + source.length < file.length)) with
    | none => .error "workdir_file_not_utf8"
    | some text =>
        let content := text.take limit
        let endOffset := offset + (encode content).length
        let truncated := decide (endOffset < file.length)
        .ok
          { offset
            endOffset
            limit
            content
            truncated
            nextOffset := if truncated then some endOffset else none }

/-- The pages from an offset on when every `next_offset` is followed, with the limits that are
asked for one after the other; at most as many pages as there is fuel. -/
def readPages (file : List UInt8) (limits : Nat → Nat) :
    Nat → Nat → Nat → Option (Except String (List WorkdirPage))
  | 0, _, _ => none
  | fuel + 1, index, offset =>
      match readRegisteredWorkdirFile file offset (limits index) with
      | .error reason => some (.error reason)
      | .ok page =>
          match page.nextOffset with
          | none => some (.ok [page])
          | some next =>
              (readPages file limits fuel (index + 1) next).map fun later =>
                later.map fun pages => page :: pages

theorem isContinuation_iff (byte : UInt8) :
    isContinuation byte = true ↔ 0x80 ≤ byte.toNat ∧ byte.toNat < 0xc0 := by
  have all : ∀ value : Fin 256, isContinuation (UInt8.ofFin value) = true ↔
      0x80 ≤ value.val ∧ value.val < 0xc0 := by decide +kernel
  exact all byte.toFin

theorem utf8EncodeChar_eq (c : Char) :
    ∃ first rest, String.utf8EncodeChar c = first :: rest ∧ isContinuation first = false ∧
      (∀ byte ∈ rest, isContinuation byte = true) ∧ sequenceLength first = rest.length + 1 := by
  have bounded : c.val.toNat < 0x110000 := by
    have valid := c.valid
    simp only [UInt32.isValidChar, Nat.isValidChar] at valid
    omega
  have other (byte : UInt8) (outside : byte.toNat < 0x80 ∨ 0xc0 ≤ byte.toNat) :
      isContinuation byte = false := by
    rw [← Bool.not_eq_true, isContinuation_iff]
    omega
  have continues (values : List Nat) (byte : UInt8)
      (member : byte ∈ values.map (fun value => UInt8.ofNat (value % 0x40 + 0x80))) :
      isContinuation byte = true := by
    rcases List.mem_map.1 member with ⟨value, _, isByte⟩
    rw [← isByte, isContinuation_iff, UInt8.toNat_ofNat']
    omega
  rw [String.utf8EncodeChar]
  split
  · refine ⟨_, _, rfl, other _ ?_, by simp, ?_⟩
    · rw [UInt8.toNat_ofNat']
      omega
    · rw [sequenceLength, UInt8.toNat_ofNat', if_pos (by omega)]
      rfl
  · split
    · refine ⟨_, _, rfl, other _ ?_, continues [c.val.toNat], ?_⟩
      · rw [UInt8.toNat_ofNat']
        omega
      · rw [sequenceLength, UInt8.toNat_ofNat', if_neg (by omega), if_pos (by omega)]
        rfl
    · split
      · refine ⟨_, _, rfl, other _ ?_, continues [c.val.toNat / 64, c.val.toNat], ?_⟩
        · rw [UInt8.toNat_ofNat']
          omega
        · rw [sequenceLength, UInt8.toNat_ofNat', if_neg (by omega), if_neg (by omega),
            if_pos (by omega)]
          rfl
      · refine ⟨_, _, rfl, other _ ?_,
          continues [c.val.toNat / 4096, c.val.toNat / 64, c.val.toNat], ?_⟩
        · rw [UInt8.toNat_ofNat']
          omega
        · rw [sequenceLength, UInt8.toNat_ofNat', if_neg (by omega), if_neg (by omega),
            if_neg (by omega), if_pos (by omega)]
          rfl

theorem encode_append (early late : List Char) :
    encode (early ++ late) = encode early ++ encode late := List.flatMap_append

theorem encode_cons (c : Char) (rest : List Char) :
    encode (c :: rest) = String.utf8EncodeChar c ++ encode rest := rfl

theorem encode_length_pos {text : List Char} (nonempty : text ≠ []) : 0 < (encode text).length := by
  cases text with
  | nil => exact absurd rfl nonempty
  | cons c rest =>
    rcases utf8EncodeChar_eq c with ⟨first, others, bytes, _⟩
    simp [encode_cons, bytes]

theorem decodeFatal_encode (text : List Char) : decodeFatal (encode text) = some text := by
  have decoded := List.utf8Decode?_utf8Encode (l := text)
  rw [List.utf8Encode] at decoded
  rw [decodeFatal, encode, decoded]
  rfl

theorem incompleteTrailingSequenceStart_eq (front : List UInt8) {first : UInt8}
    {rest : List UInt8} (starts : isContinuation first = false)
    (continues : ∀ byte ∈ rest, isContinuation byte = true) :
    incompleteTrailingSequenceStart (front ++ first :: rest) =
      if 0 < sequenceLength first ∧ rest.length + 1 < sequenceLength first then
        some front.length
      else none := by
  have reversed : (front ++ first :: rest).reverse.dropWhile isContinuation =
      first :: front.reverse := by
    rw [List.reverse_append, List.reverse_cons, List.append_assoc,
      List.dropWhile_append_of_pos (by simpa using continues)]
    simp [starts]
  have lengths : (front ++ first :: rest).length - front.reverse.length = rest.length + 1 := by
    rw [List.length_append, List.length_reverse, List.length_cons]
    omega
  rw [incompleteTrailingSequenceStart, reversed]
  dsimp only
  rw [lengths, List.length_reverse]

theorem incompleteTrailingSequenceStart_encode (text : List Char) :
    incompleteTrailingSequenceStart (encode text) = none := by
  rcases List.eq_nil_or_concat text with none | ⟨front, c, isText⟩
  · rw [none]
    rfl
  · rcases utf8EncodeChar_eq c with ⟨first, rest, bytes, starts, continues, long⟩
    rw [isText, List.concat_eq_append, encode_append, encode_cons, bytes]
    change incompleteTrailingSequenceStart (encode front ++ first :: (rest ++ [])) = none
    rw [List.append_nil, incompleteTrailingSequenceStart_eq _ starts continues, if_neg (by omega)]

/-- The first bytes of a text are those of whole characters and the beginning of the next. -/
theorem take_encode (count : Nat) (text : List Char) (shorter : count < (encode text).length) :
    ∃ whole c later part, text = whole ++ c :: later ∧ part < (String.utf8EncodeChar c).length ∧
      count = (encode whole).length + part ∧
      (encode text).take count = encode whole ++ (String.utf8EncodeChar c).take part := by
  induction text generalizing count with
  | nil => exact absurd shorter (Nat.not_lt_zero _)
  | cons c rest ih =>
    rw [encode_cons, List.length_append] at shorter
    by_cases fits : count < (String.utf8EncodeChar c).length
    · refine ⟨[], c, rest, count, rfl, fits, (Nat.zero_add count).symm, ?_⟩
      rw [encode_cons, List.take_append_of_le_length (Nat.le_of_lt fits)]
      rfl
    · rcases ih (count - (String.utf8EncodeChar c).length) (by omega) with
        ⟨whole, next, later, part, isRest, partial', isCount, taken⟩
      refine ⟨c :: whole, next, later, part, by rw [isRest]; rfl, partial', ?_, ?_⟩
      · rw [encode_cons, List.length_append]
        omega
      · rw [encode_cons, List.take_append, List.take_of_length_le (by omega), taken, encode_cons,
          List.append_assoc]

theorem decodeUtf8Prefix_take {text : List Char} {count : Nat}
    (shorter : count < (encode text).length) :
    ∃ whole later, text = whole ++ later ∧ count < (encode whole).length + 4 ∧
      decodeUtf8Prefix ((encode text).take count) true = some whole := by
  rcases take_encode count text shorter with
    ⟨whole, c, later, part, isText, partial', isCount, taken⟩
  rcases utf8EncodeChar_eq c with ⟨first, rest, bytes, starts, continues, long⟩
  have small : (String.utf8EncodeChar c).length ≤ 4 := by
    rw [String.length_utf8EncodeChar]
    exact c.utf8Size_le_four
  refine ⟨whole, c :: later, isText, by omega, ?_⟩
  rw [decodeUtf8Prefix, if_pos rfl, taken]
  cases part with
  | zero =>
    rw [List.take_zero, List.append_nil, incompleteTrailingSequenceStart_encode]
    simp [decodeFatal_encode]
  | succ part =>
    rw [bytes, List.length_cons] at partial'
    rw [bytes, List.take_succ_cons, incompleteTrailingSequenceStart_eq _ starts
      (fun byte member => continues byte (List.mem_of_mem_take member)),
      if_pos (by rw [List.length_take]; omega)]
    simp [decodeFatal_encode]

theorem decodeUtf8Prefix_all (text : List Char) :
    decodeUtf8Prefix (encode text) false = some text := by
  simp [decodeUtf8Prefix, decodeFatal_encode]

/-- What a page reads from the beginning of the text that is left. -/
theorem decodeUtf8Prefix_source (text : List Char) :
    ∃ whole later, text = whole ++ later ∧ (text ≠ [] → whole ≠ []) ∧
      decodeUtf8Prefix ((encode text).take workdirReadMaxBytes)
        (decide (((encode text).take workdirReadMaxBytes).length < (encode text).length)) =
          some whole := by
  by_cases shorter : workdirReadMaxBytes < (encode text).length
  · rcases decodeUtf8Prefix_take shorter with ⟨whole, later, isText, nearly, decoded⟩
    refine ⟨whole, later, isText, ?_, ?_⟩
    · rintro _ rfl
      exact absurd nearly (by decide)
    · rw [List.length_take, decide_eq_true (by omega)]
      exact decoded
  · refine ⟨text, [], (List.append_nil text).symm, id, ?_⟩
    rw [List.take_of_length_le (by omega), decide_eq_false (Nat.lt_irrefl _)]
    exact decodeUtf8Prefix_all text

theorem head_encode (text : List Char) : (encode text).head?.any isContinuation = false := by
  cases text with
  | nil => rfl
  | cons c rest =>
    rcases utf8EncodeChar_eq c with ⟨first, others, bytes, starts, _⟩
    rw [encode_cons, bytes]
    simp [starts]

/-- The page at the end of some characters has the next ones, and ends where they end. -/
theorem readRegisteredWorkdirFile_page (before text : List Char) {limit : Nat} (asked : 0 < limit) :
    ∃ page later, readRegisteredWorkdirFile (encode (before ++ text)) (encode before).length limit =
        .ok page ∧ text = page.content ++ later ∧ (text ≠ [] → page.content ≠ []) ∧
      page.nextOffset =
        if later = [] then none else some (encode (before ++ page.content)).length := by
  rcases decodeUtf8Prefix_source text with ⟨whole, later, isText, some', decoded⟩
  have left : (encode (before ++ text)).drop (encode before).length = encode text := by
    rw [encode_append, List.drop_left]
  have total : (encode (before ++ text)).length =
      (encode before).length + (encode text).length := by
    rw [encode_append, List.length_append]
  have more : decide ((encode before).length + ((encode text).take workdirReadMaxBytes).length <
      (encode (before ++ text)).length) =
        decide (((encode text).take workdirReadMaxBytes).length < (encode text).length) := by
    rw [total]
    simp
  unfold readRegisteredWorkdirFile
  rw [if_neg (by omega), left, head_encode, if_neg (by simp)]
  dsimp only
  rw [more, decoded]
  refine ⟨_, whole.drop limit ++ later, rfl, ?_, ?_, ?_⟩
  · change text = whole.take limit ++ (whole.drop limit ++ later)
    rw [← List.append_assoc, List.take_append_drop, isText]
  · intro nonempty
    cases whole with
    | nil => exact absurd rfl (some' nonempty)
    | cons c rest =>
      cases limit with
      | zero => exact absurd asked (Nat.lt_irrefl _)
      | succ limit => simp
  · have rest : encode text = encode (whole.take limit) ++ encode (whole.drop limit ++ later) := by
      rw [← encode_append, ← List.append_assoc, List.take_append_drop, isText]
    have size : (encode (before ++ text)).length = (encode before).length +
        (encode (whole.take limit)).length + (encode (whole.drop limit ++ later)).length := by
      rw [total, rest, List.length_append, Nat.add_assoc]
    change (if decide (_ < _) = true then _ else none) = _
    rw [size, encode_append before, List.length_append]
    by_cases done : whole.drop limit ++ later = []
    · rw [if_pos done, done]
      simp [encode]
    · have pos := encode_length_pos done
      rw [if_neg done, if_pos (decide_eq_true (by omega))]

theorem readPages_from (limits : Nat → Nat) (asked : ∀ index, 0 < limits index)
    (size index : Nat) (before text : List Char) (bounded : text.length < size) :
    ∃ pages, (∀ fuel, text.length < fuel →
        readPages (encode (before ++ text)) limits fuel index (encode before).length =
          some (.ok pages)) ∧
      pages.flatMap WorkdirPage.content = text ∧
      (text ≠ [] → ∀ page ∈ pages, page.content ≠ []) := by
  induction size generalizing index before text with
  | zero => exact absurd bounded (Nat.not_lt_zero _)
  | succ size ih =>
    rcases readRegisteredWorkdirFile_page before text (asked index) with
      ⟨page, later, read, isText, nonempty, next⟩
    by_cases done : later = []
    · refine ⟨[page], ?_, by simp [isText, done], ?_⟩
      · intro fuel enough
        cases fuel with
        | zero => exact absurd enough (Nat.not_lt_zero _)
        | succ fuel => simp [readPages, read, next, done]
      · intro some' other member
        rw [List.mem_singleton.1 member]
        exact nonempty some'
    · have some' : text ≠ [] := by
        intro isNone
        rw [isNone] at isText
        exact done (List.append_eq_nil_iff.1 isText.symm).2
      have long : 0 < page.content.length := List.length_pos_of_ne_nil (nonempty some')
      have shorter : text.length = page.content.length + later.length := by
        rw [isText, List.length_append]
      rcases ih (index + 1) (before ++ page.content) later (by omega) with
        ⟨pages, readLater, texts, others⟩
      rw [List.append_assoc, ← isText] at readLater
      refine ⟨page :: pages, ?_, ?_, ?_⟩
      · intro fuel enough
        cases fuel with
        | zero => exact absurd enough (Nat.not_lt_zero _)
        | succ fuel => simp [readPages, read, next, done, readLater fuel (by omega), Except.map]
      · rw [List.flatMap_cons, texts, isText]
      · intro _ other member
        rcases List.mem_cons.1 member with isPage | isLater
        · rw [isPage]
          exact nonempty some'
        · exact others done other isLater

/-- Following the offsets from the beginning of a UTF-8 file reads exactly its text, in finitely
many pages; none of them is empty unless the file is. -/
theorem paged_reads_lose_nothing (text : List Char) (limits : Nat → Nat)
    (accepted : ∀ index, 1 ≤ limits index ∧ limits index ≤ workdirReadMaxChars) :
    ∃ pages, (∀ fuel, text.length < fuel →
        readPages (encode text) limits fuel 0 0 = some (.ok pages)) ∧
      pages.flatMap WorkdirPage.content = text ∧
      (text ≠ [] → ∀ page ∈ pages, page.content ≠ []) :=
  readPages_from limits (fun index => (accepted index).1) (text.length + 1) 0 [] text
    (Nat.lt_succ_self _)

/-- Two characters of two bytes each, read one by one. -/
theorem paged_reads_lose_no_accent :
    ∃ pages, (∀ fuel, 2 < fuel →
        readPages (encode ['é', 'è']) (fun _ => 1) fuel 0 0 = some (.ok pages)) ∧
      pages.flatMap WorkdirPage.content = ['é', 'è'] ∧
      (['é', 'è'] ≠ [] → ∀ page ∈ pages, page.content ≠ []) :=
  paged_reads_lose_nothing ['é', 'è'] (fun _ => 1) (fun _ => by decide)

/-- The only page of an empty file is empty. -/
theorem empty_file_has_empty_page :
    ¬ ∀ (text : List Char) (fuel : Nat) (pages : List WorkdirPage),
      readPages (encode text) (fun _ => 1) fuel 0 0 = some (.ok pages) →
        ∀ page ∈ pages, page.content ≠ [] := by
  intro nonempty
  exact nonempty [] 1 _ rfl _ List.mem_cons_self rfl

end AnnaAgent.Host
