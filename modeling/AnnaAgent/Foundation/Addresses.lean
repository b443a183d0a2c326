/-
Internet addresses as numbers and as text.

The written forms are those of RFC 4291 and of the dotted decimal notation:
groups of hexadecimal digits between colons, one run of zero groups left out as
`::`, the last two groups in dotted decimal, and a zone after a `%`.  Blocks of
addresses are given by a prefix, as in CIDR notation.
-/

import Mathlib.Data.List.Forall2
import Mathlib.Data.List.Induction
import Mathlib.Data.Nat.Digits.Defs

namespace AnnaAgent.Foundation

def ofOctets (a b c d : Nat) : Nat := ((a * 256 + b) * 256 + c) * 256 + d

/-- The address whose groups of 16 bits are given, the first one first. -/
def ofGroups (groups : List Nat) : Nat := groups.foldl (fun address group => address * 65536 + group) 0

/-- The addresses of `width` bits that start with the first `length` bits of
`base`. -/
structure Block (width : Nat) where
  base : Nat
  length : Nat

def Block.Contains {width : Nat} (block : Block width) (address : Nat) : Prop :=
  address / 2 ^ (width - block.length) = block.base / 2 ^ (width - block.length)

instance {width : Nat} (block : Block width) (address : Nat) :
    Decidable (block.Contains address) :=
  inferInstanceAs (Decidable (_ = _))

/-- Decimal digits without leading zeros. -/
def decimal (value : Nat) : List Char := Nat.toDigits 10 value

inductive Ipv4Text : List Char → Nat → Prop
  | dotted {a b c d : Nat} (aFits : a < 256) (bFits : b < 256) (cFits : c < 256)
      (dFits : d < 256) :
      Ipv4Text (['.'].intercalate [decimal a, decimal b, decimal c, decimal d]) (ofOctets a b c d)

/-- The value of a hexadecimal digit, of either case. -/
def hexDigit? (c : Char) : Option Nat :=
  if 48 ≤ c.toNat ∧ c.toNat ≤ 57 then some (c.toNat - 48)
  else if 97 ≤ c.toNat ∧ c.toNat ≤ 102 then some (c.toNat - 87)
  else if 65 ≤ c.toNat ∧ c.toNat ≤ 70 then some (c.toNat - 55)
  else none

def isHexDigit (c : Char) : Bool := (hexDigit? c).isSome

def hexNumber (chars : List Char) : Nat :=
  chars.foldl (fun value c => value * 16 + (hexDigit? c).getD 0) 0

/-- One to four hexadecimal digits. -/
structure HexGroup (chars : List Char) (value : Nat) : Prop where
  some : chars ≠ []
  short : chars.length ≤ 4
  digits : chars.all isHexDigit = true
  isValue : hexNumber chars = value

variable {value : Nat}

theorem hexDigit_lt {c : Char} (isDigit : hexDigit? c = some value) : value < 16 := by
  unfold hexDigit? at isDigit
  split at isDigit
  · cases isDigit
    omega
  · split at isDigit
    · cases isDigit
      omega
    · split at isDigit
      · cases isDigit
        omega
      · cases isDigit

theorem hexNumber_lt (chars : List Char) : hexNumber chars < 16 ^ chars.length := by
  induction chars using List.reverseRecOn with
  | nil => exact Nat.one_pos
  | append_singleton chars c ih =>
    have digit : (hexDigit? c).getD 0 < 16 := by
      cases isDigit : hexDigit? c with
      | none => exact Nat.succ_pos 15
      | some value => exact hexDigit_lt isDigit
    unfold hexNumber at ih ⊢
    rw [List.foldl_append, List.length_append, List.length_singleton, pow_succ]
    change chars.foldl _ 0 * 16 + (hexDigit? c).getD 0 < _
    omega

theorem HexGroup.lt {part : List Char} (group : HexGroup part value) :
    value < 65536 := by
  rw [← group.isValue]
  have bound := hexNumber_lt part
  have short : 16 ^ part.length ≤ 16 ^ 4 := Nat.pow_le_pow_right (by omega) group.short
  omega

/-- A hexadecimal digit is none of the marks. -/
theorem isHexDigit_ne {c mark : Char} (isDigit : isHexDigit c = true)
    (isMark : isHexDigit mark = false) : c ≠ mark := by
  intro same
  rw [same, isMark] at isDigit
  cases isDigit

theorem HexGroup.free {part : List Char} (group : HexGroup part value) {mark : Char}
    (isMark : isHexDigit mark = false) : mark ∉ part := by
  intro member
  exact isHexDigit_ne (List.all_eq_true.1 group.digits mark member) isMark rfl

/-- Groups between colons, the last two perhaps in dotted decimal. -/
inductive GroupRun : List Char → List Nat → Prop
  | groups {parts : List (List Char)} {values : List Nat} (each : List.Forall₂ HexGroup parts values) :
      GroupRun ([':'].intercalate parts) values
  | dotted {parts : List (List Char)} {values : List Nat} {quad : List Char} {address : Nat}
      (each : List.Forall₂ HexGroup parts values) (tail : Ipv4Text quad address) :
      GroupRun ([':'].intercalate (parts ++ [quad])) (values ++ [address / 65536, address % 65536])

inductive Ipv6Plain : List Char → List Nat → Prop
  | full {text : List Char} {values : List Nat} (run : GroupRun text values)
      (eight : values.length = 8) : Ipv6Plain text values
  | compressed {parts : List (List Char)} {left right : List Nat} {text : List Char}
      (head : List.Forall₂ HexGroup parts left) (tail : GroupRun text right)
      (short : left.length + right.length < 8) :
      Ipv6Plain ([':'].intercalate parts ++ ':' :: ':' :: text)
        (left ++ List.replicate (8 - left.length - right.length) 0 ++ right)

def isZoneChar (c : Char) : Bool :=
  c.isAlphanum || c = '-' || c = '.' || c = ':'

/-- The text of an address of 128 bits, as its eight groups. -/
inductive Ipv6Text : List Char → List Nat → Prop
  | plain {text : List Char} {values : List Nat} (address : Ipv6Plain text values) :
      Ipv6Text text values
  | zoned {text zone : List Char} {values : List Nat} (address : Ipv6Plain text values)
      (some : zone ≠ []) (chars : zone.all isZoneChar = true) :
      Ipv6Text (text ++ '%' :: zone) values

theorem mem_intercalate {α : Type} {separator part : List α} {parts : List (List α)} {item : α}
    (isPart : part ∈ parts) (member : item ∈ part) : item ∈ separator.intercalate parts := by
  induction parts with
  | nil => exact absurd isPart List.not_mem_nil
  | cons first rest ih =>
    rcases List.mem_cons.1 isPart with same | later
    · subst same
      cases rest with
      | nil => simpa using member
      | cons next others =>
        rw [List.intercalate_cons_cons]
        exact List.mem_append_left _ (List.mem_append_left _ member)
    · rw [List.intercalate_cons_of_ne_nil (List.ne_nil_of_mem later)]
      exact List.mem_append_right _ (ih later)

variable {text : List Char} {values : List Nat} {address : Nat}

theorem Ipv4Text.dot_mem (isText : Ipv4Text text address) : '.' ∈ text := by
  cases isText with
  | dotted aFits bFits cFits dFits =>
    rw [List.intercalate_cons_cons]
    exact List.mem_append_left _ (List.mem_append_right _ List.mem_cons_self)

theorem GroupRun.groups_of_no_dot (run : GroupRun text values) (noDot : '.' ∉ text) :
    ∃ parts, List.Forall₂ HexGroup parts values ∧ text = [':'].intercalate parts := by
  cases run with
  | groups each => exact ⟨_, each, rfl⟩
  | @dotted parts values quad address each tail =>
    have last : quad ∈ parts ++ [quad] := List.mem_append_right _ List.mem_cons_self
    exact absurd (mem_intercalate last tail.dot_mem) noDot

theorem Ipv4Text.lt (isText : Ipv4Text text address) : address < 4294967296 := by
  cases isText with
  | dotted aFits bFits cFits dFits =>
    unfold ofOctets
    omega

theorem groups_lt {parts : List (List Char)} (each : List.Forall₂ HexGroup parts values) :
    ∀ value ∈ values, value < 65536 := by
  induction each with
  | nil => exact nofun
  | cons group _ ih =>
    intro value member
    rcases List.mem_cons.1 member with same | later
    · rw [same]
      exact group.lt
    · exact ih value later

theorem GroupRun.lt (run : GroupRun text values) : ∀ value ∈ values, value < 65536 := by
  cases run with
  | groups each => exact groups_lt each
  | dotted each tail =>
    intro value member
    have bound := tail.lt
    rcases List.mem_append.1 member with early | late
    · exact groups_lt each value early
    · simp only [List.mem_cons, List.not_mem_nil, or_false] at late
      omega

theorem Ipv6Plain.eight (address : Ipv6Plain text values) :
    values.length = 8 ∧ ∀ value ∈ values, value < 65536 := by
  cases address with
  | full run eight => exact ⟨eight, run.lt⟩
  | compressed head tail short =>
    constructor
    · rw [List.length_append, List.length_append, List.length_replicate]
      omega
    · intro value member
      rw [List.mem_append, List.mem_append] at member
      rcases member with (early | zero) | late
      · exact groups_lt head value early
      · rw [(List.mem_replicate.1 zero).2]
        omega
      · exact tail.lt value late

theorem Ipv6Text.eight (address : Ipv6Text text values) :
    values.length = 8 ∧ ∀ value ∈ values, value < 65536 := by
  cases address with
  | plain address | zoned address some chars => exact address.eight

theorem decimal_free : ∀ value < 256, '.' ∉ decimal value ∧ ':' ∉ decimal value := by
  decide +kernel

theorem decimal_digits : ∀ value < 256, (decimal value).all Char.isDigit = true := by
  decide +kernel

theorem Ipv4Text.chars (isText : Ipv4Text text address) :
    text.all (fun c => c = '.' || c.isDigit) = true := by
  cases isText with
  | @dotted a b c d aFits bFits cFits dFits =>
    have digits : ∀ value < 256, ∀ c ∈ decimal value, c = '.' ∨ c.isDigit = true :=
      fun value fits c member => Or.inr (List.all_eq_true.1 (decimal_digits value fits) c member)
    simp [List.intercalate_cons_cons]
    exact ⟨digits a aFits, digits b bFits, digits c cFits, digits d dFits⟩

theorem separator_mem_intercalate {α : Type} {separator : α} {parts : List (List α)}
    (two : 2 ≤ parts.length) : separator ∈ [separator].intercalate parts := by
  match parts, two with
  | first :: next :: others, _ =>
    rw [List.intercalate_cons_cons]
    exact List.mem_append_left _ (List.mem_append_right _ List.mem_cons_self)

theorem Ipv4Text.no_colon (isText : Ipv4Text text address) : ':' ∉ text := by
  cases isText with
  | @dotted a b c d aFits bFits cFits dFits =>
    simp [List.intercalate_cons_cons, decimal_free a aFits, decimal_free b bFits,
      decimal_free c cFits, decimal_free d dFits]

theorem GroupRun.colon_mem (run : GroupRun text values) (eight : values.length = 8) :
    ':' ∈ text := by
  cases run with
  | groups each =>
    apply separator_mem_intercalate
    rw [each.length_eq, eight]
    omega
  | dotted each tail =>
    apply separator_mem_intercalate
    rw [List.length_append] at eight ⊢
    rw [each.length_eq]
    change _ + 2 = 8 at eight
    change 2 ≤ _ + 1
    omega

theorem Ipv6Text.colon_mem (address : Ipv6Text text values) : ':' ∈ text := by
  have plain : ∀ {text : List Char}, Ipv6Plain text values → ':' ∈ text := by
    intro text address
    cases address with
    | full run eight => exact run.colon_mem eight
    | compressed head tail short => exact List.mem_append_right _ List.mem_cons_self
  cases address with
  | plain address => exact plain address
  | zoned address some chars => exact List.mem_append_left _ (plain address)

/-! ### Splitting at a doubled separator -/

section SplitPair

variable {α : Type}

theorem intercalate_modifyHead (separator : List α) (item : α) {parts : List (List α)}
    (some : parts ≠ []) :
    separator.intercalate (parts.modifyHead (item :: ·)) = item :: separator.intercalate parts := by
  cases parts with
  | nil => exact absurd rfl some
  | cons part rest =>
    cases rest with
    | nil => simp
    | cons next others => simp [List.intercalate_cons_cons]

/-- No two separators stand side by side, and none at the end. -/
def Loose (x : α) : List α → Prop
  | [] => True
  | [item] => item ≠ x
  | item :: next :: rest => ¬(item = x ∧ next = x) ∧ Loose x (next :: rest)

variable {items : List α} {x : α}

theorem loose_of_not_mem (free : x ∉ items) : Loose x items := by
  induction items with
  | nil => trivial
  | cons item others ih =>
    cases others with
    | nil => exact fun same => free (same ▸ List.mem_cons_self)
    | cons next more =>
      exact ⟨fun both => free (both.1 ▸ List.mem_cons_self),
        ih (fun member => free (List.mem_cons_of_mem _ member))⟩

theorem loose_append {part : List α} {item : α} {rest : List α} (some : part ≠ []) (free : x ∉ part)
    (differs : item ≠ x) (loose : Loose x (item :: rest)) :
    Loose x (part ++ x :: item :: rest) := by
  induction part with
  | nil => exact absurd rfl some
  | cons first others ih =>
    have firstDiffers : first ≠ x := fun same => free (same ▸ List.mem_cons_self)
    cases others with
    | nil => exact ⟨fun both => firstDiffers both.1, fun both => differs both.2, loose⟩
    | cons next more =>
      exact ⟨fun both => firstDiffers both.1,
        ih (List.cons_ne_nil _ _) (fun member => free (List.mem_cons_of_mem _ member))⟩

/-- Parts that are not empty and hold no separator, joined by it. -/
theorem loose_intercalate {parts : List (List α)} (some : ∀ part ∈ parts, part ≠ [])
    (free : ∀ part ∈ parts, x ∉ part) : Loose x ([x].intercalate parts) := by
  induction parts with
  | nil => trivial
  | cons part rest ih =>
    have later := ih (fun other member => some other (List.mem_cons_of_mem _ member))
      (fun other member => free other (List.mem_cons_of_mem _ member))
    have partFree := free part List.mem_cons_self
    have partSome := some part List.mem_cons_self
    cases rest with
    | nil =>
      rw [List.intercalate_singleton]
      exact loose_of_not_mem partFree
    | cons next others =>
      rw [List.intercalate_cons_cons]
      have nextSome := some next (List.mem_cons_of_mem _ List.mem_cons_self)
      have nextFree := free next (List.mem_cons_of_mem _ List.mem_cons_self)
      cases next with
      | nil => exact absurd rfl nextSome
      | cons item more =>
        have differs : item ≠ x := fun same => nextFree (same ▸ List.mem_cons_self)
        have shape : ∃ tail, [x].intercalate ((item :: more) :: others) = item :: tail := by
          cases others with
          | nil => exact ⟨more, by rw [List.intercalate_singleton]⟩
          | cons another rest =>
            exact ⟨_, by rw [List.intercalate_cons_cons, List.append_assoc, List.cons_append]⟩
        obtain ⟨tail, isTail⟩ := shape
        rw [isTail] at later ⊢
        rw [List.append_assoc]
        exact loose_append partSome partFree differs later

variable [DecidableEq α]

/-- The parts between the occurrences of `[x, x]`, found from the left. -/
def splitPair (x : α) : List α → List (List α)
  | [] => [[]]
  | [item] => [[item]]
  | item :: next :: rest =>
    if item = x ∧ next = x then [] :: splitPair x rest
    else (splitPair x (next :: rest)).modifyHead (item :: ·)

theorem splitPair_ne_nil (x : α) (items : List α) : splitPair x items ≠ [] := by
  fun_induction splitPair x items with
  | case1 | case2 item | case3 item next rest doubled ih => exact List.cons_ne_nil _ _
  | case4 item next rest apart ih =>
    rw [ne_eq, List.modifyHead_eq_nil_iff]
    exact ih

/-- Joining the parts again gives the list. -/
theorem intercalate_splitPair (x : α) (items : List α) :
    [x, x].intercalate (splitPair x items) = items := by
  fun_induction splitPair x items with
  | case1 => rfl
  | case2 item => rfl
  | case3 item next rest doubled ih =>
    rw [List.intercalate_cons_of_ne_nil (splitPair_ne_nil x rest), ih, doubled.1, doubled.2]
    rfl
  | case4 item next rest apart ih =>
    rw [intercalate_modifyHead _ _ (splitPair_ne_nil x _), ih]

theorem splitPair_loose (loose : Loose x items) :
    splitPair x items = [items] := by
  fun_induction splitPair x items with
  | case1 => rfl
  | case2 item => rfl
  | case3 item next rest doubled ih => exact absurd doubled loose.1
  | case4 item next rest apart ih =>
    rw [ih loose.2]
    rfl

theorem splitPair_append (loose : Loose x items) (rest : List α) :
    splitPair x (items ++ x :: x :: rest) = items :: splitPair x rest := by
  induction items with
  | nil => simp [splitPair]
  | cons item others ih =>
    cases others with
    | nil =>
      have apart : ¬(item = x ∧ x = x) := fun both => loose both.1
      change splitPair x (item :: x :: x :: rest) = _
      rw [splitPair, if_neg apart, ← List.nil_append (x :: x :: rest), ih trivial]
      rfl
    | cons next more =>
      change splitPair x (item :: next :: (more ++ x :: x :: rest)) = _
      rw [splitPair, if_neg loose.1]
      have later := ih loose.2
      rw [List.cons_append] at later
      rw [later]
      rfl

end SplitPair

end AnnaAgent.Foundation
