/-
Public web reads reach only public addresses.

The address tests of the reader agree with the blocks they stand for, on every
text of an address, except that texts of IPv6 addresses with a dotted tail or a
zone are never public.  Every transport call then goes to an address that the
hop itself has checked.
-/

import AnnaAgent.Host.PublicWeb

namespace AnnaAgent.Host

open Foundation

/-- The blocks that the reader keeps out. -/
def closedIpv4 : List (Block 32) :=
  [⟨ofOctets 0 0 0 0, 8⟩, ⟨ofOctets 10 0 0 0, 8⟩, ⟨ofOctets 100 64 0 0, 10⟩,
    ⟨ofOctets 127 0 0 0, 8⟩, ⟨ofOctets 169 254 0 0, 16⟩, ⟨ofOctets 172 16 0 0, 12⟩,
    ⟨ofOctets 192 0 0 0, 24⟩, ⟨ofOctets 192 0 2 0, 24⟩, ⟨ofOctets 192 88 99 0, 24⟩,
    ⟨ofOctets 192 168 0 0, 16⟩, ⟨ofOctets 198 18 0 0, 15⟩, ⟨ofOctets 198 51 100 0, 24⟩,
    ⟨ofOctets 203 0 113 0, 24⟩, ⟨ofOctets 224 0 0 0, 4⟩, ⟨ofOctets 240 0 0 0, 4⟩]

def OpenIpv4 (address : Nat) : Prop := ∀ block ∈ closedIpv4, ¬block.Contains address

theorem decimal_octet : ∀ value < 256, isOctet (decimal value) = true ∧
    decimalNumber (decimal value) = value := by
  decide +kernel

theorem splitOn_quad {a b c d : Nat} (aFits : a < 256) (bFits : b < 256) (cFits : c < 256)
    (dFits : d < 256) :
    (['.'].intercalate [decimal a, decimal b, decimal c, decimal d]).splitOn '.' =
      [decimal a, decimal b, decimal c, decimal d] := by
  apply List.splitOn_intercalate
  · intro part member
    simp only [List.mem_cons, List.not_mem_nil, or_false] at member
    rcases member with rfl | rfl | rfl | rfl
    · exact (decimal_free a aFits).1
    · exact (decimal_free b bFits).1
    · exact (decimal_free c cFits).1
    · exact (decimal_free d dFits).1
  · exact List.cons_ne_nil _ _

theorem openIpv4_iff {a b c d : Nat} (aFits : a < 256) (bFits : b < 256) (cFits : c < 256)
    (dFits : d < 256) :
    OpenIpv4 (ofOctets a b c d) ↔
      ¬(a = 0 ∨ a = 10 ∨ (a = 100 ∧ 64 ≤ b ∧ b ≤ 127) ∨ a = 127 ∨ (a = 169 ∧ b = 254)
        ∨ (a = 172 ∧ 16 ≤ b ∧ b ≤ 31) ∨ (a = 192 ∧ b = 0 ∧ c = 0) ∨ (a = 192 ∧ b = 0 ∧ c = 2)
        ∨ (a = 192 ∧ b = 88 ∧ c = 99) ∨ (a = 192 ∧ b = 168) ∨ (a = 198 ∧ 18 ≤ b ∧ b ≤ 19)
        ∨ (a = 198 ∧ b = 51 ∧ c = 100) ∨ (a = 203 ∧ b = 0 ∧ c = 113) ∨ 224 ≤ a) := by
  have block0 : (⟨ofOctets 0 0 0 0, 8⟩ : Block 32).Contains (ofOctets a b c d) ↔ a = 0 := by
    norm_num [Block.Contains, ofOctets]
    omega
  have block1 : (⟨ofOctets 10 0 0 0, 8⟩ : Block 32).Contains (ofOctets a b c d) ↔ a = 10 := by
    norm_num [Block.Contains, ofOctets]
    omega
  have block2 : (⟨ofOctets 100 64 0 0, 10⟩ : Block 32).Contains (ofOctets a b c d) ↔ a = 100 ∧ 64 ≤ b ∧ b ≤ 127 := by
    norm_num [Block.Contains, ofOctets]
    omega
  have block3 : (⟨ofOctets 127 0 0 0, 8⟩ : Block 32).Contains (ofOctets a b c d) ↔ a = 127 := by
    norm_num [Block.Contains, ofOctets]
    omega
  have block4 : (⟨ofOctets 169 254 0 0, 16⟩ : Block 32).Contains (ofOctets a b c d) ↔ a = 169 ∧ b = 254 := by
    norm_num [Block.Contains, ofOctets]
    omega
  have block5 : (⟨ofOctets 172 16 0 0, 12⟩ : Block 32).Contains (ofOctets a b c d) ↔ a = 172 ∧ 16 ≤ b ∧ b ≤ 31 := by
    norm_num [Block.Contains, ofOctets]
    omega
  have block6 : (⟨ofOctets 192 0 0 0, 24⟩ : Block 32).Contains (ofOctets a b c d) ↔ a = 192 ∧ b = 0 ∧ c = 0 := by
    norm_num [Block.Contains, ofOctets]
    omega
  have block7 : (⟨ofOctets 192 0 2 0, 24⟩ : Block 32).Contains (ofOctets a b c d) ↔ a = 192 ∧ b = 0 ∧ c = 2 := by
    norm_num [Block.Contains, ofOctets]
    omega
  have block8 : (⟨ofOctets 192 88 99 0, 24⟩ : Block 32).Contains (ofOctets a b c d) ↔ a = 192 ∧ b = 88 ∧ c = 99 := by
    norm_num [Block.Contains, ofOctets]
    omega
  have block9 : (⟨ofOctets 192 168 0 0, 16⟩ : Block 32).Contains (ofOctets a b c d) ↔ a = 192 ∧ b = 168 := by
    norm_num [Block.Contains, ofOctets]
    omega
  have block10 : (⟨ofOctets 198 18 0 0, 15⟩ : Block 32).Contains (ofOctets a b c d) ↔ a = 198 ∧ 18 ≤ b ∧ b ≤ 19 := by
    norm_num [Block.Contains, ofOctets]
    omega
  have block11 : (⟨ofOctets 198 51 100 0, 24⟩ : Block 32).Contains (ofOctets a b c d) ↔ a = 198 ∧ b = 51 ∧ c = 100 := by
    norm_num [Block.Contains, ofOctets]
    omega
  have block12 : (⟨ofOctets 203 0 113 0, 24⟩ : Block 32).Contains (ofOctets a b c d) ↔ a = 203 ∧ b = 0 ∧ c = 113 := by
    norm_num [Block.Contains, ofOctets]
    omega
  have multicast : (⟨ofOctets 224 0 0 0, 4⟩ : Block 32).Contains (ofOctets a b c d) ↔
      224 ≤ a ∧ a < 240 := by
    norm_num [Block.Contains, ofOctets]
    omega
  have reserved : (⟨ofOctets 240 0 0 0, 4⟩ : Block 32).Contains (ofOctets a b c d) ↔ 240 ≤ a := by
    norm_num [Block.Contains, ofOctets]
    omega
  have highest : ¬(224 ≤ a ∧ a < 240) ∧ ¬240 ≤ a ↔ ¬224 ≤ a := by omega
  unfold OpenIpv4 closedIpv4
  simp only [List.forall_mem_cons, List.not_mem_nil, false_imp_iff, implies_true, and_true,
    not_or, block0, block1, block2, block3, block4, block5, block6, block7, block8, block9, block10, block11, block12,
    multicast, reserved, highest]

variable {address : String} {value : Nat}

theorem isPublicIpv4_iff (isText : Ipv4Text address.toList value) :
    isPublicIpv4 address = true ↔ OpenIpv4 value := by
  generalize isChars : address.toList = chars at isText
  cases isText with
  | @dotted a b c d aFits bFits cFits dFits =>
    rw [openIpv4_iff aFits bFits cFits dFits]
    have wanted : [decimal a, decimal b, decimal c, decimal d].any
        (fun octet => !isOctet octet) = false := by
      simp [decimal_octet a aFits, decimal_octet b bFits, decimal_octet c cFits,
        decimal_octet d dFits]
    have numbers : [decimal a, decimal b, decimal c, decimal d].map decimalNumber =
        [a, b, c, d] := by
      simp [decimal_octet a aFits, decimal_octet b bFits, decimal_octet c cFits,
        decimal_octet d dFits]
    have fits : [a, b, c, d].any (fun value => decide (255 < value)) = false := by
      simp
      omega
    unfold isPublicIpv4
    rw [isChars, splitOn_quad aFits bFits cFits dFits]
    simp only [wanted, numbers, fits, List.length_cons, List.length_nil]
    simp only [Nat.reduceAdd, ne_eq, not_true, decide_false, Bool.or_false, Bool.false_eq_true,
      if_false, Bool.not_eq_true', decide_eq_false_iff_not]

theorem isGroup_iff {part : List Char} : isGroup part = true ↔ HexGroup part (hexNumber part) := by
  unfold isGroup
  rw [Bool.and_eq_true, Bool.and_eq_true, decide_eq_true_eq, Bool.not_eq_true',
    List.isEmpty_eq_false_iff]
  constructor
  · rintro ⟨⟨some, short⟩, digits⟩
    exact ⟨some, short, digits, rfl⟩
  · intro group
    exact ⟨⟨group.some, group.short⟩, group.digits⟩

theorem isGroup_of {part : List Char} (group : HexGroup part value) :
    isGroup part = true := by
  rw [isGroup_iff, group.isValue]
  exact group

variable {parts : List (List Char)} {values : List Nat}

theorem forall₂_groups (each : parts.all isGroup = true) :
    List.Forall₂ HexGroup parts (parts.map hexNumber) := by
  rw [List.forall₂_map_right_iff, List.forall₂_same]
  intro part member
  exact isGroup_iff.1 (List.all_eq_true.1 each part member)

section

variable (each : List.Forall₂ HexGroup parts values)

include each

theorem groups_all : parts.all isGroup = true := by
  induction each with
  | nil => rfl
  | cons group _ ih =>
    rw [List.all_cons, isGroup_of group, ih]
    rfl

theorem groups_values : parts.map hexNumber = values := by
  induction each with
  | nil => rfl
  | cons group _ ih => rw [List.map_cons, group.isValue, ih]

theorem groups_loose : Loose ':' ([':'].intercalate parts) := by
  apply loose_intercalate
  · intro part member
    exact (isGroup_iff.1 (List.all_eq_true.1 (groups_all each) part member)).some
  · intro part member
    exact (isGroup_iff.1 (List.all_eq_true.1 (groups_all each) part member)).free (by decide)

theorem groupParts_join : groupParts ([':'].intercalate parts) = parts := by
  unfold groupParts
  cases each with
  | nil => rfl
  | @cons part value rest others group later =>
    have free : ∀ other ∈ part :: rest, ':' ∉ other := by
      intro other member
      exact (isGroup_iff.1 (List.all_eq_true.1 (groups_all (.cons group later)) other
        member)).free (by decide)
    have split := List.splitOn_intercalate ':' free (List.cons_ne_nil part rest)
    rw [split]
    split
    · rename_i empty
      rw [empty] at split
      cases rest with
      | nil =>
        cases split
        exact absurd rfl group.some
      | cons next more => cases split
    · rfl

end

theorem join_groupParts (half : List Char) : [':'].intercalate (groupParts half) = half := by
  unfold groupParts
  split
  · rename_i empty
    rw [empty]
    rfl
  · exact List.intercalate_splitOn ':'

theorem map_hexNumber_zeros (left right : List (List Char)) (count : Nat) :
    (left ++ List.replicate count ['0'] ++ right).map hexNumber =
      left.map hexNumber ++ List.replicate count 0 ++ right.map hexNumber := by
  rw [List.map_append, List.map_append, List.map_replicate]
  rfl

theorem parseIpv6_sound {bytes : List Nat} (isParsed : parseIpv6 address = some bytes) :
    '.' ∉ address.toList ∧ '%' ∉ address.toList ∧
      ∃ groups, Ipv6Plain address.toList groups ∧ bytes = groupBytes groups := by
  unfold parseIpv6 at isParsed
  split at isParsed
  · cases isParsed
  · rename_i unmarked
    rw [not_or] at unmarked
    refine ⟨unmarked.2, unmarked.1, ?_⟩
    have joined := intercalate_splitPair ':' address.toList
    have some := splitPair_ne_nil ':' address.toList
    dsimp only at isParsed
    generalize splitPair ':' address.toList = halves at isParsed joined some
    split at isParsed
    · cases isParsed
    · rename_i atMostTwo
      split at isParsed
      · cases isParsed
      · rename_i valid
        have allGroups : (groupParts (halves.headD []) ++
            groupParts (halves[1]?.getD [])).all isGroup = true := by
          rw [List.all_eq_true]
          intro part member
          by_contra notGroup
          exact valid (List.any_eq_true.2 ⟨part, member, by simpa using notGroup⟩)
        rw [List.all_append, Bool.and_eq_true] at allGroups
        have leftGroups := forall₂_groups allGroups.1
        have rightGroups := forall₂_groups allGroups.2
        split at isParsed
        · cases isParsed
        · rename_i whole
          split at isParsed
          · cases isParsed
          · rename_i short
            cases isParsed
            cases halves with
            | nil => exact absurd rfl some
            | cons left rest =>
              cases rest with
              | nil =>
                have eight : (groupParts left).length = 8 := by
                  by_contra other
                  exact whole ⟨rfl, other⟩
                have isText : address.toList = [':'].intercalate (groupParts left) := by
                  rw [← joined, List.intercalate_singleton, join_groupParts]
                refine ⟨(groupParts left).map hexNumber, ?_, ?_⟩
                · rw [isText]
                  exact .full (.groups leftGroups) (by rw [List.length_map, eight])
                · have nothing : groupParts ([left][1]?.getD []) = [] := rfl
                  rw [map_hexNumber_zeros, nothing]
                  simp [eight]
              | cons right others =>
                have isEmpty : others = [] := by
                  simp only [List.length_cons] at atMostTwo
                  exact List.eq_nil_of_length_eq_zero (by omega)
                subst isEmpty
                have room : (groupParts left).length + (groupParts right).length < 8 := by
                  by_contra full
                  exact short ⟨rfl, by simpa using full⟩
                have isText : address.toList = [':'].intercalate (groupParts left) ++
                    ':' :: ':' :: [':'].intercalate (groupParts right) := by
                  rw [← joined, List.intercalate_cons_cons, List.intercalate_singleton,
                    join_groupParts, join_groupParts, List.append_assoc]
                  rfl
                have denotes := Ipv6Plain.compressed leftGroups (.groups rightGroups)
                  (by rw [List.length_map, List.length_map]; exact room)
                refine ⟨_, isText ▸ denotes, ?_⟩
                rw [map_hexNumber_zeros, List.length_map, List.length_map]

variable {groups : List Nat}

theorem parseIpv6_complete (isText : Ipv6Text address.toList groups)
    (noDot : '.' ∉ address.toList) (noZone : '%' ∉ address.toList) :
    parseIpv6 address = some (groupBytes groups) := by
  generalize isChars : address.toList = chars at isText noDot noZone
  unfold parseIpv6
  rw [isChars, if_neg (not_or.2 ⟨noZone, noDot⟩)]
  dsimp only
  cases isText with
  | zoned plain some zoneChars =>
    exact absurd (List.mem_append_right _ List.mem_cons_self) noZone
  | plain plain =>
    cases plain with
    | full run eight =>
      obtain ⟨parts, each, rfl⟩ := run.groups_of_no_dot noDot
      have length : parts.length = 8 := by rw [each.length_eq, eight]
      have valid : parts.any (fun part => !isGroup part) = false := by
        simpa using groups_all each
      rw [splitPair_loose (groups_loose each)]
      simp only [List.length_singleton, List.headD_cons, groupParts_join each]
      simp [groupParts, length, valid, groups_values each]
    | @compressed parts left right text head tail short =>
      have tailNoDot : '.' ∉ text := by
        intro member
        exact noDot (List.mem_append_right _
          (List.mem_cons_of_mem _ (List.mem_cons_of_mem _ member)))
      obtain ⟨others, each, rfl⟩ := tail.groups_of_no_dot tailNoDot
      rw [splitPair_append (groups_loose head), splitPair_loose (groups_loose each)]
      have valid : (parts ++ others).any (fun part => !isGroup part) = false := by
        rw [List.any_append]
        have leftValid := List.all_eq_true.1 (groups_all head)
        have rightValid := List.all_eq_true.1 (groups_all each)
        simpa using And.intro leftValid rightValid
      have leftLength := head.length_eq
      have rightLength := each.length_eq
      simp only [List.headD_cons, List.length_cons, List.length_nil, List.getElem?_cons_succ,
        List.getElem?_cons_zero, Option.getD_some, groupParts_join head, groupParts_join each,
        valid]
      rw [if_neg (by omega), if_neg (by simp), if_neg (by omega), if_neg (by omega),
        map_hexNumber_zeros, groups_values head, groups_values each, leftLength, rightLength]

/-- The blocks that the reader keeps out: all but `2000::/3`, and in it
`2001::/23`, `2001:db8::/32`, `2002::/16` and `3ff0::/12`. -/
def closedIpv6 : List (Block 128) :=
  [⟨ofGroups [0, 0, 0, 0, 0, 0, 0, 0], 3⟩, ⟨ofGroups [0x4000, 0, 0, 0, 0, 0, 0, 0], 2⟩,
    ⟨ofGroups [0x8000, 0, 0, 0, 0, 0, 0, 0], 1⟩, ⟨ofGroups [0x2001, 0, 0, 0, 0, 0, 0, 0], 23⟩,
    ⟨ofGroups [0x2001, 0xdb8, 0, 0, 0, 0, 0, 0], 32⟩, ⟨ofGroups [0x2002, 0, 0, 0, 0, 0, 0, 0], 16⟩,
    ⟨ofGroups [0x3ff0, 0, 0, 0, 0, 0, 0, 0], 12⟩]

def OpenIpv6 (address : Nat) : Prop := ∀ block ∈ closedIpv6, ¬block.Contains address

theorem ofGroups_high (first second : Nat) {third fourth fifth sixth seventh eighth : Nat}
    (thirdFits : third < 65536) (fourthFits : fourth < 65536) (fifthFits : fifth < 65536)
    (sixthFits : sixth < 65536) (seventhFits : seventh < 65536) (eighthFits : eighth < 65536) :
    ofGroups [first, second, third, fourth, fifth, sixth, seventh, eighth] / 2 ^ 96 =
      first * 65536 + second := by
  simp only [ofGroups, List.foldl_cons, List.foldl_nil]
  omega

theorem contains_high (block : Block 128) (address : Nat) (short : block.length ≤ 32) :
    block.Contains address ↔
      address / 2 ^ 96 / 2 ^ (32 - block.length) =
        block.base / 2 ^ 96 / 2 ^ (32 - block.length) := by
  have width : 2 ^ (128 - block.length) = 2 ^ 96 * 2 ^ (32 - block.length) := by
    rw [← pow_add]
    congr 1
    omega
  unfold Block.Contains
  rw [width, ← Nat.div_div_eq_div_mul, ← Nat.div_div_eq_div_mul]

theorem openIpv6_iff {first second address : Nat} (firstFits : first < 65536)
    (secondFits : second < 65536) (high : address / 2 ^ 96 = first * 65536 + second) :
    OpenIpv6 address ↔
      (8192 ≤ first ∧ first < 16384) ∧ ¬(first = 8193 ∧ second < 512) ∧
        ¬(first = 8193 ∧ second = 3512) ∧ ¬first = 8194 ∧ ¬(16368 ≤ first ∧ first < 16384) := by
  unfold OpenIpv6 closedIpv6
  simp only [List.forall_mem_cons, List.not_mem_nil, false_imp_iff, implies_true, and_true]
  rw [contains_high _ _ (by decide), contains_high _ _ (by decide), contains_high _ _ (by decide),
    contains_high _ _ (by decide), contains_high _ _ (by decide), contains_high _ _ (by decide),
    contains_high _ _ (by decide), high]
  norm_num [ofGroups]
  omega

theorem land_high_bits : ∀ byte < 256,
    (byte &&& 0xe0 = 0x20 ↔ 32 ≤ byte ∧ byte < 64) ∧ (byte &&& 0xf0 = 0xf0 ↔ 240 ≤ byte) := by
  decide +kernel

theorem isPublicIpv6_of_bytes (isParsed : parseIpv6 address = some (groupBytes groups))
    (eight : groups.length = 8) (fits : ∀ group ∈ groups, group < 65536) :
    isPublicIpv6 address = true ↔ OpenIpv6 (ofGroups groups) := by
  match groups, eight with
  | [first, second, third, fourth, fifth, sixth, seventh, eighth], _ =>
    simp only [List.forall_mem_cons, List.not_mem_nil, false_imp_iff, implies_true, and_true]
      at fits
    obtain ⟨firstFits, secondFits, thirdFits, fourthFits, fifthFits, sixthFits, seventhFits,
      eighthFits⟩ := fits
    have high := ofGroups_high first second thirdFits fourthFits fifthFits
      sixthFits seventhFits eighthFits
    rw [openIpv6_iff firstFits secondFits high]
    unfold isPublicIpv6
    rw [isParsed]
    have low : ∀ value : Nat, value &&& 255 = value % 256 :=
      fun value => Nat.and_two_pow_sub_one_eq_mod value 8
    simp only [groupBytes, List.flatMap_cons, List.flatMap_nil, List.cons_append, List.nil_append,
      List.getD_cons_zero, List.getD_cons_succ, Nat.shiftRight_eq_div_pow, low]
    have firstByte := (land_high_bits (first / 2 ^ 8) (by omega)).1
    have secondByte := (land_high_bits (first % 256) (by omega)).2
    simp only [ne_eq, firstByte, secondByte]
    split
    · simp
      omega
    · split
      · simp
        omega
      · split
        · simp
          omega
        · split
          · simp
            omega
          · split
            · simp
              omega
            · simp
              omega

/-- A text with a dotted tail or a zone is not public; the verdict on any other
text is that on the address it denotes. -/
theorem isPublicIpv6_iff (isText : Ipv6Text address.toList groups) :
    isPublicIpv6 address = true ↔
      ('.' ∉ address.toList ∧ '%' ∉ address.toList) ∧ OpenIpv6 (ofGroups groups) := by
  obtain ⟨eight, fits⟩ := isText.eight
  by_cases unmarked : '.' ∉ address.toList ∧ '%' ∉ address.toList
  · rw [isPublicIpv6_of_bytes (parseIpv6_complete isText unmarked.1 unmarked.2) eight fits]
    exact ⟨fun isOpen => ⟨unmarked, isOpen⟩, fun both => both.2⟩
  · constructor
    · intro isPublic
      unfold isPublicIpv6 at isPublic
      cases isParsed : parseIpv6 address with
      | none =>
        rw [isParsed] at isPublic
        cases isPublic
      | some bytes =>
        obtain ⟨noDot, noZone, _⟩ := parseIpv6_sound isParsed
        exact absurd ⟨noDot, noZone⟩ unmarked
    · exact fun both => absurd both.1 unmarked

/-! ### Reading -/

/-- What `net.isIP` is documented to answer. -/
structure IsIPDocumented (isIP : String → Nat) : Prop where
  four : ∀ text, isIP text = 4 ↔ ∃ value, Ipv4Text text.toList value
  six : ∀ text, isIP text = 6 ↔ ∃ groups, Ipv6Text text.toList groups

/-- The address lies outside every block that is kept out. -/
def OpenAddress (address : PublicWebAddress) : Prop :=
  (address.family = 4 ∧ ∃ value, Ipv4Text address.address.toList value ∧ OpenIpv4 value) ∨
    (address.family = 6 ∧
      ∃ groups, Ipv6Text address.address.toList groups ∧ OpenIpv6 (ofGroups groups))

/-- `http` or `https` on the default port, without credentials. -/
def OpenUrl (url : Url) : Prop :=
  ((url.protocol = "http:" ∧ (url.port = "" ∨ url.port = "80")) ∨
    (url.protocol = "https:" ∧ (url.port = "" ∨ url.port = "443"))) ∧
    url.username = "" ∧ url.password = ""

/-- The call goes to the first address of its own hop, and the hop has found
all its addresses to be public. -/
structure CallAllowed (platform : Platform) (answers : Answers) (call : TransportCall) : Prop where
  url : ∃ url, platform.parseUrl call.url = some url ∧ OpenUrl url ∧
    ∃ rest, hopAddresses platform answers call.hop url = some (call.address :: rest) ∧
      ∀ candidate ∈ call.address :: rest, isPublicWebAddress platform candidate = true
  address : OpenAddress call.address

variable {text : String}

theorem openUrl_of_parsed {platform : Platform} {url : Url}
    (isParsed : parsePublicUrl platform text = some url) :
    platform.parseUrl text = some url ∧ OpenUrl url := by
  unfold parsePublicUrl at isParsed
  split at isParsed
  · cases isParsed
  · rename_i parsed isUrl
    rw [Option.ite_none_left_eq_some] at isParsed
    obtain ⟨accepted, same⟩ := isParsed
    cases same
    refine ⟨isUrl, ?_⟩
    rw [not_or, not_or, not_or, not_not, not_not] at accepted
    obtain ⟨scheme, username, password, port⟩ := accepted
    refine ⟨?_, username, password⟩
    by_cases http : url.protocol = "http:"
    · rw [if_pos http] at port
      left
      refine ⟨http, ?_⟩
      by_cases empty : url.port = ""
      · exact Or.inl empty
      · by_contra other
        exact port ⟨empty, fun isDefault => other (Or.inr isDefault)⟩
    · rw [if_neg http] at port
      right
      refine ⟨?_, ?_⟩
      · by_contra other
        exact scheme ⟨http, other⟩
      · by_cases empty : url.port = ""
        · exact Or.inl empty
        · by_contra other
          exact port ⟨empty, fun isDefault => other (Or.inr isDefault)⟩

section Documented

variable {platform : Platform}

section

variable (documented : IsIPDocumented platform.isIP)

include documented

theorem isPublicWebAddress_four (isText : Ipv4Text text.toList value) :
    isPublicWebAddress platform ⟨text, 4⟩ = true ↔ OpenIpv4 value := by
  have isFour := (documented.four text).2 ⟨value, isText⟩
  simp only [isPublicWebAddress, isFour]
  exact isPublicIpv4_iff isText

theorem isPublicWebAddress_six (isText : Ipv6Text text.toList groups) :
    isPublicWebAddress platform ⟨text, 6⟩ = true ↔
      ('.' ∉ text.toList ∧ '%' ∉ text.toList) ∧ OpenIpv6 (ofGroups groups) := by
  have isSix := (documented.six text).2 ⟨groups, isText⟩
  simp only [isPublicWebAddress, isSix]
  exact isPublicIpv6_iff isText

theorem openAddress_of_public {address : PublicWebAddress}
    (isPublic : isPublicWebAddress platform address = true) : OpenAddress address := by
  rcases address with ⟨text, family⟩
  have checked := isPublic
  unfold isPublicWebAddress at checked
  dsimp only at checked
  split at checked
  · cases checked
  · rename_i known
    split at checked
    · cases checked
    · rename_i same
      rw [ne_eq, not_not] at same
      by_cases four : family = 4
      · subst four
        obtain ⟨value, isText⟩ := (documented.four text).1 same
        exact Or.inl ⟨rfl, value, isText, (isPublicWebAddress_four documented isText).1 isPublic⟩
      · have six : family = 6 := by
          by_contra other
          exact known ⟨four, other⟩
        subst six
        obtain ⟨groups, isText⟩ := (documented.six text).1 same
        exact Or.inr ⟨rfl, groups, isText, ((isPublicWebAddress_six documented isText).1
          isPublic).2⟩

theorem beforeCall_allowed {answers : Answers} {hop : Nat} {address : PublicWebAddress}
    (isCall : beforeCall platform answers hop text = .calls address) :
    CallAllowed platform answers ⟨hop, text, address⟩ := by
  unfold beforeCall at isCall
  split at isCall
  · cases isCall
  · rename_i url isUrl
    obtain ⟨isParsed, isOpen⟩ := openUrl_of_parsed isUrl
    split at isCall
    · cases isCall
    · rename_i addresses isAddresses
      split at isCall
      · cases isCall
      · rename_i allPublic
        split at isCall
        · cases isCall
        · rename_i selected rest
          split at isCall
          · cases isCall
          · cases isCall
            have checked : ∀ candidate ∈ address :: rest,
                isPublicWebAddress platform candidate = true := by
              intro candidate member
              by_contra other
              exact allPublic (List.any_eq_true.2 ⟨candidate, member, by simpa using other⟩)
            exact ⟨⟨url, isParsed, isOpen, rest, isAddresses, checked⟩,
              openAddress_of_public documented (checked address List.mem_cons_self)⟩

theorem readHops_allowed (answers : Answers) (maxRedirects remaining hop : Nat) (text : String) :
    let calls := (readHops platform answers maxRedirects remaining hop text).1
    (∀ call ∈ calls, CallAllowed platform answers call ∧ hop ≤ call.hop) ∧
      calls.length ≤ remaining ∧ calls.Pairwise (fun first later => first.hop < later.hop) := by
  induction remaining generalizing hop text with
  | zero => exact ⟨nofun, Nat.le_refl 0, .nil⟩
  | succ remaining ih =>
    unfold readHops
    split
    · exact ⟨nofun, Nat.zero_le _, .nil⟩
    · rename_i address isCall
      have allowed := beforeCall_allowed documented isCall
      dsimp only
      split
      · refine ⟨?_, ?_, List.pairwise_singleton _ _⟩
        · intro call member
          rw [List.mem_singleton.1 member]
          exact ⟨allowed, Nat.le_refl hop⟩
        · rw [List.length_singleton]
          omega
      · rename_i next _
        obtain ⟨each, count, ordered⟩ := ih (hop + 1) next
        refine ⟨?_, ?_, ?_⟩
        · intro call member
          rcases List.mem_cons.1 member with same | later
          · rw [same]
            exact ⟨allowed, Nat.le_refl hop⟩
          · have found := each call later
            exact ⟨found.1, by omega⟩
        · rw [List.length_cons]
          omega
        · refine List.pairwise_cons.2 ⟨?_, ordered⟩
          intro call later
          have found := (each call later).2
          change hop < call.hop
          omega

end

/-- Every transport call is allowed by its own hop and leaves the closed blocks
alone, there is at most one call for each of `maxRedirects + 1` hops, and the
verdict on an address is that on its bytes, but for the texts with a dotted
tail or a zone, which are never public. -/
theorem web_reads_reach_public_addresses (documented : IsIPDocumented platform.isIP)
    (answers : Answers) (maxRedirects : Nat) (url : String) :
    (∀ call ∈ (publicWebRead platform answers maxRedirects url).1,
      CallAllowed platform answers call) ∧
    (publicWebRead platform answers maxRedirects url).1.length ≤ maxRedirects + 1 ∧
    (publicWebRead platform answers maxRedirects url).1.Pairwise
      (fun first later => first.hop < later.hop) ∧
    (∀ text value, Ipv4Text text.toList value →
      (isPublicWebAddress platform ⟨text, 4⟩ = true ↔ OpenIpv4 value)) ∧
    (∀ text groups, Ipv6Text text.toList groups →
      (isPublicWebAddress platform ⟨text, 6⟩ = true ↔
        ('.' ∉ text.toList ∧ '%' ∉ text.toList) ∧ OpenIpv6 (ofGroups groups))) := by
  obtain ⟨each, count, ordered⟩ :=
    readHops_allowed documented answers maxRedirects (maxRedirects + 1) 0 url
  refine ⟨fun call member => (each call member).1, count, ordered, ?_, ?_⟩
  · exact fun text value isText => isPublicWebAddress_four documented isText
  · exact fun text groups isText => isPublicWebAddress_six documented isText

end Documented

open Classical in
/-- The address test, from its documentation. -/
noncomputable def documentedIsIP (text : String) : Nat :=
  if ∃ value, Ipv4Text text.toList value then 4
  else if ∃ groups, Ipv6Text text.toList groups then 6
  else 0

theorem documentedIsIP_documented : IsIPDocumented documentedIsIP := by
  constructor
  · intro text
    unfold documentedIsIP
    by_cases four : ∃ value, Ipv4Text text.toList value
    · simp [four]
    · by_cases six : ∃ groups, Ipv6Text text.toList groups
      · simp [four, six]
      · simp [four, six]
  · intro text
    unfold documentedIsIP
    by_cases four : ∃ value, Ipv4Text text.toList value
    · have notSix : ¬∃ groups, Ipv6Text text.toList groups := by
        rintro ⟨groups, isText⟩
        obtain ⟨value, isFour⟩ := four
        exact isFour.no_colon isText.colon_mem
      simp [four, notSix]
    · by_cases six : ∃ groups, Ipv6Text text.toList groups
      · simp [four, six]
      · simp [four, six]

theorem hexGroup_of {part : String} (isValue : hexNumber part.toList = value)
    (valid : isGroup part.toList = true) : HexGroup part.toList value :=
  isValue ▸ isGroup_iff.1 valid

theorem ipv4Text_of (a b c d : Nat) (fits : a < 256 ∧ b < 256 ∧ c < 256 ∧ d < 256)
    (isText : ['.'].intercalate [decimal a, decimal b, decimal c, decimal d] = text.toList) :
    Ipv4Text text.toList (ofOctets a b c d) :=
  isText ▸ .dotted fits.1 fits.2.1 fits.2.2.1 fits.2.2.2

theorem head_groups : List.Forall₂ HexGroup ["2606".toList, "4700".toList] [0x2606, 0x4700] :=
  .cons (hexGroup_of (by decide) (by decide)) (.cons (hexGroup_of (by decide) (by decide)) .nil)

def plainGroups : List Nat := [0x2606, 0x4700, 0, 0, 0, 0, 0x102, 0x304]

theorem plainText : Ipv6Text "2606:4700::102:304".toList plainGroups := by
  have groups : List.Forall₂ HexGroup ["102".toList, "304".toList] [0x102, 0x304] :=
    .cons (hexGroup_of (by decide) (by decide)) (.cons (hexGroup_of (by decide) (by decide)) .nil)
  have tail : GroupRun "102:304".toList [0x102, 0x304] := GroupRun.groups groups
  exact .plain (.compressed head_groups tail (by decide))

theorem dottedText : Ipv6Text "2606:4700::1.2.3.4".toList plainGroups := by
  have quad : Ipv4Text "1.2.3.4".toList (ofOctets 1 2 3 4) :=
    ipv4Text_of 1 2 3 4 (by decide) (by decide)
  have tail : GroupRun "1.2.3.4".toList [0x102, 0x304] := GroupRun.dotted .nil quad
  exact .plain (.compressed head_groups tail (by decide))

/-- A platform that knows the two URLs of the reading below. -/
noncomputable def guidePlatform : Platform :=
  { parseUrl := fun text =>
      if text = "https://docs.example/guide" then some ⟨"https:", "", "", "", "docs.example"⟩
      else if text = "https://[2606:4700::102:304]/guide" then
        some ⟨"https:", "", "", "", "[2606:4700::102:304]"⟩
      else none
    resolveUrl := fun location _ => some location
    isIP := documentedIsIP }

theorem plain_public : isPublicWebAddress guidePlatform ⟨"2606:4700::102:304", 6⟩ = true :=
  (isPublicWebAddress_six documentedIsIP_documented plainText).2
    ⟨by decide, by unfold OpenIpv6; decide +kernel⟩

theorem verdict_depends_on_dotted_tail :
    ¬∀ platform : Platform, IsIPDocumented platform.isIP → ∀ left right groups,
      Ipv6Text left.toList groups → Ipv6Text right.toList groups →
      isPublicWebAddress platform ⟨left, 6⟩ = isPublicWebAddress platform ⟨right, 6⟩ := by
  intro claimed
  have same := claimed guidePlatform documentedIsIP_documented _ _ plainGroups plainText dottedText
  rw [plain_public] at same
  have dotted := (isPublicWebAddress_six documentedIsIP_documented dottedText).1 same.symm
  exact dotted.1.1 (by decide)

/-- The name resolves to one address, which redirects to another. -/
def guideAnswers : Answers :=
  { dnsLookup := fun _ _ => some [⟨"93.184.216.34", 4⟩]
    transport := fun hop _ _ =>
      if hop = 0 then some ⟨302, some "https://[2606:4700::102:304]/guide"⟩ else some ⟨200, none⟩
    aborted := fun _ _ => false }

theorem name_not_literal : parseAddressLiteral guidePlatform "docs.example" = none := by
  have notFour : ¬∃ value, Ipv4Text "docs.example".toList value := by
    rintro ⟨value, isText⟩
    exact absurd isText.chars (by decide)
  have notSix : ¬∃ groups, Ipv6Text "docs.example".toList groups := by
    rintro ⟨groups, isText⟩
    exact absurd isText.colon_mem (by decide)
  have neither : documentedIsIP "docs.example" = 0 := by
    unfold documentedIsIP
    rw [if_neg notFour, if_neg notSix]
  have unbracketed : withoutBrackets "docs.example" = "docs.example" := by decide
  simp [parseAddressLiteral, unbracketed, guidePlatform, neither]

theorem host_literal : parseAddressLiteral guidePlatform "[2606:4700::102:304]" =
    some ⟨"2606:4700::102:304", 6⟩ := by
  have six : documentedIsIP "2606:4700::102:304" = 6 :=
    (documentedIsIP_documented.six _).2 ⟨plainGroups, plainText⟩
  have unbracketed : withoutBrackets "[2606:4700::102:304]" = "2606:4700::102:304" := by decide
  simp [parseAddressLiteral, unbracketed, guidePlatform, six]

theorem quad_public : isPublicWebAddress guidePlatform ⟨"93.184.216.34", 4⟩ = true := by
  have isText : Ipv4Text "93.184.216.34".toList (ofOctets 93 184 216 34) :=
    ipv4Text_of 93 184 216 34 (by decide) (by decide)
  exact (isPublicWebAddress_four documentedIsIP_documented isText).2
    (by unfold OpenIpv4; decide +kernel)

theorem guide_read :
    (publicWebRead guidePlatform guideAnswers 3 "https://docs.example/guide").1 =
      [⟨0, "https://docs.example/guide", ⟨"93.184.216.34", 4⟩⟩,
        ⟨1, "https://[2606:4700::102:304]/guide", ⟨"2606:4700::102:304", 6⟩⟩] := by
  have first : beforeCall guidePlatform guideAnswers 0 "https://docs.example/guide" =
      .calls ⟨"93.184.216.34", 4⟩ := by
    simp [beforeCall, parsePublicUrl, hopAddresses, guideAnswers, name_not_literal, quad_public,
      show guidePlatform.parseUrl "https://docs.example/guide" =
        some ⟨"https:", "", "", "", "docs.example"⟩ from rfl]
  have second : beforeCall guidePlatform guideAnswers 1 "https://[2606:4700::102:304]/guide" =
      .calls ⟨"2606:4700::102:304", 6⟩ := by
    simp [beforeCall, parsePublicUrl, hopAddresses, guideAnswers, host_literal, plain_public,
      show guidePlatform.parseUrl "https://[2606:4700::102:304]/guide" =
        some ⟨"https:", "", "", "", "[2606:4700::102:304]"⟩ from rfl]
  have redirected : afterCall guidePlatform guideAnswers 0 3 "https://docs.example/guide"
      (guideAnswers.transport 0 "https://docs.example/guide" ⟨"93.184.216.34", 4⟩) =
        .inr "https://[2606:4700::102:304]/guide" := rfl
  have ended : afterCall guidePlatform guideAnswers 1 3 "https://[2606:4700::102:304]/guide"
      (guideAnswers.transport 1 "https://[2606:4700::102:304]/guide" ⟨"2606:4700::102:304", 6⟩) =
        .inl (.fetched "https://[2606:4700::102:304]/guide" 200) := rfl
  simp [publicWebRead, readHops, first, second, redirected, ended]

theorem web_reads_reach_public_addresses_guide :
    (publicWebRead guidePlatform guideAnswers 3 "https://docs.example/guide").1.length = 2 ∧
      ∀ call ∈ (publicWebRead guidePlatform guideAnswers 3 "https://docs.example/guide").1,
        CallAllowed guidePlatform guideAnswers call :=
  ⟨by rw [guide_read]; rfl,
    (web_reads_reach_public_addresses documentedIsIP_documented guideAnswers 3
      "https://docs.example/guide").1⟩

end AnnaAgent.Host
