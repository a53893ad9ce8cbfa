import Knowbee.Network.TargetPolicy

/-!
# Which addresses a public target may have

`expandIpv6` reads the groups of every spelling of an IPv6 address.  An address
that is passed is global or of a kind that the ranges leave out: the reserved block
`240.0.0.0/4`, also inside an IPv6 address, the IPv4 addresses behind the NAT64
prefix `64:ff9b::/96`, the documentation block `3fff::/20` and what lies outside the
global unicast block (`public_target_global_iff`).
-/

namespace Knowbee

open Ip List Block Ipv4 Or

/-- `isIP` tells the texts of the two families. -/
structure IsIP (isIP : Text → Nat) : Prop where
  four (text : Text) : isIP text = 4 ↔ ∃ address : Ipv4, address.print = text
  six (text : Text) : isIP text = 6 ↔ ∃ spelling : Ipv6Spelling, spelling.print = text

/-! ## Decimals -/

section Decimals

variable {n : Nat} {c : Char}

lemma isDigit_of_mem_decimal (member : c ∈ decimal n) : c.isDigit = true :=
  Nat.isDigit_of_mem_toDigits (by decide) (by decide) member

lemma not_mem_decimal (other : c.isDigit = false) : c ∉ decimal n := by
  intro member
  rw [isDigit_of_mem_decimal member] at other
  cases other

lemma length_decimal (octet : Fin 256) :
    0 < (decimal octet).length ∧ (decimal octet).length ≤ 3 := by
  refine ⟨Nat.length_toDigits_pos, (Nat.length_toDigits_le_iff (by decide) (by decide)).mpr ?_⟩
  exact Nat.lt_trans octet.isLt (by decide)

lemma number_decimal (n : Nat) : number (decimal n) = n := by
  rw [number, decimal, Nat.ofDigitChars_ten_toDigits]

end Decimals

lemma splitOn_print (address : Ipv4) : address.print.splitOn '.' = address.octets.map decimal := by
  refine splitOn_intercalate '.' (fun part member => ?_) (by simp [Ipv4.octets])
  obtain ⟨octet, -, rfl⟩ := mem_map.mp member
  exact not_mem_decimal rfl

/-! ## Addresses of 32 bits -/

section Ipv4

variable {isIP : Text → Nat}

lemma ipv4Number_print (correct : IsIP isIP) (address : Ipv4) :
    ipv4Number isIP address.print = some (address.value : Int) := by
  have family : isIP address.print = 4 := (correct.four _).mpr ⟨address, rfl⟩
  unfold ipv4Number
  rw [if_neg (not_not.mpr family), splitOn_print]
  simp only [Ipv4.octets, map_cons, map_nil, number_decimal, getD_cons_zero,
    getD_cons_succ]
  rw [octets_eq address.first.isLt address.second.isLt address.third.isLt address.fourth.isLt]
  rfl

lemma isInIpv4Range_iff {value base length : Nat} (bound : value < 2 ^ 32)
    (bound' : base < 2 ^ 32) (positive : 0 < length) (short : length ≤ 32) :
    isInIpv4Range value base length = true ↔ Block.Contains ⟨base, length⟩ 32 value := by
  have count : 32 - length < 32 := by omega
  have mask := highMask_eq ⟨32 - length, count⟩
  have le x : x / 2 ^ (32 - length) * 2 ^ (32 - length) ≤ x := Nat.div_mul_le_self _ _
  unfold isInIpv4Range
  rw [if_neg (by omega), decide_eq_true_iff, mask, bitAnd_eq_iff,
    and_highMask bound (by omega), and_highMask bound' (by omega),
    Nat.mod_eq_of_lt (Nat.lt_of_le_of_lt (le value) bound),
    Nat.mod_eq_of_lt (Nat.lt_of_le_of_lt (le base) bound')]
  exact Nat.mul_left_inj (Nat.pow_pos (by decide)).ne'

def ReservedV4 (value : Nat) : Prop := Block.Contains ⟨quad 240 0 0 0, 4⟩ 32 value

instance (value : Nat) : Decidable (ReservedV4 value) := inferInstanceAs (Decidable (Block.Contains ..))

lemma not_globalV4_of_reserved {value : Nat} (reserved : ReservedV4 value) : ¬GlobalV4 value :=
  fun global => global ⟨quad 240 0 0 0, 4⟩ (by simp [specialV4]) reserved

lemma leading_of_contains {block : Block} {value : Nat} (long : 4 ≤ block.length)
    (short : block.length ≤ 32) (contains : block.Contains 32 value) :
    value / 2 ^ 28 = block.base / 2 ^ 28 := by
  have split : (2 : Nat) ^ 28 = 2 ^ (32 - block.length) * 2 ^ (block.length - 4) := by
    rw [← Nat.pow_add]
    congr 1
    omega
  rw [split, ← Nat.div_div_eq_div_mul, ← Nat.div_div_eq_div_mul]
  exact congrArg (· / 2 ^ (block.length - 4)) contains

lemma isPublicIpv4_print (correct : IsIP isIP) (address : Ipv4) :
    isPublicIpv4 isIP address.print = true ↔ GlobalV4 address.value ∨ ReservedV4 address.value := by
  have ranges : ∀ range ∈ blocked, ∃ block ∈ specialV4, range = (↑block.base, block.length) ∧
      block.base / 2 ^ 28 ≠ 15 := by decide
  have special : ∀ block ∈ specialV4, block.base < 2 ^ 32 ∧ 4 ≤ block.length ∧ block.length ≤ 32 ∧
      ((↑block.base, block.length) ∈ blocked ∨ block.base / 2 ^ 28 = 15) := by decide
  have reserved : ReservedV4 address.value ↔ address.value / 2 ^ 28 = 15 := Iff.rfl
  unfold isPublicIpv4
  rw [ipv4Number_print correct]
  simp only [Bool.not_eq_true', any_eq_false]
  constructor
  · intro unblocked
    by_cases fifteen : address.value / 2 ^ 28 = 15
    · exact .inr fifteen
    · refine .inl fun block member contains => ?_
      obtain ⟨bound, long, short, listed | last⟩ := special block member
      · exact unblocked _ listed
          ((isInIpv4Range_iff address.value_lt bound (by omega) short).mpr contains)
      · exact fifteen ((leading_of_contains long short contains).trans last)
  · intro passes range listed inside
    obtain ⟨block, member, rfl, differ⟩ := ranges range listed
    obtain ⟨bound, long, short, -⟩ := special block member
    have contains : block.Contains 32 address.value :=
      (isInIpv4Range_iff address.value_lt bound (by omega) short).mp inside
    rcases passes with global | fifteen
    · exact global block member contains
    · exact differ ((leading_of_contains long short contains).symm.trans fifteen)

end Ipv4

/-! ## Groups of a text -/

lemma isHexGroup_iff (group : Text) : isHexGroup group = true ↔
    0 < group.length ∧ group.length ≤ 4 ∧ ∀ c ∈ group, c ∈ lowerHexDigits := by
  have chars c : (('0' ≤ c ∧ c ≤ '9') ∨ ('a' ≤ c ∧ c ≤ 'f')) ↔ c ∈ lowerHexDigits := by
    constructor
    · intro ranged
      have bounds : (48 ≤ c.toNat ∧ c.toNat ≤ 57) ∨ (97 ≤ c.toNat ∧ c.toNat ≤ 102) := ranged
      have cases : ∀ n < 103, (48 ≤ n ∧ n ≤ 57) ∨ (97 ≤ n ∧ n ≤ 102) →
          Char.ofNat n ∈ lowerHexDigits := by decide
      rw [← Char.ofNat_toNat c]
      exact cases c.toNat (by omega) bounds
    · intro member
      have all : lowerHexDigits.all (fun c =>
          ('0' ≤ c ∧ c ≤ '9') ∨ ('a' ≤ c ∧ c ≤ 'f')) = true := by decide
      exact of_decide_eq_true (all_eq_true.mp all c member)
  unfold isHexGroup
  rw [decide_eq_true_iff]
  simp only [all_eq_true, decide_eq_true_iff, chars]

section Splitting

variable {parts : List Text} {part text : Text}

lemma ne_nil_of_isHexGroup (good : isHexGroup part = true) : part ≠ [] := by
  rintro rfl
  exact absurd good (by decide)

lemma separators_not_mem (good : isHexGroup part = true) : ':' ∉ part ∧ '.' ∉ part := by
  obtain ⟨-, -, hex⟩ := (isHexGroup_iff part).mp good
  exact ⟨fun colon => absurd (hex _ colon) (by decide), fun dot => absurd (hex _ dot) (by decide)⟩

lemma join_head (more : parts ≠ []) (good : ∀ part ∈ parts, isHexGroup part = true) :
    ∃ c digits, join parts = c :: digits ∧ c ≠ ':' := by
  obtain ⟨part, rest, rfl⟩ := exists_cons_of_ne_nil more
  have here := good part mem_cons_self
  obtain ⟨c, digits, rfl⟩ := exists_cons_of_ne_nil (ne_nil_of_isHexGroup here)
  have differ : c ≠ ':' := fun same => (separators_not_mem here).1 (same ▸ mem_cons_self)
  by_cases alone : rest = []
  · rw [alone, join_singleton]
    exact ⟨c, digits, rfl, differ⟩
  · rw [join_cons _ alone]
    exact ⟨c, _, rfl, differ⟩

lemma splitCompressed_word (colonless : ':' ∉ part) (rest : Text) :
    splitCompressed (part ++ rest) = (splitCompressed rest).modifyHead (part ++ ·) := by
  induction part with
  | nil =>
    rw [nil_append]
    cases splitCompressed rest <;> rfl
  | cons c part ih =>
    have differ : c ≠ ':' := fun same => colonless (same ▸ mem_cons_self)
    have here : splitCompressed (c :: (part ++ rest)) =
        (splitCompressed (part ++ rest)).modifyHead (c :: ·) := by
      rw [splitCompressed]
      exact fun _ same => absurd same differ
    rw [cons_append, here, ih fun colon => colonless (mem_cons_of_mem _ colon),
      modifyHead_modifyHead]
    rfl

section

variable (good : ∀ part ∈ parts, isHexGroup part = true)

include good

lemma splitCompressed_join (rest : Text) :
    splitCompressed (join parts ++ rest) = (splitCompressed rest).modifyHead (join parts ++ ·) := by
  induction parts with
  | nil =>
    rw [join_nil, nil_append]
    cases splitCompressed rest <;> rfl
  | cons part others ih =>
    have colonless := (separators_not_mem (good part mem_cons_self)).1
    by_cases alone : others = []
    · rw [alone, join_singleton]
      exact splitCompressed_word colonless rest
    · obtain ⟨next, later, rfl⟩ := exists_cons_of_ne_nil alone
      have good' : ∀ part ∈ next :: later, isHexGroup part = true :=
        fun part member => good part (mem_cons_of_mem _ member)
      -- the next part begins with a digit
      obtain ⟨c, digits, same, differ⟩ := join_head alone good'
      have colon : splitCompressed (':' :: (join (next :: later) ++ rest)) =
          (splitCompressed (join (next :: later) ++ rest)).modifyHead (':' :: ·) := by
        rw [same, cons_append, splitCompressed]
        exact fun _ _ again => absurd (List.cons.inj again).1 differ
      rw [join_cons part alone, append_assoc, cons_append, splitCompressed_word colonless,
        colon, ih good', modifyHead_modifyHead, modifyHead_modifyHead]
      congr 1
      funext tail
      simp

lemma splitHalf_join : splitHalf (join parts) = parts := by
  by_cases none : parts = []
  · rw [none]
    rfl
  · obtain ⟨c, digits, same, -⟩ := join_head none good
    rw [splitHalf, if_neg (by rw [same]; exact cons_ne_nil c digits)]
    exact splitOn_intercalate ':' (fun part member => (separators_not_mem (good part member)).1)
      none

lemma expandGroups_full (count : parts.length = 8) :
    expandGroups (join parts) = some (parts.map hexValue) := by
  have halves : splitCompressed (join parts) = [join parts] := by
    have whole := splitCompressed_join good []
    rw [append_nil] at whole
    rw [whole, splitCompressed, modifyHead_cons, append_nil]
  have all : parts.all isHexGroup = true := all_eq_true.mpr good
  have empty : splitHalf [] = [] := rfl
  have missing : (8 : Int) - parts.length - (0 : Nat) = 0 := by omega
  unfold expandGroups
  simp only [halves, length_singleton, getD_cons_zero, getD_cons_succ, getD_nil,
    splitHalf_join good, empty, length_nil, missing]
  rw [if_neg (by decide), if_neg (by decide), Int.toNat_zero, replicate_zero, append_nil,
    append_nil, if_neg (by simp only [count, all]; decide)]

end

lemma expandGroups_compressed {left right : List Text}
    (good : ∀ part ∈ left, isHexGroup part = true) (good' : ∀ part ∈ right, isHexGroup part = true)
    (count : left.length + right.length < 8) :
    expandGroups (join left ++ ':' :: ':' :: join right) =
      some (left.map hexValue ++ List.replicate (8 - left.length - right.length) 0 ++
        right.map hexValue) := by
  have halves : splitCompressed (join left ++ ':' :: ':' :: join right) = [join left, join right] := by
    have whole := splitCompressed_join good' []
    rw [append_nil] at whole
    rw [splitCompressed_join good, splitCompressed, whole, splitCompressed, modifyHead_cons,
      modifyHead_cons, append_nil, append_nil]
  have missing : (8 : Int) - left.length - right.length =
      (8 - left.length - right.length : Nat) := by omega
  let groups := left ++ replicate (8 - left.length - right.length) ['0'] ++ right
  have length : groups.length = 8 := by
    simp only [groups, length_append, length_replicate]
    omega
  have all : groups.all isHexGroup = true := by
    rw [all_eq_true]
    intro group member
    rcases mem_append.mp member with front | last
    · rcases mem_append.mp front with first | zero
      · exact good group first
      · rw [eq_of_mem_replicate zero]
        rfl
    · exact good' group last
  have values : groups.map hexValue =
      left.map hexValue ++ replicate (8 - left.length - right.length) 0 ++
        right.map hexValue := by
    simp only [groups, map_append, map_replicate]
    rfl
  unfold expandGroups
  simp only [halves, length_cons, length_nil, getD_cons_zero, getD_cons_succ,
    splitHalf_join good, splitHalf_join good', missing, Int.toNat_natCast]
  rw [if_neg (by decide), if_neg (by omega), if_neg (by
    rw [not_or, not_not, not_not]
    exact ⟨length, all⟩), ← values]

end Splitting

/-! ## Spellings in lower case -/

lemma print_eq (address : Ipv4) : address.print =
    decimal address.first ++ '.' :: (decimal address.second ++ '.' ::
      (decimal address.third ++ '.' :: decimal address.fourth)) := by
  simp [Ipv4.print, Ipv4.octets, intercalate]

lemma mem_print {address : Ipv4} {c : Char} (member : c ∈ address.print) :
    c.isDigit = true ∨ c = '.' := by
  rw [print_eq] at member
  simp only [mem_append, mem_cons] at member
  rcases member with here | dot | here | dot | here | dot | here
  all_goals first
    | exact .inr dot
    | exact .inl (isDigit_of_mem_decimal here)

lemma toLower_of_isDigit {c : Char} (digit : c.isDigit = true) : c.toLower = c := by
  have bounds : 48 ≤ c.toNat ∧ c.toNat ≤ 57 := by
    simpa [Char.isDigit, UInt32.le_iff_toNat_le] using digit
  delta Char.toLower
  rw [dif_neg]
  intro upper
  have above : 65 ≤ c.toNat := upper.1
  omega

lemma lower_print (address : Ipv4) : address.print.map Char.toLower = address.print := by
  conv_rhs => rw [← List.map_id address.print]
  refine map_congr_left fun c member => ?_
  rcases mem_print member with digit | rfl
  · exact toLower_of_isDigit digit
  · rfl

/-- The digits of a group as `expandIpv6` reads them. -/
def lower (group : HexGroup) : Text := group.digits.map Char.toLower

lemma lower_spec (group : HexGroup) :
    isHexGroup (lower group) = true ∧ hexValue (lower group) = group.value := by
  have all : (lowerHexDigits ++ upperHexDigits).all (fun c =>
      c.toLower ∈ lowerHexDigits ∧ hexDigit c.toLower = hexDigit c) = true := by decide
  have digits : ∀ c ∈ lowerHexDigits ++ upperHexDigits,
      c.toLower ∈ lowerHexDigits ∧ hexDigit c.toLower = hexDigit c :=
    fun c member => of_decide_eq_true (all_eq_true.mp all c member)
  constructor
  · rw [isHexGroup_iff, lower, length_map]
    refine ⟨group.positive, group.short, fun c member => ?_⟩
    obtain ⟨c', there, rfl⟩ := mem_map.mp member
    exact (digits c' (group.hex c' there)).1
  · unfold HexGroup.value hexValue lower
    rw [foldl_map]
    have hex := group.hex
    generalize group.digits = text at hex
    generalize (0 : Nat) = start
    induction text generalizing start with
    | nil => rfl
    | cons c rest ih =>
      rw [foldl_cons, foldl_cons, (digits c (hex c mem_cons_self)).2]
      exact ih (fun c member => hex c (mem_cons_of_mem _ member)) _

lemma lower_all {groups : List HexGroup} : ∀ part ∈ groups.map lower, isHexGroup part = true := by
  intro part member
  obtain ⟨group, -, rfl⟩ := mem_map.mp member
  exact (lower_spec group).1

lemma map_hexValue_lower (groups : List HexGroup) :
    (groups.map lower).map hexValue = groups.map HexGroup.value := by
  rw [map_map]
  exact map_congr_left fun group _ => (lower_spec group).2

variable (spelling : Ipv6Spelling)

/-- What stands before the last groups, with its colons. -/
def lead : Text :=
  match spelling.right with
  | none => []
  | some _ => join (spelling.left.map lower) ++ [':'] ++ [':']

def lastGroups : List HexGroup := spelling.right.getD spelling.left

lemma lower_printAddress : spelling.printAddress.map Char.toLower = lead spelling ++
        join ((lastGroups spelling).map lower ++ spelling.tail.toList.map Ipv4.print) := by
  have tail : (spelling.tail.toList.map Ipv4.print).map (·.map Char.toLower) =
      spelling.tail.toList.map Ipv4.print := by
    rw [map_map]
    exact map_congr_left fun address _ => lower_print address
  have groups (parts : List HexGroup) :
      (parts.map HexGroup.digits).map (·.map Char.toLower) = parts.map lower := by
    rw [map_map]
    rfl
  have colon : ':'.toLower = ':' := rfl
  unfold Ipv6Spelling.printAddress lead lastGroups
  cases spelling.right with
  | none => rw [nil_append, Option.getD_none, map_join colon, map_append, groups, tail]
  | some right =>
    simp [Option.getD_some, map_append, map_cons, map_join colon, colon, groups, tail,
      append_assoc, cons_append, nil_append]

lemma percent_not_mem : '%' ∉ spelling.printAddress := by
  have group (parts : List HexGroup) part (member : part ∈ parts.map HexGroup.digits) :
      '%' ∉ part := by
    obtain ⟨group, -, rfl⟩ := mem_map.mp member
    exact fun inside => absurd (group.hex _ inside) (by decide)
  have tail part (member : part ∈ spelling.tail.toList.map Ipv4.print) : '%' ∉ part := by
    obtain ⟨address, -, rfl⟩ := mem_map.mp member
    exact fun inside => absurd (mem_print inside) (by decide)
  have joined {parts : List Text} (none : ∀ part ∈ parts, '%' ∉ part) : '%' ∉ join parts := by
    intro member
    rcases mem_join member with colon | ⟨part, there, inside⟩
    · cases colon
    · exact none part there inside
  have both (parts : List HexGroup) : '%' ∉
      join (parts.map HexGroup.digits ++ spelling.tail.toList.map Ipv4.print) :=
    joined fun part member => (mem_append.mp member).elim (group parts part) (tail part)
  unfold Ipv6Spelling.printAddress
  cases spelling.right with
  | none => exact both spelling.left
  | some right =>
    intro member
    simp only [mem_append, mem_cons] at member
    rcases member with first | colon | colon | last
    · exact joined (group spelling.left) first
    · cases colon
    · cases colon
    · exact both right (by simpa using last)

lemma takeWhile_print : spelling.print.takeWhile (· ≠ '%') = spelling.printAddress := by
  have all : ∀ c ∈ spelling.printAddress, decide (c ≠ '%') = true :=
    fun c member => decide_eq_true fun same => percent_not_mem spelling (same ▸ member)
  unfold Ipv6Spelling.print
  rw [takeWhile_append_of_pos all]
  cases spelling.zone with
  | none => rw [takeWhile_nil, append_nil]
  | some zone => rw [takeWhile_cons_of_neg (by decide), append_nil]

/-! ## The IPv4 address at the end -/

lemma last_part {parts : List Text} (colonless : ∀ part ∈ parts, ':' ∉ part) :
    ((lead spelling ++ join parts).splitOn ':').getLastD [] = parts.getLastD [] := by
  have whole : ((join parts).splitOn ':').getLastD [] = parts.getLastD [] := by
    by_cases none : parts = []
    · rw [none]
      rfl
    · rw [join, splitOn_intercalate ':' colonless none]
  unfold lead
  cases spelling.right with
  | none => exact whole
  | some right =>
    have apart : join (spelling.left.map lower) ++ [':'] ++ [':'] ++ join parts =
        (join (spelling.left.map lower) ++ [':']) ++ ':' :: join parts := by
      rw [append_assoc _ [':'] (join parts)]
      rfl
    have pieces : (join parts).splitOn ':' ≠ [] := splitOn_ne_nil ':' _
    simp only [apart, splitOn_append_cons_self]
    rw [getLastD_eq_getLast?, getLast?_append_of_ne_nil _ pieces,
      ← getLastD_eq_getLast?]
    exact whole

lemma isDottedQuad_print (address : Ipv4) : isDottedQuad address.print = true := by
  unfold isDottedQuad
  rw [splitOn_print, decide_eq_true_iff]
  refine ⟨rfl, fun part member => ?_⟩
  have octets : ∀ octet ∈ address.octets, octet < 256 := by
    intro octet here
    simp only [octets, mem_cons, not_mem_nil, or_false] at here
    rcases here with rfl | rfl | rfl | rfl <;> exact Fin.isLt _
  obtain ⟨octet, here, rfl⟩ := mem_map.mp member
  obtain ⟨positive, short⟩ := length_decimal ⟨octet, octets octet here⟩
  exact ⟨positive, short, all_eq_true.mpr fun c => isDigit_of_mem_decimal⟩

lemma not_isDottedQuad {part : Text} (dotless : '.' ∉ part) : isDottedQuad part = false := by
  unfold isDottedQuad
  rw [splitOn_eq_singleton dotless, decide_eq_false_iff_not]
  intro quad
  have four : [part].length = 4 := quad.1
  rw [length_singleton] at four
  omega

/-- The hexadecimal groups that replace an IPv4 address. -/
def tailTexts : Option Ipv4 → List Text
  | none => []
  | some address =>
    [Nat.toDigits 16 (address.value / 2 ^ 16), Nat.toDigits 16 (address.value % 2 ^ 16)]

lemma tailTexts_spec (tail : Option Ipv4) : (∀ part ∈ tailTexts tail, isHexGroup part = true) ∧
    (tailTexts tail).map hexValue = tailGroups tail ∧
    (tailTexts tail).length = tailCount tail := by
  have group {n : Nat} (bound : n < 16 ^ 4) : isHexGroup (Nat.toDigits 16 n) = true :=
    (isHexGroup_iff _).mpr ⟨Nat.length_toDigits_pos,
      (Nat.length_toDigits_le_iff (by decide) (by decide)).mpr bound, (hexValue_toDigits n).2⟩
  cases tail with
  | none => exact ⟨nofun, rfl, rfl⟩
  | some address =>
    have bound := address.value_lt
    refine ⟨fun part member => ?_, ?_, rfl⟩
    · simp only [tailTexts, mem_cons, not_mem_nil, or_false] at member
      rcases member with rfl | rfl
      · exact group (by omega)
      · exact group (by omega)
    · simp only [tailTexts, tailGroups, map_cons, map_nil, (hexValue_toDigits _).1]

section Expand

variable {isIP : Text → Nat}

lemma expandIpv6_groups (correct : IsIP isIP) (spelling : Ipv6Spelling) :
    expandIpv6 isIP spelling.print =
      expandGroups (lead spelling ++
        join ((lastGroups spelling).map lower ++ tailTexts spelling.tail)) := by
  unfold expandIpv6
  rw [takeWhile_print, lower_printAddress]
  have colonless : ∀ part ∈ (lastGroups spelling).map lower, ':' ∉ part ∧ '.' ∉ part :=
    fun part member => separators_not_mem (lower_all part member)
  cases spelling.tail with
  | none =>
    have no_tail : ipv4Tail (lead spelling ++ join ((lastGroups spelling).map lower)) = none := by
      have dotless : '.' ∉ ((lastGroups spelling).map lower).getLastD [] := by
        rcases eq_nil_or_concat ((lastGroups spelling).map lower) with none | ⟨front, last, same⟩
        · rw [none]
          exact not_mem_nil
        · rw [same, concat_eq_append, getLastD_concat]
          exact (colonless last (by rw [same]; simp)).2
      rw [ipv4Tail, last_part spelling fun part member => (colonless part member).1]
      simp only [not_isDottedQuad dotless]
      rfl
    simp only [Option.toList_none, map_nil, append_nil, no_tail, tailTexts]
  | some address =>
    have tail : ipv4Tail (lead spelling ++
        join ((lastGroups spelling).map lower ++ [address.print])) = some address.print := by
      rw [ipv4Tail, last_part spelling, getLastD_concat]
      · simp only [isDottedQuad_print, if_true]
      · intro part member
        rcases mem_append.mp member with group | last
        · exact (colonless part group).1
        · rw [mem_singleton.mp last]
          exact fun inside => absurd (mem_print inside) (by decide)
    have high : (unsignedShiftRight address.value 16).toNat = address.value / 2 ^ 16 := by
      rw [unsignedShiftRight_natCast address.value_lt (by decide), Int.toNat_natCast]
    have low : (bitAnd address.value 0xffff).toNat = address.value % 2 ^ 16 := by
      have masked := bitAnd_lowMask address.value (by decide : 16 < 32)
      rw [show (0xffff : Int) = (2 ^ 16 - 1 : Nat) from rfl, masked, Int.toNat_natCast]
    have replaced front (last : Text) :
        (front ++ last).take ((front ++ last).length - last.length) = front := by
      rw [length_append, Nat.add_sub_cancel, take_left]
    simp only [Option.toList_some, map_cons, map_nil, tail, ipv4Number_print correct,
      tailTexts, high, low]
    rw [join_append _ [address.print] (cons_ne_nil _ _), join_append _ [_, _]
      (cons_ne_nil _ _), join_singleton, ← append_assoc, replaced,
      join_cons _ (cons_ne_nil _ _), join_singleton]
    simp only [append_assoc]

lemma expandIpv6_print (correct : IsIP isIP) (spelling : Ipv6Spelling) :
    expandIpv6 isIP spelling.print = some spelling.groups := by
  obtain ⟨good, values, count⟩ := tailTexts_spec spelling.tail
  have both (groups : List HexGroup) :
      ∀ part ∈ groups.map lower ++ tailTexts spelling.tail, isHexGroup part = true :=
    fun part member => (mem_append.mp member).elim (lower_all part) (good part)
  rw [expandIpv6_groups correct]
  unfold lead lastGroups Ipv6Spelling.groups
  cases right : spelling.right with
  | none =>
    have length : (spelling.left.map lower ++ tailTexts spelling.tail).length = 8 := by
      rw [length_append, length_map, count]
      exact spelling.full right
    rw [nil_append, Option.getD_none, expandGroups_full (both _) length, map_append,
      map_hexValue_lower, values]
  | some groups =>
    have length : (spelling.left.map lower).length +
        (groups.map lower ++ tailTexts spelling.tail).length < 8 := by
      rw [length_append, length_map, length_map, count, ← Nat.add_assoc]
      exact spelling.compressed groups right
    simp only [Option.getD_some, append_assoc, cons_append, nil_append]
    rw [expandGroups_compressed lower_all (both groups) length, map_append, map_hexValue_lower,
      map_hexValue_lower, values, length_map, length_append, length_map, count,
      Nat.sub_add_eq]
    simp

end Expand

/-! ## Addresses of 128 bits -/

/-- Eight groups of 16 bits. -/
structure Groups where
  (g0 g1 g2 g3 g4 g5 g6 g7 : Nat)
  bound : g0 < 2 ^ 16 ∧ g1 < 2 ^ 16 ∧ g2 < 2 ^ 16 ∧ g3 < 2 ^ 16 ∧ g4 < 2 ^ 16 ∧ g5 < 2 ^ 16 ∧
    g6 < 2 ^ 16 ∧ g7 < 2 ^ 16

namespace Groups

def list (g : Groups) : List Nat := [g.g0, g.g1, g.g2, g.g3, g.g4, g.g5, g.g6, g.g7]

def value (g : Groups) : Nat := ofGroups g.list

def last (g : Groups) : Nat := g.g6 * 2 ^ 16 + g.g7

lemma exists_of_spelling (spelling : Ipv6Spelling) : ∃ g : Groups, spelling.groups = g.list := by
  have bound := spelling.groups_lt
  have length := spelling.length_groups
  revert bound
  obtain ⟨g0, g1, g2, g3, g4, g5, g6, g7, same⟩ : ∃ g0 g1 g2 g3 g4 g5 g6 g7,
      spelling.groups = [g0, g1, g2, g3, g4, g5, g6, g7] := by
    match spelling.groups, length with
    | [g0, g1, g2, g3, g4, g5, g6, g7], _ => exact ⟨g0, g1, g2, g3, g4, g5, g6, g7, rfl⟩
  rw [same]
  intro bound
  exact ⟨⟨g0, g1, g2, g3, g4, g5, g6, g7, by simpa using bound⟩, rfl⟩

structure Read (g : Groups) : Prop where
  compatible : Contains ⟨leading [], 96⟩ 128 g.value ↔
    g.g0 = 0 ∧ g.g1 = 0 ∧ g.g2 = 0 ∧ g.g3 = 0 ∧ g.g4 = 0 ∧ g.g5 = 0
  mapped : Contains ⟨leading [0, 0, 0, 0, 0, 0xffff], 96⟩ 128 g.value ↔
    g.g0 = 0 ∧ g.g1 = 0 ∧ g.g2 = 0 ∧ g.g3 = 0 ∧ g.g4 = 0 ∧ g.g5 = 0xffff
  nat64 : Contains ⟨leading [0x64, 0xff9b], 96⟩ 128 g.value ↔
    g.g0 = 0x64 ∧ g.g1 = 0xff9b ∧ g.g2 = 0 ∧ g.g3 = 0 ∧ g.g4 = 0 ∧ g.g5 = 0
  sixToFour : Contains ⟨leading [0x2002], 16⟩ 128 g.value ↔ g.g0 = 0x2002
  unicast : unicast.Contains 128 g.value ↔ 0x2000 ≤ g.g0 ∧ g.g0 < 0x4000
  protocols : Contains ⟨leading [0x2001], 23⟩ 128 g.value ↔ g.g0 = 0x2001 ∧ g.g1 ≤ 0x1ff
  documentation : Contains ⟨leading [0x2001, 0xdb8], 32⟩ 128 g.value ↔
    g.g0 = 0x2001 ∧ g.g1 = 0xdb8
  newDocumentation : Contains ⟨leading [0x3fff], 20⟩ 128 g.value ↔
    g.g0 = 0x3fff ∧ g.g1 < 0x1000
  uniqueLocal : Contains ⟨leading [0xfc00], 7⟩ 128 g.value ↔ g.g0 / 2 ^ 9 = 126
  linkLocal : Contains ⟨leading [0xfe80], 10⟩ 128 g.value ↔ g.g0 / 2 ^ 6 = 1018
  multicast : Contains ⟨leading [0xff00], 8⟩ 128 g.value ↔ g.g0 / 2 ^ 8 = 255
  localNat64 : Contains ⟨leading [0x64, 0xff9b, 1], 48⟩ 128 g.value ↔
    g.g0 = 0x64 ∧ g.g1 = 0xff9b ∧ g.g2 = 1
  discard : Contains ⟨leading [0x100], 64⟩ 128 g.value ↔
    g.g0 = 0x100 ∧ g.g1 = 0 ∧ g.g2 = 0 ∧ g.g3 = 0
  last : g.value % 2 ^ 32 = g.last

lemma read (g : Groups) : g.Read := by
  obtain ⟨g0, g1, g2, g3, g4, g5, g6, g7, h0, h1, h2, h3, h4, h5, h6, h7⟩ := g
  constructor
  all_goals
    simp only [Contains, Ip.unicast, leading, Groups.value, Groups.last, Groups.list, ofGroups,
      List.foldl, cons_append, nil_append, length_cons, length_nil,
      replicate]
    omega

end Groups

/-- The special blocks outside of the global unicast block that are checked. -/
def checkedV6 : List Block :=
  [⟨leading [0xfc00], 7⟩, ⟨leading [0xfe80], 10⟩, ⟨leading [0xff00], 8⟩,
    ⟨leading [0x64, 0xff9b, 1], 48⟩, ⟨leading [0x100], 64⟩]

/-- The kinds of IPv6 addresses that are passed and not global: the reserved IPv4
block embedded, any other IPv4 address behind the NAT64 prefix, the newer
documentation block, and what is neither global unicast nor checked. -/
def LeftOutV6 (value : Nat) : Prop :=
  ((Contains ⟨leading [], 96⟩ 128 value ∨
      Contains ⟨leading [0, 0, 0, 0, 0, 0xffff], 96⟩ 128 value) ∧
    ReservedV4 (value % 2 ^ 32)) ∨
  (Contains ⟨leading [0x64, 0xff9b], 96⟩ 128 value ∧ ¬GlobalV4 (value % 2 ^ 32)) ∨
  Contains ⟨leading [0x3fff], 20⟩ 128 value ∨
  (embedded value = none ∧ ¬unicast.Contains 128 value ∧
    ∀ block ∈ checkedV6, ¬block.Contains 128 value)

section Ipv6

variable {isIP : Text → Nat}

lemma lastQuad_eq (g : Groups) :
    lastQuad g.g6 g.g7 = (ofValue g.last).print ∧ g.last < 2 ^ 32 := by
  obtain ⟨-, -, -, -, -, -, h6, h7⟩ := g.bound
  have high {group : Nat} (bound : group < 2 ^ 16) :
      (unsignedShiftRight group 8).toNat = group / 2 ^ 8 := by
    rw [unsignedShiftRight_natCast (Nat.lt_trans bound (by decide)) (by decide), Int.toNat_natCast]
  have low (group : Nat) : (bitAnd group 0xff).toNat = group % 2 ^ 8 := by
    rw [show (0xff : Int) = (2 ^ 8 - 1 : Nat) from rfl, bitAnd_lowMask group (by decide),
      Int.toNat_natCast]
  have first : g.last / 2 ^ 24 % 256 = g.g6 / 2 ^ 8 := by unfold Groups.last; omega
  have second : g.last / 2 ^ 16 % 256 = g.g6 % 2 ^ 8 := by unfold Groups.last; omega
  have third : g.last / 2 ^ 8 % 256 = g.g7 / 2 ^ 8 := by unfold Groups.last; omega
  have fourth : g.last % 256 = g.g7 % 2 ^ 8 := by unfold Groups.last; omega
  refine ⟨?_, by unfold Groups.last; omega⟩
  rw [lastQuad, high h6, high h7, low, low, print_eq]
  simp only [ofValue, first, second, third, fourth, append_assoc, cons_append]

lemma isPublicIpv6_groups (correct : IsIP isIP) {text : Text} {g : Groups}
    (expands : expandIpv6 isIP text = some g.list) : isPublicIpv6 isIP text = true ↔
    ¬(g.g0 / 2 ^ 9 = 126 ∨ g.g0 / 2 ^ 6 = 1018 ∨ g.g0 / 2 ^ 8 = 255) ∧
      ¬(g.g0 = 0x64 ∧ g.g1 = 0xff9b ∧ g.g2 = 1) ∧
      ¬(g.g0 = 0x100 ∧ g.g1 = 0 ∧ g.g2 = 0 ∧ g.g3 = 0) ∧ ¬(g.g0 = 0x2001 ∧ g.g1 ≤ 0x1ff) ∧
      ¬(g.g0 = 0x2001 ∧ g.g1 = 0xdb8) ∧ g.g0 ≠ 0x2002 ∧
      (g.g0 = 0 ∧ g.g1 = 0 ∧ g.g2 = 0 ∧ g.g3 = 0 ∧ g.g4 = 0 ∧ (g.g5 = 0 ∨ g.g5 = 0xffff) →
        GlobalV4 g.last ∨ ReservedV4 g.last) := by
  have h0 := g.bound.1
  have nine : bitAnd g.g0 0xfe00 = 0xfc00 ↔ g.g0 / 2 ^ 9 = 126 := by
    rw [show (0xfe00 : Int) = (2 ^ 16 - 2 ^ 9 : Nat) from rfl, bitAnd_highMask h0 (by decide)]
    omega
  have six : bitAnd g.g0 0xffc0 = 0xfe80 ↔ g.g0 / 2 ^ 6 = 1018 := by
    rw [show (0xffc0 : Int) = (2 ^ 16 - 2 ^ 6 : Nat) from rfl, bitAnd_highMask h0 (by decide)]
    omega
  have eight : bitAnd g.g0 0xff00 = 0xff00 ↔ g.g0 / 2 ^ 8 = 255 := by
    rw [show (0xff00 : Int) = (2 ^ 16 - 2 ^ 8 : Nat) from rfl, bitAnd_highMask h0 (by decide)]
    omega
  have quad : isPublicIpv4 isIP (lastQuad g.g6 g.g7) = true ↔
      GlobalV4 g.last ∨ ReservedV4 g.last := by
    obtain ⟨same, bound⟩ := lastQuad_eq g
    rw [same, isPublicIpv4_print correct, value_ofValue bound]
  -- the unspecified and the loopback address embed addresses of this network
  have tiny : g.last ≤ 1 → ¬(GlobalV4 g.last ∨ ReservedV4 g.last) := by
    intro small
    have cases : g.last = 0 ∨ g.last = 1 := by omega
    rcases cases with zero | one
    · rw [zero]
      decide
    · rw [one]
      decide
  unfold isPublicIpv6
  simp only [expands, Groups.list, getD_cons_zero, getD_cons_succ, all_cons,
    all_nil, take_succ_cons, take_zero, Bool.and_true, Bool.and_eq_true,
    decide_eq_true_iff, nine, six, eight]
  norm_cast
  split_ifs with zero top localNat64 discard protocols documentation sixToFour embeds
  · refine iff_of_false not_false fun rest => ?_
    have inner := rest.2.2.2.2.2.2
    clear rest quad
    rcases zero with ⟨e0, e1, e2, e3, e4, e5, e6, e7⟩ | ⟨⟨e0, e1, e2, e3, e4, e5, e6⟩, e7⟩
    · exact tiny (by rw [Groups.last, e6, e7]; decide) (inner ⟨e0, e1, e2, e3, e4, inl e5⟩)
    · exact tiny (by rw [Groups.last, e6, e7]; decide) (inner ⟨e0, e1, e2, e3, e4, inl e5⟩)
  · exact iff_of_false not_false fun rest => rest.1 top
  · exact iff_of_false not_false fun rest => rest.2.1 localNat64
  · exact iff_of_false not_false fun rest => rest.2.2.1 discard
  · exact iff_of_false not_false fun rest => rest.2.2.2.1 protocols
  · exact iff_of_false not_false fun rest => rest.2.2.2.2.1 documentation
  · exact iff_of_false not_false fun rest => rest.2.2.2.2.2.1 sixToFour
  · rw [quad]
    exact ⟨fun inner => ⟨top, localNat64, discard, protocols, documentation, sixToFour,
      fun _ => inner⟩, fun rest => rest.2.2.2.2.2.2 embeds⟩
  · refine iff_of_true rfl ⟨top, localNat64, discard, protocols, documentation, sixToFour, ?_⟩
    exact fun quads => absurd quads embeds

lemma embedded_groups (g : Groups) :
    ((g.g0 = 0 ∧ g.g1 = 0 ∧ g.g2 = 0 ∧ g.g3 = 0 ∧ g.g4 = 0 ∧ (g.g5 = 0 ∨ g.g5 = 0xffff) ∨
      g.g0 = 0x64 ∧ g.g1 = 0xff9b ∧ g.g2 = 0 ∧ g.g3 = 0 ∧ g.g4 = 0 ∧ g.g5 = 0) →
        embedded g.value = some g.last) ∧
    (g.g0 = 0x2002 → (embedded g.value).isSome) ∧
    (¬(g.g0 = 0 ∧ g.g1 = 0 ∧ g.g2 = 0 ∧ g.g3 = 0 ∧ g.g4 = 0 ∧ (g.g5 = 0 ∨ g.g5 = 0xffff)) →
      ¬(g.g0 = 0x64 ∧ g.g1 = 0xff9b ∧ g.g2 = 0 ∧ g.g3 = 0 ∧ g.g4 = 0 ∧ g.g5 = 0) →
      g.g0 ≠ 0x2002 → embedded g.value = none) := by
  have read := g.read
  unfold embedded
  simp only [read.compatible, read.mapped, read.nat64, read.sixToFour, read.last]
  refine ⟨fun quads => ?_, fun sixToFour => ?_, fun quads nat64 other => ?_⟩
  · rw [if_pos (by omega)]
  · rw [if_neg (by omega), if_pos sixToFour]
    rfl
  · rw [if_neg (by omega), if_neg other]

lemma leftOutV6_iff (correct : IsIP isIP) (spelling : Ipv6Spelling) :
    LeftOutV6 (ofGroups spelling.groups) ↔
      isPublicIpv6 isIP spelling.print = true ∧ ¬GlobalV6 (ofGroups spelling.groups) := by
  obtain ⟨g, same⟩ := Groups.exists_of_spelling spelling
  have expands : expandIpv6 isIP spelling.print = some g.list :=
    (expandIpv6_print correct spelling).trans (congrArg some same)
  have read := g.read
  have reserved : ReservedV4 g.last → ¬GlobalV4 g.last := not_globalV4_of_reserved
  obtain ⟨quads, sixToFour, plain⟩ := embedded_groups g
  rw [same, isPublicIpv6_groups correct expands]
  change LeftOutV6 g.value ↔ _ ∧ ¬GlobalV6 g.value
  unfold LeftOutV6 GlobalV6
  rw [read.last]
  simp only [checkedV6, specialV6, forall_mem_cons, read.compatible, read.mapped, read.nat64,
    read.unicast, read.protocols, read.documentation, read.newDocumentation,
    read.uniqueLocal, read.linkLocal, read.multicast, read.localNat64, read.discard,
    not_mem_nil, false_imp_iff, implies_true, and_true]
  clear read expands same
  by_cases compatible : g.g0 = 0 ∧ g.g1 = 0 ∧ g.g2 = 0 ∧ g.g3 = 0 ∧ g.g4 = 0 ∧
      (g.g5 = 0 ∨ g.g5 = 0xffff)
  · have zero := compatible.1
    rw [quads (inl compatible)]
    clear quads sixToFour plain
    constructor
    · rintro (⟨-, inner⟩ | ⟨nat64, -⟩ | documentation | ⟨none, -⟩)
      · exact ⟨⟨by omega, by omega, by omega, by omega, by omega, by omega, fun _ => inr inner⟩,
          reserved inner⟩
      · omega
      · omega
      · cases none
    · rintro ⟨⟨-, -, -, -, -, -, inner⟩, special⟩
      exact inl ⟨by omega, (inner compatible).resolve_left special⟩
  by_cases nat64 : g.g0 = 0x64 ∧ g.g1 = 0xff9b ∧ g.g2 = 0 ∧ g.g3 = 0 ∧ g.g4 = 0 ∧ g.g5 = 0
  · have first := nat64.1
    rw [quads (inr nat64)]
    clear quads sixToFour plain
    constructor
    · rintro (⟨quads, -⟩ | ⟨-, special⟩ | documentation | ⟨none, -⟩)
      · omega
      · exact ⟨⟨by omega, by omega, by omega, by omega, by omega, by omega,
          fun quads => absurd quads compatible⟩, special⟩
      · omega
      · cases none
    · rintro ⟨-, special⟩
      exact inr (inl ⟨nat64, special⟩)
  by_cases relayed : g.g0 = 0x2002
  · obtain ⟨inner, embeds⟩ := Option.isSome_iff_exists.mp (sixToFour relayed)
    rw [embeds]
    refine iff_of_false ?_ fun passed => passed.1.2.2.2.2.2.1 relayed
    clear quads sixToFour plain
    rintro (⟨quads, -⟩ | ⟨nat64, -⟩ | documentation | ⟨none, -⟩)
    · omega
    · omega
    · omega
    · cases none
  · rw [plain compatible nat64 relayed]
    clear quads sixToFour plain
    constructor
    · rintro (⟨quads, -⟩ | ⟨inner, -⟩ | documentation | ⟨-, outside, checked⟩)
      · omega
      · exact absurd inner nat64
      · exact ⟨⟨by omega, by omega, by omega, by omega, by omega, relayed,
          fun quads => absurd quads compatible⟩, fun global => global.2.2.2 documentation⟩
      · obtain ⟨unique, link, multicast, localNat64, discard⟩ := checked
        exact ⟨⟨by omega, localNat64, discard, by omega, by omega, relayed,
          fun quads => absurd quads compatible⟩, fun global => outside global.1⟩
    · rintro ⟨⟨top, localNat64, discard, protocols, documentation, -, -⟩, special⟩
      by_cases newer : g.g0 = 0x3fff ∧ g.g1 < 0x1000
      · exact inr (inr (inl newer))
      · refine inr (inr (inr ⟨rfl, fun inside => ?_, ?_⟩))
        · exact special ⟨inside, protocols, documentation, newer⟩
        · exact ⟨by omega, by omega, by omega, localNat64, discard⟩

lemma isPublicIpv6_global (correct : IsIP isIP) (spelling : Ipv6Spelling)
    (global : GlobalV6 (ofGroups spelling.groups)) : isPublicIpv6 isIP spelling.print = true ↔
      ¬Contains ⟨leading [0x2002], 16⟩ 128 (ofGroups spelling.groups) := by
  obtain ⟨g, same⟩ := Groups.exists_of_spelling spelling
  have expands : expandIpv6 isIP spelling.print = some g.list :=
    (expandIpv6_print correct spelling).trans (congrArg some same)
  have read := g.read
  obtain ⟨quads, sixToFour, plain⟩ := embedded_groups g
  rw [same] at global
  change GlobalV6 g.value at global
  rw [same, isPublicIpv6_groups correct expands]
  change _ ↔ ¬Contains _ 128 g.value
  rw [read.sixToFour]
  refine ⟨fun passed => passed.2.2.2.2.2.1, fun other => ?_⟩
  unfold GlobalV6 at global
  by_cases compatible : g.g0 = 0 ∧ g.g1 = 0 ∧ g.g2 = 0 ∧ g.g3 = 0 ∧ g.g4 = 0 ∧
      (g.g5 = 0 ∨ g.g5 = 0xffff)
  · have zero := compatible.1
    rw [quads (inl compatible)] at global
    clear quads sixToFour plain
    exact ⟨by omega, by omega, by omega, by omega, by omega, other, fun _ => inl global⟩
  by_cases nat64 : g.g0 = 0x64 ∧ g.g1 = 0xff9b ∧ g.g2 = 0 ∧ g.g3 = 0 ∧ g.g4 = 0 ∧ g.g5 = 0
  · have first := nat64.1
    clear quads sixToFour plain
    exact ⟨by omega, by omega, by omega, by omega, by omega, other,
      fun quads => absurd quads compatible⟩
  · rw [plain compatible nat64 other] at global
    simp only [specialV6, forall_mem_cons, read.unicast, read.protocols,
      read.documentation] at global
    obtain ⟨inside, protocols, documentation, -⟩ := global
    clear quads sixToFour plain
    exact ⟨by omega, by omega, by omega, protocols, documentation, other,
      fun quads => absurd quads compatible⟩

end Ipv6

/-! ## Targets -/

section Targets

variable {isIP : Text → Nat}

/-- The kinds of addresses that are passed and not global. -/
def LeftOut : Address → Prop
  | .v4 value => ReservedV4 value
  | .v6 value => LeftOutV6 value

/-- The addresses that are passed: the global ones without 6to4, and what is left out. -/
def Passed : Address → Prop
  | .v4 value => GlobalV4 value ∨ ReservedV4 value
  | .v6 value => GlobalV6 value ∧ ¬Contains ⟨leading [0x2002], 16⟩ 128 value ∨ LeftOutV6 value

lemma isPublicIpAddress_iff (correct : IsIP isIP) {text : Text} {address : Address}
    (denotes : Denotes text address) :
    isPublicIpAddress isIP text = true ↔ Passed address := by
  unfold isPublicIpAddress
  cases denotes with
  | v4 address =>
    have family : isIP address.print = 4 := (correct.four _).mpr ⟨address, rfl⟩
    rw [family, if_pos rfl, isPublicIpv4_print correct]
    rfl
  | v6 spelling =>
    have family : isIP spelling.print = 6 := (correct.six _).mpr ⟨spelling, rfl⟩
    rw [family, if_neg (by decide), if_pos rfl]
    change _ ↔ _ ∧ _ ∨ LeftOutV6 _
    rw [leftOutV6_iff correct]
    by_cases global : GlobalV6 (ofGroups spelling.groups)
    · rw [isPublicIpv6_global correct spelling global]
      exact ⟨fun other => inl ⟨global, other⟩, fun either => either.elim And.right
        fun left => absurd global left.2⟩
    · exact ⟨fun passed => inr ⟨passed, global⟩, fun either => either.elim
        (fun inside => absurd inside.1 global) And.left⟩

lemma not_global_of_leftOut (correct : IsIP isIP) {text : Text} {address : Address}
    (denotes : Denotes text address) (left : LeftOut address) : ¬address.Global := by
  cases denotes with
  | v4 address => exact not_globalV4_of_reserved left
  | v6 spelling => exact ((leftOutV6_iff correct spelling).mp left).2

def AcceptedUrl (parseUrl : String → Option Url) (rawUrl : String) : Prop :=
  ∃ url, parseUrl rawUrl = some url ∧ (url.protocol = "http:" ∨ url.protocol = "https:") ∧
    url.username = "" ∧ url.password = "" ∧
    let hostname := (withoutBrackets url.hostname).map Char.toLower
    hostname ≠ [] ∧ hostname ≠ "localhost".toList ∧ ¬".localhost".toList <:+ hostname

lemma evaluatePublicNetworkTarget_allowed_iff (parseUrl : String → Option Url)
    (input : PublicNetworkTargetInput) :
    (∃ canonicalUrl hostname, evaluatePublicNetworkTarget isIP parseUrl input =
        .allowed canonicalUrl hostname) ↔
      AcceptedUrl parseUrl input.rawUrl ∧ input.resolvedAddresses ≠ [] ∧
        ∀ text ∈ input.resolvedAddresses, isPublicIpAddress isIP text = true := by
  unfold evaluatePublicNetworkTarget AcceptedUrl
  cases parsed : parseUrl input.rawUrl with
  | none =>
    refine iff_of_false ?_ ?_
    · rintro ⟨_, _, allowed⟩
      cases allowed
    · rintro ⟨⟨url, found, -⟩, -⟩
      cases found
  | some url =>
    simp only [Option.some.injEq, exists_eq_left']
    split_ifs with scheme credentials host empty passed
    · refine iff_of_false ?_ fun accepted => accepted.1.1.elim scheme.1 scheme.2
      rintro ⟨_, _, rejected⟩
      cases rejected
    · refine iff_of_false ?_ fun accepted => ?_
      · rintro ⟨_, _, rejected⟩
        cases rejected
      · exact credentials.elim (fun named => named accepted.1.2.1) fun secret =>
          secret accepted.1.2.2.1
    · refine iff_of_false ?_ fun accepted => ?_
      · rintro ⟨_, _, rejected⟩
        cases rejected
      · obtain ⟨⟨-, -, -, named, other, outside⟩, -⟩ := accepted
        rcases host with empty | same | inside
        · exact named empty
        · exact other same
        · exact outside inside
    · refine iff_of_false ?_ fun accepted => accepted.2.1 empty
      rintro ⟨_, _, rejected⟩
      cases rejected
    · refine iff_of_true ⟨_, _, rfl⟩ ⟨⟨?_, ?_, ?_, ?_, ?_, ?_⟩, empty, ?_⟩
      · exact (not_and_or.mp scheme).imp not_not.mp not_not.mp
      · exact not_not.mp fun named => credentials (inl named)
      · exact not_not.mp fun secret => credentials (inr secret)
      · exact fun empty => host (inl empty)
      · exact fun same => host (inr (inl same))
      · exact fun inside => host (inr (inr inside))
      · exact all_eq_true.mp passed
    · refine iff_of_false ?_ fun accepted => passed (all_eq_true.mpr accepted.2.2)
      rintro ⟨_, _, rejected⟩
      cases rejected

/-- `expandIpv6` reads every text of the family, and every address of an allowed
target is global exactly when the target is not accepted with an address that is
left out. -/
theorem public_target_global_iff (correct : IsIP isIP) (parseUrl : String → Option Url)
    (input : PublicNetworkTargetInput) (nonempty : input.resolvedAddresses ≠ [])
    (addresses : ∀ text ∈ input.resolvedAddresses, isIP text = 4 ∨ isIP text = 6) :
    (∀ text, isIP text = 6 → ∃ spelling : Ipv6Spelling, spelling.print = text ∧
      expandIpv6 isIP text = some spelling.groups) ∧
    (((∃ canonicalUrl hostname, evaluatePublicNetworkTarget isIP parseUrl input =
          .allowed canonicalUrl hostname) →
        ∀ text ∈ input.resolvedAddresses, ∀ address, Denotes text address → address.Global) ↔
      (AcceptedUrl parseUrl input.rawUrl →
        (∀ text ∈ input.resolvedAddresses, ∀ address, Denotes text address → Passed address) →
        ∀ text ∈ input.resolvedAddresses, ∀ address, Denotes text address → ¬LeftOut address)) := by
  refine ⟨fun text family => ?_, ?_⟩
  · obtain ⟨spelling, rfl⟩ := (correct.six text).mp family
    exact ⟨spelling, rfl, expandIpv6_print correct spelling⟩
  rw [evaluatePublicNetworkTarget_allowed_iff]
  have denoted (text : Text) (member : text ∈ input.resolvedAddresses) :
      ∃ address, Denotes text address := by
    rcases addresses text member with four | six
    · obtain ⟨address, rfl⟩ := (correct.four text).mp four
      exact ⟨_, .v4 address⟩
    · obtain ⟨spelling, rfl⟩ := (correct.six text).mp six
      exact ⟨_, .v6 spelling⟩
  constructor
  · intro sound accepted passed text member address denotes left
    refine not_global_of_leftOut correct denotes left (sound ⟨accepted, nonempty, ?_⟩ text member
      address denotes)
    intro other there
    obtain ⟨spelled, spells⟩ := denoted other there
    exact (isPublicIpAddress_iff correct spells).mpr (passed other there spelled spells)
  · rintro kept ⟨accepted, -, pass⟩ text member address denotes
    have passed : ∀ text ∈ input.resolvedAddresses, ∀ address, Denotes text address →
        Passed address := fun text member address denotes =>
      (isPublicIpAddress_iff correct denotes).mp (pass text member)
    have kind := passed text member address denotes
    have other := kept accepted passed text member address denotes
    cases denotes with
    | v4 address => exact kind.resolve_right other
    | v6 spelling => exact (kind.resolve_right other).1

end Targets

/-! ## A classification of texts -/

lemma colon_mem_print : ':' ∈ spelling.print := by
  have two {first second : Text} {rest : List Text} : ':' ∈ join (first :: second :: rest) := by
    rw [join_cons first (cons_ne_nil _ _)]
    exact mem_append_right _ mem_cons_self
  refine mem_append_left _ ?_
  unfold Ipv6Spelling.printAddress
  cases right : spelling.right with
  | some groups => exact mem_append_right _ mem_cons_self
  | none =>
    have full := spelling.full right
    have few : tailCount spelling.tail ≤ 2 := by unfold tailCount; split <;> omega
    match left : spelling.left with
    | [] => rw [left, length_nil] at full; omega
    | [_] => rw [left, length_singleton] at full; omega
    | _ :: _ :: _ => exact two

open Classical in
noncomputable def family (text : Text) : Nat :=
  if ∃ address : Ipv4, address.print = text then 4
  else if ∃ spelling : Ipv6Spelling, spelling.print = text then 6
  else 0

lemma isIP_family : IsIP family := by
  have apart {text : Text} (six : ∃ spelling : Ipv6Spelling, spelling.print = text) :
      ¬∃ address : Ipv4, address.print = text := by
    obtain ⟨spelling, rfl⟩ := six
    rintro ⟨address, same⟩
    have colon := colon_mem_print spelling
    rw [← same] at colon
    exact absurd (mem_print colon) (by decide)
  constructor
  · intro text
    unfold family
    split_ifs with four six
    · exact iff_of_true rfl four
    · exact iff_of_false (by decide) four
    · exact iff_of_false (by decide) four
  · intro text
    unfold family
    split_ifs with four six
    · exact iff_of_false (by decide) fun six => apart six four
    · exact iff_of_true rfl six
    · exact iff_of_false (by decide) six

lemma print_injective {address other : Ipv4} (same : address.print = other.print) :
    address = other := by
  have octets : address.octets.map decimal = other.octets.map decimal := by
    rw [← splitOn_print, ← splitOn_print, same]
  have numbers := congrArg (List.map number) octets
  simp only [Ipv4.octets, map_cons, map_nil, number_decimal, List.cons.injEq,
    Int.natCast_inj, and_true] at numbers
  obtain ⟨first, second, third, fourth⟩ := numbers
  obtain ⟨_, _, _, _⟩ := address
  obtain ⟨_, _, _, _⟩ := other
  simp only [Ipv4.mk.injEq]
  exact ⟨Fin.ext first, Fin.ext second, Fin.ext third, Fin.ext fourth⟩

lemma denotes_print {ipv4 : Ipv4} {address : Address} (denotes : Denotes ipv4.print address) :
    address = .v4 ipv4.value := by
  generalize written : ipv4.print = text at denotes
  cases denotes with
  | v4 other => rw [print_injective written]
  | v6 spelling =>
    have colon := colon_mem_print spelling
    rw [← written] at colon
    exact absurd (mem_print colon) (by decide)

/-- A parser that knows one page. -/
def onePage (_ : String) : Option Url :=
  some ⟨"https:", "", "", "status.example".toList, "https://status.example/"⟩

lemma accepted_onePage : AcceptedUrl onePage "https://status.example/" := by
  refine ⟨_, rfl, inr rfl, rfl, rfl, ?_⟩
  decide

theorem public_target_global_resolver :
    (∃ canonicalUrl hostname, evaluatePublicNetworkTarget family onePage
        ⟨"https://status.example/", [(mk 8 8 8 8).print]⟩ =
          .allowed canonicalUrl hostname) ∧
      ∀ text ∈ [(mk 8 8 8 8).print], ∀ address, Denotes text address → address.Global := by
  have denoted {text : Text} (member : text ∈ [(mk 8 8 8 8).print]) {address : Address}
      (denotes : Denotes text address) : address = .v4 (mk 8 8 8 8).value := by
    rw [mem_singleton.mp member] at denotes
    exact denotes_print denotes
  have allowed : ∃ canonicalUrl hostname, evaluatePublicNetworkTarget family onePage
      ⟨"https://status.example/", [(mk 8 8 8 8).print]⟩ = .allowed canonicalUrl hostname := by
    refine (evaluatePublicNetworkTarget_allowed_iff _ _).mpr
      ⟨accepted_onePage, cons_ne_nil _ _, fun text member => ?_⟩
    rw [mem_singleton.mp member]
    refine (isPublicIpAddress_iff isIP_family (.v4 _)).mpr (inl ?_)
    decide
  refine ⟨allowed, ((public_target_global_iff isIP_family onePage
    ⟨"https://status.example/", [(mk 8 8 8 8).print]⟩ (cons_ne_nil _ _) ?_).2.mpr ?_)
    allowed⟩
  · intro text member
    rw [mem_singleton.mp member]
    exact inl ((isIP_family.four _).mpr ⟨_, rfl⟩)
  · intro _ _ text member address denotes
    rw [denoted member denotes]
    change ¬ReservedV4 _
    decide

/-- The broadcast address is passed. -/
theorem broadcast_target_allowed :
    family (mk 255 255 255 255).print = 4 ∧
      (∃ canonicalUrl hostname, evaluatePublicNetworkTarget family onePage
        ⟨"https://status.example/", [(mk 255 255 255 255).print]⟩ =
          .allowed canonicalUrl hostname) ∧
      Denotes (mk 255 255 255 255).print (.v4 (quad 255 255 255 255)) ∧
      ¬Address.Global (.v4 (quad 255 255 255 255)) := by
  refine ⟨(isIP_family.four _).mpr ⟨_, rfl⟩, ?_, .v4 (mk 255 255 255 255), ?_⟩
  · refine (evaluatePublicNetworkTarget_allowed_iff _ _).mpr
      ⟨accepted_onePage, cons_ne_nil _ _, fun text member => ?_⟩
    rw [mem_singleton.mp member]
    refine (isPublicIpAddress_iff isIP_family (.v4 _)).mpr (inr ?_)
    decide
  · change ¬GlobalV4 _
    decide

end Knowbee
