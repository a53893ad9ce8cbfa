import Mathlib.Tactic.Common
import Mathlib.Algebra.GroupWithZero.Nat

/-!
# IP addresses, their texts and their kinds

A text denotes an address when the address has a spelling that prints it: four
decimals for IPv4, and for IPv6 groups of hexadecimal digits of either case with
leading zeros, `::` for one or more groups of zeros, an IPv4 address for the last
two groups, and a zone.  Which addresses are global is read off the registries of
special purpose addresses; an IPv6 address that embeds an IPv4 address is global
when that is.
-/

namespace Ip

open List

abbrev Text : Type := List Char

def decimal (n : Nat) : Text := Nat.toDigits 10 n

structure Ipv4 where
  (first second third fourth : Fin 256)

namespace Ipv4

def octets (address : Ipv4) : List Nat :=
  [address.first, address.second, address.third, address.fourth]

def value (address : Ipv4) : Nat :=
  ((address.first * 256 + address.second) * 256 + address.third) * 256 + address.fourth

def print (address : Ipv4) : Text := ['.'].intercalate (address.octets.map decimal)

lemma value_lt (address : Ipv4) : address.value < 2 ^ 32 := by
  unfold value
  have := address.first.isLt
  have := address.second.isLt
  have := address.third.isLt
  have := address.fourth.isLt
  omega

def ofValue (value : Nat) : Ipv4 :=
  ⟨⟨value / 2 ^ 24 % 256, Nat.mod_lt _ (by decide)⟩, ⟨value / 2 ^ 16 % 256, Nat.mod_lt _ (by decide)⟩,
    ⟨value / 2 ^ 8 % 256, Nat.mod_lt _ (by decide)⟩, ⟨value % 256, Nat.mod_lt _ (by decide)⟩⟩

lemma value_ofValue {value : Nat} (bound : value < 2 ^ 32) : (ofValue value).value = value := by
  simp only [Ipv4.value, ofValue]
  omega

end Ipv4

def lowerHexDigits : Text := "0123456789abcdef".toList

def upperHexDigits : Text := "ABCDEF".toList

def hexDigit (c : Char) : Nat :=
  if c ∈ upperHexDigits then 10 + upperHexDigits.idxOf c else lowerHexDigits.idxOf c

def hexValue (digits : Text) : Nat := digits.foldl (fun n c => 16 * n + hexDigit c) 0

structure HexGroup where
  digits : Text
  positive : 0 < digits.length
  short : digits.length ≤ 4
  hex : ∀ c ∈ digits, c ∈ lowerHexDigits ++ upperHexDigits

def HexGroup.value (group : HexGroup) : Nat := hexValue group.digits

lemma HexGroup.value_lt (group : HexGroup) : group.value < 2 ^ 16 := by
  have all : (lowerHexDigits ++ upperHexDigits).all (hexDigit · < 16) = true := by decide
  have digit : ∀ c ∈ lowerHexDigits ++ upperHexDigits, hexDigit c < 16 :=
    fun c member => of_decide_eq_true (all_eq_true.mp all c member)
  have bound (text : Text) (hex : ∀ c ∈ text, hexDigit c < 16) start :
      text.foldl (fun n c => 16 * n + hexDigit c) start < (start + 1) * 16 ^ text.length := by
    induction text generalizing start with
    | nil =>
      rw [foldl_nil, length_nil]
      omega
    | cons c rest ih =>
      have here := hex c mem_cons_self
      rw [foldl_cons]
      refine Nat.lt_of_lt_of_le (ih (fun c member => hex c (mem_cons_of_mem _ member)) _) ?_
      rw [length_cons, Nat.pow_succ', ← Nat.mul_assoc]
      exact Nat.mul_le_mul_right _ (by omega)
  have small := bound group.digits (fun c member => digit c (group.hex c member)) 0
  have le : 16 ^ group.digits.length ≤ 16 ^ 4 := Nat.pow_le_pow_right (by decide) group.short
  exact Nat.lt_of_lt_of_le small (by rw [Nat.zero_add, Nat.one_mul]; exact le)

lemma hexValue_toDigits (n : Nat) :
    hexValue (Nat.toDigits 16 n) = n ∧ ∀ c ∈ Nat.toDigits 16 n, c ∈ lowerHexDigits := by
  have digit : ∀ d < 16, hexDigit d.digitChar = d ∧ d.digitChar ∈ lowerHexDigits := by decide
  induction n using Nat.strongRecOn with
  | ind n ih =>
    rcases Nat.lt_or_ge n 16 with small | large
    · rw [Nat.toDigits_of_lt_base small]
      refine ⟨?_, fun c member => ?_⟩
      · simp [hexValue, foldl_cons, foldl_nil, (digit n small).1]
      · rw [mem_singleton.mp member]
        exact (digit n small).2
    · obtain ⟨value, lower⟩ := ih (n / 16) (Nat.div_lt_self (by omega) (by decide))
      have last := digit (n % 16) (Nat.mod_lt n (by decide))
      rw [Nat.toDigits_of_base_le (by decide) large]
      refine ⟨?_, fun c member => ?_⟩
      · unfold hexValue at value ⊢
        rw [foldl_append, value, foldl_cons, foldl_nil, last.1]
        omega
      · rcases mem_append.mp member with earlier | here
        · exact lower c earlier
        · rw [mem_singleton.mp here]
          exact last.2

def tailCount (tail : Option Ipv4) : Nat := if tail.isSome then 2 else 0

def tailGroups : Option Ipv4 → List Nat
  | none => []
  | some address => [address.value / 2 ^ 16, address.value % 2 ^ 16]

def IsZoneChar (c : Char) : Prop := c.isAlphanum ∨ c ∈ ['-', '.', ':']

/-- How an IPv6 address is written: `right` is what follows `::`, if there is one. -/
structure Ipv6Spelling where
  left : List HexGroup
  right : Option (List HexGroup)
  tail : Option Ipv4
  zone : Option Text
  zoned : ∀ text, zone = some text → text ≠ [] ∧ ∀ c ∈ text, IsZoneChar c
  full : right = none → left.length + tailCount tail = 8
  compressed : ∀ groups, right = some groups → left.length + groups.length + tailCount tail < 8

def join (parts : List Text) : Text := [':'].intercalate parts

@[simp] lemma join_nil : join [] = [] := rfl

@[simp] lemma join_singleton (part : Text) : join [part] = part := by
  simp [join]

lemma join_cons (part : Text) {rest : List Text} (more : rest ≠ []) :
    join (part :: rest) = part ++ ':' :: join rest := by
  rw [join, intercalate_cons_of_ne_nil more, append_assoc]
  rfl

lemma join_append (parts : List Text) (last : List Text) (more : last ≠ []) :
    join (parts ++ last) = (if parts = [] then [] else join parts ++ [':']) ++ join last := by
  induction parts with
  | nil => rfl
  | cons part rest ih =>
    have nonempty : rest ++ last ≠ [] := fun none => more (append_eq_nil_iff.mp none).2
    rw [cons_append, join_cons part nonempty, ih, if_neg (cons_ne_nil _ _)]
    by_cases alone : rest = []
    · rw [alone, if_pos rfl, join_singleton, nil_append, append_assoc]
      rfl
    · rw [if_neg alone, join_cons part alone]
      simp

lemma map_join {f : Char → Char} (fixed : f ':' = ':') (parts : List Text) :
    (join parts).map f = join (parts.map (·.map f)) := by
  induction parts with
  | nil => rfl
  | cons part rest ih =>
    by_cases alone : rest = []
    · rw [alone, join_singleton, map_singleton, join_singleton]
    · have more : rest.map (·.map f) ≠ [] := fun none => alone (map_eq_nil_iff.mp none)
      rw [join_cons part alone, map_cons, join_cons _ more, map_append, map_cons, ih,
        fixed]

lemma mem_join {c : Char} {parts : List Text} (member : c ∈ join parts) :
    c = ':' ∨ ∃ part ∈ parts, c ∈ part := by
  induction parts with
  | nil => cases member
  | cons part rest ih =>
    by_cases alone : rest = []
    · rw [alone, join_singleton] at member
      exact .inr ⟨part, mem_cons_self, member⟩
    · rw [join_cons part alone] at member
      rcases mem_append.mp member with here | later
      · exact .inr ⟨part, mem_cons_self, here⟩
      · rcases mem_cons.mp later with colon | later
        · exact .inl colon
        · rcases ih later with colon | ⟨other, there, inside⟩
          · exact .inl colon
          · exact .inr ⟨other, mem_cons_of_mem _ there, inside⟩

namespace Ipv6Spelling

variable (spelling : Ipv6Spelling)

def printAddress : Text :=
  let last := spelling.tail.toList.map Ipv4.print
  match spelling.right with
  | none => join (spelling.left.map HexGroup.digits ++ last)
  | some right =>
    join (spelling.left.map HexGroup.digits) ++ ':' :: ':' ::
      join (right.map HexGroup.digits ++ last)

def print (spelling : Ipv6Spelling) : Text :=
  spelling.printAddress ++ match spelling.zone with
    | none => []
    | some zone => '%' :: zone

def groups : List Nat :=
  match spelling.right with
  | none => spelling.left.map HexGroup.value ++ tailGroups spelling.tail
  | some right =>
    spelling.left.map HexGroup.value ++
      List.replicate (8 - spelling.left.length - right.length - tailCount spelling.tail) 0 ++
      right.map HexGroup.value ++ tailGroups spelling.tail

lemma length_groups : spelling.groups.length = 8 := by
  have tail : (tailGroups spelling.tail).length = tailCount spelling.tail := by
    cases spelling.tail <;> rfl
  have full := spelling.full
  have compressed := spelling.compressed
  unfold groups
  cases right : spelling.right with
  | none =>
    rw [length_append, length_map, tail]
    exact full right
  | some groups =>
    have short := compressed groups right
    simp only [length_append, length_map, length_replicate, tail]
    omega

lemma groups_lt : ∀ group ∈ spelling.groups, group < 2 ^ 16 := by
  have written (parts : List HexGroup) : ∀ group ∈ parts.map HexGroup.value, group < 2 ^ 16 := by
    intro group member
    obtain ⟨part, -, rfl⟩ := mem_map.mp member
    exact part.value_lt
  have tail : ∀ group ∈ tailGroups spelling.tail, group < 2 ^ 16 := by
    cases spelling.tail with
    | none => exact nofun
    | some address =>
      have bound := address.value_lt
      intro group member
      simp only [tailGroups, mem_cons, not_mem_nil, or_false] at member
      rcases member with rfl | rfl <;> omega
  unfold groups
  intro group member
  cases right : spelling.right with
  | none =>
    simp only [right] at member
    exact (mem_append.mp member).elim (written _ group) (tail group)
  | some groups =>
    simp only [right, mem_append] at member
    rcases member with ((first | zero) | second) | last
    · exact written _ group first
    · rw [eq_of_mem_replicate zero]
      decide
    · exact written _ group second
    · exact tail group last

end Ipv6Spelling

def ofGroups (groups : List Nat) : Nat := groups.foldl (fun n group => 2 ^ 16 * n + group) 0

inductive Address where
  | v4 (value : Nat)
  | v6 (value : Nat)

inductive Denotes : Text → Address → Prop where
  | v4 (address : Ipv4) : Denotes address.print (.v4 address.value)
  | v6 (spelling : Ipv6Spelling) : Denotes spelling.print (.v6 (ofGroups spelling.groups))

/-- The addresses that begin with the first `length` bits of `base`. -/
structure Block where
  (base length : Nat)

def Block.Contains (block : Block) (width value : Nat) : Prop :=
  value / 2 ^ (width - block.length) = block.base / 2 ^ (width - block.length)

instance (block : Block) (width value : Nat) : Decidable (block.Contains width value) :=
  inferInstanceAs (Decidable (_ = _))

def quad (first second third fourth : Nat) : Nat :=
  ((first * 256 + second) * 256 + third) * 256 + fourth

def leading (groups : List Nat) : Nat := ofGroups (groups ++ List.replicate (8 - groups.length) 0)

def specialV4 : List Block :=
  [⟨quad 0 0 0 0, 8⟩, -- this network and the unspecified address
    ⟨quad 10 0 0 0, 8⟩, ⟨quad 172 16 0 0, 12⟩, ⟨quad 192 168 0 0, 16⟩, -- private
    ⟨quad 100 64 0 0, 10⟩, -- shared
    ⟨quad 127 0 0 0, 8⟩, -- loopback
    ⟨quad 169 254 0 0, 16⟩, -- link-local
    ⟨quad 192 0 0 0, 24⟩, ⟨quad 192 88 99 0, 24⟩, ⟨quad 198 18 0 0, 15⟩, -- protocols, benchmarks
    ⟨quad 192 0 2 0, 24⟩, ⟨quad 198 51 100 0, 24⟩, ⟨quad 203 0 113 0, 24⟩, -- documentation
    ⟨quad 224 0 0 0, 4⟩, -- multicast
    ⟨quad 240 0 0 0, 4⟩, ⟨quad 255 255 255 255, 32⟩] -- reserved and broadcast

def GlobalV4 (value : Nat) : Prop := ∀ block ∈ specialV4, ¬block.Contains 32 value

instance (value : Nat) : Decidable (GlobalV4 value) := inferInstanceAs (Decidable (∀ _ ∈ _, _))

/-- The IPv4 address that an IPv6 address embeds: as IPv4-compatible, as
IPv4-mapped, for NAT64, or as 6to4. -/
def embedded (value : Nat) : Option Nat :=
  if Block.Contains ⟨leading [], 96⟩ 128 value ∨
      Block.Contains ⟨leading [0, 0, 0, 0, 0, 0xffff], 96⟩ 128 value ∨
      Block.Contains ⟨leading [0x64, 0xff9b], 96⟩ 128 value then some (value % 2 ^ 32)
  else if Block.Contains ⟨leading [0x2002], 16⟩ 128 value then some (value / 2 ^ 80 % 2 ^ 32)
  else none

/-- The block that is allocated for global addresses; outside of it are the
unspecified, loopback, unique local, link-local, multicast and reserved ones. -/
def unicast : Block := ⟨leading [0x2000], 3⟩

/-- The blocks within it that are not global. -/
def specialV6 : List Block :=
  [⟨leading [0x2001], 23⟩, -- protocols
    ⟨leading [0x2001, 0xdb8], 32⟩, ⟨leading [0x3fff], 20⟩] -- documentation

def GlobalV6 (value : Nat) : Prop :=
  match embedded value with
  | some inner => GlobalV4 inner
  | none => unicast.Contains 128 value ∧ ∀ block ∈ specialV6, ¬block.Contains 128 value

instance (value : Nat) : Decidable (GlobalV6 value) := by
  unfold GlobalV6
  split <;> infer_instance

def Address.Global : Address → Prop
  | .v4 value => GlobalV4 value
  | .v6 value => GlobalV6 value

end Ip
