import Mathlib.Data.List.DropRight
import Mathlib.Data.List.Sort
import Mathlib.Data.Rat.Floor
import Mathlib.Data.String.Basic

/-!
# Values of the TypeScript packages

Integers stand for the numbers that are used as counters and clocks, and the
string operations are those the validators are written with.  Numbers that
callers choose are `JsNumber`, with the values that are not finite.
-/

namespace Knowbee

open List Nat

def isSafeInteger (value : Int) : Bool := -(2 ^ 53 - 1) ≤ value && value ≤ 2 ^ 53 - 1

/-- What `String.prototype.trim` removes: white space, line terminators and the
byte order mark. -/
def isTrimmed (c : Char) : Bool :=
  let n := c.toNat
  (9 ≤ n && n ≤ 13) || n == 32 || n == 0xA0 || n == 0x1680 || (0x2000 ≤ n && n ≤ 0x200A) ||
    n == 0x2028 || n == 0x2029 || n == 0x202F || n == 0x205F || n == 0x3000 || n == 0xFEFF

def jsTrim (value : String) : String :=
  let front := value.toList.dropWhile isTrimmed
  String.ofList (front.reverse.dropWhile isTrimmed).reverse

lemma jsTrim_eq (value : String) : jsTrim value =
    String.ofList ((value.toList.dropWhile isTrimmed).rdropWhile isTrimmed) := rfl

lemma dropWhile_trimmed (chars : List Char) :
    ((chars.dropWhile isTrimmed).rdropWhile isTrimmed).dropWhile isTrimmed =
      (chars.dropWhile isTrimmed).rdropWhile isTrimmed := by
  have first := dropWhile_eq_self_iff.mp
    (dropWhile_idempotent (p := isTrimmed) (l := chars))
  rw [dropWhile_eq_self_iff]
  intro positive
  have kept := rdropWhile_prefix isTrimmed (chars.dropWhile isTrimmed)
  rw [kept.getElem positive]
  exact first _

lemma jsTrim_jsTrim (value : String) : jsTrim (jsTrim value) = jsTrim value := by
  rw [jsTrim_eq (jsTrim value), jsTrim_eq value, String.toList_ofList, dropWhile_trimmed,
    rdropWhile_idempotent]

/-- `/^sha256:[a-f0-9]{64}$/u`. -/
def isHashReference (value : String) : Bool :=
  let start := "sha256:".toList
  let digest := value.toList.drop start.length
  start.isPrefixOf value.toList && digest.length == 64 &&
    digest.all fun c => (97 ≤ c.toNat && c.toNat ≤ 102) || (48 ≤ c.toNat && c.toNat ≤ 57)

def charUnits (c : Char) : List Nat :=
  if c.toNat < 0x10000 then [c.toNat]
  else [0xD800 + (c.toNat - 0x10000) / 0x400, 0xDC00 + (c.toNat - 0x10000) % 0x400]

def utf16Units (value : String) : List Nat := value.toList.flatMap charUnits

def sortStrings (values : List String) : List String :=
  values.insertionSort fun first second => utf16Units first ≤ utf16Units second

@[simp] lemma mem_sortStrings {value : String} {values : List String} :
    value ∈ sortStrings values ↔ value ∈ values := mem_insertionSort _

lemma not_surrogate (c : Char) : c.toNat < 0xD800 ∨ 0xDFFF < c.toNat ∧ c.toNat < 0x110000 :=
  c.valid

lemma charUnits_append {a b : Char} {rest rest' : List Nat}
    (same : charUnits a ++ rest = charUnits b ++ rest') : a = b ∧ rest = rest' := by
  have validA := not_surrogate a
  have validB := not_surrogate b
  unfold charUnits at same
  split_ifs at same with smallA smallB smallB
  · simp only [cons_append, nil_append, List.cons.injEq] at same
    exact ⟨Char.toNat_inj.mp same.1, same.2⟩
  · simp only [cons_append, nil_append, List.cons.injEq] at same
    omega
  · simp only [cons_append, nil_append, List.cons.injEq] at same
    omega
  · simp only [cons_append, nil_append, List.cons.injEq] at same
    exact ⟨Char.toNat_inj.mp (by omega), same.2.2⟩

lemma utf16Units_injective : Function.Injective utf16Units := by
  have chars (first second : List Char)
      (same : first.flatMap charUnits = second.flatMap charUnits) : first = second := by
    have nonempty c rest : charUnits c ++ rest ≠ [] := by
      unfold charUnits
      split_ifs <;> simp
    induction first generalizing second with
    | nil =>
      cases second with
      | nil => rfl
      | cons c rest => exact absurd same.symm (nonempty c _)
    | cons c rest ih =>
      cases second with
      | nil => exact absurd same (nonempty c _)
      | cons c' rest' =>
        obtain ⟨rfl, later⟩ := charUnits_append same
        rw [ih rest' later]
  exact fun first second same => String.toList_inj.mp (chars _ _ same)

lemma sortStrings_eq_of_perm {first second : List String} (perm : first.Perm second) :
    sortStrings first = sortStrings second := by
  unfold sortStrings
  refine List.Perm.eq_of_pairwise (fun a b _ _ le le' => utf16Units_injective (le_antisymm le le'))
    (pairwise_insertionSort _ first) (pairwise_insertionSort _ second) ?_
  exact ((perm_insertionSort _ first).trans perm).trans (perm_insertionSort _ second).symm

/-- `a & b`, on the signed integers of 32 bits. -/
def bitAnd (a b : Int) : Int := (BitVec.ofInt 32 a &&& BitVec.ofInt 32 b).toInt

/-- `a | b`. -/
def bitOr (a b : Int) : Int := (BitVec.ofInt 32 a ||| BitVec.ofInt 32 b).toInt

def shiftLeft (a : Int) (count : Nat) : Int := (BitVec.ofInt 32 a <<< (count % 32)).toInt

/-- `a >>> count`, which is not negative. -/
def unsignedShiftRight (a : Int) (count : Nat) : Int := (BitVec.ofInt 32 a >>> (count % 32)).toNat

lemma and_highMask {x k n : Nat} (bound : x < 2 ^ n) (le : k ≤ n) :
    x &&& (2 ^ n - 2 ^ k) = x / 2 ^ k * 2 ^ k := by
  have mask : 2 ^ n - 2 ^ k = (2 ^ (n - k) - 1) * 2 ^ k := by
    rw [Nat.sub_mul, ← Nat.pow_add, Nat.sub_add_cancel le, Nat.one_mul]
  refine Nat.eq_of_testBit_eq fun i => ?_
  rw [mask, Nat.testBit_and, Nat.testBit_mul_two_pow, Nat.testBit_mul_two_pow,
    Nat.testBit_two_pow_sub_one, Nat.testBit_div_two_pow]
  by_cases low : k ≤ i
  · by_cases high : i < n
    · have inside : i - k < n - k := by omega
      simp [low, inside, Nat.sub_add_cancel low]
    · have zero : x.testBit i = false :=
        Nat.testBit_lt_two_pow (Nat.lt_of_lt_of_le bound (Nat.pow_le_pow_right (by decide) (by omega)))
      simp [low, zero, Nat.sub_add_cancel low]
  · simp [low]

lemma bitAnd_eq_iff {a b c : Nat} :
    bitAnd a c = bitAnd b c ↔ (a &&& c) % 2 ^ 32 = (b &&& c) % 2 ^ 32 := by
  unfold bitAnd
  rw [BitVec.toInt_inj, ← BitVec.toNat_inj]
  simp only [BitVec.ofInt_natCast, BitVec.toNat_and, BitVec.toNat_ofNat, and_mod_two_pow]

lemma bitAnd_natCast {a b : Nat} (small : a &&& b < 2 ^ 31) : bitAnd a b = (a &&& b : Nat) := by
  unfold bitAnd
  rw [BitVec.ofInt_natCast, BitVec.ofInt_natCast]
  have same : BitVec.ofNat 32 a &&& BitVec.ofNat 32 b = BitVec.ofNat 32 (a &&& b) := by
    apply BitVec.eq_of_toNat_eq
    simp only [BitVec.toNat_and, BitVec.toNat_ofNat, and_mod_two_pow]
  have value : (BitVec.ofNat 32 (a &&& b)).toNat = a &&& b := by
    rw [BitVec.toNat_ofNat]
    exact mod_eq_of_lt (lt_trans small (by decide))
  rw [same, BitVec.toInt_eq_toNat_of_lt (by omega), value]

lemma unsignedShiftRight_natCast {value count : Nat} (bound : value < 2 ^ 32) (short : count < 32) :
    unsignedShiftRight value count = (value / 2 ^ count : Nat) := by
  rw [unsignedShiftRight, BitVec.ofInt_natCast, BitVec.toNat_ushiftRight, BitVec.toNat_ofNat,
    mod_eq_of_lt bound, mod_eq_of_lt short, shiftRight_eq_div_pow]

lemma bitAnd_lowMask (value : Nat) {count : Nat} (short : count < 32) :
    bitAnd value (2 ^ count - 1 : Nat) = (value % 2 ^ count : Nat) := by
  have le : (2 : Nat) ^ count ≤ 2 ^ 31 := Nat.pow_le_pow_right (by decide) (by omega)
  have same : value &&& 2 ^ count - 1 = value % 2 ^ count := Nat.and_two_pow_sub_one_eq_mod value count
  rw [bitAnd_natCast, same]
  rw [same]
  exact Nat.lt_of_lt_of_le (Nat.mod_lt _ (Nat.pow_pos (by decide))) le

lemma bitAnd_highMask {value count : Nat} (bound : value < 2 ^ 16) (short : count ≤ 16) :
    bitAnd value (2 ^ 16 - 2 ^ count : Nat) = (value / 2 ^ count * 2 ^ count : Nat) := by
  have le : value / 2 ^ count * 2 ^ count ≤ value := div_mul_le_self _ _
  rw [bitAnd_natCast, and_highMask bound short]
  rw [and_highMask bound short]
  omega

lemma highMask_eq (count : Fin 32) :
    unsignedShiftRight (shiftLeft 0xffffffff count) 0 = (2 ^ 32 - 2 ^ (count : Nat) : Nat) := by
  revert count
  decide

lemma shiftLeft_or {high low count : Nat} (bound : low < 2 ^ count) :
    high <<< count ||| low = high * 2 ^ count + low := by
  rw [← shiftLeft_add_eq_or_of_lt bound, shiftLeft_eq]

lemma octets_eq {o0 o1 o2 o3 : Nat} (h0 : o0 < 256) (h1 : o1 < 256) (h2 : o2 < 256)
    (h3 : o3 < 256) :
    unsignedShiftRight (bitOr (bitOr (bitOr (shiftLeft o0 24) (shiftLeft o1 16))
      (shiftLeft o2 8)) o3) 0 = (((o0 * 256 + o1) * 256 + o2) * 256 + o3 : Nat) := by
  have first : o0 <<< 24 ||| o1 <<< 16 = (o0 * 256 + o1) <<< 16 := by
    rw [shiftLeft_or (by rw [Nat.shiftLeft_eq]; omega), Nat.shiftLeft_eq, Nat.shiftLeft_eq]
    omega
  have second : (o0 * 256 + o1) <<< 16 ||| o2 <<< 8 = ((o0 * 256 + o1) * 256 + o2) <<< 8 := by
    rw [shiftLeft_or (by rw [Nat.shiftLeft_eq]; omega), Nat.shiftLeft_eq, Nat.shiftLeft_eq]
    omega
  have third : ((o0 * 256 + o1) * 256 + o2) <<< 8 ||| o3 =
      ((o0 * 256 + o1) * 256 + o2) * 256 + o3 := shiftLeft_or h3
  unfold unsignedShiftRight bitOr shiftLeft
  simp only [BitVec.ofInt_toInt, BitVec.ofInt_natCast, BitVec.toNat_ushiftRight, BitVec.toNat_or,
    BitVec.toNat_shiftLeft, BitVec.toNat_ofNat, Nat.zero_mod, Nat.shiftRight_zero]
  have fits o count (octet : o < 256) (le : count ≤ 24) :
      (o % 2 ^ 32) <<< (count % 32) % 2 ^ 32 = o <<< count := by
    have small : 2 ^ count ≤ 2 ^ 24 := Nat.pow_le_pow_right (by decide) le
    rw [Nat.mod_eq_of_lt (Nat.lt_trans octet (by decide)), Nat.mod_eq_of_lt (by omega : count < 32),
      Nat.shiftLeft_eq]
    refine Nat.mod_eq_of_lt ?_
    calc o * 2 ^ count ≤ o * 2 ^ 24 := Nat.mul_le_mul_left o small
      _ < 256 * 2 ^ 24 := (Nat.mul_lt_mul_right (by decide)).mpr octet
  rw [fits o0 24 h0 (by decide), fits o1 16 h1 (by decide), fits o2 8 h2 (by decide), first, second,
    Nat.mod_eq_of_lt (Nat.lt_trans h3 (by decide)), third]

/-- A `Set`, in the order of insertion, after values are added to it. -/
def setAdd {α : Type} [DecidableEq α] (set values : List α) : List α :=
  values.foldl (fun set value => if value ∈ set then set else set ++ [value]) set

section Sets

variable {α : Type} [DecidableEq α]

@[simp] lemma mem_setAdd {value : α} {set values : List α} :
    value ∈ setAdd set values ↔ value ∈ set ∨ value ∈ values := by
  induction values generalizing set with
  | nil => simp [setAdd]
  | cons head rest ih =>
    rw [setAdd, foldl_cons, ← setAdd, ih]
    split_ifs with present
    · rw [mem_cons]
      constructor
      · rintro (old | new)
        · exact .inl old
        · exact .inr (.inr new)
      · rintro (old | rfl | new)
        · exact .inl old
        · exact .inl present
        · exact .inr new
    · rw [mem_append, mem_singleton, mem_cons, or_assoc]

lemma setAdd_nodup {set : List α} (distinct : set.Nodup) (values : List α) :
    (setAdd set values).Nodup := by
  induction values generalizing set with
  | nil => exact distinct
  | cons head rest ih =>
    rw [setAdd, foldl_cons, ← setAdd]
    split_ifs with present
    · exact ih distinct
    · exact ih (nodup_append.mpr ⟨distinct, nodup_singleton head,
        fun value old other new same => present (mem_singleton.mp new ▸ same ▸ old)⟩)

lemma setAdd_of_nodup {set values : List α} (distinct : values.Nodup)
    (new : ∀ value ∈ values, value ∉ set) : setAdd set values = set ++ values := by
  induction values generalizing set with
  | nil => exact (append_nil set).symm
  | cons head rest ih =>
    obtain ⟨fresh, distinct⟩ := nodup_cons.mp distinct
    rw [setAdd, foldl_cons, ← setAdd, if_neg (new head mem_cons_self), ih distinct]
    · rw [append_assoc, singleton_append]
    · intro value member
      rw [mem_append, mem_singleton, not_or]
      exact ⟨new value (mem_cons_of_mem _ member), fun same => fresh (same ▸ member)⟩

end Sets

/-- A number of the language; the two zeros are one. -/
inductive JsNumber where
  | nan
  | negInfinity
  | finite (value : ℚ)
  | infinity
  deriving DecidableEq

namespace JsNumber

instance (n : Nat) : OfNat JsNumber n := ⟨.finite n⟩

def ofNat (n : Nat) : JsNumber := .finite n

lemma ofNat_ne_nan (n : Nat) : (OfNat.ofNat n : JsNumber) ≠ .nan := nofun

/-- The operator `<`, which is false of what is not a number. -/
def lt : JsNumber → JsNumber → Bool
  | .nan, _ => false
  | _, .nan => false
  | .infinity, _ => false
  | _, .negInfinity => false
  | .negInfinity, _ => true
  | _, .infinity => true
  | .finite a, .finite b => a < b

def le : JsNumber → JsNumber → Bool
  | .nan, _ => false
  | _, .nan => false
  | .negInfinity, _ => true
  | _, .infinity => true
  | .infinity, _ => false
  | _, .negInfinity => false
  | .finite a, .finite b => a ≤ b

def floor : JsNumber → JsNumber
  | .finite a => .finite a.floor
  | other => other

def max (a b : JsNumber) : JsNumber :=
  match a, b with
  | .nan, _ => .nan
  | _, .nan => .nan
  | a, b => if a.lt b then b else a

attribute [local simp] le lt

@[simp] lemma lt_ofNat (m n : Nat) : (ofNat m).lt (ofNat n) = true ↔ m < n := by
  simp [ofNat]

@[simp] lemma le_ofNat (m n : Nat) : (ofNat m).le (ofNat n) = true ↔ m ≤ n := by
  simp [ofNat]

variable {a : JsNumber} {b : JsNumber}

lemma le_iff_not_lt (number : a ≠ .nan) (number' : b ≠ .nan) :
    a.le b = true ↔ ¬b.lt a = true := by
  cases a <;> cases b <;> simp_all

lemma lt_of_lt_of_le {c : JsNumber} (first : a.lt b = true) (second : b.le c = true) :
    a.lt c = true := by
  cases a <;> cases b <;> cases c <;> simp_all
  exact first.trans_le second

lemma lt_of_le_of_lt {c : JsNumber} (first : a.le b = true) (second : b.lt c = true) :
    a.lt c = true := by
  cases a <;> cases b <;> cases c <;> simp_all
  exact first.trans_lt second

lemma max_eq (number : a ≠ .nan) (number' : b ≠ .nan) : a.max b = if a.lt b then b else a := by
  cases a <;> cases b <;> first | rfl | exact absurd rfl number | exact absurd rfl number'

lemma le_refl (number : a ≠ .nan) : a.le a = true := by
  cases a <;> simp_all

lemma le_of_lt (less : a.lt b = true) : a.le b = true := by
  cases a <;> cases b <;> simp_all
  exact less.le

lemma le_max_left (number : a ≠ .nan) (number' : b ≠ .nan) : a.le (a.max b) = true := by
  rw [max_eq number number']
  split_ifs with less
  · exact le_of_lt less
  · exact le_refl number

lemma floor_floor (a : JsNumber) : a.floor.floor = a.floor := by
  cases a <;> simp [floor]

lemma not_lt_succ {n : Nat} (whole : a.floor = a) (less : (ofNat n).lt a = true) :
    a.lt (ofNat (n + 1)) = false := by
  cases a with
  | finite value =>
    simp only [floor, finite.injEq] at whole
    simp only [lt, ofNat, decide_eq_true_eq, decide_eq_false_iff_not, not_lt] at less ⊢
    rw [← whole] at less ⊢
    exact_mod_cast less
  | _ => first | rfl | cases less

lemma not_max_lt (a b : JsNumber) : (a.max b).lt a = false := by
  cases number : a.max b with
  | nan => rfl
  | _ =>
    rw [← number]
    have first : a ≠ .nan := by
      rintro rfl
      cases number
    have second : b ≠ .nan := by
      rintro rfl
      cases a <;> cases number
    have larger := le_max_left first second
    rw [le_iff_not_lt first (by rw [number]; exact JsNumber.noConfusion)] at larger
    simpa using larger

lemma not_lt_succ_of_not_le {n : Nat} (whole : a.floor = a) (above : ¬a.le (ofNat n) = true) :
    a.lt (ofNat (n + 1)) = false := by
  by_cases number : a = .nan
  · rw [number]
    rfl
  · have count : ofNat n ≠ .nan := nofun
    rw [le_iff_not_lt number count, not_not] at above
    exact not_lt_succ whole above

lemma floor_max (whole : a.floor = a) (whole' : b.floor = b) : (a.max b).floor = a.max b := by
  by_cases number : a = .nan ∨ b = .nan
  · rcases number with rfl | rfl
    · rfl
    · cases a <;> rfl
  · obtain ⟨number, number'⟩ := not_or.mp number
    rw [max_eq number number']
    split_ifs
    · exact whole'
    · exact whole

lemma floor_ne_nan (number : a ≠ .nan) : a.floor ≠ .nan := by
  cases a <;> simp_all [floor]

end JsNumber

end Knowbee
