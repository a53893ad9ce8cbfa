import Mathlib.Data.List.Sort

/-!
# Comparators

Functions that compare two values by the sign of a number.  What is sorted by one that
tells the values of a list apart does not depend on the order before.
-/

namespace Comparator

variable {α β : Type}

/-- The signs are those of a total preorder. -/
structure Lawful (compare : α → α → Int) : Prop where
  flip : ∀ a b, compare a b < 0 ↔ 0 < compare b a
  trans : ∀ a b c, compare a b ≤ 0 → compare b c ≤ 0 → compare a c ≤ 0

structure TotalOrder (compare : α → α → Int) : Prop extends Lawful compare where
  eq_of_zero : ∀ a b, compare a b = 0 → a = b

def on (compare : β → β → Int) (part : α → β) (a b : α) : Int := compare (part a) (part b)

/-- Compare by the second where the first does not tell the values apart. -/
def thenBy (first second : α → α → Int) (a b : α) : Int :=
  if first a b ≠ 0 then first a b else second a b

lemma Lawful.on {compare : β → β → Int} (lawful : Lawful compare) (part : α → β) :
    Lawful (on compare part) where
  flip := fun a b => lawful.flip (part a) (part b)
  trans := fun a b c => lawful.trans (part a) (part b) (part c)

variable {a b : α} {compare first second : α → α → Int}

lemma Lawful.lt_trans (lawful : Lawful compare) {c : α} (le : compare a b ≤ 0)
    (le' : compare b c ≤ 0) (strict : compare a b < 0 ∨ compare b c < 0) : compare a c < 0 := by
  have below := lawful.trans a b c le le'
  by_contra same
  have back : compare c a ≤ 0 := by
    have := (lawful.flip a c).not.mp same
    omega
  rcases strict with first | second
  · have := lawful.trans b c a le' back
    have := (lawful.flip a b).mp first
    omega
  · have := lawful.trans c a b back le
    have := (lawful.flip b c).mp second
    omega

lemma thenBy_nonpos :
    thenBy first second a b ≤ 0 ↔ first a b ≤ 0 ∧ (first a b = 0 → second a b ≤ 0) := by
  unfold thenBy
  split_ifs with apart
  · exact ⟨fun le => ⟨le, fun zero => absurd zero apart⟩, And.left⟩
  · have zero := not_not.mp apart
    exact ⟨fun le => ⟨zero.le, fun _ => le⟩, fun both => both.2 zero⟩

lemma Lawful.thenBy (lawful : Lawful first) (lawful' : Lawful second) :
    Lawful (thenBy first second) := by
  constructor
  · intro a b
    have forth := lawful.flip a b
    have back := lawful.flip b a
    have later := lawful'.flip a b
    unfold Comparator.thenBy
    split_ifs <;> omega
  · intro a b c le le'
    obtain ⟨ab, ab'⟩ := thenBy_nonpos.mp le
    obtain ⟨bc, bc'⟩ := thenBy_nonpos.mp le'
    refine thenBy_nonpos.mpr ⟨lawful.trans a b c ab bc, fun zero => ?_⟩
    have even : ¬(first a b < 0 ∨ first b c < 0) := fun strict => by
      have := lawful.lt_trans ab bc strict
      omega
    exact lawful'.trans a b c (ab' (by omega)) (bc' (by omega))

lemma thenBy_eq_zero (zero : thenBy first second a b = 0) : first a b = 0 ∧ second a b = 0 := by
  unfold thenBy at zero
  split_ifs at zero with apart
  · exact absurd zero apart
  · exact ⟨not_not.mp apart, zero⟩

/-- Sort by a comparator; values it does not tell apart stay in their order. -/
def sort (compare : α → α → Int) (items : List α) : List α :=
  items.insertionSort fun a b => compare a b ≤ 0

lemma perm_sort (compare : α → α → Int) (items : List α) : (sort compare items).Perm items :=
  List.perm_insertionSort _ items

@[simp] lemma mem_sort {items : List α} {item : α} : item ∈ sort compare items ↔ item ∈ items :=
  List.mem_insertionSort _

lemma pairwise_sort (lawful : Lawful compare) (items : List α) :
    (sort compare items).Pairwise fun a b => compare a b ≤ 0 := by
  have : Std.Total fun a b => compare a b ≤ 0 :=
    ⟨fun a b => by
      have := lawful.flip b a
      omega⟩
  have : IsTrans α fun a b => compare a b ≤ 0 := ⟨lawful.trans⟩
  exact List.pairwise_insertionSort _ items

/-- **Permuted values are sorted alike** if the comparator tells them apart. -/
lemma sort_eq_of_perm (lawful : Lawful compare) {first second : List α}
    (apart : ∀ a ∈ first, ∀ b ∈ first, compare a b = 0 → a = b) (perm : first.Perm second) :
    sort compare first = sort compare second := by
  refine List.Perm.eq_of_pairwise (fun a b held held' le le' => ?_)
    (pairwise_sort lawful first) (pairwise_sort lawful second)
    (((perm_sort compare first).trans perm).trans (perm_sort compare second).symm)
  refine apart a (mem_sort.mp held) b (perm.mem_iff.mpr (mem_sort.mp held')) ?_
  have := lawful.flip a b
  omega

end Comparator
