import Mathlib.Data.Finset.Card
import Knowbee.Lib.SortedMap

/-!
# Pieces gathered in any order

Numbered pieces arrive in any order, any of them more than once, and each is
kept under its number.  What is kept depends on the set of numbers seen only
(`Holds`), so nothing is missing once there are as many pieces as numbers, and
they stand in their order whatever order they came in.
-/

namespace Gather

open List

variable {V : Type} {piece : Nat → V} {seen : Finset Nat} {map : SortedMap Nat V} {count : Nat}

/-- The map keeps exactly the pieces seen, each under its number. -/
def Holds (piece : Nat → V) (seen : Finset Nat) (map : SortedMap Nat V) : Prop :=
  ∀ index, map.get? index = if index ∈ seen then some (piece index) else none

lemma holds_empty (piece : Nat → V) : Holds piece ∅ .empty := fun index => by simp

lemma Holds.insert (holds : Holds piece seen map) (index : Nat) :
    Holds piece (insert index seen) (map.insert index (piece index)) := by
  intro other
  rw [SortedMap.get?_insert, holds other]
  by_cases same : other = index
  · subst same
    simp
  · simp [same]

lemma Holds.size (holds : Holds piece seen map) : map.size = seen.card := by
  have distinct : (map.entries.map Prod.fst).Nodup :=
    pairwise_map.mpr (map.sorted.imp fun before => before.ne)
  have keys : (map.entries.map Prod.fst).toFinset = seen := by
    ext index
    rw [mem_toFinset, mem_map]
    constructor
    · rintro ⟨⟨key, value⟩, member, rfl⟩
      have found := holds key
      rw [SortedMap.mem_entries.mp member] at found
      by_contra absent
      rw [if_neg absent] at found
      cases found
    · intro member
      have found := holds index
      rw [if_pos member] at found
      exact ⟨(index, piece index), SortedMap.mem_entries.mpr found, rfl⟩
  rw [← keys, toFinset_card_of_nodup distinct, length_map]
  rfl

lemma seen_eq_range (below : seen ⊆ Finset.range count) (all : seen.card = count) :
    seen = Finset.range count :=
  Finset.eq_of_subset_of_card_le below (by rw [Finset.card_range, all])

lemma Holds.entries (holds : Holds piece (Finset.range count) map) :
    map.entries = (List.range count).map fun index => (index, piece index) := by
  let ordered : SortedMap Nat V :=
    ⟨(List.range count).map fun index => (index, piece index),
      pairwise_map.mpr pairwise_lt_range⟩
  have same : map = ordered := by
    refine SortedMap.ext_get? fun index => ?_
    rw [holds index]
    by_cases member : index ∈ Finset.range count
    · rw [if_pos member]
      refine (SortedMap.mem_entries.mp ?_).symm
      exact mem_map.mpr ⟨index, mem_range.mpr (Finset.mem_range.mp member), rfl⟩
    · rw [if_neg member]
      cases found : ordered.get? index with
      | none => rfl
      | some value =>
        obtain ⟨other, below, here⟩ := mem_map.mp (SortedMap.mem_entries.mpr found)
        cases here
        exact absurd (Finset.mem_range.mpr (mem_range.mp below)) member
  exact congrArg SortedMap.entries same

end Gather
