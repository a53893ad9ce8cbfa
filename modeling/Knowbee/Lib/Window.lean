import Mathlib.Data.List.Sort

/-!
# The first rows of a sorted table

Of rows with distinct keys, the first ones in the order of their keys are those
with few rows before them.
-/

namespace Knowbee.Window

open List

variable {Row Key : Type*} [LinearOrder Key]

lemma mem_take_iff {key : Row → Key} {rows : List Row} {row : Row} {count : Nat}
    (sorted : rows.Pairwise fun a b => key a < key b) :
    row ∈ rows.take count ↔
      row ∈ rows ∧ (rows.countP fun other => key other < key row) < count := by
  induction rows generalizing count with
  | nil => simp
  | cons head rest ih =>
    obtain ⟨first, sorted⟩ := pairwise_cons.mp sorted
    cases count with
    | zero => simp
    | succ count =>
      rw [take_succ_cons, mem_cons, mem_cons, ih sorted, countP_cons]
      have least : ∀ other ∈ rest, ¬key other < key head :=
        fun other mem => not_lt_of_gt (first other mem)
      by_cases same : row = head
      · subst same
        have none : (rest.countP fun other => key other < key row) = 0 := by
          rw [countP_eq_zero]
          intro other mem
          simpa using first other mem |>.le
        simp [none]
      · constructor
        · rintro (own | ⟨mem, few⟩)
          · exact absurd own same
          · rw [if_pos (decide_eq_true (first row mem))]
            exact ⟨.inr mem, Nat.succ_lt_succ few⟩
        · rintro ⟨own | mem, few⟩
          · exact absurd own same
          · rw [if_pos (decide_eq_true (first row mem))] at few
            exact .inr ⟨mem, Nat.lt_of_succ_lt_succ few⟩

/-- **A window of the rows in the order of their keys** holds the rows with few
before them. -/
lemma mem_take_insertionSort {key : Row → Key} {rows : List Row} {row : Row} {count : Nat}
    (distinct : (rows.map key).Nodup) :
    row ∈ (rows.insertionSort fun a b => key a ≤ key b).take count ↔
      row ∈ rows ∧ (rows.countP fun other => key other < key row) < count := by
  have perm := perm_insertionSort (fun a b => key a ≤ key b) rows
  have ordered := pairwise_insertionSort (fun a b => key a ≤ key b) rows
  have apart : (rows.insertionSort fun a b => key a ≤ key b).Pairwise
      fun a b => key a ≠ key b := by
    have nodup := ((perm.map key).nodup_iff).mpr distinct
    exact pairwise_map.mp nodup
  have sorted : (rows.insertionSort fun a b => key a ≤ key b).Pairwise
      fun a b => key a < key b :=
    (ordered.and apart).imp fun both => lt_of_le_of_ne both.1 both.2
  rw [mem_take_iff sorted, perm.mem_iff, perm.countP_eq]

end Knowbee.Window
