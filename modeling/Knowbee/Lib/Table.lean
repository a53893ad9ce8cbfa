import Mathlib.Data.List.Sort

/-!
# Tables of rows

Rows are added and not removed.  A row that clashes with one that is there is not
added; what was found stays what is found.  Rows that are numbered from the greatest
number on are numbered without a gap, and the first row in an order is the one added
last exactly if it comes before all others.
-/

namespace Knowbee.Table

open List

variable {Row : Type}

def insert (clash : Row → Row → Bool) (rows : List Row) (row : Row) : Option (List Row) :=
  if rows.any (clash row) then none else some (rows ++ [row])

section Insert

variable {clash : Row → Row → Bool} {rows stored : List Row} {row : Row} {test : Row → Bool}

lemma insert_eq_some : insert clash rows row = some stored ↔
    (∀ old ∈ rows, clash row old = false) ∧ stored = rows ++ [row] := by
  unfold insert
  split_ifs with clashes
  · obtain ⟨old, member, both⟩ := any_eq_true.mp clashes
    refine ⟨nofun, fun free => ?_⟩
    cases both.symm.trans (free.1 old member)
  · rw [Bool.not_eq_true, any_eq_false] at clashes
    constructor
    · rintro ⟨⟩
      exact ⟨fun old member => Bool.not_eq_true _ |>.mp (clashes old member), rfl⟩
    · rintro ⟨-, rfl⟩
      rfl

lemma find?_insert {found : Row} (inserted : insert clash rows row = some stored)
    (first : rows.find? test = some found) : stored.find? test = some found := by
  rw [(insert_eq_some.mp inserted).2, find?_append, first]
  rfl

lemma find?_inserted (inserted : insert clash rows row = some stored)
    (clashes : ∀ old, test old = true → clash row old = true) (own : test row = true) :
    stored.find? test = some row := by
  obtain ⟨free, rfl⟩ := insert_eq_some.mp inserted
  have none : rows.find? test = none := find?_eq_none.mpr fun old member found => by
    cases (clashes old found).symm.trans (free old member)
  rw [find?_append, none, find?_singleton, own]
  rfl

end Insert

def nextNumber (numbers : List Int) : Int := numbers.max?.getD 0 + 1

def upTo (count : Nat) : List Int := (List.range count).map fun index : Nat => (index : Int) + 1

lemma mem_upTo {number : Int} {count : Nat} :
    number ∈ upTo count ↔ 1 ≤ number ∧ number ≤ count := by
  unfold upTo
  rw [mem_map]
  constructor
  · rintro ⟨index, below, rfl⟩
    have := mem_range.mp below
    omega
  · rintro ⟨positive, bounded⟩
    refine ⟨(number - 1).toNat, mem_range.mpr ?_, ?_⟩ <;> omega

lemma upTo_succ (count : Nat) : upTo (count + 1) = upTo count ++ [(count : Int) + 1] := by
  unfold upTo
  rw [range_succ, map_append]
  rfl

lemma nextNumber_upTo (count : Nat) : nextNumber (upTo count) = (count : Int) + 1 := by
  unfold nextNumber
  cases count with
  | zero => rfl
  | succ last =>
    have greatest : (upTo (last + 1)).max? = some ((last : Int) + 1) := by
      rw [max?_eq_some_iff]
      refine ⟨mem_upTo.mpr ⟨?_, ?_⟩, fun number member => ?_⟩
      · omega
      · omega
      · have := (mem_upTo.mp member).2
        omega
    rw [greatest, Option.getD_some]
    omega

section Order

variable {before : Row → Row → Prop} [DecidableRel before]

/-- Of rows that do not precede each other both ways, the one added last comes
first exactly if it precedes all others. -/
lemma head?_insertionSort_concat [Std.Total before] [IsTrans Row before] {rows : List Row}
    {row : Row} (distinct : ∀ old ∈ rows, before old row → before row old → old = row) :
    ((rows ++ [row]).insertionSort before).head? = some row ↔ ∀ old ∈ rows, before row old := by
  have perm := perm_insertionSort before (rows ++ [row])
  have ordered := pairwise_insertionSort before (rows ++ [row])
  cases sorted : (rows ++ [row]).insertionSort before with
  | nil =>
    rw [sorted] at perm
    exact absurd perm.length_eq (by simp)
  | cons first rest =>
    rw [sorted] at perm ordered
    have least : ∀ old ∈ rest, before first old := fun _ => rel_of_pairwise_cons ordered
    rw [head?_cons, Option.some.injEq]
    constructor
    · rintro rfl old member
      rcases mem_cons.mp (perm.mem_iff.mpr (mem_append_left _ member)) with rfl | later
      · exact (Std.Total.total (r := before) old old).elim id id
      · exact least _ later
    · intro precedes
      rcases mem_append.mp (perm.mem_iff.mp mem_cons_self) with old | own
      · refine distinct first old ?_ (precedes first old)
        rcases mem_cons.mp (perm.mem_iff.mpr (mem_append_right _
          (mem_singleton_self row))) with rfl | later
        · exact precedes row old
        · exact least _ later
      · exact mem_singleton.mp own

end Order

end Knowbee.Table
