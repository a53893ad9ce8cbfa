import Mathlib.Order.Bounds.Basic
import Mathlib.Tactic.Common

/-!
# Searches that leap

A search moves a position forward until it is accepted or past a limit.  Where
each move leaves no good place behind, it ends at the least good place.
-/

namespace Knowbee.LeastSearch

variable {Pos : Type*} [LinearOrder Pos]

/-- The first accepted position on the way that `next` goes, before the limit. -/
def leap (accept : Pos → Bool) (next : Pos → Option Pos) (limit : Pos) : Nat → Option Pos → Option Pos
  | 0, _ => none
  | _ + 1, none => none
  | fuel + 1, some place =>
    if place < limit then
      if accept place then some place else leap accept next limit fuel (next place)
    else none

/-- The good places from a position on before the limit. -/
def Ahead (good : Pos → Prop) (limit start : Pos) : Set Pos :=
  {place | good place ∧ start ≤ place ∧ place < limit}

/-- What makes a search find the least good place: at its positions it accepts
the good ones, and a move from another one is not past any good place. -/
structure Leaps (accept : Pos → Bool) (next : Pos → Option Pos) (limit : Pos)
    (good at_ : Pos → Prop) (left : Pos → Nat) : Prop where
  accepts : ∀ place, at_ place → (accept place = true ↔ good place)
  moves : ∀ place, at_ place → place < limit → ¬good place → ∀ further, next place = some further →
    at_ further ∧ place < further ∧ left further < left place
  skips : ∀ place, at_ place → place < limit → ¬good place →
    ∀ target ∈ Ahead good limit place, ∃ further, next place = some further ∧ further ≤ target
  ends : ∀ place, left place = 0 → ¬place < limit

variable {accept : Pos → Bool} {next : Pos → Option Pos} {limit : Pos} {good at_ : Pos → Prop}
  {left : Pos → Nat} {start : Pos} {fuel : Nat}

section

variable (leaps : Leaps accept next limit good at_ left) (position : at_ start)
  (enough : left start ≤ fuel)

include leaps position enough

lemma leap_spec :
    match leap accept next limit fuel (some start) with
    | some place => IsLeast (Ahead good limit start) place
    | none => Ahead good limit start = ∅ := by
  induction fuel generalizing start with
  | zero =>
    have done := leaps.ends start (Nat.le_zero.mp enough)
    exact Set.eq_empty_of_forall_notMem fun place ahead => done (ahead.2.1.trans_lt ahead.2.2)
  | succ fuel ih =>
    unfold leap
    by_cases before : start < limit
    · rw [if_pos before]
      by_cases accepted : accept start = true
      · rw [if_pos accepted]
        have found := (leaps.accepts start position).mp accepted
        exact ⟨⟨found, le_rfl, before⟩, fun place ahead => ahead.2.1⟩
      · rw [if_neg accepted]
        have bad : ¬good start := fun found => accepted ((leaps.accepts start position).mpr found)
        cases move : next start with
        | none =>
          have nothing : Ahead good limit start = ∅ := by
            refine Set.eq_empty_of_forall_notMem fun place ahead => ?_
            obtain ⟨further, moved, -⟩ := leaps.skips start position before bad place ahead
            rw [move] at moved
            cases moved
          cases fuel <;> exact nothing
        | some further =>
          obtain ⟨position', forward, shorter⟩ := leaps.moves start position before bad further move
          have same : Ahead good limit start = Ahead good limit further := by
            ext place
            constructor
            · intro ahead
              obtain ⟨_, moved, le⟩ := leaps.skips start position before bad place ahead
              rw [move, Option.some_inj] at moved
              exact ⟨ahead.1, moved ▸ le, ahead.2.2⟩
            · exact fun ahead => ⟨ahead.1, forward.le.trans ahead.2.1, ahead.2.2⟩
          rw [same]
          exact ih position' (by omega)
    · rw [if_neg before]
      exact Set.eq_empty_of_forall_notMem fun place ahead => before (ahead.2.1.trans_lt ahead.2.2)

lemma leap_eq_some_iff (place : Pos) :
    leap accept next limit fuel (some start) = some place ↔
      IsLeast (Ahead good limit start) place := by
  have spec := leap_spec leaps position enough
  cases found : leap accept next limit fuel (some start) with
  | none =>
    rw [found] at spec
    rw [spec]
    exact ⟨nofun, fun least => absurd least.1 (Set.notMem_empty place)⟩
  | some result =>
    rw [found] at spec
    rw [Option.some_inj]
    exact ⟨fun same => same ▸ spec, fun least => spec.unique least⟩

lemma leap_eq_none_iff :
    leap accept next limit fuel (some start) = none ↔ Ahead good limit start = ∅ := by
  have spec := leap_spec leaps position enough
  cases found : leap accept next limit fuel (some start) with
  | none =>
    rw [found] at spec
    exact ⟨fun _ => spec, fun _ => rfl⟩
  | some result =>
    rw [found] at spec
    exact ⟨nofun, fun nothing => absurd (nothing ▸ spec.1) (Set.notMem_empty result)⟩

end

end Knowbee.LeastSearch
