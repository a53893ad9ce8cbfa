import Mathlib.Data.List.Count

/-!
# Openings and closings

A sequence of events opens and closes keys.  It is well paired when, key by
key, every opening can be given a closing after it and every closing an opening
before it, each to one other.
-/

namespace Knowbee.Lib

open List

inductive Pairing (κ : Type*) where
  | opening (key : κ)
  | closing (key : κ)
  deriving DecidableEq

namespace Pairing

variable {κ : Type*} [DecidableEq κ]

def opened (key : κ) (events : List (Pairing κ)) : Nat := events.count (.opening key)

def closed (key : κ) (events : List (Pairing κ)) : Nat := events.count (.closing key)

@[simp] lemma opened_append (key : κ) (front back : List (Pairing κ)) :
    opened key (front ++ back) = opened key front + opened key back := count_append

@[simp] lemma closed_append (key : κ) (front back : List (Pairing κ)) :
    closed key (front ++ back) = closed key front + closed key back := count_append

section

variable (key other : κ) (rest : List (Pairing κ))

include key other rest

@[simp] lemma opened_opening :
    opened key (.opening other :: rest) = opened key rest + if other = key then 1 else 0 := by
  simp [opened, count_cons]

@[simp] lemma opened_closing : opened key (.closing other :: rest) = opened key rest := by
  simp [opened]

@[simp] lemma closed_opening : closed key (.opening other :: rest) = closed key rest := by
  simp [closed]

@[simp] lemma closed_closing :
    closed key (.closing other :: rest) = closed key rest + if other = key then 1 else 0 := by
  simp [closed, count_cons]

end

@[simp] lemma opened_nil (key : κ) : opened key [] = 0 := rfl

@[simp] lemma closed_nil (key : κ) : closed key [] = 0 := rfl

/-- No key is closed more often than it was opened before. -/
def NeverAhead (events : List (Pairing κ)) : Prop :=
  ∀ key front back, events = front ++ back → closed key front ≤ opened key front

/-- Openings and closings are pairs, each opening before its closing. -/
structure WellPaired (events : List (Pairing κ)) : Prop where
  neverAhead : NeverAhead events
  answered : ∀ key, opened key events = closed key events

/-- The keys that are open after some more events, by a list of those that were:
a closing takes the first opening of its key away, if there is one. -/
def pending : List κ → List (Pairing κ) → List κ
  | keys, [] => keys
  | keys, .opening key :: rest => pending (keys ++ [key]) rest
  | keys, .closing key :: rest => pending (keys.erase key) rest

lemma pending_append (keys : List κ) (front back : List (Pairing κ)) :
    pending keys (front ++ back) = pending (pending keys front) back := by
  induction front generalizing keys with
  | nil => rfl
  | cons event rest ih => cases event <;> exact ih _

lemma count_pending {keys : List κ} {events : List (Pairing κ)} (key : κ)
    (sound : ∀ front back, events = front ++ back →
      closed key front ≤ keys.count key + opened key front) :
    (pending keys events).count key + closed key events = keys.count key + opened key events := by
  induction events generalizing keys with
  | nil => simp [pending]
  | cons event rest ih =>
    cases event with
    | opening other =>
      have counted := @ih (keys ++ [other]) (by
        intro front back eq
        have bound := sound (.opening other :: front) back (by rw [eq]; rfl)
        simp only [opened_opening, closed_opening] at bound
        simp only [count_append, count_singleton, beq_iff_eq]
        omega)
      simp only [count_append, count_singleton, beq_iff_eq] at counted
      simp only [pending, opened_opening, closed_opening]
      omega
    | closing other =>
      -- the first opening of the key is there, so one is taken away
      have erased : (keys.erase other).count key + (if other = key then 1 else 0) =
          keys.count key := by
        by_cases same : other = key
        · subst same
          have present := sound [.closing other] rest rfl
          simp only [closed_closing, closed_nil, opened_closing, opened_nil, if_true] at present
          rw [count_erase_self, if_pos rfl]
          omega
        · rw [count_erase_of_ne (Ne.symm same), if_neg same, Nat.add_zero]
      have counted := @ih (keys.erase other) (by
        intro front back eq
        have bound := sound (.closing other :: front) back (by rw [eq]; rfl)
        simp only [opened_closing, closed_closing] at bound
        omega)
      simp only [pending, opened_closing, closed_closing]
      omega

lemma pending_eq_nil_iff {events : List (Pairing κ)} (sound : NeverAhead events) :
    pending [] events = [] ↔ ∀ key, opened key events = closed key events := by
  have counted := fun key => @count_pending _ _ [] _ key (fun front back eq => by
    have bound := sound key front back eq
    simpa using bound)
  simp only [count_nil, Nat.zero_add] at counted
  constructor
  · intro empty key
    have eq := counted key
    rw [empty, count_nil, Nat.zero_add] at eq
    exact eq.symm
  · intro answered
    rw [eq_nil_iff_forall_not_mem]
    intro key mem
    have eq := counted key
    have positive := count_pos_iff.mpr mem
    rw [answered key] at eq
    omega

lemma NeverAhead.front {front back : List (Pairing κ)} (sound : NeverAhead (front ++ back)) :
    NeverAhead front := by
  intro key first rest eq
  exact sound key first (rest ++ back) (by rw [eq, append_assoc])

lemma WellPaired.back_iff {front back : List (Pairing κ)} (paired : WellPaired (front ++ back)) :
    WellPaired back ↔ pending [] front = [] := by
  rw [pending_eq_nil_iff paired.neverAhead.front]
  have total := paired.answered
  simp only [opened_append, closed_append] at total
  constructor
  · intro later key
    have eq := later.answered key
    have all := total key
    omega
  · intro answered
    refine ⟨?_, fun key => ?_⟩
    · intro key first rest eq
      have bound := paired.neverAhead key (front ++ first) rest (by rw [eq, append_assoc])
      have even := answered key
      simp only [opened_append, closed_append] at bound
      omega
    · have even := answered key
      have all := total key
      omega

lemma wellPaired_pair (key : κ) : WellPaired [.opening key, .closing key] := by
  refine ⟨fun other front back eq => ?_, fun other => by simp⟩
  cases front with
  | nil => exact Nat.le_refl _
  | cons first rest =>
    rw [cons_append, List.cons.injEq] at eq
    cases rest with
    | nil => simp [← eq.1]
    | cons second rest =>
      rw [cons_append, List.cons.injEq] at eq
      have none : rest = [] := (append_eq_nil_iff.mp eq.2.2.symm).1
      simp [← eq.1, ← eq.2.1, none]

end Pairing

end Knowbee.Lib
