import Mathlib.Algebra.Order.BigOperators.Group.List
import Mathlib.Algebra.GroupWithZero.Nat

/-!
# Fields behind their sizes

A sequence of fields is written as one sequence of symbols, each field behind a header that tells
its size.  Where symbols have a positive size and headers can be told from what follows them, the
fields can be read back: the writing is injective (`frames_injective`), whatever the fields
contain.
-/

namespace Framing

open List

variable {α : Type} {size : α → Nat} {header : Nat → List α}

def extent (size : α → Nat) (field : List α) : Nat := (field.map size).sum

/-- The fields one after the other, each behind the header of its size. -/
def frames (size : α → Nat) (header : Nat → List α) (fields : List (List α)) : List α :=
  fields.flatMap fun field => header (extent size field) ++ field

/-- Headers are there, and can be told from what follows them. -/
structure Separates (header : Nat → List α) : Prop where
  present (n : Nat) : header n ≠ []
  apart {m n : Nat} {rest rest' : List α} : header m ++ rest = header n ++ rest' →
    m = n ∧ rest = rest'

lemma extent_append (field rest : List α) :
    extent size (field ++ rest) = extent size field + extent size rest := by
  simp [extent]

lemma append_inj_of_extent (positive : ∀ symbol, 0 < size symbol)
    {field field' rest rest' : List α} (same : field ++ rest = field' ++ rest')
    (sizes : extent size field = extent size field') : field = field' ∧ rest = rest' := by
  have empty more (none : extent size more = 0) : more = [] := by
    cases more with
    | nil => rfl
    | cons symbol more =>
      have here := positive symbol
      simp only [extent, map_cons, sum_cons] at none
      omega
  rcases append_eq_append_iff.mp same with ⟨more, rfl, rfl⟩ | ⟨more, rfl, rfl⟩
  · rw [extent_append] at sizes
    cases empty more (by omega)
    simp
  · rw [extent_append] at sizes
    cases empty more (by omega)
    simp

lemma frames_injective (positive : ∀ symbol, 0 < size symbol) (separates : Separates header)
    {fields fields' : List (List α)}
    (same : frames size header fields = frames size header fields') : fields = fields' := by
  induction fields generalizing fields' with
  | nil =>
    cases fields' with
    | nil => rfl
    | cons field rest =>
      have start := (append_eq_nil_iff.mp (append_eq_nil_iff.mp same.symm).1).1
      exact absurd start (separates.present _)
  | cons field rest ih =>
    cases fields' with
    | nil =>
      have start := (append_eq_nil_iff.mp (append_eq_nil_iff.mp same).1).1
      exact absurd start (separates.present _)
    | cons field' rest' =>
      simp only [frames, flatMap_cons, append_assoc] at same
      obtain ⟨sizes, tails⟩ := separates.apart same
      obtain ⟨rfl, rests⟩ := append_inj_of_extent positive tails sizes
      rw [ih rests]

lemma delimited_inj {delimiter : α} {field field' rest rest' : List α}
    (plain : delimiter ∉ field) (plain' : delimiter ∉ field')
    (same : field ++ delimiter :: rest = field' ++ delimiter :: rest') :
    field = field' ∧ rest = rest' := by
  induction field generalizing field' with
  | nil =>
    cases field' with
    | nil => exact ⟨rfl, tail_eq_of_cons_eq same⟩
    | cons symbol' more' => exact absurd (head_eq_of_cons_eq same ▸ mem_cons_self) plain'
  | cons symbol more ih =>
    cases field' with
    | nil => exact absurd (head_eq_of_cons_eq same ▸ mem_cons_self) plain
    | cons symbol' more' =>
      obtain ⟨rfl, rests⟩ := cons_eq_cons.mp same
      obtain ⟨rfl, rfl⟩ := ih (not_mem_of_not_mem_cons plain)
        (not_mem_of_not_mem_cons plain') rests
      exact ⟨rfl, rfl⟩

/-- Words for symbols, each of which can be read off the front of a sequence. -/
structure Code (α β : Type) where
  word : α → List β
  read : List β → Option (α × List β)
  read_nil : read [] = none
  read_word (symbol : α) (rest : List β) : read (word symbol ++ rest) = some (symbol, rest)

namespace Code

variable {α β : Type}

def write (code : Code α β) (symbols : List α) : List β := symbols.flatMap code.word

lemma write_injective (code : Code α β) : Function.Injective code.write := by
  have empty {symbols : List α} (same : code.write symbols = []) : symbols = [] := by
    cases symbols with
    | nil => rfl
    | cons symbol rest =>
      have read := code.read_word symbol (code.write rest)
      rw [show code.word symbol ++ code.write rest = [] from same, code.read_nil] at read
      cases read
  intro symbols symbols' same
  induction symbols generalizing symbols' with
  | nil => exact (empty same.symm).symm
  | cons symbol rest ih =>
    cases symbols' with
    | nil => exact empty same
    | cons symbol' rest' =>
      have read := code.read_word symbol (code.write rest)
      have read' := code.read_word symbol' (code.write rest')
      rw [show code.word symbol ++ code.write rest = code.word symbol' ++ code.write rest' from same,
        read', Option.some.injEq, Prod.mk.injEq] at read
      obtain ⟨rfl, rests⟩ := read
      rw [ih rests.symm]

end Code

end Framing
