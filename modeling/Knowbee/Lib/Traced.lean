/-!
# Computations with a trace

A computation tells what it did, in order, and ends with a value or is abandoned.
What it told before it was abandoned stays told.
-/

namespace Knowbee

structure Traced (ε α : Type) where
  told : List ε
  value? : Option α

namespace Traced

variable {ε α β : Type}

def tell (event : ε) : Traced ε Unit := ⟨[event], some ()⟩

def ofOption (value : Option α) : Traced ε α := ⟨[], value⟩

protected def bind (first : Traced ε α) (next : α → Traced ε β) : Traced ε β :=
  match first.value? with
  | none => ⟨first.told, none⟩
  | some value => ⟨first.told ++ (next value).told, (next value).value?⟩

instance : Monad (Traced ε) where
  pure value := ⟨[], some value⟩
  bind := Traced.bind

theorem bind_eq (first : Traced ε α) (next : α → Traced ε β) :
    (first >>= next) = Traced.bind first next := rfl

theorem bind_value? {first : Traced ε α} {next : α → Traced ε β} {value : β} :
    (first >>= next).value? = some value ↔
      ∃ middle, first.value? = some middle ∧ (next middle).value? = some value := by
  rw [bind_eq, Traced.bind]
  cases first.value? with
  | none => simp
  | some middle => simp

theorem bind_told (first : Traced ε α) (next : α → Traced ε β) :
    (first >>= next).told =
      first.told ++ (first.value?.map fun value => (next value).told).getD [] := by
  rw [bind_eq, Traced.bind]
  cases first.value? with
  | none => simp
  | some middle => simp

theorem mem_bind_told {first : Traced ε α} {next : α → Traced ε β} {event : ε}
    (member : event ∈ (first >>= next).told) :
    event ∈ first.told ∨ ∃ value, first.value? = some value ∧ event ∈ (next value).told := by
  rw [bind_told, List.mem_append] at member
  rcases member with here | later
  · exact .inl here
  · cases found : first.value? with
    | none =>
      rw [found] at later
      cases later
    | some value =>
      rw [found] at later
      exact .inr ⟨value, rfl, later⟩

end Traced

end Knowbee
