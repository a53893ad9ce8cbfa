import Mathlib.Data.Set.Finite.Basic
import Mathlib.Order.WellFounded

/-!
# Dependencies

Elements that need others.  What an element needs, directly or through others,
is its foundation; it is settled over some elements when its foundation lies
among them and has no cycle.  Of finitely many elements that are left, if one is
settled then one needs nothing that is left (`Settled.exists_ready`).
-/

namespace Dependency

open Relation

variable {α : Type} {needs : α → α → Prop} {among : Set α}

/-- Everything `a` needs, directly or through others, is among the given
elements and does not need itself. -/
def Settled (needs : α → α → Prop) (among : Set α) (a : α) : Prop :=
  ∀ b, TransGen needs a b → b ∈ among ∧ ¬TransGen needs b b

lemma Settled.needed {a b : α} (settled : Settled needs among a)
    (path : TransGen needs a b) : Settled needs among b :=
  fun c further => settled c (path.trans further)

/-- What a settled element needs is well founded. -/
lemma Settled.wellFounded {a : α} (finite : among.Finite) (settled : Settled needs among a) :
    WellFounded fun x y : {b // TransGen needs a b} =>
      TransGen needs y.1 x.1 := by
  have foundation : {b | TransGen needs a b}.Finite :=
    finite.subset fun b path => (settled b path).1
  have : Finite {b // TransGen needs a b} := foundation.to_subtype
  have : IsTrans {b // TransGen needs a b} fun x y => TransGen needs y.1 x.1 :=
    ⟨fun _ _ _ first second => second.trans first⟩
  have : Std.Irrefl fun x y : {b // TransGen needs a b} =>
      TransGen needs y.1 x.1 :=
    ⟨fun x cycle => (settled x.1 x.2).2 cycle⟩
  exact Finite.wellFounded_of_trans_of_irrefl _

/-- Of the elements that are left, if one is settled then one that is settled
needs none of them. -/
lemma Settled.exists_ready {a : α} (finite : among.Finite) (settled : Settled needs among a)
    {left : Set α} (isLeft : a ∈ left) :
    ∃ b ∈ left, Settled needs among b ∧ ∀ c, needs b c → c ∉ left := by
  by_cases waits : ∃ b, TransGen needs a b ∧ b ∈ left
  · obtain ⟨b, path, bLeft⟩ := waits
    obtain ⟨least, leastLeft, isLeast⟩ := (settled.wellFounded finite).has_min
      {x | x.1 ∈ left} ⟨⟨b, path⟩, bLeft⟩
    refine ⟨least.1, leastLeft, settled.needed least.2, fun c need cLeft => ?_⟩
    exact isLeast ⟨c, least.2.tail need⟩ cLeft (.single need)
  · refine ⟨a, isLeft, settled, fun c need cLeft => ?_⟩
    exact waits ⟨c, .single need, cLeft⟩

end Dependency
