import Knowbee.Lib.Digraph

/-!
# Forests

What leads to a vertex by one edge or more is found from a stack, and how deep a
vertex is by climbing from it.  An edge into a vertex without a parent keeps the
depths of a forest bounded if they are bounded below that vertex.
-/

namespace Forest

open List Digraph

variable {α : Type} [DecidableEq α]

/-- Take vertices from a stack; those that are found are in the order in which they were. -/
def search (edges : α → List α) : Nat → List α → List α → List α
  | 0, _, found => found
  | _, [], found => found
  | fuel + 1, a :: stack, found =>
    if a ∈ found then search edges fuel stack found
    else search edges fuel (edges a ++ stack) (found ++ [a])

section Search

variable {edges : α → List α} {start : α} {stack found : List α}

structure Stacked (edges : α → List α) (start : α) (stack found : List α) : Prop where
  waiting : ∀ b ∈ stack, Relation.TransGen (fun a b => b ∈ edges a) start b
  reached : ∀ b ∈ found, Relation.TransGen (fun a b => b ∈ edges a) start b
  first : ∀ b ∈ edges start, b ∈ found ∨ b ∈ stack
  next : ∀ a ∈ found, ∀ b ∈ edges a, b ∈ found ∨ b ∈ stack

omit [DecidableEq α] in
lemma Stacked.init (edges : α → List α) (start : α) : Stacked edges start (edges start) [] where
  waiting := fun _ edge => .single edge
  reached := nofun
  first := fun _ edge => .inr edge
  next := nofun

omit [DecidableEq α] in
lemma Stacked.drop {a : α} (stacked : Stacked edges start (a :: stack) found) (seen : a ∈ found) :
    Stacked edges start stack found := by
  have move {b : α} (either : b ∈ found ∨ b ∈ a :: stack) : b ∈ found ∨ b ∈ stack := by
    rcases either with old | waits
    · exact .inl old
    · rcases mem_cons.mp waits with rfl | waits
      · exact .inl seen
      · exact .inr waits
  exact ⟨fun b waits => stacked.waiting b (mem_cons_of_mem _ waits), stacked.reached,
    fun b edge => move (stacked.first b edge), fun c held b edge => move (stacked.next c held b edge)⟩

omit [DecidableEq α] in
lemma Stacked.take {a : α} (stacked : Stacked edges start (a :: stack) found) :
    Stacked edges start (edges a ++ stack) (found ++ [a]) := by
  have own := stacked.waiting a mem_cons_self
  have move {b : α} (either : b ∈ found ∨ b ∈ a :: stack) :
      b ∈ found ++ [a] ∨ b ∈ edges a ++ stack := by
    rcases either with old | waits
    · exact .inl (mem_append_left _ old)
    · rcases mem_cons.mp waits with rfl | waits
      · exact .inl (mem_append_right _ (mem_singleton_self _))
      · exact .inr (mem_append_right _ waits)
  constructor
  · intro b waits
    rcases mem_append.mp waits with edge | waits
    · exact own.tail edge
    · exact stacked.waiting b (mem_cons_of_mem _ waits)
  · intro b held
    rcases mem_append.mp held with old | new
    · exact stacked.reached b old
    · exact mem_singleton.mp new ▸ own
  · exact fun b edge => move (stacked.first b edge)
  · intro c held b edge
    rcases mem_append.mp held with old | new
    · exact move (stacked.next c old b edge)
    · rw [mem_singleton.mp new] at edge
      exact .inr (mem_append_left _ edge)

lemma search_stacked {vertices : List α} (inside : ∀ a b, b ∈ edges a → b ∈ vertices)
    {fuel : Nat} (enough : stack.length + remaining edges vertices found ≤ fuel)
    (within : ∀ b ∈ stack, b ∈ vertices) (stacked : Stacked edges start stack found) :
    Stacked edges start [] (search edges fuel stack found) := by
  induction fuel generalizing stack found with
  | zero =>
    have empty : stack = [] := length_eq_zero_iff.mp (by omega)
    exact empty ▸ stacked
  | succ fuel ih =>
    match stack with
    | [] => exact stacked
    | a :: stack =>
      rw [search]
      rw [length_cons] at enough
      have later : ∀ b ∈ stack, b ∈ vertices := fun b waits => within b (mem_cons_of_mem _ waits)
      split_ifs with seen
      · exact ih (by omega) later (stacked.drop seen)
      · have inVertices : a ∈ vertices := within a mem_cons_self
        have less : remaining edges vertices (found ++ [a]) + (edges a).length ≤
            remaining edges vertices found := remaining_append inVertices seen
        refine ih ?_ (fun b waits => ?_) stacked.take
        · rw [length_append]
          omega
        · rcases mem_append.mp waits with edge | waits
          · exact inside a b edge
          · exact later b waits

omit [DecidableEq α] in
lemma Stacked.mem_iff (stacked : Stacked edges start [] found) {b : α} :
    b ∈ found ↔ Relation.TransGen (fun a b => b ∈ edges a) start b := by
  refine ⟨stacked.reached b, fun path => ?_⟩
  induction path with
  | single edge => exact (stacked.first _ edge).resolve_right not_mem_nil
  | tail _ edge held => exact (stacked.next _ held _ edge).resolve_right not_mem_nil

/-- **The search finds what is reached** by one edge or more. -/
lemma mem_search {vertices : List α} (inside : ∀ a b, b ∈ edges a → b ∈ vertices) {fuel : Nat}
    (enough : (edges start).length + remaining edges vertices [] ≤ fuel) {b : α} :
    b ∈ search edges fuel (edges start) [] ↔
      Relation.TransGen (fun a b => b ∈ edges a) start b :=
  (search_stacked inside enough (fun b edge => inside start b edge) (.init edges start)).mem_iff

end Search

/-- Climb to a vertex without a parent or below the root; nothing, where a vertex is
met again. -/
def climb (parent : α → Option α) (root : α) : Nat → List α → α → Nat → Option Nat
  | 0, _, _, _ => none
  | fuel + 1, seen, cursor, depth =>
    match parent cursor with
    | none => some depth
    | some above =>
      if above = root then some depth
      else if above ∈ seen then none
      else climb parent root fuel (above :: seen) above (depth + 1)

/-- So many edges lead from the last vertex to the first. -/
def Above (edge : α → α → Prop) : Nat → α → α → Prop
  | 0, a, top => top = a
  | count + 1, a, top => ∃ above, edge above a ∧ Above edge count above top

section Climb

variable {parent : α → Option α} {root : α}

lemma le_climb {fuel : Nat} {seen : List α} {cursor : α} {depth result : Nat}
    (climbed : climb parent root fuel seen cursor depth = some result) : depth ≤ result := by
  induction fuel generalizing seen cursor depth with
  | zero => cases climbed
  | succ fuel ih =>
    unfold climb at climbed
    cases found : parent cursor with
    | none =>
      rw [found] at climbed
      exact (Option.some.inj climbed).le
    | some above =>
      simp only [found] at climbed
      split_ifs at climbed
      · exact (Option.some.inj climbed).le
      · exact (Nat.le_succ depth).trans (ih climbed)

lemma above_le_climb {edge : α → α → Prop} (up : ∀ a b, edge a b → parent b = some a)
    (top : ∀ a, ¬edge a root) {fuel : Nat} {seen : List α} {cursor a : α} {depth result count : Nat}
    (climbed : climb parent root fuel seen cursor depth = some result)
    (above : Above edge count cursor a) (below : cursor ≠ root) :
    depth + count ≤ result + if a = root then 1 else 0 := by
  induction count generalizing fuel seen cursor depth with
  | zero =>
    have same : a = cursor := above
    rw [same, if_neg below]
    exact le_climb climbed
  | succ count ih =>
    obtain ⟨next, step, rest⟩ := above
    cases fuel with
    | zero => cases climbed
    | succ fuel =>
      simp only [climb, up next cursor step] at climbed
      split_ifs at climbed with atRoot met
      · cases count with
        | zero =>
          have same : a = next := rest
          rw [same, if_pos atRoot, Option.some.inj climbed]
        | succ count =>
          obtain ⟨other, onto, -⟩ := rest
          exact absurd (atRoot ▸ onto) (top other)
      · have climbs := ih climbed rest atRoot
        omega

end Climb

section OneMore

variable {edge : α → α → Prop} {a b : α}

omit [DecidableEq α] in
lemma Above.mono {edge' : α → α → Prop} (sub : ∀ a b, edge a b → edge' a b) {count : Nat} {x top : α}
    (above : Above edge count x top) : Above edge' count x top := by
  induction count generalizing x with
  | zero => exact above
  | succ count ih =>
    obtain ⟨next, step, rest⟩ := above
    exact ⟨next, sub _ _ step, ih rest⟩

omit [DecidableEq α] in
lemma above_withEdge {count : Nat} {x top : α}
    (above : Above (WithEdge edge a b) count x top) :
    Above edge count x top ∨ Relation.ReflTransGen (WithEdge edge a b) b x := by
  induction count generalizing x with
  | zero => exact .inl above
  | succ count ih =>
    obtain ⟨next, step, rest⟩ := above
    rcases ih rest with old | below
    · rcases step with before | ⟨-, rfl⟩
      · exact .inl ⟨next, before, old⟩
      · exact .inr .refl
    · exact .inr (below.tail step)

end OneMore

end Forest
