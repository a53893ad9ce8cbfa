import Mathlib.Algebra.Order.BigOperators.Group.List
import Mathlib.Algebra.Order.Group.Nat
import Mathlib.Data.List.Chain
import Mathlib.Data.List.Nodup
import Mathlib.Data.List.Perm.Subperm
import Mathlib.Algebra.GroupWithZero.Nat

/-!
# Searches of a directed graph

A graph has finitely many declared vertices, and at each vertex a list of edges,
some of which may lead to vertices that are not declared.

* `visitAll` is the depth-first search with three colours: it reports each edge
  that leads back to the path it stands on.  It reports an edge exactly if there
  is a cycle (`visitAll_of_acyclic`, `visitAll_found`).
* `exploreAll` steps along every path without repetition
  (`exploreAll_unchanged`, `exploreAll_found`).
* `collect` is the breadth-first search from a queue; it finds what is reached by
  one edge or more, once each (`mem_collect`, `collect_nodup`).
-/

namespace Digraph

open List Relation Relation.TransGen

variable {α E σ : Type}

lemma foldl_keeps {β γ : Type} {P : β → Prop} {next : β → γ → β} {items : List γ} {start : β}
    (keep : ∀ item ∈ items, ∀ state, P state → P (next state item)) (holds : P start) :
    P (items.foldl next start) := by
  induction items generalizing start with
  | nil => exact holds
  | cons head rest ih =>
    exact ih (fun item member => keep item (mem_cons_of_mem _ member))
      (keep head mem_cons_self _ holds)

lemma foldl_found {β γ : Type} {P : β → Prop} {next : β → γ → β} {items : List γ} {start : β}
    {item : γ} (keep : ∀ item ∈ items, ∀ state, P state → P (next state item))
    (member : item ∈ items) (found : ∀ state, P (next state item)) :
    P (items.foldl next start) := by
  induction items generalizing start with
  | nil => cases member
  | cons head rest ih =>
    have keepRest := fun item (member : item ∈ rest) => keep item (mem_cons_of_mem _ member)
    rw [foldl_cons]
    rcases mem_cons.mp member with rfl | later
    · exact foldl_keeps keepRest (found start)
    · exact ih keepRest later

/-! ## The graph -/

/-- The edges at a vertex, where they lead, and the vertices that are declared. -/
structure Graph (α E : Type) where
  declared : List α
  edgesOf : α → List E
  target : E → α

def Graph.Edge (graph : Graph α E) (a b : α) : Prop :=
  a ∈ graph.declared ∧ b ∈ graph.declared ∧ ∃ edge ∈ graph.edgesOf a, graph.target edge = b

def Graph.Cyclic (graph : Graph α E) : Prop := ∃ a, TransGen graph.Edge a a

/-- Declared vertices, each with an edge to the next, none of them twice. -/
structure Graph.SimplePath (graph : Graph α E) (path : List α) : Prop where
  declared : ∀ a ∈ path, a ∈ graph.declared
  chain : path.IsChain graph.Edge
  nodup : path.Nodup

variable {graph : Graph α E}

lemma transGen_of_chain {edge : α → α → Prop} {a b : α} {path : List α}
    (chain : (a :: path).IsChain edge) (member : b ∈ path) : TransGen edge a b := by
  induction path generalizing a with
  | nil => cases member
  | cons head rest ih =>
    obtain ⟨first, later⟩ := isChain_cons_cons.mp chain
    rcases mem_cons.mp member with rfl | further
    · exact .single first
    · exact .head first (ih later further)

lemma nodup_of_chain {edge : α → α → Prop} (acyclic : ∀ a, ¬TransGen edge a a)
    {path : List α} (chain : path.IsChain edge) : path.Nodup := by
  induction path with
  | nil => exact nodup_nil
  | cons a rest ih =>
    refine nodup_cons.mpr ⟨fun again => acyclic a (transGen_of_chain chain again), ih ?_⟩
    exact chain.tail

lemma transGen_of_back {edge : α → α → Prop} {path : List α} {a b : α}
    (chain : (path ++ [a]).IsChain edge) (member : b ∈ path ++ [a]) (step : edge a b) :
    TransGen edge a a := by
  obtain ⟨before, after, same⟩ := append_of_mem member
  rw [same] at chain
  have rest := chain.right_of_append
  have last : (b :: after).getLast? = some a := by
    have whole := congrArg getLast? same
    rw [getLast?_append, getLast?_append] at whole
    simpa [getLast?_cons] using whole.symm
  rcases mem_cons.mp (mem_of_getLast? last) with rfl | later
  · exact .single step
  · exact .head step (transGen_of_chain rest later)

/-! ## One more edge -/

section OneMore

variable {edge : α → α → Prop} {a b : α}

/-- The edges and one from `a` to `b`. -/
def WithEdge (edge : α → α → Prop) (a b : α) : α → α → Prop := fun x y => edge x y ∨ (x = a ∧ y = b)

lemma transGen_withEdge {x y : α} : TransGen (WithEdge edge a b) x y ↔
    TransGen edge x y ∨
      (ReflTransGen edge x a ∧ ReflTransGen edge b y) := by
  constructor
  · intro path
    induction path with
    | single step =>
      rcases step with old | ⟨rfl, rfl⟩
      · exact .inl (.single old)
      · exact .inr ⟨.refl, .refl⟩
    | tail _ step ih =>
      rcases step with old | ⟨rfl, rfl⟩
      · rcases ih with direct | ⟨first, second⟩
        · exact .inl (direct.tail old)
        · exact .inr ⟨first, second.tail old⟩
      · rcases ih with direct | ⟨first, -⟩
        · exact .inr ⟨direct.to_reflTransGen, .refl⟩
        · exact .inr ⟨first, .refl⟩
  · have more {x y : α} (path : ReflTransGen edge x y) :
        ReflTransGen (WithEdge edge a b) x y :=
      Relation.ReflTransGen.mono (fun _ _ => .inl) x y path
    rintro (direct | ⟨first, second⟩)
    · exact mono (fun _ _ => .inl) x y direct
    · exact (tail' (more first) (.inr ⟨rfl, rfl⟩)).trans_left (more second)

lemma acyclic_withEdge (acyclic : ∀ x, ¬TransGen edge x x) :
    (∀ x, ¬TransGen (WithEdge edge a b) x x) ↔ ¬ReflTransGen edge b a := by
  constructor
  · exact fun none back => none a (transGen_withEdge.mpr (.inr ⟨.refl, back⟩))
  · intro none x cycle
    rcases transGen_withEdge.mp cycle with old | ⟨first, second⟩
    · exact acyclic x old
    · exact none (second.trans first)

lemma chain_of_not_mem {x : α} {path : List α} (absent : a ∉ path) (other : x ≠ a)
    (chain : (x :: path).IsChain (WithEdge edge a b)) : (x :: path).IsChain edge := by
  induction path generalizing x with
  | nil => exact isChain_singleton x
  | cons head rest ih =>
    obtain ⟨step, later⟩ := isChain_cons_cons.mp chain
    rw [mem_cons, not_or] at absent
    rcases step with old | ⟨own, -⟩
    · exact isChain_cons_cons.mpr ⟨old, ih absent.2 (Ne.symm absent.1) later⟩
    · exact (other own).elim

lemma chain_withEdge {path : List α} (distinct : path.Nodup)
    (chain : path.IsChain (WithEdge edge a b)) : path.IsChain edge ∨
      ∃ before after, path = before ++ a :: b :: after ∧ (before ++ [a]).IsChain edge ∧
        (b :: after).IsChain edge := by
  induction path with
  | nil => exact .inl isChain_nil
  | cons x rest ih =>
    obtain ⟨fresh, distinct⟩ := nodup_cons.mp distinct
    cases rest with
    | nil => exact .inl (isChain_singleton x)
    | cons y rest =>
      obtain ⟨step, later⟩ := isChain_cons_cons.mp chain
      by_cases used : x = a ∧ y = b
      · obtain ⟨rfl, rfl⟩ := used
        rw [mem_cons, not_or] at fresh
        exact .inr ⟨[], rest, rfl, isChain_singleton x,
          chain_of_not_mem fresh.2 (Ne.symm fresh.1) later⟩
      · have old : edge x y := step.resolve_right used
        rcases ih distinct later with all | ⟨before, after, same, first, second⟩
        · exact .inl (isChain_cons_cons.mpr ⟨old, all⟩)
        · refine .inr ⟨x :: before, after, by rw [same]; rfl, ?_, second⟩
          cases before with
          | nil =>
            cases same
            exact isChain_cons_cons.mpr ⟨old, isChain_singleton _⟩
          | cons head tail =>
            cases same
            exact isChain_cons_cons.mpr ⟨old, first⟩

end OneMore

/-! ## The search with three colours -/

/-- The visited vertices, the latest first: each was visited after all that it
leads to. -/
def Graph.Finished (graph : Graph α E) : List α → Prop
  | [] => True
  | a :: rest => a ∉ rest ∧ (∀ b, graph.Edge a b → b ∈ rest) ∧ graph.Finished rest

variable {visited : List α}

lemma Graph.Finished.next (finished : graph.Finished visited) {a b : α} (member : a ∈ visited)
    (edge : graph.Edge a b) : b ∈ visited := by
  induction visited with
  | nil => cases member
  | cons head rest ih =>
    obtain ⟨-, next, before⟩ := finished
    refine mem_cons_of_mem _ ?_
    rcases mem_cons.mp member with rfl | earlier
    · exact next b edge
    · exact ih before earlier

lemma Graph.Finished.closed (finished : graph.Finished visited) {a b : α} (member : a ∈ visited)
    (path : TransGen graph.Edge a b) : b ∈ visited := by
  induction path with
  | single edge => exact finished.next member edge
  | tail _ edge reached => exact finished.next reached edge

lemma Graph.Finished.not_cyclic (finished : graph.Finished visited) {a : α}
    (member : a ∈ visited) : ¬TransGen graph.Edge a a := by
  intro cycle
  induction visited with
  | nil => cases member
  | cons head rest ih =>
    obtain ⟨fresh, next, before⟩ := finished
    rcases mem_cons.mp member with rfl | earlier
    · rcases head'_iff.mp cycle with ⟨b, edge, back⟩
      rcases reflTransGen_iff_eq_or_transGen.mp back with rfl | further
      · exact fresh (next _ edge)
      · exact fresh (before.closed (next b edge) further)
    · exact ih before earlier

section Visit

variable [DecidableEq α]

/-- Visit a vertex, on the path that led to it.  The first component of the state
are the vertices that are visited, the latest first. -/
def Graph.visit (graph : Graph α E) (report : List α → E → σ → σ) :
    Nat → List α → α → List α × σ → List α × σ
  | 0, _, _, state => state
  | fuel + 1, path, a, state =>
    if a ∈ state.1 then state
    else
      let after := (graph.edgesOf a).foldl (fun state edge =>
        if graph.target edge ∉ graph.declared then state
        else if graph.target edge ∈ path ++ [a] then (state.1, report (path ++ [a]) edge state.2)
        else graph.visit report fuel (path ++ [a]) (graph.target edge) state) state
      (a :: after.1, after.2)

def Graph.visitAll (graph : Graph α E) (report : List α → E → σ → σ) (start : σ) : σ :=
  (graph.declared.foldl (fun state a =>
    graph.visit report graph.declared.length [] a state) ([], start)).2

variable {report : List α → E → σ → σ}

lemma visit_of_acyclic (acyclic : ¬graph.Cyclic) {fuel : Nat} {path : List α} {a : α}
    (declared : a ∈ graph.declared) (chain : (path ++ [a]).IsChain graph.Edge)
    (state : List α × σ) : (graph.visit report fuel path a state).2 = state.2 := by
  induction fuel generalizing path a state with
  | zero => rfl
  | succ fuel ih =>
    rw [Graph.visit]
    split_ifs with seen
    · rfl
    · refine foldl_keeps (P := fun later : List α × σ => later.2 = state.2) ?_ rfl
      intro edge member later same
      split_ifs with inside back
      · have step : graph.Edge a (graph.target edge) := ⟨declared, inside, edge, member, rfl⟩
        exact absurd ⟨a, transGen_of_back chain back step⟩ acyclic
      · have step : graph.Edge a (graph.target edge) := ⟨declared, inside, edge, member, rfl⟩
        have longer : (path ++ [a] ++ [graph.target edge]).IsChain graph.Edge := by
          refine isChain_append.mpr ⟨chain, isChain_singleton _, ?_⟩
          intro x last y first
          rw [getLast?_append, getLast?_singleton, Option.some_or] at last
          cases last
          cases first
          exact step
        exact (ih inside longer later).trans same
      · exact same

lemma visitAll_of_acyclic (acyclic : ¬graph.Cyclic) (start : σ) :
    graph.visitAll report start = start := by
  unfold Graph.visitAll
  refine foldl_keeps (P := fun state : List α × σ => state.2 = start) ?_ rfl
  intro a member state same
  exact (visit_of_acyclic acyclic member (isChain_singleton a) state).trans same

lemma visit_keeps {P : σ → Prop} (keep : ∀ path edge state, P state → P (report path edge state))
    (fuel : Nat) (path : List α) (a : α) (state : List α × σ) (holds : P state.2) :
    P (graph.visit report fuel path a state).2 := by
  induction fuel generalizing path a state with
  | zero => exact holds
  | succ fuel ih =>
    rw [Graph.visit]
    split_ifs
    · exact holds
    · refine foldl_keeps (P := fun later : List α × σ => P later.2) ?_ holds
      intro edge _ later still
      split_ifs
      · exact keep _ _ _ still
      · exact ih _ _ later still
      · exact still

lemma visitAll_keeps {P : σ → Prop}
    (keep : ∀ path edge state, P state → P (report path edge state)) {start : σ} (holds : P start) :
    P (graph.visitAll report start) := by
  unfold Graph.visitAll
  refine foldl_keeps (P := fun state : List α × σ => P state.2) ?_ holds
  exact fun a _ state still => visit_keeps keep _ _ a state still

section Holds

variable {P : σ → Prop} (reported : ∀ path edge state, P (report path edge state))

include reported

omit reported in
lemma length_filter_lt {declared path : List α} {a : α} (member : a ∈ declared)
    (fresh : a ∉ path) :
    (declared.filter fun b => b ∉ path ++ [a]).length <
      (declared.filter fun b => b ∉ path).length := by
  have same : (declared.filter fun b => b ∉ path ++ [a]) =
      (declared.filter fun b => b ∉ path).filter fun b => b ≠ a := by
    rw [filter_filter]
    refine filter_congr fun b _ => ?_
    simp only [mem_append, mem_singleton, not_or, ne_eq, Bool.decide_and,
      Bool.and_comm]
  rw [same]
  refine length_filter_lt_length_iff_exists.mpr ⟨a, ?_, ?_⟩
  · exact mem_filter.mpr ⟨member, decide_eq_true fresh⟩
  · simp

/-- What a visit leaves behind when nothing is found. -/
structure Graph.Visited (graph : Graph α E) (path before : List α) (after : List α) : Prop where
  finished : graph.Finished after
  kept : ∀ b ∈ before, b ∈ after
  apart : ∀ b ∈ path, b ∉ after

lemma visit_finished {fuel : Nat} {path : List α} {a : α} {state : List α × σ}
    (enough : (graph.declared.filter fun b => b ∉ path).length ≤ fuel)
    (declared : a ∈ graph.declared) (fresh : a ∉ path) (finished : graph.Finished state.1)
    (apart : ∀ b ∈ path, b ∉ state.1)
    (silent : ¬P (graph.visit report fuel path a state).2) :
    graph.Visited path state.1 (graph.visit report fuel path a state).1 ∧
      a ∈ (graph.visit report fuel path a state).1 := by
  induction fuel generalizing path a state with
  | zero =>
    have none := length_eq_zero_iff.mp (Nat.le_zero.mp enough)
    have one : a ∈ graph.declared.filter fun b => b ∉ path :=
      mem_filter.mpr ⟨declared, decide_eq_true fresh⟩
    rw [none] at one
    cases one
  | succ fuel ih =>
    rw [Graph.visit] at silent ⊢
    by_cases seen : a ∈ state.1
    · rw [if_pos seen]
      exact ⟨⟨finished, fun _ member => member, apart⟩, seen⟩
    · rw [if_neg seen] at silent ⊢
      -- the edges of `a`, one after the other
      have edges (items : List E) later
          (finished : graph.Finished later.1) (apart : ∀ b ∈ path ++ [a], b ∉ later.1) :
          let after := items.foldl (fun state edge =>
            if graph.target edge ∉ graph.declared then state
            else if graph.target edge ∈ path ++ [a] then
              (state.1, report (path ++ [a]) edge state.2)
            else graph.visit report fuel (path ++ [a]) (graph.target edge) state) later
          ¬P after.2 → graph.Visited (path ++ [a]) later.1 after.1 ∧
            ∀ edge ∈ items, graph.target edge ∈ graph.declared →
              graph.target edge ∈ after.1 := by
        induction items generalizing later with
        | nil =>
          intro _ _
          exact ⟨⟨finished, fun _ member => member, apart⟩, nofun⟩
        | cons edge rest ihRest =>
          dsimp only
          rw [foldl_cons]
          intro silent
          have keep : ∀ edge ∈ rest, ∀ state, P state.2 →
              P (if graph.target edge ∉ graph.declared then state
                else if graph.target edge ∈ path ++ [a] then
                  (state.1, report (path ++ [a]) edge state.2)
                else graph.visit report fuel (path ++ [a]) (graph.target edge) state).2 := by
            intro edge _ state found
            split_ifs
            · exact reported _ _ _
            · exact visit_keeps (fun path edge state _ => reported path edge state) _ _ _ _ found
            · exact found
          by_cases outside : graph.target edge ∉ graph.declared
          · rw [if_pos outside] at silent ⊢
            obtain ⟨visited, targets⟩ := ihRest later finished apart silent
            refine ⟨visited, fun other member inside => ?_⟩
            rcases mem_cons.mp member with rfl | further
            · exact absurd inside outside
            · exact targets other further inside
          · rw [if_neg outside] at silent ⊢
            by_cases back : graph.target edge ∈ path ++ [a]
            · rw [if_pos back] at silent
              exact absurd (foldl_keeps (P := fun state : List α × σ => P state.2) keep
                (reported _ _ _)) silent
            · rw [if_neg back] at silent ⊢
              have still := mt (foldl_keeps (P := fun state : List α × σ => P state.2) keep)
                silent
              have fewer := length_filter_lt declared fresh
              obtain ⟨visited, reached⟩ := ih (by omega) (not_not.mp outside) back finished apart
                still
              obtain ⟨visitedRest, targets⟩ := ihRest _ visited.finished visited.apart silent
              refine ⟨⟨visitedRest.finished,
                fun b member => visitedRest.kept b (visited.kept b member),
                visitedRest.apart⟩, fun other member inside => ?_⟩
              rcases mem_cons.mp member with rfl | further
              · exact visitedRest.kept _ reached
              · exact targets other further inside
      have apart' : ∀ b ∈ path ++ [a], b ∉ state.1 := by
        intro b member
        rcases mem_append.mp member with onPath | last
        · exact apart b onPath
        · rw [mem_singleton.mp last]
          exact seen
      obtain ⟨visited, targets⟩ := edges (graph.edgesOf a) state finished apart' silent
      have own := visited.apart a (mem_append_right _ (mem_singleton_self a))
      refine ⟨⟨⟨own, ?_, visited.finished⟩, ?_, ?_⟩, mem_cons_self⟩
      · rintro b ⟨-, inside, edge, member, rfl⟩
        exact targets edge member inside
      · exact fun b member => mem_cons_of_mem _ (visited.kept b member)
      · intro b onPath member
        rcases mem_cons.mp member with rfl | before
        · exact fresh onPath
        · exact visited.apart b (mem_append_left _ onPath) before

lemma visitAll_found (cyclic : graph.Cyclic) (start : σ) : P (graph.visitAll report start) := by
  by_contra silent
  have keep : ∀ a ∈ graph.declared, ∀ state, P state.2 →
      P (graph.visit report graph.declared.length [] a state).2 :=
    fun a _ state found =>
      visit_keeps (fun path edge state _ => reported path edge state) _ _ a state found
  have all (vertices : List α) (inside : ∀ a ∈ vertices, a ∈ graph.declared)
      state (finished : graph.Finished state.1)
      (silent : ¬P (vertices.foldl (fun state a =>
        graph.visit report graph.declared.length [] a state) state).2) :
      ∃ visited, graph.Finished visited ∧ (∀ a ∈ state.1, a ∈ visited) ∧
        ∀ a ∈ vertices, a ∈ visited := by
    induction vertices generalizing state with
    | nil => exact ⟨state.1, finished, fun _ member => member, nofun⟩
    | cons a rest ih =>
      have keepRest := fun b (member : b ∈ rest) => keep b (inside b (mem_cons_of_mem _ member))
      have still := mt (foldl_keeps (P := fun state : List α × σ => P state.2) keepRest) silent
      obtain ⟨visited, reached⟩ := visit_finished reported (length_filter_le _ _)
        (inside a mem_cons_self) not_mem_nil finished nofun still
      obtain ⟨final, done, kept, members⟩ := ih
        (fun b member => inside b (mem_cons_of_mem _ member)) _ visited.finished silent
      refine ⟨final, done, fun b member => kept b (visited.kept b member), fun b member => ?_⟩
      rcases mem_cons.mp member with rfl | further
      · exact kept _ reached
      · exact members b further
  obtain ⟨visited, finished, -, members⟩ := all graph.declared (fun _ member => member) ([], start)
    trivial silent
  obtain ⟨a, cycle⟩ := cyclic
  have declared : a ∈ graph.declared := by
    obtain ⟨b, edge, -⟩ := head'_iff.mp cycle
    exact edge.1
  exact finished.not_cyclic (members a declared) cycle

end Holds

end Visit

/-! ## Every simple path -/

lemma Graph.SimplePath.extend {path : List α} {a : α} (simple : graph.SimplePath (path ++ [a]))
    {edge : E} (member : edge ∈ graph.edgesOf a) (inside : graph.target edge ∈ graph.declared)
    (fresh : graph.target edge ∉ path ++ [a]) :
    graph.SimplePath (path ++ [a] ++ [graph.target edge]) where
  declared := by
    intro b onPath
    rcases mem_append.mp onPath with before | last
    · exact simple.declared b before
    · rw [mem_singleton.mp last]
      exact inside
  chain := by
    refine isChain_append.mpr ⟨simple.chain, isChain_singleton _, ?_⟩
    intro x last y first
    rw [getLast?_append, getLast?_singleton, Option.some_or] at last
    cases last
    cases first
    exact ⟨simple.declared a (by simp), inside, edge, member, rfl⟩
  nodup := by
    refine nodup_append.mpr ⟨simple.nodup, nodup_singleton _, ?_⟩
    rintro x member y last rfl
    rw [mem_singleton.mp last] at member
    exact fresh member

section Explore

variable [DecidableEq α]

/-- Step along every edge that leads to a vertex which is not on the path. -/
def Graph.explore (graph : Graph α E) (step : List α → E → σ → σ) :
    Nat → List α → α → σ → σ
  | 0, _, _, state => state
  | fuel + 1, path, a, state => (graph.edgesOf a).foldl (fun state edge =>
      if graph.target edge ∉ graph.declared ∨ graph.target edge ∈ path then state
      else graph.explore step fuel (path ++ [graph.target edge]) (graph.target edge)
        (step (path ++ [graph.target edge]) edge state)) state

/-- The paths from every declared vertex. -/
def Graph.exploreAll (graph : Graph α E) (step : List α → E → σ → σ) (start : σ) : σ :=
  graph.declared.foldl (fun state a => graph.explore step graph.declared.length [a] a state) start

variable {step : List α → E → σ → σ}

lemma explore_unchanged {start : σ} (still : ∀ path edge, graph.SimplePath path →
    2 ≤ path.length → step path edge start = start) {fuel : Nat} (path : List α) {a : α}
    (simple : graph.SimplePath (path ++ [a])) :
    graph.explore step fuel (path ++ [a]) a start = start := by
  induction fuel generalizing path a with
  | zero => rfl
  | succ fuel ih =>
    rw [Graph.explore]
    refine foldl_keeps (P := fun state => state = start) ?_ rfl
    rintro edge member state rfl
    split_ifs with stop
    · rfl
    · obtain ⟨inside, fresh⟩ := not_or.mp stop
      have longer := simple.extend member (not_not.mp inside) fresh
      rw [still _ _ longer (by simp), ih _ longer]

lemma exploreAll_unchanged {start : σ} (still : ∀ path edge, graph.SimplePath path →
    2 ≤ path.length → step path edge start = start) : graph.exploreAll step start = start := by
  unfold Graph.exploreAll
  refine foldl_keeps (P := fun state => state = start) ?_ rfl
  rintro a member state rfl
  refine explore_unchanged still [] ⟨?_, isChain_singleton a, nodup_singleton a⟩
  intro b own
  rw [mem_singleton.mp own]
  exact member

section Holds

variable {P : σ → Prop} (keep : ∀ path edge state, P state → P (step path edge state))

include keep

lemma explore_keeps (fuel : Nat) (path : List α) (a : α) (state : σ) (found : P state) :
    P (graph.explore step fuel path a state) := by
  induction fuel generalizing path a state with
  | zero => exact found
  | succ fuel ih =>
    rw [Graph.explore]
    refine foldl_keeps (P := P) ?_ found
    intro edge _ later still
    split_ifs
    · exact still
    · exact ih _ _ _ (keep _ _ _ still)

lemma explore_found {fuel : Nat} (path : List α) {rest : List α} {a b : α}
    (simple : graph.SimplePath (path ++ [a] ++ b :: rest)) (enough : rest.length < fuel)
    (found : ∀ edge state, P (step (path ++ [a] ++ b :: rest) edge state)) (state : σ) :
    P (graph.explore step fuel (path ++ [a]) a state) := by
  induction fuel generalizing path a b rest state with
  | zero => cases enough
  | succ fuel ih =>
    have next : graph.Edge a b := by
      have chain := simple.chain
      rw [append_assoc] at chain
      exact (isChain_cons_cons.mp chain.right_of_append).1
    obtain ⟨-, inside, edge, member, rfl⟩ := next
    have fresh : graph.target edge ∉ path ++ [a] := by
      intro again
      exact (nodup_append.mp simple.nodup).2.2 _ again _ mem_cons_self rfl
    rw [Graph.explore]
    refine foldl_found (P := P) ?_ member fun state => ?_
    · intro other _ later still
      split_ifs
      · exact still
      · exact explore_keeps keep _ _ _ _ (keep _ _ _ still)
    · rw [if_neg (not_or.mpr ⟨not_not.mpr inside, fresh⟩)]
      cases rest with
      | nil => exact explore_keeps keep _ _ _ _ (found edge state)
      | cons c rest =>
        have regroup : path ++ [a] ++ graph.target edge :: c :: rest =
            (path ++ [a]) ++ [graph.target edge] ++ c :: rest := by simp
        rw [regroup] at simple found
        exact ih _ simple (Nat.lt_of_succ_lt_succ enough) found _

lemma exploreAll_keeps {start : σ} (found : P start) : P (graph.exploreAll step start) :=
  foldl_keeps (fun a _ state still => explore_keeps keep _ _ a state still) found

lemma exploreAll_found {path : List α} (simple : graph.SimplePath path)
    (long : 2 ≤ path.length) (found : ∀ edge state, P (step path edge state)) (start : σ) :
    P (graph.exploreAll step start) := by
  match path, long with
  | a :: b :: rest, _ =>
    have bound : (a :: b :: rest).length ≤ graph.declared.length :=
      (simple.nodup.subperm simple.declared).length_le
    unfold Graph.exploreAll
    refine foldl_found (P := P) ?_ (simple.declared a mem_cons_self)
      fun state => ?_
    · exact fun other _ state still => explore_keeps keep _ _ _ _ still
    · refine explore_found keep [] simple ?_ found state
      simp only [length_cons] at bound
      omega

end Holds

end Explore

/-! ## The search from a queue -/

/-- Take vertices from a queue, each with its distance; the vertices that are found
are in the order in which they were, and with the largest of their distances. -/
def collect [DecidableEq α] (edges : α → List α) : Nat → List (α × Nat) → List α → Nat → List α × Nat
  | 0, _, found, depth => (found, depth)
  | _, [], found, depth => (found, depth)
  | fuel + 1, (a, distance) :: queue, found, depth =>
    if a ∈ found then collect edges fuel queue found depth
    else collect edges fuel (queue ++ (edges a).map fun b => (b, distance + 1)) (found ++ [a])
      (max depth distance)

section Collect

variable {edges : α → List α} {start : α}

/-- There is a walk of so many edges. -/
def Walk (edges : α → List α) (start : α) : α → Nat → Prop := fun b distance =>
  ∃ path : List α, (start :: path).IsChain (fun a b => b ∈ edges a) ∧
    (start :: path).getLast? = some b ∧ path.length = distance

lemma Walk.single {b : α} (edge : b ∈ edges start) : Walk edges start b 1 :=
  ⟨[b], isChain_pair.mpr edge, rfl, rfl⟩

lemma Walk.extend {a b : α} {distance : Nat} (walk : Walk edges start a distance)
    (edge : b ∈ edges a) : Walk edges start b (distance + 1) := by
  obtain ⟨path, chain, last, rfl⟩ := walk
  refine ⟨path ++ [b], ?_, ?_, by simp⟩
  · rw [← cons_append]
    refine isChain_append.mpr ⟨chain, isChain_singleton b, ?_⟩
    intro x isLast y first
    rw [last] at isLast
    cases isLast
    cases first
    exact edge
  · rw [← cons_append, getLast?_append, getLast?_singleton, Option.some_or]

lemma Walk.transGen {b : α} {distance : Nat} (walk : Walk edges start b (distance + 1)) :
    TransGen (fun a b => b ∈ edges a) start b := by
  obtain ⟨path, chain, last, long⟩ := walk
  cases path with
  | nil => cases long
  | cons head rest =>
    rw [getLast?_cons_cons] at last
    exact transGen_of_chain chain (mem_of_getLast? last)

structure Queued (edges : α → List α) (start : α) (queue : List (α × Nat)) (found : List α)
    (depth bound : Nat) : Prop where
  walks : ∀ entry ∈ queue, ∃ distance, entry.2 = distance + 1 ∧ Walk edges start entry.1 entry.2
  nodup : found.Nodup
  reached : ∀ b ∈ found, TransGen (fun a b => b ∈ edges a) start b
  /-- What follows on the start and on what is found is found or waits. -/
  first : ∀ b ∈ edges start, b ∈ found ∨ b ∈ queue.map Prod.fst
  next : ∀ a ∈ found, ∀ b ∈ edges a, b ∈ found ∨ b ∈ queue.map Prod.fst
  short : depth ≤ bound

lemma Queued.init (edges : α → List α) (start : α) (bound : Nat) :
    Queued edges start ((edges start).map fun b => (b, 1)) [] 0 bound where
  walks := by
    intro entry member
    obtain ⟨b, edge, rfl⟩ := mem_map.mp member
    exact ⟨0, rfl, .single edge⟩
  nodup := nodup_nil
  reached := nofun
  first := fun b edge => .inr (mem_map.mpr ⟨(b, 1), mem_map.mpr ⟨b, edge, rfl⟩, rfl⟩)
  next := nofun
  short := Nat.zero_le _

variable {bound : Nat} (walks : ∀ b distance, Walk edges start b distance → distance ≤ bound)

include walks

lemma Queued.step {a : α} {distance depth : Nat} {queue : List (α × Nat)} {found : List α}
    (queued : Queued edges start ((a, distance) :: queue) found depth bound) :
    (a ∈ found → Queued edges start queue found depth bound) ∧
      (a ∉ found → Queued edges start (queue ++ (edges a).map fun b => (b, distance + 1))
        (found ++ [a]) (max depth distance) bound) := by
  obtain ⟨before, same, walk⟩ := queued.walks _ mem_cons_self
  refine ⟨fun seen => ?_, fun fresh => ?_⟩
  · have drop {b : α} (either : b ∈ found ∨ b ∈ ((a, distance) :: queue).map Prod.fst) :
        b ∈ found ∨ b ∈ queue.map Prod.fst := by
      rcases either with old | waiting
      · exact .inl old
      · rcases mem_cons.mp waiting with rfl | waiting
        · exact .inl seen
        · exact .inr waiting
    exact ⟨fun entry member => queued.walks entry (mem_cons_of_mem _ member), queued.nodup,
      queued.reached, fun b edge => drop (queued.first b edge),
      fun c member b edge => drop (queued.next c member b edge), queued.short⟩
  · have move {b : α} (either : b ∈ found ∨ b ∈ ((a, distance) :: queue).map Prod.fst) :
        b ∈ found ++ [a] ∨
          b ∈ (queue ++ (edges a).map fun b => (b, distance + 1)).map Prod.fst := by
      rcases either with old | waiting
      · exact .inl (mem_append_left _ old)
      · rcases mem_cons.mp waiting with rfl | waiting
        · exact .inl (mem_append_right _ (mem_singleton_self _))
        · rw [map_append]
          exact .inr (mem_append_left _ waiting)
    constructor
    · intro entry member
      rcases mem_append.mp member with old | new
      · exact queued.walks entry (mem_cons_of_mem _ old)
      · obtain ⟨b, edge, rfl⟩ := mem_map.mp new
        exact ⟨distance, rfl, walk.extend edge⟩
    · refine nodup_append.mpr ⟨queued.nodup, nodup_singleton a, ?_⟩
      rintro b old _ own rfl
      rw [mem_singleton.mp own] at old
      exact fresh old
    · intro b member
      rcases mem_append.mp member with old | own
      · exact queued.reached b old
      · rw [mem_singleton.mp own]
        dsimp only at same walk
        rw [same] at walk
        exact walk.transGen
    · exact fun b edge => move (queued.first b edge)
    · intro c member b edge
      rcases mem_append.mp member with old | own
      · exact move (queued.next c old b edge)
      · rw [mem_singleton.mp own] at edge
        rw [map_append]
        exact .inr (mem_append_right _ (mem_map.mpr
          ⟨(b, distance + 1), mem_map.mpr ⟨b, edge, rfl⟩, rfl⟩))
    · exact Nat.max_le.mpr ⟨queued.short, walks a distance walk⟩

omit walks in
def remaining [DecidableEq α] (edges : α → List α) (vertices found : List α) : Nat :=
  ((vertices.filter fun a => a ∉ found).map fun a => (edges a).length).sum

omit walks in
lemma remaining_append [DecidableEq α] {vertices found : List α} {a : α} (member : a ∈ vertices)
    (fresh : a ∉ found) :
    remaining edges vertices (found ++ [a]) + (edges a).length ≤
      remaining edges vertices found := by
  unfold remaining
  induction vertices with
  | nil => cases member
  | cons head rest ih =>
    have less : (rest.filter fun b => b ∉ found ++ [a]).Sublist
        (rest.filter fun b => b ∉ found) := by
      refine monotone_filter_right _ fun b inside => ?_
      simp only [mem_append, not_or, decide_eq_true_eq] at inside ⊢
      exact inside.1
    have le := (less.map fun b => (edges b).length).sum_le_sum fun _ _ => Nat.zero_le _
    by_cases own : head = a
    · subst own
      rw [filter_cons_of_neg (by simp), filter_cons_of_pos (by simpa using fresh),
        map_cons, sum_cons]
      omega
    · have later := ih ((mem_cons.mp member).resolve_left (Ne.symm own))
      by_cases old : head ∈ found
      · rw [filter_cons_of_neg (by simp [old]), filter_cons_of_neg (by simp [old])]
        exact later
      · rw [filter_cons_of_pos (by simp [old, own]), filter_cons_of_pos (by simp [old]),
          map_cons, map_cons, sum_cons, sum_cons]
        omega

lemma collect_spec [DecidableEq α] {vertices : List α} (inside : ∀ a b, b ∈ edges a → b ∈ vertices)
    {fuel depth : Nat} {queue : List (α × Nat)} {found : List α}
    (enough : queue.length + remaining edges vertices found ≤ fuel)
    (within : ∀ entry ∈ queue, entry.1 ∈ vertices)
    (queued : Queued edges start queue found depth bound) :
    Queued edges start [] (collect edges fuel queue found depth).1
      (collect edges fuel queue found depth).2 bound := by
  induction fuel generalizing queue found depth with
  | zero =>
    have empty : queue = [] := length_eq_zero_iff.mp (by omega)
    subst empty
    exact queued
  | succ fuel ih =>
    match queue with
    | [] => exact queued
    | (a, distance) :: queue =>
      rw [collect]
      rw [length_cons] at enough
      split_ifs with seen
      · exact ih (by omega) (fun entry member => within entry (mem_cons_of_mem _ member))
          ((queued.step walks).1 seen)
      · have inVertices : a ∈ vertices := within (a, distance) mem_cons_self
        have less : remaining edges vertices (found ++ [a]) + (edges a).length ≤
            remaining edges vertices found := remaining_append inVertices seen
        refine ih ?_ ?_ ((queued.step walks).2 seen)
        · rw [length_append, length_map]
          omega
        · intro entry member
          rcases mem_append.mp member with old | new
          · exact within entry (mem_cons_of_mem _ old)
          · obtain ⟨b, edge, rfl⟩ := mem_map.mp new
            exact inside a b edge

end Collect

lemma Queued.mem_iff {edges : α → List α} {start : α} {found : List α} {depth bound : Nat}
    (queued : Queued edges start [] found depth bound) {b : α} :
    b ∈ found ↔ TransGen (fun a b => b ∈ edges a) start b := by
  refine ⟨queued.reached b, fun path => ?_⟩
  induction path with
  | single edge => exact (queued.first _ edge).resolve_right not_mem_nil
  | tail _ edge found => exact (queued.next _ found _ edge).resolve_right not_mem_nil

/-! ## Roots -/

lemma exists_root {edge : α → α → Prop} {vertices : List α}
    (inside : ∀ a b, edge a b → a ∈ vertices) (acyclic : ∀ a, ¬TransGen edge a a)
    (a : α) : ∃ root, (∀ b, ¬edge b root) ∧ ReflTransGen edge root a := by
  -- a path backwards that cannot be made longer starts at a root
  by_contra none
  push Not at none
  have longer n : ∃ path, path.length = n ∧ (path ++ [a]).IsChain edge := by
    induction n with
    | zero => exact ⟨[], rfl, isChain_singleton a⟩
    | succ n ih =>
      obtain ⟨path, rfl, chain⟩ := ih
      obtain ⟨first, rest, same⟩ : ∃ first rest, path ++ [a] = first :: rest := by
        cases path with
        | nil => exact ⟨a, [], rfl⟩
        | cons head tail => exact ⟨head, tail ++ [a], rfl⟩
      have leads : ReflTransGen edge first a := by
        rcases mem_cons.mp (same ▸ mem_append_right path (mem_singleton_self a)) with
          rfl | later
        · exact .refl
        · exact (transGen_of_chain (same ▸ chain) later).to_reflTransGen
      obtain ⟨b, step⟩ : ∃ b, edge b first := by
        by_contra isRoot
        push Not at isRoot
        exact none first isRoot leads
      refine ⟨b :: path, rfl, ?_⟩
      rw [cons_append, same]
      exact isChain_cons_cons.mpr ⟨step, same ▸ chain⟩
  obtain ⟨path, long, chain⟩ := longer (vertices.length + 1)
  have distinct := nodup_of_chain acyclic chain
  have members : ∀ b ∈ path, b ∈ vertices := by
    intro b member
    obtain ⟨before, after, rfl⟩ := append_of_mem member
    rw [append_assoc, cons_append] at chain
    obtain ⟨c, rest, same⟩ : ∃ c rest, after ++ [a] = c :: rest := by
      cases after with
      | nil => exact ⟨a, [], rfl⟩
      | cons head tail => exact ⟨head, tail ++ [a], rfl⟩
    have later := chain.right_of_append
    rw [same] at later
    exact inside b c (isChain_cons_cons.mp later).1
  have bound := ((nodup_append.mp distinct).1.subperm members).length_le
  omega

end Digraph
