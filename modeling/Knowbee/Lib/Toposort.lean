import Mathlib.Algebra.Order.Group.Int
import Mathlib.Data.Fintype.EquivFin
import Mathlib.Order.WellFounded

/-!
# Topological order by counting edges

The vertices below a number are taken from a queue; a vertex taken lowers the
count of the vertices its edges lead to, and a count that comes down to zero
puts its vertex into the queue.  All vertices are taken exactly if there is no
cycle (`order_isSome_iff`), and then in the order of the edges
(`order_eq_some`).
-/

namespace Toposort

open List Function Relation

def targets (edges : List (Nat × Nat)) (vertex : Nat) : List Nat :=
  (edges.filter fun edge => edge.1 = vertex).map (·.2)

/-- The number of edges to a vertex from vertices that are not in the list. -/
def degree (edges : List (Nat × Nat)) (taken : List Nat) (vertex : Nat) : Int :=
  edges.countP fun edge => edge.2 = vertex ∧ edge.1 ∉ taken

def lower (state : (Nat → Int) × List Nat) (next : Nat) : (Nat → Int) × List Nat :=
  let value := state.1 next - 1
  (update state.1 next value, if value = 0 then state.2 ++ [next] else state.2)

/-- Takes so many vertices at most from the queue. -/
def take (edges : List (Nat × Nat)) : Nat → (Nat → Int) → List Nat → List Nat → List Nat
  | 0, _, _, order => order
  | _ + 1, _, [], order => order
  | fuel + 1, counts, current :: queue, order =>
    let next := (targets edges current).foldl lower (counts, queue)
    take edges fuel next.1 next.2 (order ++ [current])

/-- The vertices below a number in the order of the edges, if there is one. -/
def order (size : Nat) (edges : List (Nat × Nat)) : Option (List Nat) :=
  let counts := degree edges []
  let queue := (range size).filter fun vertex => counts vertex = 0
  let order := take edges size counts queue []
  if order.length = size then some order else none

variable {vertices : List Nat} {current vertex : Nat}

/-- Lowering counts that are large enough takes as much off each as it occurs,
and puts the vertices into the queue that come down to zero. -/
lemma foldl_lower {counts : Nat → Int} {queue : List Nat}
    (enough : ∀ vertex, (vertices.count vertex : Int) ≤ counts vertex) :
    ∃ added, (vertices.foldl lower (counts, queue)).2 = queue ++ added ∧ added.Nodup ∧
      (∀ vertex, vertex ∈ added ↔ vertex ∈ vertices ∧ counts vertex = vertices.count vertex) ∧
      ∀ vertex, (vertices.foldl lower (counts, queue)).1 vertex =
        counts vertex - vertices.count vertex := by
  induction vertices generalizing counts queue with
  | nil => exact ⟨[], by simp⟩
  | cons head rest ih =>
    have headCount : ((head :: rest).count head : Int) = rest.count head + 1 := by simp
    have otherCount : ∀ vertex, vertex ≠ head →
        ((head :: rest).count vertex : Int) = rest.count vertex := by
      intro vertex other
      rw [count_cons_of_ne (Ne.symm other)]
    have updatedHead : update counts head (counts head - 1) head = counts head - 1 :=
      update_self ..
    have updatedOther : ∀ vertex, vertex ≠ head →
        update counts head (counts head - 1) vertex = counts vertex :=
      fun vertex other => update_of_ne other ..
    have enoughRest : ∀ vertex, (rest.count vertex : Int) ≤
        update counts head (counts head - 1) vertex := by
      intro vertex
      have bound := enough vertex
      by_cases same : vertex = head
      · subst same
        rw [headCount] at bound
        rw [updatedHead]
        omega
      · rw [otherCount vertex same] at bound
        rwa [updatedOther vertex same]
    have headEnough := enough head
    rw [headCount] at headEnough
    rw [foldl_cons, lower]
    dsimp only
    by_cases zero : counts head - 1 = 0
    · -- the count is used up, so the vertex does not occur again
      have absent : head ∉ rest := by
        intro present
        have positive := count_pos_iff.mpr present
        omega
      rw [if_pos zero]
      obtain ⟨added, queueEq, nodup, mem, countsEq⟩ := @ih _ (queue ++ [head]) enoughRest
      refine ⟨head :: added, ?_, ?_, fun vertex => ?_, fun vertex => ?_⟩
      · rw [queueEq, append_assoc, singleton_append]
      · exact nodup_cons.mpr ⟨fun present => absent ((mem head).mp present).1, nodup⟩
      · by_cases same : vertex = head
        · subst same
          have none : rest.count vertex = 0 := count_eq_zero.mpr absent
          simp only [mem_cons, true_or, true_and, true_iff]
          omega
        · rw [mem_cons, mem_cons, mem, updatedOther vertex same, otherCount vertex same]
          simp [same]
      · rw [countsEq]
        by_cases same : vertex = head
        · subst same
          rw [updatedHead, headCount]
          omega
        · rw [updatedOther vertex same, otherCount vertex same]
    · rw [if_neg zero]
      obtain ⟨added, queueEq, nodup, mem, countsEq⟩ := @ih _ queue enoughRest
      refine ⟨added, queueEq, nodup, fun vertex => ?_, fun vertex => ?_⟩
      · by_cases same : vertex = head
        · subst same
          rw [mem, updatedHead, headCount]
          constructor
          · rintro ⟨present, eq⟩
            exact ⟨mem_cons_of_mem _ present, by omega⟩
          · rintro ⟨-, eq⟩
            exact ⟨count_pos_iff.mp (by omega), by omega⟩
        · rw [mem_cons, mem, updatedOther vertex same, otherCount vertex same]
          simp [same]
      · rw [countsEq]
        by_cases same : vertex = head
        · subst same
          rw [updatedHead, headCount]
          omega
        · rw [updatedOther vertex same, otherCount vertex same]

lemma degree_append (edges : List (Nat × Nat)) {taken : List Nat} (fresh : current ∉ taken)
    (vertex : Nat) : degree edges taken vertex =
      degree edges (taken ++ [current]) vertex + (targets edges current).count vertex := by
  unfold degree targets
  induction edges with
  | nil => rfl
  | cons edge rest ih =>
    rw [countP_cons, countP_cons, filter_cons]
    by_cases source : edge.1 = current
    · by_cases target : edge.2 = vertex
      · simp only [source, target, fresh, not_false_eq_true, and_self, decide_true, if_true,
          mem_append, mem_singleton, or_true, not_true_eq_false, and_false, decide_false,
          Bool.false_eq_true, if_false, map_cons, count_cons_self] at ih ⊢
        push_cast at ih ⊢
        omega
      · simp only [source, target, false_and, decide_false, Bool.false_eq_true, if_false,
          decide_true, if_true, map_cons, count_cons_of_ne target] at ih ⊢
        push_cast at ih ⊢
        omega
    · have same : (edge.2 = vertex ∧ edge.1 ∉ taken ++ [current]) ↔
          (edge.2 = vertex ∧ edge.1 ∉ taken) := by
        simp [source]
      simp only [same, source, decide_false, Bool.false_eq_true, if_false] at ih ⊢
      push_cast at ih ⊢
      omega

lemma degree_eq_zero {edges : List (Nat × Nat)} {taken : List Nat} :
    degree edges taken vertex = 0 ↔ ∀ source, (source, vertex) ∈ edges → source ∈ taken := by
  unfold degree
  rw [Int.natCast_eq_zero, countP_eq_zero]
  constructor
  · intro none source mem
    have open' := none _ mem
    simpa using open'
  · rintro all ⟨source, target⟩ mem
    simp only [decide_eq_true_eq, not_and, not_not]
    rintro rfl
    exact all source mem

lemma mem_targets {edges : List (Nat × Nat)} :
    vertex ∈ targets edges current ↔ (current, vertex) ∈ edges := by
  simp only [targets, mem_map, mem_filter, decide_eq_true_eq]
  constructor
  · rintro ⟨⟨source, target⟩, ⟨mem, rfl⟩, rfl⟩
    exact mem
  · exact fun mem => ⟨_, ⟨mem, rfl⟩, rfl⟩

structure Invariant (size : Nat) (edges : List (Nat × Nat)) (counts : Nat → Int)
    (queue order : List Nat) : Prop where
  nodup : (order ++ queue).Nodup
  bound : ∀ vertex ∈ order ++ queue, vertex < size
  counted : ∀ vertex, counts vertex = degree edges order vertex
  ready : ∀ vertex < size, vertex ∈ order ++ queue ↔ counts vertex = 0
  sorted : (order ++ queue).Pairwise fun a b => (b, a) ∉ edges
  irrefl : ∀ vertex ∈ order ++ queue, (vertex, vertex) ∉ edges

variable {size : Nat} {edges : List (Nat × Nat)}

lemma Invariant.taken {counts : Nat → Int} {queue order : List Nat}
    (inv : Invariant size edges counts queue order) {source : Nat} (mem : vertex ∈ order ++ queue)
    (edge : (source, vertex) ∈ edges) : source ∈ order := by
  have zero := (inv.ready vertex (inv.bound vertex mem)).mp mem
  rw [inv.counted, degree_eq_zero] at zero
  exact zero source edge

lemma inv_start : Invariant size edges (degree edges [])
    ((range size).filter fun vertex => degree edges [] vertex = 0) [] := by
  have noEdge : ∀ {source vertex}, degree edges [] vertex = 0 → (source, vertex) ∉ edges :=
    fun zero mem => not_mem_nil (degree_eq_zero.mp zero _ mem)
  have zero : ∀ vertex ∈ (range size).filter fun vertex => degree edges [] vertex = 0,
      vertex < size ∧ degree edges [] vertex = 0 := by
    intro vertex mem
    simpa using mem
  refine ⟨?_, fun vertex mem => (zero vertex mem).1, fun _ => rfl, fun vertex below => ?_, ?_,
    fun vertex mem => noEdge (zero vertex mem).2⟩
  · exact nodup_range.filter _
  · simp [below]
  · exact pairwise_of_forall_mem_list fun a mem b _ => noEdge (zero a mem).2

lemma Invariant.step {counts : Nat → Int} {queue order : List Nat}
    (targetsBound : ∀ edge ∈ edges, edge.2 < size)
    (inv : Invariant size edges counts (current :: queue) order) :
    Invariant size edges ((targets edges current).foldl lower (counts, queue)).1
      ((targets edges current).foldl lower (counts, queue)).2 (order ++ [current]) := by
  have fresh : current ∉ order := by
    intro mem
    exact (nodup_append.mp inv.nodup).2.2 current mem current (mem_cons_self ..) rfl
  have lowered := degree_append edges fresh
  have enough : ∀ vertex, ((targets edges current).count vertex : Int) ≤ counts vertex := by
    intro vertex
    have positive : 0 ≤ degree edges (order ++ [current]) vertex := Int.natCast_nonneg _
    have split := lowered vertex
    rw [inv.counted]
    omega
  obtain ⟨added, queueEq, nodup, mem, countsEq⟩ := @foldl_lower _ _ queue enough
  have listed : order ++ [current] ++ (queue ++ added) = order ++ current :: queue ++ added := by
    simp
  have countsNow : ∀ vertex, counts vertex - (targets edges current).count vertex =
      degree edges (order ++ [current]) vertex := by
    intro vertex
    have split := lowered vertex
    rw [inv.counted]
    omega
  -- what is added was waiting for the current vertex
  have waiting : ∀ vertex ∈ added, vertex ∉ order ++ current :: queue := by
    intro vertex present old
    obtain ⟨target, eq⟩ := (mem vertex).mp present
    have zero := (inv.ready vertex (inv.bound vertex old)).mp old
    have positive := count_pos_iff.mpr target
    omega
  have settled : ∀ {source vertex}, vertex ∈ added → (source, vertex) ∈ edges →
      source ∈ order ++ current :: queue := by
    intro source vertex present edge
    obtain ⟨-, eq⟩ := (mem vertex).mp present
    have zero : degree edges (order ++ [current]) vertex = 0 := by
      rw [← countsNow]
      omega
    have before := degree_eq_zero.mp zero source edge
    rw [append_cons]
    exact mem_append_left _ before
  rw [queueEq]
  refine ⟨?_, ?_, ?_, ?_, ?_, ?_⟩
  · rw [listed, nodup_append]
    exact ⟨inv.nodup, nodup, fun a old b new same => waiting b new (same ▸ old)⟩
  · rw [listed]
    intro vertex present
    rcases mem_append.mp present with old | new
    · exact inv.bound vertex old
    · exact targetsBound _ (mem_targets.mp ((mem vertex).mp new).1)
  · intro vertex
    rw [countsEq, countsNow]
  · intro vertex below
    rw [listed, countsEq, mem_append, mem, inv.ready vertex below]
    have bound := enough vertex
    constructor
    · rintro (zero | ⟨-, eq⟩) <;> omega
    · intro zero
      by_cases some : vertex ∈ targets edges current
      · exact .inr ⟨some, by omega⟩
      · have none : (targets edges current).count vertex = 0 := count_eq_zero.mpr some
        exact .inl (by omega)
  · rw [listed, pairwise_append]
    refine ⟨inv.sorted, ?_, fun a old b new edge => ?_⟩
    · exact pairwise_of_forall_mem_list fun a newA b newB edge => waiting b newB (settled newA edge)
    · exact waiting b new (mem_append_left _ (inv.taken old edge))
  · rw [listed]
    intro vertex present edge
    rcases mem_append.mp present with old | new
    · exact inv.irrefl vertex old edge
    · exact waiting vertex new (settled new edge)

lemma Invariant.length_le {counts : Nat → Int} {queue order : List Nat}
    (inv : Invariant size edges counts queue order) : order.length + queue.length ≤ size := by
  have sub : order ++ queue ⊆ range size :=
    fun vertex mem => mem_range.mpr (inv.bound vertex mem)
  have le := (inv.nodup.subperm sub).length_le
  rwa [length_append, length_range] at le

lemma inv_take (targetsBound : ∀ edge ∈ edges, edge.2 < size) {fuel : Nat}
    {counts : Nat → Int} {queue order : List Nat} (inv : Invariant size edges counts queue order)
    (enough : size ≤ order.length + fuel) :
    ∃ counts', Invariant size edges counts' [] (take edges fuel counts queue order) := by
  induction fuel generalizing counts queue order with
  | zero =>
    have empty : queue = [] := by
      have le := inv.length_le
      exact eq_nil_of_length_eq_zero (by omega)
    exact ⟨counts, empty ▸ inv⟩
  | succ fuel ih =>
    cases queue with
    | nil => exact ⟨counts, inv⟩
    | cons current queue =>
      refine ih (inv.step targetsBound) ?_
      rw [length_append, length_singleton]
      omega

def Edge (edges : List (Nat × Nat)) (a b : Nat) : Prop := (a, b) ∈ edges

lemma idxOf_lt_of_edge (sorted : vertices.Pairwise fun a b => (b, a) ∉ edges)
    (irrefl : ∀ vertex ∈ vertices, (vertex, vertex) ∉ edges) {a b : Nat} (memA : a ∈ vertices)
    (memB : b ∈ vertices) (edge : (a, b) ∈ edges) : vertices.idxOf a < vertices.idxOf b := by
  by_contra not
  have le : vertices.idxOf b ≤ vertices.idxOf a := not_lt.mp not
  have inA := idxOf_lt_length_of_mem memA
  have inB := idxOf_lt_length_of_mem memB
  rcases le.lt_or_eq with less | eq
  · have back := pairwise_iff_getElem.mp sorted _ _ inB inA less
    rw [getElem_idxOf, getElem_idxOf] at back
    exact back edge
  · have same : b = a := (idxOf_inj memB).mp eq
    subst same
    exact irrefl b memB edge

/-- **A rank that edges raise leaves no cycle.** -/
lemma acyclic_of_rank {α : Type*} {edge : α → α → Prop} {rank : α → Nat}
    (raise : ∀ a b, edge a b → rank a < rank b) (a : α) : ¬TransGen edge a a := by
  have grows : ∀ a b, TransGen edge a b → rank a < rank b := by
    intro a b path
    induction path with
    | single step => exact raise _ _ step
    | tail _ step ih => exact ih.trans (raise _ _ step)
  exact fun cycle => (grows a a cycle).false

lemma order_eq_some (targetsBound : ∀ edge ∈ edges, edge.2 < size)
    (found : order size edges = some vertices) :
    vertices.Perm (range size) ∧ vertices.Pairwise (fun a b => (b, a) ∉ edges) ∧
      ∀ vertex ∈ vertices, (vertex, vertex) ∉ edges := by
  unfold order at found
  dsimp only at found
  split_ifs at found with full
  rw [Option.some.injEq] at found
  obtain ⟨counts, inv⟩ := @inv_take _ _ targetsBound size _ _ _ inv_start (by simp)
  rw [found] at inv full
  have sorted := inv.sorted
  have irrefl := inv.irrefl
  have nodup := inv.nodup
  have bound := inv.bound
  rw [append_nil] at sorted irrefl nodup bound
  refine ⟨?_, sorted, irrefl⟩
  have sub : vertices.Subperm (range size) :=
    nodup.subperm fun vertex mem => mem_range.mpr (bound vertex mem)
  exact sub.perm_of_length_le (by rw [full, length_range])

/-- **There is an order exactly if no vertex reaches itself.** -/
lemma order_isSome_iff (sourcesBound : ∀ edge ∈ edges, edge.1 < size)
    (targetsBound : ∀ edge ∈ edges, edge.2 < size) :
    (order size edges).isSome = true ↔ ∀ vertex, ¬TransGen (Edge edges) vertex vertex := by
  constructor
  · intro some
    obtain ⟨vertices, found⟩ := Option.isSome_iff_exists.mp some
    obtain ⟨perm, sorted, irrefl⟩ := order_eq_some targetsBound found
    refine @acyclic_of_rank _ _ vertices.idxOf fun a b edge => ?_
    refine idxOf_lt_of_edge sorted irrefl ?_ ?_ edge
    · exact perm.mem_iff.mpr (mem_range.mpr (sourcesBound _ edge))
    · exact perm.mem_iff.mpr (mem_range.mpr (targetsBound _ edge))
  · intro acyclic
    obtain ⟨counts, inv⟩ := @inv_take _ _ targetsBound size _ _ _ inv_start (by simp)
    have full : (take edges size (degree edges [])
        ((range size).filter fun vertex => degree edges [] vertex = 0) []).length = size := by
      by_contra short
      -- some vertex is left, and among those left one without a predecessor left
      have left : ∃ vertex : Fin size, (vertex : Nat) ∉ take edges size (degree edges [])
          ((range size).filter fun vertex => degree edges [] vertex = 0) [] := by
        by_contra all
        have every : range size ⊆ take edges size (degree edges [])
            ((range size).filter fun vertex => degree edges [] vertex = 0) [] := by
          intro vertex mem
          by_contra missing
          exact all ⟨⟨vertex, mem_range.mp mem⟩, missing⟩
        have ge := (nodup_range.subperm every).length_le
        have le := inv.length_le
        rw [length_range] at ge
        rw [length_nil] at le
        omega
      have wellFounded : WellFounded fun a b : Fin size =>
          TransGen (Edge edges) (a : Nat) b := by
        have trans : IsTrans (Fin size) fun a b => TransGen (Edge edges) (a : Nat) b :=
          ⟨fun _ _ _ => Relation.TransGen.trans⟩
        have irrefl : Std.Irrefl fun a b : Fin size =>
            TransGen (Edge edges) (a : Nat) b := ⟨fun a => acyclic a⟩
        exact Finite.wellFounded_of_trans_of_irrefl _
      obtain ⟨least, missing, minimal⟩ := wellFounded.has_min
        {vertex : Fin size | (vertex : Nat) ∉ take edges size (degree edges [])
          ((range size).filter fun vertex => degree edges [] vertex = 0) []} left
      have ready := inv.ready least least.isLt
      rw [append_nil, inv.counted, degree_eq_zero] at ready
      have some := mt ready.mpr missing
      push Not at some
      obtain ⟨source, edge, absent⟩ := some
      exact minimal ⟨source, sourcesBound _ edge⟩ absent (.single edge)
    unfold order
    dsimp only
    rw [if_pos full]
    rfl

end Toposort
