import Knowbee.Topology.Compiler
import Knowbee.Topology.ValidatorSound

/-!
# What a snapshot is closed under

The two maps of the delegation tree are built from one list of pairs, so they are
inverses (`mem_edges`, `mem_parents`).  In an accepted topology every pair is a
step of the graph that the validator has searched: so the tree has no cycle, each
node is below a root, a walk meets no node twice and is not longer than the depth
that is allowed, and the search from a queue finds just what is below a node.
-/

namespace Knowbee.Topology

open List SortedMap Digraph

section Records

variable {V : Type}

lemma get?_foldl_insert {entries : List (String × V)} {record : SortedMap String V}
    {key : String} (absent : key ∉ entries.map Prod.fst) :
    (entries.foldl (fun record entry => record.insert entry.1 entry.2) record).get? key =
      record.get? key := by
  induction entries generalizing record with
  | nil => rfl
  | cons entry rest ih =>
    rw [map_cons, mem_cons, not_or] at absent
    rw [foldl_cons, ih absent.2, get?_insert, if_neg absent.1]

lemma get?_fromEntries {entries : List (String × V)} (distinct : (entries.map Prod.fst).Nodup)
    {key : String} {value : V} (member : (key, value) ∈ entries) :
    (fromEntries entries).get? key = some value := by
  unfold fromEntries
  generalize (empty : SortedMap String V) = record
  induction entries generalizing record with
  | nil => cases member
  | cons entry rest ih =>
    obtain ⟨fresh, distinct⟩ := nodup_cons.mp distinct
    rw [foldl_cons]
    rcases mem_cons.mp member with rfl | later
    · rw [get?_foldl_insert fresh, get?_insert, if_pos rfl]
    · exact ih distinct later _

lemma get?_fromEntries_of_key {α : Type} (items : List α) (id : α → String) (value : String → V)
    (key : String) : (fromEntries (items.map fun item => (id item, value (id item)))).get? key =
      if key ∈ items.map id then some (value key) else none := by
  unfold fromEntries
  suffices general : ∀ record : SortedMap String V,
      ((items.map fun item => (id item, value (id item))).foldl
        (fun record entry => record.insert entry.1 entry.2) record).get? key =
        if key ∈ items.map id then some (value key) else record.get? key from general .empty
  induction items with
  | nil => exact fun record => rfl
  | cons item rest ih =>
    intro record
    rw [map_cons, foldl_cons, ih, map_cons, get?_insert]
    by_cases own : key = id item
    · subst own
      simp
    · simp [mem_cons, own, false_or]

lemma valuesOf_insert (record : SortedMap String (List String)) (key other : String)
    (values : List String) : valuesOf (record.insert key values) other =
      if other = key then values else valuesOf record other := by
  unfold valuesOf
  rw [get?_insert]
  split_ifs <;> rfl

end Records

section Maps

variable (pairs : List (String × String)) (graph : DelegationGraph)

lemma mem_edges_foldl (a b : String) :
    b ∈ valuesOf (pairs.foldl addDelegationEdge graph).edges a ↔
      b ∈ valuesOf graph.edges a ∨ (a, b) ∈ pairs := by
  induction pairs generalizing graph with
  | nil => simp
  | cons pair rest ih =>
    rw [foldl_cons, ih, addDelegationEdge, valuesOf_insert]
    by_cases own : a = pair.1
    · subst own
      simp [mem_setAdd, mem_cons, not_mem_nil, or_false, Prod.ext_iff, true_and, or_assoc]
    · simp [own, mem_cons, Prod.ext_iff, false_and, false_or]

lemma mem_parents_foldl (a b : String) :
    a ∈ valuesOf (pairs.foldl addDelegationEdge graph).parents b ↔
      a ∈ valuesOf graph.parents b ∨ (a, b) ∈ pairs := by
  induction pairs generalizing graph with
  | nil => simp
  | cons pair rest ih =>
    rw [foldl_cons, ih, addDelegationEdge, valuesOf_insert]
    by_cases own : b = pair.2
    · subst own
      simp [mem_setAdd, mem_cons, not_mem_nil, or_false, Prod.ext_iff, and_true, or_assoc]
    · simp [own, mem_cons, Prod.ext_iff, and_false, false_or]

lemma edges_foldl_nodup (distinct : ∀ a, (valuesOf graph.edges a).Nodup) (a : String) :
    (valuesOf (pairs.foldl addDelegationEdge graph).edges a).Nodup := by
  induction pairs generalizing graph with
  | nil => exact distinct a
  | cons pair rest ih =>
    rw [foldl_cons]
    refine ih _ fun key => ?_
    rw [addDelegationEdge, valuesOf_insert]
    split_ifs
    · exact setAdd_nodup (distinct _) _
    · exact distinct key

lemma keys_foldl {ids : List String} (declared : ∀ pair ∈ pairs, pair.1 ∈ ids ∧ pair.2 ∈ ids)
    (edges : ∀ a, (graph.edges.get? a).isSome ↔ a ∈ ids)
    (parents : ∀ a, (graph.parents.get? a).isSome ↔ a ∈ ids) (a : String) :
    (((pairs.foldl addDelegationEdge graph).edges.get? a).isSome ↔ a ∈ ids) ∧
      (((pairs.foldl addDelegationEdge graph).parents.get? a).isSome ↔ a ∈ ids) := by
  induction pairs generalizing graph with
  | nil => exact ⟨edges a, parents a⟩
  | cons pair rest ih =>
    obtain ⟨first, second⟩ := declared pair mem_cons_self
    rw [foldl_cons]
    refine ih _ (fun other member => declared other (mem_cons_of_mem _ member))
      (fun key => ?_) (fun key => ?_)
    · rw [addDelegationEdge, get?_insert]
      split_ifs with own
      · simp [own, first]
      · exact edges key
    · rw [addDelegationEdge, get?_insert]
      split_ifs with own
      · simp [own, second]
      · exact parents key

end Maps

variable {topology : EnterpriseTopology}

lemma valuesOf_fresh (a : String) :
    valuesOf (fromEntries (topology.nodes.map fun node => (node.id, []))) a = [] := by
  unfold valuesOf
  rw [get?_fromEntries_of_key topology.nodes (fun node => node.id) fun _ => []]
  split_ifs <;> rfl

lemma mem_edges {a b : String} :
    b ∈ valuesOf (buildDelegationGraph topology).edges a ↔ (a, b) ∈ delegationPairs topology := by
  unfold buildDelegationGraph
  rw [mem_edges_foldl, valuesOf_fresh]
  exact or_iff_right not_mem_nil

lemma mem_parents {a b : String} :
    a ∈ valuesOf (buildDelegationGraph topology).parents b ↔ (a, b) ∈ delegationPairs topology := by
  unfold buildDelegationGraph
  rw [mem_parents_foldl, valuesOf_fresh]
  exact or_iff_right not_mem_nil

lemma edges_nodup (a : String) : (valuesOf (buildDelegationGraph topology).edges a).Nodup := by
  refine edges_foldl_nodup _ _ (fun key => ?_) a
  rw [valuesOf_fresh]
  exact nodup_nil

lemma delegates_of_pair {a b : String} (pair : (a, b) ∈ delegationPairs topology) :
    Delegates topology a b := by
  unfold delegationPairs at pair
  rcases mem_append.mp pair with child | relation
  · split_ifs at child
    · obtain ⟨node, member, inside⟩ := mem_flatMap.mp child
      obtain ⟨_, listed, same⟩ := mem_map.mp inside
      cases same
      exact .child member rfl listed
    · cases child
  · obtain ⟨relation, member, same⟩ := mem_map.mp relation
    cases same
    obtain ⟨inside, delegation⟩ := mem_filter.mp member
    exact .relation inside delegation rfl rfl

/-- One node has another among its edges. -/
def CompiledDelegationTree.Edge (tree : CompiledDelegationTree) (a b : String) : Prop :=
  b ∈ valuesOf tree.edges a

def delegationTree (topology : EnterpriseTopology) : CompiledDelegationTree :=
  buildCompiledDelegationTree topology (buildDelegationGraph topology)

lemma mem_childIds {b : String} :
    b ∈ (delegationTree topology).edges.values.flatten ↔
      ∃ a, (delegationTree topology).Edge a b := by
  rw [mem_flatten]
  unfold CompiledDelegationTree.Edge valuesOf
  constructor
  · rintro ⟨values, member, inside⟩
    obtain ⟨key, bound⟩ := mem_values.mp member
    refine ⟨key, ?_⟩
    rw [bound]
    exact inside
  · rintro ⟨a, inside⟩
    cases bound : (delegationTree topology).edges.get? a with
    | none =>
      rw [bound] at inside
      cases inside
    | some values =>
      rw [bound] at inside
      exact ⟨values, mem_values.mpr ⟨a, bound⟩, inside⟩

lemma rootNodeIds_eq : (delegationTree topology).rootNodeIds =
    topology.nodeIds.filter fun id => valuesOf (delegationTree topology).parents id = [] := by
  refine filter_congr fun id _ => decide_eq_decide.mpr ?_
  rw [show (buildDelegationGraph topology).edges = (delegationTree topology).edges from rfl,
    mem_childIds, eq_nil_iff_forall_not_mem, not_exists]
  exact forall_congr' fun a => not_congr (mem_edges.trans mem_parents.symm)

lemma remaining_keys (record : SortedMap String (List String)) :
    remaining (valuesOf record) record.keys [] = (record.values.map List.length).sum := by
  unfold remaining SortedMap.keys values
  rw [filter_eq_self.mpr fun a _ => by simp, map_map, map_map]
  refine congrArg List.sum (map_congr_left fun entry member => ?_)
  have bound : record.get? entry.1 = some entry.2 := mem_entries.mp member
  simp only [Function.comp_apply, valuesOf, bound, Option.getD_some]

section Accepted

variable {platform : Platform} {options : TopologyValidatorOptions}
  (executable : (validateTopology platform topology options).executable = true)

include executable

lemma step_of_edge {a b : String} (edge : (delegationTree topology).Edge a b) :
    DelegationStep topology a b := by
  have delegates := delegates_of_pair (mem_edges.mp edge)
  obtain ⟨first, second⟩ := delegates_declared executable delegates
  exact ⟨first, second, delegates⟩

lemma tree_keys (a : String) :
    (((delegationTree topology).edges.get? a).isSome ↔ a ∈ topology.nodeIds) ∧
      (((delegationTree topology).parents.get? a).isSome ↔ a ∈ topology.nodeIds) := by
  have fresh key : ((fromEntries (topology.nodes.map fun node =>
      (node.id, ([] : List String)))).get? key).isSome ↔ key ∈ topology.nodeIds := by
    rw [get?_fromEntries_of_key topology.nodes (fun node => node.id) fun _ => []]
    unfold EnterpriseTopology.nodeIds
    split_ifs with member <;> simp [member]
  refine keys_foldl _ _ (fun pair member => ?_) fresh fresh a
  exact delegates_declared executable (delegates_of_pair member)

lemma tree_acyclic (a : String) : ¬Relation.TransGen (delegationTree topology).Edge a a :=
  fun cycle => acyclic_of_executable executable a 
    (Relation.TransGen.mono (fun _ _ => step_of_edge executable) a a cycle)

lemma reached_from_root {id : String} (member : id ∈ topology.nodeIds) :
    ∃ root ∈ (delegationTree topology).rootNodeIds,
      Relation.ReflTransGen (delegationTree topology).Edge root id := by
  have inside a b (edge : (delegationTree topology).Edge a b) : a ∈ topology.nodeIds :=
    (step_of_edge executable edge).1
  obtain ⟨root, none, path⟩ := exists_root inside (tree_acyclic executable) id
  refine ⟨root, ?_, path⟩
  rw [rootNodeIds_eq, mem_filter, decide_eq_true_eq]
  refine ⟨?_, eq_nil_iff_forall_not_mem.mpr fun a parent =>
    none a (mem_edges.mpr (mem_parents.mp parent))⟩
  rcases Relation.ReflTransGen.cases_head path with rfl | ⟨next, first, -⟩
  · exact member
  · exact (step_of_edge executable first).1

lemma path_of_chain {a : String} (member : a ∈ topology.nodeIds) {path : List String}
    (chain : (a :: path).IsChain (delegationTree topology).Edge) :
    DelegationPath topology (a :: path) where
  declared := by
    intro b inside
    rcases mem_cons.mp inside with rfl | later
    · exact member
    · obtain ⟨c, -, edge⟩ := Relation.TransGen.tail'_iff.mp (transGen_of_chain chain later)
      exact (step_of_edge executable edge).2.1
  chain := chain.imp fun _ _ => step_of_edge executable
  nodup := nodup_of_chain (tree_acyclic executable) chain

lemma exists_bound {a : String} (member : a ∈ topology.nodeIds) :
    ∃ bound, options.maxDepth.lt (.ofNat bound) = false ∧
      ∀ b distance, Walk (valuesOf (delegationTree topology).edges) a b distance →
        distance ≤ bound := by
  refine ⟨Nat.findGreatest (fun depth => options.maxDepth.lt (.ofNat depth) = false)
    topology.nodeIds.length, ?_, ?_⟩
  · exact Nat.findGreatest_spec (P := fun depth => options.maxDepth.lt (.ofNat depth) = false)
      (Nat.zero_le _) (JsNumber.not_max_lt _ _)
  · rintro b distance ⟨path, chain, -, rfl⟩
    have simple := path_of_chain executable member chain
    have few := (simple.nodup.subperm simple.declared).length_le
    rw [length_cons] at few
    exact Nat.le_findGreatest (by omega) (short_of_executable executable simple)

lemma collectDescendants_spec {a : String} (member : a ∈ topology.nodeIds) :
    ∃ bound, options.maxDepth.lt (.ofNat bound) = false ∧
      Queued (valuesOf (delegationTree topology).edges) a []
        (collectDescendants a (delegationTree topology).edges).1
        (collectDescendants a (delegationTree topology).edges).2 bound := by
  obtain ⟨bound, allowed, walks⟩ := exists_bound executable member
  refine ⟨bound, allowed, ?_⟩
  have inside b c (edge : c ∈ valuesOf (delegationTree topology).edges b) :
      c ∈ (delegationTree topology).edges.keys := by
    rw [SortedMap.mem_keys, (tree_keys executable c).1]
    exact (step_of_edge executable edge).2.1
  refine collect_spec walks inside ?_ ?_ (.init _ _ _)
  · rw [remaining_keys]
  · intro entry waiting
    obtain ⟨b, edge, rfl⟩ := mem_map.mp waiting
    exact inside a b edge

end Accepted

lemma scopes_get? (id : String) :
    (buildDelegationScopeMap topology (delegationTree topology)).get? id =
      if id ∈ topology.nodeIds then some (buildDelegationScope id (delegationTree topology))
      else none :=
  get?_fromEntries_of_key topology.nodes (fun node => node.id)
    (fun id => buildDelegationScope id (delegationTree topology)) id

lemma compileTopology_of_executable {platform : CompilerPlatform}
    {options : CompileTopologyOptions} (executable : (validateTopology platform.toPlatform topology
      options.validationOptions).executable = true) :
    compileTopology platform topology options = .ok (snapshotOf platform topology options
      (validateTopology platform.toPlatform topology options.validationOptions)) := by
  unfold compileTopology
  dsimp only
  rw [if_pos executable]

lemma compileTopology_of_refused {platform : CompilerPlatform}
    {options : CompileTopologyOptions} (refused : ¬(validateTopology platform.toPlatform topology
      options.validationOptions).executable = true) :
    compileTopology platform topology options =
      .error ((validateTopology platform.toPlatform topology options.validationOptions).issues.filter
        fun issue => isBlockingSeverity issue.severity) := by
  unfold compileTopology
  dsimp only
  rw [if_neg refused]

/-- What the scope of a node is, next to the tree it is computed from. -/
structure CompiledDelegationScope.Exact (scope : CompiledDelegationScope)
    (tree : CompiledDelegationTree) (maxDepth : JsNumber) : Prop where
  children : scope.directChildNodeIds = valuesOf tree.edges scope.nodeId
  descendants : ∀ b, b ∈ scope.descendantNodeIds ↔ Relation.TransGen tree.Edge scope.nodeId b
  distinct : scope.descendantNodeIds.Nodup
  other : scope.nodeId ∉ scope.descendantNodeIds
  /-- The depth does not exceed what is allowed, in the comparison of the validator. -/
  depth : maxDepth.lt (.ofNat scope.maxDepth) = false

/-- The tree and the scopes of a snapshot agree with each other. -/
structure CompiledTopologySnapshot.Closed (snapshot : CompiledTopologySnapshot)
    (nodeIds : List String) (maxDepth : JsNumber) : Prop where
  keys : ∀ a, ((snapshot.parentChildTree.edges.get? a).isSome ↔ a ∈ nodeIds) ∧
    ((snapshot.parentChildTree.parents.get? a).isSome ↔ a ∈ nodeIds)
  inverse : ∀ a b, b ∈ valuesOf snapshot.parentChildTree.edges a ↔
    a ∈ valuesOf snapshot.parentChildTree.parents b
  distinct : ∀ a, (valuesOf snapshot.parentChildTree.edges a).Nodup
  roots : snapshot.parentChildTree.rootNodeIds =
    nodeIds.filter fun id => valuesOf snapshot.parentChildTree.parents id = []
  rooted : nodeIds ≠ [] → snapshot.parentChildTree.rootNodeIds ≠ []
  reached : ∀ id ∈ nodeIds, ∃ root ∈ snapshot.parentChildTree.rootNodeIds,
    Relation.ReflTransGen snapshot.parentChildTree.Edge root id
  scopes : ∀ id, (id ∈ nodeIds → (snapshot.delegationScopeMap.get? id).isSome) ∧
    ∀ scope, snapshot.delegationScopeMap.get? id = some scope →
      scope.nodeId = id ∧ scope.Exact snapshot.parentChildTree maxDepth

lemma scope_exact {platform : Platform} {options : TopologyValidatorOptions}
    (executable : (validateTopology platform topology options).executable = true) {id : String}
    (member : id ∈ topology.nodeIds) :
    (buildDelegationScope id (delegationTree topology)).Exact (delegationTree topology)
      options.maxDepth := by
  obtain ⟨bound, allowed, queued⟩ := collectDescendants_spec executable member
  refine ⟨rfl, fun b => queued.mem_iff, queued.nodup, fun own =>
    tree_acyclic executable id (queued.mem_iff.mp own), ?_⟩
  by_contra exceeded
  have within : (JsNumber.ofNat (collectDescendants id (delegationTree topology).edges).2).le
      (.ofNat bound) = true := (JsNumber.le_ofNat _ _).mpr queued.short
  exact absurd (allowed.symm.trans (JsNumber.lt_of_lt_of_le (Bool.not_eq_false _ ▸ exceeded) within))
    Bool.false_ne_true

/-- The snapshot of every topology that the compiler accepts is closed. -/
theorem compiled_closed (platform : CompilerPlatform) (topology : EnterpriseTopology)
    (options : CompileTopologyOptions) (snapshot : CompiledTopologySnapshot)
    (compiled : compileTopology platform topology options = .ok snapshot) :
    snapshot.Closed topology.nodeIds options.validationOptions.maxDepth := by
  unfold compileTopology at compiled
  dsimp only at compiled
  split_ifs at compiled with executable
  cases compiled
  refine ⟨tree_keys executable, fun a b => mem_edges.trans mem_parents.symm, edges_nodup,
    rootNodeIds_eq, fun some none => ?_, fun id member => reached_from_root executable member,
    fun id => ⟨fun member => ?_, fun scope found => ?_⟩⟩
  · obtain ⟨id, member⟩ := exists_mem_of_ne_nil _ some
    obtain ⟨root, inside, -⟩ := reached_from_root executable member
    exact not_mem_nil (none ▸ inside)
  · refine (congrArg Option.isSome (scopes_get? id)).trans ?_
    rw [if_pos member, Option.isSome_some]
  · have bound := (scopes_get? id).symm.trans found
    split_ifs at bound with member
    cases bound
    exact ⟨rfl, scope_exact executable member⟩

/-- Texts instead of hashes. -/
def plainCompiler : CompilerPlatform :=
  { plainPlatform with
    computeTopologySourceHash := fun _ => ""
    buildCompiledTopologySnapshotId := fun id version _ => id ++ version }

theorem compiled_closed_pair :
    ((snapshotOf plainCompiler pairTopology {}
        (validateTopology plainPlatform pairTopology)).Closed ["lead", "scout"] 8) :=
  compiled_closed plainCompiler pairTopology {} _
    (compileTopology_of_executable pairTopology_executable)

end Knowbee.Topology
