import Knowbee.Topology.CompilerSound
import Knowbee.TopologyRuntime.Delegation

/-!
# What delegation keeps

A child order has no more than its parent order and its own compiled node allow, and the
recursion of the runtime ends since the compiled tree has no cycle.  The depth of an
order is its level where the ids of the nodes can be told in a delegation path.
-/

namespace Knowbee.TopologyRuntime

open Knowbee.Topology List PlanChildDelegationInput

section Plans

variable {snapshot : CompiledTopologySnapshot} {input : PlanChildDelegationInput}
  {planned : PlannedChildWorkOrder}

structure Planned (snapshot : CompiledTopologySnapshot) (input : PlanChildDelegationInput)
    (planned : PlannedChildWorkOrder) : Prop where
  found : snapshot.nodeIndex.get? planned.childNodeId = some planned.childNode
  direct : ∃ candidate ∈ getCompiledChildCandidates snapshot input.parentId,
    candidate.node.id = planned.childNodeId
  within : input.childDepth ≤ input.maxDepth
  depth : planned.delegationDepth = input.childDepth
  order : ∃ createdAt, planned.workOrder =
    buildChildWorkOrder input input.parentId planned.childNodeId planned.childNode createdAt

lemma planChild_eq_ok {directChildIds : List String} {count : Nat} {childNodeId : String}
    (direct : ∀ id ∈ directChildIds, ∃ candidate ∈ getCompiledChildCandidates snapshot input.parentId,
      candidate.node.id = id)
    (ok : planChild snapshot input directChildIds count childNodeId = .ok planned) :
    Planned snapshot input planned := by
  unfold planChild at ok
  cases found : snapshot.nodeIndex.get? childNodeId with
  | none =>
    rw [found] at ok
    exact nomatch ok
  | some childNode =>
    rw [found] at ok
    simp only at ok
    by_cases listed : childNodeId ∈ directChildIds
    · rw [if_neg (not_not.mpr listed)] at ok
      by_cases deep : input.childDepth > input.maxDepth
      · rw [if_pos deep] at ok
        exact nomatch ok
      · rw [if_neg deep] at ok
        cases ok
        exact ⟨found, direct childNodeId listed, Nat.le_of_not_lt deep, rfl, _, rfl⟩
    · rw [if_pos listed] at ok
      exact nomatch ok

lemma mem_planChildren {directChildIds rest : List String} {done : List PlannedChildWorkOrder}
    {skipped : List DelegationPlanIssue}
    (member : planned ∈ (planChildren snapshot input directChildIds rest done skipped).1) :
    planned ∈ done ∨ ∃ count childNodeId,
      planChild snapshot input directChildIds count childNodeId = .ok planned := by
  induction rest generalizing done skipped with
  | nil => exact .inl member
  | cons childNodeId rest ih =>
    unfold planChildren at member
    cases turn : planChild snapshot input directChildIds done.length childNodeId with
    | error issue =>
      rw [turn] at member
      exact ih member
    | ok first =>
      rw [turn] at member
      rcases ih member with before | later
      · rcases mem_append.mp before with old | new
        · exact .inl old
        · rw [mem_singleton.mp new]
          exact .inr ⟨_, _, turn⟩
      · exact .inr later

lemma mem_childWorkOrders (member : planned ∈ (planChildDelegation snapshot input).childWorkOrders) :
    Planned snapshot input planned := by
  unfold planChildDelegation at member
  by_cases missing : (snapshot.nodeIndex.get? input.parentId).isNone = true
  · rw [if_pos missing] at member
    cases member
  · rw [if_neg missing] at member
    by_cases none : (input.targetChildNodeIds.getD ((listDirectChildDelegationCandidates snapshot
        input.parentId input.parentWorkOrder).map (·.childNode.node.id))).length = 0
    · rw [if_pos none] at member
      cases member
    · rw [if_neg none] at member
      rcases mem_planChildren member with done | ⟨count, childNodeId, ok⟩
      · cases done
      · refine planChild_eq_ok (fun id listed => ?_) ok
        obtain ⟨candidate, offered, rfl⟩ := mem_map.mp listed
        obtain ⟨node, held, rfl⟩ := mem_map.mp offered
        exact ⟨node, held, rfl⟩

/-- An order that allows no more than another, under the same authority. -/
structure Narrower (child parent : WorkOrder) : Prop where
  tools : ∀ id ∈ child.permissionScope.allowedToolIds, id ∈ parent.permissionScope.allowedToolIds
  systems : ∀ id ∈ child.permissionScope.allowedSystemIds,
    id ∈ parent.permissionScope.allowedSystemIds
  dataDomains : child.permissionScope.dataDomainIds = parent.permissionScope.dataDomainIds
  riskLevel : child.permissionScope.riskLevel = parent.permissionScope.riskLevel
  authority : child.authorityScope = parent.authorityScope

lemma Narrower.refl (order : WorkOrder) : Narrower order order :=
  ⟨fun _ held => held, fun _ held => held, rfl, rfl, rfl⟩

lemma Narrower.trans {first second third : WorkOrder} (narrower : Narrower first second)
    (narrower' : Narrower second third) : Narrower first third where
  tools := fun id held => narrower'.tools id (narrower.tools id held)
  systems := fun id held => narrower'.systems id (narrower.systems id held)
  dataDomains := narrower.dataDomains.trans narrower'.dataDomains
  riskLevel := narrower.riskLevel.trans narrower'.riskLevel
  authority := narrower.authority.trans narrower'.authority

lemma Planned.narrower (child : Planned snapshot input planned) :
    Narrower planned.workOrder input.parentWorkOrder := by
  obtain ⟨createdAt, same⟩ := child.order
  rw [same]
  exact ⟨fun id held => (mem_filter.mp held).1, fun id held => (mem_filter.mp held).1,
    rfl, rfl, rfl⟩

structure WithinNode (order : WorkOrder) (node : CompiledNode) : Prop where
  tools : ∀ id ∈ order.permissionScope.allowedToolIds, id ∈ node.node.allowedToolIds
  systems : ∀ id ∈ order.permissionScope.allowedSystemIds, id ∈ node.node.allowedSystemIds

lemma Planned.withinNode (child : Planned snapshot input planned) :
    WithinNode planned.workOrder planned.childNode := by
  obtain ⟨createdAt, same⟩ := child.order
  rw [same]
  exact ⟨fun id held => of_decide_eq_true (mem_filter.mp held).2,
    fun id held => of_decide_eq_true (mem_filter.mp held).2⟩

lemma Planned.workOrderId (child : Planned snapshot input planned)
    (own : input.childWorkOrderIdByNodeId planned.childNodeId = none) :
    planned.workOrder.workOrderId =
      buildChildWorkOrderId input.parentWorkOrder planned.childNode.node.id := by
  obtain ⟨createdAt, same⟩ := child.order
  rw [same, buildChildWorkOrder, own]
  rfl

lemma buildChildWorkOrderId_inj {order : WorkOrder} {first second : String} :
    buildChildWorkOrderId order first = buildChildWorkOrderId order second ↔
      sanitizeNodeId first = sanitizeNodeId second := by
  unfold buildChildWorkOrderId
  constructor
  · intro same
    have chars := congrArg String.toList same
    rw [String.toList_append, String.toList_append, String.toList_append,
      String.toList_append] at chars
    exact String.toList_inj.mp (append_cancel_left chars)
  · exact fun same => congrArg _ same

/-- An id whose characters are all kept. -/
def PlainId (id : String) : Prop := ∀ c ∈ id.toList, isIdCharacter c = true

lemma sanitizeNodeId_plain {id : String} (plain : PlainId id) : sanitizeNodeId id = id := by
  have kept : ∀ chars : List Char, (∀ c ∈ chars, isIdCharacter c = true) →
      (chars.flatMap fun c =>
        if isIdCharacter c then [c] else replicate (charUnits c).length '_') = chars := by
    intro chars all
    induction chars with
    | nil => rfl
    | cons c rest ih =>
      obtain ⟨first, others⟩ := forall_mem_cons.mp all
      rw [flatMap_cons, if_pos first, ih others]
      rfl
  rw [sanitizeNodeId, kept _ plain, String.ofList_toList]

end Plans

section Compiled

variable {platform : CompilerPlatform} {topology : EnterpriseTopology}
  {options : CompileTopologyOptions} {snapshot : CompiledTopologySnapshot}
  {input : PlanChildDelegationInput} {planned : PlannedChildWorkOrder}

lemma mem_of_get?_fromEntries {V : Type} {entries : List (String × V)} {key : String} {value : V}
    (found : (fromEntries entries).get? key = some value) : (key, value) ∈ entries := by
  have general : ∀ record : SortedMap String V,
      (entries.foldl (fun record entry => record.insert entry.1 entry.2) record).get? key =
        some value → (key, value) ∈ entries ∨ record.get? key = some value := by
    clear found
    induction entries with
    | nil => exact fun record found => .inr found
    | cons entry rest ih =>
      intro record found
      rcases ih _ found with later | now
      · exact .inl (mem_cons_of_mem _ later)
      · rw [SortedMap.get?_insert] at now
        split_ifs at now with own
        · cases now
          rw [own]
          exact .inl mem_cons_self
        · exact .inr now
  unfold fromEntries at found
  rcases general _ found with held | none
  · exact held
  · rw [SortedMap.get?_empty] at none
    exact nomatch none

section

variable (compiled : compileTopology platform topology options = .ok snapshot)
include compiled

lemma compiled_eq :
    (validateTopology platform.toPlatform topology options.validationOptions).executable = true ∧
      snapshot = snapshotOf platform topology options
        (validateTopology platform.toPlatform topology options.validationOptions) := by
  unfold compileTopology at compiled
  dsimp only at compiled
  split_ifs at compiled with executable
  exact ⟨executable, (Except.ok.inj compiled).symm⟩

lemma compiled_tree : snapshot.parentChildTree = delegationTree topology := by
  rw [(compiled_eq compiled).2]
  rfl

lemma compiled_acyclic
    (id : String) : ¬Relation.TransGen snapshot.parentChildTree.Edge id id := by
  rw [compiled_tree compiled]
  exact tree_acyclic (compiled_eq compiled).1 id

lemma compiled_node
    {id : String} {node : CompiledNode} (found : snapshot.nodeIndex.get? id = some node) :
    node.node.id = id := by
  rw [(compiled_eq compiled).2] at found
  obtain ⟨contract, -, same⟩ := mem_map.mp (mem_of_get?_fromEntries found)
  obtain ⟨rfl, rfl⟩ := Prod.mk.inj same
  rfl

/-- **A planned child is a compiled direct child** of the delegating node. -/
lemma Planned.edge (child : Planned snapshot input planned) :
    snapshot.parentChildTree.Edge input.parentId planned.childNodeId ∧
      planned.childNode.node.id = planned.childNodeId ∧
        planned.workOrder.target = ⟨.node, planned.childNodeId⟩ ∧
          planned.workOrder.fromNodeId = input.parentId := by
  obtain ⟨candidate, held, same⟩ := child.direct
  obtain ⟨edgeId, edge, found⟩ := mem_filterMap.mp held
  have own : edgeId = planned.childNodeId := (compiled_node compiled found).symm.trans same
  obtain ⟨createdAt, order⟩ := child.order
  have node := compiled_node compiled child.found
  refine ⟨own ▸ edge, node, ?_, ?_⟩
  · rw [order, buildChildWorkOrder, node]
  · rw [order, buildChildWorkOrder]

end

/-- The orders that plans derive from a root order, by their level. -/
inductive Derived (snapshot : CompiledTopologySnapshot) (admits : PlanChildDelegationInput → Prop)
    (root : WorkOrder) : Nat → WorkOrder → Prop
  | root : Derived snapshot admits root 0 root
  | child {level : Nat} {input : PlanChildDelegationInput} {planned : PlannedChildWorkOrder}
    (parent : Derived snapshot admits root level input.parentWorkOrder) (admitted : admits input)
    (member : planned ∈ (planChildDelegation snapshot input).childWorkOrders) :
    Derived snapshot admits root (level + 1) planned.workOrder

variable {admits : PlanChildDelegationInput → Prop} {root order : WorkOrder} {level : Nat}

lemma Derived.narrower (derived : Derived snapshot admits root level order) :
    Narrower order root := by
  induction derived with
  | root => exact Narrower.refl root
  | child _ _ member ih => exact (mem_childWorkOrders member).narrower.trans ih

lemma lastIndexOf_concat (items : List String) (item : String) :
    lastIndexOf (items ++ [item]) item = some items.length := by
  unfold lastIndexOf
  rw [reverse_append, reverse_singleton, singleton_append, idxOf?_cons,
    if_pos (beq_self_eq_true item)]
  simp

variable {between : List String}

lemma depth_of_path {origin : String}
    (path : order.delegationPath.filter isNodeId = origin :: between ++ [order.target.id])
    (other : origin ≠ order.target.id) :
    calculateWorkOrderDelegationDepth order = between.length := by
  unfold calculateWorkOrderDelegationDepth
  simp only
  rw [path, lastIndexOf_concat]
  have long : (origin :: between ++ [order.target.id]).length > 1 := by simp
  have first : (origin :: between ++ [order.target.id]).head? ≠ some order.target.id := by
    simpa using other
  simp only [long, first, ne_eq, not_false_eq_true, and_self, if_true, length_cons]
  omega

/-- A root order whose path tells an origin first, which the delegation does not come back
to, and its target last. -/
def Routed (snapshot : CompiledTopologySnapshot) (root : WorkOrder) (between : List String) : Prop :=
  ∃ origin, root.delegationPath.filter isNodeId = origin :: between ++ [root.target.id] ∧
    origin ≠ root.target.id ∧
      ¬Relation.TransGen snapshot.parentChildTree.Edge root.target.id origin

def OwnNode (input : PlanChildDelegationInput) : Prop :=
  input.parentId = input.parentWorkOrder.target.id

lemma filter_append_of_last {path before : List String} {target child : String}
    (nodeId : isNodeId child = true) (last : path.filter isNodeId = before ++ [target])
    (other : child ≠ target) :
    (appendDelegationPath path child).filter isNodeId = before ++ [target] ++ [child] := by
  unfold appendDelegationPath
  split_ifs with appended
  · obtain ⟨rest, rfl⟩ := getLast?_eq_some_iff.mp appended
    rw [filter_append, filter_singleton, nodeId] at last
    exact absurd (append_inj_right' last rfl) (by simpa using other)
  · rw [filter_append, last, filter_singleton, nodeId]
    rfl

section

variable (compiled : compileTopology platform topology options = .ok snapshot)
  (ids : ∀ parent child, snapshot.parentChildTree.Edge parent child → isNodeId child = true)

include compiled ids

lemma Derived.path {origin : String}
    (route : root.delegationPath.filter isNodeId = origin :: between ++ [root.target.id])
    (derived : Derived snapshot admits root level order)
    (own : ∀ input, admits input → OwnNode input) :
    (∃ nodes, order.delegationPath.filter isNodeId = origin :: nodes ++ [order.target.id] ∧
      nodes.length = between.length + level) ∧
      Relation.ReflTransGen snapshot.parentChildTree.Edge root.target.id order.target.id := by
  induction derived with
  | root => exact ⟨⟨between, route, rfl⟩, .refl⟩
  | @child level input planned _ admitted member ih =>
    obtain ⟨⟨nodes, path, length⟩, below⟩ := ih
    have child := mem_childWorkOrders member
    obtain ⟨edge, node, target, -⟩ := child.edge compiled
    rw [own input admitted] at edge
    have other : planned.childNodeId ≠ input.parentWorkOrder.target.id := fun same =>
      compiled_acyclic compiled _ (.single (same ▸ edge))
    obtain ⟨createdAt, order⟩ := child.order
    refine ⟨⟨nodes ++ [input.parentWorkOrder.target.id], ?_, ?_⟩, ?_⟩
    · have extended := filter_append_of_last (ids _ _ edge) path other
      rw [target, order, buildChildWorkOrder, node]
      simpa using extended
    · rw [length_append, length_singleton, length, Nat.add_assoc]
    · rw [target]
      exact below.tail edge

lemma Derived.depth (routed : Routed snapshot root between)
    (derived : Derived snapshot admits root level order)
    (own : ∀ input, admits input → OwnNode input) :
    calculateWorkOrderDelegationDepth order = calculateWorkOrderDelegationDepth root + level := by
  obtain ⟨origin, route, other, away⟩ := routed
  obtain ⟨⟨nodes, path, length⟩, below⟩ := derived.path compiled ids route own
  rw [depth_of_path route other, depth_of_path path fun same => ?_, length]
  rcases Relation.reflTransGen_iff_eq_or_transGen.mp below with here | further
  · exact other (same.trans here)
  · exact away (same ▸ further)

end

lemma mapM_eq_some {α β : Type} {f : α → Option β} {items : List α} {P : β → Prop}
    (each : ∀ item ∈ items, ∃ result, f item = some result ∧ P result) :
    ∃ results, items.mapM f = some results ∧ ∀ result ∈ results, P result := by
  induction items with
  | nil => exact ⟨[], rfl, nofun⟩
  | cons item rest ih =>
    obtain ⟨first, others⟩ := forall_mem_cons.mp each
    obtain ⟨result, made, holds⟩ := first
    obtain ⟨results, all, hold⟩ := ih others
    refine ⟨result :: results, ?_, forall_mem_cons.mpr ⟨holds, hold⟩⟩
    rw [mapM_cons, made, all]
    rfl

lemma chain_short (compiled : compileTopology platform topology options = .ok snapshot)
    {path : List String} {id : String} (some : path ≠ [])
    (chain : (path ++ [id]).IsChain snapshot.parentChildTree.Edge) :
    path.length + 1 ≤ topology.nodeIds.length := by
  rw [compiled_tree compiled] at chain
  have executable := (compiled_eq compiled).1
  obtain ⟨first, rest, rfl⟩ := exists_cons_of_ne_nil some
  obtain ⟨next, later, same⟩ : ∃ next later, rest ++ [id] = next :: later := by
    cases rest with
    | nil => exact ⟨id, [], rfl⟩
    | cons next rest => exact ⟨next, rest ++ [id], rfl⟩
  rw [cons_append, same] at chain
  have member := (step_of_edge executable (isChain_cons_cons.mp chain).1).1
  have simple := path_of_chain executable member chain
  have few := (simple.nodup.subperm simple.declared).length_le
  rw [← same] at few
  simpa using few

variable {checks : RuntimeChecks} {maxDelegationDepth : Option JsNumber}

/-- A plan that a runtime makes below a limit. -/
def RuntimePlan (maxDelegationDepth : Option JsNumber) (input : PlanChildDelegationInput) : Prop :=
  OwnNode input ∧ input.maxDelegationDepth = maxDelegationDepth

/-- The orders below one of a level. -/
def Below (snapshot : CompiledTopologySnapshot) (maxDelegationDepth : Option JsNumber)
    (root : WorkOrder) (orders : List WorkOrder) : Prop :=
  ∀ order ∈ orders, ∃ level,
    Derived snapshot (RuntimePlan maxDelegationDepth) root (level + 1) order

lemma Below.nil : Below snapshot maxDelegationDepth root [] :=
  forall_mem_nil _

lemma Below.cons {orders : List WorkOrder} (own : Below snapshot maxDelegationDepth root [order])
    (below : Below snapshot maxDelegationDepth root orders) :
    Below snapshot maxDelegationDepth root (order :: orders) :=
  forall_mem_cons.mpr ⟨own _ (mem_singleton_self _), below⟩

lemma dispatchChildWorkOrders_returns {contracts : String → Option NodeContract}
    {childRunner : ChildRuntimeRunner} {plan : DelegationPlan}
    (each : ∀ planItem ∈ plan.childWorkOrders, Below snapshot maxDelegationDepth root
        [planItem.workOrder] ∧
      ∀ contract, createsEnvelope snapshot checks planItem.workOrder contract = true →
        ∃ orders, childRunner planItem.workOrder contract = some orders ∧
          Below snapshot maxDelegationDepth root orders) :
    ∃ orders, dispatchChildWorkOrders snapshot checks contracts childRunner plan = some orders ∧
      Below snapshot maxDelegationDepth root orders := by
  obtain ⟨results, all, hold⟩ := mapM_eq_some (P := Below snapshot maxDelegationDepth root)
    (f := dispatchChildWorkOrder snapshot checks contracts childRunner) fun planItem member => by
      obtain ⟨own, runs⟩ := each planItem member
      unfold dispatchChildWorkOrder
      cases contracts planItem.childNodeId with
      | none => exact ⟨[], rfl, Below.nil⟩
      | some contract =>
        by_cases creates : createsEnvelope snapshot checks planItem.workOrder contract = true
        · obtain ⟨orders, made, below⟩ := runs contract creates
          refine ⟨planItem.workOrder :: orders, ?_, own.cons below⟩
          simp only [creates, if_true, made, Option.map_some]
        · refine ⟨[], ?_, Below.nil⟩
          simp only [creates, if_false, Bool.false_eq_true]
  refine ⟨results.flatten, ?_, fun order member => ?_⟩
  · rw [dispatchChildWorkOrders, all, Option.map_some]
  · obtain ⟨orders, held, member⟩ := mem_flatten.mp member
    exact hold orders held order member

/-- **The recursion ends**, and what it runs is derived from the root order. -/
lemma runNodeRuntime_returns (compiled : compileTopology platform topology options = .ok snapshot)
    {fuel : Nat} {delegation : Option NodeRuntimeChildDelegationOptions} {contract : NodeContract}
    {path : List String} (chain : (path ++ [contract.id]).IsChain snapshot.parentChildTree.Edge)
    (enough : topology.nodeIds.length + 1 ≤ path.length + fuel)
    (own : order.target.id = contract.id)
    (limit : ∀ given ∈ delegation, given.maxDelegationDepth = maxDelegationDepth)
    (derived : Derived snapshot (RuntimePlan maxDelegationDepth) root level order) :
    ∃ orders, runNodeRuntime snapshot checks fuel delegation order contract = some orders ∧
      Below snapshot maxDelegationDepth root orders := by
  induction fuel generalizing delegation order contract path level with
  | zero =>
    have long : path ≠ [] := by
      rintro rfl
      simp at enough
    have short := chain_short compiled long chain
    omega
  | succ fuel ih =>
    cases delegation with
    | none => exact ⟨[], rfl, Below.nil⟩
    | some given =>
      unfold runNodeRuntime
      by_cases closed : ¬given.enabled ∨ ¬checks.runtime order contract
      · rw [if_pos closed]
        exact ⟨[], rfl, Below.nil⟩
      · rw [if_neg closed]
        refine dispatchChildWorkOrders_returns fun planItem member => ?_
        have child := mem_childWorkOrders member
        obtain ⟨edge, -, target, -⟩ := child.edge compiled
        have admitted : RuntimePlan maxDelegationDepth
            (delegationInput checks given order contract) := ⟨own.symm, limit given rfl⟩
        have next : Derived snapshot (RuntimePlan maxDelegationDepth) root (level + 1)
            planItem.workOrder := .child derived admitted member
        refine ⟨forall_mem_singleton.mpr ⟨level, next⟩, fun childContract creates => ?_⟩
        have addressed : planItem.workOrder.target.id = childContract.id := by
          simp only [createsEnvelope, Bool.and_eq_true, decide_eq_true_eq] at creates
          exact creates.1.1.2
        have onward : (path ++ [contract.id] ++ [childContract.id]).IsChain
            snapshot.parentChildTree.Edge := by
          rw [← addressed, target]
          exact chain.append (isChain_singleton _) fun last held first held' => by
            rw [getLast?_concat] at held
            cases held
            cases held'
            exact edge
        refine ih onward ?_ addressed ?_ next
        · rw [length_append, length_singleton]
          omega
        · intro next held
          unfold childDelegation at held
          split_ifs at held
          · cases held
          · cases held
            exact limit given rfl

/-- **Delegation never widens and always ends.**  A planned child is a compiled direct
child whose order allows no more tools and systems than its parent order and its node,
under the same data domains and authority; so does every order of a chain.  Depths are
levels where every id of the tree can be told in a path, and the runtime of a root order
returns. -/
theorem delegation_narrows_and_ends
    (compiled : compileTopology platform topology options = .ok snapshot) :
    (∀ input : PlanChildDelegationInput,
      ∀ planned ∈ (planChildDelegation snapshot input).childWorkOrders,
        Narrower planned.workOrder input.parentWorkOrder ∧
        snapshot.nodeIndex.get? planned.childNodeId = some planned.childNode ∧
        WithinNode planned.workOrder planned.childNode ∧
        snapshot.parentChildTree.Edge input.parentId planned.childNodeId ∧
        planned.workOrder.target = ⟨.node, planned.childNodeId⟩ ∧
        planned.workOrder.fromNodeId = input.parentId ∧
        planned.delegationDepth = calculateWorkOrderDelegationDepth input.parentWorkOrder + 1 ∧
        planned.delegationDepth ≤ input.maxDepth) ∧
    (∀ admits root level order, Derived snapshot admits root level order →
      Narrower order root) ∧
    (∀ input : PlanChildDelegationInput, (∀ id, input.childWorkOrderIdByNodeId id = none) →
      ∀ first ∈ (planChildDelegation snapshot input).childWorkOrders,
      ∀ second ∈ (planChildDelegation snapshot input).childWorkOrders,
        PlainId first.childNodeId → PlainId second.childNodeId →
        first.workOrder.workOrderId = second.workOrder.workOrderId →
        first.childNodeId = second.childNodeId) ∧
    (∀ admits root between, (∀ input, admits input → OwnNode input) →
      (∀ parent child, snapshot.parentChildTree.Edge parent child → isNodeId child = true) →
      Routed snapshot root between → ∀ level order, Derived snapshot admits root level order →
        calculateWorkOrderDelegationDepth order =
          calculateWorkOrderDelegationDepth root + level) ∧
    (∀ maxDelegationDepth root between,
      (∀ parent child, snapshot.parentChildTree.Edge parent child → isNodeId child = true) →
      Routed snapshot root between → ∀ level order,
        Derived snapshot (RuntimePlan maxDelegationDepth) root (level + 1) order →
        calculateWorkOrderDelegationDepth order ≤
          normalizedMaxDelegationDepth maxDelegationDepth) ∧
    ∀ checks root contract, createsEnvelope snapshot checks root contract = true →
      ∀ delegation : NodeRuntimeChildDelegationOptions,
        ∃ orders, runNodeRuntime snapshot checks (topology.nodeIds.length + 1) (some delegation)
            root contract = some orders ∧
          Below snapshot delegation.maxDelegationDepth root orders := by
  refine ⟨fun input planned member => ?_, fun admits root level order => Derived.narrower,
    fun input own first held second held' plain plain' same => ?_,
    fun admits root between own ids routed level order derived =>
      derived.depth compiled ids routed own,
    fun maxDelegationDepth root between ids routed level order derived => ?_,
    fun checks root contract creates delegation => ?_⟩
  · have child := mem_childWorkOrders member
    obtain ⟨edge, -, target, origin⟩ := child.edge compiled
    exact ⟨child.narrower, child.found, child.withinNode, edge, target, origin, child.depth,
      child.depth ▸ child.within⟩
  · have child := mem_childWorkOrders held
    have child' := mem_childWorkOrders held'
    rw [child.workOrderId (own _), child'.workOrderId (own _), buildChildWorkOrderId_inj,
      (child.edge compiled).2.1, (child'.edge compiled).2.1, sanitizeNodeId_plain plain,
      sanitizeNodeId_plain plain'] at same
    exact same
  · have depth := derived.depth compiled ids routed fun input admitted => admitted.1
    cases derived with
    | @child _ input planned parent admitted member =>
      have child := mem_childWorkOrders member
      have above := parent.depth compiled ids routed fun input admitted => admitted.1
      have within := child.within
      rw [childDepth, maxDepth,
        admitted.2] at within
      omega
  · have addressed : root.target.id = contract.id := by
      simp only [createsEnvelope, Bool.and_eq_true, decide_eq_true_eq] at creates
      exact creates.1.1.2
    have alone : ([] ++ [contract.id]).IsChain snapshot.parentChildTree.Edge := isChain_singleton _
    refine runNodeRuntime_returns compiled alone ?_ addressed (fun given held => ?_) .root
    · rw [length_nil, Nat.zero_add]
    · cases held
      rfl

end Compiled

def leadOrder : WorkOrder where
  workOrderId := "order"
  topologyRunId := "run"
  parentWorkOrderId := none
  fromNodeId := "entry"
  target := ⟨.node, "lead"⟩
  objective := "survey"
  scope := ⟨[], []⟩
  input := []
  expectedOutputSchema := []
  successCriteria := [⟨"surveyed", "the survey answers", true, .manual, []⟩]
  permissionScope := ⟨["search"], [], ["payroll"], none⟩
  authorityScope := ⟨[], false, none⟩
  failureReportRequired := true
  delegationPath := ["node:entry", "lead"]
  createdAt := .number (.finite 0)

def leadInput : PlanChildDelegationInput where
  parentWorkOrder := leadOrder
  parentNodeId := some "lead"
  targetChildNodeIds := none
  maxDelegationDepth := none
  childObjectiveByNodeId := fun _ => none
  childInputByNodeId := fun _ => none
  childWorkOrderIdByNodeId := fun _ => none
  now := fun _ => .number (.finite 1)

def leadSnapshot : CompiledTopologySnapshot :=
  snapshotOf plainCompiler pairTopology {} (validateTopology plainPlatform pairTopology)

def chainTopology : EnterpriseTopology :=
  plainTopology [plainNode "node:lead" ["node:scout"] ["search"],
    plainNode "node:scout" ["node:clerk"] ["search"], plainNode "node:clerk" [] []]
    [⟨plainEntity "search" .active, .readOnly, none⟩] []

def chainSnapshot : CompiledTopologySnapshot :=
  snapshotOf plainCompiler chainTopology {} (validateTopology plainPlatform chainTopology)

def chainOrder : WorkOrder :=
  { leadOrder with
    target := ⟨.node, "node:lead"⟩
    delegationPath := ["node:entry", "node:lead"] }

def chainInput (order : WorkOrder) : PlanChildDelegationInput :=
  { leadInput with parentWorkOrder := order, parentNodeId := none }

lemma chain_executable : (validateTopology plainPlatform chainTopology).executable = true := by
  decide +kernel

/-- Two levels below the lead the order allows no more, and its depth is two. -/
theorem delegation_narrows_and_ends_chain :
    List.Forall (fun scout : PlannedChildWorkOrder =>
      WithinNode scout.workOrder scout.childNode ∧
      (planChildDelegation chainSnapshot (chainInput scout.workOrder)).status = .planned ∧
      List.Forall (fun clerk : PlannedChildWorkOrder =>
        Narrower clerk.workOrder chainOrder ∧
          calculateWorkOrderDelegationDepth clerk.workOrder = 2)
        (planChildDelegation chainSnapshot (chainInput scout.workOrder)).childWorkOrders)
      (planChildDelegation chainSnapshot (chainInput chainOrder)).childWorkOrders ∧
    (planChildDelegation chainSnapshot (chainInput chainOrder)).status = .planned := by
  have compiled : compileTopology plainCompiler chainTopology {} = .ok chainSnapshot :=
    compileTopology_of_executable chain_executable
  obtain ⟨planned, narrows, -, depth, -, -⟩ := delegation_narrows_and_ends compiled
  have below parent child (edge : chainSnapshot.parentChildTree.Edge parent child) :
      isNodeId child = true ∧ child ≠ "node:entry" := by
    have named : ∀ id ∈ chainTopology.nodeIds, isNodeId id = true ∧ id ≠ "node:entry" := by
      decide
    rw [compiled_tree compiled] at edge
    exact named child (step_of_edge chain_executable edge).2.1
  have routed : Routed chainSnapshot chainOrder [] := by
    refine ⟨"node:entry", by decide, by decide, fun back => ?_⟩
    obtain ⟨parent, -, edge⟩ := Relation.TransGen.tail'_iff.mp back
    exact (below parent _ edge).2 rfl
  have delegates : ∀ scout ∈
      (planChildDelegation chainSnapshot (chainInput chainOrder)).childWorkOrders,
      (planChildDelegation chainSnapshot (chainInput scout.workOrder)).status = .planned := by
    decide
  refine ⟨?_, by decide⟩
  simp only [forall_iff_forall_mem]
  intro scout member
  refine ⟨(planned _ scout member).2.2.1, delegates scout member, fun clerk member' => ?_⟩
  have first : Derived chainSnapshot (·.parentNodeId = none) chainOrder 1 scout.workOrder :=
    .child .root rfl member
  have derived : Derived chainSnapshot (·.parentNodeId = none) chainOrder 2 clerk.workOrder :=
    .child first rfl member'
  refine ⟨narrows _ _ _ _ derived, depth _ _ _ (fun input none => ?_)
    (fun parent child edge => (below parent child edge).1) routed _ _ derived⟩
  rw [OwnNode, parentId, none, Option.getD_none]

/-- The scout is given a data domain that its compiled node does not allow. -/
theorem scout_keeps_dataDomain :
    ¬∀ planned ∈ (planChildDelegation leadSnapshot leadInput).childWorkOrders,
      ∀ scope ∈ leadSnapshot.toolScopeIndex.get? planned.childNodeId,
        ∀ domain ∈ planned.workOrder.permissionScope.dataDomainIds,
          domain ∈ scope.effectiveDataDomainIds := by
  decide

end Knowbee.TopologyRuntime
