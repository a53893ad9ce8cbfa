import Knowbee.Topology.Deletion
import Knowbee.TopologyRuntime.DelegationSound
import Knowbee.TopologyRuntime.Dispatch

/-!
# Planned tools and the relations of the topology

From a topology to the tools that a node may call: the compiler reads the relations of the
node, `resolveAllowedNodeTools` meets them with the work order, and the plan takes each
request in turn.  A tool can be granted in two ways, by `uses_tool` and by `has_access_to`;
only the first also declares the system behind the tool.
-/

namespace Knowbee.TopologyRuntime

open Knowbee.Topology List

/-- `compileTopology`: the indexes of tools and systems. -/
def runtimeSnapshot (topology : EnterpriseTopology) (snapshot : CompiledTopologySnapshot) :
    RuntimeSnapshot :=
  { snapshot with
    toolIndex := fromEntries (topology.tools.map fun tool => (tool.id, tool))
    systemIndex := fromEntries (topology.systems.map fun system => (system.id, system)) }

def GrantsTool (relation : EnterpriseRelation) (toolId : String) : Prop :=
  (relation.relationType = .usesTool ∨ relation.relationType = .hasAccessTo) ∧
    relation.target = ⟨.enterpriseTool, toolId⟩

/-- The relation names the system, or uses a tool that the system backs. -/
def DeclaresSystem (tools : List EnterpriseTool) (relation : EnterpriseRelation)
    (systemId : String) : Prop :=
  (relation.relationType = .usesSystem ∨ relation.relationType = .hasAccessTo) ∧
      relation.target = ⟨.enterpriseSystem, systemId⟩ ∨
    relation.relationType = .usesTool ∧ ∃ tool ∈ tools,
      relation.target = ⟨.enterpriseTool, tool.id⟩ ∧ tool.systemId = some systemId

def GivenTo (topology : EnterpriseTopology) (nodeId : String)
    (given : EnterpriseRelation → String → Prop) (id : String) : Prop :=
  ∃ relation ∈ topology.relations, relation.source = ⟨.node, nodeId⟩ ∧ given relation id

/-- What a request is planned on; of the system behind the tool it also asks `Declared`. -/
structure Plannable (Declared : String → Prop) (topology : EnterpriseTopology)
    (node : NodeContract) (scope : PermissionScope) (input : PlanNodeToolExecutionInput)
    (toolId : String) (tool : EnterpriseTool) : Prop where
  known : tool ∈ topology.tools
  own : tool.id = toolId
  ordered : toolId ∈ scope.allowedToolIds
  allowed : toolId ∈ node.allowedToolIds
  granted : GivenTo topology node.id GrantsTool toolId
  backed : ∀ systemId ∈ tool.systemId, systemId ∈ scope.allowedSystemIds ∧
    systemId ∈ node.allowedSystemIds ∧ Declared systemId
  approval : isApprovalRequiredToolType tool.toolType = true →
    input.approvalDecisionsByToolId toolId = some .approved

/-- The requests of a plan, which are the allowed tools if none are given, are answered in
order: each by a call or by an issue about its tool, and by a call where it is to be planned. -/
def PlansExactly (Declared : String → Prop) (topology : EnterpriseTopology)
    (compiled : CompiledTopologySnapshot) (node : NodeContract) (workOrder : WorkOrder)
    (input : PlanNodeToolExecutionInput) : Prop :=
  let snapshot := runtimeSnapshot topology compiled
  let allowed := resolveAllowedNodeTools snapshot node workOrder
  let plan := planNodeToolExecution snapshot node workOrder input
  let Planned := fun request : NodeToolRequest =>
    Exists (Plannable Declared topology node workOrder.permissionScope input request.toolId)
  ∃ outcomes : List (Except NodeToolPlanIssue PlannedNodeToolCall),
    Forall₂ (fun request outcome => match outcome with
        | .ok call => call.toolId = request.toolId ∧ Planned request
        | .error issue => issue.toolId = request.toolId ∧ ¬Planned request)
      (input.toolRequests.getD (allowed.allowedToolIds.map fun toolId => ⟨toolId, none, none⟩))
      outcomes ∧
    plan.toolCalls = outcomes.filterMap (·.toOption) ∧
    plan.blocked = outcomes.filterMap fun
      | .error issue => some issue
      | .ok _ => none

section Scope

variable {topology : EnterpriseTopology} {nodeId : String}

lemma mem_declaredToolIds {toolId : String} :
    toolId ∈ (toolScopeBuilder topology nodeId).declaredToolIds ↔
      GivenTo topology nodeId GrantsTool toolId := by
  refine mem_toolScopeBuilder (·.declaredToolIds) (fun builder relation id => ?_) rfl
  unfold ToolScopeBuilder.add EnterpriseRelation.grants GrantsTool
  cases relation.target with | mk kind own =>
  simp only [Bool.and_eq_true, decide_eq_true_eq, EntityRef.mk.injEq]
  split_ifs with tool system access systemAccess
  · simp [tool, eq_comm]
  · simp [system]
  · simp [access, eq_comm]
  · simp [systemAccess]
  · tauto

lemma entityById?_eq_some {tools : List EnterpriseTool} (distinct : (tools.map (·.id)).Nodup)
    {id : String} {tool : EnterpriseTool} :
    entityById? (·.id) tools id = some tool ↔ tool ∈ tools ∧ tool.id = id := by
  unfold entityById?
  constructor
  · intro found
    exact ⟨mem_reverse.mp (mem_of_find?_eq_some found), by simpa using find?_some found⟩
  · rintro ⟨member, rfl⟩
    have listed : (tools.reverse.find? (·.id = tool.id)).isSome = true :=
      find?_isSome.mpr ⟨tool, mem_reverse.mpr member, decide_eq_true rfl⟩
    obtain ⟨other, found⟩ := Option.isSome_iff_exists.mp listed
    have same : other = tool := inj_on_of_nodup_map distinct
      (mem_reverse.mp (mem_of_find?_eq_some found)) member (by simpa using find?_some found)
    exact found.trans (congrArg some same)

lemma mem_declaredSystems (distinct : (topology.tools.map (·.id)).Nodup) {systemId : String} :
    systemId ∈ (toolScopeBuilder topology nodeId).declaredSystemIds ++
        (toolScopeBuilder topology nodeId).backingSystemIds ↔
      GivenTo topology nodeId (DeclaresSystem topology.tools) systemId := by
  refine mem_toolScopeBuilder (fun builder => builder.declaredSystemIds ++ builder.backingSystemIds)
    (fun builder relation id => ?_) rfl
  unfold ToolScopeBuilder.add EnterpriseRelation.grants DeclaresSystem
  cases relation.target with | mk kind own =>
  simp only [Bool.and_eq_true, decide_eq_true_eq, EntityRef.mk.injEq, mem_append]
  split_ifs with tool system access systemAccess
  · simp [tool, Option.bind_eq_some_iff, entityById?_eq_some distinct, and_assoc, or_assoc,
      @eq_comm _ own]
  · simp [system, eq_comm, or_right_comm]
  · simp [access]
  · simp [systemAccess, eq_comm, or_right_comm]
  · tauto

end Scope

section Compiled

variable {platform : CompilerPlatform} {topology : EnterpriseTopology}
  {options : CompileTopologyOptions} {compiled : CompiledTopologySnapshot} {node : NodeContract}

lemma approvalStatus_iff {decision : Option ApprovalDecision} {required : Bool} :
    (approvalStatusForTool decision required ≠ .denied ∧
      approvalStatusForTool decision required ≠ .missing) ↔
        (required = true → decision = some .approved) := by
  unfold approvalStatusForTool
  cases required with
  | false => simp
  | true =>
    cases decision with
    | none => simp
    | some decision => cases decision <;> simp

variable (accepted : compileTopology platform topology options = .ok compiled)
include accepted

lemma toolIds_nodup : (topology.tools.map (·.id)).Nodup :=
  have member : ("tools", EntityType.enterpriseTool, topology.tools.map (·.id)) ∈
      topologyEntityCollections topology := by simp [topologyEntityCollections]
  collectionIds_nodup (entityIds_nodup (compiled_eq accepted).1) member

lemma get?_toolIndex {toolId : String} {tool : EnterpriseTool} :
    (runtimeSnapshot topology compiled).toolIndex.get? toolId = some tool ↔
      tool ∈ topology.tools ∧ tool.id = toolId := by
  constructor
  · intro found
    obtain ⟨_, member, same⟩ := mem_map.mp (mem_of_get?_fromEntries found)
    cases same
    exact ⟨member, rfl⟩
  · rintro ⟨member, rfl⟩
    refine get?_fromEntries ?_ (mem_map_of_mem member)
    rw [map_map]
    exact toolIds_nodup accepted

variable (member : node ∈ topology.nodes)
include member

lemma get?_toolScopeIndex :
    compiled.toolScopeIndex.get? node.id = some (buildToolScope topology node) := by
  obtain ⟨executable, rfl⟩ := compiled_eq accepted
  refine get?_fromEntries ?_ (mem_map_of_mem member)
  rw [map_map]
  exact nodeIds_nodup (entityIds_nodup executable)

variable (workOrder : WorkOrder)

lemma mem_allowedToolIds {toolId : String} :
    toolId ∈ (resolveAllowedNodeTools (runtimeSnapshot topology compiled) node
        workOrder).allowedToolIds ↔
      toolId ∈ workOrder.permissionScope.allowedToolIds ∧ toolId ∈ node.allowedToolIds ∧
        GivenTo topology node.id GrantsTool toolId := by
  unfold resolveAllowedNodeTools runtimeSnapshot
  simp only [get?_toolScopeIndex accepted member, Option.map_some, Option.getD_some, mem_setAdd,
    not_mem_nil, false_or, mem_filter, decide_eq_true_eq, buildToolScope, mem_declaredToolIds]

lemma mem_allowedSystemIds {systemId : String} :
    systemId ∈ (resolveAllowedNodeTools (runtimeSnapshot topology compiled) node
        workOrder).allowedSystemIds ↔
      systemId ∈ workOrder.permissionScope.allowedSystemIds ∧ systemId ∈ node.allowedSystemIds ∧
        GivenTo topology node.id (DeclaresSystem topology.tools) systemId := by
  rw [← mem_declaredSystems (toolIds_nodup accepted), mem_append]
  unfold resolveAllowedNodeTools runtimeSnapshot
  simp only [get?_toolScopeIndex accepted member, Option.map_some, Option.getD_some, mem_setAdd,
    not_mem_nil, false_or, mem_filter, decide_eq_true_eq, buildToolScope]

/-- **A tool is planned exactly where the topology, the node, the work order and the approvals
allow it.**  The system behind a tool must also be declared for the node, by a relation that
names it or by `uses_tool`; that a relation gives access to the tool is not enough. -/
theorem tool_plan_exact (input : PlanNodeToolExecutionInput) :
    PlansExactly (GivenTo topology node.id (DeclaresSystem topology.tools)) topology compiled node
      workOrder input := by
  refine ⟨map (planToolCall (runtimeSnapshot topology compiled) node workOrder input _) _,
    forall₂_map_right_iff.mpr (forall₂_same.mpr fun request _ => ?_), by rw [filterMap_map]; rfl,
    by rw [filterMap_map]; rfl⟩
  unfold planToolCall
  cases found : (runtimeSnapshot topology compiled).toolIndex.get? request.toolId with
  | none =>
    refine ⟨rfl, fun ⟨tool, plannable⟩ => ?_⟩
    cases found.symm.trans ((get?_toolIndex accepted).mpr ⟨plannable.known, plannable.own⟩)
  | some tool =>
    obtain ⟨known, own⟩ := (get?_toolIndex accepted).mp found
    have only {other : EnterpriseTool} {Declared : String → Prop} (plannable : Plannable Declared
        topology node workOrder.permissionScope input request.toolId other) : other = tool :=
      inj_on_of_nodup_map (toolIds_nodup accepted) plannable.known known
        (plannable.own.trans own.symm)
    simp only
    split_ifs with inside unbacked denied missing
    · refine ⟨rfl, fun ⟨other, plannable⟩ => ?_⟩
      cases only plannable
      obtain ⟨systemId, behind, refused⟩ := (Option.any_eq_true _ _).mp unbacked
      exact of_decide_eq_true refused
        ((mem_allowedSystemIds accepted member workOrder).mpr (plannable.backed systemId behind))
    · refine ⟨rfl, fun ⟨other, plannable⟩ => ?_⟩
      cases only plannable
      exact (approvalStatus_iff.mpr plannable.approval).1 denied
    · refine ⟨rfl, fun ⟨other, plannable⟩ => ?_⟩
      cases only plannable
      exact (approvalStatus_iff.mpr plannable.approval).2 missing
    · obtain ⟨ordered, allowed, granted⟩ := (mem_allowedToolIds accepted member workOrder).mp inside
      refine ⟨rfl, tool, known, own, ordered, allowed, granted, fun systemId behind => ?_,
        approvalStatus_iff.mp ⟨denied, missing⟩⟩
      refine (mem_allowedSystemIds accepted member workOrder).mp (by_contra fun refused => ?_)
      exact unbacked
        ((Option.any_eq_true _ _).mpr ⟨systemId, behind, decide_eq_true refused⟩)
    · exact ⟨rfl, fun ⟨other, plannable⟩ => inside ((mem_allowedToolIds accepted member
        workOrder).mpr ⟨plannable.ordered, plannable.allowed, plannable.granted⟩)⟩

end Compiled

def accessNode : NodeContract :=
  { plainNode "lead" [] ["search"] with allowedSystemIds := ["ledger"] }

def ledgerTool : EnterpriseTool where
  toBaseEntity := plainEntity "search" .active
  toolType := .readOnly
  systemId := some "ledger"

section

variable (relationType : RelationType)

def accessRelation : EnterpriseRelation :=
  plainRelation "access" .active relationType ⟨.node, "lead"⟩ ⟨.enterpriseTool, "search"⟩

/-- The lead is given the tool by the relation and is allowed its system. -/
def accessTopology : EnterpriseTopology :=
  { plainTopology [accessNode] [ledgerTool] [accessRelation relationType] with
    systems := [⟨plainEntity "ledger" .active, [], .low⟩] }

def accessOrder : WorkOrder :=
  { leadOrder with permissionScope := ⟨["search"], ["ledger"], [], none⟩ }

def searchRequest : PlanNodeToolExecutionInput :=
  ⟨some [⟨"search", none, none⟩], none, fun _ => none, fun _ => none⟩

def accessSnapshot : CompiledTopologySnapshot :=
  snapshotOf plainCompiler (accessTopology relationType) {}
    (validateTopology plainPlatform (accessTopology relationType))

/-- The search is planned over the topology and the snapshot as it should be. -/
def PlansSearch : Prop :=
  PlansExactly (GivenTo (accessTopology relationType) accessNode.id
    (DeclaresSystem (accessTopology relationType).tools)) (accessTopology relationType)
    (accessSnapshot relationType) accessNode accessOrder searchRequest

def searchPlan : NodeToolExecutionPlan :=
  planNodeToolExecution
    (runtimeSnapshot (accessTopology relationType) (accessSnapshot relationType)) accessNode
    accessOrder searchRequest

end

lemma accessTopology_compiled : compileTopology plainCompiler (accessTopology .hasAccessTo) {} =
    .ok (accessSnapshot .hasAccessTo) :=
  compileTopology_of_executable (by decide)

/-- The search is planned where the relation is `uses_tool`, and blocked where it gives
access. -/
theorem tool_plan_exact_access :
    PlansSearch .hasAccessTo ∧ (searchPlan .hasAccessTo).toolCalls.length = 0 ∧
      PlansSearch .usesTool ∧ (searchPlan .usesTool).toolCalls.length = 1 :=
  ⟨tool_plan_exact accessTopology_compiled (mem_singleton_self _) accessOrder searchRequest,
    by decide, tool_plan_exact (compileTopology_of_executable (by decide)) (mem_singleton_self _)
      accessOrder searchRequest, by decide⟩

/-- The tool is granted and its system allowed, and still the request is blocked. -/
theorem access_tool_blocked :
    compileTopology plainCompiler (accessTopology .hasAccessTo) {} =
      .ok (accessSnapshot .hasAccessTo) ∧
    ¬PlansExactly (fun _ => True) (accessTopology .hasAccessTo) (accessSnapshot .hasAccessTo)
      accessNode accessOrder searchRequest := by
  refine ⟨accessTopology_compiled, ?_⟩
  rintro ⟨outcomes, answered, calls, -⟩
  have none : (searchPlan .hasAccessTo).toolCalls.length = 0 := by decide
  obtain _ | ⟨answer, _ | _⟩ := answered
  rename_i outcome
  cases outcome with
  | ok call =>
    rw [searchPlan, calls] at none
    cases none
  | error issue =>
    refine answer.2 ⟨ledgerTool, mem_singleton_self _, rfl, mem_singleton_self _,
      mem_singleton_self _, ⟨accessRelation .hasAccessTo, mem_singleton_self _, rfl, .inr rfl, rfl⟩,
      fun systemId behind => ?_, nofun⟩
    cases behind
    exact ⟨mem_singleton_self _, mem_singleton_self _, trivial⟩

end Knowbee.TopologyRuntime
