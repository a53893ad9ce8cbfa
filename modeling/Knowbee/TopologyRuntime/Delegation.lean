import Knowbee.Topology.Compiler

/-!
# Delegation in the topology runtime

`delegation-planner.ts`, and the recursion of `child-dispatcher.ts` and
`node-runtime.ts` over it: a work order is delegated to the compiled direct children of
its node, and the runtime of each child delegates on.  The depth of an order is read off
its delegation path.
-/

namespace Knowbee.TopologyRuntime

open Knowbee.Topology

inductive WorkOrderTargetType where
  | node | enterpriseTool | enterpriseSystem | position | person | orgUnit
  deriving DecidableEq

structure WorkOrderTarget where
  type : WorkOrderTargetType
  id : String

structure WorkOrderScope where
  (included excluded : List String)

inductive SuccessCriterionValidationKind where
  | manual | schema | evidence | tool | policy

structure WorkOrderSuccessCriterion where
  (criterionId description : String)
  required : Bool
  validationKind : SuccessCriterionValidationKind
  metadata : Metadata

inductive RiskLevel where
  | low | medium | high | critical | unknown

structure PermissionScope where
  (allowedToolIds allowedSystemIds dataDomainIds : List String)
  riskLevel : Option RiskLevel

structure AuthorityScope where
  requiredAuthorityRuleIds : List String
  approvalRequired : Bool
  approvedBy : Option (List EntityRef)

structure WorkOrder where
  (workOrderId topologyRunId : String)
  parentWorkOrderId : Option String
  fromNodeId : String
  target : WorkOrderTarget
  objective : String
  scope : WorkOrderScope
  (input expectedOutputSchema : Metadata)
  successCriteria : List WorkOrderSuccessCriterion
  permissionScope : PermissionScope
  authorityScope : AuthorityScope
  failureReportRequired : Bool
  delegationPath : List String
  createdAt : Timestamp

def defaultTopologyRuntimeMaxDelegationDepth : Nat := 5

def isNodeId (item : String) : Bool := "node:".toList.isPrefixOf item.toList

/-- `Array.prototype.lastIndexOf`, where the item is in the list. -/
def lastIndexOf (items : List String) (item : String) : Option Nat :=
  (items.reverse.idxOf? item).map fun index => items.length - 1 - index

def calculateWorkOrderDelegationDepth (workOrder : WorkOrder) : Nat :=
  let nodePath := workOrder.delegationPath.filter isNodeId
  match lastIndexOf nodePath workOrder.target.id with
  | none => nodePath.length - 1
  | some targetIndex =>
    let originOffset :=
      if nodePath.length > 1 ∧ nodePath.head? ≠ some workOrder.target.id then 1 else 0
    targetIndex - originOffset

/-- A character that an id of a work order keeps. -/
def isIdCharacter (c : Char) : Bool := c.isAlphanum || c = ':' || c = '_' || c = '-'

/-- `replace(/[^A-Za-z0-9:_-]/g, "_")`; a character of two units becomes two. -/
def sanitizeNodeId (nodeId : String) : String :=
  String.ofList (nodeId.toList.flatMap fun c =>
    if isIdCharacter c then [c] else List.replicate (charUnits c).length '_')

def buildChildWorkOrderId (parentWorkOrder : WorkOrder) (childNodeId : String) : String :=
  parentWorkOrder.workOrderId ++ ":child:" ++ sanitizeNodeId childNodeId

def appendDelegationPath (path : List String) (childNodeId : String) : List String :=
  if path.getLast? = some childNodeId then path else path ++ [childNodeId]

/-- The data domains are not narrowed. -/
def narrowPermissionScopeToChild (parentPermissionScope : PermissionScope)
    (childNode : CompiledNode) : PermissionScope :=
  { parentPermissionScope with
    allowedToolIds :=
      parentPermissionScope.allowedToolIds.filter (· ∈ childNode.node.allowedToolIds)
    allowedSystemIds :=
      parentPermissionScope.allowedSystemIds.filter (· ∈ childNode.node.allowedSystemIds) }

def normalizedMaxDelegationDepth : Option JsNumber → Nat
  | some (.finite value) =>
    if value < 0 then defaultTopologyRuntimeMaxDelegationDepth else value.floor.toNat
  | _ => defaultTopologyRuntimeMaxDelegationDepth

inductive DelegationPlanStatus where
  | planned | partly | blocked | skipped
  deriving DecidableEq

inductive DelegationPlanIssueCode where
  | parentNodeMissing | childNodeMissing | noDirectChildCandidates
  | grandchildDirectDelegationForbidden | notDirectChild | maxDelegationDepthExceeded

def DelegationPlanIssueCode.text : DelegationPlanIssueCode → String
  | .parentNodeMissing => "parent_node_missing"
  | .childNodeMissing => "child_node_missing"
  | .noDirectChildCandidates => "no_direct_child_candidates"
  | .grandchildDirectDelegationForbidden => "grandchild_direct_delegation_forbidden"
  | .notDirectChild => "not_direct_child"
  | .maxDelegationDepthExceeded => "max_delegation_depth_exceeded"

structure DelegationPlanIssue where
  code : DelegationPlanIssueCode
  (message parentNodeId : String)
  childNodeId : Option String

structure ChildDelegationCandidate where
  parentNodeId : String
  childNode : CompiledNode
  delegationDepth : Nat
  reasonCodes : List String

structure PlannedChildWorkOrder where
  (parentNodeId childNodeId : String)
  childNode : CompiledNode
  workOrder : WorkOrder
  delegationDepth : Nat
  reasonCodes : List String

structure DelegationPlan where
  ok : Bool
  status : DelegationPlanStatus
  (parentNodeId parentWorkOrderId : String)
  (parentDelegationDepth childDelegationDepth maxDelegationDepth : Nat)
  directChildCandidates : List ChildDelegationCandidate
  childWorkOrders : List PlannedChildWorkOrder
  skipped : List DelegationPlanIssue
  reasonCodes : List String

/-- The input of a plan; `now` is what the clock shows for each child in turn. -/
structure PlanChildDelegationInput where
  parentWorkOrder : WorkOrder
  parentNodeId : Option String
  targetChildNodeIds : Option (List String)
  maxDelegationDepth : Option JsNumber
  childObjectiveByNodeId : String → Option String
  childInputByNodeId : String → Option Metadata
  childWorkOrderIdByNodeId : String → Option String
  now : Nat → Timestamp

def getCompiledChildCandidates (snapshot : CompiledTopologySnapshot) (nodeId : String) :
    List CompiledNode :=
  (valuesOf snapshot.parentChildTree.edges nodeId).filterMap snapshot.nodeIndex.get?

def listDirectChildDelegationCandidates (snapshot : CompiledTopologySnapshot)
    (parentNodeId : String) (parentWorkOrder : WorkOrder) : List ChildDelegationCandidate :=
  (getCompiledChildCandidates snapshot parentNodeId).map fun childNode =>
    { parentNodeId
      childNode
      delegationDepth := calculateWorkOrderDelegationDepth parentWorkOrder + 1
      reasonCodes := ["compiled_direct_child_candidate", s!"parent_node:{parentNodeId}",
        s!"child_node:{childNode.node.id}"] }

def isDescendantButNotDirect (snapshot : CompiledTopologySnapshot)
    (parentNodeId childNodeId : String) : Bool :=
  match snapshot.delegationScopeMap.get? parentNodeId with
  | none => false
  | some scope => childNodeId ∈ scope.descendantNodeIds && childNodeId ∉ scope.directChildNodeIds

/-- `buildChildWorkOrder`; the depth it is given is not part of the order. -/
def buildChildWorkOrder (input : PlanChildDelegationInput) (parentNodeId : String)
    (childNodeId : String) (childNode : CompiledNode) (createdAt : Timestamp) : WorkOrder :=
  let parentWorkOrder := input.parentWorkOrder
  { workOrderId := (input.childWorkOrderIdByNodeId childNodeId).getD
      (buildChildWorkOrderId parentWorkOrder childNode.node.id)
    __ := parentWorkOrder
    parentWorkOrderId := some parentWorkOrder.workOrderId
    fromNodeId := parentNodeId
    target := ⟨.node, childNode.node.id⟩
    objective := (input.childObjectiveByNodeId childNodeId).getD parentWorkOrder.objective
    input := (input.childInputByNodeId childNodeId).getD parentWorkOrder.input
    permissionScope := narrowPermissionScopeToChild parentWorkOrder.permissionScope childNode
    delegationPath := appendDelegationPath parentWorkOrder.delegationPath childNode.node.id
    createdAt }

section Plan

variable (snapshot : CompiledTopologySnapshot) (input : PlanChildDelegationInput)

def PlanChildDelegationInput.parentId : String :=
  input.parentNodeId.getD input.parentWorkOrder.target.id

def PlanChildDelegationInput.childDepth : Nat :=
  calculateWorkOrderDelegationDepth input.parentWorkOrder + 1

def PlanChildDelegationInput.maxDepth : Nat := normalizedMaxDelegationDepth input.maxDelegationDepth

/-- A turn of the loop over the requested children, after `count` of them were planned. -/
def planChild (directChildIds : List String) (count : Nat) (childNodeId : String) :
    Except DelegationPlanIssue PlannedChildWorkOrder :=
  match snapshot.nodeIndex.get? childNodeId with
  | none => .error ⟨.childNodeMissing,
      "Requested child node is not present in compiled topology snapshot.", input.parentId,
      some childNodeId⟩
  | some childNode =>
    if childNodeId ∉ directChildIds then
      .error ⟨if isDescendantButNotDirect snapshot input.parentId childNodeId then
          .grandchildDirectDelegationForbidden else .notDirectChild,
        "Topology runtime can delegate only to compiled direct child nodes.", input.parentId,
        some childNodeId⟩
    else if input.childDepth > input.maxDepth then
      .error ⟨.maxDelegationDepthExceeded,
        "Delegation depth exceeds the topology runtime depth guard.", input.parentId,
        some childNodeId⟩
    else
      let workOrder := buildChildWorkOrder input input.parentId childNodeId childNode (input.now count)
      .ok
        { parentNodeId := input.parentId
          childNodeId
          childNode
          workOrder
          delegationDepth := input.childDepth
          reasonCodes := ["child_work_order_planned",
            s!"parent_work_order:{input.parentWorkOrder.workOrderId}",
            s!"child_work_order:{workOrder.workOrderId}"] }

/-- The loop, with what was planned and skipped before. -/
def planChildren (directChildIds : List String) :
    List String → List PlannedChildWorkOrder → List DelegationPlanIssue →
      List PlannedChildWorkOrder × List DelegationPlanIssue
  | [], childWorkOrders, skipped => (childWorkOrders, skipped)
  | childNodeId :: rest, childWorkOrders, skipped =>
    match planChild snapshot input directChildIds childWorkOrders.length childNodeId with
    | .error issue => planChildren directChildIds rest childWorkOrders (skipped ++ [issue])
    | .ok planned => planChildren directChildIds rest (childWorkOrders ++ [planned]) skipped

def finalizePlan (statusWhenNoChild : DelegationPlanStatus)
    (directChildCandidates : List ChildDelegationCandidate)
    (childWorkOrders : List PlannedChildWorkOrder) (skipped : List DelegationPlanIssue)
    (reasonCodes : List String) : DelegationPlan :=
  let status : DelegationPlanStatus :=
    if childWorkOrders.length > 0 ∧ skipped.length > 0 then .partly
    else if childWorkOrders.length > 0 then .planned
    else statusWhenNoChild
  { ok := decide (childWorkOrders.length > 0) || status = .skipped
    status
    parentNodeId := input.parentId
    parentWorkOrderId := input.parentWorkOrder.workOrderId
    parentDelegationDepth := calculateWorkOrderDelegationDepth input.parentWorkOrder
    childDelegationDepth := input.childDepth
    maxDelegationDepth := input.maxDepth
    directChildCandidates
    childWorkOrders
    skipped
    reasonCodes := setAdd [] reasonCodes }

def planChildDelegation : DelegationPlan :=
  if (snapshot.nodeIndex.get? input.parentId).isNone then
    finalizePlan input .blocked [] []
      [⟨.parentNodeMissing, "Parent node is not present in compiled topology snapshot.",
        input.parentId, none⟩]
      ["parent_node_missing"]
  else
    let candidates := listDirectChildDelegationCandidates snapshot input.parentId
      input.parentWorkOrder
    let directChildIds := candidates.map (·.childNode.node.id)
    let requestedChildNodeIds := input.targetChildNodeIds.getD directChildIds
    if requestedChildNodeIds.length = 0 then
      finalizePlan input .skipped candidates []
        [⟨.noDirectChildCandidates, "Parent node has no direct child candidates to delegate.",
          input.parentId, none⟩]
        ["no_direct_child_candidates"]
    else
      let (childWorkOrders, skipped) :=
        planChildren snapshot input directChildIds requestedChildNodeIds [] []
      finalizePlan input .blocked candidates childWorkOrders skipped
        (["compiled_direct_child_delegation_checked"] ++
          (if childWorkOrders.length > 0 then ["child_work_orders_planned"] else []) ++
          skipped.map (·.code.text))

end Plan

/-- What a runtime is asked to delegate; children run with the default runner. -/
structure NodeRuntimeChildDelegationOptions where
  enabled : Bool
  childNodeContractsById : String → Option NodeContract
  targetChildNodeIds : Option (List String)
  maxDelegationDepth : Option JsNumber
  recursive : Option Bool
  childObjectiveByNodeId : String → Option String
  childInputByNodeId : String → Option Metadata
  childWorkOrderIdByNodeId : String → Option String

def childDelegationOptionsForRecursiveChild (options : NodeRuntimeChildDelegationOptions) :
    NodeRuntimeChildDelegationOptions :=
  { options with enabled := true, targetChildNodeIds := none }

/-- The checks that stand before a delegation, whatever they find: those of an envelope
beside the ones below, those of a runtime on the input, the permission and the
authority, and the clock of a runtime. -/
structure RuntimeChecks where
  (envelope runtime : WorkOrder → NodeContract → Bool)
  now : WorkOrder → Nat → Timestamp

def createsEnvelope (snapshot : CompiledTopologySnapshot) (checks : RuntimeChecks)
    (workOrder : WorkOrder) (nodeContractSnapshot : NodeContract) : Bool :=
  workOrder.target.type = .node && workOrder.target.id = nodeContractSnapshot.id &&
    (snapshot.nodeIndex.get? nodeContractSnapshot.id).isSome &&
    checks.envelope workOrder nodeContractSnapshot

def delegationInput (checks : RuntimeChecks) (options : NodeRuntimeChildDelegationOptions)
    (workOrder : WorkOrder) (nodeContractSnapshot : NodeContract) : PlanChildDelegationInput where
  parentWorkOrder := workOrder
  parentNodeId := some nodeContractSnapshot.id
  __ := options
  now := checks.now workOrder

abbrev ChildRuntimeRunner : Type := WorkOrder → NodeContract → Option (List WorkOrder)

/-- A turn of the loop of `dispatchChildWorkOrders`: the orders that are run. -/
def dispatchChildWorkOrder (snapshot : CompiledTopologySnapshot) (checks : RuntimeChecks)
    (childNodeContractsById : String → Option NodeContract) (childRunner : ChildRuntimeRunner)
    (planItem : PlannedChildWorkOrder) : Option (List WorkOrder) :=
  match childNodeContractsById planItem.childNodeId with
  | none => some []
  | some childContract =>
    if createsEnvelope snapshot checks planItem.workOrder childContract then
      (childRunner planItem.workOrder childContract).map (planItem.workOrder :: ·)
    else some []

def dispatchChildWorkOrders (snapshot : CompiledTopologySnapshot) (checks : RuntimeChecks)
    (childNodeContractsById : String → Option NodeContract) (childRunner : ChildRuntimeRunner)
    (plan : DelegationPlan) : Option (List WorkOrder) :=
  (plan.childWorkOrders.mapM
    (dispatchChildWorkOrder snapshot checks childNodeContractsById childRunner)).map List.flatten

def childDelegation (options : NodeRuntimeChildDelegationOptions) :
    Option NodeRuntimeChildDelegationOptions :=
  if options.recursive = some false then none
  else some (childDelegationOptionsForRecursiveChild options)

/-- `runNodeRuntime`: the orders that are run below an order, each before those below it;
nothing where the fuel does not suffice. -/
def runNodeRuntime (snapshot : CompiledTopologySnapshot) (checks : RuntimeChecks) :
    Nat → Option NodeRuntimeChildDelegationOptions → ChildRuntimeRunner
  | 0, _, _, _ => none
  | _ + 1, none, _, _ => some []
  | fuel + 1, some options, workOrder, nodeContractSnapshot =>
    if ¬options.enabled ∨ ¬checks.runtime workOrder nodeContractSnapshot then some []
    else
      dispatchChildWorkOrders snapshot checks options.childNodeContractsById
        (runNodeRuntime snapshot checks fuel (childDelegation options))
        (planChildDelegation snapshot
          (delegationInput checks options workOrder nodeContractSnapshot))

end Knowbee.TopologyRuntime
