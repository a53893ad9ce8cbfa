import Knowbee.TopologyRuntime.Delegation

/-!
# The checks of a node runtime

What a runtime checks before it acts (`permission-checker.ts`, `authority-checker.ts` and
the input schema of `node-runtime.ts`), and the outputs a work order expects
(`work-order.ts`).
-/

namespace Knowbee.TopologyRuntime

open Knowbee.Topology

structure RuntimeSnapshot extends CompiledTopologySnapshot where
  toolIndex : SortedMap String EnterpriseTool
  systemIndex : SortedMap String EnterpriseSystem

structure EffectiveWorkOrderPermissionScope where
  (allowedToolIds allowedSystemIds dataDomainIds : List String)
  riskLevel : Option RiskLevel
  (removedToolIds removedSystemIds removedDataDomainIds reasonCodes : List String)

/-- `intersectStable` of `work-order.ts`. -/
def intersectStable (left right : List String) : List String := left.filter (· ∈ right)

variable (workOrder : WorkOrder) (nodeContractSnapshot : NodeContract)
  (snapshot : RuntimeSnapshot)

/-- `dataDomainIdsForSystems` of `work-order.ts`. -/
def snapshotDataDomainIds (systemIds : List String) : List String :=
  setAdd [] (systemIds.flatMap fun systemId =>
    match snapshot.systemIndex.get? systemId with
    | none => []
    | some system => system.dataDomainIds)

def deriveEffectiveWorkOrderPermissionScope : EffectiveWorkOrderPermissionScope :=
  let compiledToolScope := snapshot.toolScopeIndex.get? nodeContractSnapshot.id
  let nodeAllowedToolIds := (compiledToolScope.map (·.effectiveToolIds)).getD
    nodeContractSnapshot.allowedToolIds
  let nodeAllowedSystemIds := (compiledToolScope.map (·.effectiveSystemIds)).getD
    nodeContractSnapshot.allowedSystemIds
  let nodeAllowedDataDomainIds := (compiledToolScope.map (·.effectiveDataDomainIds)).getD
    (snapshotDataDomainIds snapshot nodeAllowedSystemIds)
  let scope := workOrder.permissionScope
  let allowedToolIds := intersectStable scope.allowedToolIds nodeAllowedToolIds
  let allowedSystemIds := intersectStable scope.allowedSystemIds nodeAllowedSystemIds
  let dataDomainIds := intersectStable scope.dataDomainIds nodeAllowedDataDomainIds
  let removedToolIds := scope.allowedToolIds.filter (· ∉ allowedToolIds)
  let removedSystemIds := scope.allowedSystemIds.filter (· ∉ allowedSystemIds)
  let removedDataDomainIds := scope.dataDomainIds.filter (· ∉ dataDomainIds)
  { allowedToolIds
    allowedSystemIds
    dataDomainIds
    riskLevel := scope.riskLevel
    removedToolIds
    removedSystemIds
    removedDataDomainIds
    reasonCodes := ["permission_scope_narrowed_to_node_contract"] ++
      (if compiledToolScope.isSome then ["permission_scope_narrowed_to_compiled_tool_scope"] else []) ++
      (if removedToolIds.length > 0 then ["work_order_tool_scope_reduced"] else []) ++
      (if removedSystemIds.length > 0 then ["work_order_system_scope_reduced"] else []) ++
      (if removedDataDomainIds.length > 0 then ["work_order_data_domain_scope_reduced"] else []) }

structure NodeRuntimePermissionDecision where
  allowed : Bool
  reasonCode : String
  (missingToolIds missingSystemIds missingDataDomainIds : List String)
  effectivePermissionScope : EffectiveWorkOrderPermissionScope
  reasonCodes : List String

def checkNodeRuntimePermission : NodeRuntimePermissionDecision :=
  let scope := deriveEffectiveWorkOrderPermissionScope workOrder nodeContractSnapshot snapshot
  let denied : Bool := scope.removedToolIds.length > 0 || scope.removedSystemIds.length > 0 ||
    scope.removedDataDomainIds.length > 0
  { allowed := !denied
    reasonCode := if denied then "permission_scope_denied" else "permission_scope_allowed"
    missingToolIds := scope.removedToolIds
    missingSystemIds := scope.removedSystemIds
    missingDataDomainIds := scope.removedDataDomainIds
    effectivePermissionScope := scope
    reasonCodes := scope.reasonCodes ++
      [if denied then "node_runtime_permission_denied" else "node_runtime_permission_allowed"] }

structure WorkOrderAuthorityPreflightInput where
  grantedAuthorityRuleIds : List String := []
  deniedAuthorityRuleIds : List String := []
  approvedBy : Option (List EntityRef) := none

inductive AuthorityDecisionStatus where
  | notRequired | approved | denied

structure WorkOrderAuthorityDecision where
  allowed : Bool
  status : AuthorityDecisionStatus
  reasonCode : String
  (requiredAuthorityRuleIds grantedAuthorityRuleIds deniedAuthorityRuleIds : List String)
  missingAuthorityRuleIds : List String
  approvedBy : List EntityRef

def evaluateWorkOrderAuthorityPreflight (input : WorkOrderAuthorityPreflightInput) :
    WorkOrderAuthorityDecision :=
  let scope := workOrder.authorityScope
  let missingAuthorityRuleIds :=
    scope.requiredAuthorityRuleIds.filter (· ∉ input.grantedAuthorityRuleIds)
  let approvedBy := (input.approvedBy.or scope.approvedBy).getD []
  let decide (allowed : Bool) (status : AuthorityDecisionStatus) (reasonCode : String) :
      WorkOrderAuthorityDecision :=
    { allowed
      status
      reasonCode
      requiredAuthorityRuleIds := scope.requiredAuthorityRuleIds
      __ := input
      missingAuthorityRuleIds
      approvedBy }
  if input.deniedAuthorityRuleIds.length > 0 then decide false .denied "authority_rule_denied"
  else if missingAuthorityRuleIds.length > 0 then
    decide false .denied "required_authority_rule_missing"
  else if scope.approvalRequired ∧ approvedBy.length = 0 then
    decide false .denied "approval_required_without_approver"
  else if scope.approvalRequired then decide true .approved "authority_preflight_approved"
  else decide true .notRequired "authority_preflight_not_required"

inductive ExpectedOutputKind where
  | toolResult | dataPackage | artifact | stateChange | text

def ExpectedOutputKind.name : ExpectedOutputKind → String
  | .toolResult => "tool_result"
  | .dataPackage => "data_package"
  | .artifact => "artifact"
  | .stateChange => "state_change"
  | .text => "text"

structure ExpectedOutputContract where
  outputId : String
  kind : ExpectedOutputKind
  required : Bool

def expectedSchemaOutputId : String :=
  workOrder.workOrderId ++ ":expected-output-schema"

def expectedOutputKindForSuccessCriterion : SuccessCriterionValidationKind → ExpectedOutputKind
  | .tool => .toolResult
  | .schema => .dataPackage
  | .evidence => .artifact
  | .policy => .stateChange
  | .manual => .text

def successCriterionToExpectedOutputContract (criterion : WorkOrderSuccessCriterion) :
    ExpectedOutputContract where
  outputId := criterion.criterionId
  kind := expectedOutputKindForSuccessCriterion criterion.validationKind
  required := criterion.required

def buildExpectedOutputsForWorkOrder : List ExpectedOutputContract :=
  ⟨expectedSchemaOutputId workOrder, .dataPackage, true⟩ ::
    workOrder.successCriteria.map successCriterionToExpectedOutputContract

/-- An envelope as `createWorkOrderRuntimeEnvelope` makes it. -/
structure WorkOrderRuntimeEnvelope where
  workOrder : WorkOrder
  nodeContractSnapshot : NodeContract
  authorityPreflight : WorkOrderAuthorityPreflightInput := {}

variable (envelope : WorkOrderRuntimeEnvelope)

def WorkOrderRuntimeEnvelope.expectedOutputs : List ExpectedOutputContract :=
  buildExpectedOutputsForWorkOrder envelope.workOrder

def WorkOrderRuntimeEnvelope.authorityDecision : WorkOrderAuthorityDecision :=
  evaluateWorkOrderAuthorityPreflight envelope.workOrder envelope.authorityPreflight

/-- A runtime's own preflight comes before the decision of the envelope. -/
def checkNodeRuntimeAuthority (authorityPreflight : Option WorkOrderAuthorityPreflightInput) :
    WorkOrderAuthorityDecision :=
  match authorityPreflight with
  | none => envelope.authorityDecision
  | some preflight => evaluateWorkOrderAuthorityPreflight envelope.workOrder preflight

def requiredKey : MetadataValue → Option String
  | .text key => if jsTrim key = "" then none else some key
  | _ => none

def requiredKeys (schema : Metadata) : List String :=
  match schema.get? "required" with
  | some (.list items) => items.filterMap requiredKey
  | _ => []

def enterpriseValueMatchesSchemaType (value : MetadataValue) (expectedType : String) : Bool :=
  if expectedType = "string" then
    match value with
    | .text _ => true
    | _ => false
  else if expectedType = "number" then
    match value with
    | .number (.finite _) => true
    | _ => false
  else if expectedType = "integer" then
    match value with
    | .number (.finite number) => number.isInt
    | _ => false
  else if expectedType = "boolean" then
    match value with
    | .boolean _ => true
    | _ => false
  else if expectedType = "object" then
    match value with
    | .record _ => true
    | _ => false
  else if expectedType = "array" then
    match value with
    | .list _ => true
    | _ => false
  else if expectedType = "null" then
    match value with
    | .null => true
    | _ => false
  else true

structure NodeRuntimeInputValidationIssue where
  (path reasonCode message : String)

/-- A field of metadata read with `??`, which passes over null. -/
def presentField (metadata : Metadata) (key : String) : Option MetadataValue :=
  match metadata.get? key with
  | some .null => none
  | found => found

def getNodeRuntimeInputSchema : Option Metadata :=
  let metadata := nodeContractSnapshot.metadata
  match presentField metadata "inputSchema" with
  | some inputSchema => inputSchema.asRecord?
  | none => (metadata.get? "runtimeInputSchema").bind MetadataValue.asRecord?

def propertyIssue (input : Metadata) (property : String × MetadataValue) :
    Option NodeRuntimeInputValidationIssue :=
  match property.2.asRecord?, input.get? property.1 with
  | some propertySchema, some value =>
    match propertySchema.get? "type" with
    | some (.text expectedType) =>
      if enterpriseValueMatchesSchemaType value expectedType then none
      else some ⟨"$.input." ++ property.1, "input_field_type_mismatch",
        s!"Input field {property.1} must be {expectedType}."⟩
    | _ => none
  | _, _ => none

def isObjectType : MetadataValue → Bool
  | .text value => value = "object"
  | _ => false

def validateNodeRuntimeInputSchema (workOrder : WorkOrder) : List NodeRuntimeInputValidationIssue :=
  match getNodeRuntimeInputSchema nodeContractSnapshot with
  | none => []
  | some schema =>
    (match schema.get? "type" with
      | none => []
      | some type =>
        if isObjectType type then []
        else [⟨"$.metadata.inputSchema.type", "input_schema_unsupported_type",
          "Node runtime input schema must describe an object input."⟩]) ++
    ((requiredKeys schema).filterMap fun key =>
      match workOrder.input.get? key with
      | some _ => none
      | none => some ⟨"$.input." ++ key, "input_required_field_missing",
          s!"Required input field {key} is missing."⟩) ++
    (((schema.get? "properties").bind MetadataValue.asRecord?).getD []).filterMap
      (propertyIssue workOrder.input)

end Knowbee.TopologyRuntime
