import Knowbee.Topology.Validator

/-!
# The enterprise rules

The rules on org units, positions, memberships, authority rules, permissions,
data domains, processes, responsibilities and policies, and the whole validator
with them.
-/

namespace Knowbee.Topology

/-- A `Map` from ids: the last entity of an id stays. -/
def entityById? {α : Type} (id : α → String) (entities : List α) (key : String) : Option α :=
  entities.reverse.find? (id · = key)

def relationPairKey (source target : String) : String := s!"{source}->{target}"

def refKey (reference : EntityRef) : String := s!"{reference.entityType.text}:{reference.id}"

def numberFromMetadata (metadata : Option Metadata) (key : String) : Option ℚ :=
  match metadata.bind (·.get? key) with
  | some (.number (.finite value)) => some value
  | _ => none

def stringFromMetadata (metadata : Option Metadata) (key : String) : Option String :=
  match metadata.bind (·.get? key) with
  | some (.text value) => if (jsTrim value).length > 0 then some value else none
  | _ => none

def stringArrayFromMetadata (metadata : Option Metadata) (key : String) : List String :=
  match metadata.bind (·.get? key) with
  | some (.list items) => items.filterMap fun
    | .text value => if (jsTrim value).length > 0 then some value else none
    | _ => none
  | _ => []

def dataDomainIdsFromRelation (relation : EnterpriseRelation) : List String :=
  stringArrayFromMetadata relation.scope "dataDomainIds" ++
    stringArrayFromMetadata relation.condition "dataDomainIds"

def finite? : JsNumber → Option ℚ
  | .finite value => some value
  | _ => none

def maxNumber (values : List (Option JsNumber)) : Option ℚ :=
  (values.filterMap (·.bind finite?)).max?

variable (platform : Platform)

def timestampToMillis : Timestamp → Option ℚ
  | .number value => finite? value
  | .text value => platform.parseDate value

/-- An entity with the one above it. -/
structure HierarchyEntry where
  id : String
  parent : Option String

/-- What differs between the two hierarchies. -/
structure HierarchyRule where
  (key field : String)
  code : IssueCode
  describe : String
  entityType : EntityType

/-- Follow the parents of an entry up to one that is on the path. -/
def visitHierarchy (rule : HierarchyRule) (entries : List HierarchyEntry) :
    Nat → HierarchyEntry → List String → Reported → Reported
  | 0, _, _, state => state
  | fuel + 1, entry, path, state =>
    match entry.parent with
    | none => state
    | some parentId =>
      match entityById? HierarchyEntry.id entries parentId with
      | none => state
      | some parent =>
        if parentId ∈ path then
          let cycle := path.dropWhile (· ≠ parentId) ++ [parentId]
          let key := ">".intercalate cycle
          if key ∈ state.1 then state
          else
            let index := (entries.zipIdx.reverse.find? (·.1.id = entry.id)).map Prod.snd
            (state.1 ++ [key], state.2 ++ [{
              path := match index with
                | none => s!"$.{rule.key}"
                | some index => s!"$.{rule.key}[{index}].{rule.field}"
              code := rule.code
              severity := .invalid
              message := rule.describe ++ " contains a cycle: " ++ " -> ".intercalate cycle ++ "."
              entityId := some entry.id
              entityType := some rule.entityType
              refId := some parentId
              refType := some rule.entityType }])
        else visitHierarchy rule entries fuel parent (path ++ [parentId]) state

def orgUnitRule : HierarchyRule :=
  ⟨"orgUnits", "parentOrgUnitId", .orgUnitHierarchyCycle, "OrgUnit hierarchy", .orgUnit⟩

def positionRule : HierarchyRule :=
  ⟨"positions", "reportsToPositionId", .positionReportsToCycle, "Position reports_to hierarchy",
    .position⟩

variable (topology : EnterpriseTopology)

def validateOrgUnitHierarchy : List TopologyValidatorIssue :=
  let entries := topology.orgUnits.map fun orgUnit => ⟨orgUnit.id, orgUnit.parentOrgUnitId⟩
  (entries.foldl (fun state entry =>
    visitHierarchy orgUnitRule entries (entries.length + 1) entry [entry.id] state) ([], [])).2

/-- Follow the parents of an org unit, each at most once. -/
def isSameOrAncestorOrgUnit (possibleAncestorId orgUnitId : String) : Bool :=
  possibleAncestorId = orgUnitId || climb (topology.orgUnits.length + 1) orgUnitId []
where
  climb : Nat → String → List String → Bool
    | 0, _, _ => false
    | fuel + 1, current, visited =>
      match entityById? (·.id) topology.orgUnits current with
      | none => false
      | some orgUnit =>
        match orgUnit.parentOrgUnitId with
        | none => false
        | some parentId =>
          if orgUnit.id ∈ visited then false
          else parentId = possibleAncestorId || climb fuel parentId (orgUnit.id :: visited)

def validatePositionReporting : List TopologyValidatorIssue :=
  let entries := topology.positions.map fun position => ⟨position.id, position.reportsToPositionId⟩
  (topology.positions.zipIdx.foldl (fun state (position, index) =>
    let state := visitHierarchy positionRule entries (entries.length + 1)
      ⟨position.id, position.reportsToPositionId⟩ [position.id] state
    match position.reportsToPositionId.bind (entityById? (·.id) topology.positions) with
    | none => state
    | some manager =>
      if isSameOrAncestorOrgUnit topology manager.orgUnitId position.orgUnitId then state
      else (state.1, state.2 ++ [{
        path := s!"$.positions[{index}].reportsToPositionId"
        code := .positionReportsToInvalidOrgScope
        severity := .warning
        message := "Position reports_to target should be in the same OrgUnit or an ancestor OrgUnit."
        entityId := some position.id
        entityType := some .position
        refId := position.reportsToPositionId
        refType := some .position }])) ([], [])).2

def membershipEffectiveAt (membership : Membership) (asOf : ℚ) : Bool :=
  (membership.validFrom.bind (timestampToMillis platform)).all (· ≤ asOf) &&
    (membership.validTo.bind (timestampToMillis platform)).all (asOf ≤ ·)

structure MembershipAllocation where
  (personId membershipId path : String)
  allocationPercent : JsNumber

def validateMembershipRules (options : TopologyValidatorOptions) : List TopologyValidatorIssue :=
  let asOf := options.asOf.bind (timestampToMillis platform)
  let own := overCollection topology.memberships "memberships" fun membership path =>
    (match membership.validFrom.bind (timestampToMillis platform),
        membership.validTo.bind (timestampToMillis platform) with
      | some start, some stop => if stop < start then [{
          path := s!"{path}.validTo"
          code := .membershipValidityInvalid
          severity := .invalid
          message := "Membership validTo must be greater than or equal to validFrom."
          entityId := some membership.id
          entityType := some .membership : TopologyValidatorIssue }] else []
      | _, _ => []) ++
    match membership.allocationPercent with
    | none => []
    | some percent =>
      if (finite? percent).any fun value => 0 < value && value ≤ 100 then []
      else [{
        path := s!"{path}.allocationPercent"
        code := .membershipAllocationInvalid
        severity := .invalid
        message :=
          "Membership allocationPercent must be greater than 0 and less than or equal to 100."
        entityId := some membership.id
        entityType := some .membership }]
  let allocations := overCollection topology.memberships "memberships" fun membership path =>
    match membership.allocationPercent with
    | none => []
    | some percent =>
      if ((finite? percent).any fun value => 0 < value && value ≤ 100) &&
          asOf.all (membershipEffectiveAt platform membership) then
        [{ personId := membership.personId, membershipId := membership.id,
           path := s!"{path}.allocationPercent", allocationPercent := percent
           : MembershipAllocation }]
      else []
  let persons := setAdd [] (allocations.map MembershipAllocation.personId)
  own ++ persons.flatMap fun personId =>
    let items := allocations.filter (·.personId = personId)
    let total := items.foldl (fun sum item => platform.add sum item.allocationPercent) 0
    if total.le 100 then []
    else [{
      path := (items.head?.map MembershipAllocation.path).getD "$.memberships"
      code := .personMembershipAllocationExceeded
      severity := .blocked
      message := s!"Person {personId} has " ++ platform.numberText total ++
        "% allocated membership capacity."
      entityId := some ((items.head?.map MembershipAllocation.membershipId).getD personId)
      entityType := some (if items.isEmpty then .person else .membership)
      refId := some personId
      refType := some .person }]

def normalizeAction (action : String) : Option String :=
  let normalized := platform.toLowerCase (jsTrim action)
  if normalized.length > 0 then some normalized else none

/-- `text.includes(part)`. -/
def includesText (text part : String) : Bool :=
  text.toList.tails.any fun rest => part.toList.isPrefixOf rest

def isApprovalAction (action : String) : Bool :=
  includesText action "approve" || includesText action "approval"

def approvalAmountFromCondition (condition : Option Metadata) : Option ℚ :=
  (numberFromMetadata condition "amount" <|> numberFromMetadata condition "approvalAmount" <|>
    numberFromMetadata condition "maxAmount" <|> numberFromMetadata condition "maxApprovalAmount")

def approvalLimitForSubject (subject : EntityRef) : Option ℚ :=
  let limitOf (positionId : String) : Option JsNumber :=
    (topology.positions.find? (·.id = positionId)).bind Position.approvalLimit
  match subject.entityType with
  | .position => (limitOf subject.id).bind finite?
  | .person => (topology.persons.find? (·.id = subject.id)).bind fun person =>
      maxNumber (person.positionIds.map limitOf)
  | .orgUnit => maxNumber ((topology.positions.filter (·.orgUnitId = subject.id)).map
      Position.approvalLimit)
  | _ => none

def validateApprovalLimit (rule : AuthorityRule) (path action : String) :
    List TopologyValidatorIssue :=
  if !isApprovalAction action then []
  else
    match approvalAmountFromCondition rule.condition with
    | none => []
    | some amount =>
      let issue (code : IssueCode) (message : String) : TopologyValidatorIssue := {
        path := s!"{path}.condition"
        code
        severity := .blocked
        message
        entityId := some rule.id
        entityType := some .authorityRule
        refId := some rule.subject.id
        refType := some rule.subject.entityType }
      match approvalLimitForSubject topology rule.subject with
      | none => [issue .approvalLimitMissing
          "Approval AuthorityRule declares an amount but the subject has no approvalLimit."]
      | some limit =>
        if amount ≤ limit then []
        else [issue .approvalLimitExceeded ("Approval amount " ++
          platform.numberText (.finite amount) ++ " exceeds subject approvalLimit " ++
          platform.numberText (.finite limit) ++ ".")]

def validateAuthorityDelegation (rule : AuthorityRule) (path : String) :
    List TopologyValidatorIssue :=
  match stringFromMetadata rule.condition "delegatedFromRuleId" with
  | none => []
  | some delegatedFromRuleId =>
    let valid := (entityById? (·.id) topology.authorityRules delegatedFromRuleId).any fun source =>
      source.delegable && normalizeAction platform source.action = normalizeAction platform rule.action
        && refKey source.object = refKey rule.object
    if valid then []
    else [{
      path := s!"{path}.condition.delegatedFromRuleId"
      code := .authorityDelegationInvalid
      severity := .blocked
      message :=
        "Delegated AuthorityRule must reference a delegable source rule for the same action and object."
      entityId := some rule.id
      entityType := some .authorityRule
      refId := some delegatedFromRuleId
      refType := some .authorityRule }]

def authorityRuleKey (rule : AuthorityRule) (action : String) : String :=
  "|".intercalate [refKey rule.subject, action, refKey rule.object,
    platform.stableConditionKey rule.condition]

/-- The first rule of each key, and the issues so far. -/
def considerAuthorityRule (state : List (String × AuthorityRule) × List TopologyValidatorIssue)
    (item : AuthorityRule × Nat) : List (String × AuthorityRule) × List TopologyValidatorIssue :=
  let (rule, index) := item
  let path := s!"$.authorityRules[{index}]"
  match normalizeAction platform rule.action with
  | none => (state.1, state.2 ++ [{
      path := s!"{path}.action"
      code := .invalidAuthorityRuleAction
      severity := .invalid
      message := "AuthorityRule action must be a non-empty stable action string."
      entityId := some rule.id
      entityType := some .authorityRule }])
  | some action =>
    let key := authorityRuleKey platform rule action
    match state.1.lookup key with
    | some existing =>
      if existing.delegable ≠ rule.delegable ∨ existing.requiresAuditLog ≠ rule.requiresAuditLog then
        (state.1, state.2 ++ [{
          path
          code := .authorityRuleConflict
          severity := .blocked
          message := s!"AuthorityRule conflicts with {existing.id} for the same subject, action, " ++
            "object, and condition."
          entityId := some rule.id
          entityType := some .authorityRule
          refId := some existing.id
          refType := some .authorityRule }])
      else state
    | none => ((key, rule) :: state.1, state.2 ++
        validateApprovalLimit platform topology rule path action ++
        validateAuthorityDelegation platform topology rule path)

def validateAuthorityRules : List TopologyValidatorIssue :=
  (topology.authorityRules.zipIdx.foldl (considerAuthorityRule platform topology) ([], [])).2

def buildApprovalTargetSet : List String :=
  (topology.relations.filterMap fun relation =>
    if relation.relationType = .approves then some (refKey relation.target) else none) ++
  topology.authorityRules.filterMap fun rule =>
    if (normalizeAction platform rule.action).any isApprovalAction then some (refKey rule.object)
    else none

def toolRequiresApproval (toolType : ToolType) : Bool :=
  toolType = .write || toolType = .externalAction

def validateApprovalCoverage : List TopologyValidatorIssue :=
  let approvalTargets := buildApprovalTargetSet platform topology
  (overCollection topology.nodes "nodes" fun node path =>
    if node.nodeType ≠ .approvalNode then []
    else if refKey ⟨.node, node.id⟩ ∈ approvalTargets then []
    else [{
      path := s!"{path}.nodeType"
      code := .approvalAuthorityMissing
      severity := .blocked
      message :=
        "Approval node requires an approves relation or approval AuthorityRule before activation."
      entityId := some node.id
      entityType := some .node : TopologyValidatorIssue }]) ++
  overCollection topology.relations "relations" fun relation path =>
    if relation.relationType ≠ .usesTool then []
    else if relation.source.entityType ≠ .node ∨ relation.target.entityType ≠ .enterpriseTool then []
    else
      match entityById? (·.id) topology.tools relation.target.id with
      | none => []
      | some tool =>
        if !toolRequiresApproval tool.toolType then []
        else if refKey ⟨.enterpriseTool, tool.id⟩ ∈ approvalTargets ∨
            refKey ⟨.node, relation.source.id⟩ ∈ approvalTargets then []
        else [{
          path
          code := .approvalAuthorityMissing
          severity := .blocked
          message :=
            "Write or external-action tool usage requires an approval authority relation or rule."
          entityId := some relation.source.id
          entityType := some .node
          relationId := some relation.id
          sourceEntityId := some relation.source.id
          targetEntityId := some relation.target.id }]

def validateNodeToolPermission (node : NodeContract) (toolId path relationId : String) :
    List TopologyValidatorIssue :=
  if toolId ∈ node.allowedToolIds then []
  else [{
    path
    code := .toolPermissionMissing
    severity := .blocked
    message := "Node uses or accesses a tool that is not included in allowedToolIds."
    entityId := some node.id
    entityType := some .node
    relationId := some relationId
    sourceEntityId := some node.id
    targetEntityId := some toolId
    refId := some toolId
    refType := some .enterpriseTool }]

def validateNodeSystemPermission (node : NodeContract) (systemId path relationId : String) :
    List TopologyValidatorIssue :=
  if systemId ∈ node.allowedSystemIds then []
  else [{
    path
    code := .systemPermissionMissing
    severity := .blocked
    message := "Node uses or accesses a system that is not included in allowedSystemIds."
    entityId := some node.id
    entityType := some .node
    relationId := some relationId
    sourceEntityId := some node.id
    targetEntityId := some systemId
    refId := some systemId
    refType := some .enterpriseSystem }]

section

variable (relation : EnterpriseRelation)

def EnterpriseRelation.grants (relationType : RelationType) (entityType : EntityType) : Bool :=
  relation.relationType = relationType && relation.target.entityType = entityType

/-- The pairs of a declared node and what such a relation gives it. -/
def grantedPairs (relationTypes : List RelationType) (entityType : EntityType) : List String :=
  topology.relations.filterMap fun relation =>
    if relation.source.entityType = .node ∧
        (entityById? (·.id) topology.nodes relation.source.id).isSome ∧
        relationTypes.any (relation.grants · entityType) then
      some (relationPairKey relation.source.id relation.target.id)
    else none

def validateRelationPermission (path : String) : List TopologyValidatorIssue :=
  if relation.source.entityType ≠ .node then []
  else
    match entityById? (·.id) topology.nodes relation.source.id with
    | none => []
    | some node =>
      if relation.grants .usesTool .enterpriseTool then
        validateNodeToolPermission node relation.target.id path relation.id ++
          match (entityById? (·.id) topology.tools relation.target.id).bind
              EnterpriseTool.systemId with
          | none => []
          | some systemId => validateNodeSystemPermission node systemId path relation.id
      else if relation.grants .usesSystem .enterpriseSystem then
        validateNodeSystemPermission node relation.target.id path relation.id
      else if relation.grants .hasAccessTo .enterpriseTool then
        validateNodeToolPermission node relation.target.id path relation.id
      else if relation.grants .hasAccessTo .enterpriseSystem then
        validateNodeSystemPermission node relation.target.id path relation.id
      else []

def validatePermissionRules : List TopologyValidatorIssue :=
  let toolPairs := grantedPairs topology [.usesTool, .hasAccessTo] .enterpriseTool
  let systemPairs := grantedPairs topology [.usesSystem, .hasAccessTo] .enterpriseSystem
  overCollection topology.relations "relations" (validateRelationPermission topology) ++
  overCollection topology.nodes "nodes" fun node path =>
    (node.allowedToolIds.zipIdx.flatMap fun (toolId, toolIndex) =>
      if (entityById? (·.id) topology.tools toolId).isNone ∨
          relationPairKey node.id toolId ∈ toolPairs then []
      else [{
        path := s!"{path}.allowedToolIds[{toolIndex}]"
        code := .declaredToolRelationMissing
        severity := .warning
        message := "Node allows a tool but has no uses_tool or has_access_to relation for it."
        entityId := some node.id
        entityType := some .node
        refId := some toolId
        refType := some .enterpriseTool : TopologyValidatorIssue }]) ++
    node.allowedSystemIds.zipIdx.flatMap fun (systemId, systemIndex) =>
      if (topology.systems.any (·.id = systemId)) = false ∨
          relationPairKey node.id systemId ∈ systemPairs then []
      else [{
        path := s!"{path}.allowedSystemIds[{systemIndex}]"
        code := .declaredSystemRelationMissing
        severity := .warning
        message := "Node allows a system but has no uses_system or has_access_to relation for it."
        entityId := some node.id
        entityType := some .node
        refId := some systemId
        refType := some .enterpriseSystem }]

def systemAccessByNode (key : String) : List EnterpriseRelation :=
  topology.relations.filter fun relation =>
    relation.relationType = .hasAccessTo && relation.source.entityType = .node &&
      relation.target.entityType = .enterpriseSystem &&
      relationPairKey relation.source.id relation.target.id = key

/-- The system that a relation makes its node use. -/
def systemIdOfRelation : Option String :=
  if relation.grants .usesSystem .enterpriseSystem then some relation.target.id
  else if relation.grants .usesTool .enterpriseTool then
    (entityById? (·.id) topology.tools relation.target.id).bind EnterpriseTool.systemId
  else none

def validateRelationDataDomains (path : String) : List TopologyValidatorIssue :=
  if relation.source.entityType ≠ .node then []
  else
    match entityById? (·.id) topology.nodes relation.source.id,
        (systemIdOfRelation topology relation).bind (entityById? (·.id) topology.systems) with
    | some node, some system =>
      let issue (code : IssueCode) (message : String) (refId : Option String)
          (refType : Option EntityType) : TopologyValidatorIssue := {
        path
        code
        severity := .blocked
        message
        entityId := some node.id
        entityType := some .node
        relationId := some relation.id
        sourceEntityId := some node.id
        targetEntityId := some system.id
        refId
        refType }
      if system.dataDomainIds = [] then []
      else
        let accessRelations := systemAccessByNode topology (relationPairKey node.id system.id)
        if accessRelations = [] then
          if system.criticality = .critical then
            [issue .criticalSystemAccessMissing
              "Critical system usage requires an explicit has_access_to relation for the backing system."
              (some system.id) (some .enterpriseSystem)]
          else []
        else
          let declaredDomains := accessRelations.flatMap dataDomainIdsFromRelation
          let missingDomains := system.dataDomainIds.filter (· ∉ declaredDomains)
          if declaredDomains = [] then
            [issue .dataDomainAccessMissing ("System access must declare data domains: " ++
              ", ".intercalate system.dataDomainIds ++ ".") system.dataDomainIds.head? none]
          else if missingDomains = [] then []
          else [issue .dataDomainAccessMissing ("System access is missing data domains: " ++
            ", ".intercalate missingDomains ++ ".") missingDomains.head? none]
    | _, _ => []

def validateDataDomainAccessRules : List TopologyValidatorIssue :=
  overCollection topology.relations "relations" (validateRelationDataDomains topology)

def validateProcessRule (process : ProcessDefinition) (path : String) :
    List TopologyValidatorIssue :=
  let issue (field : String) (code : IssueCode) (severity : Severity) (message : String) :
      TopologyValidatorIssue := {
    path := s!"{path}.{field}"
    code
    severity
    message
    entityId := some process.id
    entityType := some .processDefinition }
  (if process.ownerNodeId = none then
    [issue "ownerNodeId" .processOwnerMissing .blocked
      "Process definition must declare an owner node before activation."]
  else []) ++
  (match process.slaMs with
    | none =>
      if process.stepNodeIds = [] then []
      else [issue "slaMs" .processSlaMissing .warning
        "Process definition should declare slaMs for operational analysis."]
    | some slaMs =>
      if (finite? slaMs).any (0 < ·) then []
      else [issue "slaMs" .processSlaInvalid .invalid "Process slaMs must be a positive number."]) ++
  process.stepNodeIds.zipIdx.flatMap fun (nodeId, stepIndex) =>
    match entityById? (·.id) topology.nodes nodeId with
    | none => []
    | some node =>
      if node.owner.isSome then []
      else [{
        path := s!"{path}.stepNodeIds[{stepIndex}]"
        code := .processStepOwnerMissing
        severity := .blocked
        message := "Process step node must have an owner before activation."
        entityId := some process.id
        entityType := some .processDefinition
        refId := some nodeId
        refType := some .node }]

def validateProcessStepRelationEndpoint (processId nodeId : String) (relation : EnterpriseRelation)
    (path : String) : List TopologyValidatorIssue :=
  match entityById? (·.id) topology.processes processId with
  | none => []
  | some process =>
    if nodeId ∈ process.stepNodeIds then []
    else [{
      path
      code := .processTransitionReferenceInvalid
      severity := .blocked
      message :=
        "Process transition relation references a node that is not declared as a step of the process."
      entityId := some processId
      entityType := some .processDefinition
      relationId := some relation.id
      sourceEntityId := some relation.source.id
      targetEntityId := some relation.target.id
      refId := some nodeId
      refType := some .node }]

def validateProcessTransitionReference (path : String) : List TopologyValidatorIssue :=
  if relation.relationType ≠ .dependsOn then []
  else
    (if relation.source.entityType = .processDefinition ∧ relation.target.entityType = .node then
      validateProcessStepRelationEndpoint topology relation.source.id relation.target.id relation path
    else []) ++
    if relation.target.entityType = .processDefinition ∧ relation.source.entityType = .node then
      validateProcessStepRelationEndpoint topology relation.target.id relation.source.id relation path
    else []

end

def validateProcessRules : List TopologyValidatorIssue :=
  overCollection topology.processes "processes" (validateProcessRule topology) ++
    overCollection topology.relations "relations" (validateProcessTransitionReference topology)

def validateResponsibilityScope (entityType : EntityType) (message id path : String) :
    List TopologyValidatorIssue :=
  if refKey ⟨entityType, id⟩ ∈ topology.responsibilities.map (refKey ·.scope) then []
  else [{
    path
    code := .responsibilityMatrixMissing
    severity := .warning
    message
    entityId := some id
    entityType := some entityType }]

def validateResponsibilityCoverage : List TopologyValidatorIssue :=
  (overCollection topology.responsibilities "responsibilities" fun entry path =>
    if entry.accountable.isSome then []
    else [{
      path := s!"{path}.accountable"
      code := .raciAccountableMissing
      severity := .warning
      message := "Responsibility Matrix entry is missing an accountable owner."
      entityId := some entry.id
      entityType := some .responsibilityMatrixEntry
      refId := some entry.scope.id
      refType := some entry.scope.entityType : TopologyValidatorIssue }]) ++
  (overCollection topology.nodes "nodes" fun node path =>
    validateResponsibilityScope topology .node "Node has no Responsibility Matrix entry." node.id
      path) ++
  overCollection topology.processes "processes" fun process path =>
    validateResponsibilityScope topology .processDefinition
      "Process definition has no Responsibility Matrix entry." process.id path

variable (indexes : List IndexedTopologyEntity)

def validateNodePolicies (node : NodeContract) (path : String) : List TopologyValidatorIssue :=
  let issue (field : String) (code : IssueCode) (message : String) : TopologyValidatorIssue := {
    path := s!"{path}.{field}"
    code
    severity := .blocked
    message
    entityId := some node.id
    entityType := some .node }
  (match node.failurePolicy with
    | none => [issue "failurePolicy" .failurePolicyMissing
        "Node must define a FailurePolicy before runtime activation."]
    | some policy =>
      validateTypedReferences indexes .node policy.fallbackNodeIds
        s!"{path}.failurePolicy.fallbackNodeIds" { entityId := node.id, entityType := .node }) ++
  match node.recoveryPolicy with
  | none => [issue "recoveryPolicy" .recoveryPolicyMissing
      "Node must define a RecoveryPolicy before runtime activation."]
  | some policy =>
    if (node.failurePolicy.any fun failure => !failure.fallbackNodeIds.isEmpty) &&
        !policy.fallbackAllowed then
      [issue "recoveryPolicy.fallbackAllowed" .invalidRecoveryPolicy
        "RecoveryPolicy must allow fallback when FailurePolicy declares fallback nodes."]
    else []

def validateNodeFailureAndRecoveryPolicies : List TopologyValidatorIssue :=
  overCollection topology.nodes "nodes" (validateNodePolicies indexes)

def validateEnterpriseRules (options : TopologyValidatorOptions) : List TopologyValidatorIssue :=
  validateOrgUnitHierarchy topology ++
    validatePositionReporting topology ++
    validateMembershipRules platform topology options ++
    validateAuthorityRules platform topology ++
    validateApprovalCoverage platform topology ++
    validatePermissionRules topology ++
    validateDataDomainAccessRules topology ++
    validateProcessRules topology ++
    validateResponsibilityCoverage topology ++
    validateNodeFailureAndRecoveryPolicies topology indexes

def isExecutorTopologyV2PersistenceProjection : Bool :=
  match (topology.metadata.get? "executorTopologyV2").bind MetadataValue.asRecord? with
  | none => false
  | some marker =>
    (match marker.get? "schemaVersion" with
      | some (.number (.finite value)) => value = 2
      | _ => false) &&
    match marker.get? "sourceOfTruth" with
    | some (.text value) => value = "executor_topology_v2"
    | _ => false

/-- The issues of a topology that passes the contract check. -/
def topologyIssues (options : TopologyValidatorOptions) : List TopologyValidatorIssue :=
  let (indexes, duplicates) := buildTopologyEntityIndexes topology
  duplicates ++ validateTopologyReferences topology indexes ++
    validateDelegationGraph platform topology indexes options.maxDepth ++
    if isExecutorTopologyV2PersistenceProjection topology then []
    else validateEnterpriseRules platform topology indexes options

def validateTopology (options : TopologyValidatorOptions := {}) : TopologyValidationResult :=
  match validateEnterpriseTopology topology with
  | [] => buildTopologyValidationResult (topologyIssues platform topology options)
  | issues => buildTopologyValidationResult (issues.map convertContractIssue)

end Knowbee.Topology
