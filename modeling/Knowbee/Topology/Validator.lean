import Knowbee.Lib.Digraph
import Knowbee.Topology.Contract

/-!
# The topology validator

The contract check comes first; only a topology that passes it is looked at further: its entity
ids, its references, its delegation graph and, unless it is the projection of an executor
topology, the enterprise rules.  A topology is executable when no issue is blocked or invalid.

The delegation graph has the edges of the nodes' children lists and of the delegation relations of
whatever status.
-/

namespace Knowbee.Topology

/-- `Date.parse`, with no value for what is not a date, `toLowerCase`, the sum of
two numbers, the text of a number and the text of a condition with sorted keys. -/
structure Platform where
  parseDate : String → Option ℚ
  toLowerCase : String → String
  add : JsNumber → JsNumber → JsNumber
  numberText : JsNumber → String
  stableConditionKey : Option Metadata → String

inductive Severity where
  | info | warning | blocked | invalid
  deriving DecidableEq

inductive IssueCode where
  | contract (code : ContractCode)
  | duplicateEntityId
  | missingEntityReference
  | invalidRelationEndpoint
  | delegationCycle
  | maxDelegationDepthExceeded
  | emptyTeamNodes
  | emptyProcessSteps
  | authorityRuleConflict
  | invalidAuthorityRuleAction
  | approvalAuthorityMissing
  | toolPermissionMissing
  | systemPermissionMissing
  | declaredToolRelationMissing
  | declaredSystemRelationMissing
  | processOwnerMissing
  | processStepOwnerMissing
  | processTransitionReferenceInvalid
  | responsibilityMatrixMissing
  | raciAccountableMissing
  | failurePolicyMissing
  | recoveryPolicyMissing
  | invalidRecoveryPolicy
  | orgUnitHierarchyCycle
  | positionReportsToCycle
  | positionReportsToInvalidOrgScope
  | membershipValidityInvalid
  | membershipAllocationInvalid
  | personMembershipAllocationExceeded
  | approvalLimitMissing
  | approvalLimitExceeded
  | authorityDelegationInvalid
  | processSlaMissing
  | processSlaInvalid
  | criticalSystemAccessMissing
  | dataDomainAccessMissing
  deriving DecidableEq

structure TopologyValidatorIssue where
  path : String
  code : IssueCode
  severity : Severity
  message : String
  entityId : Option String := none
  entityType : Option EntityType := none
  relationId : Option String := none
  refId : Option String := none
  refType : Option EntityType := none
  sourceEntityId : Option String := none
  targetEntityId : Option String := none

def isBlockingSeverity (severity : Severity) : Bool := severity = .blocked || severity = .invalid

structure TopologyValidationResult where
  executable : Bool
  issues : List TopologyValidatorIssue

/-- `executable` and `ok` are that no issue is counted as blocked or invalid. -/
def buildTopologyValidationResult (issues : List TopologyValidatorIssue) :
    TopologyValidationResult :=
  ⟨issues.countP (·.severity = .blocked) = 0 && issues.countP (·.severity = .invalid) = 0, issues⟩

structure TopologyValidatorOptions where
  maxDelegationDepth : Option JsNumber := none
  asOf : Option Timestamp := none

def DEFAULT_TOPOLOGY_MAX_DELEGATION_DEPTH : JsNumber := 8

def convertContractIssue (issue : ContractIssue) : TopologyValidatorIssue where
  path := issue.path
  code := .contract issue.code
  severity := .invalid
  message := issue.message
  entityId := issue.context.map Prod.snd
  entityType := issue.context.map Prod.fst
  relationId := match issue.context with
    | some (.relation, id) => some id
    | _ => none

structure IndexedTopologyEntity where
  id : String
  entityType : EntityType
  path : String

variable (topology : EnterpriseTopology)

/-- A collection of the topology: its key, the type of its entities and their ids. -/
def topologyEntityCollections : List (String × EntityType × List String) :=
  [("nodes", .node, topology.nodes.map (·.id)), ("teams", .team, topology.teams.map (·.id)),
    ("orgUnits", .orgUnit, topology.orgUnits.map (·.id)),
    ("positions", .position, topology.positions.map (·.id)),
    ("persons", .person, topology.persons.map (·.id)),
    ("memberships", .membership, topology.memberships.map (·.id)),
    ("authorityRules", .authorityRule, topology.authorityRules.map (·.id)),
    ("responsibilities", .responsibilityMatrixEntry, topology.responsibilities.map (·.id)),
    ("systems", .enterpriseSystem, topology.systems.map (·.id)),
    ("tools", .enterpriseTool, topology.tools.map (·.id)),
    ("processes", .processDefinition, topology.processes.map (·.id)),
    ("relations", .relation, topology.relations.map (·.id))]

def indexedEntities : List IndexedTopologyEntity :=
  ⟨topology.id, .topology, "$"⟩ ::
    (topologyEntityCollections topology).flatMap fun (key, entityType, ids) =>
      ids.zipIdx.map fun (id, index) => ⟨id, entityType, s!"$.{key}[{index}]"⟩

/-- The index so far and the issues of the entities in it. -/
def addIndexedEntity (state : List IndexedTopologyEntity × List TopologyValidatorIssue)
    (entity : IndexedTopologyEntity) :
    List IndexedTopologyEntity × List TopologyValidatorIssue :=
  let issues := match state.1.find? (·.id = entity.id) with
    | none => []
    | some existing => [{
        path := s!"{entity.path}.id"
        code := .duplicateEntityId
        severity := .invalid
        message := s!"Entity id {entity.id} is already used at {existing.path}."
        entityId := some entity.id
        entityType := some entity.entityType : TopologyValidatorIssue }]
  (state.1 ++ [entity], state.2 ++ issues)

def buildTopologyEntityIndexes : List IndexedTopologyEntity × List TopologyValidatorIssue :=
  (indexedEntities topology).foldl addIndexedEntity ([], [])

def entityExists (indexes : List IndexedTopologyEntity) (entityType : EntityType) (id : String) :
    Bool :=
  indexes.any fun entity => entity.entityType = entityType && entity.id = id

structure ReferenceOwner where
  entityId : String
  entityType : EntityType
  relationId : Option String := none

section References

variable (indexes : List IndexedTopologyEntity)

def validateTypedReference (refType : EntityType) (refId path : String) (owner : ReferenceOwner) :
    List TopologyValidatorIssue :=
  if entityExists indexes refType refId then []
  else [{
    path
    code := .missingEntityReference
    severity := .invalid
    message := s!"Referenced {refType.text} {refId} does not exist."
    entityId := some owner.entityId
    entityType := some owner.entityType
    relationId := owner.relationId
    refId := some refId
    refType := some refType }]

def validateOptionalTypedReference (refType : EntityType) (refId : Option String) (path : String)
    (owner : ReferenceOwner) : List TopologyValidatorIssue :=
  match refId with
  | none => []
  | some refId => validateTypedReference indexes refType refId path owner

/-- References to several entities of one type, at the indices of a field. -/
def validateTypedReferences (refType : EntityType) (refIds : List String) (path : String)
    (owner : ReferenceOwner) : List TopologyValidatorIssue :=
  refIds.zipIdx.flatMap fun (refId, index) =>
    validateTypedReference indexes refType refId s!"{path}[{index}]" owner

def validateEntityReference (reference : EntityRef) (path : String) (owner : ReferenceOwner) :
    List TopologyValidatorIssue :=
  validateTypedReference indexes reference.entityType reference.id s!"{path}.id" owner

def validateOptionalEntityReference (reference : Option EntityRef) (path : String)
    (owner : ReferenceOwner) : List TopologyValidatorIssue :=
  match reference with
  | none => []
  | some reference => validateEntityReference indexes reference path owner

def validateEntityReferences (references : List EntityRef) (path : String)
    (owner : ReferenceOwner) : List TopologyValidatorIssue :=
  references.zipIdx.flatMap fun (reference, index) =>
    validateEntityReference indexes reference s!"{path}[{index}]" owner

def validateNodeReferences (node : NodeContract) (path : String) : List TopologyValidatorIssue :=
  let owner : ReferenceOwner := { entityId := node.id, entityType := .node }
  validateOptionalEntityReference indexes node.owner s!"{path}.owner" owner ++
    validateTypedReferences indexes .node node.children s!"{path}.children" owner ++
    validateTypedReferences indexes .enterpriseTool node.allowedToolIds s!"{path}.allowedToolIds"
      owner ++
    validateTypedReferences indexes .enterpriseSystem node.allowedSystemIds
      s!"{path}.allowedSystemIds" owner

def validateTeamReferences (team : EnterpriseTeam) (path : String) : List TopologyValidatorIssue :=
  (if team.nodeIds = [] then [{
    path := s!"{path}.nodeIds"
    code := .emptyTeamNodes
    severity := .warning
    message := "Team has no nodes assigned."
    entityId := some team.id
    entityType := some .team : TopologyValidatorIssue }] else []) ++
    validateTypedReferences indexes .node team.nodeIds s!"{path}.nodeIds"
      { entityId := team.id, entityType := .team }

def validateOrgUnitReferences (orgUnit : OrgUnit) (path : String) : List TopologyValidatorIssue :=
  let owner : ReferenceOwner := { entityId := orgUnit.id, entityType := .orgUnit }
  validateOptionalTypedReference indexes .orgUnit orgUnit.parentOrgUnitId
      s!"{path}.parentOrgUnitId" owner ++
    validateTypedReferences indexes .position orgUnit.positionIds s!"{path}.positionIds" owner ++
    validateTypedReferences indexes .person orgUnit.personIds s!"{path}.personIds" owner

def validatePositionReferences (position : Position) (path : String) :
    List TopologyValidatorIssue :=
  let owner : ReferenceOwner := { entityId := position.id, entityType := .position }
  validateTypedReference indexes .orgUnit position.orgUnitId s!"{path}.orgUnitId" owner ++
    validateOptionalTypedReference indexes .position position.reportsToPositionId
      s!"{path}.reportsToPositionId" owner ++
    validateTypedReferences indexes .person position.personIds s!"{path}.personIds" owner ++
    validateOptionalTypedReference indexes .position position.backupPositionId
      s!"{path}.backupPositionId" owner

def validatePersonReferences (person : Person) (path : String) : List TopologyValidatorIssue :=
  let owner : ReferenceOwner := { entityId := person.id, entityType := .person }
  validateTypedReferences indexes .position person.positionIds s!"{path}.positionIds" owner ++
    validateTypedReferences indexes .orgUnit person.orgUnitIds s!"{path}.orgUnitIds" owner

def validateMembershipReferences (membership : Membership) (path : String) :
    List TopologyValidatorIssue :=
  let owner : ReferenceOwner := { entityId := membership.id, entityType := .membership }
  validateTypedReference indexes .person membership.personId s!"{path}.personId" owner ++
    validateOptionalTypedReference indexes .position membership.positionId
      s!"{path}.positionId" owner ++
    validateOptionalTypedReference indexes .orgUnit membership.orgUnitId
      s!"{path}.orgUnitId" owner ++
    validateOptionalTypedReference indexes .team membership.teamId s!"{path}.teamId" owner

def validateAuthorityRuleReferences (rule : AuthorityRule) (path : String) :
    List TopologyValidatorIssue :=
  let owner : ReferenceOwner := { entityId := rule.id, entityType := .authorityRule }
  validateEntityReference indexes rule.subject s!"{path}.subject" owner ++
    validateEntityReference indexes rule.object s!"{path}.object" owner

def validateResponsibilityReferences (entry : ResponsibilityMatrixEntry) (path : String) :
    List TopologyValidatorIssue :=
  let owner : ReferenceOwner := { entityId := entry.id, entityType := .responsibilityMatrixEntry }
  validateEntityReference indexes entry.scope s!"{path}.scope" owner ++
    validateEntityReference indexes entry.responsible s!"{path}.responsible" owner ++
    validateOptionalEntityReference indexes entry.accountable s!"{path}.accountable" owner ++
    validateEntityReferences indexes entry.consulted s!"{path}.consulted" owner ++
    validateEntityReferences indexes entry.informed s!"{path}.informed" owner

def validateToolReferences (tool : EnterpriseTool) (path : String) : List TopologyValidatorIssue :=
  validateOptionalTypedReference indexes .enterpriseSystem tool.systemId s!"{path}.systemId"
    { entityId := tool.id, entityType := .enterpriseTool }

def validateProcessReferences (process : ProcessDefinition) (path : String) :
    List TopologyValidatorIssue :=
  let owner : ReferenceOwner := { entityId := process.id, entityType := .processDefinition }
  (if process.stepNodeIds = [] then [{
    path := s!"{path}.stepNodeIds"
    code := .emptyProcessSteps
    severity := .warning
    message := "Process definition has no step nodes."
    entityId := some process.id
    entityType := some .processDefinition : TopologyValidatorIssue }] else []) ++
    validateOptionalTypedReference indexes .node process.ownerNodeId s!"{path}.ownerNodeId"
      owner ++
    validateTypedReferences indexes .node process.stepNodeIds s!"{path}.stepNodeIds" owner ++
    validateOptionalTypedReference indexes .position process.accountablePositionId
      s!"{path}.accountablePositionId" owner

def validateRelationReferences (relation : EnterpriseRelation) (path : String) :
    List TopologyValidatorIssue :=
  let owner : ReferenceOwner :=
    { entityId := relation.id, entityType := .relation, relationId := some relation.id }
  validateEntityReference indexes relation.source s!"{path}.from" owner ++
    validateEntityReference indexes relation.target s!"{path}.to" owner ++
    if endpointAllowed relation.relationType relation.source.entityType relation.target.entityType
    then []
    else [{
      path := s!"{path}.to.entityType"
      code := .invalidRelationEndpoint
      severity := .invalid
      message := "Relation source and target entity types are not compatible."
      entityId := some relation.id
      entityType := some .relation
      relationId := some relation.id
      sourceEntityId := some relation.source.id
      targetEntityId := some relation.target.id }]

end References

/-- What each item of a collection gives, at its path. -/
def overCollection {α β : Type} (collection : List α) (key : String) (each : α → String → List β) :
    List β :=
  collection.zipIdx.flatMap fun (item, index) => each item s!"$.{key}[{index}]"

def validateTopologyReferences (indexes : List IndexedTopologyEntity) :
    List TopologyValidatorIssue :=
  overCollection topology.nodes "nodes" (validateNodeReferences indexes) ++
    overCollection topology.teams "teams" (validateTeamReferences indexes) ++
    overCollection topology.orgUnits "orgUnits" (validateOrgUnitReferences indexes) ++
    overCollection topology.positions "positions" (validatePositionReferences indexes) ++
    overCollection topology.persons "persons" (validatePersonReferences indexes) ++
    overCollection topology.memberships "memberships" (validateMembershipReferences indexes) ++
    overCollection topology.authorityRules "authorityRules"
      (validateAuthorityRuleReferences indexes) ++
    overCollection topology.responsibilities "responsibilities"
      (validateResponsibilityReferences indexes) ++
    overCollection topology.tools "tools" (validateToolReferences indexes) ++
    overCollection topology.processes "processes" (validateProcessReferences indexes) ++
    overCollection topology.relations "relations" (validateRelationReferences indexes)

structure DelegationEdge where
  (source target path : String)
  relationId : Option String := none

/-- The relations that the delegation graph is made of, whatever their status. -/
def EnterpriseRelation.isDelegation (relation : EnterpriseRelation) : Bool :=
  relation.relationType = .delegatesTo && relation.source.entityType = .node &&
    relation.target.entityType = .node

/-- The edges, in the order in which they are added; the adjacency of a node are
those that start at it. -/
def buildDelegationAdjacency : List DelegationEdge :=
  (overCollection topology.nodes "nodes" fun node path =>
    node.children.zipIdx.map fun (childId, childIndex) =>
      { source := node.id, target := childId, path := s!"{path}.children[{childIndex}]" }) ++
  overCollection topology.relations "relations" fun relation path =>
    if relation.isDelegation then
      [{ source := relation.source.id, target := relation.target.id, path,
         relationId := some relation.id }]
    else []

/-- The graph that the searches run over, with the ids in the order of a `Set`. -/
def delegationGraph : Digraph.Graph String DelegationEdge where
  declared := setAdd [] (topology.nodes.map (·.id))
  edgesOf node := (buildDelegationAdjacency topology).filter (·.source = node)
  target := DelegationEdge.target

/-- The issues so far and the keys that were reported. -/
abbrev Reported : Type := List String × List TopologyValidatorIssue

def reportCycle (path : List String) (edge : DelegationEdge) (state : Reported) : Reported :=
  let cyclePath := path.dropWhile (· ≠ edge.target) ++ [edge.target]
  let cycleKey := ">".intercalate cyclePath
  if cycleKey ∈ state.1 then state
  else (state.1 ++ [cycleKey], state.2 ++ [{
    path := edge.path
    code := .delegationCycle
    severity := .invalid
    message := "Delegation graph contains a cycle: " ++ " -> ".intercalate cyclePath ++ "."
    entityId := some edge.source
    entityType := some .node
    relationId := edge.relationId
    sourceEntityId := some edge.source
    targetEntityId := some edge.target }])

def detectDelegationCycles : List TopologyValidatorIssue :=
  ((delegationGraph topology).visitAll reportCycle ([], [])).2

def reportDepth (platform : Platform) (maxDelegationDepth : JsNumber) (path : List String)
    (edge : DelegationEdge) (state : Reported) : Reported :=
  let depth := path.length - 1
  if maxDelegationDepth.lt (.ofNat depth) then
    let reportKey := s!"{edge.path}:{depth}"
    if reportKey ∈ state.1 then state
    else (state.1 ++ [reportKey], state.2 ++ [{
      path := edge.path
      code := .maxDelegationDepthExceeded
      severity := .blocked
      message := s!"Delegation depth {depth} exceeds max depth " ++
        platform.numberText maxDelegationDepth ++ "."
      entityId := some edge.source
      entityType := some .node
      relationId := edge.relationId
      sourceEntityId := some edge.source
      targetEntityId := some edge.target }])
  else state

def detectDelegationDepthOverflow (platform : Platform) (topology : EnterpriseTopology)
    (maxDelegationDepth : JsNumber) : List TopologyValidatorIssue :=
  ((delegationGraph topology).exploreAll (reportDepth platform maxDelegationDepth) ([], [])).2

def TopologyValidatorOptions.maxDepth (options : TopologyValidatorOptions) : JsNumber :=
  JsNumber.max 0 (options.maxDelegationDepth.getD DEFAULT_TOPOLOGY_MAX_DELEGATION_DEPTH)

def validateDelegationGraph (platform : Platform) (topology : EnterpriseTopology)
    (indexes : List IndexedTopologyEntity) (maxDelegationDepth : JsNumber) :
    List TopologyValidatorIssue :=
  detectDelegationCycles topology ++
    detectDelegationDepthOverflow platform topology maxDelegationDepth ++
    -- the entries of the map, in the order in which their keys came
    (setAdd [] ((buildDelegationAdjacency topology).map DelegationEdge.source)).flatMap
      fun source =>
        if entityExists indexes .node source then
          ((buildDelegationAdjacency topology).filter (·.source = source)).flatMap fun edge =>
            validateTypedReference indexes .node edge.target edge.path
              { entityId := edge.source, entityType := .node, relationId := edge.relationId }
        else []

end Knowbee.Topology
