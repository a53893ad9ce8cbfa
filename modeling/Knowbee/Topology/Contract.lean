import Knowbee.JavaScript

/-!
# The enterprise topology contract

The entities of a topology with the fields that the validator, the compiler, the repair pass and
the editor read, and the contract check that every topology passes first.  A topology is a value
of its declared type: the checks that only fail for a value of another type are not here.
-/

namespace Knowbee.Topology

inductive EntityStatus where
  | draft | active | inactive | archived
  deriving DecidableEq

inductive EntityType where
  | topology | topologyVersion | node | team | orgUnit | position | person | membership
  | authorityRule | responsibilityMatrixEntry | enterpriseSystem | enterpriseTool
  | processDefinition | relation
  deriving DecidableEq

def EntityType.text : EntityType → String
  | .topology => "topology"
  | .topologyVersion => "topology_version"
  | .node => "node"
  | .team => "team"
  | .orgUnit => "org_unit"
  | .position => "position"
  | .person => "person"
  | .membership => "membership"
  | .authorityRule => "authority_rule"
  | .responsibilityMatrixEntry => "responsibility_matrix_entry"
  | .enterpriseSystem => "enterprise_system"
  | .enterpriseTool => "enterprise_tool"
  | .processDefinition => "process_definition"
  | .relation => "relation"

inductive NodeType where
  | function | processStep | approvalNode | reviewNode | decisionNode | automationNode
  | dataOwnerNode | externalNode | systemInterfaceNode
  deriving DecidableEq

inductive RelationType where
  | reportsTo | belongsTo | delegatesTo | approves | owns | collaboratesWith | escalatesTo | informs
  | usesSystem | usesTool | hasAccessTo | dependsOn | consults | accountableFor
  deriving DecidableEq

def RelationType.text : RelationType → String
  | .reportsTo => "reports_to"
  | .belongsTo => "belongs_to"
  | .delegatesTo => "delegates_to"
  | .approves => "approves"
  | .owns => "owns"
  | .collaboratesWith => "collaborates_with"
  | .escalatesTo => "escalates_to"
  | .informs => "informs"
  | .usesSystem => "uses_system"
  | .usesTool => "uses_tool"
  | .hasAccessTo => "has_access_to"
  | .dependsOn => "depends_on"
  | .consults => "consults"
  | .accountableFor => "accountable_for"

/-- `EnterpriseTimestamp`. -/
inductive Timestamp where
  | number (value : JsNumber)
  | text (value : String)

/-- `EnterpriseMetadataValue`. -/
inductive MetadataValue where
  | text (value : String)
  | number (value : JsNumber)
  | boolean (value : Bool)
  | null
  | list (items : List MetadataValue)
  | record (fields : List (String × MetadataValue))

abbrev Metadata : Type := List (String × MetadataValue)

def Metadata.get? (metadata : Metadata) (key : String) : Option MetadataValue := metadata.lookup key

def MetadataValue.asRecord? : MetadataValue → Option Metadata
  | .record fields => some fields
  | _ => none

structure EntityRef where
  entityType : EntityType
  id : String
  deriving DecidableEq

lemma EntityRef.eq_mk {reference : EntityRef} {entityType : EntityType} {id : String}
    (kind : reference.entityType = entityType) (own : reference.id = id) :
    reference = ⟨entityType, id⟩ := by
  cases reference
  cases kind
  cases own
  rfl

structure BaseEntity where
  (id name : String)
  status : EntityStatus
  (createdAt updatedAt : Timestamp)

structure FailurePolicy where
  (failureReportRequired allowPartialSuccess : Bool)
  fallbackNodeIds : List String

structure RecoveryPolicy where
  (retryAllowed redelegationAllowed fallbackAllowed partialSuccessAllowed : Bool)

inductive TemplateSource where
  | userPreset | systemPreset | imported

structure NodeTemplateRef where
  templateId : String
  source : TemplateSource
  metadata : Metadata

structure NodeContract extends BaseEntity where
  nodeType : NodeType
  owner : Option EntityRef
  (tags children : List String)
  template : Option NodeTemplateRef
  (allowedToolIds allowedSystemIds : List String)
  failurePolicy : Option FailurePolicy
  recoveryPolicy : Option RecoveryPolicy
  metadata : Metadata

structure EnterpriseTeam extends BaseEntity where
  nodeIds : List String

structure OrgUnit extends BaseEntity where
  parentOrgUnitId : Option String
  (positionIds personIds : List String)

structure Position extends BaseEntity where
  orgUnitId : String
  reportsToPositionId : Option String
  personIds : List String
  approvalLimit : Option JsNumber
  backupPositionId : Option String

structure Person extends BaseEntity where
  (positionIds orgUnitIds : List String)

structure Membership extends BaseEntity where
  personId : String
  (positionId orgUnitId teamId : Option String)
  (validFrom validTo : Option Timestamp)
  allocationPercent : Option JsNumber

structure AuthorityRule extends BaseEntity where
  subject : EntityRef
  action : String
  object : EntityRef
  condition : Option Metadata
  (delegable requiresAuditLog : Bool)

structure ResponsibilityMatrixEntry extends BaseEntity where
  (scope responsible : EntityRef)
  accountable : Option EntityRef
  (consulted informed : List EntityRef)

inductive Criticality where
  | low | medium | high | critical | unknown
  deriving DecidableEq

structure EnterpriseSystem extends BaseEntity where
  dataDomainIds : List String
  criticality : Criticality

inductive ToolType where
  | readOnly | write | externalAction | analysis | unknown
  deriving DecidableEq

structure EnterpriseTool extends BaseEntity where
  toolType : ToolType
  systemId : Option String

structure ProcessDefinition extends BaseEntity where
  ownerNodeId : Option String
  stepNodeIds : List String
  accountablePositionId : Option String
  slaMs : Option JsNumber

structure EnterpriseRelation extends BaseEntity where
  relationType : RelationType
  (source target : EntityRef)
  label : Option String
  (scope condition : Option Metadata)
  metadata : Metadata

structure EnterpriseTopology extends BaseEntity where
  nodes : List NodeContract
  teams : List EnterpriseTeam
  orgUnits : List OrgUnit
  positions : List Position
  persons : List Person
  memberships : List Membership
  authorityRules : List AuthorityRule
  responsibilities : List ResponsibilityMatrixEntry
  systems : List EnterpriseSystem
  tools : List EnterpriseTool
  processes : List ProcessDefinition
  relations : List EnterpriseRelation
  metadata : Metadata

inductive ContractCode where
  | missingRequiredField | invalidNodeOwner | invalidRelationEndpoint
  deriving DecidableEq

/-- An issue of the contract.  `context` is the entity in whose array element the
path lies, as `inferEntityContextFromPath` finds it. -/
structure ContractIssue where
  path : String
  code : ContractCode
  message : String
  context : Option (EntityType × String)

section Checks

variable (context : Option (EntityType × String))

def validateRequiredString (value key path : String) : List ContractIssue :=
  if (jsTrim value).length > 0 then []
  else [⟨s!"{path}.{key}", .missingRequiredField, s!"{key} must be a non-empty string.", context⟩]

def validateTimestamp (value : Timestamp) (key path : String) : List ContractIssue :=
  let issue : ContractIssue :=
    ⟨s!"{path}.{key}", .missingRequiredField, s!"{key} must be a timestamp.", context⟩
  match value with
  | .number (.finite _) => []
  | .number _ => [issue]
  | .text value => if jsTrim value = "" then [issue] else []

def validateBaseEntity (entity : BaseEntity) (path : String) : List ContractIssue :=
  validateRequiredString context entity.id "id" path ++
    validateRequiredString context entity.name "name" path ++
    validateTimestamp context entity.createdAt "createdAt" path ++
    validateTimestamp context entity.updatedAt "updatedAt" path

/-- The type of a reference is one of the declared ones, so it is not blank. -/
def validateEntityRef (reference : EntityRef) (path : String) : List ContractIssue :=
  validateRequiredString context reference.id "id" path

def validateNodeContract (node : NodeContract) (path : String) : List ContractIssue :=
  validateBaseEntity context node.toBaseEntity path ++
    match node.owner with
    | none => []
    | some owner =>
      validateEntityRef context owner s!"{path}.owner" ++
        if owner.entityType ∈ [.position, .orgUnit, .person, .enterpriseSystem] then []
        else [⟨s!"{path}.owner.entityType", .invalidNodeOwner,
          "Node owner must reference Position, OrgUnit, Person, or System.", context⟩]

end Checks

/-- `endpointAllowed`; `isEnterpriseRelationEndpointAllowed` has the same pairs as a table. -/
def endpointAllowed (relationType : RelationType) (source target : EntityType) : Bool :=
  match relationType with
  | .delegatesTo => source = .node && target = .node
  | .reportsTo => (source = .position && target = .position) ||
      (source = .person && target = .person)
  | .belongsTo => (source = .node && target = .team) || (source = .position && target = .orgUnit) ||
      (source = .person && target = .orgUnit) || (source = .team && target = .orgUnit)
  | .approves => [EntityType.position, .person, .orgUnit].contains source &&
      [EntityType.node, .processDefinition, .enterpriseSystem, .enterpriseTool].contains target
  | .owns => [EntityType.position, .person, .orgUnit, .node].contains source &&
      [EntityType.node, .processDefinition, .enterpriseSystem, .enterpriseTool].contains target
  | .usesSystem => [EntityType.node, .processDefinition].contains source &&
      target = .enterpriseSystem
  | .usesTool => source = .node && target = .enterpriseTool
  | .hasAccessTo => [EntityType.node, .position, .person, .orgUnit].contains source &&
      [EntityType.enterpriseSystem, .enterpriseTool].contains target
  | .accountableFor => [EntityType.position, .person, .orgUnit, .node].contains source &&
      [EntityType.node, .processDefinition].contains target
  | .collaboratesWith | .informs =>
      [EntityType.node, .team, .orgUnit, .position, .person].contains source &&
        [EntityType.node, .team, .orgUnit, .position, .person].contains target
  | .escalatesTo | .consults => [EntityType.node, .position, .person].contains source &&
      [EntityType.node, .position, .person].contains target
  | .dependsOn =>
      [EntityType.node, .processDefinition, .enterpriseSystem, .enterpriseTool].contains source &&
        [EntityType.node, .processDefinition, .enterpriseSystem, .enterpriseTool].contains target

def validateEnterpriseRelation (context : Option (EntityType × String))
    (relation : EnterpriseRelation) (path : String) : List ContractIssue :=
  validateBaseEntity context relation.toBaseEntity path ++
    validateEntityRef context relation.source s!"{path}.from" ++
    validateEntityRef context relation.target s!"{path}.to" ++
    if endpointAllowed relation.relationType relation.source.entityType relation.target.entityType
    then []
    else [⟨s!"{path}.to.entityType", .invalidRelationEndpoint,
      "Relation source and target entity types are not compatible.", context⟩]

def validateEntityArray {α : Type} (collection : List α) (key : String) (entityType : EntityType)
    (id : α → String)
    (validateItem : Option (EntityType × String) → α → String → List ContractIssue) :
    List ContractIssue :=
  collection.zipIdx.flatMap fun (item, index) =>
    validateItem (some (entityType, id item)) item s!"$.{key}[{index}]"

def validateEnterpriseTopology (topology : EnterpriseTopology) : List ContractIssue :=
  validateBaseEntity none topology.toBaseEntity "$" ++
    validateEntityArray topology.nodes "nodes" .node (·.id) validateNodeContract ++
    validateEntityArray topology.teams "teams" .team (·.id)
      (fun context team => validateBaseEntity context team.toBaseEntity) ++
    validateEntityArray topology.orgUnits "orgUnits" .orgUnit (·.id)
      (fun context orgUnit => validateBaseEntity context orgUnit.toBaseEntity) ++
    validateEntityArray topology.positions "positions" .position (·.id)
      (fun context position path => validateBaseEntity context position.toBaseEntity path ++
        validateRequiredString context position.orgUnitId "orgUnitId" path) ++
    validateEntityArray topology.persons "persons" .person (·.id)
      (fun context person => validateBaseEntity context person.toBaseEntity) ++
    validateEntityArray topology.memberships "memberships" .membership (·.id)
      (fun context membership path => validateBaseEntity context membership.toBaseEntity path ++
        validateRequiredString context membership.personId "personId" path) ++
    validateEntityArray topology.authorityRules "authorityRules" .authorityRule (·.id)
      (fun context rule => validateBaseEntity context rule.toBaseEntity) ++
    validateEntityArray topology.responsibilities "responsibilities" .responsibilityMatrixEntry
      (·.id) (fun context entry => validateBaseEntity context entry.toBaseEntity) ++
    validateEntityArray topology.systems "systems" .enterpriseSystem (·.id)
      (fun context system => validateBaseEntity context system.toBaseEntity) ++
    validateEntityArray topology.tools "tools" .enterpriseTool (·.id)
      (fun context tool => validateBaseEntity context tool.toBaseEntity) ++
    validateEntityArray topology.processes "processes" .processDefinition (·.id)
      (fun context process => validateBaseEntity context process.toBaseEntity) ++
    validateEntityArray topology.relations "relations" .relation (·.id) validateEnterpriseRelation

end Knowbee.Topology
