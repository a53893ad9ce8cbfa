import Knowbee.Delegation.Relationship
import Knowbee.Lib.Forest
import Mathlib.Data.List.Dedup

/-!
# The hierarchy of agents

`hierarchy.ts` and its table.  A service has a root, the agents it knows, its
limits and the comparison of texts of its locale.
-/

namespace Knowbee.Delegation

structure DbAgentRelationship where
  (edgeId parentAgentId childAgentId : String)
  relationshipType : RelationshipType
  status : AgentRelationshipStatus
  sortOrder : JsNumber
  auditId : Option String
  (createdAt updatedAt : Int)

/-- The columns of the unique constraint. -/
def DbAgentRelationship.pair (row : DbAgentRelationship) : String × String × RelationshipType :=
  (row.parentAgentId, row.childAgentId, row.relationshipType)

def relationshipFromRow (row : DbAgentRelationship) : AgentRelationship where
  __ := row
  createdAt := some row.createdAt
  updatedAt := some row.updatedAt

/-- The table, with its primary key and its unique constraint. -/
structure RelationshipStore where
  rows : List DbAgentRelationship
  edgeIds : (rows.map (·.edgeId)).Nodup
  pairs : (rows.map (·.pair)).Nodup

namespace RelationshipStore

def empty : RelationshipStore := ⟨[], List.nodup_nil, List.nodup_nil⟩

/-- `getAgentRelationship`. -/
def find? (store : RelationshipStore) (edgeId : String) : Option DbAgentRelationship :=
  store.rows.find? (·.edgeId = edgeId)

/-- The row that is inserted, or that an older one of its edge becomes. -/
def upserted (input : AgentRelationship) (auditId : Option String) (now createdAt : Int) :
    DbAgentRelationship where
  __ := input
  auditId
  createdAt
  updatedAt := now

def upsertedRows (store : RelationshipStore) (input : AgentRelationship) (auditId : Option String)
    (now : Int) : List DbAgentRelationship :=
  match store.find? input.edgeId with
  | some _ => store.rows.map fun row =>
      if row.edgeId = input.edgeId then upserted input auditId now row.createdAt else row
  | none => store.rows ++ [upserted input auditId now (input.createdAt.getD now)]

/-- `upsertAgentRelationship`, which throws where a constraint of the table is broken. -/
def upsertAgentRelationship (store : RelationshipStore) (input : AgentRelationship)
    (auditId : Option String) (now : Int) : Option RelationshipStore :=
  let rows := upsertedRows store input auditId now
  if checks : input.relationshipType = .parentChild ∧ input.status ≠ .other ∧
      (rows.map (·.edgeId)).Nodup ∧ (rows.map (·.pair)).Nodup then
    some ⟨rows, checks.2.2.1, checks.2.2.2⟩
  else none

end RelationshipStore

def listedBefore (a b : DbAgentRelationship) : Bool :=
  if a.parentAgentId ≠ b.parentAgentId then a.parentAgentId < b.parentAgentId
  else if a.sortOrder ≠ b.sortOrder then a.sortOrder.lt b.sortOrder
  else a.edgeId ≤ b.edgeId

variable (service : HierarchyService) (store : RelationshipStore)
  (relationship : AgentRelationship) (input : RelationshipInput)

def listAgentRelationships (status : AgentRelationshipStatus) : List DbAgentRelationship :=
  (store.rows.filter (·.status = status)).insertionSort fun a b => listedBefore a b

/-- What a service is made with; `agents` are the keys of `agentSummaries`. -/
structure HierarchyService where
  rootAgentId : String
  agents : List String
  (maxDepthSetting maxChildCountSetting : Option JsNumber)
  localeCompare : String → String → Int

def positiveIntegerOrDefault (value : Option JsNumber) (fallback : Nat) : Nat :=
  match value with
  | some (.finite number) => if number.isInt ∧ 0 < number then number.num.toNat else fallback
  | _ => fallback

namespace HierarchyService

variable (service : HierarchyService)

def maxDepth : Nat :=
  positiveIntegerOrDefault service.maxDepthSetting 5

def maxChildCount : JsNumber :=
  service.maxChildCountSetting.getD (.ofNat 10)

/-- `relationshipSort`: the first of two does not come after the second. -/
def relationshipLe (left right : AgentRelationship) : Bool :=
  let parents := service.localeCompare left.parentAgentId right.parentAgentId
  if parents ≠ 0 then parents < 0
  else if left.sortOrder ≠ right.sortOrder then left.sortOrder.lt right.sortOrder
  else service.localeCompare left.edgeId right.edgeId ≤ 0

def relationshipSort (relationships : List AgentRelationship) : List AgentRelationship :=
  relationships.insertionSort fun a b => service.relationshipLe a b

def activeRelationships (store : RelationshipStore) : List AgentRelationship :=
  service.relationshipSort ((listAgentRelationships store .active).map relationshipFromRow)

end HierarchyService

/-- `parentByChild`: the parent in the last active relationship of a child. -/
def parentByChild (relationships : List AgentRelationship) (childAgentId : String) : Option String :=
  ((activeOnly relationships).filter (·.childAgentId = childAgentId)).getLast?.map (·.parentAgentId)

def childrenByParent (relationships : List AgentRelationship) (parentAgentId : String) :
    List String :=
  (service.relationshipSort
    ((activeOnly relationships).filter (·.parentAgentId = parentAgentId))).map (·.childAgentId)

/-- `descendantAgentIds`, with fuel for every relationship that is put on its stack. -/
def descendantAgentIds (agentId : String) (relationships : List AgentRelationship) : List String :=
  let children := childrenByParent service relationships
  Forest.search children ((children agentId).length +
    Digraph.remaining children (relationships.map (·.childAgentId)) []) (children agentId) []

def hasPath (fromAgentId toAgentId : String) (relationships : List AgentRelationship) : Bool :=
  toAgentId ∈ descendantAgentIds service fromAgentId relationships

/-- `depthOf`; nothing stands for infinity.  Every turn of its loop meets another parent. -/
def depthOf (agentId rootAgentId : String) (relationships : List AgentRelationship) : Option Nat :=
  if agentId = rootAgentId then some 0
  else Forest.climb (parentByChild relationships) rootAgentId (relationships.length + 1) [agentId]
    agentId 1

/-- A relationship as it is asked for; a value of another type is absent where it is a
text, and is not a number where it is one. -/
structure RelationshipInput where
  (edgeId parentAgentId childAgentId : Option String)
  relationshipType : Option RelationshipType
  status : Option AgentRelationshipStatus
  sortOrder : Option JsNumber
  (createdAt updatedAt : Option Int)

def asString (value : Option String) : Option String := value.filter fun text => jsTrim text ≠ ""

def defaultEdgeId (parentAgentId childAgentId : String) : String :=
  "relationship:" ++ parentAgentId ++ "->" ++ childAgentId

def normalizeRelationshipInput (value : RelationshipInput) (now : Int) (nextSortOrder : Nat) :
    AgentRelationship :=
  let parentAgentId := (asString value.parentAgentId).getD ""
  let childAgentId := (asString value.childAgentId).getD ""
  { edgeId := (asString value.edgeId).getD
      (if parentAgentId ≠ "" ∧ childAgentId ≠ "" then defaultEdgeId parentAgentId childAgentId
      else "")
    parentAgentId
    childAgentId
    relationshipType := value.relationshipType.getD .parentChild
    status := value.status.getD .active
    sortOrder := value.sortOrder.getD (.ofNat nextSortOrder)
    createdAt := some (value.createdAt.getD now)
    updatedAt := some (value.updatedAt.getD now) }

inductive HierarchyDiagnosticSeverity where
  | info | warning | blocked
  deriving DecidableEq

structure AgentHierarchyDiagnostic where
  reasonCode : String
  severity : HierarchyDiagnosticSeverity
  message : String
  (edgeId parentAgentId childAgentId : Option String)
  (limit value : Option JsNumber)
  path : Option String

def includesDifferent (message : String) : Bool :=
  message.toList.tails.any fun rest => "different".toList.isPrefixOf rest

def contractIssueDiagnostic (issue : ContractIssue) (relationship : AgentRelationship) :
    AgentHierarchyDiagnostic where
  reasonCode :=
    if issue.path = "$.childAgentId" ∧ includesDifferent issue.message then "self_parent_blocked"
    else if issue.path = "$.status" then "invalid_relationship_status"
    else "invalid_relationship_contract"
  severity := .blocked
  message := issue.message
  edgeId := (some relationship.edgeId).filter (· ≠ "")
  parentAgentId := (some relationship.parentAgentId).filter (· ≠ "")
  childAgentId := (some relationship.childAgentId).filter (· ≠ "")
  limit := none
  value := none
  path := some issue.path

def relationshipDiagnostic (reasonCode message : String) (limit value : Option JsNumber) :
    AgentHierarchyDiagnostic :=
  ⟨reasonCode, .blocked, message, some relationship.edgeId, some relationship.parentAgentId,
    some relationship.childAgentId, limit, value, none⟩

def endpointDiagnostics : List AgentHierarchyDiagnostic :=
  (if relationship.childAgentId = service.rootAgentId then
    [relationshipDiagnostic relationship "knowbee_parent_forbidden"
      "The root main agent must remain parentless and cannot be a child." none none] else []) ++
  (if relationship.parentAgentId ∉ service.agents then
    [relationshipDiagnostic relationship "unknown_parent_agent"
      ("Parent agent " ++ relationship.parentAgentId ++ " is not defined.") none none] else []) ++
  (if relationship.childAgentId ∉ service.agents then
    [relationshipDiagnostic relationship "unknown_child_agent"
      ("Child agent " ++ relationship.childAgentId ++ " is not defined.") none none] else [])

def nextChildCount (active : List AgentRelationship) : Nat :=
  ((active.filter (·.parentAgentId = relationship.parentAgentId)).map (·.childAgentId) ++
    [relationship.childAgentId]).dedup.length

def depthNumber : Option Nat → JsNumber
  | some depth => .ofNat depth
  | none => .infinity

def depthText : Option Nat → String
  | some depth => toString depth
  | none => "Infinity"

def tooDeep (maxDepth : Nat) (depth : Option Nat) : Bool :=
  match depth with
  | some depth => maxDepth < depth
  | none => true

/-- The agents whose depth an active relationship decides. -/
def affectedAgentIds (future : List AgentRelationship) : List String :=
  relationship.childAgentId :: descendantAgentIds service relationship.childAgentId future

def activeDiagnostics (active : List AgentRelationship) : List AgentHierarchyDiagnostic :=
  let future := service.relationshipSort (active ++ [relationship])
  let depth := fun agentId => depthOf agentId service.rootAgentId future
  (match active.find? fun candidate => candidate.parentAgentId = relationship.parentAgentId &&
      candidate.childAgentId = relationship.childAgentId with
  | some _ =>
    [relationshipDiagnostic relationship "duplicate_relationship_blocked"
      (relationship.parentAgentId ++ " already has " ++ relationship.childAgentId ++
        " as a direct child.") none none]
  | none => []) ++
  (match active.find? (·.childAgentId = relationship.childAgentId) with
  | some existingParent =>
    if existingParent.parentAgentId ≠ relationship.parentAgentId then
      [relationshipDiagnostic relationship "child_multi_parent_blocked"
        (relationship.childAgentId ++ " already has parent " ++ existingParent.parentAgentId ++ ".")
        none none]
    else []
  | none => []) ++
  (if service.maxChildCount.lt (.ofNat (nextChildCount relationship active)) then
    [relationshipDiagnostic relationship "max_child_count_exceeded"
      (relationship.parentAgentId ++ " would have " ++ toString (nextChildCount relationship active) ++
        " direct children.")
      (some service.maxChildCount) (some (.ofNat (nextChildCount relationship active)))] else []) ++
  (if hasPath service relationship.childAgentId relationship.parentAgentId active then
    [relationshipDiagnostic relationship "cycle_detected"
      "Adding this relationship would create a cycle." none none] else []) ++
  (match (affectedAgentIds service relationship future).find? fun agentId =>
      tooDeep service.maxDepth (depth agentId) with
  | some agentId =>
    [relationshipDiagnostic relationship "max_depth_exceeded"
      (agentId ++ " would be at hierarchy depth " ++ depthText (depth agentId) ++ ".")
      (some (.ofNat service.maxDepth)) (some (depthNumber (depth agentId)))]
  | none => [])

structure AgentHierarchyValidationResult where
  ok : Bool
  relationship : AgentRelationship
  diagnostics : List AgentHierarchyDiagnostic

def relationshipWithDefaults (now : Int) : AgentRelationship :=
  normalizeRelationshipInput input now
    (match asString input.parentAgentId with
    | some parentAgentId =>
      ((service.activeRelationships store).filter (·.parentAgentId = parentAgentId)).length
    | none => 0)

def validateRelationship (now : Int) : AgentHierarchyValidationResult :=
  let relationship := relationshipWithDefaults service store input now
  let issues := validateAgentRelationship relationship
  if issues ≠ [] then
    ⟨false, relationship, issues.map fun issue => contractIssueDiagnostic issue relationship⟩
  else
    let diagnostics := endpointDiagnostics service relationship ++
      (if relationship.status = .active then
        activeDiagnostics service relationship
          ((service.activeRelationships store).filter (·.edgeId ≠ relationship.edgeId))
      else [])
    ⟨diagnostics.all (·.severity ≠ .blocked), relationship, diagnostics⟩

/-- `createRelationship`; without a result it throws. -/
def createRelationship (auditId : Option String) (now : Int) :
    RelationshipStore × Option AgentHierarchyValidationResult :=
  let result := validateRelationship service store input now
  if result.ok then
    match store.upsertAgentRelationship result.relationship auditId now with
    | none => (store, none)
    | some next =>
      (next, some { result with
        relationship := ((next.find? result.relationship.edgeId).map relationshipFromRow).getD
          result.relationship })
  else (store, some result)

/-- `disableRelationship`; the inner result is what it returns, without an outer one it
throws. -/
def disableRelationship (edgeId : String) (auditId : Option String) (now : Int) :
    RelationshipStore × Option (Option AgentRelationship) :=
  match store.find? edgeId with
  | none => (store, some none)
  | some row =>
    let relationship := { relationshipFromRow row with status := .disabled, updatedAt := some now }
    match store.upsertAgentRelationship relationship (auditId.or row.auditId) now with
    | none => (store, none)
    | some next =>
      (next, some (some (((next.find? edgeId).map relationshipFromRow).getD relationship)))

inductive HierarchyAction where
  | create (input : RelationshipInput) (auditId : Option String) (now : Int)
  | disable (edgeId : String) (auditId : Option String) (now : Int)

inductive HierarchyObservation where
  | created (result : Option AgentHierarchyValidationResult)
  | disabled (relationship : Option (Option AgentRelationship))

def hierarchyStep :
    HierarchyAction → RelationshipStore × HierarchyObservation
  | .create input auditId now =>
    let (next, result) := createRelationship service store input auditId now
    (next, .created result)
  | .disable edgeId auditId now =>
    let (next, relationship) := disableRelationship store edgeId auditId now
    (next, .disabled relationship)

end Knowbee.Delegation
