import Knowbee.Topology.Contract

/-!
# The repair before a topology is stored

Endpoints of delegation relations are recovered from the metadata, what refers to a tool or a
system that is gone is removed, the children lists are projected from the delegation relations,
and each node gets a profile.
-/

namespace Knowbee.Topology

inductive RepairSeverity where
  | info | warning | invalid

structure TopologyRepairIssue where
  code : String
  severity : RepairSeverity
  (message topologyId : String)
  nodeId : Option String := none
  relationId : Option String := none

/-- Assign a key of a record. -/
def Metadata.set (metadata : Metadata) (key : String) (value : MetadataValue) : Metadata :=
  if metadata.any (·.1 = key) then
    metadata.map fun field => if field.1 = key then (key, value) else field
  else metadata ++ [(key, value)]

/-- The record under a key, with something changed in it. -/
def Metadata.modifyRecord (metadata : Metadata) (key : String) (change : Metadata → Metadata) :
    Metadata :=
  match (metadata.get? key).bind MetadataValue.asRecord? with
  | none => metadata
  | some record => metadata.set key (.record (change record))

/-- A text that is not blank, trimmed. -/
def nonEmptyString (value : String) : Option String :=
  if jsTrim value = "" then none else some (jsTrim value)

def metadataText (container : Metadata) (key : String) : Option String :=
  match container.get? key with
  | some (.text value) => nonEmptyString value
  | _ => none

def STRUCTURED_FROM_NODE_KEYS : List String :=
  ["fromNodeId", "sourceNodeId", "fromExecutorId", "sourceExecutorId", "fromId", "sourceId"]

def STRUCTURED_TO_NODE_KEYS : List String :=
  ["toNodeId", "targetNodeId", "toExecutorId", "targetExecutorId", "toId", "targetId"]

def nodeRef (reference : EntityRef) (nodeIds : List String) : Option String :=
  if reference.entityType = .node then (nonEmptyString reference.id).filter (· ∈ nodeIds) else none

/-- The first key under which a relation names a node. -/
def structuredNodeId (metadata : Metadata) (nodeIds keys : List String) : Option String :=
  (metadata :: ((metadata.get? "executorGraph").bind MetadataValue.asRecord?).toList).findSome?
    fun container => keys.findSome? fun key => (metadataText container key).filter (· ∈ nodeIds)

def repairDelegationRelationEndpoints (topologyId : String) (nodeIds : List String)
    (relation : EnterpriseRelation) : EnterpriseRelation × List TopologyRepairIssue :=
  if relation.relationType ≠ .delegatesTo then (relation, [])
  else
    let source := nodeRef relation.source nodeIds
    let target := nodeRef relation.target nodeIds
    if source.isSome ∧ target.isSome then (relation, [])
    else
      match source <|> structuredNodeId relation.metadata nodeIds STRUCTURED_FROM_NODE_KEYS,
          target <|> structuredNodeId relation.metadata nodeIds STRUCTURED_TO_NODE_KEYS with
      | some sourceId, some targetId =>
        ({ relation with
            source := ⟨.node, sourceId⟩
            target := ⟨.node, targetId⟩
            metadata := relation.metadata.set "endpointRepair" (.record [
              ("repairedBy", .text "topology_persistence_repair"),
              ("source", .text "structured_endpoint_fields")]) },
          [{ code := "topology_relation_endpoint_repaired"
             severity := .warning
             message :=
              s!"Relation {relation.id} was repaired from structured endpoint fields."
             topologyId
             relationId := some relation.id }])
      | _, _ => (relation, [{
          code := "topology_relation_endpoint_unrepairable"
          severity := .invalid
          message := s!"Relation {relation.id} is missing structured node from/to endpoints and " ++
            "was not repaired from id or name text."
          topologyId
          relationId := some relation.id }])

/-- What counts for the projection of the children lists. -/
def activeRelation (relation : EnterpriseRelation) : Bool :=
  relation.status ≠ .archived && relation.status ≠ .inactive

section Missing

variable (toolIds systemIds : List String)

def startsWith (value start : String) : Bool := start.toList.isPrefixOf value.toList

/-- A hint of a tool or a system that is not there. -/
def isMissingHint : MetadataValue → Bool
  | .text item => (startsWith item "tool:" && item ∉ toolIds) ||
      (startsWith item "system:" && item ∉ systemIds)
  | _ => false

def inferredTools (record : Metadata) : List MetadataValue :=
  match record.get? "inferredTools" with
  | some (.list items) => items
  | _ => []

def removedHints (record : Metadata) : List String :=
  (inferredTools record).filterMap fun
    | .text item => if isMissingHint toolIds systemIds (.text item) then some item else none
    | _ => none

def filterResourceHints (record : Metadata) : Metadata :=
  match record.get? "inferredTools" with
  | some (.list items) =>
    record.set "inferredTools" (.list (items.filter fun item =>
      !isMissingHint toolIds systemIds item))
  | _ => record

def removeMissingFromNode (topologyId : String) (node : NodeContract) :
    NodeContract × List TopologyRepairIssue :=
  let issue (code message : String) : TopologyRepairIssue :=
    { code, severity := .warning, message, topologyId, nodeId := some node.id }
  ({ node with
      allowedToolIds := node.allowedToolIds.filter (· ∈ toolIds)
      allowedSystemIds := node.allowedSystemIds.filter (· ∈ systemIds)
      metadata := node.metadata.modifyRecord "executorGraph"
        (filterResourceHints toolIds systemIds) },
    ((node.allowedToolIds.filter (· ∉ toolIds)).map fun toolId =>
      issue "topology_missing_tool_reference_removed" (s!"Node {node.id} referenced missing tool " ++
        s!"{toolId}; the stale permission was removed.")) ++
    ((node.allowedSystemIds.filter (· ∉ systemIds)).map fun systemId =>
      issue "topology_missing_system_reference_removed" (s!"Node {node.id} referenced missing " ++
        s!"system {systemId}; the stale permission was removed.")) ++
    match (node.metadata.get? "executorGraph").bind MetadataValue.asRecord? with
    | none => []
    | some record => (removedHints toolIds systemIds record).map fun hint =>
        issue "topology_missing_resource_hint_removed" (s!"Node {node.id} metadata referenced " ++
          s!"missing resource {hint}; the stale hint was removed."))

def changeWorkspaceExecutors (change : Metadata → Metadata) (metadata : Metadata) : Metadata :=
  metadata.modifyRecord "executorGraph" fun graph => graph.modifyRecord "workspace" fun workspace =>
    match workspace.get? "executors" with
    | some (.list executors) => workspace.set "executors" (.list (executors.map fun
        | .record record => .record (change record)
        | other => other))
    | _ => workspace

def workspaceExecutors (metadata : Metadata) : List Metadata :=
  match (((metadata.get? "executorGraph").bind MetadataValue.asRecord?).bind
      (·.get? "workspace")).bind MetadataValue.asRecord? with
  | none => []
  | some workspace =>
    match workspace.get? "executors" with
    | some (.list executors) => executors.filterMap MetadataValue.asRecord?
    | _ => []

def removedWorkspaceHints (topologyId : String) (metadata : Metadata) : List TopologyRepairIssue :=
  (workspaceExecutors metadata).flatMap fun record =>
    (removedHints toolIds systemIds record).map fun hint =>
      let executorId := metadataText record "id"
      { code := "topology_missing_resource_hint_removed"
        severity := .warning
        message := s!"Workspace executor " ++ executorId.getD "unknown" ++
          s!" metadata referenced missing resource {hint}; the stale hint was removed."
        topologyId
        nodeId := executorId }

def isMissingTarget (relation : EnterpriseRelation) : Bool :=
  (relation.target.entityType = .enterpriseTool && relation.target.id ∉ toolIds) ||
    (relation.target.entityType = .enterpriseSystem && relation.target.id ∉ systemIds)

def removedRelation (topologyId : String) (relation : EnterpriseRelation) : TopologyRepairIssue :=
  let resource := if relation.target.entityType = .enterpriseTool then "tool" else "system"
  { code := "topology_missing_" ++ resource ++ "_relation_removed"
    severity := .warning
    message := s!"Relation {relation.id} referenced missing " ++ resource ++
      s!" {relation.target.id}; the stale relation was removed."
    topologyId
    relationId := some relation.id }

end Missing

variable (topology : EnterpriseTopology)

def availableToolIds : List String := (topology.tools.filter (·.status ≠ .archived)).map (·.id)

def availableSystemIds : List String := (topology.systems.filter (·.status ≠ .archived)).map (·.id)

def removeMissingResourceReferences : EnterpriseTopology × List TopologyRepairIssue :=
  let toolIds := availableToolIds topology
  let systemIds := availableSystemIds topology
  let nodes := topology.nodes.map (removeMissingFromNode toolIds systemIds topology.id)
  ({ topology with
      nodes := nodes.map Prod.fst
      metadata := changeWorkspaceExecutors (filterResourceHints toolIds systemIds) topology.metadata
      relations := topology.relations.filter (!isMissingTarget toolIds systemIds ·) },
    nodes.flatMap Prod.snd ++
      removedWorkspaceHints toolIds systemIds topology.id topology.metadata ++
      (topology.relations.filter (isMissingTarget toolIds systemIds)).map
        (removedRelation topology.id))

def hasDelegationRelation : Bool :=
  topology.relations.any fun relation =>
    relation.relationType = .delegatesTo && relation.status ≠ .archived

/-- The pair of nodes that a relation makes parent and child. -/
def projectedPair (nodeIds : List String) (relation : EnterpriseRelation) :
    Option (String × String) :=
  if relation.relationType ≠ .delegatesTo ∨ activeRelation relation = false then none
  else
    match nodeRef relation.source nodeIds, nodeRef relation.target nodeIds with
    | some source, some target => some (source, target)
    | _, _ => none

/-- The children that the relations give a node, in their order. -/
def projectedChildren (nodeIds : List String) (nodeId : String) : List String :=
  setAdd [] (((topology.relations.filterMap (projectedPair nodeIds)).filter (·.1 = nodeId)).map
    Prod.snd)

def syncNodeChildrenFromDelegationRelations (nodeIds : List String) :
    EnterpriseTopology × List TopologyRepairIssue :=
  if hasDelegationRelation topology = false then (topology, [])
  else
    ({ topology with nodes := topology.nodes.map fun node =>
        { node with children := projectedChildren topology nodeIds node.id } },
      (topology.nodes.filter fun node =>
        node.children ≠ projectedChildren topology nodeIds node.id).map fun node =>
          { code := "topology_node_children_reprojected"
            severity := .warning
            message := s!"Node {node.id} children were reprojected from delegates_to relations."
            topologyId := topology.id
            nodeId := some node.id })

def EXECUTOR_PROFILE_METADATA_KEY : String := "executorProfile"

/-- The left side of `??`: a value that is neither absent nor null. -/
def nonNull : Option MetadataValue → Option MetadataValue
  | some .null => none
  | value => value

def executorProfileMetadataValue (node : NodeContract) : Option MetadataValue :=
  nonNull (node.metadata.get? EXECUTOR_PROFILE_METADATA_KEY) <|>
    nonNull (node.template.bind (·.metadata.get? EXECUTOR_PROFILE_METADATA_KEY)) <|>
    ((node.metadata.get? "executorGraph").bind MetadataValue.asRecord?).bind
      (·.get? EXECUTOR_PROFILE_METADATA_KEY)

/-- A node with a profile; `profile` is `profileWithRequiredMinimums`. -/
def ensureExecutorProfile (profile : NodeContract → MetadataValue) (topologyId : String)
    (node : NodeContract) : NodeContract × List TopologyRepairIssue :=
  if node.status = .archived ∨ (executorProfileMetadataValue node).isSome then (node, [])
  else ({ node with
      metadata := node.metadata.set EXECUTOR_PROFILE_METADATA_KEY (profile node) },
    [{ code := "topology_executor_profile_created"
       severity := .info
       message := s!"Node {node.id} received a minimal executorProfile."
       topologyId
       nodeId := some node.id }])

def repairTopologyForPersistence (profile : NodeContract → MetadataValue)
    (topology : EnterpriseTopology) : EnterpriseTopology × List TopologyRepairIssue :=
  let nodeIds := topology.nodes.map (·.id)
  let relations := topology.relations.map (repairDelegationRelationEndpoints topology.id nodeIds)
  let (cleaned, missing) := removeMissingResourceReferences
    { topology with relations := relations.map Prod.fst }
  let (synced, projected) := syncNodeChildrenFromDelegationRelations cleaned nodeIds
  let nodes := synced.nodes.map (ensureExecutorProfile profile topology.id)
  ({ synced with nodes := nodes.map Prod.fst },
    relations.flatMap Prod.snd ++ missing ++ projected ++ nodes.flatMap Prod.snd)

end Knowbee.Topology
