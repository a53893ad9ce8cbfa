import Knowbee.Lib.SortedMap
import Knowbee.Topology.EnterpriseRules

/-!
# The topology compiler

A topology that the validator finds executable is compiled into a snapshot: the delegation tree,
what each node can delegate to, and what tools and systems each node has.
-/

namespace Knowbee.Topology

/-- The hash of a topology with sorted keys, and the id of a snapshot from its
topology, version and hash. -/
structure CompilerPlatform extends Platform where
  computeTopologySourceHash : EnterpriseTopology → String
  buildCompiledTopologySnapshotId : String → String → String → String

structure CompileTopologyOptions where
  compiledTopologySnapshotId : Option String := none
  sourceTopologyVersion : Option String := none
  validationOptions : TopologyValidatorOptions := {}

def fromEntries {V : Type} (entries : List (String × V)) : SortedMap String V :=
  entries.foldl (fun record entry => record.insert entry.1 entry.2) .empty

/-- A field of a record that may be absent. -/
def valuesOf (record : SortedMap String (List String)) (key : String) : List String :=
  (record.get? key).getD []

structure DelegationGraph where
  (edges parents : SortedMap String (List String))

/-- `edges[parent] = addUnique(edges[parent] ?? [], child)`, and the converse. -/
def addDelegationEdge (graph : DelegationGraph) (edge : String × String) : DelegationGraph where
  edges := graph.edges.insert edge.1 (setAdd (valuesOf graph.edges edge.1) [edge.2])
  parents := graph.parents.insert edge.2 (setAdd (valuesOf graph.parents edge.2) [edge.1])

variable (topology : EnterpriseTopology)

def childPairs : List (String × String) :=
  topology.nodes.flatMap fun node => node.children.map fun child => (node.id, child)

def relationPairs : List (String × String) :=
  (topology.relations.filter (·.isDelegation)).map fun relation =>
    (relation.source.id, relation.target.id)

/-- The edges: those of the relations, or of the children lists if there are none. -/
def delegationPairs : List (String × String) :=
  (if (topology.relations.filter (·.isDelegation)).length = 0 then childPairs topology else []) ++
    relationPairs topology

def buildDelegationGraph : DelegationGraph :=
  let empty := fromEntries (topology.nodes.map fun node => (node.id, []))
  (delegationPairs topology).foldl addDelegationEdge ⟨empty, empty⟩

structure CompiledDelegationTree where
  (rootNodeIds rootChildNodeIds exitNodeIds : List String)
  (edges parents : SortedMap String (List String))
  incomingEdgeCountByNodeId : SortedMap String Nat

def buildCompiledDelegationTree (graph : DelegationGraph) : CompiledDelegationTree :=
  let nodeIds := topology.nodes.map (·.id)
  let childIds := graph.edges.values.flatten
  let rootNodeIds := nodeIds.filter fun nodeId => nodeId ∉ childIds
  { rootNodeIds
    rootChildNodeIds := rootNodeIds
    exitNodeIds := nodeIds.filter fun nodeId => (valuesOf graph.edges nodeId).length = 0
    edges := graph.edges
    parents := graph.parents
    incomingEdgeCountByNodeId := fromEntries (nodeIds.map fun nodeId =>
      (nodeId, (valuesOf graph.parents nodeId).length)) }

structure CompiledDelegationScope where
  nodeId : String
  (directChildNodeIds descendantNodeIds : List String)
  maxDepth : Nat

/-- Every vertex that is found adds its edges to the queue once, so the queue is
worked off after as many steps as there are edges. -/
def collectDescendants (nodeId : String) (edges : SortedMap String (List String)) :
    List String × Nat :=
  let queue := (valuesOf edges nodeId).map fun child => (child, 1)
  Digraph.collect (valuesOf edges) (queue.length + (edges.values.map List.length).sum) queue [] 0

def buildDelegationScope (nodeId : String) (tree : CompiledDelegationTree) :
    CompiledDelegationScope :=
  let (descendantNodeIds, maxDepth) := collectDescendants nodeId tree.edges
  { nodeId, directChildNodeIds := valuesOf tree.edges nodeId, descendantNodeIds, maxDepth }

def buildDelegationScopeMap (tree : CompiledDelegationTree) :
    SortedMap String CompiledDelegationScope :=
  fromEntries (topology.nodes.map fun node => (node.id, buildDelegationScope node.id tree))

structure ToolScopeBuilder where
  declaredToolIds : List String := []
  declaredSystemIds : List String := []
  backingSystemIds : List String := []
  toolRelationIds : List String := []
  systemRelationIds : List String := []

def ToolScopeBuilder.add (builder : ToolScopeBuilder) (relation : EnterpriseRelation) :
    ToolScopeBuilder :=
  if relation.grants .usesTool .enterpriseTool then
    { builder with
      declaredToolIds := setAdd builder.declaredToolIds [relation.target.id]
      toolRelationIds := setAdd builder.toolRelationIds [relation.id]
      backingSystemIds := setAdd builder.backingSystemIds
        ((entityById? (·.id) topology.tools relation.target.id).bind EnterpriseTool.systemId).toList }
  else if relation.grants .usesSystem .enterpriseSystem then
    { builder with
      declaredSystemIds := setAdd builder.declaredSystemIds [relation.target.id]
      systemRelationIds := setAdd builder.systemRelationIds [relation.id] }
  else if relation.grants .hasAccessTo .enterpriseTool then
    { builder with
      declaredToolIds := setAdd builder.declaredToolIds [relation.target.id]
      toolRelationIds := setAdd builder.toolRelationIds [relation.id] }
  else if relation.grants .hasAccessTo .enterpriseSystem then
    { builder with
      declaredSystemIds := setAdd builder.declaredSystemIds [relation.target.id]
      systemRelationIds := setAdd builder.systemRelationIds [relation.id] }
  else builder

/-- What the relations of a declared node build, in their order. -/
def toolScopeBuilder (nodeId : String) : ToolScopeBuilder :=
  (topology.relations.filter fun relation =>
    relation.source.entityType = .node && relation.source.id = nodeId).foldl
      (ToolScopeBuilder.add topology) {}

def dataDomainIdsForSystems (systemIds : List String) : List String :=
  setAdd [] (systemIds.flatMap fun systemId =>
    match entityById? (·.id) topology.systems systemId with
    | none => []
    | some system => system.dataDomainIds)

structure CompiledToolScope where
  nodeId : String
  (allowedToolIds declaredToolIds effectiveToolIds allowedSystemIds declaredSystemIds : List String)
  (backingSystemIds effectiveSystemIds declaredDataDomainIds effectiveDataDomainIds : List String)
  (toolRelationIds systemRelationIds : List String)

def buildToolScope (node : NodeContract) : CompiledToolScope :=
  let builder := toolScopeBuilder topology node.id
  let allDeclaredSystemIds := setAdd builder.declaredSystemIds builder.backingSystemIds
  let effectiveSystemIds := node.allowedSystemIds.filter (· ∈ allDeclaredSystemIds)
  { nodeId := node.id
    __ := node
    declaredToolIds := builder.declaredToolIds
    effectiveToolIds := node.allowedToolIds.filter (· ∈ builder.declaredToolIds)
    declaredSystemIds := builder.declaredSystemIds
    backingSystemIds := builder.backingSystemIds
    effectiveSystemIds
    declaredDataDomainIds := dataDomainIdsForSystems topology allDeclaredSystemIds
    effectiveDataDomainIds := dataDomainIdsForSystems topology effectiveSystemIds
    toolRelationIds := builder.toolRelationIds
    systemRelationIds := builder.systemRelationIds }

def buildToolScopeIndex : SortedMap String CompiledToolScope :=
  fromEntries (topology.nodes.map fun node => (node.id, buildToolScope topology node))

structure CompiledAuthorityScope where
  target : EntityRef
  authorityRuleIds : List String := []
  approvalRelationIds : List String := []
  approverRefs : List EntityRef := []

def buildCompiledEntityRefKey (reference : EntityRef) : String :=
  s!"{reference.entityType.text}|{reference.id}"

/-- References are compared by their keys. -/
def addUniqueRefs (values nextValues : List EntityRef) : List EntityRef :=
  nextValues.foldl (fun values next =>
    if values.any fun value => buildCompiledEntityRefKey value = buildCompiledEntityRefKey next
    then values else values ++ [next]) values

def changeEntry {V : Type} (record : SortedMap String V) (key : String) (fresh : V)
    (change : V → V) : SortedMap String V :=
  record.insert key (change ((record.get? key).getD fresh))

def buildAuthorityScopeIndex : SortedMap String CompiledAuthorityScope :=
  let approved := (topology.relations.filter (·.relationType = .approves)).foldl
    (fun record relation => changeEntry record (buildCompiledEntityRefKey relation.target)
      { target := relation.target } fun scope => { scope with
        approvalRelationIds := setAdd scope.approvalRelationIds [relation.id]
        approverRefs := addUniqueRefs scope.approverRefs [relation.source] }) .empty
  topology.authorityRules.foldl
    (fun record rule => changeEntry record (buildCompiledEntityRefKey rule.object)
      { target := rule.object } fun scope => { scope with
        authorityRuleIds := setAdd scope.authorityRuleIds [rule.id]
        approverRefs := addUniqueRefs scope.approverRefs [rule.subject] }) approved

structure CompiledProcessFlow where
  processId : String
  ownerNodeId : Option String
  stepNodeIds : List String
  accountablePositionId : Option String
  transitionRelationIds : List String

def addTransition (record : SortedMap String CompiledProcessFlow) (reference : EntityRef)
    (relationId : String) : SortedMap String CompiledProcessFlow :=
  if reference.entityType = .processDefinition then
    match record.get? reference.id with
    | none => record
    | some flow => record.insert reference.id
        { flow with transitionRelationIds := setAdd flow.transitionRelationIds [relationId] }
  else record

def buildProcessFlowIndex : SortedMap String CompiledProcessFlow :=
  (topology.relations.filter (·.relationType = .dependsOn)).foldl
    (fun record relation =>
      addTransition (addTransition record relation.source relation.id) relation.target relation.id)
    (fromEntries (topology.processes.map fun process => (process.id,
      { processId := process.id
        __ := process
        transitionRelationIds := [] })))

structure CompiledResponsibilityScope where
  scope : EntityRef
  responsibilityEntryIds : List String := []
  responsibleRefs : List EntityRef := []
  accountableRefs : List EntityRef := []
  consultedRefs : List EntityRef := []
  informedRefs : List EntityRef := []

structure CompiledResponsibilityIndex where
  byScopeKey : SortedMap String CompiledResponsibilityScope
  byResponsibleKey : SortedMap String (List String)

def buildResponsibilityIndex : CompiledResponsibilityIndex where
  byScopeKey := topology.responsibilities.foldl
    (fun record entry => changeEntry record (buildCompiledEntityRefKey entry.scope)
      { scope := entry.scope } fun existing => { existing with
        responsibilityEntryIds := setAdd existing.responsibilityEntryIds [entry.id]
        responsibleRefs := addUniqueRefs existing.responsibleRefs [entry.responsible]
        accountableRefs := addUniqueRefs existing.accountableRefs entry.accountable.toList
        consultedRefs := addUniqueRefs existing.consultedRefs entry.consulted
        informedRefs := addUniqueRefs existing.informedRefs entry.informed }) .empty
  byResponsibleKey := topology.responsibilities.foldl
    (fun record entry => changeEntry record (buildCompiledEntityRefKey entry.responsible) []
      fun existing => setAdd existing [entry.id]) .empty

structure CompiledNode where
  node : NodeContract
  (parentNodeIds childNodeIds : List String)

def buildNodeIndex (tree : CompiledDelegationTree) : SortedMap String CompiledNode :=
  fromEntries (topology.nodes.map fun node =>
    (node.id, ⟨node, valuesOf tree.parents node.id, valuesOf tree.edges node.id⟩))

structure CompiledRuntimeExecutionContext where
  topologyId : String
  (rootChildNodeIds exitNodeIds : List String)
  (nodeCount delegationEdgeCount : Nat)

structure CompiledTopologySnapshot where
  (compiledTopologySnapshotId topologyId sourceTopologyVersion sourceTopologyHash : String)
  (issueCount warningCount infoCount : Nat)
  nodeIndex : SortedMap String CompiledNode
  parentChildTree : CompiledDelegationTree
  delegationScopeMap : SortedMap String CompiledDelegationScope
  authorityScopeIndex : SortedMap String CompiledAuthorityScope
  toolScopeIndex : SortedMap String CompiledToolScope
  processFlowIndex : SortedMap String CompiledProcessFlow
  responsibilityIndex : CompiledResponsibilityIndex
  runtimeExecutionContext : CompiledRuntimeExecutionContext

def normalizeSourceTopologyVersion (platform : Platform) (topology : EnterpriseTopology)
    (sourceTopologyVersion : Option String) : String :=
  sourceTopologyVersion.getD (match topology.updatedAt with
    | .number value => platform.numberText value
    | .text value => value)

def snapshotOf (platform : CompilerPlatform) (topology : EnterpriseTopology)
    (options : CompileTopologyOptions) (validation : TopologyValidationResult) :
    CompiledTopologySnapshot :=
  let version := normalizeSourceTopologyVersion platform.toPlatform topology
    options.sourceTopologyVersion
  let hash := platform.computeTopologySourceHash topology
  let tree := buildCompiledDelegationTree topology (buildDelegationGraph topology)
  { compiledTopologySnapshotId := options.compiledTopologySnapshotId.getD
      (platform.buildCompiledTopologySnapshotId topology.id version hash)
    topologyId := topology.id
    sourceTopologyVersion := version
    sourceTopologyHash := hash
    issueCount := validation.issues.length
    warningCount := validation.issues.countP (·.severity = .warning)
    infoCount := validation.issues.countP (·.severity = .info)
    nodeIndex := buildNodeIndex topology tree
    parentChildTree := tree
    delegationScopeMap := buildDelegationScopeMap topology tree
    authorityScopeIndex := buildAuthorityScopeIndex topology
    toolScopeIndex := buildToolScopeIndex topology
    processFlowIndex := buildProcessFlowIndex topology
    responsibilityIndex := buildResponsibilityIndex topology
    runtimeExecutionContext :=
      { topologyId := topology.id
        __ := tree
        nodeCount := topology.nodes.length
        delegationEdgeCount := (tree.edges.values.map List.length).sum } }

/-- The snapshot, or the issues that refuse the topology. -/
def compileTopology (platform : CompilerPlatform) (topology : EnterpriseTopology)
    (options : CompileTopologyOptions := {}) :
    Except (List TopologyValidatorIssue) CompiledTopologySnapshot :=
  let validation := validateTopology platform.toPlatform topology options.validationOptions
  if validation.executable then .ok (snapshotOf platform topology options validation)
  else .error (validation.issues.filter fun issue => isBlockingSeverity issue.severity)

end Knowbee.Topology
