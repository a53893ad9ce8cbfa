import Knowbee.Topology.Deletion
import Knowbee.Topology.Relinked

/-!
# A delegation that is created and deleted again

The relation stays in the topology, archived, and the validator reads it as it
reads the others: the edge of a deleted delegation is still there.  So the verdict
is what it was exactly if the relation is well formed, has an id of its own, and
neither closes a cycle nor makes a path too long.
-/

namespace Knowbee.Topology

open List EnterpriseTopology

/-- The children of a node after a delegation was created and deleted: the other
relations that the editor takes for active keep it among the children. -/
def unlinkedChildren (topology : EnterpriseTopology) (link : EnterpriseRelation)
    (node : NodeContract) : List String :=
  if node.id = link.source.id then
    if hasAnotherActiveRelation topology link link.id then
      uniqueValues (node.children ++ [link.target.id])
    else (uniqueValues (node.children ++ [link.target.id])).filter (· ≠ link.target.id)
  else node.children

variable {topology : EnterpriseTopology}

section Unlinked

variable {link : EnterpriseRelation} {node : NodeContract} {child : String}

lemma unlinkedChildren_added (inside : child ∈ unlinkedChildren topology link node) :
    child ∈ node.children ∨ (node.id = link.source.id ∧ child = link.target.id) := by
  unfold unlinkedChildren at inside
  split_ifs at inside with own another
  · have listed := (mem_uniqueValues.mp inside).1
    exact (mem_append.mp listed).imp_right fun new => ⟨own, mem_singleton.mp new⟩
  · have listed := (mem_uniqueValues.mp (mem_filter.mp inside).1).1
    exact (mem_append.mp listed).imp_right fun new => ⟨own, mem_singleton.mp new⟩
  · exact .inl inside

lemma unlinkedChildren_dropped (inside : child ∈ node.children) (some : jsTrim child ≠ "") :
    child ∈ unlinkedChildren topology link node ∨
      (node.id = link.source.id ∧ child = link.target.id) := by
  have still : child ∈ uniqueValues (node.children ++ [link.target.id]) :=
    mem_uniqueValues.mpr ⟨mem_append_left _ inside, some⟩
  unfold unlinkedChildren
  split_ifs with own another
  · exact .inl still
  · by_cases same : child = link.target.id
    · exact .inr ⟨own, same⟩
    · exact .inl (mem_filter.mpr ⟨still, decide_eq_true same⟩)
  · exact .inl inside

end Unlinked

lemma modifyGrant_delegation {relation : EnterpriseRelation} {change : List String → List String}
    (distinct : topology.nodeIds.Nodup) (delegation : relation.isDelegation = true) :
    modifyGrant topology relation change = { topology with
      nodes := topology.nodes.map (.withChildren fun node =>
        if node.id = relation.source.id then change node.children else node.children) } := by
  unfold EnterpriseRelation.isDelegation at delegation
  simp only [Bool.and_eq_true, decide_eq_true_eq] at delegation
  obtain ⟨⟨delegates, source⟩, target⟩ := delegation
  have list : relation.grantList = some .children := by
    unfold EnterpriseRelation.grantList
    rw [delegates, target]
  unfold modifyGrant modifyNode
  rw [if_neg (not_not.mpr source), list]
  dsimp only
  rw [modifyFirst_eq_map distinct]
  refine congrArg (fun nodes => { topology with nodes }) (map_congr_left fun node _ => ?_)
  dsimp [NodeContract.withChildren]
  split_ifs <;> rfl

section Operations

variable {link : CreateRelation} {created deleted : EnterpriseTopology}
  {createOperation deleteOperation : GuiOperation}
  (delegation : (createRelation link createOperation.time).isDelegation = true)

include delegation

lemma created_eq (distinct : topology.nodeIds.Nodup)
    (creates : createOperation.action = .createRelation link)
    (applied : applyOperation topology createOperation = .ok created) :
    findRelation topology link.relationId = none ∧
      created = topology.relinked (fun node => if node.id = link.source.id
          then uniqueValues (node.children ++ [link.target.id]) else node.children)
        (createRelation link createOperation.time) createOperation.time := by
  unfold applyOperation at applied
  rw [creates] at applied
  split_ifs at applied
  unfold applyCreateRelation at applied
  dsimp only at applied
  split_ifs at applied with known
  cases applied
  refine ⟨Option.not_isSome_iff_eq_none.mp known, ?_⟩
  have draft : (createRelation link createOperation.time).status ≠ .archived :=
    EntityStatus.noConfusion
  have distinct' : { topology with relations := topology.relations ++
      [createRelation link createOperation.time] : EnterpriseTopology }.nodeIds.Nodup := distinct
  unfold addRelationSideEffects
  rw [if_neg draft, modifyGrant_delegation distinct' delegation]
  rfl

lemma unlinked_eq (distinct : topology.nodeIds.Nodup)
    (creates : createOperation.action = .createRelation link)
    (deletes : deleteOperation.action = .deleteRelation link.relationId)
    (applied : applyOperation topology createOperation = .ok created)
    (applied' : applyOperation created deleteOperation = .ok deleted) :
    deleted = topology.relinked
      (unlinkedChildren topology (createRelation link createOperation.time))
      (archiveRelation deleteOperation.time (createRelation link createOperation.time))
      deleteOperation.time := by
  obtain ⟨fresh, rfl⟩ := created_eq delegation distinct creates applied
  generalize own : createRelation link createOperation.time = record at delegation ⊢
  have id : record.id = link.relationId := own ▸ rfl
  have source : record.source.id = link.source.id := own ▸ rfl
  have target : record.target.id = link.target.id := own ▸ rfl
  rw [own] at applied'
  unfold findRelation at fresh
  have found : findRelation (topology.relinked (fun node => if node.id = link.source.id
      then uniqueValues (node.children ++ [link.target.id]) else node.children) record
      createOperation.time) link.relationId = some record := by
    unfold findRelation relinked
    rw [find?_append, fresh, Option.none_or, find?_singleton]
    exact if_pos (decide_eq_true id)
  have another children :
      hasAnotherActiveRelation (topology.relinked children record createOperation.time) record
        record.id = hasAnotherActiveRelation topology record record.id := by
    unfold hasAnotherActiveRelation relinked
    rw [any_append]
    simp
  unfold applyOperation at applied'
  rw [deletes] at applied'
  split_ifs at applied'
  simp only [applyDeleteRelation, found] at applied'
  cases applied'
  unfold removeRelationSideEffects
  rw [another]
  have distinct' {children : NodeContract → List String} :
      (topology.relinked children record createOperation.time).nodeIds.Nodup :=
    nodeIds_relinked.symm ▸ distinct
  split_ifs with still
  · unfold modifyRelation relinked updateTopologyTimestamp
    dsimp only
    rw [modifyFirst_concat fresh (decide_eq_true id)]
    have same : unlinkedChildren topology record = fun node => if node.id = link.source.id
        then uniqueValues (node.children ++ [link.target.id]) else node.children := by
      funext node
      unfold unlinkedChildren
      rw [if_pos still, source, target]
    rw [same]
  · rw [modifyGrant_delegation distinct' delegation]
    unfold modifyRelation relinked updateTopologyTimestamp
    dsimp only
    rw [modifyFirst_concat fresh (decide_eq_true id), map_map]
    have same : unlinkedChildren topology record = fun node => if node.id = link.source.id
        then (uniqueValues (node.children ++ [link.target.id])).filter (· ≠ link.target.id)
        else node.children := by
      funext node
      unfold unlinkedChildren
      rw [if_neg still, source, target]
    rw [same]
    refine congrArg (fun nodes => { topology with
      nodes, relations := _, updatedAt := _ : EnterpriseTopology })
      (map_congr_left fun node _ => ?_)
    unfold NodeContract.withChildren
    dsimp
    rw [source, target]
    split_ifs <;> rfl

end Operations

/-- When a delegation that was deleted again leaves the verdict as it was. -/
structure UnlinkHarmless (topology : EnterpriseTopology) (options : TopologyValidatorOptions)
    (link : CreateRelation) (createdAt deletedAt : Timestamp) : Prop where
  id : jsTrim link.relationId ≠ ""
  name : jsTrim (relationDisplayName link) ≠ ""
  times : createdAt.valid = true ∧ deletedAt.valid = true
  fresh : link.relationId ∉ topology.entityIds
  /-- The relation closes no cycle. -/
  noWayBack : ¬Relation.ReflTransGen (DelegationStep topology) link.target.id link.source.id
  /-- No path that takes it is too long. -/
  short : ShortAround topology options link.source.id link.target.id

/-- A delegation between nodes of an executable topology that is created and deleted
leaves the topology executable with the same issues exactly under the condition. -/
theorem unlinked_executable_iff (platform : Platform) (topology created deleted : EnterpriseTopology)
    (options : TopologyValidatorOptions) (link : CreateRelation)
    (createOperation deleteOperation : GuiOperation)
    (executable : (validateTopology platform topology options).executable = true)
    (delegation : link.relationType = .delegatesTo ∧ link.source.entityType = .node ∧
      link.target.entityType = .node)
    (nodes : link.source.id ∈ topology.nodeIds ∧ link.target.id ∈ topology.nodeIds)
    (creates : createOperation.action = .createRelation link)
    (deletes : deleteOperation.action = .deleteRelation link.relationId)
    (applied : applyOperation topology createOperation = .ok created)
    (applied' : applyOperation created deleteOperation = .ok deleted) :
    ((validateTopology platform deleted options).executable = true ∧
        ∀ issue, issue ∈ (validateTopology platform deleted options).issues ↔
          issue ∈ (validateTopology platform topology options).issues) ↔
      UnlinkHarmless topology options link createOperation.time deleteOperation.time := by
  have isDelegation : (createRelation link createOperation.time).isDelegation = true := by
    unfold EnterpriseRelation.isDelegation createRelation
    dsimp only
    rw [delegation.1, delegation.2.1, delegation.2.2]
    rfl
  have contract := contract_of_executable executable
  have distinct := nodeIds_nodup (entityIds_nodup executable)
  rw [unlinked_eq isDelegation distinct creates deletes applied applied']
  have added (node : NodeContract) (_ : node ∈ topology.nodes) (child : String) (inside : child ∈
      unlinkedChildren topology (createRelation link createOperation.time) node) :
      child ∈ node.children ∨ (node.id = link.source.id ∧ child = link.target.id) :=
    unlinkedChildren_added inside
  have dropped (node : NodeContract) (member : node ∈ topology.nodes) (child : String)
      (inside : child ∈ node.children) :
      child ∈ unlinkedChildren topology (createRelation link createOperation.time) node ∨
        (node.id = link.source.id ∧ child = link.target.id) :=
    unlinkedChildren_dropped inside
      (nodeId_not_blank contract (child_declared executable member inside))
  have archived : (archiveRelation deleteOperation.time
      (createRelation link createOperation.time)).isDelegation = true := isDelegation
  refine Iff.trans
    (executable_relinked_iff archived nodes.1 nodes.2 added dropped executable) ?_
  constructor
  · rintro ⟨⟨deletedAt, id, name, createdAt, -⟩, fresh, noWayBack, short⟩
    exact ⟨id, name, ⟨createdAt, deletedAt⟩, fresh, noWayBack, short⟩
  · rintro ⟨id, name, ⟨createdAt, deletedAt⟩, fresh, noWayBack, short⟩
    exact ⟨⟨deletedAt, id, name, createdAt, deletedAt⟩, fresh, noWayBack, short⟩

def topologyAfter (topology : EnterpriseTopology) (operation : GuiOperation) : EnterpriseTopology :=
  (applyOperation topology operation).toOption.getD topology

def linkedTopology : EnterpriseTopology := topologyAfter draftTopology linkOperation

lemma draftTopology_executable :
    (validateTopology plainPlatform draftTopology).executable = true := by
  decide

theorem unlinked_executable_draft :
    ((validateTopology plainPlatform (topologyAfter linkedTopology unlinkOperation)).executable =
        true ∧ ∀ issue, issue ∈ (validateTopology plainPlatform
          (topologyAfter linkedTopology unlinkOperation)).issues ↔
        issue ∈ (validateTopology plainPlatform draftTopology).issues) ↔
      UnlinkHarmless draftTopology {} leadToScout (.number 1) (.number 2) :=
  unlinked_executable_iff plainPlatform draftTopology linkedTopology
    (topologyAfter linkedTopology unlinkOperation) {} leadToScout linkOperation unlinkOperation
    draftTopology_executable ⟨rfl, rfl, rfl⟩ ⟨by decide, by decide⟩ rfl rfl rfl rfl

/-- Back from the child to its parent. -/
def backOperation : GuiOperation where
  operationId := "create"
  time := .number 1
  action := .createRelation
    ⟨"link", .delegatesTo, ⟨.node, "scout"⟩, ⟨.node, "lead"⟩, none, none⟩

def backTopology : EnterpriseTopology := topologyAfter pairTopology backOperation

/-- The deleted delegation keeps the cycle closed. -/
theorem unlinked_cycle_refused :
    (validateTopology plainPlatform pairTopology).executable = true ∧
      applyOperation pairTopology backOperation = .ok backTopology ∧
      applyOperation backTopology unlinkOperation =
        .ok (topologyAfter backTopology unlinkOperation) ∧
      (validateTopology plainPlatform (topologyAfter backTopology unlinkOperation)).executable =
        false :=
  ⟨pairTopology_executable, rfl, rfl, by decide +kernel⟩

end Knowbee.Topology
