import Knowbee.Topology.Repair

/-!
# What the repair makes of the children lists

A relation is read as a pair of nodes, from its ends or, where they do not name
nodes, from its metadata.  The repair gives a node as children what the active
delegations are read as (`mem_repaired`), unless no delegation is left; and what it
made is what it would make again (`repaired_read`).
-/

namespace Knowbee.Topology

open List

/-- The pair of nodes that the repair reads off a relation that counts. -/
def readPair (nodeIds : List String) (relation : EnterpriseRelation) : Option (String × String) :=
  if relation.relationType ≠ .delegatesTo ∨ activeRelation relation = false then none
  else
    match nodeRef relation.source nodeIds <|>
        structuredNodeId relation.metadata nodeIds STRUCTURED_FROM_NODE_KEYS,
      nodeRef relation.target nodeIds <|>
        structuredNodeId relation.metadata nodeIds STRUCTURED_TO_NODE_KEYS with
    | some source, some target => some (source, target)
    | _, _ => none

variable {nodeIds : List String} {relation : EnterpriseRelation}

/-- An id that the repair takes for a node: declared, not blank and without spaces
around it. -/
structure IsNodeId (nodeIds : List String) (id : String) : Prop where
  declared : id ∈ nodeIds
  trimmed : jsTrim id = id
  written : id ≠ ""

variable {id : String} {reference : EntityRef} {keys : List String} {metadata : Metadata}

lemma nonEmptyString_eq_some {value : String} :
    nonEmptyString value = some id ↔ jsTrim value = id ∧ id ≠ "" := by
  unfold nonEmptyString
  split_ifs with blank
  · rw [blank]
    refine ⟨nofun, ?_⟩
    rintro ⟨rfl, some⟩
    exact (some rfl).elim
  · constructor
    · rintro ⟨⟩
      exact ⟨rfl, blank⟩
    · rintro ⟨rfl, -⟩
      rfl

lemma isNodeId_of_filter {value : String}
    (found : (nonEmptyString value).filter (· ∈ nodeIds) = some id) : IsNodeId nodeIds id := by
  obtain ⟨named, declared⟩ := Option.filter_eq_some_iff.mp found
  obtain ⟨rfl, written⟩ := nonEmptyString_eq_some.mp named
  exact ⟨of_decide_eq_true declared, jsTrim_jsTrim value, written⟩

lemma nodeRef_isNodeId (found : nodeRef reference nodeIds = some id) : IsNodeId nodeIds id := by
  unfold nodeRef at found
  split_ifs at found
  exact isNodeId_of_filter found

lemma nodeRef_of_isNodeId (isId : IsNodeId nodeIds id) :
    nodeRef ⟨.node, id⟩ nodeIds = some id := by
  unfold nodeRef
  rw [if_pos rfl, nonEmptyString_eq_some.mpr ⟨isId.trimmed, isId.written⟩]
  exact Option.filter_eq_some_iff.mpr ⟨rfl, decide_eq_true isId.declared⟩

lemma structuredNodeId_isNodeId (found : structuredNodeId metadata nodeIds keys = some id) :
    IsNodeId nodeIds id := by
  obtain ⟨container, -, inside⟩ := exists_of_findSome?_eq_some found
  obtain ⟨key, -, named⟩ := exists_of_findSome?_eq_some inside
  unfold metadataText at named
  split at named
  · exact isNodeId_of_filter named
  · cases named

lemma orElse_isNodeId
    (found : (nodeRef reference nodeIds <|> structuredNodeId metadata nodeIds keys) = some id) :
    IsNodeId nodeIds id := by
  cases named : nodeRef reference nodeIds with
  | none =>
    rw [named] at found
    exact structuredNodeId_isNodeId found
  | some other =>
    rw [named] at found
    cases found
    exact nodeRef_isNodeId named

lemma readPair_isNodeId {pair : String × String} (read : readPair nodeIds relation = some pair) :
    IsNodeId nodeIds pair.1 ∧ IsNodeId nodeIds pair.2 := by
  unfold readPair at read
  split_ifs at read
  split at read
  · rename_i source target
    cases read
    exact ⟨orElse_isNodeId source, orElse_isNodeId target⟩
  · cases read

variable (topologyId : String)

def repairedRelation (nodeIds : List String) (relation : EnterpriseRelation) : EnterpriseRelation :=
  (repairDelegationRelationEndpoints topologyId nodeIds relation).1

def readEnd (nodeIds : List String) (metadata : Metadata) (reference : EntityRef)
    (keys : List String) : Option String :=
  nodeRef reference nodeIds <|> structuredNodeId metadata nodeIds keys

lemma nodeRef_of_readEnd (unread : readEnd nodeIds metadata reference keys = none) :
    nodeRef reference nodeIds = none := by
  unfold readEnd at unread
  cases named : nodeRef reference nodeIds with
  | none => rfl
  | some id =>
    rw [named] at unread
    cases unread

section

variable (delegates : relation.relationType = .delegatesTo)

include delegates

/-- A pair that both of its ends make, of a relation that counts. -/
lemma pair_eq (source target : Option String) :
    (if relation.relationType ≠ .delegatesTo ∨ activeRelation relation = false then none
      else match source, target with
        | some source, some target => some (source, target)
        | _, _ => none) = if activeRelation relation = false then none else
      source.bind fun source => target.map fun target => (source, target) := by
  rw [delegates]
  by_cases still : activeRelation relation = false
  · rw [if_pos still, if_pos (.inr still)]
  · rw [if_neg still, if_neg (by simpa using still)]
    cases source <;> cases target <;> rfl

lemma readPair_eq :
    readPair nodeIds relation = if activeRelation relation = false then none else
      (readEnd nodeIds relation.metadata relation.source STRUCTURED_FROM_NODE_KEYS).bind fun source =>
        (readEnd nodeIds relation.metadata relation.target STRUCTURED_TO_NODE_KEYS).map fun target =>
          (source, target) :=
  pair_eq delegates _ _

lemma projectedPair_eq :
    projectedPair nodeIds relation = if activeRelation relation = false then none else
      (nodeRef relation.source nodeIds).bind fun source =>
        (nodeRef relation.target nodeIds).map fun target => (source, target) :=
  pair_eq delegates _ _

lemma repairedRelation_cases :
    (repairedRelation topologyId nodeIds relation = relation ∧
        ((∃ source target, nodeRef relation.source nodeIds = some source ∧
            nodeRef relation.target nodeIds = some target) ∨
          readEnd nodeIds relation.metadata relation.source STRUCTURED_FROM_NODE_KEYS = none ∨
          readEnd nodeIds relation.metadata relation.target STRUCTURED_TO_NODE_KEYS = none)) ∨
      ∃ source target metadata,
        readEnd nodeIds relation.metadata relation.source STRUCTURED_FROM_NODE_KEYS = some source ∧
        readEnd nodeIds relation.metadata relation.target STRUCTURED_TO_NODE_KEYS = some target ∧
        repairedRelation topologyId nodeIds relation =
          { relation with source := ⟨.node, source⟩, target := ⟨.node, target⟩, metadata } := by
  unfold repairedRelation repairDelegationRelationEndpoints
  rw [if_neg (not_not_intro delegates)]
  dsimp only
  by_cases both : (nodeRef relation.source nodeIds).isSome = true ∧
      (nodeRef relation.target nodeIds).isSome = true
  · obtain ⟨source, foundSource⟩ := Option.isSome_iff_exists.mp both.1
    obtain ⟨target, foundTarget⟩ := Option.isSome_iff_exists.mp both.2
    rw [if_pos both]
    exact .inl ⟨rfl, .inl ⟨source, target, foundSource, foundTarget⟩⟩
  · rw [if_neg both]
    unfold readEnd
    generalize (nodeRef relation.source nodeIds <|>
      structuredNodeId relation.metadata nodeIds STRUCTURED_FROM_NODE_KEYS) = readSource
    generalize (nodeRef relation.target nodeIds <|>
      structuredNodeId relation.metadata nodeIds STRUCTURED_TO_NODE_KEYS) = readTarget
    cases readSource with
    | none => exact .inl ⟨rfl, .inr (.inl rfl)⟩
    | some source =>
      cases readTarget with
      | none => exact .inl ⟨rfl, .inr (.inr rfl)⟩
      | some target => exact .inr ⟨source, target, _, rfl, rfl, rfl⟩

end

lemma repairedRelation_other (other : relation.relationType ≠ .delegatesTo) :
    repairedRelation topologyId nodeIds relation = relation := by
  unfold repairedRelation repairDelegationRelationEndpoints
  rw [if_pos other]

lemma projectedPair_repaired :
    projectedPair nodeIds (repairedRelation topologyId nodeIds relation) =
      readPair nodeIds relation := by
  by_cases delegates : relation.relationType = .delegatesTo
  · rcases @repairedRelation_cases nodeIds relation topologyId delegates with
      ⟨same, ends⟩ | ⟨source, target, metadata, foundSource, foundTarget, repaired⟩
    · rw [same, projectedPair_eq delegates, readPair_eq delegates]
      split_ifs
      · rfl
      · rcases ends with ⟨source, target, foundSource, foundTarget⟩ | unread | unread
        · unfold readEnd
          rw [foundSource, foundTarget]
          rfl
        · have unnamed := nodeRef_of_readEnd unread
          rw [unread, unnamed]
          rfl
        · have unnamed := nodeRef_of_readEnd unread
          rw [unread, unnamed]
          generalize nodeRef relation.source nodeIds = source
          generalize readEnd nodeIds relation.metadata relation.source
            STRUCTURED_FROM_NODE_KEYS = readSource
          cases source <;> cases readSource <;> rfl
    · rw [repaired, readPair_eq delegates, foundSource, foundTarget, projectedPair_eq]
      · rw [nodeRef_of_isNodeId (orElse_isNodeId foundSource),
          nodeRef_of_isNodeId (orElse_isNodeId foundTarget)]
        rfl
      · exact delegates
  · rw [repairedRelation_other topologyId delegates]
    unfold projectedPair readPair
    rw [if_pos (.inl delegates), if_pos (.inl delegates)]

lemma readPair_repaired :
    readPair nodeIds (repairedRelation topologyId nodeIds relation) = readPair nodeIds relation := by
  by_cases delegates : relation.relationType = .delegatesTo
  · rcases @repairedRelation_cases nodeIds relation topologyId delegates with
      ⟨same, -⟩ | ⟨source, target, metadata, foundSource, foundTarget, repaired⟩
    · rw [same]
    · rw [repaired, @readPair_eq nodeIds relation delegates, foundSource, foundTarget, readPair_eq]
      · unfold readEnd
        rw [nodeRef_of_isNodeId (orElse_isNodeId foundSource),
          nodeRef_of_isNodeId (orElse_isNodeId foundTarget)]
        rfl
      · exact delegates
  · rw [repairedRelation_other topologyId delegates]

lemma not_missing_of_projected {toolIds systemIds : List String} {pair : String × String}
    (projected : projectedPair nodeIds relation = some pair) :
    isMissingTarget toolIds systemIds relation = false := by
  unfold projectedPair at projected
  split_ifs at projected
  split at projected
  · rename_i source target foundSource foundTarget
    have node : relation.target.entityType = .node := by
      unfold nodeRef at foundTarget
      split_ifs at foundTarget with isNode
      exact isNode
    unfold isMissingTarget
    rw [node]
    rfl
  · cases projected

section Children

variable {profile : NodeContract → MetadataValue} {topology : EnterpriseTopology}

/-- The topology before its children lists are projected. -/
def cleanedTopology (topology : EnterpriseTopology) : EnterpriseTopology :=
  let nodeIds := topology.nodes.map fun node => node.id
  (removeMissingResourceReferences
    { topology with relations := topology.relations.map (repairedRelation topology.id nodeIds) }).1

def Reads (topology : EnterpriseTopology) (pair : String × String) : Prop :=
  ∃ relation ∈ topology.relations,
    readPair (topology.nodes.map fun node => node.id) relation = some pair

lemma cleaned_relations : (cleanedTopology topology).relations =
    (topology.relations.map (repairedRelation topology.id (topology.nodes.map (·.id)))).filter
      (!isMissingTarget (availableToolIds topology) (availableSystemIds topology) ·) := rfl

lemma removed_eq_cleaned : (removeMissingResourceReferences { topology with
    relations := (topology.relations.map (repairDelegationRelationEndpoints topology.id
      (topology.nodes.map (·.id)))).map Prod.fst }).1 = cleanedTopology topology := by
  rw [map_map]
  rfl

lemma mem_projectedChildren {nodeId child : String} :
    child ∈ projectedChildren (cleanedTopology topology) (topology.nodes.map (·.id)) nodeId ↔
      Reads topology (nodeId, child) := by
  unfold projectedChildren
  rw [mem_setAdd, mem_map]
  constructor
  · rintro (none | ⟨⟨source, target⟩, member, rfl⟩)
    · cases none
    · obtain ⟨inside, own⟩ := mem_filter.mp member
      obtain ⟨repaired, listed, projected⟩ := mem_filterMap.mp inside
      obtain ⟨relation, original, rfl⟩ := mem_map.mp (mem_filter.mp listed).1
      rw [projectedPair_repaired] at projected
      have same : source = nodeId := of_decide_eq_true own
      exact ⟨relation, original, same ▸ projected⟩
  · rintro ⟨relation, member, read⟩
    rw [← projectedPair_repaired topology.id] at read
    refine .inr ⟨(nodeId, child), mem_filter.mpr ⟨mem_filterMap.mpr
      ⟨_, ?_, read⟩, decide_eq_true rfl⟩, rfl⟩
    rw [cleaned_relations]
    refine mem_filter.mpr ⟨mem_map_of_mem member, ?_⟩
    rw [not_missing_of_projected read]
    rfl

lemma ensureExecutorProfile_children (topologyId : String) (node : NodeContract) :
    (ensureExecutorProfile profile topologyId node).1.id = node.id ∧
      (ensureExecutorProfile profile topologyId node).1.children = node.children := by
  unfold ensureExecutorProfile
  split_ifs <;> exact ⟨rfl, rfl⟩

lemma cleaned_nodes : (cleanedTopology topology).nodes = topology.nodes.map fun node =>
    (removeMissingFromNode (availableToolIds topology) (availableSystemIds topology) topology.id
      node).1 := by
  unfold cleanedTopology removeMissingResourceReferences
  dsimp only
  rw [map_map]
  rfl

lemma forall₂_map {α β : Type} {R : α → β → Prop} {change : α → β} {items : List α}
    (each : ∀ item ∈ items, R item (change item)) : List.Forall₂ R items (items.map change) := by
  induction items with
  | nil => exact .nil
  | cons head rest ih =>
    exact .cons (each head mem_cons_self)
      (ih fun item member => each item (mem_cons_of_mem _ member))

lemma forall₂_mem_right {α β : Type} {R : α → β → Prop} {items : List α} {others : List β}
    (each : List.Forall₂ R items others) {other : β} (member : other ∈ others) :
    ∃ item, R item other := by
  induction each with
  | nil => cases member
  | cons head _ ih =>
    rcases mem_cons.mp member with rfl | inside
    · exact ⟨_, head⟩
    · exact ih inside

lemma repaired_nodes : List.Forall₂ (fun before after : NodeContract =>
      before ∈ topology.nodes ∧ after.id = before.id ∧
      if hasDelegationRelation (cleanedTopology topology) then
        ∀ child, child ∈ after.children ↔ Reads topology (before.id, child)
      else after.children = before.children)
    topology.nodes (repairTopologyForPersistence profile topology).1.nodes := by
  unfold repairTopologyForPersistence
  dsimp only
  rw [removed_eq_cleaned]
  unfold syncNodeChildrenFromDelegationRelations
  by_cases none : hasDelegationRelation (cleanedTopology topology) = false
  · rw [if_pos none, cleaned_nodes, map_map, map_map]
    refine forall₂_map fun node member => ⟨member, ?_⟩
    rw [if_neg (by simp [none])]
    exact ensureExecutorProfile_children topology.id (removeMissingFromNode
      (availableToolIds topology) (availableSystemIds topology) topology.id node).1
  · rw [if_neg none]
    dsimp only
    rw [cleaned_nodes, map_map, map_map, map_map]
    refine forall₂_map fun node member => ⟨member, ?_⟩
    rw [if_pos (by simpa using none)]
    let projected : NodeContract :=
      { (removeMissingFromNode (availableToolIds topology) (availableSystemIds topology) topology.id
          node).1 with
        children := projectedChildren (cleanedTopology topology) (topology.nodes.map fun node =>
          node.id) node.id }
    obtain ⟨id, children⟩ := @ensureExecutorProfile_children profile topology.id projected
    refine ⟨id, fun child => ?_⟩
    rw [← mem_projectedChildren]
    exact iff_of_eq (congrArg (child ∈ ·) children)

lemma repaired_relations :
    (repairTopologyForPersistence profile topology).1.relations =
      (cleanedTopology topology).relations := by
  unfold repairTopologyForPersistence
  dsimp only
  rw [removed_eq_cleaned]
  unfold syncNodeChildrenFromDelegationRelations
  split_ifs <;> rfl

lemma repaired_nodeIds :
    ((repairTopologyForPersistence profile topology).1.nodes.map fun node => node.id) =
      topology.nodes.map fun node => node.id := by
  have same : List.Forall₂ (fun before after : NodeContract => after.id = before.id) topology.nodes
      (repairTopologyForPersistence profile topology).1.nodes :=
    repaired_nodes.imp fun _ _ both => both.2.1
  generalize topology.nodes = before at same ⊢
  generalize (repairTopologyForPersistence profile topology).1.nodes = after at same ⊢
  induction same with
  | nil => rfl
  | cons id _ ih => rw [map_cons, map_cons, id, ih]

lemma reads_repaired {pair : String × String} :
    Reads (repairTopologyForPersistence profile topology).1 pair ↔ Reads topology pair := by
  unfold Reads
  rw [repaired_nodeIds, repaired_relations, cleaned_relations]
  constructor
  · rintro ⟨repaired, member, read⟩
    obtain ⟨relation, original, rfl⟩ := mem_map.mp (mem_filter.mp member).1
    exact ⟨relation, original, readPair_repaired topology.id ▸ read⟩
  · rintro ⟨relation, member, read⟩
    have projected := (projectedPair_repaired topology.id).trans read
    refine ⟨_, mem_filter.mpr ⟨mem_map_of_mem member, ?_⟩,
      (readPair_repaired topology.id).trans read⟩
    rw [not_missing_of_projected projected]
    rfl

end Children

end Knowbee.Topology
