import Knowbee.Topology.Deletion
import Knowbee.Topology.RepairSound

/-!
# The children lists of a draft

The editor keeps the children lists step by step: an operation on a relation takes
a child away and gives one.  The repair makes them again from the relations.  Where
each operation gives and takes what the repair reads and reads no more
(`LinkChange.Careful`), every draft has the children that its repair would give it.
-/

namespace Knowbee.Topology

open List Option

/-! ## What an operation does to the relations -/

/-- The parent and the child that the editor takes a relation for. -/
def linkedPair (nodeIds : List String) (relation : EnterpriseRelation) : Option (String × String) :=
  if relation.source.entityType = .node ∧ relation.grantList = some .children ∧
      relation.source.id ∈ nodeIds ∧ jsTrim relation.target.id ≠ "" then
    some (relation.source.id, relation.target.id)
  else none

/-- The relation of an operation before and after it, and the relations beside it. -/
structure LinkChange where
  before : Option EnterpriseRelation
  after : EnterpriseRelation
  others : List EnterpriseRelation

def linkChange? (topology : EnterpriseTopology) (operation : GuiOperation) : Option LinkChange :=
  let others (relationId : String) := topology.relations.eraseP (·.id = relationId)
  match operation.action with
  | .createRelation relation =>
    some ⟨none, createRelation relation operation.time, topology.relations⟩
  | .updateRelation relationId patch => (findRelation topology relationId).map fun before =>
      ⟨some before, patch.apply operation.time before, others relationId⟩
  | .deleteRelation relationId => (findRelation topology relationId).map fun before =>
      ⟨some before, archiveRelation operation.time before, others relationId⟩
  | _ => none

namespace LinkChange

variable (topology : EnterpriseTopology) (change : LinkChange)

/-- The pair of which the editor takes the child away. -/
def taken : Option (String × String) :=
  (change.before.filter fun relation => !hasAnotherActiveRelation topology relation relation.id).bind
    (linkedPair topology.nodeIds)

/-- The pair of which the editor gives the child. -/
def given : Option (String × String) :=
  if change.after.status = .archived then none else linkedPair topology.nodeIds change.after

def ReadElsewhere (pair : String × String) : Prop :=
  ∃ relation ∈ change.others, readPair topology.nodeIds relation = some pair

def ReadBefore (pair : String × String) : Prop :=
  change.ReadElsewhere topology pair ∨
    change.before.bind (readPair topology.nodeIds) = some pair

def ReadAfter (pair : String × String) : Prop :=
  change.ReadElsewhere topology pair ∨ readPair topology.nodeIds change.after = some pair

/-- The editor gives and takes as the repair reads. -/
structure Careful : Prop where
  given : ∀ pair, change.given topology = some pair → change.ReadAfter topology pair
  read : ∀ pair, change.ReadAfter topology pair →
    change.ReadBefore topology pair ∨ change.given topology = some pair
  taken : ∀ pair, change.taken topology = some pair → change.ReadAfter topology pair →
    change.given topology = some pair
  unread : ∀ pair, change.ReadBefore topology pair → ¬change.ReadAfter topology pair →
    change.taken topology = some pair
  /-- Where the reading changes, one node has the id. -/
  single : ∀ pair, ¬(change.ReadBefore topology pair ↔ change.ReadAfter topology pair) →
    topology.nodeIds.count pair.1 ≤ 1

end LinkChange

/-- Every operation of a log is on a relation, and careful where it is applied. -/
def CarefulLog (topology : EnterpriseTopology) : List GuiOperation → Prop
  | [] => True
  | operation :: rest =>
    (∃ change, linkChange? topology operation = some change ∧ change.Careful topology) ∧
      ∀ next, applyOperation topology operation = .ok next → CarefulLog next rest

/-! ## What an operation does to the children -/

/-- The children list that a relation is about is the list of the node with an id. -/
def Touches (relation : EnterpriseRelation) (nodeId : String) : Prop :=
  relation.source.entityType = .node ∧ relation.grantList = some .children ∧
    relation.source.id = nodeId

instance (relation : EnterpriseRelation) (nodeId : String) :
    Decidable (Touches relation nodeId) := by
  unfold Touches
  infer_instance

section Grants

variable {topology : EnterpriseTopology} {relation : EnterpriseRelation}
  {change : List String → List String}

@[simp] lemma GrantList.modify_id (list : GrantList) (node : NodeContract) :
    (list.modify change node).id = node.id := by
  cases list <;> rfl

lemma GrantList.modify_children {list : GrantList} (other : list ≠ .children)
    (node : NodeContract) : (list.modify change node).children = node.children := by
  cases list
  · exact (other rfl).elim
  · rfl
  · rfl

variable {nodeId : String}

lemma nodeIds_modifyNode {modify : NodeContract → NodeContract}
    (kept : ∀ node, (modify node).id = node.id) :
    (modifyNode topology nodeId modify).nodeIds = topology.nodeIds := by
  unfold modifyNode EnterpriseTopology.nodeIds
  dsimp only
  induction topology.nodes with
  | nil => rfl
  | cons head rest ih =>
    rw [modifyFirst]
    split_ifs
    · rw [map_cons, map_cons, kept]
    · rw [map_cons, map_cons, ih]

@[simp] lemma nodeIds_modifyGrant :
    (modifyGrant topology relation change).nodeIds = topology.nodeIds := by
  unfold modifyGrant
  split_ifs
  · rfl
  · split
    · rfl
    · rename_i list _
      exact nodeIds_modifyNode (@GrantList.modify_id change list)

lemma nodes_of_touches (touches : Touches relation nodeId) :
    (modifyGrant topology relation change).nodes =
      modifyFirst (·.id = nodeId) (GrantList.children.modify change) topology.nodes := by
  obtain ⟨source, list, rfl⟩ := touches
  unfold modifyGrant
  rw [if_neg (not_not_intro source), list]
  rfl

variable {after : NodeContract}

lemma mem_modifyFirst {modify : NodeContract → NodeContract} {nodes : List NodeContract}
    (member : after ∈ modifyFirst (·.id = nodeId) modify nodes) :
    ∃ node ∈ nodes, after = (if node.id = nodeId then modify node else node) ∨
      (after = node ∧ node.id = nodeId ∧ 2 ≤ (nodes.map (·.id)).count nodeId) := by
  induction nodes with
  | nil => cases member
  | cons head rest ih =>
    rw [modifyFirst] at member
    by_cases own : head.id = nodeId
    · rw [if_pos (decide_eq_true own)] at member
      rcases mem_cons.mp member with rfl | inside
      · exact ⟨head, mem_cons_self, .inl (if_pos own).symm⟩
      · refine ⟨after, mem_cons_of_mem _ inside, ?_⟩
        by_cases same : after.id = nodeId
        · refine .inr ⟨rfl, same, ?_⟩
          rw [map_cons, own, count_cons_self]
          exact Nat.succ_le_succ (count_pos_iff.mpr (same ▸ mem_map_of_mem inside))
        · exact .inl (if_neg same).symm
    · rw [if_neg (by simpa using own)] at member
      rcases mem_cons.mp member with rfl | inside
      · exact ⟨after, mem_cons_self, .inl (if_neg own).symm⟩
      · obtain ⟨node, original, changed | ⟨same, id, twice⟩⟩ := ih inside
        · exact ⟨node, mem_cons_of_mem _ original, .inl changed⟩
        · refine ⟨node, mem_cons_of_mem _ original, .inr ⟨same, id, twice.trans ?_⟩⟩
          exact List.Sublist.count_le _ (sublist_cons_self _ _)

def childrenAfter (relation : EnterpriseRelation) (change : List String → List String)
    (nodeId : String) (children : List String) : List String :=
  if Touches relation nodeId then change children else children

lemma mem_modifyGrant (member : after ∈ (modifyGrant topology relation change).nodes) :
    ∃ node ∈ topology.nodes, after.id = node.id ∧
      (after.children = childrenAfter relation change node.id node.children ∨
        (after.children = node.children ∧ Touches relation node.id ∧
          2 ≤ topology.nodeIds.count node.id)) := by
  unfold childrenAfter
  by_cases touched : Touches relation relation.source.id
  · rw [nodes_of_touches touched] at member
    obtain ⟨node, original, changed | ⟨rfl, id, twice⟩⟩ := mem_modifyFirst member
    · refine ⟨node, original, ?_⟩
      by_cases own : node.id = relation.source.id
      · rw [if_pos own] at changed
        rw [changed, own, if_pos touched]
        exact ⟨own ▸ rfl, .inl rfl⟩
      · rw [if_neg own] at changed
        rw [changed, if_neg fun other : Touches relation node.id => own other.2.2.symm]
        exact ⟨rfl, .inl rfl⟩
    · exact ⟨after, original, rfl, .inr ⟨rfl, id ▸ touched, id ▸ twice⟩⟩
  · have untouched nodeId : ¬Touches relation nodeId := fun touches =>
      touched ⟨touches.1, touches.2.1, rfl⟩
    have none node original
        id (children : after.children = node.children) :
        ∃ node ∈ topology.nodes, after.id = node.id ∧
          (after.children = (if Touches relation node.id then change node.children
              else node.children) ∨ (after.children = node.children ∧ Touches relation node.id ∧
            2 ≤ topology.nodeIds.count node.id)) :=
      ⟨node, original, id, .inl (children.trans (if_neg (untouched _)).symm)⟩
    unfold modifyGrant at member
    split_ifs at member with source
    · exact none after member rfl rfl
    · split at member
      · exact none after member rfl rfl
      · rename_i list about
        have other : list ≠ .children := by
          rintro rfl
          exact touched ⟨not_not.mp source, about, rfl⟩
        obtain ⟨node, original, changed | ⟨rfl, -⟩⟩ := mem_modifyFirst member
        · refine none node original ?_ ?_
          · rw [changed]
            split_ifs
            · exact list.modify_id node
            · rfl
          · rw [changed]
            split_ifs
            · exact list.modify_children other node
            · rfl
        · exact none after original rfl rfl

/-- The nodes after two changes: all has been done to a node, or nothing. -/
lemma mem_modifyGrant_twice {next : EnterpriseRelation} {change' : List String → List String}
    (member : after ∈ (modifyGrant (modifyGrant topology relation change) next change').nodes) :
    ∃ node ∈ topology.nodes, after.id = node.id ∧
      (after.children = childrenAfter next change' node.id
          (childrenAfter relation change node.id node.children) ∨
        (after.children = node.children ∧ 2 ≤ topology.nodeIds.count node.id)) := by
  by_cases both : Touches relation next.source.id ∧ Touches next next.source.id
  · obtain ⟨first, second⟩ := both
    rw [nodes_of_touches second, nodes_of_touches first,
      modifyFirst_modifyFirst fun node => by simp] at member
    obtain ⟨node, original, changed | ⟨rfl, id, twice⟩⟩ := mem_modifyFirst member
    · refine ⟨node, original, ?_⟩
      unfold childrenAfter
      by_cases own : node.id = next.source.id
      · rw [if_pos own] at changed
        rw [changed, own, if_pos first, if_pos second]
        exact ⟨own ▸ rfl, .inl rfl⟩
      · rw [if_neg own] at changed
        rw [changed, if_neg fun other : Touches next node.id => own other.2.2.symm,
          if_neg fun other : Touches relation node.id => own (other.2.2.symm.trans first.2.2)]
        exact ⟨rfl, .inl rfl⟩
    · exact ⟨after, original, rfl, .inr ⟨rfl, id ▸ twice⟩⟩
  · obtain ⟨middle, inside, id, second⟩ := mem_modifyGrant member
    obtain ⟨node, original, id', first⟩ := mem_modifyGrant inside
    refine ⟨node, original, id.trans id', ?_⟩
    rw [nodeIds_modifyGrant, id'] at second
    have apart one (two : Touches next node.id) : False :=
      both ⟨two.2.2 ▸ one, two.1, two.2.1, rfl⟩
    rcases second with second | ⟨second, touches, twice⟩
    · rcases first with first | ⟨first, touches, twice⟩
      · exact .inl (second.trans (first ▸ rfl))
      · refine .inr ⟨?_, twice⟩
        rw [second, childrenAfter, if_neg (apart touches), first]
    · refine .inr ⟨?_, twice⟩
      rcases first with first | ⟨first, -⟩
      · rw [second, first, childrenAfter, if_neg fun one => apart one touches]
      · exact second.trans first

end Grants

/-! ## One operation -/

/-- Every node has the children that the relations are read to give it. -/
def Kept (topology : EnterpriseTopology) : Prop :=
  ∀ node ∈ topology.nodes, ∀ child, child ∈ node.children ↔ Reads topology (node.id, child)

namespace LinkChange

def taking (topology : EnterpriseTopology) (change : LinkChange) (values : List String) :
    List String :=
  match change.before with
  | none => values
  | some relation =>
    if hasAnotherActiveRelation topology relation relation.id then values
    else values.filter (· ≠ relation.target.id)

def giving (change : LinkChange) (values : List String) : List String :=
  if change.after.status = .archived then values
  else uniqueValues (values ++ [change.after.target.id])

end LinkChange

section Step

variable {topology next : EnterpriseTopology} {operation : GuiOperation} {change : LinkChange}

lemma modifyGrant_id (relation : EnterpriseRelation) :
    modifyGrant topology relation (fun values => values) = topology := by
  unfold modifyGrant
  split_ifs
  · rfl
  · split
    · rfl
    · rename_i list _
      have same : GrantList.modify list (fun values => values) = id := by
        funext node
        cases list <;> rfl
      unfold modifyNode
      rw [same, modifyFirst_id]

lemma addRelationSideEffects_eq (relation : EnterpriseRelation) :
    addRelationSideEffects topology relation = modifyGrant topology relation fun values =>
      if relation.status = .archived then values
      else uniqueValues (values ++ [relation.target.id]) := by
  unfold addRelationSideEffects
  split_ifs
  · exact (modifyGrant_id relation).symm
  · rfl

lemma removeRelationSideEffects_eq (relation : EnterpriseRelation) :
    removeRelationSideEffects topology relation = modifyGrant topology relation fun values =>
      if hasAnotherActiveRelation topology relation relation.id then values
      else values.filter (· ≠ relation.target.id) := by
  unfold removeRelationSideEffects
  split_ifs
  · exact (modifyGrant_id relation).symm
  · rfl

/-- The relations and the nodes after an operation. -/
structure LinkChange.Made (topology : EnterpriseTopology) (change : LinkChange)
    (next : EnterpriseTopology) : Prop where
  before : ∀ relation, relation ∈ topology.relations ↔
    relation ∈ change.others ∨ change.before = some relation
  after : ∀ relation, relation ∈ next.relations ↔
    relation ∈ change.others ∨ relation = change.after
  nodes : next.nodes = (modifyGrant (modifyGrant topology (change.before.getD change.after)
    (change.taking topology)) change.after change.giving).nodes

lemma modifyGrant_nodes_congr {other : EnterpriseTopology} (same : topology.nodes = other.nodes)
    (relation : EnterpriseRelation) (change : List String → List String) :
    (modifyGrant topology relation change).nodes = (modifyGrant other relation change).nodes := by
  unfold modifyGrant
  split_ifs
  · exact same
  · split
    · exact same
    · unfold modifyNode
      rw [same]

lemma mem_relations_of_found {relationId : String} {before : EnterpriseRelation}
    (found : findRelation topology relationId = some before) (relation : EnterpriseRelation) :
    relation ∈ topology.relations ↔
      relation ∈ topology.relations.eraseP (·.id = relationId) ∨ some before = some relation := by
  have perm : (modifyFirst (·.id = relationId) id topology.relations).Perm
      (before :: topology.relations.eraseP (·.id = relationId)) := modifyFirst_perm found
  have same := perm.mem_iff (a := relation)
  rw [modifyFirst_id, mem_cons] at same
  rw [same, or_comm, some.injEq, eq_comm (a := relation)]

lemma mem_relations_of_modified {relationId : String} {before : EnterpriseRelation}
    {modify : EnterpriseRelation → EnterpriseRelation}
    (found : findRelation topology relationId = some before) (relation : EnterpriseRelation) :
    relation ∈ modifyFirst (·.id = relationId) modify topology.relations ↔
      relation ∈ topology.relations.eraseP (·.id = relationId) ∨ relation = modify before := by
  rw [(modifyFirst_perm found).mem_iff, mem_cons, or_comm]

lemma made_of_applied (changes : linkChange? topology operation = some change)
    (applied : applyOperation topology operation = .ok next) : change.Made topology next := by
  unfold applyOperation at applied
  unfold linkChange? at changes
  split_ifs at applied
  split at applied <;> rename_i action <;> rw [action] at changes
  case h_5 link =>
    cases changes
    unfold applyCreateRelation at applied
    split_ifs at applied
    cases applied
    refine ⟨fun relation => by simp, fun relation => ?_, ?_⟩
    · change relation ∈ (addRelationSideEffects _ _).relations ↔ _
      rw [addRelationSideEffects_relations, mem_append, mem_singleton]
    · change (addRelationSideEffects _ _).nodes = _
      rw [addRelationSideEffects_eq]
      refine modifyGrant_nodes_congr ?_ _ _
      have untaken := @modifyGrant_id topology (createRelation link operation.time)
      exact (congrArg (fun made : EnterpriseTopology => made.nodes) untaken).symm
  case h_6 relationId patch =>
    obtain ⟨before, found, rfl⟩ := map_eq_some_iff.mp changes
    simp only [applyUpdateRelation, found] at applied
    cases applied
    refine ⟨mem_relations_of_found found, fun relation => ?_, ?_⟩
    · change relation ∈ (addRelationSideEffects _ _).relations ↔ _
      rw [addRelationSideEffects_relations]
      unfold modifyRelation
      dsimp only
      rw [removeRelationSideEffects_relations]
      exact mem_relations_of_modified found relation
    · change (addRelationSideEffects _ _).nodes = _
      rw [addRelationSideEffects_eq]
      refine modifyGrant_nodes_congr ?_ _ _
      change (removeRelationSideEffects _ _).nodes = _
      rw [removeRelationSideEffects_eq]
      rfl
  case h_7 relationId =>
    obtain ⟨before, found, rfl⟩ := map_eq_some_iff.mp changes
    simp only [applyDeleteRelation, found] at applied
    cases applied
    refine ⟨mem_relations_of_found found, fun relation => ?_, ?_⟩
    · change relation ∈ modifyFirst _ _ _ ↔ _
      rw [removeRelationSideEffects_relations]
      exact mem_relations_of_modified found relation
    · change (removeRelationSideEffects _ _).nodes = _
      rw [removeRelationSideEffects_eq]
      exact (congrArg (fun made : EnterpriseTopology => made.nodes) (modifyGrant_id _)).symm
  all_goals cases changes

lemma LinkChange.Made.nodeIds (made : change.Made topology next) : next.nodeIds = topology.nodeIds := by
  have same := congrArg (List.map fun node : NodeContract => node.id) made.nodes
  exact same.trans (nodeIds_modifyGrant.trans nodeIds_modifyGrant)

lemma LinkChange.Made.reads (made : change.Made topology next) (pair : String × String) :
    Reads next pair ↔ change.ReadAfter topology pair := by
  have ids : (next.nodes.map fun node => node.id) = topology.nodeIds := made.nodeIds
  unfold Reads LinkChange.ReadAfter LinkChange.ReadElsewhere
  rw [ids]
  constructor
  · rintro ⟨relation, member, read⟩
    rcases (made.after relation).mp member with other | rfl
    · exact .inl ⟨relation, other, read⟩
    · exact .inr read
  · rintro (⟨relation, other, read⟩ | read)
    · exact ⟨relation, (made.after relation).mpr (.inl other), read⟩
    · exact ⟨change.after, (made.after _).mpr (.inr rfl), read⟩

lemma LinkChange.Made.reads_before (made : change.Made topology next) (pair : String × String) :
    Reads topology pair ↔ change.ReadBefore topology pair := by
  unfold Reads LinkChange.ReadBefore LinkChange.ReadElsewhere
  constructor
  · rintro ⟨relation, member, read⟩
    rcases (made.before relation).mp member with other | own
    · exact .inl ⟨relation, other, read⟩
    · exact .inr (own ▸ read)
  · rintro (⟨relation, other, read⟩ | read)
    · exact ⟨relation, (made.before relation).mpr (.inl other), read⟩
    · obtain ⟨relation, own, read⟩ := bind_eq_some_iff.mp read
      exact ⟨relation, (made.before relation).mpr (.inr own), read⟩

lemma Reads.written {pair : String × String} (reads : Reads topology pair) :
    jsTrim pair.2 ≠ "" := by
  obtain ⟨relation, -, read⟩ := reads
  have isId := (readPair_isNodeId read).2
  rw [isId.trimmed]
  exact isId.written

lemma linkedPair_eq_some {nodeIds : List String} {relation : EnterpriseRelation}
    {nodeId child : String} (declared : nodeId ∈ nodeIds) :
    linkedPair nodeIds relation = some (nodeId, child) ↔
      Touches relation nodeId ∧ relation.target.id = child ∧ jsTrim child ≠ "" := by
  unfold linkedPair Touches
  split_ifs with linked
  · rw [some.injEq, Prod.mk.injEq]
    constructor
    · rintro ⟨rfl, rfl⟩
      exact ⟨⟨linked.1, linked.2.1, rfl⟩, rfl, linked.2.2.2⟩
    · rintro ⟨⟨-, -, source⟩, target, -⟩
      exact ⟨source, target⟩
  · refine ⟨nofun, ?_⟩
    rintro ⟨⟨source, list, rfl⟩, rfl, written⟩
    exact (linked ⟨source, list, declared, written⟩).elim

lemma mem_taking {nodeId child : String} {children : List String}
    (declared : nodeId ∈ topology.nodeIds) (written : ∀ child ∈ children, jsTrim child ≠ "") :
    child ∈ childrenAfter (change.before.getD change.after) (change.taking topology) nodeId
        children ↔
      child ∈ children ∧ change.taken topology ≠ some (nodeId, child) := by
  unfold childrenAfter LinkChange.taking LinkChange.taken
  cases change.before with
  | none =>
    rw [ite_self]
    exact (and_iff_left nofun).symm
  | some relation =>
    dsimp only [getD_some]
    by_cases another : hasAnotherActiveRelation topology relation relation.id = true
    · rw [if_pos another, ite_self, filter_some_neg (by simp [another])]
      exact (and_iff_left nofun).symm
    · rw [if_neg another, filter_some_pos (by simp [another]), bind_some,
        Ne, linkedPair_eq_some declared]
      split_ifs with touches
      · rw [mem_filter, decide_eq_true_eq]
        refine and_congr_right fun inside => not_congr ?_
        refine ⟨fun same => ⟨touches, same.symm, written child inside⟩, fun linked => ?_⟩
        exact linked.2.1.symm
      · exact (and_iff_left fun linked => touches linked.1).symm

lemma mem_giving {nodeId child : String} {children : List String}
    (declared : nodeId ∈ topology.nodeIds) (written : ∀ child ∈ children, jsTrim child ≠ "") :
    child ∈ childrenAfter change.after change.giving nodeId children ↔
      child ∈ children ∨ change.given topology = some (nodeId, child) := by
  unfold childrenAfter LinkChange.giving LinkChange.given
  split_ifs with touches archived
  · exact (or_iff_left nofun).symm
  · rw [mem_uniqueValues, mem_append, mem_singleton, linkedPair_eq_some declared]
    constructor
    · rintro ⟨inside | rfl, some⟩
      · exact .inl inside
      · exact .inr ⟨touches, rfl, some⟩
    · rintro (inside | ⟨-, rfl, some⟩)
      · exact ⟨.inl inside, written child inside⟩
      · exact ⟨.inr rfl, some⟩
  · exact (or_iff_left nofun).symm
  · rw [linkedPair_eq_some declared]
    exact (or_iff_left fun linked => touches linked.1).symm

lemma Kept.step (kept : Kept topology) (made : change.Made topology next)
    (careful : change.Careful topology) : Kept next := by
  intro after member child
  rw [made.nodes] at member
  obtain ⟨node, original, id, changed⟩ := mem_modifyGrant_twice member
  have declared : node.id ∈ topology.nodeIds := mem_map_of_mem original
  have written : ∀ child ∈ node.children, jsTrim child ≠ "" := fun child inside =>
    ((kept node original child).mp inside).written
  rw [id, made.reads]
  have before := (kept node original child).trans (made.reads_before (node.id, child))
  rcases changed with all | ⟨same, twice⟩
  · have written' : ∀ child ∈ childrenAfter (change.before.getD change.after)
        (change.taking topology) node.id node.children, jsTrim child ≠ "" := fun child inside =>
      written child ((mem_taking declared written).mp inside).1
    rw [all, mem_giving declared written', mem_taking declared written, before]
    constructor
    · rintro (⟨read, held⟩ | given)
      · by_contra unread
        exact held (careful.unread _ read unread)
      · exact careful.given _ given
    · intro read
      by_cases given : change.given topology = some (node.id, child)
      · exact .inr given
      · refine .inl ⟨(careful.read _ read).resolve_right given, fun taken => ?_⟩
        exact given (careful.taken _ taken read)
  · rw [same, before]
    by_contra differ
    exact absurd (careful.single _ differ) (Nat.not_le.mpr twice)

end Step

/-! ## Whole logs -/

/-- The same nodes with the same children, whatever their order. -/
def SameChildren (topology other : EnterpriseTopology) : Prop :=
  List.Forall₂ (fun before after : NodeContract =>
    after.id = before.id ∧ ∀ child, child ∈ after.children ↔ child ∈ before.children)
    topology.nodes other.nodes

section Logs

variable {profile : NodeContract → MetadataValue} {topology : EnterpriseTopology}

lemma Kept.sameChildren (kept : Kept topology) :
    SameChildren topology (repairTopologyForPersistence profile topology).1 := by
  refine repaired_nodes.imp fun before after repaired => ?_
  obtain ⟨member, id, children⟩ := repaired
  refine ⟨id, fun child => ?_⟩
  split_ifs at children
  · exact (children child).trans (kept before member child).symm
  · rw [children]

lemma kept_repaired
    (delegates : hasDelegationRelation (repairTopologyForPersistence profile topology).1 = true) :
    Kept (repairTopologyForPersistence profile topology).1 := by
  intro after member child
  have delegates' : hasDelegationRelation (cleanedTopology topology) = true := by
    unfold hasDelegationRelation at delegates ⊢
    rwa [repaired_relations] at delegates
  obtain ⟨before, -, id, children⟩ := forall₂_mem_right repaired_nodes member
  rw [if_pos delegates'] at children
  rw [children, id, reads_repaired]

lemma Kept.replay {log : List GuiOperation} {last : EnterpriseTopology} (kept : Kept topology)
    (careful : CarefulLog topology log) (replayed : replay topology log = .ok last) : Kept last := by
  induction log generalizing topology with
  | nil =>
    cases replayed
    exact kept
  | cons operation rest ih =>
    obtain ⟨⟨change, changes, own⟩, later⟩ := careful
    unfold Knowbee.Topology.replay at replayed
    rw [foldlM_cons] at replayed
    cases applied : applyOperation topology operation with
    | error issue =>
      rw [applied] at replayed
      cases replayed
    | ok next =>
      rw [applied] at replayed
      exact ih (kept.step (made_of_applied changes applied) own) (later next applied) replayed

end Logs

/-! ## Renaming a relation -/

/-- The same nodes with the same children, tools and systems, whatever their order. -/
def SameGrants (topology other : EnterpriseTopology) : Prop :=
  List.Forall₂ (fun before after : NodeContract => after.id = before.id ∧
    ∀ (list : GrantList) (value : String), value ∈ list.values after ↔ value ∈ list.values before)
    topology.nodes other.nodes

/-- A patch that changes neither the type nor the ends nor the status of a relation. -/
structure UpdateRelationPatch.Renames (patch : UpdateRelationPatch)
    (relation : EnterpriseRelation) : Prop where
  relationType : patch.relationType.getD relation.relationType = relation.relationType
  source : patch.source.getD relation.source = relation.source
  target : patch.target.getD relation.target = relation.target
  status : patch.status.getD relation.status = relation.status

/-- Taking what a relation gives and giving it again changes nothing: it is not
taken from where an archived relation leaves it, and given only where it was. -/
def RenameHarmless (topology : EnterpriseTopology) (relation : EnterpriseRelation) : Prop :=
  ∀ (list : GrantList) (node : NodeContract), relation.source.entityType = .node →
    relation.grantList = some list → findNode topology relation.source.id = some node →
    if relation.status = .archived then
      hasAnotherActiveRelation topology relation relation.id = true ∨
        relation.target.id ∉ list.values node
    else
      (jsTrim relation.target.id = "" ∨ relation.target.id ∈ list.values node) ∧
        ∀ value ∈ list.values node, jsTrim value ≠ ""

section Rename

variable {topology next : EnterpriseTopology} {relation : EnterpriseRelation}

/-- What renaming makes of the list that a relation is about. -/
def renamed (topology : EnterpriseTopology) (relation : EnterpriseRelation)
    (values : List String) : List String :=
  let taken := if hasAnotherActiveRelation topology relation relation.id then values
    else values.filter (· ≠ relation.target.id)
  if relation.status = .archived then taken else uniqueValues (taken ++ [relation.target.id])

lemma renamed_same (values : List String) :
    (∀ value, value ∈ renamed topology relation values ↔ value ∈ values) ↔
      if relation.status = .archived then
        hasAnotherActiveRelation topology relation relation.id = true ∨
          relation.target.id ∉ values
      else
        (jsTrim relation.target.id = "" ∨ relation.target.id ∈ values) ∧
          ∀ value ∈ values, jsTrim value ≠ "" := by
  unfold renamed
  dsimp only
  have taken value : (value ∈ (if hasAnotherActiveRelation topology relation relation.id
      then values else values.filter (· ≠ relation.target.id))) ↔ value ∈ values ∧
        (hasAnotherActiveRelation topology relation relation.id = true ∨
          value ≠ relation.target.id) := by
    split_ifs with another
    · simp [another]
    · simp [another]
  generalize (if hasAnotherActiveRelation topology relation relation.id then values
    else values.filter (· ≠ relation.target.id)) = left at taken ⊢
  split_ifs with archived
  · simp only [taken]
    constructor
    · intro same
      by_contra held
      obtain ⟨none, inside⟩ := not_or.mp held
      rcases ((same relation.target.id).mpr (not_not.mp inside)).2 with another | other
      · exact none another
      · exact other rfl
    · intro harmless value
      refine and_iff_left_of_imp fun inside => ?_
      rcases harmless with another | absent
      · exact .inl another
      · exact .inr fun same => absent (same ▸ inside)
  · simp only [mem_uniqueValues, mem_append, mem_singleton, taken]
    constructor
    · intro same
      refine ⟨or_iff_not_imp_left.mpr fun written => ?_, fun value inside => ?_⟩
      · exact (same relation.target.id).mp ⟨.inr rfl, written⟩
      · exact ((same value).mpr inside).2
    · rintro ⟨held, written⟩ value
      constructor
      · rintro ⟨⟨inside, -⟩ | rfl, some⟩
        · exact inside
        · exact held.resolve_left some
      · intro inside
        refine ⟨?_, written value inside⟩
        by_cases own : value = relation.target.id
        · exact .inr own
        · exact .inl ⟨inside, .inr own⟩

lemma GrantList.values_modify (list : GrantList) (change : List String → List String)
    (node : NodeContract) : list.values (list.modify change node) = change (list.values node) := by
  cases list <;> rfl

lemma GrantList.values_modify_of_ne {list other : GrantList} (different : other ≠ list)
    (change : List String → List String) (node : NodeContract) :
    other.values (list.modify change node) = other.values node := by
  cases list <;> cases other <;> first | rfl | exact (different rfl).elim

/-- Changing the list of one node leaves the sets as they were exactly if it leaves
that list so. -/
lemma sameGrants_modifyGrant {change : List String → List String} :
    SameGrants topology (modifyGrant topology relation change) ↔
      ∀ (list : GrantList) (node : NodeContract), relation.source.entityType = .node →
        relation.grantList = some list → findNode topology relation.source.id = some node →
        ∀ value, value ∈ change (list.values node) ↔ value ∈ list.values node := by
  have refl node : node.id = node.id ∧ ∀ (list : GrantList) value,
      value ∈ list.values node ↔ value ∈ list.values node :=
    ⟨rfl, fun _ _ => .rfl⟩
  unfold SameGrants modifyGrant
  split_ifs with source
  · exact iff_of_true (forall₂_same.mpr fun node _ => refl node)
      fun _ _ isNode => (source isNode).elim
  · have isNode := not_not.mp source
    split
    · rename_i none
      refine iff_of_true (forall₂_same.mpr fun node _ => refl node) ?_
      rintro list node - about
      cases none.symm.trans about
    · rename_i list about
      refine (forall₂_modifyFirst refl).trans ?_
      constructor
      · intro same list' node _ about' found value
        cases about.symm.trans about'
        have own := (same node found).2 list value
        rwa [list.values_modify] at own
      · intro same node found
        refine ⟨list.modify_id node, fun other value => ?_⟩
        by_cases own : other = list
        · rw [own, list.values_modify]
          exact same list node isNode about found value
        · rw [GrantList.values_modify_of_ne own]

lemma modifyGrant_congr {other : EnterpriseRelation} {change : List String → List String}
    (source : other.source = relation.source) (list : other.grantList = relation.grantList) :
    modifyGrant topology other change = modifyGrant topology relation change := by
  unfold modifyGrant
  rw [source, list]

lemma modifyGrant_modifyGrant {change change' : List String → List String} :
    modifyGrant (modifyGrant topology relation change) relation change' =
      modifyGrant topology relation (change' ∘ change) := by
  unfold modifyGrant
  split_ifs
  · rfl
  · cases relation.grantList with
    | none => rfl
    | some list =>
      have composed : list.modify change' ∘ list.modify change =
          list.modify (change' ∘ change) := by
        funext node
        cases list <;> rfl
      have kept node : decide ((list.modify change node).id =
          relation.source.id) = decide (node.id = relation.source.id) := by
        rw [list.modify_id]
      unfold modifyNode
      dsimp only
      rw [modifyFirst_modifyFirst kept, composed]

/-- Renaming a relation keeps what the nodes are allowed exactly under the condition. -/
lemma sameGrants_renamed_iff {patch : UpdateRelationPatch} {operation : GuiOperation}
    (found : findRelation topology relation.id = some relation)
    (action : operation.action = .updateRelation relation.id patch)
    (renames : patch.Renames relation) (applied : applyOperation topology operation = .ok next) :
    SameGrants topology next ↔ RenameHarmless topology relation := by
  have changes : linkChange? topology operation = some ⟨some relation,
      patch.apply operation.time relation, topology.relations.eraseP (·.id = relation.id)⟩ := by
    unfold linkChange?
    rw [action]
    dsimp only
    rw [found]
    rfl
  have list : (patch.apply operation.time relation).grantList = relation.grantList := by
    unfold EnterpriseRelation.grantList UpdateRelationPatch.apply
    dsimp only
    rw [renames.relationType, renames.target]
  have giving values : (LinkChange.giving ⟨some relation,
      patch.apply operation.time relation, topology.relations.eraseP (·.id = relation.id)⟩)
        (LinkChange.taking topology ⟨some relation, patch.apply operation.time relation,
          topology.relations.eraseP (·.id = relation.id)⟩ values) =
      renamed topology relation values := by
    unfold LinkChange.giving LinkChange.taking UpdateRelationPatch.apply renamed
    dsimp only
    rw [renames.target, renames.status]
  have nodes := (made_of_applied changes applied).nodes
  rw [modifyGrant_congr renames.source list, getD_some, modifyGrant_modifyGrant] at nodes
  unfold SameGrants
  rw [nodes]
  refine sameGrants_modifyGrant.trans ?_
  unfold RenameHarmless
  simp only [Function.comp_apply, giving, renamed_same]

end Rename

/-! ## The theorem -/

/-- In every draft, if its log is careful and the repaired topology it began with has a
delegation, the repair leaves the children of each node the same; and renaming a relation
keeps what the nodes are allowed exactly under its condition. -/
theorem bookkeeping_agrees (platform : Platform) (profile : NodeContract → MetadataValue)
    (source : EnterpriseTopology) (draft : GuiDraft)
    (history : GuiHistory platform profile source draft) :
    (hasDelegationRelation draft.baseTopology = true →
      CarefulLog draft.baseTopology draft.operationLog →
      SameChildren draft.topology (repairTopologyForPersistence profile draft.topology).1) ∧
      ∀ (relation : EnterpriseRelation) (patch : UpdateRelationPatch) (operation : GuiOperation)
        (next : EnterpriseTopology),
        findRelation draft.topology relation.id = some relation →
        operation.action = .updateRelation relation.id patch → patch.Renames relation →
        applyOperation draft.topology operation = .ok next →
        (SameGrants draft.topology next ↔ RenameHarmless draft.topology relation) := by
  refine ⟨fun delegates careful => ?_, fun relation patch operation next found action renames
    applied => sameGrants_renamed_iff found action renames applied⟩
  obtain ⟨base, replayed⟩ := history.replay
  rw [base] at delegates careful replayed
  exact ((kept_repaired delegates).replay careful replayed).sameChildren

/-! ## A relation that is made inactive -/

/-- A node with a child, linked by a relation. -/
def linkTopology : EnterpriseTopology :=
  plainTopology [plainNode "lead" [] [], plainNode "scout" [] []] []
    [createRelation leadToScout (.number 1)]

def linkDraft : GuiDraft := createEnterpriseTopologyGuiDraft plainPlatform plainProfile linkTopology

/-- A second relation between the two nodes. -/
def secondOperation : GuiOperation where
  operationId := "second"
  time := .number 2
  action := .createRelation { leadToScout with relationId := "second" }

def secondDraft : GuiDraft := draftAfter linkDraft secondOperation

lemma secondDraft_history : GuiHistory plainPlatform plainProfile linkTopology secondDraft :=
  have applied : applyEnterpriseTopologyGuiCommands plainPlatform linkDraft
      [.operation secondOperation] = .ok secondDraft := rfl
  .commands .opened applied

lemma secondDraft_careful : CarefulLog secondDraft.baseTopology secondDraft.operationLog := by
  let change : LinkChange := ⟨none, createRelation { leadToScout with relationId := "second" }
    (.number 2), linkDraft.topology.relations⟩
  refine ⟨⟨change, rfl, ?_⟩, fun _ _ => trivial⟩
  have given : change.given linkDraft.topology = some ("lead", "scout") := by decide
  have after : readPair linkDraft.topology.nodeIds change.after = some ("lead", "scout") := by
    decide
  have first : ∃ relation ∈ change.others,
      readPair linkDraft.topology.nodeIds relation = some ("lead", "scout") := by
    decide
  have only : ∀ relation ∈ change.others,
      readPair linkDraft.topology.nodeIds relation = some ("lead", "scout") := by
    decide
  have elsewhere pair (read : change.ReadElsewhere linkDraft.topology pair) :
      pair = ("lead", "scout") := by
    obtain ⟨relation, member, read⟩ := read
    exact some.inj (read.symm.trans (only relation member))
  have read pair (read : change.ReadAfter linkDraft.topology pair) :
      pair = ("lead", "scout") := by
    rcases read with other | own
    · exact elsewhere pair other
    · exact some.inj (own.symm.trans after)
  refine ⟨?_, ?_, nofun, ?_, ?_⟩
  · intro pair own
    exact .inr (after.trans (given.symm.trans own))
  · intro pair inside
    exact .inr (read pair inside ▸ given)
  · rintro pair (other | none) unread
    · exact (unread (.inl other)).elim
    · cases none
  · have distinct : linkDraft.topology.nodeIds.Nodup := by decide
    exact fun pair _ => nodup_iff_count_le_one.mp distinct pair.1

def renameOperation : GuiOperation where
  operationId := "rename"
  time := .number 3
  action := .updateRelation "link" { name := some "Link" }

theorem bookkeeping_agrees_second :
    SameChildren secondDraft.topology
        (repairTopologyForPersistence plainProfile secondDraft.topology).1 ∧
      (SameGrants secondDraft.topology (draftAfter secondDraft renameOperation).topology ↔
        RenameHarmless secondDraft.topology (createRelation leadToScout (.number 1))) := by
  have agrees := bookkeeping_agrees plainPlatform plainProfile linkTopology secondDraft
    secondDraft_history
  exact ⟨agrees.1 (by decide) secondDraft_careful, agrees.2 _ { name := some "Link" }
    renameOperation _ rfl rfl ⟨rfl, rfl, rfl, rfl⟩ rfl⟩

def inactiveOperation : GuiOperation where
  operationId := "pause"
  time := .number 2
  action := .updateRelation "link" { status := some .inactive }

def inactiveDraft : GuiDraft := draftAfter linkDraft inactiveOperation

/-- The editor keeps the child of a relation that is inactive, the repair does not. -/
theorem inactive_link_drifts :
    GuiHistory plainPlatform plainProfile linkTopology inactiveDraft ∧
      hasDelegationRelation inactiveDraft.baseTopology = true ∧
      ¬SameChildren inactiveDraft.topology
        (repairTopologyForPersistence plainProfile inactiveDraft.topology).1 := by
  have applied : applyEnterpriseTopologyGuiCommands plainPlatform linkDraft
      [.operation inactiveOperation] = .ok inactiveDraft := rfl
  refine ⟨.commands .opened applied, by decide, fun same => ?_⟩
  obtain ⟨pair, listed, held, dropped⟩ : ∃ pair ∈ inactiveDraft.topology.nodes.zip
      (repairTopologyForPersistence plainProfile inactiveDraft.topology).1.nodes,
      "scout" ∈ pair.1.children ∧ "scout" ∉ pair.2.children := by
    decide
  have both := (forall₂_iff_zip.mp same).2 listed
  exact dropped ((both.2 "scout").mpr held)

end Knowbee.Topology
