import Knowbee.Topology.ValidatorSound

/-!
# One more delegation among the relations

What the editor makes of a topology when it creates a delegation differs from it
by the children lists, by one more relation at the end and by the time of the last
change.  The enterprise rules do not look at any of these, and no reference gets
lost, so only the contract check, the ids and the delegation graph can object.
-/

namespace Knowbee.Topology

open List EnterpriseTopology Relation

def NodeContract.withChildren (children : NodeContract → List String) (node : NodeContract) :
    NodeContract :=
  { node with children := children node }

/-- The nodes with other children, one more relation, and another time. -/
def EnterpriseTopology.relinked (topology : EnterpriseTopology)
    (children : NodeContract → List String) (relation : EnterpriseRelation) (time : Timestamp) :
    EnterpriseTopology :=
  { topology with
    nodes := topology.nodes.map (.withChildren children)
    relations := topology.relations ++ [relation]
    updatedAt := time }

/-! ## Collections -/

section Collections

variable {α β γ : Type}

lemma overCollection_map (items : List α) (change : α → β) (key : String)
    (each : β → String → List γ) : overCollection (items.map change) key each =
      overCollection items key fun item => each (change item) := by
  unfold overCollection
  rw [zipIdx_map, flatMap_map]
  rfl

lemma overCollection_concat (items : List α) (last : α) (key : String)
    (each : α → String → List γ) : overCollection (items ++ [last]) key each =
      overCollection items key each ++ each last s!"$.{key}[{items.length}]" := by
  unfold overCollection
  rw [zipIdx_append, flatMap_append, Nat.zero_add]
  simp

lemma overCollection_congr {items : List α} {key : String} {each each' : α → String → List γ}
    {P : γ → Prop} (all : ∀ value ∈ overCollection items key each, P value)
    (same : ∀ item ∈ items, ∀ path, (∀ value ∈ each item path, P value) →
      each' item path = each item path) :
    overCollection items key each' = overCollection items key each := by
  unfold overCollection at all ⊢
  refine flatMap_congr fun entry member => ?_
  exact same entry.1 (fst_mem_of_mem_zipIdx member) _ fun value inside =>
    all value (mem_flatMap.mpr ⟨entry, member, inside⟩)

lemma entityById?_map {id : α → String} {change : α → α} (kept : ∀ item, id (change item) = id item)
    (items : List α) (key : String) :
    entityById? id (items.map change) key = (entityById? id items key).map change := by
  unfold entityById?
  rw [← map_reverse, find?_map]
  refine congrArg (Option.map change) (congrArg (List.find? · _) (funext fun item => ?_))
  rw [Function.comp_apply, kept]

end Collections

variable {platform : Platform} {topology : EnterpriseTopology}
  {children : NodeContract → List String} {relation : EnterpriseRelation} {time : Timestamp}

lemma node_relinked (key : String) :
    entityById? (·.id) (topology.relinked children relation time).nodes key =
      (entityById? (·.id) topology.nodes key).map (.withChildren children) := by
  have kept (node : NodeContract) : (node.withChildren children).id = node.id := rfl
  exact entityById?_map kept topology.nodes key

/-! ## The enterprise rules -/

section Rules

variable (delegates : relation.relationType = .delegatesTo)

include delegates

lemma approvalTargets_relinked :
    buildApprovalTargetSet platform (topology.relinked children relation time) =
      buildApprovalTargetSet platform topology := by
  unfold buildApprovalTargetSet relinked
  rw [filterMap_append]
  simp only [filterMap_cons, filterMap_nil, delegates, reduceCtorEq, if_false,
    append_nil]

lemma approvalCoverage_relinked :
    validateApprovalCoverage platform (topology.relinked children relation time) =
      validateApprovalCoverage platform topology := by
  unfold validateApprovalCoverage
  rw [approvalTargets_relinked delegates]
  refine congrArg₂ (· ++ ·) (overCollection_map _ _ _ _) ?_
  refine (overCollection_concat _ _ _ _).trans ?_
  simp only [delegates, ne_eq, reduceCtorEq, not_false_eq_true, if_true, append_nil]
  rfl

lemma not_grants {relationType : RelationType} {entityType : EntityType}
    (other : relationType ≠ .delegatesTo) : relation.grants relationType entityType = false := by
  unfold EnterpriseRelation.grants
  rw [delegates, decide_eq_false (Ne.symm other), Bool.false_and]

lemma grantedPairs_relinked {relationTypes : List RelationType} {entityType : EntityType}
    (others : .delegatesTo ∉ relationTypes) :
    grantedPairs (topology.relinked children relation time) relationTypes entityType =
      grantedPairs topology relationTypes entityType := by
  unfold grantedPairs
  simp only [node_relinked, Option.isSome_map]
  unfold relinked
  have none : relationTypes.any (relation.grants · entityType) = false := by
    rw [any_eq_false]
    intro relationType member
    rw [not_grants delegates fun same => others (same ▸ member)]
    exact Bool.false_ne_true
  rw [filterMap_append]
  simp only [filterMap_cons, filterMap_nil, none, Bool.false_eq_true, and_false, if_false,
    append_nil]

omit delegates in
lemma relationPermission_relinked :
    validateRelationPermission (topology.relinked children relation time) =
      validateRelationPermission topology := by
  refine funext fun other => funext fun path => ?_
  unfold validateRelationPermission
  rw [node_relinked]
  cases entityById? (·.id) topology.nodes other.source.id <;> rfl

lemma permissions_relinked :
    validatePermissionRules (topology.relinked children relation time) =
      validatePermissionRules topology := by
  unfold validatePermissionRules
  rw [grantedPairs_relinked delegates (by decide), grantedPairs_relinked delegates (by decide)]
  refine congrArg₂ (· ++ ·) ?_ (overCollection_map _ _ _ _)
  refine (overCollection_concat _ _ _ _).trans ?_
  rw [relationPermission_relinked]
  refine (congrArg (_ ++ ·) ?_).trans (append_nil _)
  unfold validateRelationPermission
  rw [not_grants delegates (by decide), not_grants delegates (by decide),
    not_grants delegates (by decide), not_grants delegates (by decide)]
  cases entityById? (·.id) topology.nodes relation.source.id <;> exact ite_self _

lemma systemAccess_relinked (key : String) :
    systemAccessByNode (topology.relinked children relation time) key =
      systemAccessByNode topology key := by
  unfold systemAccessByNode relinked
  rw [filter_append, filter_cons_of_neg (by simp [delegates]), filter_nil,
    append_nil]

lemma dataDomains_relinked :
    validateDataDomainAccessRules (topology.relinked children relation time) =
      validateDataDomainAccessRules topology := by
  have each : validateRelationDataDomains (topology.relinked children relation time) =
      validateRelationDataDomains topology := by
    refine funext fun other => funext fun path => ?_
    have system : (systemIdOfRelation (topology.relinked children relation time) other).bind
        (entityById? (·.id) (topology.relinked children relation time).systems) =
        (systemIdOfRelation topology other).bind (entityById? (·.id) topology.systems) := rfl
    unfold validateRelationDataDomains
    rw [node_relinked, system]
    simp only [systemAccess_relinked delegates]
    cases entityById? (·.id) topology.nodes other.source.id with
    | none => rfl
    | some node =>
      cases (systemIdOfRelation topology other).bind (entityById? (·.id) topology.systems) <;> rfl
  unfold validateDataDomainAccessRules
  rw [each]
  refine (overCollection_concat _ _ _ _).trans ((congrArg (_ ++ ·) ?_).trans (append_nil _))
  unfold validateRelationDataDomains systemIdOfRelation
  rw [not_grants delegates (by decide), not_grants delegates (by decide)]
  simp

lemma processes_relinked :
    validateProcessRules (topology.relinked children relation time) =
      validateProcessRules topology := by
  unfold validateProcessRules
  refine congrArg₂ (· ++ ·) ?_ ?_
  · refine congrArg (overCollection topology.processes "processes")
      (funext fun process => funext fun path => ?_)
    unfold validateProcessRule
    refine congrArg (_ ++ ·) (flatMap_congr fun entry _ => ?_)
    dsimp only
    rw [node_relinked]
    cases entityById? (·.id) topology.nodes entry.1 <;> rfl
  · refine (overCollection_concat _ _ _ _).trans ?_
    refine (congrArg (_ ++ ·) ?_).trans (append_nil _)
    unfold validateProcessTransitionReference
    rw [if_pos (by rw [delegates]; decide)]

omit delegates in
lemma climb_relinked (possibleAncestorId : String) (fuel : Nat) (current : String)
    (visited : List String) :
    isSameOrAncestorOrgUnit.climb (topology.relinked children relation time) possibleAncestorId fuel
        current visited =
      isSameOrAncestorOrgUnit.climb topology possibleAncestorId fuel current visited := by
  induction fuel generalizing current visited with
  | zero => rfl
  | succ fuel ih =>
    unfold isSameOrAncestorOrgUnit.climb
    simp only [ih]
    rfl

omit delegates in
lemma positionReporting_relinked :
    validatePositionReporting (topology.relinked children relation time) =
      validatePositionReporting topology := by
  unfold validatePositionReporting isSameOrAncestorOrgUnit
  simp only [climb_relinked]
  rfl

lemma enterpriseRules_relinked (indexes : List IndexedTopologyEntity)
    (options : TopologyValidatorOptions) :
    validateEnterpriseRules platform (topology.relinked children relation time) indexes options =
      validateEnterpriseRules platform topology indexes options := by
  have responsibilities :
      validateResponsibilityCoverage (topology.relinked children relation time) =
        validateResponsibilityCoverage topology :=
    congrArg₂ (· ++ ·) (congrArg (_ ++ ·) (overCollection_map _ _ _ _)) rfl
  have policies :
      validateNodeFailureAndRecoveryPolicies (topology.relinked children relation time) indexes =
        validateNodeFailureAndRecoveryPolicies topology indexes :=
    overCollection_map _ _ _ _
  unfold validateEnterpriseRules
  rw [positionReporting_relinked, approvalCoverage_relinked delegates, permissions_relinked delegates,
    dataDomains_relinked delegates, processes_relinked delegates, responsibilities, policies]
  rfl

end Rules

/-! ## References -/

variable {entityType refType : EntityType} {id path : String} {owner : ReferenceOwner}
  {context : Option (EntityType × String)}

lemma entityExists_iff : entityExists (indexedEntities topology) entityType id = true ↔
      (entityType = .topology ∧ id = topology.id) ∨
        ∃ collection ∈ topologyEntityCollections topology,
          collection.2.1 = entityType ∧ id ∈ collection.2.2 := by
  unfold entityExists indexedEntities
  rw [any_cons, Bool.or_eq_true, Bool.and_eq_true, decide_eq_true_eq, decide_eq_true_eq,
    any_eq_true]
  refine or_congr (and_congr eq_comm eq_comm) ?_
  constructor
  · rintro ⟨entity, member, same⟩
    rw [Bool.and_eq_true, decide_eq_true_eq, decide_eq_true_eq] at same
    obtain ⟨rfl, rfl⟩ := same
    obtain ⟨collection, inside, listed⟩ := mem_flatMap.mp member
    obtain ⟨place, found, rfl⟩ := mem_map.mp listed
    exact ⟨collection, inside, rfl, fst_mem_of_mem_zipIdx found⟩
  · rintro ⟨collection, inside, rfl, member⟩
    obtain ⟨index, found⟩ := getElem?_of_mem member
    have place : (id, index) ∈ collection.2.2.zipIdx := mem_zipIdx_iff_getElem?.mpr found
    exact ⟨_, mem_flatMap.mpr ⟨collection, inside, mem_map.mpr ⟨_, place, rfl⟩⟩,
      by simp⟩

lemma nodeIds_relinked : (topology.relinked children relation time).nodeIds = topology.nodeIds :=
  map_map

lemma entityExists_relinked :
    entityExists (indexedEntities (topology.relinked children relation time)) entityType id = true ↔
      entityExists (indexedEntities topology) entityType id = true ∨
        (entityType = .relation ∧ id = relation.id) := by
  have nodes : (topology.relinked children relation time).nodes.map (fun node => node.id) =
      topology.nodes.map fun node => node.id := nodeIds_relinked
  rw [entityExists_iff, entityExists_iff]
  unfold topologyEntityCollections
  rw [nodes]
  simp only [relinked, map_append, map_cons, map_nil,
    exists_mem_cons_iff, mem_singleton, exists_eq_left, mem_append, and_or_left,
    or_assoc, eq_comm (a := EntityType.relation)]

lemma entityExists_kept (found : entityExists (indexedEntities topology) entityType id = true) :
    entityExists (indexedEntities (topology.relinked children relation time)) entityType id = true :=
  entityExists_relinked.mpr (.inl found)

lemma entityExists_other (other : entityType ≠ .relation) (id : String) :
    entityExists (indexedEntities (topology.relinked children relation time)) entityType id =
      entityExists (indexedEntities topology) entityType id := by
  rw [Bool.eq_iff_iff, entityExists_relinked]
  exact or_iff_left fun same => other same.1

lemma typedReference_nil {indexes : List IndexedTopologyEntity} {refId : String}
    (found : entityExists indexes refType refId = true) (path : String) (owner : ReferenceOwner) :
    validateTypedReference indexes refType refId path owner = [] :=
  if_pos found

lemma typedReferences_nil {indexes : List IndexedTopologyEntity} {refIds : List String}
    (found : ∀ refId ∈ refIds, entityExists indexes refType refId = true) (path : String)
    (owner : ReferenceOwner) : validateTypedReferences indexes refType refIds path owner = [] := by
  refine flatMap_eq_nil_iff.mpr fun entry member => ?_
  exact typedReference_nil (found entry.1 (fst_mem_of_mem_zipIdx member)) _ _

lemma typedReference_other (other : refType ≠ .relation) :
    validateTypedReference (indexedEntities (topology.relinked children relation time)) refType =
      validateTypedReference (indexedEntities topology) refType := by
  unfold validateTypedReference
  simp only [entityExists_other other]

lemma typedReferences_other (other : refType ≠ .relation) :
    validateTypedReferences (indexedEntities (topology.relinked children relation time)) refType =
      validateTypedReferences (indexedEntities topology) refType := by
  unfold validateTypedReferences
  simp only [typedReference_other other]

lemma optionalTypedReference_other (other : refType ≠ .relation) :
    validateOptionalTypedReference (indexedEntities (topology.relinked children relation time))
        refType =
      validateOptionalTypedReference (indexedEntities topology) refType := by
  unfold validateOptionalTypedReference
  simp only [typedReference_other other]

def Permitted (issues : List TopologyValidatorIssue) : Prop :=
  ∀ issue ∈ issues, isBlockingSeverity issue.severity = false

lemma permitted_append {first second : List TopologyValidatorIssue} :
    Permitted (first ++ second) ↔ Permitted first ∧ Permitted second :=
  forall_mem_append

section Kept

variable {indexes after : List IndexedTopologyEntity}
  (grows : ∀ {entityType id}, entityExists indexes entityType id = true →
    entityExists after entityType id = true)

include grows

lemma entityReference_kept {reference : EntityRef}
    (fine : Permitted (validateEntityReference indexes reference path owner)) :
    validateEntityReference after reference path owner =
      validateEntityReference indexes reference path owner := by
  have found := typedReference_exists fine
  exact (typedReference_nil (grows found) _ _).trans (typedReference_nil found _ _).symm

lemma optionalEntityReference_kept {reference : Option EntityRef}
    (fine : Permitted (validateOptionalEntityReference indexes reference path owner)) :
    validateOptionalEntityReference after reference path owner =
      validateOptionalEntityReference indexes reference path owner := by
  cases reference with
  | none => rfl
  | some reference => exact entityReference_kept grows fine

lemma entityReferences_kept {references : List EntityRef}
    (fine : Permitted (validateEntityReferences indexes references path owner)) :
    validateEntityReferences after references path owner =
      validateEntityReferences indexes references path owner := by
  refine flatMap_congr fun entry member => entityReference_kept grows fun issue inside => ?_
  exact fine issue (mem_flatMap.mpr ⟨entry, member, inside⟩)

lemma authorityRuleReferences_kept {rule : AuthorityRule}
    (fine : Permitted (validateAuthorityRuleReferences indexes rule path)) :
    validateAuthorityRuleReferences after rule path =
      validateAuthorityRuleReferences indexes rule path := by
  unfold validateAuthorityRuleReferences at fine ⊢
  dsimp only at fine ⊢
  rw [permitted_append] at fine
  rw [entityReference_kept grows fine.1, entityReference_kept grows fine.2]

lemma responsibilityReferences_kept {entry : ResponsibilityMatrixEntry}
    (fine : Permitted (validateResponsibilityReferences indexes entry path)) :
    validateResponsibilityReferences after entry path =
      validateResponsibilityReferences indexes entry path := by
  unfold validateResponsibilityReferences at fine ⊢
  dsimp only at fine ⊢
  simp only [permitted_append] at fine
  obtain ⟨⟨⟨⟨scope, responsible⟩, accountable⟩, consulted⟩, informed⟩ := fine
  rw [entityReference_kept grows scope, entityReference_kept grows responsible,
    optionalEntityReference_kept grows accountable, entityReferences_kept grows consulted,
    entityReferences_kept grows informed]

lemma relationReferences_kept {other : EnterpriseRelation}
    (fine : Permitted (validateRelationReferences indexes other path)) :
    validateRelationReferences after other path =
      validateRelationReferences indexes other path := by
  unfold validateRelationReferences at fine ⊢
  dsimp only at fine ⊢
  rw [permitted_append, permitted_append] at fine
  rw [entityReference_kept grows fine.1.1, entityReference_kept grows fine.1.2]

end Kept

lemma newReferences_nil (delegation : relation.isDelegation = true)
    (source : relation.source.id ∈ topology.nodeIds)
    (target : relation.target.id ∈ topology.nodeIds) (path : String) :
    validateRelationReferences (indexedEntities (topology.relinked children relation time))
      relation path = [] := by
  unfold EnterpriseRelation.isDelegation at delegation
  simp only [Bool.and_eq_true, decide_eq_true_eq] at delegation
  obtain ⟨⟨kind, sourceNode⟩, targetNode⟩ := delegation
  have found {id : String} (member : id ∈ topology.nodeIds) :
      entityExists (indexedEntities (topology.relinked children relation time)) .node id = true :=
    entityExists_node.mpr (nodeIds_relinked.symm ▸ member)
  unfold validateRelationReferences validateEntityReference
  dsimp only
  rw [sourceNode, targetNode, typedReference_nil (found source),
    typedReference_nil (found target), kind]
  rfl

section Executable

variable {options : TopologyValidatorOptions}
  (executable : (validateTopology platform topology options).executable = true)

include executable

lemma permitted_references :
    Permitted (validateTopologyReferences topology (indexedEntities topology)) :=
  fun _ member => references_exist executable member

section

variable (declared : ∀ node ∈ topology.nodes, ∀ child ∈ children node, child ∈ topology.nodeIds)

include declared

lemma nodeReferences_relinked {node : NodeContract} (member : node ∈ topology.nodes)
    {path : String}
    (fine : Permitted (validateNodeReferences (indexedEntities topology) node path)) :
    validateNodeReferences (indexedEntities (topology.relinked children relation time))
        (node.withChildren children) path =
      validateNodeReferences (indexedEntities topology) node path := by
  have before : ∀ child ∈ node.children,
      entityExists (indexedEntities topology) .node child = true := fun child listed =>
    entityExists_node.mpr (child_declared executable member listed)
  have after : ∀ child ∈ children node,
      entityExists (indexedEntities topology) .node child = true := fun child listed =>
    entityExists_node.mpr (declared node member child listed)
  unfold validateNodeReferences NodeContract.withChildren at *
  dsimp only at fine ⊢
  simp only [permitted_append] at fine
  rw [typedReferences_other (by decide), typedReferences_other (by decide),
    typedReferences_other (by decide), typedReferences_nil after, typedReferences_nil before,
    optionalEntityReference_kept entityExists_kept fine.1.1.1]

lemma references_relinked (delegation : relation.isDelegation = true)
    (source : relation.source.id ∈ topology.nodeIds)
    (target : relation.target.id ∈ topology.nodeIds) :
    validateTopologyReferences (topology.relinked children relation time)
        (indexedEntities (topology.relinked children relation time)) =
      validateTopologyReferences topology (indexedEntities topology) := by
  have fine := permitted_references executable
  unfold validateTopologyReferences at fine
  simp only [permitted_append] at fine
  obtain ⟨⟨⟨⟨⟨⟨⟨⟨⟨⟨nodes, -⟩, -⟩, -⟩, -⟩, -⟩, rules⟩, responsibilities⟩, -⟩, -⟩, relations⟩ := fine
  unfold validateTopologyReferences
  refine congrArg₂ (· ++ ·) (congrArg₂ (· ++ ·) (congrArg₂ (· ++ ·) (congrArg₂ (· ++ ·)
    (congrArg₂ (· ++ ·) (congrArg₂ (· ++ ·) (congrArg₂ (· ++ ·) (congrArg₂ (· ++ ·)
    (congrArg₂ (· ++ ·) (congrArg₂ (· ++ ·) ?_ ?_) ?_) ?_) ?_) ?_) ?_) ?_) ?_) ?_) ?_
  · exact (overCollection_map _ _ _ _).trans (overCollection_congr nodes fun node member path =>
      nodeReferences_relinked executable declared member)
  · unfold validateTeamReferences
    rw [typedReferences_other (by decide)]
    rfl
  · unfold validateOrgUnitReferences
    rw [optionalTypedReference_other (by decide), typedReferences_other (by decide),
      typedReferences_other (by decide)]
    rfl
  · unfold validatePositionReferences
    rw [typedReference_other (by decide), optionalTypedReference_other (by decide),
      typedReferences_other (by decide)]
    rfl
  · unfold validatePersonReferences
    rw [typedReferences_other (by decide), typedReferences_other (by decide)]
    rfl
  · unfold validateMembershipReferences
    rw [typedReference_other (by decide), optionalTypedReference_other (by decide),
      optionalTypedReference_other (by decide), optionalTypedReference_other (by decide)]
    rfl
  · exact overCollection_congr rules fun rule _ path =>
      authorityRuleReferences_kept entityExists_kept
  · exact overCollection_congr responsibilities fun entry _ path =>
      responsibilityReferences_kept entityExists_kept
  · unfold validateToolReferences
    rw [optionalTypedReference_other (by decide)]
    rfl
  · unfold validateProcessReferences
    rw [optionalTypedReference_other (by decide), typedReferences_other (by decide),
      optionalTypedReference_other (by decide)]
    rfl
  · refine (overCollection_concat _ _ _ _).trans ?_
    rw [newReferences_nil delegation source target, append_nil]
    exact overCollection_congr relations fun other _ path =>
      relationReferences_kept entityExists_kept

end

end Executable

/-! ## Ids -/

lemma duplicates_foldl {entities : List IndexedTopologyEntity}
    {state : List IndexedTopologyEntity × List TopologyValidatorIssue}
    (distinct : ((state.1 ++ entities).map (·.id)).Nodup) (none : state.2 = []) :
    (entities.foldl addIndexedEntity state).2 = [] := by
  induction entities generalizing state with
  | nil => exact none
  | cons entity rest ih =>
    rw [foldl_cons]
    refine ih ?_ ?_
    · change (((state.1 ++ [entity]) ++ rest).map (·.id)).Nodup
      rw [append_assoc]
      exact distinct
    · have fresh : state.1.find? (·.id = entity.id) = Option.none := by
        rw [find?_eq_none]
        intro earlier member same
        rw [map_append] at distinct
        exact (nodup_append.mp distinct).2.2 _ (mem_map_of_mem member) _
          (mem_map_of_mem mem_cons_self) (of_decide_eq_true same)
      unfold addIndexedEntity
      rw [fresh, none]
      rfl

lemma duplicates_eq_nil (distinct : topology.entityIds.Nodup) :
    (buildTopologyEntityIndexes topology).2 = [] := by
  refine duplicates_foldl ?_ rfl
  rw [nil_append, map_indexedEntities]
  exact distinct

lemma entityIds_relinked :
    (topology.relinked children relation time).entityIds = topology.entityIds ++ [relation.id] := by
  have nodes : (topology.relinked children relation time).nodes.map (fun node => node.id) =
      topology.nodes.map fun node => node.id := nodeIds_relinked
  unfold entityIds topologyEntityCollections
  rw [nodes]
  simp only [relinked, flatMap_cons, flatMap_nil, map_append,
    map_cons, map_nil, append_assoc, append_nil, cons_append]

/-! ## The delegation graph -/

lemma delegationGraph_eq_nil {options : TopologyValidatorOptions}
    (acyclic : ∀ a, ¬TransGen (DelegationStep topology) a a)
    (short : ∀ path, DelegationPath topology path →
      options.maxDepth.lt (.ofNat (path.length - 1)) = false)
    (declared : ∀ a b, Delegates topology a b → b ∈ topology.nodeIds) :
    validateDelegationGraph platform topology (indexedEntities topology) options.maxDepth = [] := by
  unfold validateDelegationGraph
  rw [detectDelegationCycles_eq_nil acyclic, detectDelegationDepthOverflow_eq_nil short,
    nil_append, nil_append, flatMap_eq_nil_iff]
  intro source _
  split_ifs
  · refine flatMap_eq_nil_iff.mpr fun edge member => typedReference_nil ?_ _ _
    have adjacent := (mem_filter.mp member).1
    exact entityExists_node.mpr (declared edge.source edge.target
      (exists_edge_iff.mp ⟨edge, adjacent, rfl, rfl⟩))
  · rfl

variable (delegation : relation.isDelegation = true)
  (source : relation.source.id ∈ topology.nodeIds) (target : relation.target.id ∈ topology.nodeIds)
  (added : ∀ node ∈ topology.nodes, ∀ child ∈ children node, child ∈ node.children ∨
    (node.id = relation.source.id ∧ child = relation.target.id))
  (dropped : ∀ node ∈ topology.nodes, ∀ child ∈ node.children, child ∈ children node ∨
    (node.id = relation.source.id ∧ child = relation.target.id))

section Graph

include delegation added dropped

lemma delegates_relinked {a b : String} :
    Delegates (topology.relinked children relation time) a b ↔
      Delegates topology a b ∨ (a = relation.source.id ∧ b = relation.target.id) := by
  have listed : relation ∈ (topology.relinked children relation time).relations :=
    mem_append_right _ (mem_singleton_self _)
  constructor
  · rintro (⟨member, rfl, child⟩ | ⟨member, isDelegation, rfl, rfl⟩)
    · obtain ⟨node, inside, rfl⟩ := mem_map.mp member
      rcases added node inside b child with old | new
      · exact .inl (.child inside rfl old)
      · exact .inr new
    · rcases mem_append.mp member with old | new
      · exact .inl (.relation old isDelegation rfl rfl)
      · rw [mem_singleton.mp new]
        exact .inr ⟨rfl, rfl⟩
  · rintro ((⟨member, rfl, child⟩ | ⟨member, isDelegation, rfl, rfl⟩) | ⟨rfl, rfl⟩)
    · rename_i node
      rcases dropped node member b child with still | ⟨own, rfl⟩
      · exact .child (mem_map_of_mem member) rfl still
      · exact .relation listed delegation own.symm rfl
    · exact .relation (mem_append_left _ member) isDelegation rfl rfl
    · exact .relation listed delegation rfl rfl

include source target

lemma delegationStep_relinked : DelegationStep (topology.relinked children relation time) =
    Digraph.WithEdge (DelegationStep topology) relation.source.id relation.target.id := by
  refine funext fun a => funext fun b => propext ?_
  unfold DelegationStep Digraph.WithEdge
  rw [nodeIds_relinked, delegates_relinked delegation added dropped]
  constructor
  · rintro ⟨first, second, old | new⟩
    · exact .inl ⟨first, second, old⟩
    · exact .inr new
  · rintro (⟨first, second, old⟩ | ⟨rfl, rfl⟩)
    · exact ⟨first, second, .inl old⟩
    · exact ⟨source, target, .inr ⟨rfl, rfl⟩⟩

end Graph

/-! ## The contract check -/

lemma overArray_map {α β : Type} (items : List α) (change : α → β) (key : String)
    (entityType : EntityType) (id : β → String)
    (validateItem : Option (EntityType × String) → β → String → List ContractIssue) :
    validateEntityArray (items.map change) key entityType id validateItem =
      validateEntityArray items key entityType (fun item => id (change item))
        fun context item => validateItem context (change item) := by
  unfold validateEntityArray
  rw [zipIdx_map, flatMap_map]
  rfl

lemma overArray_concat {α : Type} (items : List α) (last : α) (key : String)
    (entityType : EntityType) (id : α → String)
    (validateItem : Option (EntityType × String) → α → String → List ContractIssue) :
    validateEntityArray (items ++ [last]) key entityType id validateItem =
      validateEntityArray items key entityType id validateItem ++
        validateItem (some (entityType, id last)) last s!"$.{key}[{items.length}]" := by
  unfold validateEntityArray
  rw [zipIdx_append, flatMap_append, Nat.zero_add]
  simp only [zipIdx_cons, zipIdx_nil, flatMap_cons, flatMap_nil,
    append_nil]

/-- A number that is finite, or a text that is not blank. -/
def Timestamp.valid : Timestamp → Bool
  | .number (.finite _) => true
  | .number _ => false
  | .text value => jsTrim value ≠ ""

lemma validateTimestamp_eq_nil {value : Timestamp} {key : String} :
    validateTimestamp context value key path = [] ↔ value.valid = true := by
  unfold validateTimestamp Timestamp.valid
  split
  · simp
  · rename_i number notFinite
    cases number with
    | finite value => exact (notFinite value rfl).elim
    | _ => simp
  · simp

lemma validateRequiredString_eq_nil {value key : String} :
    validateRequiredString context value key path = [] ↔ jsTrim value ≠ "" := by
  unfold validateRequiredString
  rw [ite_eq_left_iff, not_lt, Nat.le_zero, String.length_eq_zero_iff]
  simp

lemma validateBaseEntity_eq_nil {entity : BaseEntity} :
    validateBaseEntity context entity path = [] ↔
      jsTrim entity.id ≠ "" ∧ jsTrim entity.name ≠ "" ∧ entity.createdAt.valid = true ∧
        entity.updatedAt.valid = true := by
  unfold validateBaseEntity
  simp only [append_eq_nil_iff, validateRequiredString_eq_nil, validateTimestamp_eq_nil,
    and_assoc]

lemma validateEnterpriseRelation_eq_nil {relation : EnterpriseRelation} :
    validateEnterpriseRelation context relation path = [] ↔
      (jsTrim relation.id ≠ "" ∧ jsTrim relation.name ≠ "" ∧ relation.createdAt.valid = true ∧
        relation.updatedAt.valid = true) ∧
      jsTrim relation.source.id ≠ "" ∧ jsTrim relation.target.id ≠ "" ∧
        endpointAllowed relation.relationType relation.source.entityType
          relation.target.entityType = true := by
  unfold validateEnterpriseRelation validateEntityRef
  simp only [append_eq_nil_iff, validateBaseEntity_eq_nil, validateRequiredString_eq_nil,
    ite_eq_left_iff, cons_ne_nil, imp_false, not_not, and_assoc]

lemma nodeId_not_blank (contract : validateEnterpriseTopology topology = [])
    (member : id ∈ topology.nodeIds) : jsTrim id ≠ "" := by
  obtain ⟨node, inside, rfl⟩ := mem_map.mp member
  unfold validateEnterpriseTopology at contract
  simp only [append_eq_nil_iff, and_assoc] at contract
  obtain ⟨-, nodes, -⟩ := contract
  obtain ⟨index, found⟩ := getElem?_of_mem inside
  have checked := flatMap_eq_nil_iff.mp nodes (node, index)
    (mem_zipIdx_iff_getElem?.mpr found)
  exact (validateBaseEntity_eq_nil.mp (append_eq_nil_iff.mp checked).1).1

lemma contract_relinked (contract : validateEnterpriseTopology topology = [])
    (delegation : relation.isDelegation = true) (source : relation.source.id ∈ topology.nodeIds)
    (target : relation.target.id ∈ topology.nodeIds) :
    validateEnterpriseTopology (topology.relinked children relation time) = [] ↔
      time.valid = true ∧ jsTrim relation.id ≠ "" ∧ jsTrim relation.name ≠ "" ∧
        relation.createdAt.valid = true ∧ relation.updatedAt.valid = true := by
  have nodes : validateEntityArray (topology.relinked children relation time).nodes "nodes" .node
      (fun node => node.id) validateNodeContract =
      validateEntityArray topology.nodes "nodes" .node (fun node => node.id)
        validateNodeContract := overArray_map _ _ _ _ _ _
  have relations : validateEntityArray (topology.relinked children relation time).relations
      "relations" .relation (fun relation => relation.id) validateEnterpriseRelation =
      validateEntityArray topology.relations "relations" .relation (fun relation => relation.id)
        validateEnterpriseRelation ++ _ := overArray_concat _ _ _ _ _ _
  have sourceId := nodeId_not_blank contract source
  have targetId := nodeId_not_blank contract target
  have allowed : endpointAllowed relation.relationType relation.source.entityType
      relation.target.entityType = true := by
    unfold EnterpriseRelation.isDelegation at delegation
    simp only [Bool.and_eq_true, decide_eq_true_eq] at delegation
    rw [delegation.1.1, delegation.1.2, delegation.2]
    rfl
  unfold validateEnterpriseTopology at contract ⊢
  rw [nodes, relations]
  simp only [append_eq_nil_iff, validateBaseEntity_eq_nil, validateEnterpriseRelation_eq_nil,
    and_assoc] at contract ⊢
  obtain ⟨id, name, created, updated, rest⟩ := contract
  simp only [relinked, id, name, created, rest, sourceId, targetId, allowed,
    true_and, and_true, ne_eq, not_false_eq_true]

/-! ## The verdict -/

section Verdict

variable {options : TopologyValidatorOptions}
  (executable : (validateTopology platform topology options).executable = true)

/-- Two simple paths around the new edge are not too long together. -/
def ShortAround (topology : EnterpriseTopology) (options : TopologyValidatorOptions)
    (a b : String) : Prop :=
  ∀ before after, DelegationPath topology (before ++ [a]) → DelegationPath topology (b :: after) →
    options.maxDepth.lt (.ofNat (before.length + 1 + after.length)) = false

include delegation source target added dropped executable

lemma acyclic_relinked_iff :
    (∀ a, ¬TransGen (DelegationStep (topology.relinked children relation time)) a a) ↔
      ¬ReflTransGen (DelegationStep topology) relation.target.id relation.source.id := by
  rw [delegationStep_relinked delegation source target added dropped]
  exact Digraph.acyclic_withEdge (acyclic_of_executable executable)

lemma short_relinked_iff (acyclic : ∀ a, ¬TransGen
      (DelegationStep (topology.relinked children relation time)) a a) :
    (∀ path, DelegationPath (topology.relinked children relation time) path →
        options.maxDepth.lt (.ofNat (path.length - 1)) = false) ↔
      ShortAround topology options relation.source.id relation.target.id := by
  have step : DelegationStep (topology.relinked children relation time) = _ :=
    delegationStep_relinked delegation source target added dropped
  have length before after : (before ++ relation.source.id ::
      relation.target.id :: after).length - 1 = before.length + 1 + after.length := by
    simp only [length_append, length_cons]
    omega
  constructor
  · intro short before after first second
    have more {path : List String} (chain : path.IsChain (DelegationStep topology)) :
        path.IsChain (DelegationStep (topology.relinked children relation time)) := by
      rw [step]
      exact chain.imp fun _ _ => .inl
    have chain : (before ++ relation.source.id :: relation.target.id :: after).IsChain
        (DelegationStep (topology.relinked children relation time)) := by
      refine isChain_append_cons_cons.mpr ⟨more first.chain, ?_, more second.chain⟩
      rw [step]
      exact .inr ⟨rfl, rfl⟩
    rw [← length]
    refine short _ ⟨fun a member => ?_, chain, Digraph.nodup_of_chain acyclic chain⟩
    rw [nodeIds_relinked]
    have regroup : before ++ relation.source.id :: relation.target.id :: after =
        (before ++ [relation.source.id]) ++ relation.target.id :: after := by simp
    rw [regroup] at member
    exact (mem_append.mp member).elim (first.declared a) (second.declared a)
  · intro around path simple
    have chain := simple.chain
    rw [step] at chain
    have declared a member : a ∈ topology.nodeIds :=
      nodeIds_relinked ▸ simple.declared a member
    rcases Digraph.chain_withEdge simple.nodup chain with old | ⟨before, after, rfl, first, second⟩
    · exact short_of_executable executable ⟨declared, old, simple.nodup⟩
    · rw [length]
      have regroup : before ++ relation.source.id :: relation.target.id :: after =
          (before ++ [relation.source.id]) ++ relation.target.id :: after := by simp
      have nodup := simple.nodup
      rw [regroup] at declared nodup
      obtain ⟨firstNodup, secondNodup, -⟩ := nodup_append.mp nodup
      exact around before after
        ⟨fun a member => declared a (mem_append_left _ member), first, firstNodup⟩
        ⟨fun a member => declared a (mem_append_right _ member), second, secondNodup⟩

lemma issues_relinked (fresh : relation.id ∉ topology.entityIds)
    (acyclic : ∀ a, ¬TransGen
      (DelegationStep (topology.relinked children relation time)) a a)
    (short : ∀ path, DelegationPath (topology.relinked children relation time) path →
      options.maxDepth.lt (.ofNat (path.length - 1)) = false) :
    topologyIssues platform (topology.relinked children relation time) options =
      topologyIssues platform topology options := by
  have distinct := entityIds_nodup executable
  have distinct' : (topology.relinked children relation time).entityIds.Nodup := by
    rw [entityIds_relinked]
    refine nodup_append.mpr ⟨distinct, nodup_singleton _, ?_⟩
    rintro id old _ new rfl
    exact fresh (mem_singleton.mp new ▸ old)
  have listed node (member : node ∈ topology.nodes) child
      (inside : child ∈ children node) : child ∈ topology.nodeIds := by
    rcases added node member child inside with old | ⟨-, rfl⟩
    · exact child_declared executable member old
    · exact target
  have graph' : validateDelegationGraph platform (topology.relinked children relation time)
      (indexedEntities (topology.relinked children relation time)) options.maxDepth = [] := by
    refine delegationGraph_eq_nil acyclic short fun a b delegates => ?_
    rw [nodeIds_relinked]
    rcases (delegates_relinked delegation added dropped).mp delegates with old | ⟨-, rfl⟩
    · exact (delegates_declared executable old).2
    · exact target
  have graph : validateDelegationGraph platform topology (indexedEntities topology)
      options.maxDepth = [] :=
    delegationGraph_eq_nil (acyclic_of_executable executable)
      (fun path => short_of_executable executable)
      fun a b delegates => (delegates_declared executable delegates).2
  have policies : validateNodePolicies
      (indexedEntities (topology.relinked children relation time)) =
      validateNodePolicies (indexedEntities topology) := by
    unfold validateNodePolicies
    rw [typedReferences_other (by decide)]
  have rules : validateEnterpriseRules platform (topology.relinked children relation time)
      (indexedEntities (topology.relinked children relation time)) options =
      validateEnterpriseRules platform topology (indexedEntities topology) options := by
    have delegates : relation.relationType = .delegatesTo := by
      unfold EnterpriseRelation.isDelegation at delegation
      simp only [Bool.and_eq_true, decide_eq_true_eq] at delegation
      exact delegation.1.1
    rw [enterpriseRules_relinked delegates]
    unfold validateEnterpriseRules validateNodeFailureAndRecoveryPolicies
    rw [policies]
  have projection : isExecutorTopologyV2PersistenceProjection
      (topology.relinked children relation time) =
      isExecutorTopologyV2PersistenceProjection topology := rfl
  unfold topologyIssues
  dsimp only
  rw [duplicates_eq_nil distinct, duplicates_eq_nil distinct', index_eq, index_eq, graph, graph',
    references_relinked executable listed delegation source target, rules, projection]

lemma executable_relinked_iff :
    ((validateTopology platform (topology.relinked children relation time) options).executable =
        true ∧ ∀ issue, issue ∈ (validateTopology platform
          (topology.relinked children relation time) options).issues ↔
        issue ∈ (validateTopology platform topology options).issues) ↔
      (time.valid = true ∧ jsTrim relation.id ≠ "" ∧ jsTrim relation.name ≠ "" ∧
        relation.createdAt.valid = true ∧ relation.updatedAt.valid = true) ∧
      relation.id ∉ topology.entityIds ∧
      ¬ReflTransGen (DelegationStep topology) relation.target.id relation.source.id ∧
      ShortAround topology options relation.source.id relation.target.id := by
  have contract := contract_of_executable executable
  have checked : validateEnterpriseTopology (topology.relinked children relation time) = [] ↔ _ :=
    contract_relinked contract delegation source target
  have closed : (∀ a, ¬TransGen
      (DelegationStep (topology.relinked children relation time)) a a) ↔ _ :=
    acyclic_relinked_iff delegation source target added dropped executable
  constructor
  · rintro ⟨executable', -⟩
    have acyclic := acyclic_of_executable executable'
    refine ⟨checked.mp (contract_of_executable executable'), fun known => ?_,
      closed.mp acyclic,
      (short_relinked_iff delegation source target added dropped executable acyclic).mp
        fun path => short_of_executable executable'⟩
    have distinct := entityIds_nodup executable'
    rw [entityIds_relinked] at distinct
    exact (nodup_append.mp distinct).2.2 _ known _ (mem_singleton_self _) rfl
  · rintro ⟨wellFormed, fresh, noWayBack, around⟩
    have acyclic := closed.mpr noWayBack
    have short := (short_relinked_iff delegation source target added dropped executable
      acyclic).mpr around
    have same := issues_relinked delegation source target added dropped executable fresh acyclic
      short
    have result : validateTopology platform (topology.relinked children relation time) options =
        validateTopology platform topology options := by
      rw [validateTopology_of_contract contract,
        validateTopology_of_contract (checked.mpr wellFormed), same]
    rw [result]
    exact ⟨executable, fun issue => Iff.rfl⟩

end Verdict

end Knowbee.Topology
