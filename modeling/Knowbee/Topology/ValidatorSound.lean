import Knowbee.Topology.EnterpriseRules

/-!
# What the verdict of the validator says

The delegation graph of the validator is the one of the children lists and the
delegation relations (`edge_iff`).  Of all issues only the two searches raise the
two that are about it, so those are raised exactly if the graph has a cycle, and
exactly if it has a simple path that is too long (`validator_exact`).
-/

namespace Knowbee.Topology

open List IssueCode Digraph TopologyValidatorIssue

/-! ## The graph -/

def EnterpriseTopology.nodeIds (topology : EnterpriseTopology) : List String :=
  topology.nodes.map (·.id)

/-- One node delegates to another, by its children list or by a relation. -/
inductive Delegates (topology : EnterpriseTopology) (a b : String) : Prop where
  | child {node : NodeContract} (member : node ∈ topology.nodes) (own : node.id = a)
    (listed : b ∈ node.children)
  | relation {relation : EnterpriseRelation} (member : relation ∈ topology.relations)
    (delegation : relation.isDelegation = true) (source : relation.source.id = a)
    (target : relation.target.id = b)

/-- The directed graph over the declared nodes. -/
def DelegationStep (topology : EnterpriseTopology) (a b : String) : Prop :=
  a ∈ topology.nodeIds ∧ b ∈ topology.nodeIds ∧ Delegates topology a b

/-- A path of the graph on which no node is met twice. -/
structure DelegationPath (topology : EnterpriseTopology) (path : List String) : Prop where
  declared : ∀ a ∈ path, a ∈ topology.nodeIds
  chain : path.IsChain (DelegationStep topology)
  nodup : path.Nodup

variable {α : Type} {a : String} {code : IssueCode} {issue : TopologyValidatorIssue}
  {collection : List α}

lemma mem_overCollection {β : Type} {key : String} {each : α → String → List β} {value : β} :
    value ∈ overCollection collection key each ↔
      ∃ (item : α) (index : Nat), collection[index]? = some item ∧
        value ∈ each item s!"$.{key}[{index}]" := by
  unfold overCollection
  rw [mem_flatMap]
  constructor
  · rintro ⟨⟨item, index⟩, member, inside⟩
    exact ⟨item, index, mem_zipIdx_iff_getElem?.mp member, inside⟩
  · rintro ⟨item, index, found, inside⟩
    exact ⟨(item, index), mem_zipIdx_iff_getElem?.mpr found, inside⟩

lemma overCollection_item {β : Type} (key : String) {each : α → String → List β} {P : β → Prop}
    (all : ∀ value ∈ overCollection collection key each, P value) {item : α}
    (member : item ∈ collection) : ∃ path, ∀ value ∈ each item path, P value := by
  obtain ⟨index, found⟩ := getElem?_of_mem member
  exact ⟨s!"$.{key}[{index}]", fun value inside =>
    all value (mem_overCollection.mpr ⟨item, index, found, inside⟩)⟩

variable {platform : Platform} {topology : EnterpriseTopology}

lemma exists_edge_iff {b : String} :
    (∃ edge ∈ buildDelegationAdjacency topology, edge.source = a ∧ edge.target = b) ↔
      Delegates topology a b := by
  unfold buildDelegationAdjacency
  simp only [mem_append, mem_overCollection]
  constructor
  · rintro ⟨edge, ⟨node, index, found, inside⟩ | ⟨relation, index, found, inside⟩, rfl, rfl⟩
    · obtain ⟨⟨childId, childIndex⟩, member, rfl⟩ := mem_map.mp inside
      exact .child (mem_of_getElem? found) rfl
        (mem_of_getElem? (mem_zipIdx_iff_getElem?.mp member))
    · split_ifs at inside with delegation
      · rw [mem_singleton.mp inside]
        exact .relation (mem_of_getElem? found) delegation rfl rfl
      · cases inside
  · intro delegates
    cases delegates with
    | child member own listed =>
      obtain ⟨index, found⟩ := getElem?_of_mem member
      obtain ⟨childIndex, place⟩ := getElem?_of_mem listed
      have inside : (b, childIndex) ∈ zipIdx _ := mem_zipIdx_iff_getElem?.mpr place
      exact ⟨_, .inl ⟨_, index, found, mem_map.mpr ⟨_, inside, rfl⟩⟩, own, rfl⟩
    | @relation relation member delegation source target =>
      obtain ⟨index, found⟩ := getElem?_of_mem member
      refine ⟨⟨relation.source.id, relation.target.id, s!"$.relations[{index}]",
        some relation.id⟩, .inr ⟨relation, index, found, ?_⟩, source, target⟩
      rw [if_pos delegation]
      exact mem_singleton_self _

lemma mem_declared : a ∈ (delegationGraph topology).declared ↔ a ∈ topology.nodeIds := by
  unfold delegationGraph EnterpriseTopology.nodeIds
  rw [mem_setAdd]
  simp

lemma edge_iff {b : String} :
    (delegationGraph topology).Edge a b ↔ DelegationStep topology a b := by
  unfold Digraph.Graph.Edge DelegationStep
  rw [mem_declared, mem_declared, ← exists_edge_iff]
  refine and_congr_right fun _ => and_congr_right fun _ => ?_
  constructor
  · rintro ⟨edge, member, target⟩
    obtain ⟨inside, source⟩ := mem_filter.mp member
    exact ⟨edge, inside, of_decide_eq_true source, target⟩
  · rintro ⟨edge, inside, source, target⟩
    exact ⟨edge, mem_filter.mpr ⟨inside, decide_eq_true source⟩, target⟩

lemma edge_eq : (delegationGraph topology).Edge = DelegationStep topology :=
  funext fun _ => funext fun _ => propext edge_iff

lemma simplePath_iff {path : List String} :
    (delegationGraph topology).SimplePath path ↔ DelegationPath topology path := by
  constructor
  · rintro ⟨declared, chain, nodup⟩
    exact ⟨fun a member => mem_declared.mp (declared a member), edge_eq ▸ chain, nodup⟩
  · rintro ⟨declared, chain, nodup⟩
    exact ⟨fun a member => mem_declared.mpr (declared a member), edge_eq ▸ chain, nodup⟩

/-! ## The two searches -/

/-- Each key that is reported has its issue. -/
def Recorded (code : IssueCode) (state : Reported) : Prop :=
  state.1.length = state.2.length ∧ ∀ issue ∈ state.2, issue.code = code

lemma Recorded.init (code : IssueCode) : Recorded code ([], []) :=
  ⟨rfl, fun _ member => absurd member not_mem_nil⟩

lemma Recorded.add {state : Reported} (recorded : Recorded code state) (key : String)
    (same : issue.code = code) : Recorded code (state.1 ++ [key], state.2 ++ [issue]) := by
  refine ⟨?_, fun other member => ?_⟩
  · rw [length_append, length_append, recorded.1]
    rfl
  · rcases mem_append.mp member with old | new
    · exact recorded.2 other old
    · rw [mem_singleton.mp new]
      exact same

lemma Recorded.exists {state : Reported} (recorded : Recorded code state) (keys : state.1 ≠ []) :
    ∃ issue ∈ state.2, issue.code = code := by
  have some : state.2 ≠ [] := by
    intro none
    have empty := recorded.1
    rw [none] at empty
    exact keys (length_eq_zero_iff.mp empty)
  obtain ⟨issue, member⟩ := exists_mem_of_ne_nil _ some
  exact ⟨issue, member, recorded.2 issue member⟩

lemma recorded_reportCycle (path : List String) (edge : DelegationEdge) (state : Reported)
    (recorded : Recorded .delegationCycle state) :
    Recorded .delegationCycle (reportCycle path edge state) := by
  unfold reportCycle
  dsimp only
  split_ifs
  · exact recorded
  · exact recorded.add _ rfl

lemma recorded_reportDepth (maxDelegationDepth : JsNumber) (path : List String)
    (edge : DelegationEdge) (state : Reported)
    (recorded : Recorded .maxDelegationDepthExceeded state) :
    Recorded .maxDelegationDepthExceeded
      (reportDepth platform maxDelegationDepth path edge state) := by
  unfold reportDepth
  dsimp only
  split_ifs
  · exact recorded
  · exact recorded.add _ rfl
  · exact recorded

lemma recorded_cycles :
    Recorded .delegationCycle ((delegationGraph topology).visitAll reportCycle ([], [])) :=
  visitAll_keeps recorded_reportCycle (.init _)

lemma recorded_depths (maxDelegationDepth : JsNumber) :
    Recorded .maxDelegationDepthExceeded ((delegationGraph topology).exploreAll
      (reportDepth platform maxDelegationDepth) ([], [])) :=
  exploreAll_keeps (recorded_reportDepth maxDelegationDepth) (.init _)

lemma detectDelegationCycles_eq_nil
    (acyclic : ∀ a, ¬Relation.TransGen (DelegationStep topology) a a) :
    detectDelegationCycles topology = [] := by
  have none : ¬(delegationGraph topology).Cyclic := by
    rintro ⟨a, cycle⟩
    exact acyclic a (edge_eq ▸ cycle)
  unfold detectDelegationCycles
  rw [visitAll_of_acyclic none]

lemma exists_cycle_iff :
    (∃ issue ∈ detectDelegationCycles topology, issue.code = .delegationCycle) ↔
      ∃ a, Relation.TransGen (DelegationStep topology) a a := by
  constructor
  · rintro ⟨issue, member, -⟩
    by_contra acyclic
    rw [detectDelegationCycles_eq_nil (not_exists.mp acyclic)] at member
    cases member
  · rintro ⟨a, cycle⟩
    refine recorded_cycles.exists (visitAll_found (P := fun state : Reported => state.1 ≠ [])
      (fun path edge state => ?_) ⟨a, edge_eq ▸ cycle⟩ _)
    unfold reportCycle
    dsimp only
    split_ifs with known
    · exact ne_nil_of_mem known
    · simp

lemma detectDelegationDepthOverflow_eq_nil {maxDelegationDepth : JsNumber}
    (short : ∀ path, DelegationPath topology path →
      maxDelegationDepth.lt (.ofNat (path.length - 1)) = false) :
    detectDelegationDepthOverflow platform topology maxDelegationDepth = [] := by
  unfold detectDelegationDepthOverflow
  rw [exploreAll_unchanged fun path edge simple _ => ?_]
  unfold reportDepth
  simp only [short path (simplePath_iff.mp simple), Bool.false_eq_true, if_false]

lemma exists_depth_iff {maxDelegationDepth : JsNumber} (least : maxDelegationDepth.lt 0 = false) :
    (∃ issue ∈ detectDelegationDepthOverflow platform topology maxDelegationDepth,
      issue.code = .maxDelegationDepthExceeded) ↔
      ∃ path, DelegationPath topology path ∧
        maxDelegationDepth.lt (.ofNat (path.length - 1)) = true := by
  constructor
  · rintro ⟨issue, member, -⟩
    by_contra short
    rw [detectDelegationDepthOverflow_eq_nil] at member
    · cases member
    · intro path simple
      exact Bool.eq_false_iff.mpr fun long => short ⟨path, simple, long⟩
  · rintro ⟨path, simple, long⟩
    have edges : 2 ≤ path.length := by
      by_contra few
      have none : path.length - 1 = 0 := by omega
      rw [none] at long
      exact absurd (least.symm.trans long) Bool.false_ne_true
    refine (recorded_depths maxDelegationDepth).exists
      (exploreAll_found (P := fun state : Reported => state.1 ≠ [])
        (fun path edge state some => ?_) (simplePath_iff.mpr simple) edges
        (fun edge state => ?_) _)
    · unfold reportDepth
      dsimp only
      split_ifs
      · exact some
      · simp
      · exact some
    · unfold reportDepth
      simp only [long, if_true]
      split_ifs with known
      · exact ne_nil_of_mem known
      · simp

/-! ## The other passes -/

/-- The two codes that only the searches raise. -/
def IssueCode.ofDelegation : IssueCode → Bool
  | .delegationCycle | .maxDelegationDepthExceeded => true
  | _ => false

/-- No issue is about the shape of the delegation graph. -/
def Plain (issues : List TopologyValidatorIssue) : Prop :=
  ∀ issue ∈ issues, issue.code.ofDelegation = false

@[simp] lemma plain_nil : Plain [] := fun _ member => absurd member not_mem_nil

@[simp] lemma plain_cons {issues : List TopologyValidatorIssue} :
    Plain (issue :: issues) ↔ issue.code.ofDelegation = false ∧ Plain issues :=
  forall_mem_cons

@[simp] lemma plain_append {first second : List TopologyValidatorIssue} :
    Plain (first ++ second) ↔ Plain first ∧ Plain second :=
  forall_mem_append

lemma Plain.flatMap {items : List α} {each : α → List TopologyValidatorIssue}
    (plain : ∀ item ∈ items, Plain (each item)) : Plain (items.flatMap each) := by
  intro issue member
  obtain ⟨item, inside, found⟩ := mem_flatMap.mp member
  exact plain item inside issue found

lemma Plain.overCollection {key : String} {each : α → String → List TopologyValidatorIssue}
    (plain : ∀ item path, Plain (each item path)) : Plain (overCollection collection key each) :=
  .flatMap fun _ _ => plain _ _

section References

variable {indexes : List IndexedTopologyEntity}

@[simp] lemma plain_typedReference (refType : EntityType) (refId path : String)
    (owner : ReferenceOwner) : Plain (validateTypedReference indexes refType refId path owner) := by
  unfold validateTypedReference
  split_ifs <;> simp [ofDelegation]

@[simp] lemma plain_optionalTypedReference (refType : EntityType) (refId : Option String)
    (path : String) (owner : ReferenceOwner) :
    Plain (validateOptionalTypedReference indexes refType refId path owner) := by
  cases refId <;> simp [validateOptionalTypedReference]

@[simp] lemma plain_typedReferences (refType : EntityType) (refIds : List String)
    (path : String) (owner : ReferenceOwner) :
    Plain (validateTypedReferences indexes refType refIds path owner) :=
  .flatMap fun _ _ => plain_typedReference _ _ _ _

@[simp] lemma plain_entityReference (reference : EntityRef) (path : String)
    (owner : ReferenceOwner) : Plain (validateEntityReference indexes reference path owner) :=
  plain_typedReference _ _ _ _

@[simp] lemma plain_optionalEntityReference (reference : Option EntityRef) (path : String)
    (owner : ReferenceOwner) :
    Plain (validateOptionalEntityReference indexes reference path owner) := by
  cases reference <;> simp [validateOptionalEntityReference]

@[simp] lemma plain_entityReferences (references : List EntityRef) (path : String)
    (owner : ReferenceOwner) : Plain (validateEntityReferences indexes references path owner) :=
  .flatMap fun _ _ => plain_entityReference _ _ _

lemma plain_references : Plain (validateTopologyReferences topology indexes) := by
  unfold validateTopologyReferences
  simp only [plain_append]
  refine ⟨⟨⟨⟨⟨⟨⟨⟨⟨⟨?_, ?_⟩, ?_⟩, ?_⟩, ?_⟩, ?_⟩, ?_⟩, ?_⟩, ?_⟩, ?_⟩, ?_⟩ <;>
    refine .overCollection fun item path => ?_
  · simp [validateNodeReferences]
  · unfold validateTeamReferences
    split_ifs <;> simp [ofDelegation]
  · simp [validateOrgUnitReferences]
  · simp [validatePositionReferences]
  · simp [validatePersonReferences]
  · simp [validateMembershipReferences]
  · simp [validateAuthorityRuleReferences]
  · simp [validateResponsibilityReferences]
  · simp [validateToolReferences]
  · unfold validateProcessReferences
    split_ifs <;> simp [ofDelegation]
  · unfold validateRelationReferences
    split_ifs <;> simp [ofDelegation]

end References

lemma plain_duplicates : Plain (buildTopologyEntityIndexes topology).2 := by
  unfold buildTopologyEntityIndexes
  refine foldl_keeps (P := fun state : List IndexedTopologyEntity × _ => Plain state.2)
    ?_ plain_nil
  intro entity _ state plain
  unfold addIndexedEntity
  dsimp only
  split <;> simp [plain, ofDelegation]

lemma plain_hierarchy {rule : HierarchyRule} {entries : List HierarchyEntry}
    (code : rule.code.ofDelegation = false) (fuel : Nat) (entry : HierarchyEntry)
    (path : List String) (state : Reported) (plain : Plain state.2) :
    Plain (visitHierarchy rule entries fuel entry path state).2 := by
  induction fuel generalizing entry path state with
  | zero => exact plain
  | succ fuel ih =>
    unfold visitHierarchy
    split
    · exact plain
    · split
      · exact plain
      · dsimp only
        split_ifs
        · exact plain
        · exact plain_append.mpr ⟨plain, plain_cons.mpr ⟨code, plain_nil⟩⟩
        · exact ih _ _ _ plain

lemma plain_orgUnitHierarchy : Plain (validateOrgUnitHierarchy topology) :=
  foldl_keeps (P := fun state : Reported => Plain state.2)
    (fun _ _ state plain => plain_hierarchy rfl _ _ _ state plain) plain_nil

lemma plain_positionReporting : Plain (validatePositionReporting topology) := by
  refine foldl_keeps (P := fun state : Reported => Plain state.2) ?_ plain_nil
  rintro ⟨position, index⟩ _ state plain
  have visited entries fuel entry
      path : Plain (visitHierarchy positionRule entries fuel entry path state).2 :=
    plain_hierarchy rfl fuel entry path state plain
  dsimp only
  split
  · exact visited _ _ _ _
  · split_ifs
    · exact visited _ _ _ _
    · exact plain_append.mpr ⟨visited _ _ _ _, plain_cons.mpr ⟨rfl, plain_nil⟩⟩

lemma plain_memberships (options : TopologyValidatorOptions) :
    Plain (validateMembershipRules platform topology options) := by
  unfold validateMembershipRules
  refine plain_append.mpr ⟨.overCollection fun membership path => plain_append.mpr ⟨?_, ?_⟩,
    .flatMap fun personId _ => ?_⟩
  · split
    · split_ifs <;> simp [ofDelegation]
    · exact plain_nil
  · split
    · exact plain_nil
    · split_ifs <;> simp [ofDelegation]
  · dsimp only
    split_ifs <;> simp [ofDelegation]

lemma plain_authorityRules : Plain (validateAuthorityRules platform topology) := by
  refine foldl_keeps (P := fun state : List (String × AuthorityRule) × _ => Plain state.2)
    ?_ plain_nil
  rintro ⟨rule, index⟩ _ state plain
  unfold considerAuthorityRule
  dsimp only
  split
  · exact plain_append.mpr ⟨plain, plain_cons.mpr ⟨rfl, plain_nil⟩⟩
  · split
    · split_ifs
      · exact plain_append.mpr ⟨plain, plain_cons.mpr ⟨rfl, plain_nil⟩⟩
      · exact plain
    · refine plain_append.mpr ⟨plain_append.mpr ⟨plain, ?_⟩, ?_⟩
      · unfold validateApprovalLimit
        split_ifs
        · exact plain_nil
        · split
          · exact plain_nil
          · dsimp only
            split
            · exact plain_cons.mpr ⟨rfl, plain_nil⟩
            · split_ifs <;> simp [ofDelegation]
      · unfold validateAuthorityDelegation
        split
        · exact plain_nil
        · dsimp only
          split_ifs <;> simp [ofDelegation]

lemma plain_approvalCoverage : Plain (validateApprovalCoverage platform topology) := by
  unfold validateApprovalCoverage
  refine plain_append.mpr ⟨.overCollection fun node path => ?_,
    .overCollection fun relation path => ?_⟩
  · split_ifs <;> simp [ofDelegation]
  · split_ifs
    · exact plain_nil
    · exact plain_nil
    · split
      · exact plain_nil
      · split_ifs <;> simp [ofDelegation]

@[simp] lemma plain_toolPermission (node : NodeContract) (toolId path relationId : String) :
    Plain (validateNodeToolPermission node toolId path relationId) := by
  unfold validateNodeToolPermission
  split_ifs <;> simp [ofDelegation]

@[simp] lemma plain_systemPermission (node : NodeContract) (systemId path relationId : String) :
    Plain (validateNodeSystemPermission node systemId path relationId) := by
  unfold validateNodeSystemPermission
  split_ifs <;> simp [ofDelegation]

lemma plain_permissions : Plain (validatePermissionRules topology) := by
  unfold validatePermissionRules
  refine plain_append.mpr ⟨.overCollection fun relation path => ?_,
    .overCollection fun node path => plain_append.mpr ⟨.flatMap ?_, .flatMap ?_⟩⟩
  · unfold validateRelationPermission
    split
    · exact plain_nil
    · split
      · exact plain_nil
      · split_ifs
        · refine plain_append.mpr ⟨plain_toolPermission _ _ _ _, ?_⟩
          split <;> simp
        all_goals simp
  all_goals
    rintro ⟨id, index⟩ _
    dsimp only
    split_ifs <;> simp [ofDelegation]

lemma plain_dataDomains : Plain (validateDataDomainAccessRules topology) := by
  refine .overCollection fun relation path => ?_
  unfold validateRelationDataDomains
  split_ifs
  · exact plain_nil
  · split
    · dsimp only
      split_ifs <;> simp [ofDelegation]
    · exact plain_nil

lemma plain_processEndpoint (processId nodeId : String) (relation : EnterpriseRelation)
    (path : String) :
    Plain (validateProcessStepRelationEndpoint topology processId nodeId relation path) := by
  unfold validateProcessStepRelationEndpoint
  split
  · exact plain_nil
  · split_ifs <;> simp [ofDelegation]

lemma plain_processes : Plain (validateProcessRules topology) := by
  refine plain_append.mpr ⟨.overCollection fun process path => ?_,
    .overCollection fun relation path => ?_⟩
  · unfold validateProcessRule
    refine plain_append.mpr ⟨plain_append.mpr ⟨?_, ?_⟩, .flatMap ?_⟩
    · split_ifs <;> simp [ofDelegation]
    · split
      · split_ifs <;> simp [ofDelegation]
      · split_ifs <;> simp [ofDelegation]
    · rintro ⟨nodeId, index⟩ _
      dsimp only
      split
      · exact plain_nil
      · split_ifs <;> simp [ofDelegation]
  · unfold validateProcessTransitionReference
    split_ifs <;> simp [plain_processEndpoint]

lemma plain_responsibilityScope (entityType : EntityType) (message id path : String) :
    Plain (validateResponsibilityScope topology entityType message id path) := by
  unfold validateResponsibilityScope
  split_ifs <;> simp [ofDelegation]

lemma plain_responsibilities : Plain (validateResponsibilityCoverage topology) := by
  refine plain_append.mpr ⟨plain_append.mpr ⟨.overCollection fun entry path => ?_,
    .overCollection fun node path => plain_responsibilityScope _ _ _ _⟩,
    .overCollection fun process path => plain_responsibilityScope _ _ _ _⟩
  split_ifs <;> simp [ofDelegation]

lemma plain_policies (indexes : List IndexedTopologyEntity) :
    Plain (validateNodeFailureAndRecoveryPolicies topology indexes) := by
  refine .overCollection fun node path => plain_append.mpr ⟨?_, ?_⟩
  · split <;> simp [ofDelegation]
  · split
    · simp [ofDelegation]
    · split_ifs <;> simp [ofDelegation]

lemma plain_enterpriseRules (indexes : List IndexedTopologyEntity)
    (options : TopologyValidatorOptions) :
    Plain (validateEnterpriseRules platform topology indexes options) := by
  unfold validateEnterpriseRules
  simp only [plain_append, plain_orgUnitHierarchy, plain_positionReporting, plain_memberships,
    plain_authorityRules, plain_approvalCoverage, plain_permissions, plain_dataDomains,
    plain_processes, plain_responsibilities, plain_policies, and_self]

/-! ## The verdict -/

lemma executable_iff {issues : List TopologyValidatorIssue} :
    (buildTopologyValidationResult issues).executable = true ↔
      ∀ issue ∈ issues, isBlockingSeverity issue.severity = false := by
  simp only [buildTopologyValidationResult, Bool.and_eq_true, decide_eq_true_eq,
    countP_eq_zero, ← forall_and, isBlockingSeverity, Bool.or_eq_false_iff,
    decide_eq_false_iff_not]

lemma validateTopology_of_contract {options : TopologyValidatorOptions}
    (contract : validateEnterpriseTopology topology = []) :
    validateTopology platform topology options =
      buildTopologyValidationResult (topologyIssues platform topology options) := by
  unfold validateTopology
  rw [contract]

lemma contract_of_executable {options : TopologyValidatorOptions}
    (executable : (validateTopology platform topology options).executable = true) :
    validateEnterpriseTopology topology = [] := by
  unfold validateTopology at executable
  cases contract : validateEnterpriseTopology topology with
  | nil => rfl
  | cons issue rest =>
    rw [contract] at executable
    have invalid := executable_iff.mp executable (convertContractIssue issue)
      (mem_map_of_mem mem_cons_self)
    exact absurd (invalid.symm.trans rfl) Bool.false_ne_true

lemma executable_issues {options : TopologyValidatorOptions}
    (executable : (validateTopology platform topology options).executable = true) :
    ∀ issue ∈ topologyIssues platform topology options,
      isBlockingSeverity issue.severity = false := by
  rw [validateTopology_of_contract (contract_of_executable executable)] at executable
  exact executable_iff.mp executable

lemma mem_topologyIssues {options : TopologyValidatorOptions} :
    issue ∈ topologyIssues platform topology options ↔
      issue ∈ (buildTopologyEntityIndexes topology).2 ∨
      issue ∈ validateTopologyReferences topology (buildTopologyEntityIndexes topology).1 ∨
      issue ∈ validateDelegationGraph platform topology (buildTopologyEntityIndexes topology).1
        options.maxDepth ∨
      issue ∈ (if isExecutorTopologyV2PersistenceProjection topology then []
        else validateEnterpriseRules platform topology (buildTopologyEntityIndexes topology).1
          options) := by
  unfold topologyIssues
  simp

lemma exists_code_iff {options : TopologyValidatorOptions}
    (ofDelegation : code.ofDelegation = true) :
    (∃ issue ∈ topologyIssues platform topology options, issue.code = code) ↔
      (∃ issue ∈ detectDelegationCycles topology, issue.code = code) ∨
      ∃ issue ∈ detectDelegationDepthOverflow platform topology options.maxDepth,
        issue.code = code := by
  have other {issues : List TopologyValidatorIssue} (plain : Plain issues)
      {issue : TopologyValidatorIssue} (member : issue ∈ issues) (same : issue.code = code) :
      False := by
    have no := plain issue member
    rw [same, ofDelegation] at no
    cases no
  constructor
  · rintro ⟨issue, member, same⟩
    rcases mem_topologyIssues.mp member with duplicate | reference | graph | rule
    · exact (other plain_duplicates duplicate same).elim
    · exact (other plain_references reference same).elim
    · unfold validateDelegationGraph at graph
      rcases mem_append.mp graph with search | dangling
      · rcases mem_append.mp search with cycle | depth
        · exact .inl ⟨issue, cycle, same⟩
        · exact .inr ⟨issue, depth, same⟩
      · refine (other (.flatMap fun source _ => ?_) dangling same).elim
        split_ifs
        · exact .flatMap fun edge _ => plain_typedReference _ _ _ _
        · exact plain_nil
    · split_ifs at rule
      · cases rule
      · exact (other (plain_enterpriseRules _ _) rule same).elim
  · rintro (⟨issue, member, same⟩ | ⟨issue, member, same⟩) <;>
      refine ⟨issue, mem_topologyIssues.mpr (.inr (.inr (.inl ?_))), same⟩ <;>
      refine mem_append_left _ ?_
    · exact mem_append_left _ member
    · exact mem_append_right _ member

/-! ## Executable topologies -/

lemma duplicates_spec (entities : List IndexedTopologyEntity)
    (state : List IndexedTopologyEntity × List TopologyValidatorIssue) :
    (entities.foldl addIndexedEntity state).1 = state.1 ++ entities ∧
      ((state.1.map (·.id)).Nodup → (entities.foldl addIndexedEntity state).2 = [] →
        ((state.1 ++ entities).map (·.id)).Nodup) ∧
      ((entities.foldl addIndexedEntity state).2 = [] → state.2 = []) := by
  induction entities generalizing state with
  | nil => exact ⟨(append_nil _).symm, fun distinct _ => by simpa using distinct, id⟩
  | cons entity rest ih =>
    obtain ⟨index, distinct, before⟩ := ih (addIndexedEntity state entity)
    have grown : (addIndexedEntity state entity).1 = state.1 ++ [entity] := rfl
    rw [foldl_cons]
    refine ⟨?_, fun start none => ?_, fun none => ?_⟩
    · rw [index, grown, append_assoc, singleton_append]
    · have empty := before none
      rw [grown, append_assoc, singleton_append] at distinct
      refine distinct ?_ none
      rw [map_append, map_singleton]
      refine nodup_append.mpr ⟨start, nodup_singleton _, ?_⟩
      rintro id old _ new rfl
      obtain ⟨earlier, member, rfl⟩ := mem_map.mp old
      unfold addIndexedEntity at empty
      dsimp only at empty
      obtain ⟨-, issues⟩ := append_eq_nil_iff.mp empty
      split at issues
      · rename_i fresh
        exact absurd (mem_singleton.mp new)
          (by simpa using find?_eq_none.mp fresh earlier member)
      · cases issues
    · exact (append_eq_nil_iff.mp (before none)).1

lemma index_eq : (buildTopologyEntityIndexes topology).1 = indexedEntities topology := by
  unfold buildTopologyEntityIndexes
  exact (duplicates_spec _ _).1

def EnterpriseTopology.entityIds (topology : EnterpriseTopology) : List String :=
  topology.id :: (topologyEntityCollections topology).flatMap fun (_, _, ids) => ids

lemma map_indexedEntities : (indexedEntities topology).map (·.id) = topology.entityIds := by
  unfold indexedEntities EnterpriseTopology.entityIds
  rw [map_cons, map_flatMap]
  refine congrArg (topology.id :: ·) (congrArg (List.flatMap · _) (funext fun ⟨key, type, ids⟩ => ?_))
  rw [map_map]
  exact zipIdx_map_fst 0 ids

lemma entityExists_node {id : String} :
    entityExists (indexedEntities topology) .node id = true ↔ id ∈ topology.nodeIds := by
  unfold entityExists
  rw [any_eq_true]
  constructor
  · rintro ⟨entity, member, same⟩
    rw [Bool.and_eq_true, decide_eq_true_eq, decide_eq_true_eq] at same
    obtain ⟨isNode, rfl⟩ := same
    unfold indexedEntities at member
    rcases mem_cons.mp member with rfl | member
    · cases isNode
    · obtain ⟨⟨key, entityType, ids⟩, collection, inside⟩ := mem_flatMap.mp member
      obtain ⟨⟨id, index⟩, place, rfl⟩ := mem_map.mp inside
      have listed := mem_of_getElem? (mem_zipIdx_iff_getElem?.mp place)
      dsimp only at isNode listed ⊢
      subst isNode
      -- only the first collection has nodes
      rcases mem_cons.mp collection with same | other
      · cases same
        exact listed
      · simp [reduceCtorEq] at other
  · intro member
    obtain ⟨index, found⟩ := getElem?_of_mem member
    have place : (id, index) ∈ zipIdx _ := mem_zipIdx_iff_getElem?.mpr found
    exact ⟨_, mem_cons_of_mem _ (mem_flatMap.mpr ⟨_, mem_cons_self,
      mem_map.mpr ⟨_, place, rfl⟩⟩), by simp⟩

lemma typedReference_exists {indexes : List IndexedTopologyEntity} {refType : EntityType}
    {refId path : String} {owner : ReferenceOwner}
    (fine : ∀ issue ∈ validateTypedReference indexes refType refId path owner,
      isBlockingSeverity issue.severity = false) : entityExists indexes refType refId = true := by
  by_contra missing
  unfold validateTypedReference at fine
  rw [if_neg missing] at fine
  exact absurd ((fine _ (mem_singleton_self _)).symm.trans rfl) Bool.false_ne_true

lemma typedReferences_exist {indexes : List IndexedTopologyEntity} {refType : EntityType}
    {refIds : List String} {path : String} {owner : ReferenceOwner}
    (fine : ∀ issue ∈ validateTypedReferences indexes refType refIds path owner,
      isBlockingSeverity issue.severity = false) {refId : String} (member : refId ∈ refIds) :
    entityExists indexes refType refId = true := by
  obtain ⟨index, found⟩ := getElem?_of_mem member
  have place : (refId, index) ∈ refIds.zipIdx := mem_zipIdx_iff_getElem?.mpr found
  exact typedReference_exists fun issue reference =>
    fine issue (mem_flatMap.mpr ⟨(refId, index), place, reference⟩)

section Executable

variable {options : TopologyValidatorOptions}
  (executable : (validateTopology platform topology options).executable = true)

include executable

lemma entityIds_nodup : topology.entityIds.Nodup := by
  have fine := executable_issues executable
  have none : (buildTopologyEntityIndexes topology).2 = [] := by
    by_contra some
    obtain ⟨issue, member⟩ := exists_mem_of_ne_nil _ some
    have notBlocking := fine issue (mem_topologyIssues.mpr (.inl member))
    have blocking : ∀ issue ∈ (buildTopologyEntityIndexes topology).2,
        issue.severity = .invalid := by
      refine foldl_keeps (P := fun state : List IndexedTopologyEntity × List _ =>
        ∀ issue ∈ state.2, severity issue = .invalid) ?_
        (fun _ member => absurd member not_mem_nil)
      intro entity _ state invalid issue member
      unfold addIndexedEntity at member
      dsimp only at member
      rcases mem_append.mp member with old | new
      · exact invalid issue old
      · split at new
        · cases new
        · rw [mem_singleton.mp new]
    rw [blocking issue member] at notBlocking
    exact absurd (notBlocking.symm.trans rfl) Bool.false_ne_true
  have distinct := (duplicates_spec (indexedEntities topology) ([], [])).2.1 nodup_nil none
  rw [nil_append, map_indexedEntities] at distinct
  exact distinct

lemma references_exist {issue : TopologyValidatorIssue}
    (member : issue ∈ validateTopologyReferences topology (indexedEntities topology)) :
    isBlockingSeverity issue.severity = false := by
  rw [← index_eq] at member
  exact executable_issues executable issue (mem_topologyIssues.mpr (.inr (.inl member)))

lemma nodeReferences_exist {node : NodeContract} (member : node ∈ topology.nodes) :
    ∃ path, ∀ issue ∈ validateNodeReferences (indexedEntities topology) node path,
      isBlockingSeverity issue.severity = false := by
  refine overCollection_item "nodes" (fun issue inside => references_exist executable ?_) member
  unfold validateTopologyReferences
  iterate 10 refine mem_append_left _ ?_
  exact inside

variable {relation : EnterpriseRelation}

lemma relationReferences_exist (member : relation ∈ topology.relations) :
    ∃ path, ∀ issue ∈ validateRelationReferences (indexedEntities topology) relation path,
      isBlockingSeverity issue.severity = false := by
  refine overCollection_item "relations" (fun issue inside =>
    references_exist executable ?_) member
  unfold validateTopologyReferences
  exact mem_append_right _ inside

lemma child_declared {node : NodeContract} (member : node ∈ topology.nodes) {child : String}
    (listed : child ∈ node.children) : child ∈ topology.nodeIds := by
  obtain ⟨path, fine⟩ := nodeReferences_exist executable member
  have children : ∀ issue ∈ validateTypedReferences (indexedEntities topology) .node node.children
      s!"{path}.children" { entityId := node.id, entityType := .node },
      isBlockingSeverity issue.severity = false := fun issue inside =>
    fine issue (mem_append_left _ (mem_append_left _ (mem_append_right _ inside)))
  exact entityExists_node.mp (typedReferences_exist children listed)

lemma endpoints_exist (member : relation ∈ topology.relations) :
    entityExists (indexedEntities topology) relation.source.entityType relation.source.id = true ∧
      entityExists (indexedEntities topology) relation.target.entityType relation.target.id = true ∧
      endpointAllowed relation.relationType relation.source.entityType
        relation.target.entityType = true := by
  obtain ⟨path, fine⟩ := relationReferences_exist executable member
  have sourceFine : ∀ issue ∈ validateEntityReference (indexedEntities topology) relation.source
      s!"{path}.from" _, isBlockingSeverity issue.severity = false := fun issue inside =>
    fine issue (mem_append_left _ (mem_append_left _ inside))
  have targetFine : ∀ issue ∈ validateEntityReference (indexedEntities topology) relation.target
      s!"{path}.to" _, isBlockingSeverity issue.severity = false := fun issue inside =>
    fine issue (mem_append_left _ (mem_append_right _ inside))
  refine ⟨typedReference_exists sourceFine, typedReference_exists targetFine, ?_⟩
  · by_contra incompatible
    unfold validateRelationReferences at fine
    dsimp only at fine
    rw [if_neg incompatible] at fine
    have invalid := fine _ (mem_append_right _ (mem_singleton_self _))
    exact absurd (invalid.symm.trans rfl) Bool.false_ne_true

lemma isDelegation_of_executable (member : relation ∈ topology.relations)
    (delegates : relation.relationType = .delegatesTo) : relation.isDelegation = true := by
  have allowed := (endpoints_exist executable member).2.2
  rw [delegates] at allowed
  unfold EnterpriseRelation.isDelegation
  rw [decide_eq_true delegates, Bool.true_and]
  exact allowed

lemma delegates_declared {a b : String} (delegates : Delegates topology a b) :
    a ∈ topology.nodeIds ∧ b ∈ topology.nodeIds := by
  cases delegates with
  | child member own listed =>
    exact ⟨mem_map.mpr ⟨_, member, own⟩, child_declared executable member listed⟩
  | relation member delegation source target =>
    obtain ⟨first, second, -⟩ := endpoints_exist executable member
    unfold EnterpriseRelation.isDelegation at delegation
    simp only [Bool.and_eq_true, decide_eq_true_eq] at delegation
    rw [delegation.1.2, source] at first
    rw [delegation.2, target] at second
    exact ⟨entityExists_node.mp first, entityExists_node.mp second⟩

lemma acyclic_of_executable (a : String) : ¬Relation.TransGen (DelegationStep topology) a a := by
  intro cycle
  obtain ⟨issue, member, -⟩ := exists_cycle_iff.mpr ⟨a, cycle⟩
  have invalid : ∀ issue ∈ detectDelegationCycles topology, issue.severity = .invalid := by
    refine visitAll_keeps (P := fun state : Reported =>
      ∀ issue ∈ state.2, severity issue = .invalid) ?_
      (fun _ member => absurd member not_mem_nil)
    intro path edge state before issue member
    unfold reportCycle at member
    dsimp only at member
    split_ifs at member
    · exact before issue member
    · rcases mem_append.mp member with old | new
      · exact before issue old
      · rw [mem_singleton.mp new]
  have fine := executable_issues executable issue (mem_topologyIssues.mpr (.inr (.inr (.inl
    (mem_append_left _ (mem_append_left _ member))))))
  rw [invalid issue member] at fine
  exact absurd (fine.symm.trans rfl) Bool.false_ne_true

lemma short_of_executable {path : List String} (simple : DelegationPath topology path) :
    options.maxDepth.lt (.ofNat (path.length - 1)) = false := by
  by_contra long
  have least : options.maxDepth.lt 0 = false := JsNumber.not_max_lt _ _
  obtain ⟨issue, member, -⟩ : ∃ issue ∈ detectDelegationDepthOverflow platform topology
      options.maxDepth, issue.code = .maxDelegationDepthExceeded :=
    (exists_depth_iff least).mpr ⟨path, simple, Bool.not_eq_false _ ▸ long⟩
  have blocked : ∀ issue ∈ detectDelegationDepthOverflow platform topology options.maxDepth,
      issue.severity = .blocked := by
    refine exploreAll_keeps (P := fun state : Reported =>
      ∀ issue ∈ state.2, severity issue = .blocked) ?_
      (fun _ member => absurd member not_mem_nil)
    intro path edge state before issue member
    unfold reportDepth at member
    dsimp only at member
    split_ifs at member
    · exact before issue member
    · rcases mem_append.mp member with old | new
      · exact before issue old
      · rw [mem_singleton.mp new]
    · exact before issue member
  have fine := executable_issues executable issue (mem_topologyIssues.mpr (.inr (.inr (.inl
    (mem_append_left _ (mem_append_right _ member))))))
  rw [blocked issue member] at fine
  exact absurd (fine.symm.trans rfl) Bool.false_ne_true

end Executable

/-! ## The theorem -/

lemma maxDepth_least (options : TopologyValidatorOptions) : options.maxDepth.lt 0 = false :=
  JsNumber.not_max_lt _ _

/-- Of a topology that passes the contract check, the validator reports a cycle
exactly if the delegation graph has one, and a depth exactly if a simple path has
more edges than allowed.  The ids of an executable topology are distinct, and none
of its delegations dangles. -/
theorem validator_exact (platform : Platform) (topology : EnterpriseTopology)
    (options : TopologyValidatorOptions) :
    (validateEnterpriseTopology topology = [] →
      ((∃ issue ∈ (validateTopology platform topology options).issues,
          issue.code = .delegationCycle) ↔
        ∃ a, Relation.TransGen (DelegationStep topology) a a) ∧
      ((∃ issue ∈ (validateTopology platform topology options).issues,
          issue.code = .maxDelegationDepthExceeded) ↔
        ∃ path, DelegationPath topology path ∧
          options.maxDepth.lt (.ofNat (path.length - 1)) = true)) ∧
    ((validateTopology platform topology options).executable = true →
      topology.entityIds.Nodup ∧
      (∀ a b, Delegates topology a b → a ∈ topology.nodeIds ∧ b ∈ topology.nodeIds) ∧
      ∀ relation ∈ topology.relations, relation.relationType = .delegatesTo →
        relation.isDelegation = true) := by
  refine ⟨fun contract => ?_, fun executable => ⟨entityIds_nodup executable,
    fun a b => delegates_declared executable,
    fun relation member => isDelegation_of_executable executable member⟩⟩
  rw [validateTopology_of_contract contract]
  refine ⟨(exists_code_iff rfl).trans ?_, (exists_code_iff rfl).trans ?_⟩
  · rw [← exists_cycle_iff]
    refine or_iff_left ?_
    rintro ⟨issue, member, same⟩
    exact absurd (((recorded_depths options.maxDepth).2 issue member).symm.trans same)
      (by decide)
  · refine Iff.trans (or_iff_right ?_) (exists_depth_iff (maxDepth_least options))
    rintro ⟨issue, member, same⟩
    exact absurd ((recorded_cycles.2 issue member).symm.trans same) (by decide)

/-! ## Small topologies -/

/-- No dates, letters as they are, a sum that is its last number. -/
def plainPlatform : Platform where
  parseDate _ := none
  toLowerCase := id
  add _ b := b
  numberText _ := ""
  stableConditionKey _ := ""

def plainEntity (id : String) (status : EntityStatus) : BaseEntity :=
  ⟨id, id, status, .number 0, .number 0⟩

def plainNode (id : String) (children tools : List String) : NodeContract where
  toBaseEntity := plainEntity id .active
  nodeType := .function
  owner := none
  tags := []
  children := children
  template := none
  allowedToolIds := tools
  allowedSystemIds := []
  failurePolicy := some ⟨true, true, []⟩
  recoveryPolicy := some ⟨false, true, false, true⟩
  metadata := []

def plainRelation (id : String) (status : EntityStatus) (relationType : RelationType)
    (source target : EntityRef) : EnterpriseRelation where
  toBaseEntity := plainEntity id status
  relationType := relationType
  source := source
  target := target
  label := none
  scope := none
  condition := none
  metadata := []

def plainTopology (nodes : List NodeContract) (tools : List EnterpriseTool)
    (relations : List EnterpriseRelation) : EnterpriseTopology where
  toBaseEntity := plainEntity "company" .active
  nodes := nodes
  teams := []
  orgUnits := []
  positions := []
  persons := []
  memberships := []
  authorityRules := []
  responsibilities := []
  systems := []
  tools := tools
  processes := []
  relations := relations
  metadata := []

def pairTopology : EnterpriseTopology :=
  plainTopology [plainNode "lead" ["scout"] [], plainNode "scout" [] []] [] []

lemma pairTopology_contract : validateEnterpriseTopology pairTopology = [] := by
  decide

lemma pairTopology_executable :
    (validateTopology plainPlatform pairTopology).executable = true := by
  decide

theorem validator_exact_pair :
    ((∃ issue ∈ (validateTopology plainPlatform pairTopology).issues,
        issue.code = .delegationCycle) ↔
      ∃ a, Relation.TransGen (DelegationStep pairTopology) a a) ∧
    pairTopology.entityIds.Nodup :=
  have exact := validator_exact plainPlatform pairTopology {}
  ⟨(exact.1 pairTopology_contract).1, (exact.2 pairTopology_executable).1⟩

/-- A node without a name that delegates to itself. -/
def namelessTopology : EnterpriseTopology :=
  plainTopology [{ plainNode "lead" ["lead"] [] with name := "" }] [] []

/-- The contract check comes first: the cycle of a nameless node is not reported. -/
theorem nameless_cycle_unreported :
    ¬((∃ issue ∈ (validateTopology plainPlatform namelessTopology).issues,
        issue.code = .delegationCycle) ↔
      ∃ a, Relation.TransGen (DelegationStep namelessTopology) a a) := by
  intro reported
  have listed : "lead" ∈ namelessTopology.nodeIds := mem_singleton_self _
  have edge : Delegates namelessTopology "lead" "lead" :=
    .child (mem_singleton_self _) rfl (mem_singleton_self _)
  have issue := reported.mpr ⟨"lead", .single ⟨listed, listed, edge⟩⟩
  revert issue
  decide

end Knowbee.Topology
