import Knowbee.Topology.CompilerSound
import Knowbee.Topology.Gui

/-!
# Deleted relations in the snapshot

The editor deletes a relation by archiving it.  The compiler reads the relations
of whatever status, so what is compiled is what would be compiled without the
archived relations exactly under `DeletionEffective`: no archived relation gives a
node a tool or a system, and the archived delegations change no first mention of
a child and do not hide the children lists.
-/

namespace Knowbee.Topology

open List ToolScopeBuilder

/-- The same topology with every archived relation removed. -/
def EnterpriseTopology.withoutArchived (topology : EnterpriseTopology) : EnterpriseTopology :=
  { topology with relations := topology.relations.filter (·.status ≠ .archived) }

/-- Both topologies are refused, or both compile to the same edges and scopes. -/
def SameDelegation (first second : Except (List TopologyValidatorIssue) CompiledTopologySnapshot) :
    Prop :=
  match first, second with
  | .ok first, .ok second =>
    first.parentChildTree.edges = second.parentChildTree.edges ∧
      first.delegationScopeMap = second.delegationScopeMap ∧
      first.toolScopeIndex = second.toolScopeIndex
  | .error _, .error _ => True
  | _, _ => False

def mentionedChildren (relations : List EnterpriseRelation) (nodeId : String) : List String :=
  setAdd [] ((relations.filter fun relation =>
    relation.isDelegation && relation.source.id = nodeId).map (·.target.id))

/-- A relation that the compiler takes as a tool or a system of its node. -/
def EnterpriseRelation.givesResource (relation : EnterpriseRelation) : Bool :=
  relation.grants .usesTool .enterpriseTool || relation.grants .usesSystem .enterpriseSystem ||
    relation.grants .hasAccessTo .enterpriseTool ||
    relation.grants .hasAccessTo .enterpriseSystem

/-- When archived relations have no effect on what is compiled. -/
structure DeletionEffective (platform : Platform) (options : TopologyValidatorOptions)
    (topology : EnterpriseTopology) : Prop where
  /-- The validator does not depend on the archived relations. -/
  verdict : (validateTopology platform topology options).executable =
    (validateTopology platform topology.withoutArchived options).executable
  resources : (validateTopology platform topology options).executable = true →
    ∀ relation ∈ topology.relations, relation.status = .archived →
      relation.source.entityType = .node → relation.givesResource = false
  /-- If all delegations are archived, they mention what the children lists do. -/
  hidden : (validateTopology platform topology options).executable = true →
    (∃ relation ∈ topology.relations, relation.isDelegation = true) →
    (∀ relation ∈ topology.relations, relation.isDelegation = true → relation.status = .archived) →
    ∀ node ∈ topology.nodes,
      mentionedChildren topology.relations node.id = setAdd [] node.children
  /-- If not, each node's children are mentioned first in the same order without them. -/
  doubled : (validateTopology platform topology options).executable = true →
    (∃ relation ∈ topology.relations, relation.isDelegation = true ∧ relation.status ≠ .archived) →
    ∀ node ∈ topology.nodes, mentionedChildren topology.relations node.id =
      mentionedChildren topology.withoutArchived.relations node.id

variable {topology : EnterpriseTopology}

/-! ## Edges -/

lemma edges_foldl (pairs : List (String × String)) (graph : DelegationGraph) (a : String) :
    valuesOf (pairs.foldl addDelegationEdge graph).edges a =
      setAdd (valuesOf graph.edges a) ((pairs.filter (·.1 = a)).map Prod.snd) := by
  induction pairs generalizing graph with
  | nil => rfl
  | cons pair rest ih =>
    rw [foldl_cons, ih, addDelegationEdge, valuesOf_insert]
    by_cases own : a = pair.1
    · subst own
      rw [if_pos rfl, filter_cons_of_pos (by simp), map_cons]
      rfl
    · rw [if_neg own, filter_cons_of_neg (by simp [Ne.symm own])]

lemma edges_eq (a : String) : valuesOf (delegationTree topology).edges a =
    setAdd [] (((delegationPairs topology).filter (·.1 = a)).map Prod.snd) := by
  refine (edges_foldl _ _ a).trans ?_
  rw [valuesOf_fresh]

lemma delegations_nil_iff (relations : List EnterpriseRelation) :
    (relations.filter (·.isDelegation)).length = 0 ↔
      ¬∃ relation ∈ relations, relation.isDelegation = true := by
  rw [length_eq_zero_iff, filter_eq_nil_iff]
  push Not
  rfl

lemma edges_of_relations (some : ∃ relation ∈ topology.relations, relation.isDelegation = true)
    (a : String) :
    valuesOf (delegationTree topology).edges a = mentionedChildren topology.relations a := by
  rw [edges_eq, delegationPairs, if_neg fun none => (delegations_nil_iff _).mp none some,
    nil_append, relationPairs, filter_map, map_map, filter_filter]
  refine congrArg (setAdd []) (congrArg (List.map _) (filter_congr fun relation _ => ?_))
  exact Bool.and_comm _ _

lemma edges_of_children (none : ¬∃ relation ∈ topology.relations, relation.isDelegation = true)
    (distinct : topology.nodeIds.Nodup) {node : NodeContract} (member : node ∈ topology.nodes) :
    valuesOf (delegationTree topology).edges node.id = setAdd [] node.children := by
  have empty := (delegations_nil_iff _).mpr none
  rw [edges_eq, delegationPairs, if_pos empty, relationPairs, length_eq_zero_iff.mp empty,
    map_nil, append_nil]
  refine congrArg (setAdd []) ?_
  unfold childPairs EnterpriseTopology.nodeIds at *
  generalize topology.nodes = nodes at member distinct
  induction nodes with
  | nil => cases member
  | cons head rest ih =>
    obtain ⟨fresh, distinct⟩ := nodup_cons.mp distinct
    rw [flatMap_cons, filter_append, map_append]
    rcases mem_cons.mp member with rfl | later
    · have own : ((node.children.map fun child => (node.id, child)).filter
          (·.1 = node.id)).map Prod.snd = node.children := by
        rw [filter_eq_self.mpr fun pair inside => ?_, map_map]
        · exact List.map_id _
        · obtain ⟨child, -, rfl⟩ := mem_map.mp inside
          exact decide_eq_true rfl
      have others : (rest.flatMap fun node => node.children.map fun child =>
          (node.id, child)).filter (·.1 = node.id) = [] := by
        refine filter_eq_nil_iff.mpr fun pair inside same => ?_
        obtain ⟨other, listed, inside⟩ := mem_flatMap.mp inside
        obtain ⟨child, -, rfl⟩ := mem_map.mp inside
        have equal : other.id = node.id := of_decide_eq_true same
        exact fresh (mem_map.mpr ⟨other, listed, equal⟩)
      rw [own, others, map_nil, append_nil]
    · have not : ((head.children.map fun child => (head.id, child)).filter
          (·.1 = node.id)) = [] := by
        refine filter_eq_nil_iff.mpr fun pair inside same => ?_
        obtain ⟨child, -, rfl⟩ := mem_map.mp inside
        have equal : head.id = node.id := of_decide_eq_true same
        exact fresh (mem_map.mpr ⟨node, later, equal.symm⟩)
      rw [not, map_nil, nil_append]
      exact ih later distinct

/-! ## Tools and systems -/

def ToolScopeBuilder.relationIds (builder : ToolScopeBuilder) : List String :=
  builder.toolRelationIds ++ builder.systemRelationIds

variable {builder : ToolScopeBuilder} {relation : EnterpriseRelation} {id : String}

lemma add_of_other (other : relation.givesResource = false) :
    builder.add topology relation = builder := by
  unfold EnterpriseRelation.givesResource at other
  simp only [Bool.or_eq_false_iff] at other
  obtain ⟨⟨⟨tool, system⟩, toolAccess⟩, systemAccess⟩ := other
  unfold add
  rw [tool, system, toolAccess, systemAccess]
  rfl

lemma mem_relationIds_add : id ∈ (builder.add topology relation).relationIds ↔
      id ∈ builder.relationIds ∨ (relation.givesResource = true ∧ id = relation.id) := by
  by_cases other : relation.givesResource = false
  · simp [add_of_other other, other]
  · unfold EnterpriseRelation.givesResource add relationIds at *
    simp only [Bool.not_eq_false] at other
    simp only [other, true_and, mem_append]
    split_ifs with tool system toolAccess systemAccess
    · simp only [mem_setAdd, mem_singleton]
      tauto
    · simp only [mem_setAdd, mem_singleton]
      tauto
    · simp only [mem_setAdd, mem_singleton]
      tauto
    · simp only [mem_setAdd, mem_singleton]
      tauto
    · simp [tool, system, toolAccess, systemAccess] at other

variable {nodeId : String}

/-- If each relation adds to a list of the builder what it gives, the tool scope of a node
lists what the relations of the node give. -/
lemma mem_toolScopeBuilder (field : ToolScopeBuilder → List String)
    {given : EnterpriseRelation → String → Prop}
    (adds : ∀ builder relation id, id ∈ field (builder.add topology relation) ↔ id ∈ field builder
      ∨ given relation id)
    (empty : field {} = []) :
    id ∈ field (toolScopeBuilder topology nodeId) ↔
      ∃ relation ∈ topology.relations, relation.source = ⟨.node, nodeId⟩ ∧ given relation id := by
  have folded (relations : List EnterpriseRelation) builder :
      id ∈ field (relations.foldl (add topology) builder) ↔
        id ∈ field builder ∨ ∃ relation ∈ relations, given relation id := by
    induction relations generalizing builder with
    | nil => simp
    | cons head rest ih =>
      rw [foldl_cons, ih, adds, or_assoc]
      simp
  unfold toolScopeBuilder
  rw [folded, empty]
  simp only [not_mem_nil, false_or, mem_filter, Bool.and_eq_true, decide_eq_true_eq, and_assoc]
  refine exists_congr fun relation => and_congr_right fun _ => ?_
  constructor
  · rintro ⟨kind, own, rest⟩
    exact ⟨EntityRef.eq_mk kind own, rest⟩
  · rintro ⟨same, rest⟩
    rw [same]
    exact ⟨rfl, rfl, rest⟩

lemma mem_relationIds : id ∈ (toolScopeBuilder topology nodeId).relationIds ↔
      ∃ relation ∈ topology.relations, relation.source = ⟨.node, nodeId⟩ ∧
        relation.givesResource = true ∧ id = relation.id :=
  mem_toolScopeBuilder _ (fun _ _ _ => mem_relationIds_add) rfl

lemma foldl_filter_of_other {relations : List EnterpriseRelation}
    {keep : EnterpriseRelation → Bool}
    (other : ∀ relation ∈ relations, keep relation = false → relation.givesResource = false) :
    (relations.filter keep).foldl (add topology) builder =
      relations.foldl (add topology) builder := by
  induction relations generalizing builder with
  | nil => rfl
  | cons head rest ih =>
    have later := fun relation member => other relation (mem_cons_of_mem _ member)
    cases kept : keep head with
    | true => rw [filter_cons_of_pos kept, foldl_cons, foldl_cons, ih later]
    | false =>
      rw [filter_cons_of_neg (by simp [kept]), foldl_cons, ih later,
        add_of_other (other head mem_cons_self kept)]

lemma toolScopeBuilder_withoutArchived
    (none : ∀ relation ∈ topology.relations, relation.status = .archived → relation.source =
      ⟨.node, nodeId⟩ → relation.givesResource = false) :
    toolScopeBuilder topology.withoutArchived nodeId = toolScopeBuilder topology nodeId := by
  unfold toolScopeBuilder EnterpriseTopology.withoutArchived
  rw [filter_filter]
  simp only [Bool.and_comm (decide (_ = EntityType.node) && _)]
  rw [← filter_filter]
  refine foldl_filter_of_other fun relation member archived => ?_
  obtain ⟨inside, starts⟩ := mem_filter.mp member
  rw [Bool.and_eq_true, decide_eq_true_eq, decide_eq_true_eq] at starts
  exact none relation inside (by simpa using archived) (EntityRef.eq_mk starts.1 starts.2)

/-! ## Distinct ids -/

lemma collectionIds_nodup (distinct : topology.entityIds.Nodup)
    {collection : String × EntityType × List String}
    (member : collection ∈ topologyEntityCollections topology) : collection.2.2.Nodup :=
  (nodup_flatMap.mp (nodup_cons.mp distinct).2).1 collection member

lemma nodeIds_nodup (distinct : topology.entityIds.Nodup) : topology.nodeIds.Nodup :=
  have member : ("nodes", EntityType.node, topology.nodeIds) ∈
      topologyEntityCollections topology := mem_cons_self
  collectionIds_nodup distinct member

lemma relationIds_nodup (distinct : topology.entityIds.Nodup) :
    (topology.relations.map (·.id)).Nodup :=
  have member : ("relations", EntityType.relation, topology.relations.map (·.id)) ∈
      topologyEntityCollections topology := by simp [topologyEntityCollections]
  collectionIds_nodup distinct member

/-! ## The theorem -/

section Accepted

variable {platform : CompilerPlatform} {options : CompileTopologyOptions}

lemma edges_eq_iff
    (executable : (validateTopology platform.toPlatform topology options.validationOptions).executable
      = true)
    (executable' : (validateTopology platform.toPlatform topology.withoutArchived
      options.validationOptions).executable = true) :
    (delegationTree topology).edges = (delegationTree topology.withoutArchived).edges ↔
      ∀ node ∈ topology.nodes, valuesOf (delegationTree topology).edges node.id =
        valuesOf (delegationTree topology.withoutArchived).edges node.id := by
  constructor
  · intro same node _
    rw [same]
  · intro same
    refine SortedMap.ext_get? fun id => ?_
    have keys := (tree_keys executable id).1
    have keys' := (tree_keys executable' id).1
    by_cases member : id ∈ topology.nodeIds
    · obtain ⟨values, bound⟩ := Option.isSome_iff_exists.mp (keys.mpr member)
      obtain ⟨values', bound'⟩ := Option.isSome_iff_exists.mp (keys'.mpr member)
      obtain ⟨node, inside, rfl⟩ := mem_map.mp member
      have equal := same node inside
      unfold valuesOf at equal
      rw [bound, bound', Option.getD_some, Option.getD_some] at equal
      rw [bound, bound', equal]
    · rw [Option.not_isSome_iff_eq_none.mp fun some => member (keys.mp some),
        Option.not_isSome_iff_eq_none.mp fun some => member (keys'.mp some)]

lemma scopes_of_edges
    (same : (delegationTree topology).edges = (delegationTree topology.withoutArchived).edges) :
    buildDelegationScopeMap topology (delegationTree topology) =
      buildDelegationScopeMap topology.withoutArchived
        (delegationTree topology.withoutArchived) := by
  unfold buildDelegationScopeMap buildDelegationScope
  rw [same]
  rfl

section

variable (executable : (validateTopology platform.toPlatform topology
  options.validationOptions).executable = true)
include executable

lemma edges_condition :
    (∀ node ∈ topology.nodes, valuesOf (delegationTree topology).edges node.id =
        valuesOf (delegationTree topology.withoutArchived).edges node.id) ↔
      ((∃ relation ∈ topology.relations, relation.isDelegation = true) →
        (∀ relation ∈ topology.relations, relation.isDelegation = true →
          relation.status = .archived) →
        ∀ node ∈ topology.nodes,
          mentionedChildren topology.relations node.id = setAdd [] node.children) ∧
      ((∃ relation ∈ topology.relations, relation.isDelegation = true ∧
          relation.status ≠ .archived) →
        ∀ node ∈ topology.nodes, mentionedChildren topology.relations node.id =
          mentionedChildren topology.withoutArchived.relations node.id) := by
  have distinct := nodeIds_nodup (entityIds_nodup executable)
  have kept : (∃ relation ∈ topology.withoutArchived.relations, relation.isDelegation = true) ↔
      ∃ relation ∈ topology.relations, relation.isDelegation = true ∧
        relation.status ≠ .archived := by
    refine exists_congr fun relation => ?_
    rw [EnterpriseTopology.withoutArchived, mem_filter, decide_eq_true_eq, and_assoc]
    exact and_congr_right fun _ => and_comm
  by_cases live : ∃ relation ∈ topology.relations, relation.isDelegation = true ∧
      relation.status ≠ .archived
  · have some : ∃ relation ∈ topology.relations, relation.isDelegation = true := by
      obtain ⟨relation, member, delegation, -⟩ := live
      exact ⟨relation, member, delegation⟩
    have notAll : ¬∀ relation ∈ topology.relations, relation.isDelegation = true →
        relation.status = .archived := by
      obtain ⟨relation, member, delegation, notArchived⟩ := live
      exact fun all => notArchived (all relation member delegation)
    simp only [live, notAll, false_implies, implies_true, true_and, forall_const]
    refine forall₂_congr fun node _ => ?_
    rw [edges_of_relations some, edges_of_relations (kept.mpr live)]
  · have noneLeft := fun left => live (kept.mp left)
    by_cases some : ∃ relation ∈ topology.relations, relation.isDelegation = true
    · have all : ∀ relation ∈ topology.relations, relation.isDelegation = true →
          relation.status = .archived := by
        intro relation member delegation
        by_contra notArchived
        exact live ⟨relation, member, delegation, notArchived⟩
      simp only [live, false_implies, and_true]
      constructor
      · intro same _ _ node member
        rw [← edges_of_relations some, same node member]
        exact edges_of_children noneLeft distinct member
      · intro same node member
        rw [edges_of_relations some, same some all node member]
        exact (edges_of_children noneLeft distinct member).symm
    · refine iff_of_true (fun node member => ?_) ⟨fun given => (some given).elim,
        fun given => (live given).elim⟩
      rw [edges_of_children some distinct member]
      exact (edges_of_children noneLeft distinct member).symm

lemma toolScopes_eq_iff :
    buildToolScopeIndex topology = buildToolScopeIndex topology.withoutArchived ↔
      ∀ relation ∈ topology.relations, relation.status = .archived →
        relation.source.entityType = .node → relation.givesResource = false := by
  have distinct := entityIds_nodup executable
  constructor
  · intro same relation member archived ofNode
    by_contra gives
    obtain ⟨exists_, -⟩ := endpoints_exist executable member
    rw [ofNode, entityExists_node] at exists_
    obtain ⟨node, inside, own⟩ := mem_map.mp exists_
    -- the scope of the node names the relation, and no other relation has its id
    have ids := nodeIds_nodup distinct
    have scopes : buildToolScope topology node = buildToolScope topology.withoutArchived node := by
      have first : (buildToolScopeIndex topology).get? node.id =
          some (buildToolScope topology node) := by
        refine get?_fromEntries ?_ (mem_map_of_mem inside)
        rw [map_map]
        exact ids
      have second : (buildToolScopeIndex topology.withoutArchived).get? node.id =
          some (buildToolScope topology.withoutArchived node) := by
        refine get?_fromEntries ?_ (mem_map_of_mem inside)
        rw [map_map]
        exact ids
      rw [same, second] at first
      exact (Option.some.inj first).symm
    have relationIds : (toolScopeBuilder topology node.id).relationIds =
        (toolScopeBuilder topology.withoutArchived node.id).relationIds := by
      have tools := congrArg CompiledToolScope.toolRelationIds scopes
      have systems := congrArg CompiledToolScope.systemRelationIds scopes
      exact congrArg₂ (· ++ ·) tools systems
    have source : relation.source = ⟨.node, node.id⟩ := EntityRef.eq_mk ofNode own.symm
    have named : relation.id ∈ (toolScopeBuilder topology node.id).relationIds :=
      mem_relationIds.mpr ⟨relation, member, source, Bool.not_eq_false _ ▸ gives, rfl⟩
    rw [relationIds] at named
    obtain ⟨other, left, -, -, sameId⟩ := mem_relationIds.mp named
    obtain ⟨listed, notArchived⟩ := mem_filter.mp left
    have equal := inj_on_of_nodup_map (relationIds_nodup distinct) listed member sameId.symm
    rw [equal, archived] at notArchived
    exact absurd notArchived (by decide)
  · intro none
    unfold buildToolScopeIndex
    refine congrArg fromEntries (map_congr_left fun node _ => ?_)
    unfold buildToolScope
    rw [toolScopeBuilder_withoutArchived fun relation member archived source =>
      none relation member archived (by rw [source])]
    rfl

end

end Accepted

/-- Any topology compiles as it does without its archived relations exactly under
the condition. -/
lemma sameDelegation_iff (platform : CompilerPlatform) (options : CompileTopologyOptions)
    (topology : EnterpriseTopology) :
    SameDelegation (compileTopology platform topology options)
        (compileTopology platform topology.withoutArchived options) ↔
      DeletionEffective platform.toPlatform options.validationOptions topology := by
  by_cases executable : (validateTopology platform.toPlatform topology
      options.validationOptions).executable = true
  · rw [compileTopology_of_executable executable]
    by_cases executable' : (validateTopology platform.toPlatform topology.withoutArchived
        options.validationOptions).executable = true
    · rw [compileTopology_of_executable executable']
      constructor
      · rintro ⟨edges, -, tools⟩
        obtain ⟨hidden, doubled⟩ := (edges_condition executable).mp
          ((edges_eq_iff executable executable').mp edges)
        exact ⟨executable.trans executable'.symm, fun _ => (toolScopes_eq_iff executable).mp tools,
          fun _ => hidden, fun _ => doubled⟩
      · intro effective
        have edges := (edges_eq_iff executable executable').mpr ((edges_condition executable).mpr
          ⟨effective.hidden executable, effective.doubled executable⟩)
        exact ⟨edges, scopes_of_edges edges,
          (toolScopes_eq_iff executable).mpr (effective.resources executable)⟩
    · rw [compileTopology_of_refused executable']
      refine iff_of_false id fun effective => executable' ?_
      exact effective.verdict ▸ executable
  · rw [compileTopology_of_refused executable]
    have vacuous {P : Prop} (given : (validateTopology platform.toPlatform topology
        options.validationOptions).executable = true) : P := (executable given).elim
    by_cases executable' : (validateTopology platform.toPlatform topology.withoutArchived
        options.validationOptions).executable = true
    · rw [compileTopology_of_executable executable']
      refine iff_of_false id fun effective => executable ?_
      exact effective.verdict.trans executable'
    · rw [compileTopology_of_refused executable']
      refine iff_of_true trivial ⟨?_, vacuous, vacuous, vacuous⟩
      rw [Bool.not_eq_true] at executable executable'
      exact executable.trans executable'.symm

lemma archived_of_deleted {relationId : String} {operation : GuiOperation}
    {next : EnterpriseTopology} (found : findRelation topology relationId = some relation)
    (action : operation.action = .deleteRelation relationId)
    (applied : applyOperation topology operation = .ok next) :
    archiveRelation operation.time relation ∈ next.relations := by
  unfold applyOperation at applied
  rw [action] at applied
  split_ifs at applied
  simp only [applyDeleteRelation, found] at applied
  cases applied
  change archiveRelation operation.time relation ∈ modifyFirst _ _ _
  rw [removeRelationSideEffects_relations]
  unfold findRelation at found
  generalize topology.relations = relations at found
  induction relations with
  | nil => cases found
  | cons head rest ih =>
    rw [find?_cons] at found
    rw [modifyFirst]
    split at found
    · rename_i own
      cases found
      rw [if_pos own]
      exact mem_cons_self
    · rename_i other
      rw [if_neg (by simpa using other)]
      exact mem_cons_of_mem _ (ih found)

/-- After any history of the editor and the deletion of a relation, the relation is
archived, and the topology compiles as without its archived relations exactly if
the archived relations have no effect. -/
theorem deletion_effective_iff (platform : CompilerPlatform)
    (profile : NodeContract → MetadataValue) (base : EnterpriseTopology)
    (options : CompileTopologyOptions) (draft next : GuiDraft) (relation : EnterpriseRelation)
    (operation : GuiOperation) (history : GuiHistory platform.toPlatform profile base draft)
    (found : findRelation draft.topology relation.id = some relation)
    (action : operation.action = .deleteRelation relation.id)
    (applied : applyEnterpriseTopologyGuiCommands platform.toPlatform draft
      [.operation operation] = .ok next) :
    archiveRelation operation.time relation ∈ next.topology.relations ∧
      (SameDelegation (compileTopology platform next.topology options)
          (compileTopology platform next.topology.withoutArchived options) ↔
        DeletionEffective platform.toPlatform options.validationOptions next.topology) :=
  ⟨archived_of_deleted found action (history.operation applied), sameDelegation_iff _ _ _⟩

/-! ## A delegation that was deleted -/

def plainProfile : NodeContract → MetadataValue := fun _ => .null

/-- Two nodes without children. -/
def draftTopology : EnterpriseTopology :=
  plainTopology [plainNode "lead" [] [], plainNode "scout" [] []] [] []

/-- The same nodes, with a delegation between them. -/
def delegatedTopology : EnterpriseTopology :=
  { draftTopology with
    relations := [plainRelation "first" .active .delegatesTo ⟨.node, "lead"⟩ ⟨.node, "scout"⟩] }

variable (base : EnterpriseTopology)

def openedDraft : GuiDraft :=
  createEnterpriseTopologyGuiDraft plainPlatform plainProfile base

def leadToScout : CreateRelation :=
  ⟨"link", .delegatesTo, ⟨.node, "lead"⟩, ⟨.node, "scout"⟩, none, none⟩

def linkOperation : GuiOperation where
  operationId := "create"
  time := .number 1
  action := .createRelation leadToScout

def unlinkOperation : GuiOperation where
  operationId := "delete"
  time := .number 2
  action := .deleteRelation "link"

def draftAfter (draft : GuiDraft) (operation : GuiOperation) : GuiDraft :=
  (applyEnterpriseTopologyGuiCommands plainPlatform draft [.operation operation]).toOption.getD draft

def linkedDraft : GuiDraft := draftAfter (openedDraft base) linkOperation

def unlinkedDraft : GuiDraft := draftAfter (linkedDraft base) unlinkOperation

variable {base}

lemma linkedDraft_history (applied : applyEnterpriseTopologyGuiCommands plainPlatform
      (openedDraft base) [.operation linkOperation] = .ok (linkedDraft base)) :
    GuiHistory plainPlatform plainProfile base (linkedDraft base) :=
  .commands .opened applied

/-- Beside the first delegation, the deleted one has no effect. -/
theorem deletion_effective_link :
    archiveRelation (.number 2) (createRelation leadToScout (.number 1)) ∈
        (unlinkedDraft delegatedTopology).topology.relations ∧
      SameDelegation (compileTopology plainCompiler (unlinkedDraft delegatedTopology).topology)
        (compileTopology plainCompiler
          (unlinkedDraft delegatedTopology).topology.withoutArchived) := by
  obtain ⟨archived, same⟩ := deletion_effective_iff plainCompiler plainProfile delegatedTopology {}
    (linkedDraft delegatedTopology) (unlinkedDraft delegatedTopology)
    (createRelation leadToScout (.number 1)) unlinkOperation (linkedDraft_history rfl) rfl rfl rfl
  refine ⟨archived, same.mpr ⟨?_, ?_, ?_, ?_⟩⟩
  all_goals decide +kernel

lemma unlinkedDraft_executable :
    (validateTopology plainPlatform (unlinkedDraft draftTopology).topology).executable = true := by
  decide

/-- The deleted delegation stays an edge of the snapshot. -/
theorem deleted_link_compiled :
    GuiHistory plainPlatform plainProfile draftTopology (linkedDraft draftTopology) ∧
      applyEnterpriseTopologyGuiCommands plainPlatform (linkedDraft draftTopology)
        [.operation unlinkOperation] = .ok (unlinkedDraft draftTopology) ∧
      ¬SameDelegation (compileTopology plainCompiler (unlinkedDraft draftTopology).topology)
        (compileTopology plainCompiler
          (unlinkedDraft draftTopology).topology.withoutArchived) := by
  refine ⟨linkedDraft_history rfl, rfl, fun same => ?_⟩
  have effective := (sameDelegation_iff plainCompiler {} (unlinkedDraft draftTopology).topology).mp same
  have hidden := effective.hidden unlinkedDraft_executable
    ⟨_, mem_singleton_self _, rfl⟩
  have archived : ∀ relation ∈ (unlinkedDraft draftTopology).topology.relations,
      relation.isDelegation = true → relation.status = .archived := by
    decide
  have mentioned : ¬∀ node ∈ (unlinkedDraft draftTopology).topology.nodes,
      mentionedChildren (unlinkedDraft draftTopology).topology.relations node.id =
        setAdd [] node.children := by
    decide
  exact mentioned (hidden archived)

end Knowbee.Topology
