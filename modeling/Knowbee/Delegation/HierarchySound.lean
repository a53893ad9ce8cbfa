import Knowbee.Delegation.Hierarchy
import Knowbee.Lib.Machine

/-!
# The hierarchy stays a forest

A relationship is created only between agents whose edges stay a forest with it, and
a relationship that is disabled only takes an edge away.
-/

namespace Knowbee.Delegation

open List RelationshipStore Relation

section Graph

variable {service : HierarchyService} {relationships : List AgentRelationship}

lemma mem_relationshipSort {relationship : AgentRelationship} :
    relationship ∈ service.relationshipSort relationships ↔ relationship ∈ relationships :=
  mem_insertionSort _

lemma mem_children {parent child : String} :
    child ∈ ((activeOnly relationships).filter (·.parentAgentId = parent)).map (·.childAgentId) ↔
      EdgeOf relationships parent child := by
  unfold EdgeOf activeOnly
  simp only [mem_map, mem_filter, decide_eq_true_eq]
  constructor
  · rintro ⟨relationship, ⟨⟨held, active⟩, parent⟩, child⟩
    exact ⟨relationship, held, active, parent, child⟩
  · rintro ⟨relationship, held, active, parent, child⟩
    exact ⟨relationship, ⟨⟨held, active⟩, parent⟩, child⟩

lemma mem_childrenByParent {parent child : String} :
    child ∈ childrenByParent service relationships parent ↔ EdgeOf relationships parent child := by
  rw [← mem_children, childrenByParent, mem_map, mem_map]
  simp only [mem_relationshipSort]

lemma mem_descendantAgentIds {agentId descendant : String} :
    descendant ∈ descendantAgentIds service agentId relationships ↔
      TransGen (EdgeOf relationships) agentId descendant := by
  have inside : ∀ parent child, child ∈ childrenByParent service relationships parent →
      child ∈ relationships.map (·.childAgentId) := by
    intro parent child edge
    obtain ⟨relationship, held, -, -, rfl⟩ := mem_childrenByParent.mp edge
    exact mem_map_of_mem held
  have edges : (fun parent child => child ∈ childrenByParent service relationships parent) =
      EdgeOf relationships := by
    funext parent child
    exact propext mem_childrenByParent
  rw [descendantAgentIds, Forest.mem_search inside le_rfl, edges]

lemma hasPath_iff {source target : String} :
    hasPath service source target relationships ↔
      TransGen (EdgeOf relationships) source target := by
  rw [hasPath, decide_eq_true_iff, mem_descendantAgentIds]

lemma parentByChild_eq (single : SingleParent relationships) {parent child : String}
    (edge : EdgeOf relationships parent child) :
    parentByChild relationships child = some parent := by
  obtain ⟨relationship, held, active, rfl, rfl⟩ := edge
  have found : relationship ∈ (activeOnly relationships).filter
      (·.childAgentId = relationship.childAgentId) := by
    simp [activeOnly, held, active]
  obtain ⟨last, isLast⟩ := Option.isSome_iff_exists.mp
    (getLast?_isSome.mpr (ne_nil_of_mem found))
  have mem := mem_of_getLast? isLast
  simp only [activeOnly, mem_filter, decide_eq_true_eq] at mem
  have same : last.parentAgentId = relationship.parentAgentId :=
    single _ _ _ ⟨last, mem.1.1, mem.1.2, rfl, mem.2⟩ ⟨relationship, held, active, rfl, rfl⟩
  rw [parentByChild, isLast, Option.map_some, same]

lemma above_le_depthOf {rootAgentId agentId top : String} {count depth : Nat}
    (single : SingleParent relationships)
    (root : ∀ parent, ¬EdgeOf relationships parent rootAgentId)
    (deep : depthOf agentId rootAgentId relationships = some depth)
    (above : Forest.Above (EdgeOf relationships) count agentId top) :
    count + (if top = rootAgentId then 0 else 1) ≤ depth := by
  unfold depthOf at deep
  split_ifs at deep with isRoot
  · cases count with
    | zero =>
      have same : top = agentId := above
      rw [same, if_pos isRoot]
      exact Nat.zero_le depth
    | succ count =>
      obtain ⟨parent, edge, -⟩ := above
      exact absurd (isRoot ▸ edge) (root parent)
  · have up : ∀ parent child, EdgeOf relationships parent child →
        parentByChild relationships child = some parent := fun _ _ => parentByChild_eq single
    have climbed := Forest.above_le_climb up root deep above isRoot
    split_ifs at climbed ⊢ <;> omega

end Graph

/-! ## What is accepted -/

section Accepted

variable {service : HierarchyService} {relationship : AgentRelationship}
  {active : List AgentRelationship}

/-- An active relationship that is accepted beside others. -/
structure Admissible (service : HierarchyService) (relationship : AgentRelationship)
    (active : List AgentRelationship) : Prop where
  fresh : ∀ candidate ∈ active, candidate.childAgentId ≠ relationship.childAgentId
  children : ¬service.maxChildCount.lt (.ofNat (nextChildCount relationship active))
  path : ¬TransGen (EdgeOf active) relationship.childAgentId relationship.parentAgentId
  depth : ∀ agentId,
    ReflTransGen (EdgeOf (service.relationshipSort (active ++ [relationship])))
      relationship.childAgentId agentId →
    ∃ depth ≤ service.maxDepth, depthOf agentId service.rootAgentId
      (service.relationshipSort (active ++ [relationship])) = some depth

lemma admissible_of_activeDiagnostics (none : activeDiagnostics service relationship active = []) :
    Admissible service relationship active := by
  unfold activeDiagnostics at none
  simp only [append_eq_nil_iff] at none
  obtain ⟨⟨⟨⟨duplicate, parents⟩, children⟩, path⟩, depth⟩ := none
  have noPair : active.find? (fun candidate =>
      candidate.parentAgentId = relationship.parentAgentId &&
        candidate.childAgentId = relationship.childAgentId) = Option.none := by
    cases found : active.find? (fun candidate =>
        candidate.parentAgentId = relationship.parentAgentId &&
          candidate.childAgentId = relationship.childAgentId) with
    | none => rfl
    | some candidate =>
      rw [found] at duplicate
      cases duplicate
  constructor
  · intro candidate held same
    cases found : active.find? (·.childAgentId = relationship.childAgentId) with
    | none => exact absurd (decide_eq_true same) (find?_eq_none.mp found candidate held)
    | some existing =>
      simp only [found] at parents
      split_ifs at parents with parent
      have own : existing.childAgentId = relationship.childAgentId := by
        simpa using find?_some found
      have clash := find?_eq_none.mp noPair existing (mem_of_find?_eq_some found)
      simp [not_not.mp parent, own] at clash
  · intro exceeded
    rw [if_pos exceeded] at children
    cases children
  · intro leads
    rw [if_pos (hasPath_iff.mpr leads)] at path
    cases path
  · intro agentId below
    have affected : agentId ∈ affectedAgentIds service relationship
        (service.relationshipSort (active ++ [relationship])) := by
      rcases reflTransGen_iff_eq_or_transGen.mp below with rfl | below
      · exact mem_cons_self
      · exact mem_cons_of_mem _ (mem_descendantAgentIds.mpr below)
    cases found : (affectedAgentIds service relationship
        (service.relationshipSort (active ++ [relationship]))).find? fun agentId =>
          tooDeep service.maxDepth (depthOf agentId service.rootAgentId
            (service.relationshipSort (active ++ [relationship]))) with
    | some first =>
      simp only [found] at depth
      cases depth
    | none =>
      have shallow := find?_eq_none.mp found agentId affected
      cases deep : depthOf agentId service.rootAgentId
          (service.relationshipSort (active ++ [relationship])) with
      | none => simp [deep, tooDeep] at shallow
      | some result =>
        simp only [deep, tooDeep, decide_eq_true_eq, Nat.not_lt] at shallow
        exact ⟨result, shallow, rfl⟩

lemma endpointDiagnostics_eq_nil (none : endpointDiagnostics service relationship = []) :
    relationship.childAgentId ≠ service.rootAgentId ∧
      relationship.parentAgentId ∈ service.agents ∧ relationship.childAgentId ∈ service.agents := by
  unfold endpointDiagnostics at none
  simp only [append_eq_nil_iff, ite_eq_right_iff, cons_ne_nil, imp_false,
    not_not] at none
  exact ⟨none.1.1, none.1.2, none.2⟩

lemma activeDiagnostics_blocked :
    ∀ diagnostic ∈ activeDiagnostics service relationship active, diagnostic.severity = .blocked := by
  intro diagnostic reported
  unfold activeDiagnostics at reported
  simp only [mem_append] at reported
  rcases reported with (((duplicate | parents) | children) | path) | depth
  · split at duplicate
    · exact mem_singleton.mp duplicate ▸ rfl
    · cases duplicate
  · split at parents
    · split_ifs at parents
      · exact mem_singleton.mp parents ▸ rfl
      · cases parents
    · cases parents
  · split_ifs at children
    · exact mem_singleton.mp children ▸ rfl
    · cases children
  · split_ifs at path
    · exact mem_singleton.mp path ▸ rfl
    · cases path
  · split at depth
    · exact mem_singleton.mp depth ▸ rfl
    · cases depth

lemma endpointDiagnostics_blocked :
    ∀ diagnostic ∈ endpointDiagnostics service relationship, diagnostic.severity = .blocked := by
  intro diagnostic reported
  unfold endpointDiagnostics at reported
  simp only [mem_append] at reported
  rcases reported with (root | parent) | child
  · split_ifs at root
    · exact mem_singleton.mp root ▸ rfl
    · cases root
  · split_ifs at parent
    · cases parent
    · exact mem_singleton.mp parent ▸ rfl
  · split_ifs at child
    · cases child
    · exact mem_singleton.mp child ▸ rfl

structure AcceptedIn (service : HierarchyService) (store : RelationshipStore)
    (relationship : AgentRelationship) : Prop where
  valid : relationship.Valid
  child : relationship.childAgentId ≠ service.rootAgentId
  known : relationship.parentAgentId ∈ service.agents ∧ relationship.childAgentId ∈ service.agents
  admissible : relationship.status = .active → Admissible service relationship
    ((service.activeRelationships store).filter (·.edgeId ≠ relationship.edgeId))

lemma nil_of_blocked {diagnostics : List AgentHierarchyDiagnostic}
    (blocked : ∀ diagnostic ∈ diagnostics, diagnostic.severity = .blocked)
    (none : diagnostics.all (·.severity ≠ .blocked)) : diagnostics = [] := by
  rw [eq_nil_iff_forall_not_mem]
  intro diagnostic mem
  have other := all_eq_true.mp none diagnostic mem
  simp [blocked diagnostic mem] at other

lemma acceptedIn_of_ok {store : RelationshipStore} {input : RelationshipInput} {now : Int}
    (ok : (validateRelationship service store input now).ok) :
    AcceptedIn service store (validateRelationship service store input now).relationship := by
  simp only [validateRelationship] at ok ⊢
  split_ifs at ok ⊢ with issues active
  · have none := nil_of_blocked (fun diagnostic mem => (mem_append.mp mem).elim
      (endpointDiagnostics_blocked diagnostic) (activeDiagnostics_blocked diagnostic)) ok
    obtain ⟨endpoints, others⟩ := append_eq_nil_iff.mp none
    obtain ⟨child, known⟩ := endpointDiagnostics_eq_nil endpoints
    exact ⟨validateAgentRelationship_eq_nil.mp (not_not.mp issues), child, known,
      fun _ => admissible_of_activeDiagnostics others⟩
  · have none := nil_of_blocked (fun diagnostic mem => (mem_append.mp mem).elim
      (endpointDiagnostics_blocked diagnostic) fun gone => absurd gone not_mem_nil) ok
    obtain ⟨endpoints, -⟩ := append_eq_nil_iff.mp none
    obtain ⟨child, known⟩ := endpointDiagnostics_eq_nil endpoints
    exact ⟨validateAgentRelationship_eq_nil.mp (not_not.mp issues), child, known,
      fun isActive => absurd isActive active⟩

end Accepted

/-! ## The table -/

lemma mem_upserted {store next : RelationshipStore} {input : AgentRelationship}
    {auditId : Option String} {now : Int}
    (stored : store.upsertAgentRelationship input auditId now = some next) :
    ∃ createdAt, ∀ row, row ∈ next.rows ↔ row ∈ store.rows ∧ row.edgeId ≠ input.edgeId ∨
      row = upserted input auditId now createdAt := by
  simp only [upsertAgentRelationship] at stored
  split_ifs at stored with checks
  cases stored
  simp only [upsertedRows]
  cases found : store.find? input.edgeId with
  | none =>
    refine ⟨input.createdAt.getD now, fun row => ?_⟩
    have other : row ∈ store.rows → row.edgeId ≠ input.edgeId := fun held same =>
      absurd (decide_eq_true same) (find?_eq_none.mp found row held)
    simp only [mem_append, mem_singleton]
    exact or_congr_left ⟨fun held => ⟨held, other held⟩, And.left⟩
  | some old =>
    have held := mem_of_find?_eq_some found
    have named : old.edgeId = input.edgeId := by simpa using find?_some found
    refine ⟨old.createdAt, fun row => ?_⟩
    simp only [mem_map]
    constructor
    · rintro ⟨before, mem, rfl⟩
      split_ifs with same
      · have one : before = old :=
          inj_on_of_nodup_map store.edgeIds mem held (same.trans named.symm)
        exact .inr (one ▸ rfl)
      · exact .inl ⟨mem, same⟩
    · rintro (⟨mem, other⟩ | rfl)
      · exact ⟨row, mem, if_neg other⟩
      · exact ⟨old, held, if_pos named⟩

def RelationshipStore.relationships (store : RelationshipStore) : List AgentRelationship :=
  store.rows.map relationshipFromRow

lemma mem_activeRelationships {service : HierarchyService} {store : RelationshipStore}
    {relationship : AgentRelationship} :
    relationship ∈ service.activeRelationships store ↔
      relationship ∈ store.relationships ∧ relationship.status = .active := by
  unfold HierarchyService.activeRelationships listAgentRelationships relationships
  simp only [mem_relationshipSort, mem_map, mem_insertionSort, mem_filter,
    decide_eq_true_eq]
  constructor
  · rintro ⟨row, ⟨held, active⟩, rfl⟩
    exact ⟨⟨row, held, rfl⟩, active⟩
  · rintro ⟨⟨row, held, rfl⟩, active⟩
    exact ⟨row, ⟨held, active⟩, rfl⟩

def childCount (relationships : List AgentRelationship) (parentAgentId : String) : Nat :=
  (((activeOnly relationships).filter (·.parentAgentId = parentAgentId)).map
    (·.childAgentId)).dedup.length

lemma dedup_length_le {first second : List String} (sub : first ⊆ second) :
    first.dedup.length ≤ second.dedup.length := by
  have held : first.dedup ⊆ second.dedup := fun _ mem => mem_dedup.mpr (sub (mem_dedup.mp mem))
  exact ((nodup_dedup first).subperm held).length_le

/-- Active relationships that form a forest within the limits of a service. -/
structure ForestOf (service : HierarchyService) (relationships : List AgentRelationship) : Prop where
  single : SingleParent relationships
  root : ∀ parent, ¬EdgeOf relationships parent service.rootAgentId
  acyclic : ∀ agentId, ¬TransGen (EdgeOf relationships) agentId agentId
  children : ∀ parent child, EdgeOf relationships parent child →
    ¬service.maxChildCount.lt (.ofNat (childCount relationships parent))
  depth : ∀ count agentId top, Forest.Above (EdgeOf relationships) count agentId top →
    count + (if top = service.rootAgentId then 0 else 1) ≤ service.maxDepth

section ForestOf

variable {service : HierarchyService}

lemma not_lt_of_le {limit : JsNumber} {count more : Nat} (le : count ≤ more)
    (within : ¬limit.lt (.ofNat more)) : ¬limit.lt (.ofNat count) :=
  fun exceeded => within (JsNumber.lt_of_lt_of_le exceeded ((JsNumber.le_ofNat _ _).mpr le))

lemma ForestOf.mono {first second : List AgentRelationship} (forest : ForestOf service second)
    (sub : ∀ parent child, EdgeOf first parent child → EdgeOf second parent child) :
    ForestOf service first where
  single := fun parent parent' child edge edge' =>
    forest.single parent parent' child (sub _ _ edge) (sub _ _ edge')
  root := fun parent edge => forest.root parent (sub _ _ edge)
  acyclic := fun agentId cycle => forest.acyclic agentId (Relation.TransGen.mono sub _ _ cycle)
  children := fun parent child edge => by
    refine not_lt_of_le (dedup_length_le fun child mem => ?_)
      (forest.children parent child (sub _ _ edge))
    exact mem_children.mpr (sub _ _ (mem_children.mp mem))
  depth := fun count agentId top above => forest.depth count agentId top (above.mono sub)

lemma edgeOf_sort_concat {others : List AgentRelationship} {relationship : AgentRelationship}
    (active : relationship.status = .active) :
    EdgeOf (service.relationshipSort (others ++ [relationship])) =
      Digraph.WithEdge (EdgeOf others) relationship.parentAgentId relationship.childAgentId := by
  have mem {candidate : AgentRelationship} :
      candidate ∈ service.relationshipSort (others ++ [relationship]) ↔
        candidate ∈ others ∨ candidate = relationship := by
    rw [mem_relationshipSort, mem_append, mem_singleton]
  funext parent below
  refine propext ⟨?_, ?_⟩
  · rintro ⟨candidate, held, status, rfl, rfl⟩
    rcases mem.mp held with old | rfl
    · exact .inl ⟨candidate, old, status, rfl, rfl⟩
    · exact .inr ⟨rfl, rfl⟩
  · rintro (⟨candidate, held, status, rfl, rfl⟩ | ⟨rfl, rfl⟩)
    · exact ⟨candidate, mem.mpr (.inl held), status, rfl, rfl⟩
    · exact ⟨relationship, mem.mpr (.inr rfl), active, rfl, rfl⟩

lemma ForestOf.add {others : List AgentRelationship} {relationship : AgentRelationship}
    (forest : ForestOf service others) (active : relationship.status = .active)
    (valid : relationship.Valid) (child : relationship.childAgentId ≠ service.rootAgentId)
    (admissible : Admissible service relationship others) (fresh : ∀ parent,
      ¬EdgeOf others parent relationship.childAgentId) :
    ForestOf service (service.relationshipSort (others ++ [relationship])) := by
  have edges : EdgeOf (service.relationshipSort (others ++ [relationship])) =
      Digraph.WithEdge (EdgeOf others) relationship.parentAgentId relationship.childAgentId :=
    edgeOf_sort_concat active
  have single : SingleParent (service.relationshipSort (others ++ [relationship])) := by
    intro first second below edge edge'
    rw [edges] at edge edge'
    rcases edge with old | ⟨rfl, rfl⟩ <;> rcases edge' with old' | ⟨rfl, same⟩
    · exact forest.single first second below old old'
    · exact absurd (same ▸ old) (fresh first)
    · exact absurd old' (fresh second)
    · rfl
  have root : ∀ parent, ¬EdgeOf (service.relationshipSort (others ++ [relationship])) parent
      service.rootAgentId := by
    intro parent edge
    rw [edges] at edge
    rcases edge with old | ⟨-, own⟩
    · exact forest.root parent old
    · exact child own.symm
  refine ⟨single, root, ?_, fun parent below edge => ?_, fun count agentId top above => ?_⟩
  · rw [edges, Digraph.acyclic_withEdge forest.acyclic]
    intro back
    rcases reflTransGen_iff_eq_or_transGen.mp back with same | leads
    · exact valid.different same
    · exact admissible.path leads
  · by_cases own : parent = relationship.parentAgentId
    · subst own
      refine not_lt_of_le (dedup_length_le fun below edge => ?_) admissible.children
      have edge := mem_children.mp edge
      rw [edges] at edge
      rcases edge with ⟨candidate, held, -, parent, rfl⟩ | ⟨-, rfl⟩
      · exact mem_append_left _ (mem_map_of_mem (mem_filter.mpr
          ⟨held, decide_eq_true parent⟩))
      · exact mem_append_right _ (mem_singleton_self _)
    · have old child (edge : EdgeOf (service.relationshipSort
          (others ++ [relationship])) parent child) : EdgeOf others parent child := by
        rw [edges] at edge
        exact edge.resolve_right fun both => own both.1
      refine not_lt_of_le (dedup_length_le fun child mem => ?_)
        (forest.children parent below (old below edge))
      exact mem_children.mpr (old child (mem_children.mp mem))
  · have above' := above
    rw [edges] at above'
    rcases Forest.above_withEdge above' with old | below
    · exact forest.depth count agentId top old
    · rw [← edges] at below
      obtain ⟨depth, shallow, deep⟩ := admissible.depth agentId below
      exact (above_le_depthOf single root deep above).trans shallow

end ForestOf

/-! ## Runs -/

section Runs

variable (service : HierarchyService) {store : RelationshipStore}

/-- What an upsert does to the edges: those of other relationships stay, and that of an
active one is added. -/
lemma edgeOf_upserted {next : RelationshipStore} {input : AgentRelationship}
    {auditId : Option String} {now : Int}
    (stored : store.upsertAgentRelationship input auditId now = some next) (parent child : String)
    (edge : EdgeOf next.relationships parent child) :
    EdgeOf ((service.activeRelationships store).filter (·.edgeId ≠ input.edgeId)) parent child ∨
      input.status = .active ∧ parent = input.parentAgentId ∧ child = input.childAgentId := by
  obtain ⟨createdAt, rows⟩ := mem_upserted stored
  obtain ⟨relationship, held, active, rfl, rfl⟩ := edge
  obtain ⟨row, held', rfl⟩ := mem_map.mp held
  rcases (rows row).mp held' with ⟨old, other⟩ | rfl
  · refine .inl ⟨relationshipFromRow row, ?_, active, rfl, rfl⟩
    exact mem_filter.mpr ⟨mem_activeRelationships.mpr ⟨mem_map_of_mem old, active⟩,
      decide_eq_true other⟩
  · exact .inr ⟨active, rfl, rfl⟩

lemma edgeOf_others (edgeId parent child : String)
    (edge : EdgeOf ((service.activeRelationships store).filter (·.edgeId ≠ edgeId)) parent child) :
    EdgeOf store.relationships parent child := by
  obtain ⟨relationship, held, active, endpoints⟩ := edge
  exact ⟨relationship, (mem_activeRelationships.mp (mem_of_mem_filter held)).1, active,
    endpoints⟩

section

variable (forest : ForestOf service store.relationships)

include forest

lemma createRelationship_forest (input : RelationshipInput) (auditId : Option String)
    (now : Int) :
    ForestOf service (createRelationship service store input auditId now).1.relationships := by
  unfold createRelationship
  by_cases ok : (validateRelationship service store input now).ok
  · rw [if_pos ok]
    cases stored : store.upsertAgentRelationship
        (validateRelationship service store input now).relationship auditId now with
    | none => exact forest
    | some next =>
      have accepted := acceptedIn_of_ok ok
      have others := forest.mono (edgeOf_others service
        (validateRelationship service store input now).relationship.edgeId)
      have edges := edgeOf_upserted service stored
      by_cases active : (validateRelationship service store input now).relationship.status = .active
      · have admissible := accepted.admissible active
        have fresh : ∀ parent, ¬EdgeOf ((service.activeRelationships store).filter
            (·.edgeId ≠ (validateRelationship service store input now).relationship.edgeId)) parent
              (validateRelationship service store input now).relationship.childAgentId := by
          rintro parent ⟨candidate, held, -, -, same⟩
          exact admissible.fresh candidate held same
        refine (others.add active accepted.valid accepted.child admissible fresh).mono ?_
        intro parent child edge
        rw [edgeOf_sort_concat active]
        exact (edges parent child edge).imp_right And.right
      · exact others.mono fun parent child edge =>
          (edges parent child edge).resolve_right fun both => active both.1
  · rw [if_neg ok]
    exact forest

lemma disableRelationship_forest (edgeId : String) (auditId : Option String) (now : Int) :
    ForestOf service (disableRelationship store edgeId auditId now).1.relationships := by
  unfold disableRelationship
  cases store.find? edgeId with
  | none => exact forest
  | some row =>
    simp only
    cases stored : store.upsertAgentRelationship
        { relationshipFromRow row with status := .disabled, updatedAt := some now }
        (auditId.or row.auditId) now with
    | none => exact forest
    | some next =>
      show ForestOf service next.relationships
      refine forest.mono fun parent child edge => edgeOf_others service row.edgeId parent child ?_
      exact (edgeOf_upserted service stored parent child edge).resolve_right nofun

lemma hierarchyStep_forest (action : HierarchyAction) :
    ForestOf service (hierarchyStep service store action).1.relationships := by
  cases action with
  | create input auditId now =>
    simp only [hierarchyStep]
    exact createRelationship_forest service forest input auditId now
  | disable edgeId auditId now =>
    simp only [hierarchyStep]
    exact disableRelationship_forest service forest edgeId auditId now

end

lemma maxDepth_pos : 0 < service.maxDepth := by
  unfold HierarchyService.maxDepth positiveIntegerOrDefault
  split
  · split_ifs with positive
    · have := Rat.num_pos.mpr positive.2
      omega
    · decide
  · decide

lemma forestOf_empty : ForestOf service empty.relationships := by
  have none : ∀ parent child, ¬EdgeOf empty.relationships parent child := by
    rintro parent child ⟨relationship, held, -⟩
    cases held
  refine ⟨fun first _ child edge => absurd edge (none first child), fun parent => none parent _,
    fun agentId cycle => ?_, fun parent child edge => absurd edge (none parent child),
    fun count agentId top above => ?_⟩
  · obtain ⟨next, edge, -⟩ := Relation.TransGen.head'_iff.mp cycle
    exact none agentId next edge
  · cases count with
    | zero =>
      have positive := maxDepth_pos service
      split_ifs <;> omega
    | succ count =>
      obtain ⟨parent, edge, -⟩ := above
      exact absurd edge (none parent agentId)

/-- **The hierarchy of agents** is a forest after every run: an agent has one active
parent at most, the root has none, there is no cycle, no parent has more children and no
agent is deeper than the limits of the service allow. -/
theorem hierarchy_forest (actions : List HierarchyAction) :
    ForestOf service
      (Machine.run (hierarchyStep service) .empty actions).relationships := by
  have keep : ∀ (store : RelationshipStore) (action : HierarchyAction),
      ForestOf service store.relationships →
        ForestOf service (hierarchyStep service store action).1.relationships :=
    fun _ action forest => hierarchyStep_forest service forest action
  exact Machine.run_invariant keep (forestOf_empty service) actions

end Runs

end Knowbee.Delegation
