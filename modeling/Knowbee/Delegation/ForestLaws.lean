import Knowbee.Delegation.ForestSound

/-!
# Laws of the delegation forest

A snapshot is taken exactly of a forest, whatever the order of its agents and
relationships, and gives leave only along its edges.
-/

namespace Knowbee.Delegation

open List Comparator

section

variable {Rest : Type} {platform : ForestPlatform Rest} {rootAgentId : String}
  {agents agents' : List (DelegationForestAgent Rest)}
  {relationships relationships' : List AgentRelationship}

/-! ## Forests -/

/-- **A delegation forest**: named agents of different ids and names, a root among them,
and active relationships that join them as a forest, below whose root nothing is. -/
structure DelegationForest (platform : ForestPlatform Rest) (rootAgentId : String)
    (agents : List (DelegationForestAgent Rest)) (relationships : List AgentRelationship) :
    Prop where
  root : jsTrim rootAgentId ≠ ""
  nonempty : agents ≠ []
  named : ∀ agent ∈ agents, Named agent
  known : PassAgents platform (jsTrim rootAgentId) (agents.map normalizedAgent)
  valid : ∀ relationship ∈ activeOnly relationships, relationship.Valid
  edgeIds : ((activeOnly relationships).map (·.edgeId)).Nodup
  pairs : ((activeOnly relationships).map fun relationship =>
    (relationship.parentAgentId, relationship.childAgentId)).Nodup
  endpoints : ∀ parent child, EdgeOf relationships parent child →
    parent ∈ agents.map (fun agent => jsTrim agent.agentId) ∧
      child ∈ agents.map fun agent => jsTrim agent.agentId
  parents : SingleParent relationships
  top : ∀ parent, ¬EdgeOf relationships parent (jsTrim rootAgentId)
  acyclic : ∀ agentId, ¬Relation.TransGen (EdgeOf relationships) agentId agentId

variable {child parent root targetAgentId : String} {agentIds : List String}
  {active active' : List AgentRelationship}

lemma edgeOf_iff : EdgeOf relationships parent child ↔
    ∃ relationship ∈ activeOnly relationships, relationship.parentAgentId = parent ∧
      relationship.childAgentId = child := by
  unfold EdgeOf activeOnly
  constructor
  · rintro ⟨relationship, held, active, endpoints⟩
    exact ⟨relationship, mem_filter.mpr ⟨held, decide_eq_true active⟩, endpoints⟩
  · rintro ⟨relationship, held, endpoints⟩
    obtain ⟨held, active⟩ := mem_filter.mp held
    exact ⟨relationship, held, of_decide_eq_true active, endpoints⟩

lemma delegationGraph_edge (endpoints : ∀ parent child, EdgeOf relationships parent child →
      parent ∈ agentIds ∧ child ∈ agentIds) :
    (delegationGraph agentIds (activeOnly relationships)).Edge = EdgeOf relationships := by
  funext parent child
  refine propext ⟨?_, fun edge => ?_⟩
  · rintro ⟨-, -, relationship, held, rfl⟩
    obtain ⟨held, parent⟩ := mem_filter.mp held
    exact edgeOf_iff.mpr ⟨relationship, held, of_decide_eq_true parent, rfl⟩
  · obtain ⟨relationship, held, rfl, rfl⟩ := edgeOf_iff.mp edge
    have known := endpoints _ _ edge
    exact ⟨known.1, known.2, relationship, mem_filter.mpr ⟨held, decide_eq_true rfl⟩, rfl⟩

lemma normalizedAgent_ids : (agents.map normalizedAgent).map (·.agentId) =
    agents.map fun agent => jsTrim agent.agentId := by
  rw [map_map]
  rfl

/-- No id of a parent holds the character that joins a pair. -/
def PlainParents (relationships : List AgentRelationship) : Prop :=
  ∀ relationship ∈ activeOnly relationships, '\x00' ∉ relationship.parentAgentId.toList

lemma append_cons_inj {first second rest rest' : List Char} {c : Char} (plain : c ∉ first)
    (plain' : c ∉ second) (same : first ++ c :: rest = second ++ c :: rest') :
    first = second ∧ rest = rest' := by
  induction first generalizing second with
  | nil =>
    cases second with
    | nil => exact ⟨rfl, (List.cons.inj same).2⟩
    | cons d second => exact absurd (List.cons.inj same).1 fun eq => plain' (eq ▸ mem_cons_self)
  | cons d first ih =>
    cases second with
    | nil => exact absurd (List.cons.inj same).1.symm fun eq => plain (eq ▸ mem_cons_self)
    | cons e second =>
      obtain ⟨rfl, later⟩ := List.cons.inj same
      obtain ⟨rfl, rest⟩ := ih (fun mem => plain (mem_cons_of_mem _ mem))
        (fun mem => plain' (mem_cons_of_mem _ mem)) later
      exact ⟨rfl, rest⟩

/-- Keys tell pairs apart whose parents do not hold their joint. -/
lemma pairKey_inj {first second : AgentRelationship}
    (plain : '\x00' ∉ first.parentAgentId.toList) (plain' : '\x00' ∉ second.parentAgentId.toList)
    (same : pairKey first = pairKey second) :
    (first.parentAgentId, first.childAgentId) = (second.parentAgentId, second.childAgentId) := by
  have chars := congrArg String.toList same
  simp only [pairKey, String.toList_append, append_assoc] at chars
  obtain ⟨parent, child⟩ := append_cons_inj plain plain' chars
  exact Prod.ext (String.toList_inj.mp parent) (String.toList_inj.mp child)

lemma pairs_nodup_of_keys (keys : ((activeOnly relationships).map pairKey).Nodup) :
    ((activeOnly relationships).map fun relationship =>
      (relationship.parentAgentId, relationship.childAgentId)).Nodup := by
  unfold List.Nodup at keys ⊢
  rw [pairwise_map] at keys ⊢
  refine keys.imp fun {first second} apart same => apart ?_
  obtain ⟨parent, child⟩ := Prod.mk.inj same
  rw [pairKey, pairKey, parent, child]

lemma keys_nodup_of_pairs (plain : PlainParents relationships)
    (pairs : ((activeOnly relationships).map fun relationship =>
      (relationship.parentAgentId, relationship.childAgentId)).Nodup) :
    ((activeOnly relationships).map pairKey).Nodup := by
  unfold List.Nodup at pairs ⊢
  rw [pairwise_map] at pairs ⊢
  exact pairs.imp_of_mem fun held held' apart same =>
    apart (pairKey_inj (plain _ held) (plain _ held') same)

lemma delegationGraph_cyclic_iff (endpoints : ∀ parent child, EdgeOf relationships parent child →
    parent ∈ agents.map (fun agent => jsTrim agent.agentId) ∧
      child ∈ agents.map fun agent => jsTrim agent.agentId) :
    (delegationGraph ((agents.map normalizedAgent).map (·.agentId)) (activeOnly relationships)).Cyclic ↔
      ∃ agentId, Relation.TransGen (EdgeOf relationships) agentId agentId := by
  rw [Digraph.Graph.Cyclic, delegationGraph_edge (normalizedAgent_ids ▸ endpoints)]

lemma PassSnapshot.forest_of (passes : PassSnapshot platform rootAgentId agents relationships) :
    DelegationForest platform rootAgentId agents relationships := by
  obtain ⟨root, nonempty, named, known, ⟨valid, ends, edgeIds, keys, parents⟩, top, acyclic⟩ := passes
  have endpoints : ∀ parent child, EdgeOf relationships parent child →
      parent ∈ agents.map (fun agent => jsTrim agent.agentId) ∧
        child ∈ agents.map fun agent => jsTrim agent.agentId := by
    intro parent child edge
    obtain ⟨relationship, held, rfl, rfl⟩ := edgeOf_iff.mp edge
    rw [← normalizedAgent_ids]
    exact ends relationship held
  refine ⟨root, nonempty, named, known, valid, edgeIds, pairs_nodup_of_keys keys,
    endpoints, fun first second child edge edge' => ?_, fun parent edge => ?_,
    fun agentId cycle => acyclic ((delegationGraph_cyclic_iff endpoints).mpr ⟨agentId, cycle⟩)⟩
  · obtain ⟨relationship, held, rfl, rfl⟩ := edgeOf_iff.mp edge
    obtain ⟨relationship', held', rfl, same⟩ := edgeOf_iff.mp edge'
    exact parents relationship held relationship' held' same.symm
  · obtain ⟨relationship, held, -, same⟩ := edgeOf_iff.mp edge
    exact top (same ▸ mem_map_of_mem held)

lemma DelegationForest.passes (forest : DelegationForest platform rootAgentId agents relationships)
    (plain : PlainParents relationships) :
    PassSnapshot platform rootAgentId agents relationships := by
  refine ⟨forest.root, forest.nonempty, forest.named, forest.known,
    ⟨forest.valid, fun relationship held => ?_, forest.edgeIds,
      keys_nodup_of_pairs plain forest.pairs, fun first held second held' same => ?_⟩,
    fun below => ?_, fun found => ?_⟩
  · rw [normalizedAgent_ids]
    exact forest.endpoints _ _ (edgeOf_iff.mpr ⟨relationship, held, rfl, rfl⟩)
  · exact forest.parents _ _ second.childAgentId (edgeOf_iff.mpr ⟨first, held, rfl, same⟩)
      (edgeOf_iff.mpr ⟨second, held', rfl, rfl⟩)
  · obtain ⟨relationship, held, same⟩ := mem_map.mp below
    exact forest.top _ (edgeOf_iff.mpr ⟨relationship, held, rfl, same⟩)
  · obtain ⟨agentId, cycle⟩ := (delegationGraph_cyclic_iff forest.endpoints).mp found
    exact forest.acyclic agentId cycle

/-! ## Permutations -/

lemma activeOnly_perm (perm : relationships.Perm relationships') :
    (activeOnly relationships).Perm (activeOnly relationships') :=
  perm.filter _

lemma PassAgents.perm (passes : PassAgents platform root agents) (perm : agents.Perm agents') :
    PassAgents platform root agents' where
  ids := (perm.map _).nodup_iff.mp passes.ids
  root := by
    obtain ⟨agent, held, same⟩ := passes.root
    exact ⟨agent, perm.mem_iff.mp held, same⟩
  names := by
    have symm : ∀ {a b : DelegationForestAgent Rest}, ¬SameName platform b a →
        ¬SameName platform a b := fun apart same => apart ⟨same.2 ▸ same.1, same.2.symm⟩
    exact (perm.pairwise_iff symm).mp passes.names

lemma delegationGraph_cyclic_perm {agentIds' : List String} (ids : agentIds.Perm agentIds')
    (perm : active.Perm active') :
    (delegationGraph agentIds active).Cyclic ↔ (delegationGraph agentIds' active').Cyclic := by
  have edges : (delegationGraph agentIds active).Edge = (delegationGraph agentIds' active').Edge := by
    funext parent child
    unfold Digraph.Graph.Edge delegationGraph
    simp only [mem_filter, ids.mem_iff, perm.mem_iff]
  unfold Digraph.Graph.Cyclic
  rw [edges]

lemma PassForest.perm {agentIds' : List String} (passes : PassForest root agentIds active)
    (ids : agentIds.Perm agentIds') (perm : active.Perm active') :
    PassForest root agentIds' active' where
  loop :=
    { valid := fun relationship held => passes.loop.valid relationship (perm.mem_iff.mpr held)
      known := fun relationship held => by
        have known := passes.loop.known relationship (perm.mem_iff.mpr held)
        exact ⟨ids.mem_iff.mp known.1, ids.mem_iff.mp known.2⟩
      edgeIds := (perm.map _).nodup_iff.mp passes.loop.edgeIds
      pairs := (perm.map _).nodup_iff.mp passes.loop.pairs
      parents := fun first held second held' =>
        passes.loop.parents first (perm.mem_iff.mpr held) second (perm.mem_iff.mpr held') }
  root := fun below => passes.root ((perm.map _).mem_iff.mpr below)
  acyclic := fun cyclic => passes.acyclic ((delegationGraph_cyclic_perm ids perm).mpr cyclic)

lemma PassSnapshot.perm (passes : PassSnapshot platform rootAgentId agents relationships)
    (perm : agents.Perm agents') (perm' : relationships.Perm relationships') :
    PassSnapshot platform rootAgentId agents' relationships' where
  root := passes.root
  nonempty := fun empty => passes.nonempty (perm_nil.mp (empty ▸ perm))
  named := fun agent held => passes.named agent (perm.mem_iff.mpr held)
  known := passes.known.perm (perm.map _)
  forest := passes.forest.perm ((perm.map _).map _) (activeOnly_perm perm')

lemma forestSnapshot_perm (order : Comparator.TotalOrder platform.localeCompare)
    (ids : (agents.map (·.agentId)).Nodup) (edgeIds : (active.map (·.edgeId)).Nodup)
    (perm : agents.Perm agents') (perm' : active.Perm active') :
    forestSnapshot platform root agents active = forestSnapshot platform root agents' active' := by
  have lawful := order.toLawful
  have agentsSame : sort (compareAgents platform) agents =
      sort (compareAgents platform) agents' :=
    sort_eq_of_perm (lawful.on _) (fun a held b held' zero =>
      inj_on_of_nodup_map ids held held' (order.eq_of_zero _ _ zero)) perm
  have relationshipsSame : sort (compareRelationships platform) active =
      sort (compareRelationships platform) active' := by
    refine sort_eq_of_perm
      ((lawful.on _).thenBy ((lawful.on _).thenBy (lawful.on _))) (fun a held b held' zero => ?_) perm'
    have edges := (thenBy_eq_zero (thenBy_eq_zero zero).2).2
    exact inj_on_of_nodup_map edgeIds held held' (order.eq_of_zero _ _ edges)
  have rootsSame : rootAgentIds (agents.map (·.agentId)) active =
      rootAgentIds (agents'.map (·.agentId)) active' := by
    unfold rootAgentIds
    refine sortStrings_eq_of_perm ?_
    simp only [(perm'.map (·.childAgentId)).mem_iff]
    exact (perm.map _).filter _
  have childrenSame : sortedChildren active = sortedChildren active' := by
    funext parent
    exact sortStrings_eq_of_perm (((perm'.filter _).map _).dedup)
  have directSame : directChildren platform active = directChildren platform active' := by
    unfold directChildren
    rw [childrenSame, sort_eq_of_perm lawful (fun a _ b _ => order.eq_of_zero a b)
      (perm'.map (·.parentAgentId)).dedup]
  simp [forestSnapshot, agentsSame, relationshipsSame, rootsSame, directSame]

/-! ## Leave -/

def PolicyPermits (caller : DelegationForestAgent Rest) (targetAgentId : String) : Prop :=
  caller.agentType = .knowbee ∨ ∃ policy, caller.delegationPolicy = some policy ∧
    policy.enabled = true ∧ policy.redelegationAllowed = some true ∧
      policy.directChildOnly = some true ∧
        ∀ allowed ∈ policy.allowedChildAgentIds, targetAgentId ∈ allowed

lemma policyDenial_eq_none {caller : DelegationForestAgent Rest} :
    policyDenial caller targetAgentId = none ↔ PolicyPermits caller targetAgentId := by
  unfold policyDenial PolicyPermits
  cases type : caller.agentType with
  | knowbee => simp
  | subAgent =>
    cases held : caller.delegationPolicy with
    | none => simp
    | some policy =>
      have permits {permitted : _ → Prop} : (AgentType.subAgent = AgentType.knowbee ∨
          ∃ given, some policy = some given ∧ permitted given) ↔ permitted policy := by
        simp
      rw [permits]
      by_cases enabled : policy.enabled = true
      · by_cases redelegation : policy.redelegationAllowed = some true
        · by_cases direct : policy.directChildOnly = some true
          · by_cases missing : ∃ allowed ∈ policy.allowedChildAgentIds, targetAgentId ∉ allowed
            · simp only [enabled, redelegation, direct, missing, if_true]
              obtain ⟨ids, held, other⟩ := missing
              exact ⟨nofun, fun all => absurd (all.2.2.2 ids held) other⟩
            · simp only [enabled, redelegation, direct, missing]
              push Not at missing
              exact ⟨fun _ => ⟨trivial, trivial, trivial, missing⟩, fun _ => rfl⟩
          · simp [enabled, redelegation, direct]
        · simp [enabled, redelegation]
      · simp [enabled]

lemma mem_sortedChildren : child ∈ sortedChildren active parent ↔ ∃ relationship ∈ active,
      relationship.parentAgentId = parent ∧ relationship.childAgentId = child := by
  simp [sortedChildren, mem_sortStrings, and_assoc]

lemma find_directChildren : (directChildren platform active).find? (·.1 = parent) =
      if parent ∈ active.map (·.parentAgentId) then some (parent, sortedChildren active parent)
      else none := by
  unfold directChildren
  rw [find?_map]
  split_ifs with held
  · have found : ((sort platform.localeCompare
        (active.map (·.parentAgentId)).dedup).find? fun id => decide (id = parent)) = some parent := by
      have listed : ∃ id ∈ sort platform.localeCompare
          (active.map (·.parentAgentId)).dedup, decide (id = parent) = true :=
        ⟨parent, mem_sort.mpr (mem_dedup.mpr held), decide_eq_true rfl⟩
      obtain ⟨id, found⟩ := Option.isSome_iff_exists.mp (find?_isSome.mpr listed)
      have same : id = parent := by simpa using find?_some found
      exact same ▸ found
    exact congrArg (Option.map _) found
  · refine congrArg (Option.map _) (find?_eq_none.mpr fun id listed => ?_)
    have listed := mem_dedup.mp (mem_sort.mp listed)
    exact fun same => held (of_decide_eq_true same ▸ listed)

lemma mem_snapshotChildren :
    (∃ children, snapshotChildren (forestSnapshot platform root agents active) parent = some children ∧
      child ∈ children) ↔ child ∈ sortedChildren active parent := by
  simp only [snapshotChildren, forestSnapshot, find_directChildren]
  by_cases held : parent ∈ active.map (·.parentAgentId)
  · rw [if_pos held]
    constructor
    · rintro ⟨_, same, mem⟩
      have listed : sortedChildren active parent = _ := Option.some.inj same
      exact listed ▸ mem
    · exact fun mem => ⟨_, rfl, mem⟩
  · rw [if_neg held]
    constructor
    · rintro ⟨_, same, mem⟩
      simp only at same
      split_ifs at same
      cases same
      cases mem
    · intro mem
      obtain ⟨relationship, listed, same, -⟩ := mem_sortedChildren.mp mem
      exact absurd (same ▸ mem_map.mpr ⟨relationship, listed, rfl⟩) held

lemma agentById_forestSnapshot (ids : (agents.map (·.agentId)).Nodup) {agentId : String}
    {agent : DelegationForestAgent Rest} :
    agentById (forestSnapshot platform root agents active).agents agentId = some agent ↔
      agent ∈ agents ∧ agent.agentId = agentId := by
  have sorted := perm_sort (compareAgents platform) agents
  have distinct : ((forestSnapshot platform root agents active).agents.map (·.agentId)).Nodup :=
    (sorted.map _).nodup_iff.mpr ids
  rw [agentById_eq_some_iff distinct]
  exact and_congr_left fun _ => sorted.mem_iff

lemma authorizeDelegationInForest_allowed_iff {snapshot : DelegationForestSnapshot Rest}
    {expected callerAgentId : String} : (∃ receiptId fingerprint callerName targetName,
      authorizeDelegationInForest platform snapshot expected callerAgentId targetAgentId =
        some (.allowed receiptId fingerprint callerName targetName)) ↔
      expected = snapshot.snapshotFingerprint ∧
        ∃ caller target, agentById snapshot.agents callerAgentId = some caller ∧
          agentById snapshot.agents targetAgentId = some target ∧
            caller.status = .enabled ∧ target.status = .enabled ∧
              (∃ children, snapshotChildren snapshot caller.agentId = some children ∧
                target.agentId ∈ children) ∧ policyDenial caller target.agentId = none := by
  unfold authorizeDelegationInForest
  by_cases current : expected = snapshot.snapshotFingerprint
  · rw [if_neg (not_not.mpr current)]
    cases callerFound : agentById snapshot.agents callerAgentId with
    | none => simp
    | some caller =>
      cases targetFound : agentById snapshot.agents targetAgentId with
      | none => simp
      | some target =>
        by_cases callerStatus : caller.status = .enabled
        · by_cases targetStatus : target.status = .enabled
          · cases found : snapshotChildren snapshot caller.agentId with
            | none => simp [callerStatus, targetStatus, found]
            | some children =>
              by_cases held : target.agentId ∈ children
              · cases denial : policyDenial caller target.agentId with
                | none => simp [current, callerStatus, targetStatus, found, held, denial]
                | some reasonCode => simp [callerStatus, targetStatus, found, held, denial]
              · simp [callerStatus, targetStatus, found, held]
          · simp [callerStatus, targetStatus]
        · simp [callerStatus]
  · simp [current]

/-- **Leave is given exactly** along an active edge between enabled agents, to a caller
whose policy permits the target and who has the snapshot in hand. -/
lemma forestSnapshot_allows (ids : (agents.map (·.agentId)).Nodup)
    {expected callerAgentId : String} : (∃ receiptId fingerprint callerName targetName,
      authorizeDelegationInForest platform (forestSnapshot platform root agents active) expected
        callerAgentId targetAgentId = some (.allowed receiptId fingerprint callerName targetName)) ↔
      expected = (forestSnapshot platform root agents active).snapshotFingerprint ∧
        ∃ caller ∈ agents, ∃ target ∈ agents,
          caller.agentId = callerAgentId ∧ target.agentId = targetAgentId ∧
            caller.status = .enabled ∧ target.status = .enabled ∧
              targetAgentId ∈ sortedChildren active callerAgentId ∧
                PolicyPermits caller targetAgentId := by
  rw [authorizeDelegationInForest_allowed_iff]
  refine and_congr_right fun _ => ?_
  constructor
  · rintro ⟨caller, target, callerFound, targetFound, enabled, enabled', child, permitted⟩
    obtain ⟨held, rfl⟩ := (agentById_forestSnapshot ids).mp callerFound
    obtain ⟨held', rfl⟩ := (agentById_forestSnapshot ids).mp targetFound
    exact ⟨caller, held, target, held', rfl, rfl, enabled, enabled', mem_snapshotChildren.mp child,
      policyDenial_eq_none.mp permitted⟩
  · rintro ⟨caller, held, target, held', rfl, rfl, enabled, enabled', child, permits⟩
    exact ⟨caller, target, (agentById_forestSnapshot ids).mpr ⟨held, rfl⟩,
      (agentById_forestSnapshot ids).mpr ⟨held', rfl⟩, enabled, enabled',
      mem_snapshotChildren.mpr child, policyDenial_eq_none.mpr permits⟩

/-- **The delegation forest.**  A snapshot is taken only of a forest, and of each whose
ids of parents do not hold the joint of a pair; it is the same for permuted input; and
leave is given by it exactly along an active edge between two enabled agents, to a caller
whose policy permits the target. -/
theorem delegationForest_sound (order : Comparator.TotalOrder platform.localeCompare) :
    ((∃ snapshot, validateDelegationForestSnapshot platform rootAgentId agents relationships =
        .ok snapshot) → DelegationForest platform rootAgentId agents relationships) ∧
      (PlainParents relationships → DelegationForest platform rootAgentId agents relationships →
        ∃ snapshot, validateDelegationForestSnapshot platform rootAgentId agents relationships =
          .ok snapshot) ∧
        ∀ snapshot, validateDelegationForestSnapshot platform rootAgentId agents relationships =
            .ok snapshot →
          (∀ agents' relationships', agents.Perm agents' → relationships.Perm relationships' →
            validateDelegationForestSnapshot platform rootAgentId agents' relationships' =
              .ok snapshot) ∧
            ∀ expected callerAgentId targetAgentId,
              (∃ receiptId fingerprint callerName targetName,
                authorizeDelegationInForest platform snapshot expected callerAgentId targetAgentId =
                  some (.allowed receiptId fingerprint callerName targetName)) ↔
                expected = snapshot.snapshotFingerprint ∧
                  ∃ caller ∈ agents, ∃ target ∈ agents,
                    jsTrim caller.agentId = callerAgentId ∧ jsTrim target.agentId = targetAgentId ∧
                      caller.status = .enabled ∧ target.status = .enabled ∧
                        EdgeOf relationships callerAgentId targetAgentId ∧
                          PolicyPermits caller targetAgentId := by
  refine ⟨?_, fun plain forest => ?_, fun snapshot accepted => ⟨fun agents' relationships' perm perm' => ?_,
    fun expected callerAgentId targetAgentId => ?_⟩⟩
  · rintro ⟨snapshot, accepted⟩
    exact (validateDelegationForestSnapshot_eq_ok.mp accepted).1.forest_of
  · exact ⟨_, validateDelegationForestSnapshot_eq_ok.mpr ⟨forest.passes plain, rfl⟩⟩
  · obtain ⟨passes, rfl⟩ := validateDelegationForestSnapshot_eq_ok.mp accepted
    refine validateDelegationForestSnapshot_eq_ok.mpr ⟨passes.perm perm perm', ?_⟩
    exact (forestSnapshot_perm order passes.known.ids passes.forest.loop.edgeIds (perm.map _)
      (activeOnly_perm perm')).symm
  · obtain ⟨passes, rfl⟩ := validateDelegationForestSnapshot_eq_ok.mp accepted
    rw [forestSnapshot_allows passes.known.ids]
    refine and_congr_right fun _ => ?_
    simp only [mem_map, mem_sortedChildren, ← edgeOf_iff]
    constructor
    · rintro ⟨_, ⟨caller, held, rfl⟩, _, ⟨target, held', rfl⟩, allowed⟩
      exact ⟨caller, held, target, held', allowed⟩
    · rintro ⟨caller, held, target, held', allowed⟩
      exact ⟨_, ⟨caller, held, rfl⟩, _, ⟨target, held', rfl⟩, allowed⟩

end

/-! ## A forest with a disabled agent -/

def compareTexts (first second : String) : Int :=
  if first < second then -1 else if first = second then 0 else 1

lemma compareTexts_totalOrder : Comparator.TotalOrder compareTexts where
  flip := by
    intro a b
    unfold compareTexts
    rcases lt_trichotomy a b with less | rfl | more
    · simp [less, less.not_gt, less.ne']
    · simp
    · simp [more, more.not_gt, more.ne']
  trans := by
    have nonpos : ∀ a b, compareTexts a b ≤ 0 ↔ a ≤ b := by
      intro a b
      unfold compareTexts
      rcases lt_trichotomy a b with less | rfl | more
      · simp [less, less.le]
      · simp
      · simp [more.not_gt, more.ne', more.not_ge]
    intro a b c le le'
    exact (nonpos a c).mpr (((nonpos a b).mp le).trans ((nonpos b c).mp le'))
  eq_of_zero := by
    intro a b zero
    unfold compareTexts at zero
    by_contra apart
    rcases lt_or_gt_of_ne apart with less | more
    · simp [less] at zero
    · simp [more.not_gt, apart] at zero

def plainForestPlatform : ForestPlatform Unit where
  localeCompare := compareTexts
  toLowerCase := id
  snapshotHash := fun _ _ _ => "0"
  receiptHash := fun _ _ _ => "0"

def disabledChild : List (DelegationForestAgent Unit) :=
  [{ agentId := "main", agentName := "Main", agentType := .knowbee, status := .enabled,
     delegationPolicy := none },
   { agentId := "worker", agentName := "Worker", agentType := .subAgent, status := .disabled,
     delegationPolicy := none }]

def workerEdge : AgentRelationship where
  edgeId := "edge"
  parentAgentId := "main"
  childAgentId := "worker"
  relationshipType := .parentChild
  status := .active
  sortOrder := .finite 0
  createdAt := none
  updatedAt := none

lemma disabledChild_accepted :
    ∃ snapshot, validateDelegationForestSnapshot plainForestPlatform "main" disabledChild
      [workerEdge] = .ok snapshot := by
  have passed : (validateDelegationForestSnapshot plainForestPlatform "main" disabledChild
      [workerEdge]).toOption.isSome = true := by decide
  cases accepted : validateDelegationForestSnapshot plainForestPlatform "main" disabledChild
      [workerEdge] with
  | error message =>
    rw [accepted] at passed
    exact nomatch passed
  | ok snapshot => exact ⟨snapshot, rfl⟩

/-- A forest is accepted though an agent that its edges join is not enabled. -/
theorem delegationForest_counterexample :
    ¬∀ (platform : ForestPlatform Unit) (rootAgentId : String)
      (agents : List (DelegationForestAgent Unit)) (relationships : List AgentRelationship),
      Comparator.TotalOrder platform.localeCompare →
        (∃ snapshot, validateDelegationForestSnapshot platform rootAgentId agents relationships =
          .ok snapshot) →
          ∀ parent child, EdgeOf relationships parent child →
            ∃ agent ∈ agents, jsTrim agent.agentId = child ∧ agent.status = .enabled := by
  intro enabled
  obtain ⟨agent, held, named, status⟩ := enabled plainForestPlatform "main" disabledChild [workerEdge]
    compareTexts_totalOrder disabledChild_accepted
    "main" "worker" ⟨workerEdge, mem_singleton_self _, rfl, rfl, rfl⟩
  revert agent
  decide

/-- The input in its other order gives the same snapshot. -/
theorem delegationForest_sound_disabledChild :
    ∃ snapshot, validateDelegationForestSnapshot plainForestPlatform "main" disabledChild
        [workerEdge] = .ok snapshot ∧
      validateDelegationForestSnapshot plainForestPlatform "main" disabledChild.reverse
        [workerEdge] = .ok snapshot := by
  obtain ⟨snapshot, accepted⟩ := disabledChild_accepted
  have permuted := ((delegationForest_sound compareTexts_totalOrder).2.2 snapshot accepted).1
  exact ⟨snapshot, accepted, permuted _ _ (reverse_perm _).symm (List.Perm.refl _)⟩

end Knowbee.Delegation
