import Knowbee.Delegation.ForestSnapshot

/-!
# What a snapshot of the forest is taken of

The checks pass exactly for a forest of known agents; the snapshot does not depend on
the order of agents and relationships; and only an active edge between two enabled
agents is authorized.
-/

namespace Knowbee.Delegation

open List

lemma bind_eq_ok {α β : Type} {check : Except String α} {next : α → Except String β} {result : β} :
    (check >>= next) = .ok result ↔ ∃ value, check = .ok value ∧ next value = .ok result := by
  cases check with
  | error message => exact ⟨nofun, fun ⟨_, gone, _⟩ => nomatch gone⟩
  | ok value =>
    refine ⟨fun passed => ⟨value, rfl, passed⟩, fun ⟨_, same, passed⟩ => ?_⟩
    cases same
    exact passed

lemma unless_eq_ok {wrong : Prop} [Decidable wrong] {message : String} {result : Unit} :
    (if wrong then (.error message : Except String Unit) else .ok ()) = .ok result ↔ ¬wrong := by
  split_ifs with holds
  · exact ⟨nofun, fun fine => absurd holds fine⟩
  · exact ⟨fun _ => holds, fun _ => rfl⟩

lemma require_eq_ok {holds : Prop} [Decidable holds] {message : String} {result : Unit} :
    require holds message = .ok result ↔ holds := by
  unfold require
  split_ifs with fine
  · exact ⟨fun _ => fine, fun _ => rfl⟩
  · exact ⟨nofun, fun holds => absurd holds fine⟩

lemma requireText_eq_ok {value field text : String} :
    requireText value field = .ok text ↔ jsTrim value ≠ "" ∧ jsTrim value = text := by
  unfold requireText
  split_ifs with holds
  · exact ⟨fun same => ⟨holds, Except.ok.inj same⟩, fun both => congrArg _ both.2⟩
  · exact ⟨nofun, fun both => absurd both.1 holds⟩

section

variable {Rest : Type} {platform : ForestPlatform Rest}

def normalizedAgent (agent : DelegationForestAgent Rest) : DelegationForestAgent Rest :=
  { agent with
    agentId := jsTrim agent.agentId
    agentName := normalizeAgentNameSnapshot (jsTrim agent.agentName) }

def Named (agent : DelegationForestAgent Rest) : Prop :=
  jsTrim agent.agentId ≠ "" ∧ jsTrim agent.agentName ≠ ""

lemma forestAgent_eq_ok {agent kept : DelegationForestAgent Rest} :
    forestAgent agent = .ok kept ↔ Named agent ∧ normalizedAgent agent = kept := by
  unfold forestAgent
  simp only [bind_eq_ok, requireText_eq_ok]
  constructor
  · rintro ⟨_, ⟨id, rfl⟩, _, ⟨name, rfl⟩, same⟩
    exact ⟨⟨id, name⟩, Except.ok.inj same⟩
  · rintro ⟨⟨id, name⟩, rfl⟩
    exact ⟨_, ⟨id, rfl⟩, _, ⟨name, rfl⟩, rfl⟩

variable {agents : List (DelegationForestAgent Rest)} {result : Unit} {agentIds : List String}
  {rootAgentId : String}

lemma forestAgents_eq_ok {kept : List (DelegationForestAgent Rest)} :
    forestAgents agents = .ok kept ↔ (∀ agent ∈ agents, Named agent) ∧
      agents.map normalizedAgent = kept := by
  induction agents generalizing kept with
  | nil => exact ⟨fun same => ⟨forall_mem_nil _, Except.ok.inj same⟩, fun both => both.2 ▸ rfl⟩
  | cons agent rest ih =>
    simp only [forestAgents, bind_eq_ok, forestAgent_eq_ok, ih]
    constructor
    · rintro ⟨_, ⟨named, rfl⟩, _, ⟨others, rfl⟩, same⟩
      exact ⟨forall_mem_cons.mpr ⟨named, others⟩, Except.ok.inj same⟩
    · rintro ⟨named, rfl⟩
      obtain ⟨first, others⟩ := forall_mem_cons.mp named
      exact ⟨_, ⟨first, rfl⟩, _, ⟨others, rfl⟩, rfl⟩

lemma checkAgentIds_eq_ok {seen : List String} : checkAgentIds seen agents = .ok result ↔
      (agents.map (·.agentId)).Nodup ∧ ∀ agent ∈ agents, agent.agentId ∉ seen := by
  induction agents generalizing seen with
  | nil => simp [checkAgentIds]
  | cons agent rest ih =>
    unfold checkAgentIds
    split_ifs with met
    · exact ⟨nofun, fun both => absurd met (both.2 agent mem_cons_self)⟩
    · rw [ih, map_cons, nodup_cons]
      constructor
      · rintro ⟨distinct, unseen⟩
        refine ⟨⟨fun same => ?_, distinct⟩, forall_mem_cons.mpr ⟨met, fun other held => ?_⟩⟩
        · obtain ⟨other, held, named⟩ := mem_map.mp same
          exact unseen other held (named ▸ mem_cons_self)
        · exact fun early => unseen other held (mem_cons_of_mem _ early)
      · rintro ⟨⟨fresh, distinct⟩, unseen⟩
        refine ⟨distinct, fun other held early => ?_⟩
        rcases mem_cons.mp early with same | early
        · exact fresh (same ▸ mem_map_of_mem held)
        · exact unseen other (mem_cons_of_mem _ held) early

/-- Two agents have one name, as names are compared. -/
def SameName (platform : ForestPlatform Rest) (first second : DelegationForestAgent Rest) : Prop :=
  normalizeAgentName platform first.agentName ≠ "" ∧
    normalizeAgentName platform first.agentName = normalizeAgentName platform second.agentName

/-- Among agents of different ids, no conflict is found exactly if no two have one name. -/
lemma findAgentNameNamespaceConflict_eq_none {seen : List (DelegationForestAgent Rest)}
    (apart : ∀ agent ∈ agents, ∀ entry ∈ seen, entry.agentId ≠ agent.agentId)
    (distinct : agents.Pairwise fun a b => a.agentId ≠ b.agentId) :
    findAgentNameNamespaceConflict platform seen agents = none ↔
      (agents.Pairwise fun a b => ¬SameName platform b a) ∧
        ∀ agent ∈ agents, ∀ entry ∈ seen, ¬SameName platform agent entry := by
  induction agents generalizing seen with
  | nil => simp [findAgentNameNamespaceConflict]
  | cons agent rest ih =>
    obtain ⟨others, distinct⟩ := pairwise_cons.mp distinct
    have apartRest : ∀ other ∈ rest, ∀ entry ∈ seen, entry.agentId ≠ other.agentId :=
      fun other held => apart other (mem_cons_of_mem _ held)
    have apartCons : ∀ other ∈ rest, ∀ entry ∈ agent :: seen, entry.agentId ≠ other.agentId :=
      fun other held => forall_mem_cons.mpr ⟨others other held, apartRest other held⟩
    have shift : (∀ other ∈ rest, ∀ entry ∈ agent :: seen, ¬SameName platform other entry) ↔
        (∀ other ∈ rest, ¬SameName platform other agent) ∧
          ∀ other ∈ rest, ∀ entry ∈ seen, ¬SameName platform other entry := by
      simp only [forall_mem_cons]
      exact ⟨fun all => ⟨fun other held => (all other held).1, fun other held => (all other held).2⟩,
        fun both other held => ⟨both.1 other held, both.2 other held⟩⟩
    simp only [findAgentNameNamespaceConflict, pairwise_cons, forall_mem_cons]
    split_ifs with blank
    · have own : ∀ entry, ¬SameName platform agent entry := fun _ same => same.1 blank
      have none : ∀ other, ¬SameName platform other agent :=
        fun other same => same.1 (same.2.trans blank)
      rw [ih apartRest distinct]
      exact ⟨fun both => ⟨⟨fun other _ => none other, both.1⟩, fun entry _ => own entry, both.2⟩,
        fun both => ⟨both.1.2, both.2.2⟩⟩
    · cases found : seen.find? fun entry => normalizeAgentName platform entry.agentName =
          normalizeAgentName platform agent.agentName with
      | some existing =>
        have held := mem_of_find?_eq_some found
        have same : normalizeAgentName platform existing.agentName =
            normalizeAgentName platform agent.agentName := by
          simpa using find?_some found
        simp only [if_pos (Or.inr (apart agent mem_cons_self existing held) :
          existing.agentType ≠ agent.agentType ∨ existing.agentId ≠ agent.agentId)]
        exact ⟨nofun, fun both => absurd ⟨blank, same.symm⟩ (both.2.1 existing held)⟩
      | none =>
        have own : ∀ entry ∈ seen, ¬SameName platform agent entry := by
          intro entry held same
          exact absurd (decide_eq_true same.2.symm) (find?_eq_none.mp found entry held)
        simp only
        rw [ih apartCons distinct, shift]
        exact ⟨fun both => ⟨⟨both.2.1, both.1⟩, own, both.2.2⟩,
          fun both => ⟨both.1.2, both.1.1, both.2.2⟩⟩

/-- Relationships that pass the loop, under the keys it compares pairs by. -/
structure PassLoop (agentIds : List String) (relationships : List AgentRelationship) : Prop where
  valid : ∀ relationship ∈ relationships, relationship.Valid
  known : ∀ relationship ∈ relationships,
    relationship.parentAgentId ∈ agentIds ∧ relationship.childAgentId ∈ agentIds
  edgeIds : (relationships.map (·.edgeId)).Nodup
  pairs : (relationships.map pairKey).Nodup
  parents : ∀ first ∈ relationships, ∀ second ∈ relationships,
    first.childAgentId = second.childAgentId → first.parentAgentId = second.parentAgentId

lemma PassLoop.of_append {first second : List AgentRelationship}
    (passes : PassLoop agentIds (first ++ second)) : PassLoop agentIds first where
  valid := fun relationship held => passes.valid relationship (mem_append_left _ held)
  known := fun relationship held => passes.known relationship (mem_append_left _ held)
  edgeIds := passes.edgeIds.sublist ((sublist_append_left first second).map _)
  pairs := passes.pairs.sublist ((sublist_append_left first second).map _)
  parents := fun a held b held' =>
    passes.parents a (mem_append_left _ held) b (mem_append_left _ held')

lemma nodup_map_concat {α β : Type} {f : α → β} {items : List α} {item : α} :
    ((items ++ [item]).map f).Nodup ↔ (items.map f).Nodup ∧ f item ∉ items.map f := by
  rw [map_append, map_singleton, ← concat_eq_append, nodup_concat]
  exact and_comm

lemma checkRelationship_eq_ok {before : List AgentRelationship}
    {relationship : AgentRelationship} (passed : PassLoop agentIds before) :
    checkRelationship agentIds before relationship = .ok () ↔
      PassLoop agentIds (before ++ [relationship]) := by
  have own : relationship ∈ before ++ [relationship] := mem_append_right _ (mem_singleton_self _)
  unfold checkRelationship
  split_ifs with issues edgeId endpoint pair
  · exact ⟨nofun, fun passes => absurd (validateAgentRelationship_eq_nil.mpr
      (passes.valid relationship own)) issues⟩
  · exact ⟨nofun, fun passes => absurd edgeId (nodup_map_concat.mp passes.edgeIds).2⟩
  · refine ⟨nofun, fun passes => ?_⟩
    obtain ⟨parent, child⟩ := passes.known relationship own
    exact endpoint.elim (fun other => absurd parent other) fun other => absurd child other
  · exact ⟨nofun, fun passes => absurd pair (nodup_map_concat.mp passes.pairs).2⟩
  · rw [not_or, not_not, not_not] at endpoint
    have valid := validateAgentRelationship_eq_nil.mp (not_not.mp issues)
    have passes (parents : ∀ other ∈ before, other.childAgentId = relationship.childAgentId →
        other.parentAgentId = relationship.parentAgentId) :
        PassLoop agentIds (before ++ [relationship]) := by
      refine ⟨?_, ?_, nodup_map_concat.mpr ⟨passed.edgeIds, edgeId⟩,
        nodup_map_concat.mpr ⟨passed.pairs, pair⟩, ?_⟩
      · rw [forall_mem_append, forall_mem_singleton]
        exact ⟨passed.valid, valid⟩
      · rw [forall_mem_append, forall_mem_singleton]
        exact ⟨passed.known, endpoint⟩
      · intro first held second held' same
        rcases mem_append.mp held with old | new <;>
          rcases mem_append.mp held' with old' | new'
        · exact passed.parents first old second old' same
        · rw [mem_singleton.mp new'] at same ⊢
          exact parents first old same
        · rw [mem_singleton.mp new] at same ⊢
          exact (parents second old' same.symm).symm
        · rw [mem_singleton.mp new, mem_singleton.mp new']
    cases found : (before.filter (·.childAgentId = relationship.childAgentId)).getLast? with
    | none =>
      have empty := getLast?_eq_none_iff.mp found
      refine ⟨fun _ => passes fun other held same => ?_, fun _ => rfl⟩
      exact absurd (mem_filter.mpr ⟨held, decide_eq_true same⟩) (empty ▸ not_mem_nil)
    | some existing =>
      obtain ⟨held, same⟩ := mem_filter.mp (mem_of_getLast? found)
      have same := of_decide_eq_true same
      have named : existing.parentAgentId ≠ "" := by
        intro blank
        exact (passed.valid existing held).parentAgentId (by rw [blank]; rfl)
      simp only
      rw [unless_eq_ok]
      constructor
      · intro fine
        have agree : existing.parentAgentId = relationship.parentAgentId :=
          not_not.mp fun other => fine ⟨named, other⟩
        exact passes fun other held' same' =>
          (passed.parents other held' existing held (same'.trans same.symm)).trans agree
      · intro all other
        exact other.2 (all.parents existing (mem_append_left _ held) relationship own same)

lemma checkRelationships_eq_ok {before rest : List AgentRelationship}
    (passed : PassLoop agentIds before) :
    checkRelationships agentIds before rest = .ok () ↔ PassLoop agentIds (before ++ rest) := by
  induction rest generalizing before with
  | nil => simp [checkRelationships, passed]
  | cons relationship rest ih =>
    have split : before ++ relationship :: rest = before ++ [relationship] ++ rest := by simp
    simp only [checkRelationships, bind_eq_ok]
    constructor
    · rintro ⟨_, turn, later⟩
      rw [split]
      exact (ih ((checkRelationship_eq_ok passed).mp turn)).mp later
    · intro passes
      rw [split] at passes
      have turn := passes.of_append
      exact ⟨(), (checkRelationship_eq_ok passed).mpr turn, (ih turn).mpr passes⟩

lemma assertNoCycles_eq_ok {active : List AgentRelationship} :
    assertNoCycles agentIds active = .ok result ↔ ¬(delegationGraph agentIds active).Cyclic := by
  rw [assertNoCycles, require_eq_ok]
  constructor
  · intro silent cyclic
    have reported := Digraph.visitAll_found (P := fun state : Bool => state = true)
      (fun _ _ _ => rfl) cyclic false
    exact Bool.noConfusion (silent.symm.trans reported)
  · exact fun acyclic => Digraph.visitAll_of_acyclic acyclic false

/-- Named agents of different ids and names, among them the root. -/
structure PassAgents (platform : ForestPlatform Rest) (rootAgentId : String)
    (agents : List (DelegationForestAgent Rest)) : Prop where
  ids : (agents.map (·.agentId)).Nodup
  root : ∃ agent ∈ agents, agent.agentId = rootAgentId ∧ agent.agentType = .knowbee
  names : agents.Pairwise fun a b => ¬SameName platform b a

lemma agentById_eq_some_iff (ids : (agents.map (·.agentId)).Nodup) {agentId : String}
    {agent : DelegationForestAgent Rest} :
    agentById agents agentId = some agent ↔ agent ∈ agents ∧ agent.agentId = agentId := by
  constructor
  · intro found
    exact ⟨mem_of_find?_eq_some found, by simpa using find?_some found⟩
  · rintro ⟨held, rfl⟩
    cases found : agentById agents agent.agentId with
    | none => exact absurd (decide_eq_true rfl) (find?_eq_none.mp found agent held)
    | some other =>
      have same : other.agentId = agent.agentId := by simpa using find?_some found
      rw [inj_on_of_nodup_map ids (mem_of_find?_eq_some found) held same]

lemma checkRootAgent_eq_ok (ids : (agents.map (·.agentId)).Nodup) :
    checkRootAgent rootAgentId agents = .ok result ↔
      ∃ agent ∈ agents, agent.agentId = rootAgentId ∧ agent.agentType = .knowbee := by
  rw [checkRootAgent, require_eq_ok]
  constructor
  · rintro ⟨agent, found, type⟩
    obtain ⟨held, named⟩ := (agentById_eq_some_iff ids).mp found
    exact ⟨agent, held, named, type⟩
  · rintro ⟨agent, held, named, type⟩
    exact ⟨agent, (agentById_eq_some_iff ids).mpr ⟨held, named⟩, type⟩

lemma checkAgentNames_eq_ok (ids : (agents.map (·.agentId)).Nodup) :
    checkAgentNames platform agents = .ok result ↔
      agents.Pairwise fun a b => ¬SameName platform b a := by
  have names : findAgentNameNamespaceConflict platform [] agents = none ↔
      (agents.Pairwise fun a b => ¬SameName platform b a) ∧
        ∀ agent ∈ agents, ∀ entry ∈ [], ¬SameName platform agent entry :=
    findAgentNameNamespaceConflict_eq_none (fun _ _ _ gone => absurd gone not_mem_nil)
      (pairwise_map.mp ids)
  unfold checkAgentNames
  cases found : findAgentNameNamespaceConflict platform [] agents with
  | some name => exact ⟨nofun, fun apart => by
      cases found.symm.trans (names.mpr ⟨apart, fun _ _ _ gone => absurd gone not_mem_nil⟩)⟩
  | none => exact ⟨fun _ => (names.mp found).1, fun _ => rfl⟩

lemma checkAgents_eq_ok :
    checkAgents platform rootAgentId agents = .ok result ↔ PassAgents platform rootAgentId agents := by
  unfold checkAgents
  simp only [bind_eq_ok, checkAgentIds_eq_ok]
  constructor
  · rintro ⟨_, ⟨ids, -⟩, _, root, names⟩
    exact ⟨ids, (checkRootAgent_eq_ok ids).mp root, (checkAgentNames_eq_ok ids).mp names⟩
  · rintro ⟨ids, root, names⟩
    exact ⟨(), ⟨ids, fun _ _ => not_mem_nil⟩, (), (checkRootAgent_eq_ok ids).mpr root,
      (checkAgentNames_eq_ok ids).mpr names⟩

structure PassForest (rootAgentId : String) (agentIds : List String)
    (active : List AgentRelationship) : Prop where
  loop : PassLoop agentIds active
  root : rootAgentId ∉ active.map (·.childAgentId)
  acyclic : ¬(delegationGraph agentIds active).Cyclic

lemma checkForest_eq_ok {active : List AgentRelationship} :
    checkForest rootAgentId agentIds active = .ok result ↔ PassForest rootAgentId agentIds active := by
  have start : PassLoop agentIds [] := ⟨forall_mem_nil _, forall_mem_nil _, nodup_nil, nodup_nil, forall_mem_nil _⟩
  unfold checkForest
  simp only [bind_eq_ok, require_eq_ok, assertNoCycles_eq_ok]
  constructor
  · rintro ⟨_, loop, _, root, acyclic⟩
    exact ⟨(checkRelationships_eq_ok start).mp loop, root, acyclic⟩
  · rintro ⟨loop, root, acyclic⟩
    exact ⟨(), (checkRelationships_eq_ok start).mpr loop, (), root, acyclic⟩

/-- The input of a snapshot that passes all checks. -/
structure PassSnapshot (platform : ForestPlatform Rest) (rootAgentId : String)
    (agents : List (DelegationForestAgent Rest)) (relationships : List AgentRelationship) :
    Prop where
  root : jsTrim rootAgentId ≠ ""
  nonempty : agents ≠ []
  named : ∀ agent ∈ agents, Named agent
  known : PassAgents platform (jsTrim rootAgentId) (agents.map normalizedAgent)
  forest : PassForest (jsTrim rootAgentId) ((agents.map normalizedAgent).map (·.agentId))
    (activeOnly relationships)

lemma validateDelegationForestSnapshot_eq_ok {relationships : List AgentRelationship}
    {snapshot : DelegationForestSnapshot Rest} :
    validateDelegationForestSnapshot platform rootAgentId agents relationships = .ok snapshot ↔
      PassSnapshot platform rootAgentId agents relationships ∧
        forestSnapshot platform (jsTrim rootAgentId) (agents.map normalizedAgent)
          (activeOnly relationships) = snapshot := by
  unfold validateDelegationForestSnapshot
  simp only [bind_eq_ok, require_eq_ok, requireText_eq_ok, forestAgents_eq_ok, checkAgents_eq_ok,
    checkForest_eq_ok]
  constructor
  · rintro ⟨_, ⟨root, rfl⟩, _, nonempty, _, ⟨named, rfl⟩, _, known, _, forest, same⟩
    exact ⟨⟨root, nonempty, named, known, forest⟩, Except.ok.inj same⟩
  · rintro ⟨passes, rfl⟩
    exact ⟨_, ⟨passes.root, rfl⟩, (), passes.nonempty, _, ⟨passes.named, rfl⟩, (), passes.known, (),
      passes.forest, rfl⟩

end

end Knowbee.Delegation
