import Knowbee.Lib.Digits
import Knowbee.Orchestration.Planner

/-!
# Whom a plan delegates to

A plan that delegates is made for the team of the intent or for the executor
that the decision selects (`plan_cases`), and that executor is an agent of the
registry that nothing excludes (`Delegable`).
-/

namespace Knowbee.Orchestration

open List

/-! ## The branches -/

variable {localeCompare : String → String → Int} {input : OrchestrationPlannerInput}

/-- What must hold before a plan delegates anything. -/
structure Routed (input : OrchestrationPlannerInput) (executorId : String) : Prop where
  orchestrates : input.mode = .orchestration
  inTime : input.timedOut = false
  accepted : ∀ reasonCodes, input.workflowDraft ≠ some (.rejected reasonCodes)
  selected : selectedExecutorFromDelegatingDecision input.agentExecutionDecision = some executorId

/-- A plan for an agent, with what was checked about the agent. -/
structure AgentRouted (localeCompare : String → String → Int) (input : OrchestrationPlannerInput)
    (executorId : String) (targetScore : OrchestrationCandidateScore) : Prop
    extends Routed input executorId where
  teamless : truthy input.intent.explicitTeamId = none
  found : ((candidateScores input).find? fun candidate => candidate.agentId = executorId) =
    some targetScore
  visible : ∀ children,
    directChildAgentIdsFor input.registry (plannerParentAgentId input) = some children →
      executorId ∈ children
  free : targetScore.excludedReasonCodes = []
  some_eligible : sortedEligibleCandidates localeCompare (candidateScores input) ≠ []

lemma plannerIntent_explicitTeamId (input : OrchestrationPlannerInput) :
    (plannerIntent input).explicitTeamId = input.intent.explicitTeamId := by
  unfold plannerIntent
  split <;> rfl

variable {executorId : String} {registry : OrchestrationRegistrySnapshot}

lemma plannerIntent_explicitAgentId
    (selected : selectedExecutorFromDelegatingDecision input.agentExecutionDecision =
      some executorId) :
    (plannerIntent input).explicitAgentId = some executorId := by
  unfold plannerIntent
  rw [selected]

lemma explicitAgentPlan_cases (routed : Routed input executorId)
    (teamless : truthy input.intent.explicitTeamId = none) :
    (∃ reasonCode, explicitAgentPlan localeCompare input executorId =
        directFallbackPlan input reasonCode) ∨
      ∃ targetScore, AgentRouted localeCompare input executorId targetScore ∧
        explicitAgentPlan localeCompare input executorId =
          agentPlan input (sortedEligibleCandidates localeCompare (candidateScores input)) := by
  unfold explicitAgentPlan
  cases found : (candidateScores input).find? fun candidate => candidate.agentId = executorId with
  | none => exact .inl ⟨_, rfl⟩
  | some targetScore =>
    dsimp only
    by_cases refused : (directChildAgentIdsFor input.registry (plannerParentAgentId input)).all
        (executorId ∈ ·) = false ∨ targetScore.excludedReasonCodes ≠ []
    · rw [if_pos refused]
      exact .inl ⟨_, rfl⟩
    · rw [if_neg refused]
      push Not at refused
      obtain ⟨visible, free⟩ := refused
      by_cases none : sortedEligibleCandidates localeCompare (candidateScores input) = []
      · rw [if_pos none]
        exact .inl ⟨_, rfl⟩
      · rw [if_neg none]
        refine .inr ⟨targetScore, ⟨routed, teamless, found, ?_, free, none⟩, rfl⟩
        intro children listed
        rw [listed] at visible
        simpa using visible

lemma plan_cases (localeCompare : String → String → Int) (input : OrchestrationPlannerInput) :
    (buildOrchestrationPlan localeCompare input).delegatedTasks = [] ∧
        (buildOrchestrationPlan localeCompare input).dependencyEdges = [] ∨
      (∃ executorId teamId, Routed input executorId ∧
        truthy input.intent.explicitTeamId = some teamId ∧
        (availableTeam input.registry teamId).isSome = true ∧
        buildOrchestrationPlan localeCompare input = teamPlan input teamId) ∨
      ∃ executorId targetScore, AgentRouted localeCompare input executorId targetScore ∧
        buildOrchestrationPlan localeCompare input =
          agentPlan input (sortedEligibleCandidates localeCompare (candidateScores input)) := by
  unfold buildOrchestrationPlan
  split
  · exact .inl ⟨rfl, rfl⟩
  rename_i accepted
  split_ifs with mode timed
  · exact .inl ⟨rfl, rfl⟩
  · exact .inl ⟨rfl, rfl⟩
  cases selected : selectedExecutorFromDelegatingDecision input.agentExecutionDecision with
  | none => exact .inl ⟨rfl, rfl⟩
  | some executorId =>
    have routed : Routed input executorId :=
      ⟨not_not.mp mode, Bool.eq_false_iff.mpr timed, accepted, selected⟩
    dsimp only
    rw [plannerIntent_explicitTeamId]
    cases team : truthy input.intent.explicitTeamId with
    | some teamId =>
      dsimp only
      split_ifs with available
      · exact .inr (.inl ⟨executorId, teamId, routed, rfl, available, rfl⟩)
      · exact .inl ⟨rfl, rfl⟩
    | none =>
      rcases explicitAgentPlan_cases routed team with ⟨reasonCode, direct⟩ | ⟨score, agent, eq⟩
      · dsimp only
        rw [direct]
        exact .inl ⟨rfl, rfl⟩
      · exact .inr (.inr ⟨executorId, score, agent, eq⟩)

/-! ## Agents that nothing excludes -/

def Provides (provided required : List String) : Prop :=
  ∀ value ∈ required, jsTrim value ≠ "" → jsTrim value ∈ provided

/-- An agent that the intent of an input can be delegated to. -/
structure Delegable (input : OrchestrationPlannerInput) (agent : AgentRegistryEntry) : Prop where
  enabled : agent.status = .enabled
  delegation : agent.delegationEnabled = true
  belowLimit : agent.currentLoad.activeSubSessions < agent.currentLoad.maxParallelSessions
  withinRisk : (input.intent.requiredRisk.getD .safe).order ≤
    agent.permissionProfile.riskCeiling.order
  roles : Provides [agent.role] input.intent.requiredRoles
  skills : Provides agent.skillMcpSummary.enabledSkillIds input.intent.requiredSkillIds
  servers : Provides agent.skillMcpSummary.enabledMcpServerIds input.intent.requiredMcpServerIds
  tools : Provides agent.skillMcpSummary.enabledToolNames input.intent.requiredToolNames
  capabilities : Provides (capabilityPool agent) input.intent.requiredCapabilities
  permitted : agent.permissionProfile.profileId ≠ ""
  available : agent.capabilityAvailability ≠ .unavailable ∧ agent.modelAvailability ≠ .unavailable

lemma hasAll_uniqueSorted {provided required : List String} :
    hasAll provided (uniqueSorted required) = true ↔ Provides provided required := by
  simp only [hasAll, all_eq_true, decide_eq_true_eq, uniqueSorted, mem_sortStrings,
    mem_uniqueTrimmedStrings, Provides]
  constructor
  · exact fun all value mem named => all _ ⟨⟨value, mem, rfl⟩, named⟩
  · rintro all - ⟨⟨value, mem, rfl⟩, named⟩
    exact all value mem named

lemma blank_of_uniqueSorted {values : List String} (none : uniqueSorted values = []) :
    ∀ value ∈ values, jsTrim value = "" := by
  intro value mem
  by_contra named
  have listed : jsTrim value ∈ uniqueSorted values := by
    rw [uniqueSorted, mem_sortStrings, mem_uniqueTrimmedStrings]
    exact ⟨⟨value, mem, rfl⟩, named⟩
  rw [none] at listed
  exact not_mem_nil listed

lemma jsTrim_ne_of_underscore {reasonCode : String} (coded : '_' ∈ reasonCode.toList) :
    jsTrim reasonCode ≠ "" := by
  intro empty
  rw [jsTrim_eq, String.ofList_eq_empty_iff, rdropWhile_eq_nil_iff] at empty
  have split := @takeWhile_append_dropWhile _ isTrimmed reasonCode.toList
  rw [← split, mem_append] at coded
  rcases coded with front | back
  · exact absurd (mem_takeWhile_imp front) (by decide)
  · exact absurd (empty _ back) (by decide)

lemma eq_false_of_reasonIf {condition : Bool} {reasonCode : String}
    (coded : '_' ∈ reasonCode.toList)
    (blank : ∀ reason ∈ reasonIf condition reasonCode, jsTrim reason = "") : condition = false := by
  cases condition with
  | false => rfl
  | true => exact absurd (blank reasonCode mem_cons_self) (jsTrim_ne_of_underscore coded)

lemma plannerIntent_required (input : OrchestrationPlannerInput) :
    (plannerIntent input).requiredRoles = input.intent.requiredRoles ∧
      (plannerIntent input).requiredSkillIds = input.intent.requiredSkillIds ∧
      (plannerIntent input).requiredMcpServerIds = input.intent.requiredMcpServerIds ∧
      (plannerIntent input).requiredToolNames = input.intent.requiredToolNames ∧
      (plannerIntent input).requiredCapabilities = input.intent.requiredCapabilities ∧
      (plannerIntent input).requiredRisk = input.intent.requiredRisk := by
  unfold plannerIntent
  split <;> exact ⟨rfl, rfl, rfl, rfl, rfl, rfl⟩

variable {agent : AgentRegistryEntry} {parentAgentId : String} {children : Option (List String)}

lemma scoreCandidate_excludedReasonCodes (agent : AgentRegistryEntry)
    (registry : OrchestrationRegistrySnapshot) (intent : OrchestrationPlannerIntent)
    (parentAgentId : String) (children : Option (List String)) :
    (scoreCandidate agent registry intent parentAgentId children).excludedReasonCodes =
      uniqueSorted (candidateExcludedReasons agent registry intent parentAgentId children) := by
  simp [scoreCandidate]

lemma Delegable.of_free
    (free : (scoreCandidate agent input.registry (plannerIntent input) parentAgentId
      children).excludedReasonCodes = []) :
    Delegable input agent ∧ candidateAllowedByExplicitTarget agent
      (effectiveTeamIds agent input.registry) (plannerIntent input) = true := by
  rw [scoreCandidate_excludedReasonCodes] at free
  have blank := blank_of_uniqueSorted free
  simp only [candidateExcludedReasons, forall_mem_append] at blank
  obtain ⟨⟨⟨⟨⟨⟨⟨⟨⟨⟨⟨⟨⟨⟨-, target⟩, status⟩, delegation⟩, load⟩, role⟩, skill⟩, server⟩, tool⟩, risk⟩,
    profile⟩, capability⟩, model⟩, -⟩, pool⟩ := blank
  obtain ⟨roles, skills, servers, tools, capabilities, risks⟩ := plannerIntent_required input
  have off := @eq_false_of_reasonIf
  have target := off (by simp) target
  have delegation := off (by simp) delegation
  have load := off (by simp) load
  have role := off (by simp) role
  have skill := off (by simp) skill
  have server := off (by simp) server
  have tool := off (by simp) tool
  have risk := off (by simp) risk
  have profile := off (by simp) profile
  have capability := off (by simp) capability
  have model := off (by simp) model
  have pool := off (by simp) pool
  rw [Bool.not_eq_false', hasAll_uniqueSorted] at role skill server tool pool
  rw [Bool.not_eq_false'] at target delegation risk
  rw [decide_eq_false_iff_not] at load profile capability model
  rw [risks] at risk
  refine ⟨{
    enabled := ?_
    delegation
    belowLimit := not_le.mp load
    withinRisk := of_decide_eq_true risk
    roles := roles ▸ role
    skills := skills ▸ skill
    servers := servers ▸ server
    tools := tools ▸ tool
    capabilities := capabilities ▸ pool
    permitted := profile
    available := ⟨capability, model⟩ }, target⟩
  by_contra other
  rw [if_pos other] at status
  exact absurd (status "agent_not_enabled" mem_cons_self)
    (jsTrim_ne_of_underscore (by simp))

lemma scoreCandidate_agentId (agent : AgentRegistryEntry)
    (registry : OrchestrationRegistrySnapshot) (intent : OrchestrationPlannerIntent)
    (parentAgentId : String) (children : Option (List String)) :
    (scoreCandidate agent registry intent parentAgentId children).agentId = agent.agentId := by
  simp [scoreCandidate]

lemma mem_sortedEligibleCandidates {candidates : List OrchestrationCandidateScore}
    {candidate : OrchestrationCandidateScore} :
    candidate ∈ sortedEligibleCandidates localeCompare candidates ↔
      candidate ∈ candidates ∧ candidate.excludedReasonCodes = [] := by
  rw [sortedEligibleCandidates, mem_insertionSort, mem_filter, decide_eq_true_eq]

lemma agentId_of_eligible {candidate : OrchestrationCandidateScore}
    (routed : Routed input executorId)
    (eligible : candidate ∈ sortedEligibleCandidates localeCompare (candidateScores input)) :
    candidate.agentId = executorId := by
  obtain ⟨mem, free⟩ := mem_sortedEligibleCandidates.mp eligible
  obtain ⟨agent, -, rfl⟩ := mem_map.mp mem
  have allowed := (Delegable.of_free free).2
  have explicit := plannerIntent_explicitAgentId routed.selected
  have named : executorId ≠ "" := by
    rintro rfl
    have selected := routed.selected
    simp only [selectedExecutorFromDelegatingDecision, Option.bind_eq_some_iff,
      Option.filter_eq_some_iff, decide_eq_true_eq] at selected
    obtain ⟨decision, -, -, nonblank, -⟩ := selected
    exact nonblank (by decide)
  have there : truthy (some executorId) = some executorId := by
    simp [truthy, named]
  rw [candidateAllowedByExplicitTarget, explicit, there] at allowed
  rw [scoreCandidate_agentId]
  exact of_decide_eq_true allowed

/-! ## The tasks -/

section Assignments

variable {eligible : List OrchestrationCandidateScore}

lemma mem_assignments {assignment : OrchestrationCandidateScore × StructuredTaskScope × Nat}
    (mem : assignment ∈ assignments input eligible) : assignment.1 ∈ eligible := by
  simp only [assignments, mem_filterMap, Option.map_eq_some_iff, Option.or_eq_some_iff] at mem
  obtain ⟨item, -, candidate, (found | ⟨-, found⟩), rfl⟩ := mem
  · exact mem_of_getElem? found
  · exact mem_of_mem_head? found

lemma map_snd_assignments (somebody : eligible ≠ []) :
    (assignments input eligible).map (·.2) = (planScopes input).zipIdx := by
  rw [assignments, map_filterMap]
  have whole : ∀ item ∈ (planScopes input).zipIdx,
      ((eligible[item.2 % eligible.length]?.or eligible.head?).map fun candidate =>
        (candidate, item)).map (·.2) = some item := by
    intro item _
    have inside : item.2 % eligible.length < eligible.length :=
      Nat.mod_lt _ (length_pos_iff.mpr somebody)
    rw [getElem?_eq_getElem inside]
    rfl
  rw [filterMap_congr whole, filterMap_some]

lemma agentPlan_scopes (somebody : eligible ≠ []) :
    (agentPlan input eligible).delegatedTasks.map (·.scope) = planScopes input := by
  have items := congrArg (List.map Prod.fst) (@map_snd_assignments input eligible somebody)
  rw [zipIdx_map_fst, map_map] at items
  simp only [agentPlan, map_map]
  exact items

lemma agentPlan_taskIds (somebody : eligible ≠ []) :
    (agentPlan input eligible).delegatedTasks.map (·.taskId) =
      (List.range (planScopes input).length).map (delegatedTaskId input) := by
  have items := congrArg (List.map fun item => delegatedTaskId input item.2)
    (@map_snd_assignments input eligible somebody)
  rw [map_map] at items
  simp only [agentPlan, map_map]
  refine items.trans ?_
  rw [range_eq_range', ← zipIdx_map_snd 0 (planScopes input), map_map]
  rfl

end Assignments

lemma teamPlan_scopes (teamId : String) :
    (teamPlan input teamId).delegatedTasks.map (·.scope) = planScopes input := by
  simp only [teamPlan, teamTasks, map_map]
  exact zipIdx_map_fst 0 (planScopes input)

/-! ## Whom a plan is for -/

def DelegatesTo (decision : Option AgentExecutionDecision) (executorId : String) : Prop :=
  ∃ made, decision = some made ∧ made.selectedExecutorId = some executorId ∧
    jsTrim executorId ≠ "" ∧ (made.executionRoute = .delegateToChild ∨
      made.executionRoute = .subAgent ∨ made.executionRoute = .yeonjang)

lemma selectedExecutor_eq_some {decision : Option AgentExecutionDecision} :
    selectedExecutorFromDelegatingDecision decision = some executorId ↔
      DelegatesTo decision executorId := by
  simp [selectedExecutorFromDelegatingDecision, Option.bind_eq_some_iff, Option.filter_eq_some_iff,
    decide_eq_true_eq, DelegatesTo]

def listedChildren (registry : OrchestrationRegistrySnapshot) (parentAgentId : String) :
    Option (List String) :=
  (registry.capabilityIndex.bind fun index =>
    index.directChildAgentIdsByParent parentAgentId).or
    (registry.hierarchy.bind fun hierarchy => hierarchy.directChildrenByParent parentAgentId)

structure Delegate (input : OrchestrationPlannerInput) (executorId : String)
    (agent : AgentRegistryEntry) : Prop extends Delegable input agent where
  registered : input.registry.agents.find? (·.agentId = executorId) = some agent
  child : ∀ children, listedChildren input.registry (plannerParentAgentId input) = some children →
    executorId ∈ children
  bounded : ∀ hierarchy, input.registry.hierarchy = some hierarchy →
    plannerParentAgentId input ≠ hierarchy.rootAgentId →
      (listedChildren input.registry (plannerParentAgentId input)).isSome = true

def TeamAvailable (registry : OrchestrationRegistrySnapshot) (teamId : String) : Prop :=
  ∃ team ∈ registry.teams, team.teamId = teamId ∧ team.healthStatus ≠ some .invalid ∧
    team.activeMembers ≠ []

lemma directChildAgentIdsFor_of_listed {parentAgentId : String} {children : List String}
    (listed : listedChildren registry parentAgentId = some children) :
    directChildAgentIdsFor registry parentAgentId = some children := by
  unfold listedChildren at listed
  unfold directChildAgentIdsFor
  cases index : registry.capabilityIndex.bind fun index =>
      index.directChildAgentIdsByParent parentAgentId with
  | some indexed =>
    rw [index, Option.some_or] at listed
    exact listed
  | none =>
    rw [index, Option.none_or] at listed
    obtain ⟨hierarchy, present, there⟩ := Option.bind_eq_some_iff.mp listed
    rw [present]
    dsimp only
    rw [there]

lemma directChildAgentIdsFor_of_unlisted {parentAgentId : String}
    {hierarchy : RegistryHierarchy} (unlisted : listedChildren registry parentAgentId = none)
    (present : registry.hierarchy = some hierarchy)
    (below : parentAgentId ≠ hierarchy.rootAgentId) :
    directChildAgentIdsFor registry parentAgentId = some [] := by
  obtain ⟨index, there⟩ := Option.or_eq_none_iff.mp unlisted
  rw [present, Option.bind_some] at there
  unfold directChildAgentIdsFor
  rw [index, present]
  dsimp only
  rw [there]
  exact if_pos below

lemma AgentRouted.delegate {targetScore : OrchestrationCandidateScore}
    (routed : AgentRouted localeCompare input executorId targetScore) :
    ∃ agent, Delegate input executorId agent := by
  have found := routed.found
  rw [candidateScores, find?_map, Option.map_eq_some_iff] at found
  obtain ⟨agent, registered, rfl⟩ := found
  have free := Delegable.of_free routed.free
  refine ⟨agent, free.1, ?_, fun children listed => ?_, fun hierarchy present below => ?_⟩
  · rw [← registered]
    congr 1
  · exact routed.visible children (directChildAgentIdsFor_of_listed listed)
  · by_contra unlisted
    rw [Option.not_isSome_iff_eq_none] at unlisted
    have none := directChildAgentIdsFor_of_unlisted unlisted present below
    exact not_mem_nil (routed.visible [] none)

lemma TeamAvailable.of_isSome {teamId : String}
    (available : (availableTeam registry teamId).isSome = true) :
    TeamAvailable registry teamId := by
  obtain ⟨team, found⟩ := Option.isSome_iff_exists.mp available
  obtain ⟨first, usable⟩ := Option.filter_eq_some_iff.mp found
  have named := find?_some first
  simp only [decide_eq_true_eq] at named usable
  exact ⟨team, mem_of_find?_eq_some first, named, usable⟩

/-- **A plan delegates only as its decision says**: each scope in order to the
selected executor, which is a delegate, or to the team of the intent; without a
decision that delegates, nothing. -/
theorem delegatedTasks_sound (localeCompare : String → String → Int)
    (input : OrchestrationPlannerInput)
    (delegates : (buildOrchestrationPlan localeCompare input).delegatedTasks ≠ []) :
    (buildOrchestrationPlan localeCompare input).delegatedTasks.map (·.scope) = planScopes input ∧
      ∃ executorId, DelegatesTo input.agentExecutionDecision executorId ∧
        match truthy input.intent.explicitTeamId with
        | some teamId => TeamAvailable input.registry teamId ∧
          ∀ task ∈ (buildOrchestrationPlan localeCompare input).delegatedTasks,
            task.assignedAgentId = none ∧ task.assignedTeamId = some teamId
        | none => (∃ agent, Delegate input executorId agent) ∧
          ∀ task ∈ (buildOrchestrationPlan localeCompare input).delegatedTasks,
            task.assignedAgentId = some executorId ∧ task.assignedTeamId = none := by
  rcases plan_cases localeCompare input with
    ⟨none, -⟩ | ⟨executorId, teamId, routed, team, available, eq⟩ | ⟨executorId, score, routed, eq⟩
  · exact absurd none delegates
  · rw [eq, team]
    refine ⟨teamPlan_scopes teamId, executorId, selectedExecutor_eq_some.mp routed.selected,
      .of_isSome available, fun task mem => ?_⟩
    obtain ⟨item, -, rfl⟩ := mem_map.mp mem
    exact ⟨rfl, rfl⟩
  · rw [eq, routed.teamless]
    refine ⟨agentPlan_scopes routed.some_eligible, executorId,
      selectedExecutor_eq_some.mp routed.selected, routed.delegate, fun task mem => ?_⟩
    obtain ⟨assignment, assigned, rfl⟩ := mem_map.mp mem
    have same := agentId_of_eligible routed.toRouted (mem_assignments assigned)
    refine ⟨congrArg some same, ?_⟩
    rw [delegatedTask]
    dsimp only
    rw [plannerIntent_explicitTeamId, routed.teamless]

/-! ## A team beside a selected executor -/

def soleAgent : AgentRegistryEntry where
  agentId := "agent:a"
  status := .enabled
  role := "worker"
  specialtyTags := []
  teamIds := ["team:t"]
  delegationEnabled := true
  source := .db
  permissionProfile := ⟨"profile", .moderate, .dangerous⟩
  skillMcpSummary := ⟨[], [], []⟩
  capabilityAvailability := .available
  modelAvailability := .available
  currentLoad := ⟨0, 2, 0, false⟩
  failurePenalty := 0
  failed := false

def soleRegistry : OrchestrationRegistrySnapshot where
  agents := [soleAgent]
  teams := [⟨"team:t", "agent:o", "agent:o", ["agent:a"], none, none⟩]
  hierarchy := none
  capabilityIndex := none
  membershipEdges := []

def soleUnit (id : String) (dependsOnUnitIds : List String) : AgentExecutionTaskUnit :=
  ⟨id, "t", "g", dependsOnUnitIds, [⟨"o", "o", ["c"]⟩]⟩

def soleDecision (taskUnits : List AgentExecutionTaskUnit) : AgentExecutionDecision where
  domain := "d"
  executionRoute := .delegateToChild
  selectedExecutorId := some "agent:a"
  taskProfile := ⟨taskUnits, ["c"], []⟩
  requiredOutputs := []

def soleInput (explicitTeamId : Option String) (decision : AgentExecutionDecision) :
    OrchestrationPlannerInput where
  planId := "plan"
  timedOut := false
  userRequest := "r"
  mode := .orchestration
  modeReasonCode := "mode"
  registry := soleRegistry
  taskScopes := []
  intent := ⟨none, explicitTeamId, [], [], [], [], [], [], none⟩
  agentExecutionDecision := some decision
  parentAgentId := none
  resourceLocks := []
  resourceLocksByTaskId := fun _ => none
  dependencyEdges := []
  workflowDraft := authorWorkflowFromExecutionDecision (some decision)

/-- With a team in the intent, the task goes to the team and to no agent. -/
theorem teamTask_counterexample :
    DelegatesTo (soleInput (some "team:t") (soleDecision [])).agentExecutionDecision "agent:a" ∧
      (buildOrchestrationPlan (fun _ _ => 0)
          (soleInput (some "team:t") (soleDecision []))).delegatedTasks.map (·.assignedAgentId) =
        [none] := by
  refine ⟨⟨_, rfl, rfl, by decide, .inl rfl⟩, by decide⟩

theorem delegatedTasks_sole :
    (buildOrchestrationPlan (fun _ _ => 0)
        (soleInput none (soleDecision []))).delegatedTasks.map (·.scope) =
      planScopes (soleInput none (soleDecision [])) :=
  (delegatedTasks_sound (fun _ _ => 0) (soleInput none (soleDecision [])) (by decide)).1

end Knowbee.Orchestration
