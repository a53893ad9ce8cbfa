import Knowbee.Orchestration.Workflow
import Knowbee.Policy.Capability
import Knowbee.SubSession.Waves

/-!
# The orchestration planner

`planner.ts`: the candidates of a registry with their scores, and the plan that is built from a
decision.
-/

namespace Knowbee.Orchestration

/-! ## The registry -/

inductive AgentStatus where
  | enabled | disabled | archived | degraded
  deriving DecidableEq

def AgentStatus.text : AgentStatus → String
  | .enabled => "enabled"
  | .disabled => "disabled"
  | .archived => "archived"
  | .degraded => "degraded"

inductive Availability where
  | available | degraded | unavailable
  deriving DecidableEq

def riskText : CapabilityRiskLevel → String
  | .safe => "safe"
  | .moderate => "moderate"
  | .external => "external"
  | .sensitive => "sensitive"
  | .dangerous => "dangerous"

structure PermissionProfile where
  profileId : String
  (riskCeiling approvalRequiredFrom : CapabilityRiskLevel)

/-- The utilization by what the planner takes off a score for it. -/
structure AgentRuntimeLoad where
  (activeSubSessions maxParallelSessions utilizationPenalty : Int)
  loaded : Bool

structure AgentSkillMcpSummary where
  (enabledSkillIds enabledMcpServerIds enabledToolNames : List String)

inductive AgentSource where
  | db | config | topology
  deriving DecidableEq

/-- `AgentRegistryEntry`, by what the planner reads. -/
structure AgentRegistryEntry where
  agentId : String
  status : AgentStatus
  role : String
  (specialtyTags teamIds : List String)
  delegationEnabled : Bool
  source : AgentSource
  permissionProfile : PermissionProfile
  skillMcpSummary : AgentSkillMcpSummary
  (capabilityAvailability modelAvailability : Availability)
  currentLoad : AgentRuntimeLoad
  failurePenalty : Int
  failed : Bool

inductive TeamHealthStatus where
  | healthy | degraded | invalid
  deriving DecidableEq

structure TeamRegistryEntry where
  (teamId ownerAgentId leadAgentId : String)
  activeMemberAgentIds : List String
  coverageActiveMemberAgentIds : Option (List String)
  healthStatus : Option TeamHealthStatus

inductive MembershipStatus where
  | active | unresolved | removed
  deriving DecidableEq

structure MembershipEdge where
  (teamId agentId : String)
  status : MembershipStatus

structure AgentCapabilityIndex where
  directChildAgentIdsByParent : String → Option (List String)
  /-- Candidates with the reasons that exclude them. -/
  excludedCandidatesByParent : String → Option (List (String × List String))

structure RegistryHierarchy where
  rootAgentId : String
  directChildrenByParent : String → Option (List String)

structure OrchestrationRegistrySnapshot where
  agents : List AgentRegistryEntry
  teams : List TeamRegistryEntry
  hierarchy : Option RegistryHierarchy
  capabilityIndex : Option AgentCapabilityIndex
  membershipEdges : List MembershipEdge

/-! ## The input and the plan -/

structure OrchestrationPlannerIntent where
  (explicitAgentId explicitTeamId : Option String)
  (requiredRoles specialtyTags requiredCapabilities requiredSkillIds : List String)
  (requiredMcpServerIds requiredToolNames : List String)
  requiredRisk : Option CapabilityRiskLevel

structure ResourceLockContract extends ResourceLock where
  lockId : String

structure DependencyEdgeContract where
  (fromTaskId toTaskId reasonCode : String)

inductive OrchestrationMode where
  | singleKnowbee | orchestration
  deriving DecidableEq

/-- `OrchestrationPlannerInput`, with what its providers answer. -/
structure OrchestrationPlannerInput where
  planId : String
  timedOut : Bool
  userRequest : String
  mode : OrchestrationMode
  modeReasonCode : String
  registry : OrchestrationRegistrySnapshot
  taskScopes : List StructuredTaskScope
  intent : OrchestrationPlannerIntent
  agentExecutionDecision : Option AgentExecutionDecision
  parentAgentId : Option String
  resourceLocks : List ResourceLockContract
  resourceLocksByTaskId : String → Option (List ResourceLockContract)
  dependencyEdges : List DependencyEdgeContract
  workflowDraft : Option WorkflowAuthoringResult

inductive TaskExecutionKind where
  | directKnowbee | delegatedSubAgent

structure OrchestrationTask where
  taskId : String
  executionKind : TaskExecutionKind
  scope : StructuredTaskScope
  (assignedAgentId assignedTeamId : Option String)
  (requiredCapabilities resourceLockIds : List String)

structure ApprovalRequirement where
  (approvalId taskId agentId : String)
  risk : CapabilityRiskLevel

structure ParallelGroup where
  groupId : String
  resourceLocks : List ResourceLockContract
  concurrencyLimit : Int

structure OrchestrationPlan where
  planId : String
  (directKnowbeeTasks delegatedTasks : List OrchestrationTask)
  dependencyEdges : List DependencyEdgeContract
  resourceLocks : List ResourceLockContract
  parallelGroups : List ParallelGroup
  approvalRequirements : List ApprovalRequirement
  fallbackReasonCode : String

/-! ## Candidates -/

/-- `uniqueStrings` of `planner.ts`. -/
def uniqueSorted (values : List String) : List String := sortStrings (uniqueTrimmedStrings values)

def hasAll (haystack needles : List String) : Bool := needles.all (· ∈ haystack)

def countMatches (haystack needles : List String) : Int := (needles.filter (· ∈ haystack)).length

/-- A text that is there and not empty. -/
def truthy : Option String → Option String := Option.filter (· ≠ "")

variable (agent : AgentRegistryEntry)

def riskAllows (requiredRisk : CapabilityRiskLevel) : Bool :=
  requiredRisk.order ≤ agent.permissionProfile.riskCeiling.order

def riskNeedsApproval (requiredRisk : CapabilityRiskLevel) : Bool :=
  agent.permissionProfile.approvalRequiredFrom.order ≤ requiredRisk.order

variable (registry : OrchestrationRegistrySnapshot)

def effectiveTeamIds : List String :=
  uniqueSorted (agent.teamIds ++
    (registry.membershipEdges.filter fun edge =>
      edge.status = .active ∧ edge.agentId = agent.agentId).map (·.teamId) ++
    (registry.teams.filter fun team =>
      team.ownerAgentId = agent.agentId ∨ team.leadAgentId = agent.agentId).map (·.teamId))

variable (input : OrchestrationPlannerInput)

def plannerParentAgentId : String :=
  (input.parentAgentId.or (input.registry.hierarchy.map (·.rootAgentId))).getD "agent:knowbee"

/-- The children that bound a planning agent, if any do. -/
def directChildAgentIdsFor (parentAgentId : String) : Option (List String) :=
  match registry.capabilityIndex.bind fun index =>
      index.directChildAgentIdsByParent parentAgentId with
  | some directChildIds => some directChildIds
  | none =>
    match registry.hierarchy with
    | none => none
    | some hierarchy =>
      match hierarchy.directChildrenByParent parentAgentId with
      | some directChildIds => some directChildIds
      | none => if parentAgentId ≠ hierarchy.rootAgentId then some [] else none

def capabilityIndexExcludedReasons (parentAgentId agentId : String) : List String :=
  (((registry.capabilityIndex.bind fun index =>
    index.excludedCandidatesByParent parentAgentId).getD []).lookup agentId).getD []

def candidateAllowedByExplicitTarget (teamIds : List String) (intent : OrchestrationPlannerIntent) :
    Bool :=
  match truthy intent.explicitAgentId with
  | some explicitAgentId => agent.agentId = explicitAgentId
  | none =>
    match truthy intent.explicitTeamId with
    | some explicitTeamId => explicitTeamId ∈ teamIds
    | none => true

structure OrchestrationCandidateScore where
  agentId : String
  teamIds : List String
  score : Int
  (reasonCodes excludedReasonCodes : List String)
  approvalRisk : Option CapabilityRiskLevel

def reasonIf (condition : Bool) (reasonCode : String) : List String :=
  if condition then [reasonCode] else []

def capabilityPool : List String :=
  [agent.role] ++ agent.skillMcpSummary.enabledSkillIds ++
    agent.skillMcpSummary.enabledMcpServerIds ++ agent.skillMcpSummary.enabledToolNames ++
    [agent.permissionProfile.profileId, riskText agent.permissionProfile.riskCeiling]

def candidateExcludedReasons (intent : OrchestrationPlannerIntent) (parentAgentId : String)
    (directChildAgentIds : Option (List String)) : List String :=
  reasonIf (directChildAgentIds.any (agent.agentId ∉ ·) ∧
      intent.explicitAgentId ≠ some agent.agentId) "not_direct_child_candidate" ++
    reasonIf (!candidateAllowedByExplicitTarget agent (effectiveTeamIds agent registry) intent)
      "not_explicit_target" ++
    (if agent.status ≠ .enabled then ["agent_not_enabled", s!"agent_{agent.status.text}"] else []) ++
    reasonIf (!agent.delegationEnabled) "delegation_disabled" ++
    reasonIf (agent.currentLoad.maxParallelSessions ≤ agent.currentLoad.activeSubSessions)
      "concurrency_limit_reached" ++
    reasonIf (!hasAll [agent.role] (uniqueSorted intent.requiredRoles)) "missing_required_role" ++
    reasonIf (!hasAll agent.skillMcpSummary.enabledSkillIds (uniqueSorted intent.requiredSkillIds))
      "missing_required_skill" ++
    reasonIf (!hasAll agent.skillMcpSummary.enabledMcpServerIds
      (uniqueSorted intent.requiredMcpServerIds)) "missing_required_mcp_server" ++
    reasonIf (!hasAll agent.skillMcpSummary.enabledToolNames
      (uniqueSorted intent.requiredToolNames)) "missing_required_tool" ++
    reasonIf (!riskAllows agent (intent.requiredRisk.getD .safe)) "risk_above_agent_ceiling" ++
    reasonIf (agent.permissionProfile.profileId = "") "permission_missing" ++
    reasonIf (agent.capabilityAvailability = .unavailable) "capability_unavailable" ++
    reasonIf (agent.modelAvailability = .unavailable) "model_unavailable" ++
    (if parentAgentId = "" then []
      else capabilityIndexExcludedReasons registry parentAgentId agent.agentId) ++
    reasonIf (!hasAll (capabilityPool agent) (uniqueSorted intent.requiredCapabilities))
      "missing_required_capability"

def scoreCandidate (intent : OrchestrationPlannerIntent) (parentAgentId : String)
    (directChildAgentIds : Option (List String)) : OrchestrationCandidateScore :=
  let teamIds := effectiveTeamIds agent registry
  let requiredRisk := intent.requiredRisk.getD .safe
  let explicitAgent := intent.explicitAgentId = some agent.agentId
  let explicitTeam := (truthy intent.explicitTeamId).any (· ∈ teamIds)
  let specialtyMatches := countMatches agent.specialtyTags (uniqueSorted intent.specialtyTags)
  let roleMatches := countMatches [agent.role] (uniqueSorted intent.requiredRoles)
  let skillMatches := countMatches agent.skillMcpSummary.enabledSkillIds
    (uniqueSorted intent.requiredSkillIds)
  let mcpMatches := countMatches agent.skillMcpSummary.enabledMcpServerIds
    (uniqueSorted intent.requiredMcpServerIds)
  let toolMatches := countMatches agent.skillMcpSummary.enabledToolNames
    (uniqueSorted intent.requiredToolNames)
  let needsApproval := riskNeedsApproval agent requiredRisk && riskAllows agent requiredRisk
  let reasonCodes := reasonIf explicitAgent "explicit_agent_target" ++
    reasonIf explicitTeam "explicit_team_member" ++
    reasonIf (0 < roleMatches) "required_role_match" ++
    reasonIf (0 < specialtyMatches) "specialty_tag_match" ++
    reasonIf (0 < skillMatches) "required_skill_match" ++
    reasonIf (0 < mcpMatches) "required_mcp_match" ++
    reasonIf (0 < toolMatches) "required_tool_match" ++
    reasonIf (agent.source = .topology) "topology_executor_candidate" ++
    reasonIf needsApproval "approval_required_for_risk" ++
    reasonIf agent.currentLoad.loaded "load_penalty_applied" ++
    reasonIf agent.failed "failure_rate_penalty_applied"
  { agentId := agent.agentId
    teamIds
    score := 100 + (if explicitAgent then 1000 else 0) + (if explicitTeam then 700 else 0) +
      roleMatches * 35 + specialtyMatches * 30 + (skillMatches * 25 + mcpMatches * 20 +
      toolMatches * 15) + (if agent.source = .topology then 15 else 0) -
      agent.currentLoad.utilizationPenalty - agent.failurePenalty
    reasonCodes := uniqueSorted
      (if reasonCodes = [] then ["structured_candidate_available"] else reasonCodes)
    excludedReasonCodes := uniqueSorted
      (candidateExcludedReasons agent registry intent parentAgentId directChildAgentIds)
    approvalRisk := if needsApproval then some requiredRisk else none }

variable (localeCompare : String → String → Int)

def sortedEligibleCandidates (candidates : List OrchestrationCandidateScore) :
    List OrchestrationCandidateScore :=
  (candidates.filter fun candidate => candidate.excludedReasonCodes = []).insertionSort fun a b =>
    b.score < a.score ∨ (b.score = a.score ∧ localeCompare a.agentId b.agentId ≤ 0)

/-! ## Edges -/

def hasExclusiveLockConflict (a b : List ResourceLockContract) : Bool :=
  a.any fun left => left.mode = .exclusive ∧ b.any fun right =>
    right.mode = .exclusive ∧ right.kind = left.kind ∧ right.target = left.target

/-- The edges for the locks of tasks, from each task to those after it. -/
def lockEdges (locksOf : String → List ResourceLockContract) :
    List OrchestrationTask → List DependencyEdgeContract
  | [] => []
  | current :: rest =>
    ((rest.filter fun next =>
      hasExclusiveLockConflict (locksOf current.taskId) (locksOf next.taskId)).map fun next =>
        ⟨current.taskId, next.taskId, "exclusive_resource_lock_conflict"⟩) ++
      lockEdges locksOf rest

def workflowEdges (tasks : List OrchestrationTask)
    (dependencies : List AuthoredWorkflowDependency) : List DependencyEdgeContract :=
  dependencies.filterMap fun edge =>
    tasks[edge.fromScopeIndex]?.bind fun source =>
      tasks[edge.toScopeIndex]?.map fun target =>
        ⟨source.taskId, target.taskId, "workflow_unit_dependency"⟩

/-! ## Plans -/

def AgentExecutionRoute.text : AgentExecutionRoute → String
  | .selfSolve => "self_solve"
  | .directCurrentAgent => "direct_current_agent"
  | .delegateToChild => "delegate_to_child"
  | .returnToParent => "return_to_parent"
  | .rootKnowbeeDirect => "root_knowbee_direct"
  | .explicitProvider => "explicit_provider"
  | .explicitProviderTarget => "explicit_provider_target"
  | .boundaryFailure => "boundary_failure"
  | .knowbeeDirect => "knowbee_direct"
  | .askParent => "ask_parent"
  | .askUser => "ask_user"
  | .subAgent => "sub_agent"
  | .yeonjang => "yeonjang"

def WorkflowReasonCode.text : WorkflowReasonCode → String
  | .completionContractMissing => "completion_contract_missing"
  | .workflowUnitIdInvalid => "workflow_unit_id_invalid"
  | .dependencyMissing => "dependency_missing"
  | .dependencyCycle => "dependency_cycle"
  | .workflowUnitInvalid => "workflow_unit_invalid"
  | .workflowOutputInvalid => "workflow_output_invalid"
  | .workflowOutputIdDuplicate => "workflow_output_id_duplicate"
  | .workflowVerificationMissing => "workflow_verification_missing"

def defaultExpectedOutput : ExpectedOutputContract where
  outputId := "answer"
  description := "User-facing answer or direct execution result."
  acceptanceReasonCodes := ["user_request_satisfied"]

def buildDefaultStructuredTaskScope (userRequest : String) : StructuredTaskScope where
  goal := if jsTrim userRequest = "" then "Process the user request." else jsTrim userRequest
  intentType := "user_request"
  actionType := "general"
  constraints := []
  expectedOutputs := [defaultExpectedOutput]
  reasonCodes := ["default_structured_scope"]

def directFallbackPlan (fallbackReasonCode : String) : OrchestrationPlan where
  planId := input.planId
  directKnowbeeTasks :=
    [{ taskId := s!"{input.planId}:direct:0"
       executionKind := .directKnowbee
       scope := buildDefaultStructuredTaskScope input.userRequest
       assignedAgentId := none
       assignedTeamId := none
       requiredCapabilities := []
       resourceLockIds := [] }]
  delegatedTasks := []
  dependencyEdges := []
  resourceLocks := []
  parallelGroups := []
  approvalRequirements := []
  fallbackReasonCode

def nonExecutionPlan (fallbackReasonCode : String) : OrchestrationPlan where
  planId := input.planId
  directKnowbeeTasks := []
  delegatedTasks := []
  dependencyEdges := []
  resourceLocks := []
  parallelGroups := []
  approvalRequirements := []
  fallbackReasonCode

def selectedExecutorFromDelegatingDecision (decision : Option AgentExecutionDecision) :
    Option String :=
  decision.bind fun decision =>
    decision.selectedExecutorId.filter fun executorId =>
      jsTrim executorId ≠ "" ∧ (decision.executionRoute = .delegateToChild ∨
        decision.executionRoute = .subAgent ∨ decision.executionRoute = .yeonjang)

/-- The intent, with the executor that the decision selects as its agent. -/
def plannerIntent : OrchestrationPlannerIntent :=
  match selectedExecutorFromDelegatingDecision input.agentExecutionDecision with
  | some executorId => { input.intent with explicitAgentId := some executorId }
  | none => input.intent

def planScopes : List StructuredTaskScope :=
  match input.workflowDraft with
  | some (.ready taskScopes _) => taskScopes
  | _ =>
    if input.taskScopes ≠ [] then input.taskScopes
    else [buildDefaultStructuredTaskScope input.userRequest]

def candidateScores : List OrchestrationCandidateScore :=
  let parentAgentId := plannerParentAgentId input
  input.registry.agents.map fun agent =>
    scoreCandidate agent input.registry (plannerIntent input) parentAgentId
      (directChildAgentIdsFor input.registry parentAgentId)

def TeamRegistryEntry.activeMembers (team : TeamRegistryEntry) : List String :=
  team.coverageActiveMemberAgentIds.getD team.activeMemberAgentIds

def availableTeam (teamId : String) : Option TeamRegistryEntry :=
  (registry.teams.find? fun team => team.teamId = teamId).filter fun team =>
    team.healthStatus ≠ some .invalid ∧ team.activeMembers ≠ []

def teamTasks (teamId : String) : List OrchestrationTask :=
  (planScopes input).zipIdx.map fun item =>
    { taskId := s!"{input.planId}:team:{item.2}"
      executionKind := .delegatedSubAgent
      scope := item.1
      assignedAgentId := none
      assignedTeamId := some teamId
      requiredCapabilities := uniqueSorted (plannerIntent input).requiredCapabilities
      resourceLockIds := [] }

def teamPlan (teamId : String) : OrchestrationPlan where
  __ := input
  directKnowbeeTasks := []
  delegatedTasks := teamTasks input teamId
  parallelGroups := []
  approvalRequirements := []
  fallbackReasonCode := "delegated_team_runtime_failure_direct_current_agent"

def locksForTask (taskId : String) : List ResourceLockContract :=
  (input.resourceLocksByTaskId taskId).getD input.resourceLocks

def delegatedTaskId (index : Nat) : String :=
  s!"{input.planId}:delegated:{index}"

def delegatedTask (candidate : OrchestrationCandidateScore) (item : StructuredTaskScope × Nat) :
    OrchestrationTask :=
  let taskId := delegatedTaskId input item.2
  { taskId
    executionKind := .delegatedSubAgent
    scope := item.1
    assignedAgentId := some candidate.agentId
    assignedTeamId := truthy (plannerIntent input).explicitTeamId
    requiredCapabilities := uniqueSorted (plannerIntent input).requiredCapabilities
    resourceLockIds := (locksForTask input taskId).map (·.lockId) }

/-- The scopes with the candidates they go to in turn. -/
def assignments (eligible : List OrchestrationCandidateScore) :
    List (OrchestrationCandidateScore × StructuredTaskScope × Nat) :=
  (planScopes input).zipIdx.filterMap fun item =>
    (eligible[item.2 % eligible.length]?.or eligible.head?).map fun candidate => (candidate, item)

def approvalRequirement (assignment : OrchestrationCandidateScore × StructuredTaskScope × Nat) :
    Option ApprovalRequirement :=
  let taskId := delegatedTaskId input assignment.2.2
  assignment.1.approvalRisk.map fun risk =>
    { approvalId := s!"{taskId}:approval:{riskText risk}"
      taskId
      agentId := assignment.1.agentId
      risk }

def maxParallelSessions (registry : OrchestrationRegistrySnapshot) (agentId : String) : Int :=
  ((registry.agents.find? fun agent => agent.agentId = agentId).map
    (·.currentLoad.maxParallelSessions)).getD 1

def agentPlan (eligible : List OrchestrationCandidateScore) : OrchestrationPlan :=
  let assigned := assignments input eligible
  let delegatedTasks := assigned.map fun assignment => delegatedTask input assignment.1 assignment.2
  let dependencyEdges := input.dependencyEdges ++ lockEdges (locksForTask input) delegatedTasks ++
    match input.workflowDraft with
    | some (.ready _ dependencies) => workflowEdges delegatedTasks dependencies
    | _ => []
  { planId := input.planId
    directKnowbeeTasks := []
    delegatedTasks
    dependencyEdges
    resourceLocks := input.resourceLocks
    parallelGroups :=
      if dependencyEdges = [] ∧ 1 < delegatedTasks.length then
        [{ groupId := s!"{input.planId}:parallel:0"
           resourceLocks := input.resourceLocks
           concurrencyLimit := max 1 ((assigned.map fun assignment =>
            maxParallelSessions input.registry assignment.1.agentId).foldl min
              delegatedTasks.length) }]
      else []
    approvalRequirements := assigned.filterMap (approvalRequirement input)
    fallbackReasonCode := "delegated_executor_runtime_failure_direct_current_agent" }

/-- The plan for the agent that is named, or for nobody when it cannot be used. -/
def explicitAgentPlan (input : OrchestrationPlannerInput) (explicitAgentId : String) :
    OrchestrationPlan :=
  let visible := (directChildAgentIdsFor input.registry (plannerParentAgentId input)).all
    (explicitAgentId ∈ ·)
  match (candidateScores input).find? fun candidate => candidate.agentId = explicitAgentId with
  | none => directFallbackPlan input "explicit_agent_target_unavailable"
  | some targetScore =>
    if visible = false ∨ targetScore.excludedReasonCodes ≠ [] then
      directFallbackPlan input
        (if "risk_above_agent_ceiling" ∈ targetScore.excludedReasonCodes then
          "explicit_agent_permission_denied"
        else "explicit_agent_target_unavailable")
    else
      let eligible := sortedEligibleCandidates localeCompare (candidateScores input)
      if eligible = [] then directFallbackPlan input "explicit_target_unavailable"
      else agentPlan input eligible

/-- `buildOrchestrationPlan`.  The fast path always leads to the candidates. -/
def buildOrchestrationPlan (input : OrchestrationPlannerInput) : OrchestrationPlan :=
  match input.workflowDraft with
  | some (.rejected reasonCodes) =>
    nonExecutionPlan input ((reasonCodes.head?.map (·.text)).getD "workflow_contract_rejected")
  | _ =>
    if input.mode ≠ .orchestration then directFallbackPlan input input.modeReasonCode
    else if input.timedOut then directFallbackPlan input "planning_timeout_direct_current_agent"
    else
      match selectedExecutorFromDelegatingDecision input.agentExecutionDecision with
      | none =>
        directFallbackPlan input ((input.agentExecutionDecision.map fun decision =>
          s!"execution_decision_{decision.executionRoute.text}").getD "execution_decision_required")
      | some selectedExecutorId =>
        match truthy (plannerIntent input).explicitTeamId with
        | some teamId =>
          if (availableTeam input.registry teamId).isSome then teamPlan input teamId
          else directFallbackPlan input "explicit_team_target_unavailable"
        | none => explicitAgentPlan localeCompare input selectedExecutorId

end Knowbee.Orchestration
