import Knowbee.Broadcast.Plan
import Knowbee.Lib.Toposort

/-!
# Workflows authored from execution decisions

A decision that splits its task into units becomes a draft with a scope for each unit, in an order
of their dependencies, or is rejected with reasons.
-/

namespace Knowbee.Orchestration

structure AgentExecutionRequiredOutput where
  (id label : String)
  acceptanceCriteria : List String

structure AgentExecutionTaskUnit where
  (id title goal : String)
  dependsOnUnitIds : List String
  requiredOutputs : List AgentExecutionRequiredOutput

structure AgentExecutionTaskProfile where
  taskUnits : List AgentExecutionTaskUnit
  (successCriteria constraints : List String)

inductive AgentExecutionRoute where
  | selfSolve | directCurrentAgent | delegateToChild | returnToParent | rootKnowbeeDirect
  | explicitProvider | explicitProviderTarget | boundaryFailure | knowbeeDirect | askParent
  | askUser | subAgent | yeonjang
  deriving DecidableEq

/-- `AgentExecutionDecision`, by what the workflow and the planner read. -/
structure AgentExecutionDecision where
  domain : String
  executionRoute : AgentExecutionRoute
  selectedExecutorId : Option String
  taskProfile : AgentExecutionTaskProfile
  requiredOutputs : List AgentExecutionRequiredOutput

/-- `ExpectedOutputContract`, with the reason codes of its acceptance. -/
structure ExpectedOutputContract where
  (outputId description : String)
  acceptanceReasonCodes : List String

structure StructuredTaskScope where
  (goal intentType actionType : String)
  constraints : List String
  expectedOutputs : List ExpectedOutputContract
  reasonCodes : List String

structure AuthoredWorkflowDependency where
  (fromScopeIndex toScopeIndex : Nat)

inductive WorkflowReasonCode where
  | completionContractMissing | workflowUnitIdInvalid | dependencyMissing | dependencyCycle
  | workflowUnitInvalid | workflowOutputInvalid | workflowOutputIdDuplicate
  | workflowVerificationMissing
  deriving DecidableEq

inductive WorkflowAuthoringResult where
  | ready (taskScopes : List StructuredTaskScope) (dependencies : List AuthoredWorkflowDependency)
  | rejected (reasonCodes : List WorkflowReasonCode)

/-- `unique` of `workflow-authoring.ts`. -/
def unique (values : List String) : List String := uniqueTrimmedStrings values

def outputsFor (unitOutputs decisionOutputs : List AgentExecutionRequiredOutput)
    (successCriteria : List String) : List ExpectedOutputContract :=
  (if unitOutputs = [] then decisionOutputs else unitOutputs).map fun output =>
    { outputId := output.id
      description := output.label
      acceptanceReasonCodes :=
        unique (if output.acceptanceCriteria = [] then successCriteria
          else output.acceptanceCriteria) }

/-- One output of `validateStepOutputs`, after the ids of those before it. -/
def validateOutput (checked : List String × List WorkflowReasonCode)
    (output : ExpectedOutputContract) : List String × List WorkflowReasonCode :=
  let outputId := jsTrim output.outputId
  let reasons := checked.2 ++
    (if outputId = "" ∨ jsTrim output.description = "" then [.workflowOutputInvalid] else []) ++
    (if outputId ≠ "" ∧ outputId ∈ checked.1 then [.workflowOutputIdDuplicate] else []) ++
    (if unique output.acceptanceReasonCodes = [] then [.workflowVerificationMissing] else [])
  (if outputId = "" then checked.1 else setAdd checked.1 [outputId], reasons)

def validateStepOutputs (scopes : List StructuredTaskScope) : List WorkflowReasonCode :=
  setAdd [] (scopes.flatMap fun scope => (scope.expectedOutputs.foldl validateOutput ([], [])).2)

def topologicalOrder (nodeCount : Nat) (dependencies : List AuthoredWorkflowDependency) :
    Option (List Nat) :=
  Toposort.order nodeCount (dependencies.map fun edge => (edge.fromScopeIndex, edge.toScopeIndex))

def indexUnit (indexed : List (String × Nat) × List WorkflowReasonCode)
    (unit : AgentExecutionTaskUnit × Nat) : List (String × Nat) × List WorkflowReasonCode :=
  let id := jsTrim unit.1.id
  if id = "" ∨ (indexed.1.lookup id).isSome then
    (indexed.1, indexed.2 ++ [.workflowUnitIdInvalid])
  else (indexed.1 ++ [(id, unit.2)], indexed.2)

def indexUnits (units : List AgentExecutionTaskUnit) :
    List (String × Nat) × List WorkflowReasonCode :=
  units.zipIdx.foldl indexUnit ([], [])

def unitDependencies (indexById : List (String × Nat)) (unit : AgentExecutionTaskUnit × Nat) :
    List AuthoredWorkflowDependency :=
  (unique unit.1.dependsOnUnitIds).filterMap fun dependencyId =>
    (indexById.lookup dependencyId).map fun fromScopeIndex => ⟨fromScopeIndex, unit.2⟩

def missingDependencies (indexById : List (String × Nat)) (unit : AgentExecutionTaskUnit) :
    List WorkflowReasonCode :=
  (unique unit.dependsOnUnitIds).filterMap fun dependencyId =>
    if (indexById.lookup dependencyId).isNone then some .dependencyMissing else none

def workflowDependencies (units : List AgentExecutionTaskUnit) : List AuthoredWorkflowDependency :=
  units.zipIdx.flatMap (unitDependencies (indexUnits units).1)

def sourceTaskScope (decision : AgentExecutionDecision) (unit : AgentExecutionTaskUnit) :
    StructuredTaskScope where
  goal := jsTrim unit.goal
  intentType := decision.domain
  actionType := jsTrim unit.title
  constraints := unique decision.taskProfile.constraints
  expectedOutputs := outputsFor unit.requiredOutputs decision.requiredOutputs
    (unique decision.taskProfile.successCriteria)
  reasonCodes := ["llm_authored_workflow", s!"workflow_unit:{jsTrim unit.id}"]

def workflowReasons (decision : AgentExecutionDecision) : List WorkflowReasonCode :=
  let units := decision.taskProfile.taskUnits
  let scopes := units.map (sourceTaskScope decision)
  (if unique decision.taskProfile.successCriteria = [] then [.completionContractMissing] else []) ++
    (indexUnits units).2 ++
    units.flatMap (missingDependencies (indexUnits units).1) ++
    (if (topologicalOrder units.length (workflowDependencies units)).isNone then
      [.dependencyCycle] else []) ++
    (if scopes.any fun scope => scope.goal = "" ∨ scope.actionType = "" then
      [.workflowUnitInvalid] else []) ++
    (if scopes.any fun scope => scope.expectedOutputs = [] then
      [.completionContractMissing] else []) ++
    validateStepOutputs scopes

/-- `authorWorkflowFromExecutionDecision`.  A decision of one unit is no
workflow. -/
def authorWorkflowFromExecutionDecision (decision : Option AgentExecutionDecision) :
    Option WorkflowAuthoringResult :=
  match decision with
  | none => none
  | some decision =>
    let units := decision.taskProfile.taskUnits
    if units.length ≤ 1 then none
    else
      let reasons := workflowReasons decision
      if reasons ≠ [] then some (.rejected (setAdd [] reasons))
      else
        let dependencies := workflowDependencies units
        let stableOrder :=
          (topologicalOrder units.length dependencies).getD (List.range units.length)
        let sourceTaskScopes := units.map (sourceTaskScope decision)
        some (.ready (stableOrder.filterMap fun sourceIndex => sourceTaskScopes[sourceIndex]?)
          (dependencies.map fun edge =>
            ⟨stableOrder.idxOf edge.fromScopeIndex, stableOrder.idxOf edge.toScopeIndex⟩))

end Knowbee.Orchestration
