import Knowbee.Lib.Traced
import Knowbee.TopologyRuntime.Checks

/-!
# Dispatch of children and tools

`child-dispatcher.ts`, `tool-planner.ts` and `tool-dispatcher.ts`: what the handlers of a runtime
answer, and how their answers become results.
-/

namespace Knowbee.TopologyRuntime

open Knowbee.Topology

/-! ## Results -/

inductive NodeResultStatus where
  | completed | partialSuccess | failedCandidate | permissionLimited | needsRevision | failed
  deriving DecidableEq

inductive OutputStatus where
  | satisfied | partly | missing
  deriving DecidableEq

def OutputStatus.text : OutputStatus → String
  | .satisfied => "satisfied"
  | .partly => "partial"
  | .missing => "missing"

structure NodeResultOutput where
  outputId : String
  status : OutputStatus
  value : Option MetadataValue

variable (snapshot : RuntimeSnapshot) (nodeContractSnapshot : NodeContract)
  (workOrder : WorkOrder) (outputs : List NodeResultOutput)

/-- The output of an id in a `Map` of the outputs: the last one. -/
def outputById (outputId : String) : Option NodeResultOutput :=
  outputs.reverse.find? (·.outputId = outputId)

def isSatisfied (outputId : String) : Bool :=
  match outputById outputs outputId with
  | none => false
  | some output => output.status = .satisfied

structure NodeResultReport where
  (nodeId workOrderId : String)
  status : NodeResultStatus
  outputs : List NodeResultOutput
  (unmetSuccessCriteriaIds risksOrGaps : List String)
  partialResult : Option Metadata
  failureReportId : Option String

def unmetSuccessCriteriaIdsForOutputs : List String :=
  ((workOrder.successCriteria.filter (·.required)).filter fun criterion =>
    !isSatisfied outputs criterion.criterionId).map (·.criterionId)

inductive NodeRuntimeState where
  | created | workOrderReceived | analyzing | planning | permissionChecking | selfExecuting
  | childDelegating | toolExecuting | validating | reporting | completed | partialSuccess
  | failedCandidate | exhaustionChecking | failed
  deriving DecidableEq

/-- What a run does, in order. -/
inductive RuntimeEvent where
  | state (state : NodeRuntimeState)
  | permissionChecked (allowed : Bool)
  | authorityChecked (allowed : Bool)
  | selfExecuted
  | childRun (workOrderId : String)
  | toolRun (toolId : String)

def RuntimeEvent.acts : RuntimeEvent → Bool
  | .selfExecuted => true
  | .childRun _ => true
  | .toolRun _ => true
  | _ => false

abbrev RuntimeRun : Type → Type := Traced RuntimeEvent

/-! ## Children -/

inductive ChildDispatchStatus where
  | completed | partialSuccess | failedCandidate | permissionLimited

structure ChildRuntimeRunnerResult where
  status : NodeResultStatus
  nodeResultReport : Option NodeResultReport
  risksOrGaps : Option (List String)

structure ChildDispatchResult where
  (childNodeId childWorkOrderId : String)
  workOrder : WorkOrder
  status : ChildDispatchStatus
  failureCandidate : Bool
  reasonCodes : List String
  nodeResultReport : Option NodeResultReport
  risksOrGaps : List String

inductive ChildDispatchSummaryStatus where
  | dispatched | partly | blocked | skipped
  deriving DecidableEq

structure ChildDispatchSummary where
  status : ChildDispatchSummaryStatus
  plan : DelegationPlan
  results : List ChildDispatchResult
  reasonCodes : List String

def ChildDispatchSummary.failureCandidateResults (summary : ChildDispatchSummary) :
    List ChildDispatchResult :=
  summary.results.filter (·.failureCandidate)

structure WorkOrderRuntimeBridgeIssue where
  code : String
  reasonCode : Option String

def isTopologyChildFailureStatus : NodeResultStatus → Bool
  | .failed => true
  | .failedCandidate => true
  | .permissionLimited => true
  | _ => false

def normalizeChildDispatchStatus : NodeResultStatus → ChildDispatchStatus
  | .completed => .completed
  | .partialSuccess => .partialSuccess
  | .permissionLimited => .permissionLimited
  | _ => .failedCandidate

/-- What the dispatch of children asks: the envelope of a child's order or what is wrong
with it, and the answer of the child's runtime, or nothing where it throws. -/
structure ChildHandlers where
  createEnvelope : Nat → WorkOrder → NodeContract →
    Except (List WorkOrderRuntimeBridgeIssue) WorkOrderRuntimeEnvelope
  childRunner : Nat → PlannedChildWorkOrder → WorkOrderRuntimeEnvelope →
    Option ChildRuntimeRunnerResult

def undispatched (planItem : PlannedChildWorkOrder) (reasonCodes risksOrGaps : List String) :
    ChildDispatchResult where
  childNodeId := planItem.childNodeId
  childWorkOrderId := planItem.workOrder.workOrderId
  workOrder := planItem.workOrder
  status := .failedCandidate
  failureCandidate := true
  reasonCodes
  nodeResultReport := none
  risksOrGaps

def childDispatchResult (planItem : PlannedChildWorkOrder)
    (childResult : ChildRuntimeRunnerResult) : ChildDispatchResult :=
  let failureCandidate := isTopologyChildFailureStatus childResult.status
  { childNodeId := planItem.childNodeId
    childWorkOrderId := planItem.workOrder.workOrderId
    workOrder := planItem.workOrder
    status := normalizeChildDispatchStatus childResult.status
    failureCandidate
    reasonCodes := planItem.reasonCodes ++
      [if failureCandidate then "child_result_failure_candidate" else "child_result_completed"]
    nodeResultReport := childResult.nodeResultReport
    risksOrGaps := (childResult.risksOrGaps.or
      (childResult.nodeResultReport.map (·.risksOrGaps))).getD [] }

/-- A turn of the loop of `dispatchChildWorkOrders`. -/
def dispatchChild (handlers : ChildHandlers)
    (childNodeContractsById : String → Option NodeContract) (count : Nat)
    (planItem : PlannedChildWorkOrder) : RuntimeRun ChildDispatchResult :=
  match childNodeContractsById planItem.childNodeId with
  | none => pure (undispatched planItem ["child_node_contract_missing"]
      ["child_node_contract_missing:" ++ planItem.childNodeId])
  | some contract =>
    match handlers.createEnvelope count planItem.workOrder contract with
    | .error issues => pure (undispatched planItem
        (issues.map fun issue => issue.reasonCode.getD issue.code)
        (issues.map fun issue => issue.code ++ ":" ++ issue.reasonCode.getD "unknown"))
    | .ok envelope => do
      Traced.tell (.childRun planItem.workOrder.workOrderId)
      let childResult ← Traced.ofOption (handlers.childRunner count planItem envelope)
      pure (childDispatchResult planItem childResult)

def dispatchChildren (handlers : ChildHandlers)
    (childNodeContractsById : String → Option NodeContract) :
    Nat → List PlannedChildWorkOrder → RuntimeRun (List ChildDispatchResult)
  | _, [] => pure []
  | count, planItem :: rest => do
    let result ← dispatchChild handlers childNodeContractsById count planItem
    let results ← dispatchChildren handlers childNodeContractsById (count + 1) rest
    pure (result :: results)

def childDispatchSummary (plan : DelegationPlan) (results : List ChildDispatchResult) :
    ChildDispatchSummary :=
  let failed := results.any (·.failureCandidate)
  { status := if failed then .partly else .dispatched
    plan
    results
    reasonCodes := plan.reasonCodes ++
      [if failed then "child_dispatch_partial" else "child_dispatch_completed"] }

def dispatchPlannedChildren (handlers : ChildHandlers)
    (childNodeContractsById : String → Option NodeContract) (plan : DelegationPlan) :
    RuntimeRun ChildDispatchSummary :=
  if plan.childWorkOrders.length = 0 then
    pure ⟨if plan.status = .skipped then .skipped else .blocked, plan, [], plan.reasonCodes⟩
  else do
    let results ← dispatchChildren handlers childNodeContractsById 0 plan.childWorkOrders
    pure (childDispatchSummary plan results)

/-! ## Plans of tools -/

structure NodeToolRequest where
  toolId : String
  input : Option Metadata
  timeoutMs : Option JsNumber

inductive NodeToolPlanIssueCode where
  | toolNotFound | enterpriseSystemNotExecutableTool | toolPermissionDenied
  | backingSystemPermissionDenied | toolApprovalRequired | toolApprovalDenied

def NodeToolPlanIssueCode.text : NodeToolPlanIssueCode → String
  | .toolNotFound => "tool_not_found"
  | .enterpriseSystemNotExecutableTool => "enterprise_system_not_executable_tool"
  | .toolPermissionDenied => "tool_permission_denied"
  | .backingSystemPermissionDenied => "backing_system_permission_denied"
  | .toolApprovalRequired => "tool_approval_required"
  | .toolApprovalDenied => "tool_approval_denied"

def NodeToolPlanIssueCode.message : NodeToolPlanIssueCode → String
  | .toolNotFound => "Requested tool is not present in compiled topology snapshot."
  | .enterpriseSystemNotExecutableTool => "EnterpriseSystem is not executable as a Tool."
  | .toolPermissionDenied =>
    "Requested tool is outside compiled node scope or WorkOrder permission scope."
  | .backingSystemPermissionDenied =>
    "Requested tool's backing EnterpriseSystem is outside WorkOrder permission scope."
  | .toolApprovalRequired => "Requested write or external tool requires explicit approval."
  | .toolApprovalDenied => "Requested tool execution approval was denied."

structure NodeToolPlanIssue where
  code : NodeToolPlanIssueCode
  toolId : String
  systemId : Option String

inductive ApprovalDecision where
  | approved
  | denied

inductive NodeToolApprovalStatus where
  | notRequired | approved | denied | missing
  deriving DecidableEq

structure PlannedNodeToolCall where
  (toolId dispatcherToolName : String)
  tool : EnterpriseTool
  input : Metadata
  timeoutMs : Option JsNumber
  approvalStatus : NodeToolApprovalStatus
  fallbackNodeIds : List String

inductive NodeToolPlanStatus where
  | planned | partly | blocked | skipped
  deriving DecidableEq

structure NodeToolExecutionPlan where
  status : NodeToolPlanStatus
  toolCalls : List PlannedNodeToolCall
  blocked : List NodeToolPlanIssue

structure NodeAllowedToolResolution where
  (allowedToolIds allowedSystemIds : List String)

structure PlanNodeToolExecutionInput where
  toolRequests : Option (List NodeToolRequest)
  defaultTimeoutMs : Option JsNumber
  dispatcherToolNameByToolId : String → Option String
  approvalDecisionsByToolId : String → Option ApprovalDecision

def isApprovalRequiredToolType : ToolType → Bool
  | .write => true
  | .externalAction => true
  | .unknown => true
  | _ => false

def approvalStatusForTool (decision : Option ApprovalDecision) (approvalRequired : Bool) :
    NodeToolApprovalStatus :=
  if approvalRequired then
    match decision with
    | some .approved => .approved
    | some .denied => .denied
    | none => .missing
  else .notRequired

/-- `resolveAllowedNodeTools`; its `intersectStable` keeps each id once. -/
def resolveAllowedNodeTools : NodeAllowedToolResolution :=
  let toolScope := snapshot.toolScopeIndex.get? nodeContractSnapshot.id
  let effectiveToolIds := (toolScope.map (·.effectiveToolIds)).getD
    nodeContractSnapshot.allowedToolIds
  let effectiveSystemIds := (toolScope.map (·.effectiveSystemIds)).getD
    nodeContractSnapshot.allowedSystemIds
  { allowedToolIds := setAdd [] (workOrder.permissionScope.allowedToolIds.filter
      (· ∈ effectiveToolIds))
    allowedSystemIds := setAdd [] (workOrder.permissionScope.allowedSystemIds.filter
      (· ∈ effectiveSystemIds)) }

/-- A turn of the loop over the requested tools. -/
def planToolCall (input : PlanNodeToolExecutionInput) (allowed : NodeAllowedToolResolution)
    (request : NodeToolRequest) : Except NodeToolPlanIssue PlannedNodeToolCall :=
  match snapshot.toolIndex.get? request.toolId with
  | none =>
    .error ⟨if (snapshot.systemIndex.get? request.toolId).isSome then
      .enterpriseSystemNotExecutableTool else .toolNotFound, request.toolId, none⟩
  | some tool =>
    if request.toolId ∉ allowed.allowedToolIds then
      .error ⟨.toolPermissionDenied, request.toolId, tool.systemId⟩
    else if tool.systemId.any (· ∉ allowed.allowedSystemIds) then
      .error ⟨.backingSystemPermissionDenied, request.toolId, tool.systemId⟩
    else
      let approvalStatus := approvalStatusForTool
        (input.approvalDecisionsByToolId request.toolId)
        (isApprovalRequiredToolType tool.toolType)
      if approvalStatus = .denied then .error ⟨.toolApprovalDenied, request.toolId, tool.systemId⟩
      else if approvalStatus = .missing then
        .error ⟨.toolApprovalRequired, request.toolId, tool.systemId⟩
      else .ok
        { toolId := request.toolId
          dispatcherToolName :=
            (input.dispatcherToolNameByToolId request.toolId).getD request.toolId
          tool
          input := request.input.getD workOrder.input
          timeoutMs := request.timeoutMs.or input.defaultTimeoutMs
          approvalStatus
          fallbackNodeIds := (nodeContractSnapshot.failurePolicy.map (·.fallbackNodeIds)).getD [] }

def planToolCalls (planCall : NodeToolRequest → Except NodeToolPlanIssue PlannedNodeToolCall)
    (requested : List NodeToolRequest) : List PlannedNodeToolCall × List NodeToolPlanIssue :=
  (requested.filterMap fun request => (planCall request).toOption,
    requested.filterMap fun request =>
      match planCall request with
      | .error issue => some issue
      | .ok _ => none)

def planNodeToolExecution (input : PlanNodeToolExecutionInput) : NodeToolExecutionPlan :=
  let allowed := resolveAllowedNodeTools snapshot nodeContractSnapshot workOrder
  let requested := input.toolRequests.getD
    (allowed.allowedToolIds.map fun toolId => ⟨toolId, none, none⟩)
  let (toolCalls, blocked) := planToolCalls
    (planToolCall snapshot nodeContractSnapshot workOrder input allowed) requested
  { status :=
      if toolCalls.length > 0 ∧ blocked.length > 0 then .partly
      else if toolCalls.length > 0 then .planned
      else if blocked.length > 0 then .blocked
      else .skipped
    toolCalls
    blocked }

/-! ## Dispatch of tools -/

inductive NodeToolExecutionStatus where
  | succeeded | denied | timeout | executionError
  deriving DecidableEq

def NodeToolExecutionStatus.text : NodeToolExecutionStatus → String
  | .succeeded => "succeeded"
  | .denied => "denied"
  | .timeout => "timeout"
  | .executionError => "execution_error"

structure ToolResult where
  success : Bool
  output : Option MetadataValue
  error : Option String

/-- How one call of the dispatcher ends; a rejection carries the message of an error. -/
inductive ToolExecution where
  | timedOut
  | thrown (message : Option String)
  | result (result : ToolResult)

structure NormalizedNodeToolResult where
  (toolId dispatcherToolName : String)
  status : NodeToolExecutionStatus
  reasonCode : String
  output : Option MetadataValue
  error : Option String
  (retryPossible fallbackPossible failureCandidate : Bool)

inductive NodeToolSummaryStatus where
  | completed | partly | failedCandidate | skipped

structure NodeToolExecutionSummary where
  status : NodeToolSummaryStatus
  plan : NodeToolExecutionPlan
  results : List NormalizedNodeToolResult

def NodeToolExecutionSummary.failureCandidateResults (summary : NodeToolExecutionSummary) :
    List NormalizedNodeToolResult :=
  summary.results.filter (·.failureCandidate)

/-- The dispatcher, or nothing where the call itself throws; and the texts that are read off
a result's error. -/
structure ToolHandlers where
  dispatch : Nat → PlannedNodeToolCall → Option ToolExecution
  isDeniedError : Option String → Bool
  redactLogText : String → String

variable (handlers : ToolHandlers)

def normalizeToolExecutionStatus : ToolExecution → NodeToolExecutionStatus
  | .timedOut => .timeout
  | .thrown _ => .executionError
  | .result result =>
    if result.success then .succeeded
    else if handlers.isDeniedError result.error then .denied
    else .executionError

def ToolExecution.errorText : ToolExecution → Option String
  | .result answer => answer.error.filter (· ≠ "")
  | _ => none

def reasonCodeForExecutionStatus (execution : ToolExecution) : NodeToolExecutionStatus → String
  | .succeeded => "tool_execution_succeeded"
  | .timeout => "tool_execution_timeout"
  | .denied => (execution.errorText.map handlers.redactLogText).getD "tool_execution_denied"
  | .executionError =>
    match execution.errorText, execution with
    | some error, _ => handlers.redactLogText error
    | none, .thrown (some message) => handlers.redactLogText message
    | none, _ => "tool_execution_error"

def resultForBlockedToolPlan (issue : NodeToolPlanIssue) : NormalizedNodeToolResult where
  toolId := issue.toolId
  dispatcherToolName := issue.toolId
  status := .denied
  reasonCode := issue.code.text
  output := none
  error := some issue.code.message
  retryPossible := false
  fallbackPossible := false
  failureCandidate := true

def normalizedToolResult (call : PlannedNodeToolCall) (execution : ToolExecution) :
    NormalizedNodeToolResult :=
  let status := normalizeToolExecutionStatus handlers execution
  let failureCandidate : Bool := status ≠ .succeeded
  { toolId := call.toolId
    dispatcherToolName := call.dispatcherToolName
    status
    reasonCode := reasonCodeForExecutionStatus handlers execution status
    output := match execution with
      | .result result => result.output
      | _ => none
    error := match execution with
      | .result result => result.error
      | _ => none
    retryPossible := failureCandidate && (status = .timeout || status = .executionError)
    fallbackPossible := failureCandidate && decide (call.fallbackNodeIds.length > 0)
    failureCandidate }

def dispatchToolCalls (handlers : ToolHandlers) :
    Nat → List PlannedNodeToolCall → RuntimeRun (List NormalizedNodeToolResult)
  | _, [] => pure []
  | count, call :: rest => do
    Traced.tell (.toolRun call.toolId)
    let execution ← Traced.ofOption (handlers.dispatch count call)
    let results ← dispatchToolCalls handlers (count + 1) rest
    pure (normalizedToolResult handlers call execution :: results)

def toolExecutionSummary (plan : NodeToolExecutionPlan)
    (results : List NormalizedNodeToolResult) : NodeToolExecutionSummary where
  status :=
    if results.length = 0 then .skipped
    else if (results.filter (·.failureCandidate)).length = 0 then .completed
    else if (results.filter (·.status = .succeeded)).length > 0 then .partly
    else .failedCandidate
  plan
  results

def dispatchPlannedNodeTools (plan : NodeToolExecutionPlan) :
    RuntimeRun NodeToolExecutionSummary := do
  let results ← dispatchToolCalls handlers 0 plan.toolCalls
  pure (toolExecutionSummary plan (plan.blocked.map resultForBlockedToolPlan ++ results))

end Knowbee.TopologyRuntime
