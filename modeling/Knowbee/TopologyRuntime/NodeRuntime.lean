import Knowbee.TopologyRuntime.Exhaustion

/-!
# The node runtime

`runNodeRuntime` of `node-runtime.ts`: the checks, the node's own execution, its children and its
tools, and the report that the run ends with.
-/

namespace Knowbee.TopologyRuntime

open Knowbee.Topology Traced

namespace Node

structure SelfExecutionResult where
  status : Option NodeResultStatus
  outputs : List NodeResultOutput
  risksOrGaps : List String
  partialResult : Option Metadata
  reasonCode : Option String
  impossibility : Option ConcreteImpossibilityReceipt

structure ChildDelegation extends NodeRuntimeChildDelegationOptions where
  handlers : ChildHandlers

structure ToolExecutionOptions extends PlanNodeToolExecutionInput where
  enabled : Bool
  handlers : ToolHandlers

structure AggregationOptions where
  enabled : Bool
  strategy : Option AggregationStrategy
  expectedChildNodeIds : List String
  requireAllChildResults : Bool
  allowPartialSuccess : Option Bool
  requiredSatisfiedSourceCount : Option JsNumber

structure RecoveryOptions extends NodeRecoveryControllerOptions where
  enabled : Bool
  diagnosisProvider : Option DiagnosisPlatform

/-- The input of a run.  `selfExecute` is the answer of the node's own execution, which has
none where it throws; `fingerprint` prints an output. -/
structure RunInput where
  envelope : WorkOrderRuntimeEnvelope
  snapshot : RuntimeSnapshot
  nodeRunId : Option String
  authorityPreflight : Option WorkOrderAuthorityPreflightInput
  selfExecute : Option (Option SelfExecutionResult)
  childDelegation : Option ChildDelegation
  toolExecution : Option ToolExecutionOptions
  aggregation : Option AggregationOptions
  recovery : Option RecoveryOptions
  fingerprint : NodeResultOutput → String
  now : Nat → Timestamp

section Input

variable (input : RunInput)

def RunInput.workOrder : WorkOrder := input.envelope.workOrder

def RunInput.contract : NodeContract := input.envelope.nodeContractSnapshot

def RunInput.runId : String := input.nodeRunId.getD ("node-run:" ++ input.workOrder.workOrderId)

def RunInput.permissionDecision : NodeRuntimePermissionDecision :=
  checkNodeRuntimePermission input.workOrder input.contract input.snapshot

def RunInput.authorityDecision : WorkOrderAuthorityDecision :=
  checkNodeRuntimeAuthority input.envelope input.authorityPreflight

def RunInput.inputIssues : List NodeRuntimeInputValidationIssue :=
  validateNodeRuntimeInputSchema input.contract input.workOrder

end Input

/-- A required key of the schema takes the place of a key that is there. -/
def defaultOutputValueForExpectedOutput (workOrder : WorkOrder)
    (expectedOutput : ExpectedOutputContract) : MetadataValue :=
  let generated := [("generatedBy", "node-runtime-mvp"), ("workOrderId", workOrder.workOrderId),
    ("expectedOutputKind", expectedOutput.kind.name)]
  let keys :=
    if expectedOutput.outputId = expectedSchemaOutputId workOrder then
      setAdd [] (requiredKeys workOrder.expectedOutputSchema)
    else []
  .record
    ((generated.map fun entry =>
        (entry.1, .text (if entry.1 ∈ keys then "placeholder:" ++ entry.1 else entry.2))) ++
      (keys.filter (· ∉ generated.map Prod.fst)).map fun key => (key, .text ("placeholder:" ++ key)))

def defaultNodeRuntimeSelfExecute (envelope : WorkOrderRuntimeEnvelope) : SelfExecutionResult where
  status := some .completed
  outputs := envelope.expectedOutputs.map fun expectedOutput =>
    ⟨expectedOutput.outputId, .satisfied,
      some (defaultOutputValueForExpectedOutput envelope.workOrder expectedOutput)⟩
  risksOrGaps := []
  partialResult := none
  reasonCode := some "self_execution_completed"
  impossibility := none

/-- What `selfExecute`, or the default, answers. -/
def RunInput.selfExecution (input : RunInput) : Option SelfExecutionResult :=
  input.selfExecute.getD (some (defaultNodeRuntimeSelfExecute input.envelope))

def normalizeSelfExecutionResult (selfExecution : SelfExecutionResult)
    (expectedOutputs : List ExpectedOutputContract) : List NodeResultOutput :=
  selfExecution.outputs ++ (expectedOutputs.filter fun expectedOutput =>
    expectedOutput.outputId ∉ selfExecution.outputs.map (·.outputId)).map fun expectedOutput =>
      ⟨expectedOutput.outputId, .missing, none⟩

variable (expectedOutputs : List ExpectedOutputContract)

def missingOutputsForExpected : List NodeResultOutput :=
  expectedOutputs.map fun expectedOutput => ⟨expectedOutput.outputId, .missing, none⟩

def unmetRequiredOutputIds (outputs : List NodeResultOutput) : List String :=
  ((expectedOutputs.filter (·.required)).filter fun expectedOutput =>
    !isSatisfied outputs expectedOutput.outputId).map (·.outputId)

structure Decision where
  status : NodeResultStatus
  reasonCode : String
  risksOrGaps : List String

def decideSelfExecutionReport (selfExecution : SelfExecutionResult)
    (outputs : List NodeResultOutput) : Decision :=
  let unmet := unmetRequiredOutputIds expectedOutputs outputs
  let unmetRisks := unmet.map ("unmet_required_output:" ++ ·)
  match selfExecution.status.getD .completed with
  | .failed => ⟨.failedCandidate,
      selfExecution.reasonCode.getD "self_execution_failed_candidate",
      "failed_status_normalized_to_failed_candidate" :: unmetRisks⟩
  | .completed =>
    if unmet.length > 0 then ⟨.failedCandidate, "required_outputs_unmet", unmetRisks⟩
    else ⟨.completed, selfExecution.reasonCode.getD "self_execution_completed", []⟩
  | .needsRevision => ⟨.failedCandidate,
      selfExecution.reasonCode.getD "needs_revision_normalized_to_failed_candidate", unmetRisks⟩
  | .permissionLimited => ⟨.permissionLimited,
      selfExecution.reasonCode.getD "self_execution_permission_limited", unmetRisks⟩
  | .failedCandidate => ⟨.failedCandidate,
      selfExecution.reasonCode.getD "self_execution_failed_candidate", unmetRisks⟩
  | .partialSuccess => ⟨.partialSuccess,
      selfExecution.reasonCode.getD "self_execution_partial_success", unmetRisks⟩

def ChildDispatchStatus.text : ChildDispatchStatus → String
  | .completed => "completed"
  | .partialSuccess => "partial_success"
  | .failedCandidate => "failed_candidate"
  | .permissionLimited => "permission_limited"

def skippedRisks (plan : DelegationPlan) : List String :=
  plan.skipped.map fun issue => issue.code.text ++ ":" ++ issue.childNodeId.getD issue.parentNodeId

/-- The risks that are not blank, each once. -/
def distinctRisks (risks : List String) : List String :=
  setAdd [] (risks.filter (jsTrim · ≠ ""))

def childDelegationRiskCodes : Option ChildDispatchSummary → List String
  | none => []
  | some summary => distinctRisks
      ((summary.failureCandidateResults.flatMap fun result =>
          ("child_result_" ++ ChildDispatchStatus.text result.status ++ ":" ++ result.childNodeId) ::
            result.risksOrGaps) ++
        (if summary.status = .blocked ∧ summary.plan.status ≠ .skipped then
          skippedRisks summary.plan else []) ++
        (if summary.plan.status = .partly then skippedRisks summary.plan else []))

def toolExecutionRiskCodes : Option NodeToolExecutionSummary → List String
  | none => []
  | some summary => distinctRisks (summary.failureCandidateResults.flatMap fun result =>
      ["tool_result_" ++ result.status.text ++ ":" ++ result.toolId, result.reasonCode] ++
        (if result.retryPossible then ["tool_retry_possible"] else []) ++
        (if result.fallbackPossible then ["tool_fallback_possible"] else []) ++
        (result.error.map ("tool_error:" ++ ·)).toList)

structure Report where
  status : NodeResultStatus
  reasonCode : String
  outputs : List NodeResultOutput
  risksOrGaps : List String
  partialResult : Option Metadata := none
  impossibility : Option ConcreteImpossibilityReceipt := none

structure Progress where
  states : List NodeRuntimeState := []
  childDelegation : Option ChildDispatchSummary := none
  toolExecution : Option NodeToolExecutionSummary := none
  aggregation : Option AggregationResult := none
  validation : Option AggregatedNodeValidationResult := none

structure ExecutionResult where
  status : NodeResultStatus
  finalState : NodeRuntimeState
  nodeResultReport : NodeResultReport
  progress : Progress
  recovery : Option NodeRecoveryControllerResult := none
  exhaustion : Option NodeExhaustionCheckResult := none
  terminalStopDecision : Option BlockedStopReportInput := none

def finalStateForNodeResultStatus : NodeResultStatus → NodeRuntimeState
  | .completed => .completed
  | .partialSuccess => .partialSuccess
  | .failed => .failed
  | _ => .failedCandidate

def reviewsWithObservedPartialOutputs (reviews : List SolutionPathReview)
    (outputs : List NodeResultOutput) : List SolutionPathReview :=
  let partialResultRefs := (outputs.filter fun output =>
    output.status = .partly ∨ output.status = .satisfied).map (·.outputId)
  if partialResultRefs.length = 0 then reviews
  else reviews.map fun review =>
    if review.path = .partialCompletion then
      ⟨.partialCompletion, .completedPartial, "runtime_partial_outputs_preserved",
        partialResultRefs, none⟩
    else review

def ChildDispatchSummaryStatus.text : ChildDispatchSummaryStatus → String
  | .dispatched => "dispatched"
  | .partly => "partial"
  | .blocked => "blocked"
  | .skipped => "skipped"

def NodeToolSummaryStatus.text : NodeToolSummaryStatus → String
  | .completed => "completed"
  | .partly => "partial"
  | .failedCandidate => "failed_candidate"
  | .skipped => "skipped"

def authorizedReviewForRuntime (workOrder : WorkOrder) (outputs : List NodeResultOutput)
    (progress : Progress) (review : SolutionPathReview) : AuthorizedSolutionPathReview :=
  let attemptSignature :=
    if review.disposition = .attempted then
      some (review.path.text ++ ":" ++ workOrder.workOrderId ++ ":" ++ review.reasonCode)
    else none
  { review with
    applicable := review.disposition ≠ .reviewedUnavailable
    evidenceRefs := uniqueTrimmed
      (["work-order:" ++ workOrder.workOrderId, "path-reason:" ++ review.reasonCode,
          "solution-path-review:" ++ review.path.text ++ ":" ++ review.disposition.text] ++
        (attemptSignature.map ("attempt-strategy:" ++ ·)).toList ++
        (if review.path = .tool then
          (progress.toolExecution.map fun summary =>
            "tool-execution:" ++ NodeToolSummaryStatus.text summary.status).toList
        else []) ++
        (if review.path = .subAgent then
          (progress.childDelegation.map fun summary =>
            "child-delegation:" ++ ChildDispatchSummaryStatus.text summary.status).toList
        else []) ++
        (if review.path = .partialCompletion then
          outputs.map fun output => "output:" ++ output.outputId ++ ":" ++ output.status.text
        else []))
    attemptSignature }

def permissionDenial (input : RunInput) : Option PermissionDenialReceipt :=
  let decision := input.permissionDecision
  if decision.allowed then none
  else some
    { permissionKind := "node_runtime_scope"
      targetRef := "node:" ++ input.contract.id
      evidenceRefs := uniqueTrimmed (decision.missingToolIds.map ("permission:tool:" ++ ·) ++
        decision.missingSystemIds.map ("permission:system:" ++ ·) ++
        decision.missingDataDomainIds.map ("permission:data:" ++ ·))
      safeAlternativePathIds := [] }

section Complete

variable (input : RunInput) (progress : Progress) (report : Report)

def diagnosisSubject (reviews : List SolutionPathReview) (risks : List String) :
    ResultDiagnosisSubject where
  ownerAgentName := input.contract.name
  __ := report
  expectedOutput := "\n".intercalate (input.workOrder.successCriteria.map fun criterion =>
    criterion.criterionId ++ ":" ++ criterion.description)
  evidence := reviews.flatMap fun review =>
    ("path:" ++ review.path.text ++ ":" ++ review.disposition.text ++ ":" ++ review.reasonCode) ::
      review.resultRefs
  risks
  workId := input.workOrder.workOrderId
  stepId := "exhaustion:" ++ input.runId

/-- The decision that a diagnosis leads to, if it authorizes one and nothing throws. -/
def diagnosedStop (provider : DiagnosisPlatform) (reviews : List SolutionPathReview)
    (exhaustion : NodeExhaustionCheckResult) (risks : List String) :
    Option BlockedStopReportDecision := do
  let subject := diagnosisSubject input report reviews risks
  let answer ← provider.runResultDiagnosisProvider subject
  let (receipt, diagnosis) ← answer
  let authorized ← assessAuthorizedSolutionPathExhaustion provider receipt subject diagnosis
    (reviews.map (authorizedReviewForRuntime input.workOrder report.outputs progress))
  if authorized.canFinalizeFailure then
    evaluateBlockedStopReportDecision input.workOrder.workOrderId authorized
      (uniqueTrimmed (authorized.reviews.flatMap (·.evidenceRefs)))
      exhaustion.unmetSuccessCriteriaIds (permissionDenial input) report.impossibility
  else none

/-- The diagnosis of a run that may finalize a failure. -/
def stopDecision (recovery : RecoveryOptions) (reviews : List SolutionPathReview)
    (exhaustion : NodeExhaustionCheckResult) (risks : List String) :
    Option BlockedStopReportDecision :=
  if exhaustion.canFinalizeFailure then
    recovery.diagnosisProvider.bind fun provider =>
      diagnosedStop input progress report provider reviews exhaustion risks
  else none

def stopReport : Option BlockedStopReportDecision → Option BlockedStopReportInput
  | some (.stopAndReport reportInput) => some reportInput
  | _ => none

def continuedRisk : Option BlockedStopReportDecision → List String
  | some (.solutionPathsRemaining _) => ["solution_paths_remaining"]
  | some (.recoverableCondition _) => ["recoverable_condition"]
  | _ => []

def finishedResult (status : NodeResultStatus) (risksOrGaps : List String)
    (failureReportId : Option String) : ExecutionResult where
  status
  finalState := finalStateForNodeResultStatus status
  nodeResultReport :=
    { nodeId := input.contract.id
      workOrderId := input.workOrder.workOrderId
      status
      outputs := report.outputs
      unmetSuccessCriteriaIds := unmetSuccessCriteriaIdsForOutputs input.workOrder report.outputs
      risksOrGaps
      partialResult := report.partialResult
      failureReportId }
  progress

def reviewFailureCandidate (recovery : RecoveryOptions) : RuntimeRun ExecutionResult := do
  let review := buildNodeRecoveryReview
    { workOrder := input.workOrder
      nodeContractSnapshot := input.contract
      candidateStatus := report.status
      __ := progress
      validated := progress.validation.isSome
      options := recovery.toNodeRecoveryControllerOptions }
  let reviews := reviewsWithObservedPartialOutputs recovery.solutionPathReviews report.outputs
  let assessment ← ofOption (assessSolutionPathExhaustion reviews)
  let exhaustion := checkFinalFailureExhaustion input.workOrder report.outputs review assessment
  let risks := report.risksOrGaps ++ exhaustion.reasonCodes ++
    exhaustion.blockingUntriedOptions.map ("untried_option:" ++ ·) ++
    exhaustion.solutionPathAssessment.missingPaths.map ("untried_solution_path:" ++ ·.text)
  let decision := stopDecision input progress report recovery reviews exhaustion risks
  let reviewed := risks ++ continuedRisk decision
  match stopReport decision with
  | some reportInput =>
    tell (.state .failed)
    pure
      { finishedResult input progress report .failed reviewed
          (some ("failure:" ++ input.workOrder.workOrderId)) with
        recovery := some review
        exhaustion := some exhaustion
        terminalStopDecision := some reportInput }
  | none =>
    tell (.state .failedCandidate)
    pure
      { finishedResult input progress report report.status
          (reviewed ++ if exhaustion.canFinalizeFailure then
            ["final_failure_diagnosis_authorization_missing"] else []) none with
        recovery := some review
        exhaustion := some exhaustion }

def completeWithReport : RuntimeRun ExecutionResult := do
  tell (.state .reporting)
  let finalState := finalStateForNodeResultStatus report.status
  if finalState = .failedCandidate then
    tell (.state .exhaustionChecking)
    match input.recovery with
    | some recovery =>
      if report.status = .failedCandidate ∧ recovery.enabled then
        reviewFailureCandidate input progress report recovery
      else do
        tell (.state finalState)
        pure (finishedResult input progress report report.status report.risksOrGaps none)
    | none => do
      tell (.state finalState)
      pure (finishedResult input progress report report.status report.risksOrGaps none)
  else do
    tell (.state finalState)
    pure (finishedResult input progress report report.status report.risksOrGaps none)

end Complete

section Run

variable (input : RunInput)

def childPlan (delegation : ChildDelegation) : DelegationPlan :=
  planChildDelegation input.snapshot.toCompiledTopologySnapshot
    { parentWorkOrder := input.workOrder
      parentNodeId := some input.contract.id
      __ := delegation
      now := input.now }

def delegateToChildren : RuntimeRun (Option ChildDispatchSummary) :=
  match input.childDelegation with
  | none => pure none
  | some delegation =>
    if delegation.enabled then do
      let plan := childPlan input delegation
      if plan.childWorkOrders.length > 0 ∨ plan.status = .blocked ∨ plan.status = .partly then
        tell (.state .childDelegating)
      let summary ← dispatchPlannedChildren delegation.handlers delegation.childNodeContractsById
        plan
      pure (some summary)
    else pure none

def executeTools : RuntimeRun (Option NodeToolExecutionSummary) :=
  match input.toolExecution with
  | none => pure none
  | some options =>
    if options.enabled then do
      let plan := planNodeToolExecution input.snapshot input.contract input.workOrder
        options.toPlanNodeToolExecutionInput
      if plan.toolCalls.length > 0 ∨ plan.status = .blocked ∨ plan.status = .partly then
        tell (.state .toolExecuting)
      let summary ← dispatchPlannedNodeTools options.handlers plan
      pure (some summary)
    else pure none

structure Answers where
  selfExecution : SelfExecutionResult
  childDelegation : Option ChildDispatchSummary
  toolExecution : Option NodeToolExecutionSummary

variable (answers : Answers)

def selfOutputs : List NodeResultOutput :=
  normalizeSelfExecutionResult answers.selfExecution input.envelope.expectedOutputs

def selfDecision : Decision :=
  decideSelfExecutionReport input.envelope.expectedOutputs answers.selfExecution
    (selfOutputs input answers)

def aggregationInput (options : AggregationOptions) : AggregateNodeRuntimeResultsInput where
  workOrder := input.workOrder
  strategy := options.strategy.getD .mergeAndValidate
  selfOutputs := selfOutputs input answers
  selfStatus := (selfDecision input answers).status
  selfRisksOrGaps := (selfDecision input answers).risksOrGaps ++ answers.selfExecution.risksOrGaps
  __ := answers
  expectedChildNodeIds := options.expectedChildNodeIds
  requireAllChildResults := options.requireAllChildResults
  requiredSatisfiedSourceCount := options.requiredSatisfiedSourceCount
  fingerprint := input.fingerprint

def allowPartialSuccess (options : AggregationOptions) : Bool :=
  ((options.allowPartialSuccess.or
    (input.contract.recoveryPolicy.map (·.partialSuccessAllowed))).or
      (input.contract.failurePolicy.map (·.allowPartialSuccess))).getD false

def aggregated (options : AggregationOptions) : AggregationResult :=
  aggregateNodeRuntimeResults (aggregationInput input answers options)

def validated (options : AggregationOptions) : AggregatedNodeValidationResult :=
  validateAggregatedNodeResult input.workOrder (aggregated input answers options)
    (allowPartialSuccess input options)

/-- `finalDecision`, of a run that does not aggregate. -/
def finalDecision : Decision :=
  let delegationRisks := childDelegationRiskCodes answers.childDelegation
  let toolRisks := toolExecutionRiskCodes answers.toolExecution
  if delegationRisks.length > 0 then
    ⟨.failedCandidate, "child_delegation_failed_candidate",
      "child_failure_held_for_parent_exhaustion" :: delegationRisks⟩
  else if toolRisks.length > 0 then
    ⟨.failedCandidate, "tool_execution_failed_candidate",
      "tool_failure_held_for_retry_or_fallback" :: toolRisks⟩
  else selfDecision input answers

def answersReport : Report :=
  match input.aggregation.filter (·.enabled) with
  | some options =>
    let validation := validated input answers options
    { status := validation.nodeResultStatus
      reasonCode := "aggregation_" ++ validation.status.text
      outputs := validation.outputs
      risksOrGaps := validation.risksOrGaps
      impossibility := answers.selfExecution.impossibility }
  | none =>
    let decision := finalDecision input answers
    { status := decision.status
      reasonCode := decision.reasonCode
      outputs := selfOutputs input answers
      risksOrGaps := decision.risksOrGaps ++ answers.selfExecution.risksOrGaps
      partialResult := answers.selfExecution.partialResult
      impossibility := answers.selfExecution.impossibility }

def answersProgress : Progress where
  states := [.selfExecuting]
  __ := answers
  aggregation := (input.aggregation.filter (·.enabled)).map (aggregated input answers)
  validation := (input.aggregation.filter (·.enabled)).map (validated input answers)

/-- The node's own execution, its children and its tools, in this order. -/
def collectAnswers : RuntimeRun Answers := do
  tell (.state .selfExecuting)
  tell .selfExecuted
  let selfExecution ← ofOption input.selfExecution
  let childDelegation ← delegateToChildren input
  let toolExecution ← executeTools input
  pure { selfExecution, childDelegation, toolExecution }

def execute : RuntimeRun ExecutionResult := do
  let answers ← collectAnswers input
  tell (.state .validating)
  completeWithReport input (answersProgress input answers) (answersReport input answers)

/-- A report of what is missing, before anything was executed. -/
def missingReport (status : NodeResultStatus) (reasonCode : String) (risksOrGaps : List String) :
    Report where
  status
  reasonCode
  outputs := missingOutputsForExpected input.envelope.expectedOutputs
  risksOrGaps

def inputReport : Report :=
  missingReport input .failedCandidate "input_schema_validation_failed"
    (input.inputIssues.map fun issue => issue.reasonCode ++ ":" ++ issue.path)

def permissionReport : Report :=
  let decision := input.permissionDecision
  missingReport input .permissionLimited "permission_denied"
    ("permission_denied" :: decision.missingToolIds.map ("missing_tool:" ++ ·) ++
      decision.missingSystemIds.map ("missing_system:" ++ ·) ++
      decision.missingDataDomainIds.map ("missing_data_domain:" ++ ·))

def authorityReport : Report :=
  let decision := input.authorityDecision
  missingReport input .permissionLimited "authority_denied"
    (["authority_denied", decision.reasonCode] ++
      decision.missingAuthorityRuleIds.map ("missing_authority:" ++ ·) ++
      decision.deniedAuthorityRuleIds.map ("denied_authority:" ++ ·))

def checkedRun : RuntimeRun ExecutionResult :=
  if input.inputIssues.length > 0 then completeWithReport input {} (inputReport input)
  else do
    tell (.state .permissionChecking)
    if ¬input.permissionDecision.allowed then completeWithReport input {} (permissionReport input)
    else if ¬input.authorityDecision.allowed then
      completeWithReport input {} (authorityReport input)
    else execute input

/-- What a run tells before its first decision. -/
def openingEvents : List RuntimeEvent :=
  [.state .created, .state .workOrderReceived,
    .permissionChecked input.permissionDecision.allowed,
    .authorityChecked input.authorityDecision.allowed, .state .analyzing, .state .planning]

def runNodeRuntime : RuntimeRun ExecutionResult :=
  let run := checkedRun input
  ⟨openingEvents input ++ run.told, run.value?⟩

end Run

end Node

end Knowbee.TopologyRuntime
