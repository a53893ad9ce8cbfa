import Knowbee.TopologyRuntime.Aggregation

/-!
# Exhaustion and stopping

What a runtime reviews before it reports a final failure: `recovery-controller.ts`,
`exhaustion-checker.ts`, and of the contracts `solution-path-exhaustion.ts`,
`diagnosis-action-routing.ts` and `stop-report-decision.ts`.
-/

namespace Knowbee.TopologyRuntime

open Knowbee.Topology

inductive AttemptKind where
  | selfExecution | childDelegation | toolExecution | retry | fallback | partialSuccessReview
  | parentRecovery

def AttemptKind.text : AttemptKind → String
  | .selfExecution => "self_execution"
  | .childDelegation => "child_delegation"
  | .toolExecution => "tool_execution"
  | .retry => "retry"
  | .fallback => "fallback"
  | .partialSuccessReview => "partial_success_review"
  | .parentRecovery => "parent_recovery"

inductive AttemptStatus where
  | attempted | skipped | blocked | succeeded | failed

inductive SolutionPath where
  | directAnswer | plan | tool | subAgent | yeonjang | askClarification | partialCompletion
  | workaroundGuidance
  deriving DecidableEq

def SolutionPath.text : SolutionPath → String
  | .directAnswer => "direct_answer"
  | .plan => "plan"
  | .tool => "tool"
  | .subAgent => "sub_agent"
  | .yeonjang => "yeonjang"
  | .askClarification => "ask_clarification"
  | .partialCompletion => "partial_completion"
  | .workaroundGuidance => "workaround_guidance"

def requiredSolutionPaths : List SolutionPath :=
  [.directAnswer, .plan, .tool, .subAgent, .yeonjang, .askClarification, .partialCompletion,
    .workaroundGuidance]

inductive SolutionPathDisposition where
  | available | attempted | reviewedUnavailable | completedPartial | guidanceReady
  deriving DecidableEq

def SolutionPathDisposition.text : SolutionPathDisposition → String
  | .available => "available"
  | .attempted => "attempted"
  | .reviewedUnavailable => "reviewed_unavailable"
  | .completedPartial => "completed_partial"
  | .guidanceReady => "guidance_ready"

structure SolutionPathReview where
  path : SolutionPath
  disposition : SolutionPathDisposition
  reasonCode : String
  resultRefs : List String
  guidance : Option String

structure NodeRecoveryControllerOptions where
  selfExecutionAttempted : Option Bool := none
  childDelegationAttempted : Option Bool := none
  toolExecutionAttempted : Option Bool := none
  retryAttempted : Option Bool := none
  fallbackAttempted : Option Bool := none
  partialSuccessChecked : Option Bool := none
  parentRecoveryPossibleChecked : Option Bool := none
  requireChildDelegationReview : Option Bool := none
  requireToolExecutionReview : Option Bool := none
  requireRetryReview : Option Bool := none
  requireFallbackReview : Option Bool := none
  requirePartialSuccessReview : Option Bool := none
  requireParentRecoveryReview : Option Bool := none
  solutionPathReviews : List SolutionPathReview := []

structure BuildNodeRecoveryReviewInput where
  workOrder : WorkOrder
  nodeContractSnapshot : NodeContract
  candidateStatus : NodeResultStatus
  states : List NodeRuntimeState
  childDelegation : Option ChildDispatchSummary
  toolExecution : Option NodeToolExecutionSummary
  validated : Bool
  options : NodeRecoveryControllerOptions

structure NodeRecoveryReviewSignal where
  kind : AttemptKind
  (possible reviewed blockingIfUnreviewed : Bool)
  status : AttemptStatus
  reasonCode : String

structure SignalReasonCodes where
  (attempted unreviewed notAvailable : String)

def buildSignal (kind : AttemptKind) (possible reviewed blockingIfUnreviewed : Bool)
    (attemptedStatus : AttemptStatus) (codes : SignalReasonCodes) : NodeRecoveryReviewSignal where
  kind
  possible
  reviewed
  blockingIfUnreviewed := possible && blockingIfUnreviewed
  status := if reviewed then attemptedStatus else .skipped
  reasonCode :=
    if reviewed then codes.attempted
    else if possible then codes.unreviewed
    else codes.notAvailable

section Review

variable (input : BuildNodeRecoveryReviewInput)

def reviewSelfExecution : NodeRecoveryReviewSignal :=
  buildSignal .selfExecution true
    (input.options.selfExecutionAttempted.getD (.selfExecuting ∈ input.states)) true
    (if input.candidateStatus = .completed ∨ input.candidateStatus = .partialSuccess then .succeeded
      else .failed)
    ⟨"self_execution_attempted", "self_execution_untried", "self_execution_untried"⟩

def statusForChildDelegation : AttemptStatus :=
  match input.childDelegation.map ChildDispatchSummary.status with
  | none => .attempted
  | some .dispatched => .succeeded
  | some .blocked => .blocked
  | some .partly => .failed
  | some .skipped => .skipped

def reviewChildDelegation : NodeRecoveryReviewSignal :=
  let contract := input.nodeContractSnapshot
  let possible := input.options.requireChildDelegationReview.getD
    (contract.recoveryPolicy.any (·.redelegationAllowed) || contract.children.length > 0)
  buildSignal .childDelegation possible
    (input.options.childDelegationAttempted.getD input.childDelegation.isSome) possible
    (statusForChildDelegation input)
    ⟨"child_delegation_attempted", "child_delegation_untried", "child_delegation_not_available"⟩

def statusForToolExecution : AttemptStatus :=
  match input.toolExecution.map NodeToolExecutionSummary.status with
  | none => .attempted
  | some .completed => .succeeded
  | some .failedCandidate => .failed
  | some .partly => .failed
  | some .skipped => .skipped

def reviewToolExecution : NodeRecoveryReviewSignal :=
  let possible := input.options.requireToolExecutionReview.getD
    (input.nodeContractSnapshot.allowedToolIds.length > 0 ||
      input.workOrder.permissionScope.allowedToolIds.length > 0)
  buildSignal .toolExecution possible
    (input.options.toolExecutionAttempted.getD input.toolExecution.isSome) possible
    (statusForToolExecution input)
    ⟨"tool_execution_attempted", "tool_execution_untried", "tool_execution_not_available"⟩

def reviewRetry : NodeRecoveryReviewSignal :=
  let possible := input.options.requireRetryReview.getD
    (input.nodeContractSnapshot.recoveryPolicy.any (·.retryAllowed))
  buildSignal .retry possible (input.options.retryAttempted = some true) possible .attempted
    ⟨"retry_attempted", "retry_untried", "retry_not_available"⟩

def reviewFallback : NodeRecoveryReviewSignal :=
  let contract := input.nodeContractSnapshot
  let possible := input.options.requireFallbackReview.getD
    (contract.recoveryPolicy.any (·.fallbackAllowed) &&
      contract.failurePolicy.any (·.fallbackNodeIds.length > 0))
  buildSignal .fallback possible (input.options.fallbackAttempted = some true) possible .attempted
    ⟨"fallback_attempted", "fallback_untried", "fallback_not_available"⟩

def reviewPartialSuccess : NodeRecoveryReviewSignal :=
  let contract := input.nodeContractSnapshot
  let possible := input.options.requirePartialSuccessReview.getD
    (contract.recoveryPolicy.any (·.partialSuccessAllowed) ||
      contract.failurePolicy.any (·.allowPartialSuccess))
  buildSignal .partialSuccessReview possible
    (input.options.partialSuccessChecked.getD
      (input.validated || input.candidateStatus = .partialSuccess)) possible .attempted
    ⟨"partial_success_checked", "partial_success_unchecked", "partial_success_not_available"⟩

def reviewParentRecovery : NodeRecoveryReviewSignal :=
  let possible := input.options.requireParentRecoveryReview.getD true
  buildSignal .parentRecovery possible
    (input.options.parentRecoveryPossibleChecked = some true) possible .attempted
    ⟨"parent_recovery_checked", "parent_recovery_unchecked", "parent_recovery_unchecked"⟩

/-- The signals of `buildNodeRecoveryReview`. -/
def recoverySignals : List NodeRecoveryReviewSignal :=
  [reviewSelfExecution input, reviewChildDelegation input, reviewToolExecution input,
    reviewRetry input, reviewFallback input, reviewPartialSuccess input,
    reviewParentRecovery input]

end Review

def NodeRecoveryReviewSignal.option (signal : NodeRecoveryReviewSignal) : String :=
  signal.kind.text ++ ":" ++ signal.reasonCode

structure NodeRecoveryControllerResult where
  signals : List NodeRecoveryReviewSignal
  (untriedOptions blockingUntriedOptions reasonCodes : List String)

def buildNodeRecoveryReview (input : BuildNodeRecoveryReviewInput) : NodeRecoveryControllerResult :=
  let signals := recoverySignals input
  { signals
    untriedOptions := (signals.filter (!·.reviewed)).map (·.option)
    blockingUntriedOptions := (signals.filter fun signal =>
      signal.possible && signal.blockingIfUnreviewed && !signal.reviewed).map (·.option)
    reasonCodes := signals.map (·.reasonCode) }

structure SolutionPathExhaustionAssessment where
  (complete canFinalizeFailure : Bool)
  missingPaths : List SolutionPath
  (partialResultRefs workaroundGuidance : List String)

/-- `uniqueNonEmpty`. -/
def uniqueTrimmed (values : List String) : List String :=
  setAdd [] ((values.map jsTrim).filter (· ≠ ""))

def hasNonEmptyValues (values : List String) : Bool := values.any (jsTrim · ≠ "")

/-- A review that does not throw. -/
def SolutionPathReview.wellFormed (review : SolutionPathReview) : Bool :=
  jsTrim review.reasonCode ≠ "" &&
    (review.disposition ≠ .completedPartial || hasNonEmptyValues review.resultRefs) &&
    (review.disposition ≠ .guidanceReady || review.guidance.any (jsTrim · ≠ ""))

def assessSolutionPathExhaustion (reviews : List SolutionPathReview) :
    Option SolutionPathExhaustionAssessment :=
  if (reviews.map (·.path)).Nodup ∧ reviews.all (·.wellFormed) then
    let missingPaths := requiredSolutionPaths.filter (· ∉ reviews.map (·.path))
    let complete : Bool := missingPaths.length = 0
    some
      { complete
        canFinalizeFailure := complete && !reviews.any (·.disposition = .available)
        missingPaths
        partialResultRefs := uniqueTrimmed ((reviews.filter
          (·.disposition = .completedPartial)).flatMap (·.resultRefs))
        workaroundGuidance := uniqueTrimmed ((reviews.filter
          (·.disposition = .guidanceReady)).map (·.guidance.getD "")) }
  else none

structure NodeExhaustionCheckResult where
  (complete canFinalizeFailure successCriteriaStillNotMet : Bool)
  (unmetSuccessCriteriaIds untriedOptions blockingUntriedOptions reasonCodes : List String)
  solutionPathAssessment : SolutionPathExhaustionAssessment

def checkFinalFailureExhaustion (workOrder : WorkOrder) (outputs : List NodeResultOutput)
    (recoveryReview : NodeRecoveryControllerResult)
    (solutionPathAssessment : SolutionPathExhaustionAssessment) : NodeExhaustionCheckResult :=
  let unmetSuccessCriteriaIds := unmetSuccessCriteriaIdsForOutputs workOrder outputs
  let successCriteriaStillNotMet : Bool := unmetSuccessCriteriaIds.length > 0
  let complete : Bool :=
    recoveryReview.blockingUntriedOptions.length = 0 && solutionPathAssessment.complete
  let canFinalizeFailure :=
    complete && successCriteriaStillNotMet && solutionPathAssessment.canFinalizeFailure
  { complete
    canFinalizeFailure
    successCriteriaStillNotMet
    unmetSuccessCriteriaIds
    __ := recoveryReview
    reasonCodes :=
      [if canFinalizeFailure then "final_failure_guard_passed" else "final_failure_guard_blocked",
        if complete then "exhaustion_complete" else "exhaustion_incomplete",
        if successCriteriaStillNotMet then "success_criteria_not_met" else "success_criteria_met",
        if solutionPathAssessment.canFinalizeFailure then "solution_paths_exhausted"
        else "solution_path_still_available"] ++
      solutionPathAssessment.missingPaths.map ("solution_path_unreviewed:" ++ ·.text) ++
      recoveryReview.reasonCodes
    solutionPathAssessment }

inductive RecommendedAction where
  | directAnswer | askClarification | plan | delegate | useTool | useYeonjang | retry | redelegate
  | partialReport | finalReport | stopBlocked
  deriving DecidableEq

inductive ResultSufficiency where
  | sufficient
  | other
  deriving DecidableEq

/-- A result diagnosis; `rest` is what only its fingerprint reads. -/
structure LlmResultDiagnosisRecord where
  sufficiency : ResultSufficiency
  missingInformation : List String
  recommendedAction : RecommendedAction
  rest : List String

structure LlmDiagnosisReceipt where
  receiptId : String
  isResultDiagnosis : Bool
  (subjectFingerprint diagnosisFingerprint : String)
  recommendedAction : RecommendedAction

structure ResultDiagnosisSubject where
  ownerAgentName : String
  status : NodeResultStatus
  reasonCode : String
  outputs : List NodeResultOutput
  expectedOutput : String
  (evidence risks : List String)
  (workId stepId : String)

/-- The hashes of the diagnosis, and the provider with the gate its answer passes: nothing
where it throws, and no diagnosis where the answer is not a valid one. -/
structure DiagnosisPlatform where
  subjectFingerprint : ResultDiagnosisSubject → String
  diagnosisFingerprint : LlmResultDiagnosisRecord → String
  runResultDiagnosisProvider : ResultDiagnosisSubject →
    Option (Option (LlmDiagnosisReceipt × LlmResultDiagnosisRecord))

/-- `assertDiagnosisActionConsistency`, of a result diagnosis. -/
def diagnosisActionConsistent (diagnosis : LlmResultDiagnosisRecord) : Bool :=
  let action := diagnosis.recommendedAction
  !(diagnosis.sufficiency ≠ .sufficient && action = .finalReport) &&
    !(diagnosis.sufficiency = .sufficient && (action = .retry || action = .redelegate)) &&
    !(diagnosis.missingInformation.length > 0 && action = .finalReport)

def authorizeDiagnosisActionRoute (platform : DiagnosisPlatform) (receipt : LlmDiagnosisReceipt)
    (subjectPayload : ResultDiagnosisSubject) (diagnosis : LlmResultDiagnosisRecord) :
    Option (String × RecommendedAction) :=
  if receipt.isResultDiagnosis ∧
      receipt.subjectFingerprint = platform.subjectFingerprint subjectPayload ∧
      receipt.diagnosisFingerprint = platform.diagnosisFingerprint diagnosis ∧
      receipt.recommendedAction = diagnosis.recommendedAction ∧
      diagnosisActionConsistent diagnosis then
    some (receipt.receiptId, receipt.recommendedAction)
  else none

structure AuthorizedSolutionPathReview extends SolutionPathReview where
  applicable : Bool
  evidenceRefs : List String
  attemptSignature : Option String

structure AuthorizedSolutionPathExhaustionAssessment : Type
    extends SolutionPathExhaustionAssessment where
  receiptId : String
  reviews : List AuthorizedSolutionPathReview

/-- A review that passes the checks of its evidence. -/
def AuthorizedSolutionPathReview.evidenced (review : AuthorizedSolutionPathReview) : Bool :=
  hasNonEmptyValues review.evidenceRefs &&
    (review.applicable || review.disposition = .reviewedUnavailable) &&
    (review.disposition ≠ .attempted || review.attemptSignature.any (jsTrim · ≠ ""))

def attemptSignatures (reviews : List AuthorizedSolutionPathReview) : List String :=
  (reviews.filter (·.disposition = .attempted)).map (jsTrim <| ·.attemptSignature.getD "")

def assessAuthorizedSolutionPathExhaustion (platform : DiagnosisPlatform)
    (receipt : LlmDiagnosisReceipt) (subjectPayload : ResultDiagnosisSubject)
    (diagnosis : LlmResultDiagnosisRecord) (reviews : List AuthorizedSolutionPathReview) :
    Option AuthorizedSolutionPathExhaustionAssessment := do
  let (receiptId, action) ← authorizeDiagnosisActionRoute platform receipt subjectPayload diagnosis
  if (action = .partialReport ∨ action = .stopBlocked) ∧ reviews.all (·.evidenced) ∧
      (attemptSignatures reviews).Nodup then
    let base ← assessSolutionPathExhaustion (reviews.map (·.toSolutionPathReview))
    if base.complete then
      some
        { base with
          canFinalizeFailure := base.canFinalizeFailure && action = .stopBlocked
          receiptId
          reviews := reviews.map fun review =>
            { review with
              evidenceRefs := uniqueTrimmed review.evidenceRefs
              resultRefs := uniqueTrimmed review.resultRefs
              guidance := review.guidance.map jsTrim
              attemptSignature := review.attemptSignature.map jsTrim } }
    else none
  else none

structure PermissionDenialReceipt where
  (permissionKind targetRef : String)
  (evidenceRefs safeAlternativePathIds : List String)

structure ConcreteImpossibilityReceipt where
  reasonCode : String
  (verifiedFacts evidenceRefs : List String)
  recoverable : Bool
  requiredChanges : List String

inductive StopReasonCode where
  | permissionDenied | solutionPathsExhausted | concreteImpossibility

structure BlockedStopReportInput where
  goalId : String
  reasonCode : StopReasonCode
  diagnosisReceiptId : String
  (evidenceRefs unresolvedItemIds partialResultRefs nextActions : List String)

inductive BlockedStopReportDecision where
  | solutionPathsRemaining (remainingPathIds : List String)
  | recoverableCondition (requiredChanges : List String)
  | stopAndReport (reportInput : BlockedStopReportInput)

/-- `required`. -/
def requiredText (value : String) : Option String :=
  if jsTrim value = "" then none else some (jsTrim value)

/-- `unique`. -/
def uniqueTexts (values : List String) : Option (List String) :=
  if values.all (jsTrim · ≠ "") ∧ (values.map jsTrim).Nodup then some (values.map jsTrim) else none

def someTexts (values : List String) : Option (List String) :=
  if values.length = 0 then none else some values

def evaluateBlockedStopReportDecision (goalId : String)
    (exhaustion : AuthorizedSolutionPathExhaustionAssessment) (evidenceRefs : List String)
    (unresolvedItemIds : List String) (permissionDenial : Option PermissionDenialReceipt)
    (impossibility : Option ConcreteImpossibilityReceipt) : Option BlockedStopReportDecision := do
  let goalId ← requiredText goalId
  let receiptId ← requiredText exhaustion.receiptId
  let missingPaths ← uniqueTexts (exhaustion.missingPaths.map (·.text))
  let unresolvedItemIds ← uniqueTexts unresolvedItemIds
  if ¬exhaustion.complete ∨ ¬exhaustion.canFinalizeFailure ∨ missingPaths.length > 0 then
    some (.solutionPathsRemaining missingPaths)
  else
    let unresolvedItemIds ← someTexts unresolvedItemIds
    let exhaustionEvidence ← (uniqueTexts evidenceRefs).bind someTexts
    let partialResultRefs ← uniqueTexts exhaustion.partialResultRefs
    let workaroundGuidance ← uniqueTexts exhaustion.workaroundGuidance
    match permissionDenial, impossibility with
    | some denial, _ => do
      let _ ← requiredText denial.permissionKind
      let _ ← requiredText denial.targetRef
      let permissionEvidence ← (uniqueTexts denial.evidenceRefs).bind someTexts
      let alternatives ← uniqueTexts denial.safeAlternativePathIds
      if alternatives.length > 0 then some (.solutionPathsRemaining alternatives)
      else do
        let evidence ← uniqueTexts (exhaustionEvidence ++ permissionEvidence)
        some (.stopAndReport ⟨goalId, .permissionDenied, receiptId, evidence, unresolvedItemIds,
          partialResultRefs, workaroundGuidance⟩)
    | none, some receipt => do
      let _ ← requiredText receipt.reasonCode
      let _ ← (uniqueTexts receipt.verifiedFacts).bind someTexts
      let evidence ← (uniqueTexts receipt.evidenceRefs).bind someTexts
      let requiredChanges ← uniqueTexts receipt.requiredChanges
      if receipt.recoverable then (someTexts requiredChanges).map .recoverableCondition
      else do
        let terminalEvidence ← uniqueTexts (exhaustionEvidence ++ evidence)
        let nextActions ← uniqueTexts (workaroundGuidance ++ requiredChanges)
        some (.stopAndReport ⟨goalId, .concreteImpossibility, receiptId, terminalEvidence,
          unresolvedItemIds, partialResultRefs, nextActions⟩)
    | none, none =>
      some (.stopAndReport ⟨goalId, .solutionPathsExhausted, receiptId, exhaustionEvidence,
        unresolvedItemIds, partialResultRefs, workaroundGuidance⟩)

end Knowbee.TopologyRuntime
