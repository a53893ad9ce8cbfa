import Knowbee.Rust
import Knowbee.SubSession.Lifecycle

/-!
# Aggregation of the results of children

`aggregate-child-result.ts`, `child-result-trust.ts` and the part of
`sub-agent-result-review.ts` that decides about a final delivery.  What is printed
and hashed by the platform is a parameter; the events for the parent and what only
describes a result in words are left out.
-/

namespace Knowbee

inductive OutputValue where
  | null
  | bool (value : Bool)
  | number (value : JsNumber)
  | string (value : String)
  | array (items : List OutputValue)
  | object (entries : List (String × OutputValue))

inductive OutputStatus where
  | satisfied | missing | unfinished
  deriving DecidableEq

structure ResultOutput where
  outputId : String
  status : OutputStatus
  value : Option OutputValue

structure AgentAttributionSnapshot where
  (entityId agentNameSnapshot : String)

/-- What is read of a `ResultReport`; `identityParentRunId` is that of the parent in
its identity. -/
structure ResultReport where
  (resultReportId parentRunId subSessionId : String)
  identityParentRunId : Option String
  source : Option AgentAttributionSnapshot
  status : ReviewStatus
  outputs : List ResultOutput

inductive ReviewVerdict where
  | accept | needsRevision | reject | limitedSuccess | insufficientEvidence
  deriving DecidableEq

inductive ParentIntegrationStatus where
  | readyForParentIntegration | requiresRevision | blockedRejected | limitedParentIntegration
  | blockedInsufficientEvidence
  deriving DecidableEq

structure ChildReview where
  accepted : Bool
  status : ReviewStatus
  verdict : Option ReviewVerdict
  parentIntegrationStatus : Option ParentIntegrationStatus
  (missingItems risksOrGaps : List String)
  impossibleReason : Option String
  canRetry : Bool

structure ParentAggregationChildInput where
  subSessionId : String
  resultReport : Option ResultReport
  review : ChildReview
  remainingAlternatives : Option (List String)
  (canUseSameChild canUseOtherDirectChild canSelfSolve needsUserDecision : Option Bool)
  returnToParentAllowed : Option Bool

structure AggregateChildResultInput where
  (parentRunId parentAgentId : String)
  directChildAgentIds : List String
  childResults : List ParentAggregationChildInput
  (canSelfSolve needsUserDecision returnToParentAllowed : Option Bool)

/-- What the platform prints and hashes; a hash reference begins with `sha256:`. -/
structure Platform where
  sha256 : String → { reference : String // isHashReference reference = true }
  stringify : OutputValue → String
  numberText : JsNumber → String
  reportText : ResultReport → String

inductive ChildResultTrustReasonCode where
  | notDirectChild | bindingInvalid | receiptBindingMismatch | receiptIsolationInvalid

structure ChildResultTrustBinding where
  (parentRunId parentAgentId childAgentId childAgentNameSnapshot subSessionId : String)
  (resultReportId resultFingerprint : String)

/-- What is compared of a receipt; `isolated` says that its three marks are set. -/
structure ChildResultTrustReceipt where
  (bindingFingerprint sourceRef : String)
  isolated : Bool

def isValidBinding (binding : ChildResultTrustBinding) : Bool :=
  [binding.parentRunId, binding.parentAgentId, binding.childAgentId, binding.childAgentNameSnapshot,
      binding.subSessionId, binding.resultReportId].all (jsTrim · ≠ "") &&
    isHashReference binding.resultFingerprint

namespace Platform

variable (platform : Platform)

/-- The hash of a text without its `sha256:`. -/
def hex (text : String) : String := String.ofList ((platform.sha256 text).1.toList.drop 7)

def bindingFingerprint (binding : ChildResultTrustBinding) : String :=
  platform.sha256 (platform.stringify (.object
    [("parentRunId", .string (jsTrim binding.parentRunId)),
      ("parentAgentId", .string (jsTrim binding.parentAgentId)),
      ("childAgentId", .string (jsTrim binding.childAgentId)),
      ("childAgentNameFingerprint",
        .string (platform.hex (jsTrim binding.childAgentNameSnapshot))),
      ("subSessionId", .string (jsTrim binding.subSessionId)),
      ("resultReportId", .string (jsTrim binding.resultReportId)),
      ("resultFingerprint", .string binding.resultFingerprint)]))

def issueChildResultTrustReceipt (binding : ChildResultTrustBinding)
    (directChildAgentIds : List String) :
    Except ChildResultTrustReasonCode ChildResultTrustReceipt :=
  if !isValidBinding binding then .error .bindingInvalid
  else
    let directChildren := (directChildAgentIds.map jsTrim).filter (· ≠ "")
    if jsTrim binding.childAgentId ∉ directChildren then .error .notDirectChild
    else
      let fingerprint := platform.bindingFingerprint binding
      .ok ⟨fingerprint, "child-result:" ++ String.ofList (fingerprint.toList.drop 7), true⟩

/-- The source of an allowed result, or why it is not allowed. -/
def validateChildResultTrustReceipt (receipt : ChildResultTrustReceipt)
    (expected : ChildResultTrustBinding) (directChildAgentIds : List String) :
    Except ChildResultTrustReasonCode String :=
  if !receipt.isolated then .error .receiptIsolationInvalid
  else
    match platform.issueChildResultTrustReceipt expected directChildAgentIds with
    | .error reasonCode => .error reasonCode
    | .ok issued =>
      if issued.bindingFingerprint ≠ receipt.bindingFingerprint ∨
          issued.sourceRef ≠ receipt.sourceRef then
        .error .receiptBindingMismatch
      else .ok receipt.sourceRef

end Platform

def ChildResultTrustReasonCode.text : ChildResultTrustReasonCode → String
  | .notDirectChild => "child_result_not_direct_child"
  | .bindingInvalid => "child_result_binding_invalid"
  | .receiptBindingMismatch => "child_result_receipt_binding_mismatch"
  | .receiptIsolationInvalid => "child_result_receipt_isolation_invalid"

def rejectedChildResult (child : ParentAggregationChildInput)
    (reasonCode : ChildResultTrustReasonCode) : ParentAggregationChildInput :=
  { child with
    resultReport := none
    review :=
      { accepted := false
        status := .failed
        verdict := some .reject
        parentIntegrationStatus := some .blockedRejected
        missingItems := [reasonCode.text]
        risksOrGaps := []
        impossibleReason := none
        canRetry := false }
    remainingAlternatives := some (child.remainingAlternatives.getD [])
    canUseSameChild := some false }

inductive ParentFacingChildResultStatus where
  | completed | limited | failed
  deriving DecidableEq

structure ParentFacingChildResult where
  subSessionId : String
  status : ParentFacingChildResultStatus
  (confirmedFacts unverifiedItems missingItems riskNotes : List String)

def uniqueNonEmpty (values : List String) : List String :=
  setAdd [] ((values.map jsTrim).filter (· ≠ ""))

def ChildReview.isLimited (review : ChildReview) : Bool :=
  review.verdict = some .limitedSuccess ∨
    review.parentIntegrationStatus = some .limitedParentIntegration

def resolveParentFacingChildResultStatus (input : ParentAggregationChildInput) :
    ParentFacingChildResultStatus :=
  if input.resultReport.any (·.status = .failed) ∨ input.review.status = .failed then .failed
  else if input.resultReport.any (·.status = .needsRevision) ∨ ¬input.review.accepted ∨
      input.review.isLimited ∨
      input.resultReport.any (fun report => report.outputs.any (·.status ≠ .satisfied)) ∨
      input.review.missingItems ≠ [] ∨ input.review.risksOrGaps ≠ [] ∨
      input.review.impossibleReason.isSome then
    .limited
  else .completed

def OutputStatus.text : OutputStatus → String
  | .satisfied => "satisfied"
  | .missing => "missing"
  | .unfinished => "partial"

inductive ParentAggregationNextAction where
  | readyForFinalization | augmentSameChild | redelegateDirectChild | selfSolve | askUser
  | returnToParent | failWithReason
  deriving DecidableEq

namespace Platform

variable (platform : Platform)

def summarizeOutputValue (outputId : String) : Option OutputValue → String
  | none => s!"output:{outputId}:satisfied"
  | some (.string value) =>
    if jsTrim value ≠ "" then jsTrim value else s!"output:{outputId}:satisfied"
  | some (.number value) => platform.numberText value
  | some (.bool value) => if value then "true" else "false"
  | some value => platform.stringify value

def summarizeChildResultForParent (input : ParentAggregationChildInput) : ParentFacingChildResult :=
  let outputs := input.resultReport.toList.flatMap (·.outputs)
  let missingItems := uniqueNonEmpty input.review.missingItems
  { subSessionId := input.subSessionId
    status := resolveParentFacingChildResultStatus input
    confirmedFacts := (outputs.filter (·.status = .satisfied)).map fun output =>
      platform.summarizeOutputValue output.outputId output.value
    unverifiedItems := uniqueNonEmpty (missingItems ++
      (outputs.filter (·.status ≠ .satisfied)).map fun output =>
        s!"{output.outputId}:{output.status.text}")
    missingItems
    riskNotes := uniqueNonEmpty (input.review.risksOrGaps ++ input.review.impossibleReason.toList) }

/-- An entry of `valuesByOutputId`. -/
structure SatisfiedValue where
  (outputId subSessionId value : String)

def satisfiedValues (child : ParentAggregationChildInput) : List SatisfiedValue :=
  (child.resultReport.toList.flatMap (·.outputs)).filterMap fun output =>
    let value := platform.summarizeOutputValue output.outputId output.value
    if output.status ≠ .satisfied ∨ jsTrim value = "" then none
    else some ⟨output.outputId, child.subSessionId, value⟩

def conflictingChildResultSubSessionIds (childInputs : List ParentAggregationChildInput) :
    List String :=
  let entries := childInputs.flatMap platform.satisfiedValues
  setAdd [] ((setAdd [] (entries.map (·.outputId))).flatMap fun outputId =>
    let values := entries.filter (·.outputId = outputId)
    if (setAdd [] (values.map (·.value))).length ≤ 1 then [] else values.map (·.subSessionId))

end Platform

def chooseParentAggregationAlternative (input : AggregateChildResultInput) :
    ParentAggregationNextAction :=
  let children := input.childResults
  if children = [] then
    if input.canSelfSolve ≠ some false then .selfSolve
    else if input.returnToParentAllowed = some true then .returnToParent
    else if input.needsUserDecision = some true then .askUser
    else .failWithReason
  else if children.any fun child => child.canUseSameChild.getD child.review.canRetry then
    .augmentSameChild
  else if children.any fun child => child.canUseOtherDirectChild = some true ∨
      0 < (child.remainingAlternatives.getD []).length then
    .redelegateDirectChild
  else if input.canSelfSolve.getD (children.any (·.canSelfSolve = some true) ||
      children.all (·.canSelfSolve ≠ some false)) then
    .selfSolve
  else if input.needsUserDecision = some true ∨ children.any (·.needsUserDecision = some true) then
    .askUser
  else if input.returnToParentAllowed = some true ∨
      children.any (·.returnToParentAllowed = some true) then
    .returnToParent
  else .failWithReason

structure ParentAggregationTrace where
  childResults : List ParentFacingChildResult
  nextAction : ParentAggregationNextAction
  finalDeliveryAllowed : Bool
  (blockedSubSessionIds limitedSubSessionIds unverifiedSubSessionIds : List String)

namespace Platform

variable (platform : Platform)

variable (input : AggregateChildResultInput)

def aggregateSubSessionResultsForParent : ParentAggregationTrace :=
  let childResults := input.childResults.map platform.summarizeChildResultForParent
  let conflictSubSessionIds := platform.conflictingChildResultSubSessionIds input.childResults
  let blockedSubSessionIds := (input.childResults.filter fun item =>
    !item.review.accepted || item.review.status = .failed).map (·.subSessionId)
  let limitedSubSessionIds := (input.childResults.filter fun item =>
    item.review.accepted && item.review.isLimited).map (·.subSessionId)
  let unverifiedSubSessionIds := (childResults.filter fun item =>
    item.status ≠ .completed ∨ item.unverifiedItems ≠ [] ∨ item.riskNotes ≠ []).map
      (·.subSessionId)
  let hasProblem := input.childResults = [] ∨ conflictSubSessionIds ≠ [] ∨
    blockedSubSessionIds ≠ [] ∨ limitedSubSessionIds ≠ [] ∨ unverifiedSubSessionIds ≠ []
  let nextAction :=
    if hasProblem then chooseParentAggregationAlternative input else .readyForFinalization
  { childResults
    nextAction
    finalDeliveryAllowed := nextAction = .readyForFinalization
    blockedSubSessionIds
    limitedSubSessionIds
    unverifiedSubSessionIds }

/-- What `AggregateChildResult.execute` finds of one child: the source of its
report, why the report is rejected, or nothing without a report. -/
def trustVerdict (child : ParentAggregationChildInput) :
    Option (Except ChildResultTrustReasonCode String) :=
  child.resultReport.map fun report =>
    if report.parentRunId ≠ input.parentRunId ∨ report.subSessionId ≠ child.subSessionId ∨
        report.identityParentRunId ≠ some input.parentRunId then
      .error .bindingInvalid
    else
      let binding : ChildResultTrustBinding :=
        { __ := input
          childAgentId := (report.source.map (·.entityId)).getD ""
          childAgentNameSnapshot := (report.source.map (·.agentNameSnapshot)).getD ""
          subSessionId := child.subSessionId
          resultReportId := report.resultReportId
          resultFingerprint := (platform.sha256 (platform.reportText report)).1 }
      match platform.issueChildResultTrustReceipt binding input.directChildAgentIds with
      | .error reasonCode => .error reasonCode
      | .ok receipt =>
        platform.validateChildResultTrustReceipt receipt binding input.directChildAgentIds

def trustedChildResult (child : ParentAggregationChildInput) : ParentAggregationChildInput :=
  match platform.trustVerdict input child with
  | some (.error reasonCode) => rejectedChildResult child reasonCode
  | _ => child

structure AggregateChildResultOutput where
  trace : ParentAggregationTrace
  finalDeliveryAllowed : Bool
  nextAction : ParentAggregationNextAction
  trustRejections : List (String × ChildResultTrustReasonCode)
  trustedChildSources : List (String × String)

def execute : AggregateChildResultOutput :=
  let trace := platform.aggregateSubSessionResultsForParent
    { input with childResults := input.childResults.map (platform.trustedChildResult input) }
  { trace
    __ := trace
    trustRejections := input.childResults.filterMap fun child =>
      match platform.trustVerdict input child with
      | some (.error reasonCode) => some (child.subSessionId, reasonCode)
      | _ => none
    trustedChildSources := input.childResults.filterMap fun child =>
      match platform.trustVerdict input child with
      | some (.ok sourceRef) => some (child.subSessionId, sourceRef)
      | _ => none }

end Platform

structure SubSessionCompletionIntegrationDecision where
  finalDeliveryAllowed : Bool
  (blockedSubSessionIds limitedSubSessionIds : List String)
  parentAggregationNextAction : Option ParentAggregationNextAction

def decideSubSessionCompletionIntegration (reviews : List (String × ChildReview)) :
    SubSessionCompletionIntegrationDecision :=
  let blocked := reviews.filter fun item => !item.2.accepted
  let limited := reviews.filter fun item => item.2.accepted && item.2.isLimited
  if blocked = [] then
    if limited ≠ [] then ⟨false, [], limited.map (·.1), some .selfSolve⟩
    else ⟨true, [], limited.map (·.1), none⟩
  else ⟨false, blocked.map (·.1), limited.map (·.1), some .augmentSameChild⟩

end Knowbee
