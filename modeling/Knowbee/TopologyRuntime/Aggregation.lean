import Knowbee.TopologyRuntime.Dispatch

/-!
# Aggregation and validation

`aggregation.ts` merges what a node, its children and its tools put out, and
`validation.ts` reviews the merged outputs against the work order.
-/

namespace Knowbee.TopologyRuntime

open Knowbee.Topology

inductive AggregationStrategy where
  | mergeAndValidate | parentDecides | requireAllChildResults | bestEffortWithWarnings | quorum
  deriving DecidableEq

inductive AggregatedResultSourceKind where
  | self | child | tool
  deriving DecidableEq

inductive IssueSeverity where
  | info | warning | needsRevision | blocked
  deriving DecidableEq

inductive AggregationIssueCode where
  | duplicateOutputRemoved | outputConflictDetected | childResultMissing | sourceFailureCandidate
  | quorumNotMet
  deriving DecidableEq

structure AggregatedResultSource where
  sourceKind : AggregatedResultSourceKind
  sourceId : String
  status : NodeResultStatus
  outputCount : Nat
  failureCandidate : Bool
  risksOrGaps : List String

structure AggregatedResultItem where
  sourceKind : AggregatedResultSourceKind
  sourceId : String
  output : NodeResultOutput
  fingerprint : String

structure AggregationIssue where
  code : AggregationIssueCode
  severity : IssueSeverity
  outputId : Option String
  sourceIds : List String

structure AggregationResult where
  strategy : AggregationStrategy
  outputs : List NodeResultOutput
  items : List AggregatedResultItem
  sources : List AggregatedResultSource
  (issues conflicts duplicates : List AggregationIssue)
  missingChildNodeIds : List String

/-- The input of an aggregation; `fingerprint` is the printed form of an output. -/
structure AggregateNodeRuntimeResultsInput where
  workOrder : WorkOrder
  strategy : AggregationStrategy
  selfOutputs : List NodeResultOutput
  selfStatus : NodeResultStatus
  selfRisksOrGaps : List String
  childDelegation : Option ChildDispatchSummary
  toolExecution : Option NodeToolExecutionSummary
  expectedChildNodeIds : List String
  requireAllChildResults : Bool
  requiredSatisfiedSourceCount : Option JsNumber
  fingerprint : NodeResultOutput → String

def isFailureCandidateStatus : NodeResultStatus → Bool
  | .failedCandidate => true
  | .permissionLimited => true
  | .failed => true
  | _ => false

def sourcePriority : AggregatedResultSourceKind → Nat
  | .self => 0
  | .child => 1
  | .tool => 2

def toolOutput (toolResult : NormalizedNodeToolResult) : NodeResultOutput where
  outputId := "tool:" ++ toolResult.toolId
  status := if toolResult.status = .succeeded then .satisfied else .missing
  value := toolResult.output

def toolSource (toolResult : NormalizedNodeToolResult) : AggregatedResultSource where
  sourceKind := .tool
  sourceId := toolResult.toolId
  status := if toolResult.failureCandidate then .failedCandidate else .completed
  outputCount := 1
  failureCandidate := toolResult.failureCandidate
  risksOrGaps := toolResult.error.toList ++
    (if toolResult.failureCandidate then [toolResult.reasonCode] else [])

def childSource (report : NodeResultReport) : AggregatedResultSource where
  sourceKind := .child
  sourceId := report.nodeId
  status := report.status
  outputCount := report.outputs.length
  failureCandidate := isFailureCandidateStatus report.status
  risksOrGaps := report.risksOrGaps

section Aggregate

variable (input : AggregateNodeRuntimeResultsInput)

def AggregateNodeRuntimeResultsInput.childReports : List NodeResultReport :=
  ((input.childDelegation.map (·.results)).getD []).filterMap (·.nodeResultReport)

def AggregateNodeRuntimeResultsInput.toolResults : List NormalizedNodeToolResult :=
  (input.toolExecution.map (·.results)).getD []

def AggregateNodeRuntimeResultsInput.selfSource : AggregatedResultSource where
  sourceKind := .self
  sourceId := input.workOrder.target.id
  status := input.selfStatus
  outputCount := input.selfOutputs.length
  failureCandidate := isFailureCandidateStatus input.selfStatus
  risksOrGaps := input.selfRisksOrGaps

def AggregateNodeRuntimeResultsInput.sources : List AggregatedResultSource :=
  input.selfSource :: input.childReports.map childSource ++ input.toolResults.map toolSource

def AggregateNodeRuntimeResultsInput.buildItem (sourceKind : AggregatedResultSourceKind)
    (sourceId : String) (output : NodeResultOutput) : AggregatedResultItem :=
  ⟨sourceKind, sourceId, output, input.fingerprint output⟩

def AggregateNodeRuntimeResultsInput.rawItems : List AggregatedResultItem :=
  input.selfOutputs.map (input.buildItem .self input.workOrder.target.id) ++
    input.childReports.flatMap (fun report =>
      report.outputs.map (input.buildItem .child report.nodeId)) ++
    input.toolResults.map fun toolResult =>
      input.buildItem .tool toolResult.toolId (toolOutput toolResult)

def AggregateNodeRuntimeResultsInput.missingChildNodeIds : List String :=
  let actualChildNodeIds := (input.sources.filter (·.sourceKind = .child)).map (·.sourceId)
  input.expectedChildNodeIds.filter (· ∉ actualChildNodeIds)

def AggregateNodeRuntimeResultsInput.satisfiedSourceCount : Nat :=
  (setAdd [] ((input.rawItems.filter (·.output.status = .satisfied)).map (·.sourceId))).length

end Aggregate

/-- The items of one output id, those with a fingerprint seen before apart. -/
def splitSeen : List String → List AggregatedResultItem →
    List AggregatedResultItem × List AggregatedResultItem
  | _, [] => ([], [])
  | seen, item :: rest =>
    if item.fingerprint ∈ seen then
      let (uniqueItems, again) := splitSeen seen rest
      (uniqueItems, item :: again)
    else
      let (uniqueItems, again) := splitSeen (item.fingerprint :: seen) rest
      (item :: uniqueItems, again)

def selectOutputForMerge (items : List AggregatedResultItem) : Option AggregatedResultItem :=
  (items.insertionSort fun left right =>
    sourcePriority left.sourceKind ≤ sourcePriority right.sourceKind).head?

structure MergedOutputs where
  outputs : List NodeResultOutput
  (duplicates conflicts : List AggregationIssue)

def mergeGroup (strategy : AggregationStrategy) (outputId : String)
    (groupedItems : List AggregatedResultItem) : MergedOutputs :=
  let (uniqueItems, again) := splitSeen [] groupedItems
  { outputs := ((selectOutputForMerge uniqueItems).map (·.output)).toList
    duplicates := again.map fun item =>
      ⟨.duplicateOutputRemoved, .info, some outputId, [item.sourceId]⟩
    conflicts :=
      if uniqueItems.length > 1 then
        [⟨.outputConflictDetected,
          if strategy = .parentDecides then .warning else .needsRevision,
          some outputId, uniqueItems.map (·.sourceId)⟩]
      else [] }

def mergeOutputs (items : List AggregatedResultItem) (strategy : AggregationStrategy) :
    MergedOutputs :=
  let groups := (setAdd [] (items.map (·.output.outputId))).map fun outputId =>
    mergeGroup strategy outputId (items.filter (·.output.outputId = outputId))
  { outputs := groups.flatMap (·.outputs)
    duplicates := groups.flatMap (·.duplicates)
    conflicts := groups.flatMap (·.conflicts) }

def missingChildIssues (input : AggregateNodeRuntimeResultsInput) : List AggregationIssue :=
  if input.missingChildNodeIds.length > 0 ∧
      (input.requireAllChildResults ∨ input.strategy = .requireAllChildResults) then
    [⟨.childResultMissing, .blocked, none, input.missingChildNodeIds⟩]
  else []

def quorumIssues (input : AggregateNodeRuntimeResultsInput) : List AggregationIssue :=
  match input.requiredSatisfiedSourceCount with
  | none => []
  | some required =>
    if input.strategy = .quorum ∧ (JsNumber.ofNat input.satisfiedSourceCount).lt required then
      [⟨.quorumNotMet, .blocked, none, input.sources.map (·.sourceId)⟩]
    else []

def sourceIssues (input : AggregateNodeRuntimeResultsInput) : List AggregationIssue :=
  (input.sources.filter (·.failureCandidate)).map fun source =>
    ⟨.sourceFailureCandidate, .warning, none, [source.sourceId]⟩

def aggregateNodeRuntimeResults (input : AggregateNodeRuntimeResultsInput) : AggregationResult :=
  let merged := mergeOutputs input.rawItems input.strategy
  { strategy := input.strategy
    outputs := merged.outputs
    items := input.rawItems
    sources := input.sources
    issues := sourceIssues input ++ missingChildIssues input ++ quorumIssues input ++
      merged.duplicates ++ merged.conflicts
    conflicts := merged.conflicts
    duplicates := merged.duplicates
    missingChildNodeIds := input.missingChildNodeIds }

inductive ValidationIssueCode where
  | requiredOutputMissing | outputSchemaValueMissing | outputSchemaTypeMismatch
  | outputSchemaRequiredFieldMissing | successCriterionUnmet | optionalSuccessCriterionUnmet
  | aggregation (code : AggregationIssueCode)
  deriving DecidableEq

def ValidationIssueCode.text : ValidationIssueCode → String
  | .requiredOutputMissing => "required_output_missing"
  | .outputSchemaValueMissing => "output_schema_value_missing"
  | .outputSchemaTypeMismatch => "output_schema_type_mismatch"
  | .outputSchemaRequiredFieldMissing => "output_schema_required_field_missing"
  | .successCriterionUnmet => "success_criterion_unmet"
  | .optionalSuccessCriterionUnmet => "optional_success_criterion_unmet"
  | .aggregation .duplicateOutputRemoved => "duplicate_output_removed"
  | .aggregation .outputConflictDetected => "output_conflict_detected"
  | .aggregation .childResultMissing => "child_result_missing"
  | .aggregation .sourceFailureCandidate => "source_failure_candidate"
  | .aggregation .quorumNotMet => "quorum_not_met"

structure AggregatedNodeValidationIssue where
  code : ValidationIssueCode
  severity : IssueSeverity
  outputId : Option String := none
  criterionId : Option String := none
  sourceIds : List String := []
  path : Option String := none

inductive AggregatedNodeValidationStatus where
  | valid | needsRevision | partialSuccess | failedCandidate

def AggregatedNodeValidationStatus.text : AggregatedNodeValidationStatus → String
  | .valid => "valid"
  | .needsRevision => "needs_revision"
  | .partialSuccess => "partial_success"
  | .failedCandidate => "failed_candidate"

structure AggregatedNodeValidationResult where
  status : AggregatedNodeValidationStatus
  nodeResultStatus : NodeResultStatus
  outputs : List NodeResultOutput
  (unmetSuccessCriteriaIds risksOrGaps : List String)
  issues : List AggregatedNodeValidationIssue

def validationStatusToNodeResultStatus : AggregatedNodeValidationStatus → NodeResultStatus
  | .valid => .completed
  | .partialSuccess => .partialSuccess
  | .needsRevision => .needsRevision
  | .failedCandidate => .failedCandidate

def carriedIssue (issue : AggregationIssue) : Option AggregatedNodeValidationIssue :=
  if issue.code = .duplicateOutputRemoved then none
  else some
    { code := .aggregation issue.code
      severity := if issue.severity = .info then .warning else issue.severity
      outputId := issue.outputId
      sourceIds := issue.sourceIds }

def schemaType (schema : Metadata) : Option String :=
  match schema.get? "type", schema.get? "kind" with
  | some (.text type), _ => some type
  | _, some (.text kind) => some kind
  | _, _ => none

def blockedOutput (code : ValidationIssueCode) (outputId : String) (path : Option String) :
    AggregatedNodeValidationIssue where
  code
  severity := .blocked
  outputId := some outputId
  path

def requiredFieldIssues (output : NodeResultOutput) (value : MetadataValue)
    (required : List String) : List AggregatedNodeValidationIssue :=
  if required.length = 0 then []
  else match value.asRecord? with
    | none => [blockedOutput .outputSchemaTypeMismatch output.outputId
        "$.expectedOutputSchema.required"]
    | some fields => (required.filter fun key => (fields.get? key).isNone).map fun key =>
        blockedOutput .outputSchemaRequiredFieldMissing output.outputId
          (some ("$.outputs." ++ output.outputId ++ "." ++ key))

variable (workOrder : WorkOrder)

def validateOutputSchemaValue (output : NodeResultOutput) : List AggregatedNodeValidationIssue :=
  match output.value with
  | none => [blockedOutput .outputSchemaValueMissing output.outputId none]
  | some value =>
    (if (schemaType workOrder.expectedOutputSchema).any
          (!enterpriseValueMatchesSchemaType value ·) then
        [blockedOutput .outputSchemaTypeMismatch output.outputId "$.expectedOutputSchema.type"]
      else []) ++
      requiredFieldIssues output value (requiredKeys workOrder.expectedOutputSchema)

def schemaIssues (outputs : List NodeResultOutput) : List AggregatedNodeValidationIssue :=
  let schemaOutputId := expectedSchemaOutputId workOrder
  match outputById outputs schemaOutputId with
  | none => [blockedOutput .requiredOutputMissing schemaOutputId none]
  | some output =>
    if output.status = .missing then [blockedOutput .requiredOutputMissing schemaOutputId none]
    else validateOutputSchemaValue workOrder output

def criterionIssue (outputs : List NodeResultOutput) (criterion : WorkOrderSuccessCriterion) :
    Option AggregatedNodeValidationIssue :=
  if isSatisfied outputs criterion.criterionId then none
  else some
    { code := if criterion.required then .successCriterionUnmet else .optionalSuccessCriterionUnmet
      severity := if criterion.required then .blocked else .warning
      outputId := some criterion.criterionId
      criterionId := some criterion.criterionId }

def decideValidationStatus (issues : List AggregatedNodeValidationIssue)
    (allowPartialSuccess : Bool) : AggregatedNodeValidationStatus :=
  if issues.any (·.code = .successCriterionUnmet) then .failedCandidate
  else if issues.any (·.severity = .blocked) then
    if allowPartialSuccess then .partialSuccess else .failedCandidate
  else if issues.any (·.severity = .needsRevision) then .needsRevision
  else if issues.any (·.severity = .warning) then
    if allowPartialSuccess then .partialSuccess else .valid
  else .valid

def validationIssueRisk (issue : AggregatedNodeValidationIssue) : String :=
  match issue.criterionId, issue.outputId with
  | some criterionId, _ => issue.code.text ++ ":" ++ criterionId
  | none, some outputId => issue.code.text ++ ":" ++ outputId
  | none, none =>
    if issue.sourceIds.length > 0 then issue.code.text ++ ":" ++ ",".intercalate issue.sourceIds
    else issue.code.text

def validationIssues (aggregation : AggregationResult) : List AggregatedNodeValidationIssue :=
  aggregation.issues.filterMap carriedIssue ++ schemaIssues workOrder aggregation.outputs ++
    workOrder.successCriteria.filterMap (criterionIssue aggregation.outputs)

def validateAggregatedNodeResult (aggregation : AggregationResult) (allowPartialSuccess : Bool) :
    AggregatedNodeValidationResult :=
  let issues := validationIssues workOrder aggregation
  let status := decideValidationStatus issues allowPartialSuccess
  { status
    nodeResultStatus := validationStatusToNodeResultStatus status
    outputs := aggregation.outputs
    unmetSuccessCriteriaIds := unmetSuccessCriteriaIdsForOutputs workOrder aggregation.outputs
    risksOrGaps := issues.map validationIssueRisk
    issues }

end Knowbee.TopologyRuntime
