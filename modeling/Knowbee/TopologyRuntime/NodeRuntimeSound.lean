import Knowbee.TopologyRuntime.AggregationSound
import Knowbee.TopologyRuntime.DelegationSound
import Knowbee.TopologyRuntime.NodeRuntime

/-!
# What the status of a run means

The handlers of a run act after its checks allowed them, and a run fails only where a
diagnosis authorized the stop.  A completed run satisfied its work order unless it overlooked
a failure: an aggregation takes failing children and tools for warnings and a partial output
for the one the schema asks for, and a run without one passes over a child to be revised.
-/

namespace Knowbee.TopologyRuntime.Node

open Knowbee.Topology List Traced Option

/-! ## Blank texts -/

lemma not_blank_of_mem {c : Char} {text : String} (visible : isTrimmed c = false)
    (member : c ∈ text.toList) : jsTrim text ≠ "" := by
  intro blank
  rw [jsTrim_eq] at blank
  have none : (text.toList.dropWhile isTrimmed).rdropWhile isTrimmed = [] :=
    String.ofList_injective blank
  have rest := rdropWhile_eq_nil_iff.mp none
  have front : text.toList.dropWhile isTrimmed = [] := by
    by_contra some
    have first := head_dropWhile_not isTrimmed some
    rw [rest _ (head_mem some)] at first
    exact nomatch first
  rw [dropWhile_eq_nil_iff.mp front c member] at visible
  exact nomatch visible

lemma distinctRisks_eq_nil_iff {risks : List String} :
    distinctRisks risks = [] ↔ ∀ risk ∈ risks, jsTrim risk = "" := by
  rw [distinctRisks, eq_nil_iff_forall_not_mem]
  constructor
  · intro none risk member
    by_contra visible
    refine none risk (mem_setAdd.mpr (.inr (mem_filter.mpr ⟨member, ?_⟩)))
    simpa using visible
  · intro blank risk member
    rcases mem_setAdd.mp member with nothing | kept
    · exact not_mem_nil nothing
    · obtain ⟨member, visible⟩ := mem_filter.mp kept
      simp [blank risk member] at visible

/-! ## Quiet runs -/

def Quiet {α : Type} (run : RuntimeRun α) : Prop := ∀ event ∈ run.told, event.acts = false

lemma Quiet.pure {α : Type} (value : α) : Quiet (pure value : RuntimeRun α) :=
  nofun

lemma Quiet.tell (state : NodeRuntimeState) : Quiet (tell (RuntimeEvent.state state)) :=
  fun _ member => mem_singleton.mp member ▸ rfl

lemma Quiet.ofOption {α : Type} (value : Option α) : Quiet (ofOption value : RuntimeRun α) :=
  nofun

lemma Quiet.bind {α β : Type} {first : RuntimeRun α} {next : α → RuntimeRun β}
    (quiet : Quiet first) (quiet' : ∀ value, Quiet (next value)) : Quiet (first >>= next) := by
  intro event member
  rcases mem_bind_told member with here | ⟨value, -, later⟩
  · exact quiet event here
  · exact quiet' value event later

section Reports

variable {input : RunInput} {progress : Progress} {report : Report}

lemma reviewFailureCandidate_quiet (recovery : RecoveryOptions) :
    Quiet (reviewFailureCandidate input progress report recovery) := by
  refine Quiet.bind (Quiet.ofOption _) fun assessment => ?_
  simp only
  split
  · exact Quiet.bind (Quiet.tell _) fun _ => Quiet.pure _
  · exact Quiet.bind (Quiet.tell _) fun _ => Quiet.pure _

lemma completeWithReport_quiet : Quiet (completeWithReport input progress report) := by
  have finish : ∀ status, Quiet (do
      tell (RuntimeEvent.state (finalStateForNodeResultStatus report.status))
      pure (finishedResult input progress report status report.risksOrGaps none)) :=
    fun status => Quiet.bind (Quiet.tell _) fun _ => Quiet.pure _
  refine Quiet.bind (Quiet.tell _) fun _ => ?_
  by_cases candidate : finalStateForNodeResultStatus report.status = .failedCandidate
  · simp only [candidate, if_true]
    refine Quiet.bind (Quiet.tell _) fun _ => ?_
    cases input.recovery with
    | none => exact candidate ▸ finish _
    | some recovery =>
      by_cases reviewed : report.status = .failedCandidate ∧ recovery.enabled = true
      · simp only [reviewed, and_self, if_true]
        exact reviewFailureCandidate_quiet recovery
      · simp only [reviewed, if_false]
        exact candidate ▸ finish _
  · simp only [candidate, if_false]
    exact finish _

/-! ## Failed runs -/

/-- A diagnosis of a subject that authorizes the stop. -/
def Diagnosed (provider : DiagnosisPlatform) (subject : ResultDiagnosisSubject)
    (receipt : LlmDiagnosisReceipt) (diagnosis : LlmResultDiagnosisRecord) : Prop :=
  provider.runResultDiagnosisProvider subject = some (some (receipt, diagnosis)) ∧
    authorizeDiagnosisActionRoute provider receipt subject diagnosis =
      some (receipt.receiptId, .stopBlocked)

/-- A failure that the exhaustion check allowed, under a stop that a diagnosis of the run
authorized. -/
def FailureJustified (input : RunInput) (result : ExecutionResult) : Prop :=
  ∃ recovery exhaustion provider stop, input.recovery = some recovery ∧ recovery.enabled = true ∧
    result.exhaustion = some exhaustion ∧ exhaustion.canFinalizeFailure = true ∧
    recovery.diagnosisProvider = some provider ∧ result.terminalStopDecision = some stop ∧
    ∃ (report : Report) (reviews : List SolutionPathReview) (risks : List String)
      (receipt : LlmDiagnosisReceipt) (diagnosis : LlmResultDiagnosisRecord),
      report.outputs = result.nodeResultReport.outputs ∧
      Diagnosed provider (diagnosisSubject input report reviews risks) receipt diagnosis

lemma authorizeDiagnosisActionRoute_receipt {platform : DiagnosisPlatform}
    {receipt : LlmDiagnosisReceipt} {subject : ResultDiagnosisSubject}
    {diagnosis : LlmResultDiagnosisRecord} {receiptId : String} {action : RecommendedAction}
    (routed : authorizeDiagnosisActionRoute platform receipt subject diagnosis =
      some (receiptId, action)) : receiptId = receipt.receiptId := by
  unfold authorizeDiagnosisActionRoute at routed
  split_ifs at routed
  exact (Prod.mk.inj (some.inj routed)).1.symm

lemma assessAuthorized_stopBlocked {platform : DiagnosisPlatform}
    {receipt : LlmDiagnosisReceipt} {subject : ResultDiagnosisSubject}
    {diagnosis : LlmResultDiagnosisRecord} {reviews : List AuthorizedSolutionPathReview}
    {authorized : AuthorizedSolutionPathExhaustionAssessment}
    (assessed : assessAuthorizedSolutionPathExhaustion platform receipt subject diagnosis reviews =
      some authorized) (final : authorized.canFinalizeFailure = true) :
    authorizeDiagnosisActionRoute platform receipt subject diagnosis =
      some (receipt.receiptId, .stopBlocked) := by
  obtain ⟨⟨receiptId, action⟩, routed, assessed⟩ := bind_eq_some_iff.mp assessed
  simp only at assessed
  split_ifs at assessed with allowed
  obtain ⟨base, -, assessed⟩ := bind_eq_some_iff.mp assessed
  split_ifs at assessed with complete
  cases assessed
  have stop := of_decide_eq_true (Bool.and_eq_true_iff.mp final).2
  rw [routed, authorizeDiagnosisActionRoute_receipt routed, stop]

lemma stopDecision_authorized {recovery : RecoveryOptions} {reviews : List SolutionPathReview}
    {exhaustion : NodeExhaustionCheckResult} {risks : List String} {stop : BlockedStopReportInput}
    (decided : stopReport (stopDecision input progress report recovery reviews exhaustion risks) =
      some stop) :
    exhaustion.canFinalizeFailure = true ∧ ∃ provider, recovery.diagnosisProvider = some provider ∧
      ∃ receipt diagnosis,
        Diagnosed provider (diagnosisSubject input report reviews risks) receipt diagnosis := by
  unfold stopDecision at decided
  by_cases final : exhaustion.canFinalizeFailure = true
  · rw [if_pos final] at decided
    refine ⟨final, ?_⟩
    cases given : recovery.diagnosisProvider with
    | none =>
      rw [given] at decided
      exact nomatch decided
    | some provider =>
      rw [given, bind_some] at decided
      cases decision : diagnosedStop input progress report provider reviews exhaustion risks with
      | none =>
        rw [decision] at decided
        exact nomatch decided
      | some made =>
        obtain ⟨answer, answered, made⟩ := bind_eq_some_iff.mp decision
        obtain ⟨⟨receipt, diagnosis⟩, valid, made⟩ := bind_eq_some_iff.mp made
        obtain ⟨authorized, assessed, made⟩ := bind_eq_some_iff.mp made
        by_cases stops : authorized.canFinalizeFailure = true
        · exact ⟨provider, rfl, receipt, diagnosis, valid ▸ answered,
            assessAuthorized_stopBlocked assessed stops⟩
        · rw [if_neg stops] at made
          exact nomatch made
  · rw [if_neg final] at decided
    exact nomatch decided

/-- How a run ends: under the status of its report, or failed with a reason. -/
structure Ends (input : RunInput) (report : Report) (result : ExecutionResult) : Prop where
  status : result.status = report.status ∨ result.status = .failed ∧ FailureJustified input result
  outputs : result.nodeResultReport.outputs = report.outputs

lemma reviewFailureCandidate_ends {recovery : RecoveryOptions} {result : ExecutionResult}
    (given : input.recovery = some recovery) (enabled : recovery.enabled = true)
    (ended : (reviewFailureCandidate input progress report recovery).value? = some result) :
    Ends input report result := by
  obtain ⟨assessment, -, ended⟩ := bind_value?.mp ended
  simp only at ended
  split at ended
  case h_1 stop decided =>
    obtain ⟨-, -, ended⟩ := bind_value?.mp ended
    cases ended
    obtain ⟨final, provider, provided, receipt, diagnosis, diagnosed⟩ :=
      stopDecision_authorized decided
    exact ⟨.inr ⟨rfl, recovery, _, provider, stop, given, enabled, rfl, final, provided, rfl,
      report, _, _, receipt, diagnosis, rfl, diagnosed⟩, rfl⟩
  case h_2 =>
    obtain ⟨-, -, ended⟩ := bind_value?.mp ended
    cases ended
    exact ⟨.inl rfl, rfl⟩

lemma completeWithReport_ends {result : ExecutionResult}
    (ended : (completeWithReport input progress report).value? = some result) :
    Ends input report result := by
  obtain ⟨-, -, ended⟩ := bind_value?.mp ended
  have finish : (do
      tell (RuntimeEvent.state (finalStateForNodeResultStatus report.status))
      pure (finishedResult input progress report report.status report.risksOrGaps none) :
        RuntimeRun ExecutionResult).value? = some result → Ends input report result := by
    intro ended
    obtain ⟨-, -, ended⟩ := bind_value?.mp ended
    cases ended
    exact ⟨.inl rfl, rfl⟩
  by_cases candidate : finalStateForNodeResultStatus report.status = .failedCandidate
  · simp only [candidate, if_true] at ended
    obtain ⟨-, -, ended⟩ := bind_value?.mp ended
    cases given : input.recovery with
    | none =>
      rw [given] at ended
      exact finish (candidate ▸ ended)
    | some recovery =>
      rw [given] at ended
      by_cases reviewed : report.status = .failedCandidate ∧ recovery.enabled = true
      · simp only [reviewed, and_self, if_true] at ended
        exact reviewFailureCandidate_ends given reviewed.2 ended
      · simp only [reviewed, if_false] at ended
        exact finish (candidate ▸ ended)
  · simp only [candidate, if_false] at ended
    exact finish ended

lemma completeWithReport_completed (done : report.status = .completed) :
    ∃ result, (completeWithReport input progress report).value? = some result ∧
      result.status = .completed ∧ result.nodeResultReport.outputs = report.outputs := by
  refine ⟨finishedResult input progress report report.status report.risksOrGaps none, ?_, done, rfl⟩
  refine bind_value?.mpr ⟨(), rfl, ?_⟩
  have other : finalStateForNodeResultStatus report.status ≠ .failedCandidate := by
    rw [done]
    nofun
  simp only [other, if_false]
  exact bind_value?.mpr ⟨(), rfl, rfl⟩

end Reports

/-! ## Children and tools -/

def failing : ChildDispatchStatus → Bool
  | .failedCandidate => true
  | .permissionLimited => true
  | _ => false

/-- A plan set a requested child aside. -/
def Unplanned (summary : ChildDispatchSummary) : Prop :=
  summary.plan.skipped ≠ [] ∧ summary.plan.status ≠ .skipped

/-- A child that failed, or that was asked for and not run. -/
def UnresolvedChild (summary : ChildDispatchSummary) : Prop :=
  (∃ result ∈ summary.results, failing result.status = true) ∨
    Unplanned summary

def UnresolvedTool (summary : NodeToolExecutionSummary) : Prop :=
  ∃ result ∈ summary.results, result.failureCandidate = true

/-- What a dispatch of children makes sure of. -/
structure Dispatched (summary : ChildDispatchSummary) : Prop where
  candidates : ∀ result ∈ summary.results, result.failureCandidate = true →
    failing result.status = true
  planned : summary.plan.status = .planned → summary.plan.skipped = []
  blocked : summary.plan.status = .blocked → summary.status = .blocked

section Children

variable {handlers : ChildHandlers} {contracts : String → Option NodeContract}

lemma dispatchChild_candidate {count : Nat} {planItem : PlannedChildWorkOrder}
    {result : ChildDispatchResult}
    (made : (dispatchChild handlers contracts count planItem).value? = some result)
    (candidate : result.failureCandidate = true) :
    failing result.status = true := by
  unfold dispatchChild at made
  cases contract : contracts planItem.childNodeId with
  | none =>
    rw [contract] at made
    cases made
    rfl
  | some contract' =>
    rw [contract] at made
    simp only at made
    cases created : handlers.createEnvelope count planItem.workOrder contract' with
    | error issues =>
      rw [created] at made
      cases made
      rfl
    | ok envelope =>
      rw [created] at made
      obtain ⟨-, -, made⟩ := bind_value?.mp made
      obtain ⟨childResult, -, made⟩ := bind_value?.mp made
      cases made
      simp only [childDispatchResult] at candidate ⊢
      cases status : childResult.status <;> rw [status] at candidate <;>
        first | rfl | exact nomatch candidate

lemma dispatchChildren_candidates {count : Nat} {planned : List PlannedChildWorkOrder}
    {results : List ChildDispatchResult}
    (made : (dispatchChildren handlers contracts count planned).value? = some results) :
    ∀ result ∈ results, result.failureCandidate = true →
      failing result.status = true := by
  induction planned generalizing count results with
  | nil =>
    cases made
    exact fun _ member => absurd member not_mem_nil
  | cons planItem rest ih =>
    obtain ⟨first, one, made⟩ := bind_value?.mp made
    obtain ⟨others, more, made⟩ := bind_value?.mp made
    cases made
    exact forall_mem_cons.mpr ⟨dispatchChild_candidate one, ih more⟩

lemma planChildDelegation_status (snapshot : CompiledTopologySnapshot)
    (input : PlanChildDelegationInput) :
    ((planChildDelegation snapshot input).status = .planned →
      (planChildDelegation snapshot input).skipped = []) ∧
    ((planChildDelegation snapshot input).status = .blocked →
      (planChildDelegation snapshot input).childWorkOrders = []) := by
  have finalized : ∀ status candidates
      childWorkOrders skipped
      reasonCodes, status ≠ .planned →
      let plan := finalizePlan input status candidates childWorkOrders skipped reasonCodes
      (plan.status = .planned → plan.skipped = []) ∧
        (plan.status = .blocked → plan.childWorkOrders = []) := by
    intro status candidates childWorkOrders skipped reasonCodes other
    simp only [finalizePlan]
    cases childWorkOrders with
    | nil => simp [other]
    | cons child rest =>
      cases skipped with
      | nil => simp
      | cons issue more => simp
  unfold planChildDelegation
  by_cases missing : (snapshot.nodeIndex.get? input.parentId).isNone = true
  · rw [if_pos missing]
    exact finalized _ _ _ _ _ nofun
  · rw [if_neg missing]
    simp only
    by_cases none : (input.targetChildNodeIds.getD ((listDirectChildDelegationCandidates snapshot
        input.parentId input.parentWorkOrder).map (·.childNode.node.id))).length = 0
    · rw [if_pos none]
      exact finalized _ _ _ _ _ nofun
    · rw [if_neg none]
      exact finalized _ _ _ _ _ nofun

lemma dispatchPlannedChildren_dispatched {snapshot : CompiledTopologySnapshot}
    {input : PlanChildDelegationInput} {summary : ChildDispatchSummary}
    (made : (dispatchPlannedChildren handlers contracts
      (planChildDelegation snapshot input)).value? = some summary) : Dispatched summary := by
  obtain ⟨planned, blocked⟩ := planChildDelegation_status snapshot input
  unfold dispatchPlannedChildren at made
  by_cases none : (planChildDelegation snapshot input).childWorkOrders.length = 0
  · rw [if_pos none] at made
    cases made
    refine ⟨fun _ member => absurd member not_mem_nil, planned, fun status => ?_⟩
    have other : (planChildDelegation snapshot input).status ≠ .skipped := by
      intro skipped
      exact nomatch skipped.symm.trans status
    exact if_neg other
  · rw [if_neg none] at made
    obtain ⟨results, dispatched, made⟩ := bind_value?.mp made
    cases made
    exact ⟨dispatchChildren_candidates dispatched, planned,
      fun status => absurd (length_eq_zero_iff.mpr (blocked status)) none⟩

end Children

lemma childDelegationRiskCodes_eq_nil_iff {summary : ChildDispatchSummary}
    (dispatched : Dispatched summary) :
    childDelegationRiskCodes (some summary) = [] ↔
      (∀ result ∈ summary.results, result.failureCandidate = false) ∧ ¬Unplanned summary := by
  have skipped_nil : ∀ {plan : DelegationPlan},
      (∀ risk ∈ skippedRisks plan, jsTrim risk = "") ↔ plan.skipped = [] := by
    intro plan
    constructor
    · intro blank
      refine eq_nil_iff_forall_not_mem.mpr fun issue member => ?_
      refine not_blank_of_mem (c := ':') rfl ?_ (blank _ (mem_map_of_mem member))
      simp
    · intro none
      simp [skippedRisks, none]
  rw [childDelegationRiskCodes, distinctRisks_eq_nil_iff]
  simp only [forall_mem_append]
  have candidates : (∀ risk ∈ summary.failureCandidateResults.flatMap fun result =>
        ("child_result_" ++ ChildDispatchStatus.text result.status ++ ":" ++ result.childNodeId) ::
          result.risksOrGaps, jsTrim risk = "") ↔
      ∀ result ∈ summary.results, result.failureCandidate = false := by
    constructor
    · intro blank result member
      by_contra candidate
      have listed : result ∈ summary.failureCandidateResults :=
        mem_filter.mpr ⟨member, by simpa using candidate⟩
      refine not_blank_of_mem (c := ':') rfl ?_
        (blank _ (mem_flatMap.mpr ⟨result, listed, mem_cons_self⟩))
      simp
    · intro none risk member
      obtain ⟨result, listed, -⟩ := mem_flatMap.mp member
      obtain ⟨held, candidate⟩ := mem_filter.mp listed
      rw [none result held] at candidate
      exact nomatch candidate
  rw [candidates, and_assoc]
  refine and_congr_right fun _ => ?_
  unfold Unplanned
  cases status : summary.plan.status with
  | planned =>
    have blank := skipped_nil.mpr (dispatched.planned status)
    simpa [dispatched.planned status] using fun risk _ member => blank risk member
  | partly =>
    simp only [reduceCtorEq, if_true, ne_eq, not_false_eq_true, and_true, not_not, skipped_nil]
    refine ⟨fun blank => blank.2, fun none => ⟨fun risk member => ?_, none⟩⟩
    split_ifs at member
    · exact skipped_nil.mpr none risk member
    · cases member
  | blocked => simp [dispatched.blocked status, skipped_nil]
  | skipped => simp

lemma toolExecutionRiskCodes_eq_nil_iff {summary : NodeToolExecutionSummary} :
    toolExecutionRiskCodes (some summary) = [] ↔ ¬UnresolvedTool summary := by
  rw [toolExecutionRiskCodes, distinctRisks_eq_nil_iff]
  constructor
  · rintro blank ⟨result, member, candidate⟩
    have listed : result ∈ summary.failureCandidateResults := mem_filter.mpr ⟨member, candidate⟩
    refine not_blank_of_mem (c := ':') rfl ?_ (blank
      ("tool_result_" ++ result.status.text ++ ":" ++ result.toolId)
      (mem_flatMap.mpr ⟨result, listed, ?_⟩))
    · simp
    · simp
  · intro none risk member
    obtain ⟨result, listed, -⟩ := mem_flatMap.mp member
    obtain ⟨held, candidate⟩ := mem_filter.mp listed
    exact absurd ⟨result, held, candidate⟩ none

/-! ## Answers -/

def Answers.evidence (answers : Answers) : List NodeResultOutput :=
  answers.selfExecution.outputs ++
    (((answers.childDelegation.map (·.results)).getD []).filterMap
      (·.nodeResultReport)).flatMap (·.outputs) ++
    ((answers.toolExecution.map (·.results)).getD []).map toolOutput

def Resolved (answers : Answers) : Prop :=
  (∀ summary ∈ answers.childDelegation, ¬UnresolvedChild summary) ∧
    ∀ summary ∈ answers.toolExecution, ¬UnresolvedTool summary

structure Checked (input : RunInput) : Prop where
  inputIssues : input.inputIssues = []
  permission : input.permissionDecision.allowed = true
  authority : input.authorityDecision.allowed = true

section Answers

variable {input : RunInput} {answers : Answers}

lemma collectAnswers_dispatched (collected : (collectAnswers input).value? = some answers) :
    ∀ summary ∈ answers.childDelegation, Dispatched summary := by
  obtain ⟨-, -, collected⟩ := bind_value?.mp collected
  obtain ⟨-, -, collected⟩ := bind_value?.mp collected
  obtain ⟨selfExecution, -, collected⟩ := bind_value?.mp collected
  obtain ⟨childDelegation, delegated, collected⟩ := bind_value?.mp collected
  obtain ⟨toolExecution, -, collected⟩ := bind_value?.mp collected
  cases collected
  intro summary member
  cases member
  unfold delegateToChildren at delegated
  cases given : input.childDelegation with
  | none =>
    rw [given] at delegated
    exact nomatch delegated
  | some delegation =>
    rw [given] at delegated
    simp only at delegated
    by_cases enabled : delegation.enabled = true
    · rw [if_pos enabled] at delegated
      -- the state is only told where there is something to delegate
      have dispatched : (dispatchPlannedChildren delegation.handlers
          delegation.childNodeContractsById (childPlan input delegation)).value? = some summary := by
        split_ifs at delegated
        · obtain ⟨-, -, delegated⟩ := bind_value?.mp delegated
          obtain ⟨made, dispatched, same⟩ := bind_value?.mp delegated
          cases same
          exact dispatched
        · obtain ⟨made, dispatched, same⟩ := bind_value?.mp delegated
          cases same
          exact dispatched
      exact dispatchPlannedChildren_dispatched dispatched
    · rw [if_neg enabled] at delegated
      exact nomatch delegated

lemma mem_selfOutputs {output : NodeResultOutput} (member : output ∈ selfOutputs input answers)
    (satisfied : output.status = .satisfied) : output ∈ answers.selfExecution.outputs := by
  rcases mem_append.mp member with own | filled
  · exact own
  · obtain ⟨expected, -, rfl⟩ := mem_map.mp filled
    exact nomatch satisfied

lemma selfDecision_completed_iff :
    (selfDecision input answers).status = .completed ↔
      answers.selfExecution.status.getD .completed = .completed ∧
        ∀ expected ∈ input.envelope.expectedOutputs, expected.required = true →
          isSatisfied (selfOutputs input answers) expected.outputId = true := by
  have unmet_nil : unmetRequiredOutputIds input.envelope.expectedOutputs
      (selfOutputs input answers) = [] ↔
      ∀ expected ∈ input.envelope.expectedOutputs, expected.required = true →
        isSatisfied (selfOutputs input answers) expected.outputId = true := by
    simp only [unmetRequiredOutputIds, map_eq_nil_iff, filter_eq_nil_iff,
      mem_filter, Bool.not_eq_true', Bool.not_eq_false, and_imp]
  rw [← unmet_nil]
  unfold selfDecision decideSelfExecutionReport
  simp only
  cases answers.selfExecution.status.getD .completed with
  | completed =>
    cases unmetRequiredOutputIds input.envelope.expectedOutputs (selfOutputs input answers) with
    | nil => simp
    | cons id rest => simp
  | partialSuccess => simp
  | failedCandidate => simp
  | permissionLimited => simp
  | needsRevision => simp
  | failed => simp

lemma selfDecision_ne_failed : (selfDecision input answers).status ≠ .failed := by
  unfold selfDecision decideSelfExecutionReport
  simp only
  cases answers.selfExecution.status.getD .completed with
  | completed => split_ifs <;> nofun
  | partialSuccess => nofun
  | failedCandidate => nofun
  | permissionLimited => nofun
  | needsRevision => nofun
  | failed => nofun

/-- A run that does not aggregate holds back every risk. -/
lemma finalDecision_completed_iff :
    (finalDecision input answers).status = .completed ↔
      childDelegationRiskCodes answers.childDelegation = [] ∧
        toolExecutionRiskCodes answers.toolExecution = [] ∧
          (selfDecision input answers).status = .completed := by
  unfold finalDecision
  cases childDelegationRiskCodes answers.childDelegation with
  | cons risk rest => simp
  | nil =>
    cases toolExecutionRiskCodes answers.toolExecution with
    | cons risk rest => simp
    | nil => simp

lemma answersReport_ne_failed : (answersReport input answers).status ≠ .failed := by
  unfold answersReport
  cases input.aggregation.filter (·.enabled) with
  | some options =>
    simp only [validated, validateAggregatedNodeResult]
    cases decideValidationStatus (validationIssues input.workOrder
      (aggregated input answers options)) (allowPartialSuccess input options) <;>
      simp [validationStatusToNodeResultStatus]
  | none =>
    simp only [finalDecision]
    split_ifs
    · simp
    · simp
    · exact selfDecision_ne_failed

lemma mem_evidence_of_aggregated {options : AggregationOptions} {output : NodeResultOutput}
    (member : output ∈ (aggregated input answers options).outputs)
    (satisfied : output.status = .satisfied) : output ∈ answers.evidence := by
  unfold Answers.evidence
  rcases mem_aggregated_outputs member with own | ⟨report, reported, held⟩ | ⟨tool, used, rfl⟩
  · exact mem_append_left _ (mem_append_left _ (mem_selfOutputs own satisfied))
  · exact mem_append_left _ (mem_append_right _
      (mem_flatMap.mpr ⟨report, reported, held⟩))
  · exact mem_append_right _ (mem_map_of_mem used)

/-! ## Runs -/

/-- Every handler acts after the checks allowed it. -/
def Guarded (events : List RuntimeEvent) : Prop :=
  ∀ before event after, events = before ++ event :: after → event.acts = true →
    .permissionChecked true ∈ before ∧ .authorityChecked true ∈ before

/-- A completed run has satisfied every required output, and left no child and no tool
failed. -/
def Accomplished (input : RunInput) (result : ExecutionResult) : Prop :=
  ∃ answers, (collectAnswers input).value? = some answers ∧
    (∀ expected ∈ input.envelope.expectedOutputs, expected.required = true →
      ∃ output ∈ answers.evidence,
        outputById result.nodeResultReport.outputs expected.outputId = some output ∧
          output.status = .satisfied) ∧
    Resolved answers

def StatusSound (input : RunInput) : Prop :=
  Guarded (runNodeRuntime input).told ∧
    ∀ result, (runNodeRuntime input).value? = some result →
      (result.status = .failed → FailureJustified input result) ∧
        (result.status = .completed → Accomplished input result)

/-- The runs that complete over something they should not. -/
inductive Overlooks (input : RunInput) : Prop
  /-- Without an aggregation: a child that failed and is no failure candidate. -/
  | direct {answers : Answers} (checked : Checked input)
    (collected : (collectAnswers input).value? = some answers)
    (plain : input.aggregation.filter (·.enabled) = none)
    (asked : answers.selfExecution.status.getD .completed = .completed)
    (outputs : ∀ expected ∈ input.envelope.expectedOutputs, expected.required = true →
      isSatisfied (selfOutputs input answers) expected.outputId = true)
    (tools : ∀ summary ∈ answers.toolExecution, ¬UnresolvedTool summary)
    (children : ∀ summary ∈ answers.childDelegation,
      (∀ result ∈ summary.results, result.failureCandidate = false) ∧ ¬Unplanned summary)
    (revised : ∃ summary ∈ answers.childDelegation, ∃ result ∈ summary.results,
      failing result.status = true)
  /-- Under an aggregation that is accepted: a failed child or tool, or a partial output
  where the schema asks for one. -/
  | aggregated {answers : Answers} {options : AggregationOptions} (checked : Checked input)
    (collected : (collectAnswers input).value? = some answers)
    (aggregates : input.aggregation.filter (·.enabled) = some options)
    (accepted : Accepts (aggregationInput input answers options)
      (allowPartialSuccess input options))
    (unmet : ¬Resolved answers ∨ ∃ output, outputById (aggregated input answers options).outputs
      (expectedSchemaOutputId input.workOrder) = some output ∧ output.status = .partly)

variable {result : ExecutionResult}

lemma early_report {report : Report}
    (early : report.status = .failedCandidate ∨ report.status = .permissionLimited)
    (ended : (completeWithReport input {} report).value? = some result) :
    result.status ≠ .completed ∧ (result.status = .failed → FailureJustified input result) := by
  rcases (completeWithReport_ends ended).status with same | ⟨failed, justified⟩
  · rw [same]
    rcases early with candidate | limited
    · rw [candidate]
      exact ⟨nofun, nofun⟩
    · rw [limited]
      exact ⟨nofun, nofun⟩
  · rw [failed]
    exact ⟨nofun, fun _ => justified⟩

lemma runNodeRuntime_ends (ended : (runNodeRuntime input).value? = some result) :
    (result.status ≠ .completed ∧ (result.status = .failed → FailureJustified input result)) ∨
      Checked input ∧ ∃ answers, (collectAnswers input).value? = some answers ∧
        Ends input (answersReport input answers) result := by
  have ended : (checkedRun input).value? = some result := ended
  unfold checkedRun at ended
  by_cases issues : input.inputIssues.length > 0
  · rw [if_pos issues] at ended
    exact .inl (early_report (.inl rfl) ended)
  · rw [if_neg issues] at ended
    obtain ⟨-, -, ended⟩ := bind_value?.mp ended
    by_cases denied : ¬input.permissionDecision.allowed = true
    · rw [if_pos denied] at ended
      exact .inl (early_report (.inr rfl) ended)
    · rw [if_neg denied] at ended
      by_cases refused : ¬input.authorityDecision.allowed = true
      · rw [if_pos refused] at ended
        exact .inl (early_report (.inr rfl) ended)
      · rw [if_neg refused] at ended
        obtain ⟨answers, collected, ended⟩ := bind_value?.mp ended
        obtain ⟨-, -, ended⟩ := bind_value?.mp ended
        exact .inr ⟨⟨by simpa using issues, not_not.mp denied, not_not.mp refused⟩, answers,
          collected, completeWithReport_ends ended⟩

lemma checkedRun_of_checked (checked : Checked input) :
    checkedRun input = (do
      tell (.state .permissionChecking)
      execute input) := by
  unfold checkedRun
  rw [if_neg (by rw [checked.inputIssues]; nofun),
    if_neg (not_not.mpr checked.permission), if_neg (not_not.mpr checked.authority)]

lemma runNodeRuntime_completed (checked : Checked input)
    (collected : (collectAnswers input).value? = some answers)
    (done : (answersReport input answers).status = .completed) :
    ∃ result, (runNodeRuntime input).value? = some result ∧ result.status = .completed ∧
      result.nodeResultReport.outputs = (answersReport input answers).outputs := by
  have reported : ∃ result, (completeWithReport input (answersProgress input answers)
      (answersReport input answers)).value? = some result ∧ result.status = .completed ∧
        result.nodeResultReport.outputs = (answersReport input answers).outputs :=
    completeWithReport_completed done
  obtain ⟨result, ended, completed, outputs⟩ := reported
  refine ⟨result, ?_, completed, outputs⟩
  change (checkedRun input).value? = some result
  rw [checkedRun_of_checked checked]
  exact bind_value?.mpr ⟨(), rfl, bind_value?.mpr ⟨answers, collected,
    bind_value?.mpr ⟨(), rfl, ended⟩⟩⟩

/-- **Handlers act after the checks.** -/
lemma runNodeRuntime_guarded (input : RunInput) : Guarded (runNodeRuntime input).told := by
  intro before event after told acts
  have told : openingEvents input ++ (checkedRun input).told = before ++ event :: after := told
  have opening : ∀ event ∈ openingEvents input, event.acts = false := by
    simp [openingEvents, RuntimeEvent.acts]
  have checked : Checked input := by
    have acting : event ∈ (checkedRun input).told := by
      have listed : event ∈ openingEvents input ++ (checkedRun input).told :=
        told ▸ mem_append_right _ mem_cons_self
      rcases mem_append.mp listed with early | later
      · rw [opening event early] at acts
        exact nomatch acts
      · exact later
    by_contra unchecked
    have quiet : Quiet (checkedRun input) := by
      unfold checkedRun
      by_cases issues : input.inputIssues.length > 0
      · rw [if_pos issues]
        exact completeWithReport_quiet
      · rw [if_neg issues]
        refine Quiet.bind (Quiet.tell _) fun _ => ?_
        by_cases denied : ¬input.permissionDecision.allowed = true
        · rw [if_pos denied]
          exact completeWithReport_quiet
        · rw [if_neg denied, if_pos fun refused => unchecked
            ⟨by simpa using issues, not_not.mp denied, refused⟩]
          exact completeWithReport_quiet
    rw [quiet event acting] at acts
    exact nomatch acts
  have front : openingEvents input <+: before := by
    rcases append_eq_append_iff.mp told with ⟨rest, same, -⟩ | ⟨rest, same, split⟩
    · exact ⟨rest, same.symm⟩
    · cases rest with
      | nil => exact ⟨[], by rw [same, append_nil, append_nil]⟩
      | cons first rest =>
        have held : event ∈ openingEvents input := by
          rw [same, (List.cons.inj split).1]
          exact mem_append_right _ mem_cons_self
        rw [opening event held] at acts
        exact nomatch acts
  refine ⟨front.subset ?_, front.subset ?_⟩
  · simp [openingEvents, checked.permission]
  · simp [openingEvents, checked.authority]

/-! ## Completed reports -/

lemma childRisks_eq_nil_iff (collected : (collectAnswers input).value? = some answers) :
    childDelegationRiskCodes answers.childDelegation = [] ↔
      ∀ summary ∈ answers.childDelegation,
        (∀ result ∈ summary.results, result.failureCandidate = false) ∧ ¬Unplanned summary := by
  cases given : answers.childDelegation with
  | none => exact ⟨fun _ => nofun, fun _ => rfl⟩
  | some summary =>
    rw [childDelegationRiskCodes_eq_nil_iff (collectAnswers_dispatched collected summary given)]
    exact ⟨fun held other member => mem_some_iff.mp member ▸ held, fun all => all _ rfl⟩

lemma toolRisks_eq_nil_iff :
    toolExecutionRiskCodes answers.toolExecution = [] ↔
      ∀ summary ∈ answers.toolExecution, ¬UnresolvedTool summary := by
  cases answers.toolExecution with
  | none => exact ⟨fun _ => nofun, fun _ => rfl⟩
  | some summary =>
    rw [toolExecutionRiskCodes_eq_nil_iff]
    exact ⟨fun held other member => mem_some_iff.mp member ▸ held, fun all => all _ rfl⟩

lemma answersReport_plain (answers : Answers)
    (plain : input.aggregation.filter (·.enabled) = none) :
    (answersReport input answers).status = (finalDecision input answers).status ∧
      (answersReport input answers).outputs = selfOutputs input answers := by
  unfold answersReport
  rw [plain]
  exact ⟨rfl, rfl⟩

lemma answersReport_aggregated (answers : Answers) {options : AggregationOptions}
    (aggregates : input.aggregation.filter (·.enabled) = some options) :
    ((answersReport input answers).status = .completed ↔
      Accepts (aggregationInput input answers options) (allowPartialSuccess input options)) ∧
      (answersReport input answers).outputs = (aggregated input answers options).outputs := by
  have valid : (validated input answers options).status = .valid ↔
      Accepts (aggregationInput input answers options) (allowPartialSuccess input options) :=
    validate_valid_iff
  rw [← valid]
  unfold answersReport
  rw [aggregates]
  refine ⟨?_, rfl⟩
  change validationStatusToNodeResultStatus (validated input answers options).status = _ ↔ _
  cases (validated input answers options).status <;> simp [validationStatusToNodeResultStatus]

lemma schema_expected (input : RunInput) : ∃ expected ∈ input.envelope.expectedOutputs,
    expected.required = true ∧
    expected.outputId = expectedSchemaOutputId input.workOrder :=
  ⟨_, mem_cons_self, rfl, rfl⟩

lemma Overlooks.completes (overlooks : Overlooks input) :
    ∃ result, (runNodeRuntime input).value? = some result ∧ result.status = .completed ∧
      ¬Accomplished input result := by
  cases overlooks with
  | @direct answers checked collected plain asked outputs tools children revised =>
    have done : (answersReport input answers).status = .completed := by
      rw [(answersReport_plain answers plain).1]
      exact finalDecision_completed_iff.mpr ⟨(childRisks_eq_nil_iff collected).mpr children,
        toolRisks_eq_nil_iff.mpr tools, selfDecision_completed_iff.mpr ⟨asked, outputs⟩⟩
    obtain ⟨result, ended, completed, -⟩ := runNodeRuntime_completed checked collected done
    refine ⟨result, ended, completed, ?_⟩
    rintro ⟨other, same, -, resolved⟩
    obtain rfl := some.inj (same.symm.trans collected)
    obtain ⟨summary, delegated, failing⟩ := revised
    exact resolved.1 summary delegated (.inl failing)
  | @aggregated answers options checked collected aggregates accepted unmet =>
    obtain ⟨completes, outputs⟩ := answersReport_aggregated answers aggregates
    obtain ⟨result, ended, completed, reported⟩ :=
      runNodeRuntime_completed checked collected (completes.mpr accepted)
    refine ⟨result, ended, completed, ?_⟩
    rintro ⟨other, same, satisfied, resolved⟩
    obtain rfl := some.inj (same.symm.trans collected)
    rcases unmet with unresolved | ⟨output, found, partly⟩
    · exact unresolved resolved
    · obtain ⟨expected, listed, required, own⟩ := schema_expected input
      obtain ⟨shown, -, held, whole⟩ := satisfied expected listed required
      rw [own, reported, outputs, found] at held
      cases held
      exact nomatch partly.symm.trans whole

/-- A run that completes and overlooks nothing accomplished its order. -/
lemma accomplished_of_completed (complete : ¬Overlooks input)
    (ended : (runNodeRuntime input).value? = some result) (completed : result.status = .completed) :
    Accomplished input result := by
  rcases runNodeRuntime_ends ended with ⟨early, -⟩ | ⟨checked, answers, collected, ends⟩
  · exact absurd completed early
  have done : (answersReport input answers).status = .completed := by
    rcases ends.status with same | ⟨failed, -⟩
    · exact same.symm.trans completed
    · exact nomatch failed.symm.trans completed
  cases plain : input.aggregation.filter (·.enabled) with
  | none =>
    obtain ⟨status, outputs⟩ := answersReport_plain answers plain
    rw [status, finalDecision_completed_iff, selfDecision_completed_iff,
      childRisks_eq_nil_iff collected, toolRisks_eq_nil_iff] at done
    obtain ⟨children, tools, asked, satisfied⟩ := done
    refine ⟨answers, collected, fun expected listed required => ?_, fun summary delegated => ?_,
      tools⟩
    · obtain ⟨output, found, whole⟩ := isSatisfied_iff.mp (satisfied expected listed required)
      refine ⟨output, ?_, by rw [ends.outputs, outputs, found], whole⟩
      exact mem_append_left _ (mem_append_left _
        (mem_selfOutputs (mem_of_outputById found).1 whole))
    · rintro (failing | unplanned)
      · exact complete (.direct checked collected plain asked satisfied tools children
          ⟨summary, delegated, failing⟩)
      · exact (children summary delegated).2 unplanned
  | some options =>
    obtain ⟨completes, outputs⟩ := answersReport_aggregated answers plain
    have accepted := completes.mp done
    have found_satisfied : ∀ expected ∈ input.envelope.expectedOutputs, expected.required = true →
        isSatisfied (aggregated input answers options).outputs expected.outputId = true := by
      intro expected listed required
      rcases mem_cons.mp listed with rfl | other
      · obtain ⟨output, found, present, -⟩ := accepted.schema
        refine isSatisfied_iff.mpr ⟨output, found, ?_⟩
        cases status : output.status with
        | satisfied => rfl
        | missing => exact absurd status present
        | partly => exact absurd (.aggregated checked collected plain accepted
            (.inr ⟨output, found, status⟩)) complete
      · obtain ⟨criterion, named, rfl⟩ := mem_map.mp other
        exact accepted.criteria criterion named required
    refine ⟨answers, collected, fun expected listed required => ?_, ?_⟩
    · obtain ⟨output, found, whole⟩ := isSatisfied_iff.mp (found_satisfied expected listed required)
      exact ⟨output, mem_evidence_of_aggregated (mem_of_outputById found).1 whole,
        by rw [ends.outputs, outputs, found], whole⟩
    · by_contra unresolved
      exact complete (.aggregated checked collected plain accepted (.inl unresolved))

lemma failureJustified_of_failed (ended : (runNodeRuntime input).value? = some result)
    (failed : result.status = .failed) : FailureJustified input result := by
  rcases runNodeRuntime_ends ended with ⟨-, justified⟩ | ⟨-, answers, -, ends⟩
  · exact justified failed
  · rcases ends.status with same | ⟨-, justified⟩
    · exact absurd (same.symm.trans failed) answersReport_ne_failed
    · exact justified

/-- **The status of a run is sound** exactly where the run overlooks nothing: its handlers
always act after the checks, and it never fails without an authorized stop. -/
theorem statusSound_iff (input : RunInput) : StatusSound input ↔ ¬Overlooks input := by
  constructor
  · intro sound overlooks
    obtain ⟨result, ended, completed, unaccomplished⟩ := overlooks.completes
    exact unaccomplished ((sound.2 result ended).2 completed)
  · exact fun complete => ⟨runNodeRuntime_guarded input, fun result ended =>
      ⟨failureJustified_of_failed ended, accomplished_of_completed complete ended⟩⟩

end Answers

/-! ## A failed tool -/

def lonelySnapshot : RuntimeSnapshot where
  toCompiledTopologySnapshot := leadSnapshot
  toolIndex := .empty
  systemIndex := .empty

/-- A run of the lead that asks for a tool nobody has. -/
def lonelyInput : RunInput where
  envelope :=
    { workOrder := { leadOrder with permissionScope := ⟨[], [], [], none⟩ }
      nodeContractSnapshot := plainNode "lead" ["scout"] [] }
  snapshot := lonelySnapshot
  nodeRunId := none
  authorityPreflight := none
  selfExecute := none
  childDelegation := none
  toolExecution := some
    { toolRequests := some [⟨"search", none, none⟩]
      defaultTimeoutMs := none
      dispatcherToolNameByToolId := fun _ => none
      approvalDecisionsByToolId := fun _ => none
      enabled := true
      handlers := ⟨fun _ _ => none, fun _ => false, id⟩ }
  aggregation := some ⟨true, none, [], false, some false, none⟩
  recovery := none
  fingerprint := fun output => output.outputId
  now := fun _ => .number (.finite 1)

/-- The tool is not found, and the run completes. -/
theorem lonely_unsound : ¬StatusSound lonelyInput := by
  have completed : (runNodeRuntime lonelyInput).value?.map (·.status) = some .completed := by
    decide
  have answered : ∀ answers ∈ (collectAnswers lonelyInput).value?,
      ∃ summary ∈ answers.toolExecution, ∃ result ∈ summary.results,
        result.failureCandidate = true := by
    decide +kernel
  intro sound
  obtain ⟨result, ended, status⟩ := map_eq_some_iff.mp completed
  obtain ⟨answers, collected, -, -, tools⟩ := (sound.2 result ended).2 status
  obtain ⟨summary, used, failed⟩ := answered answers collected
  exact tools summary used failed

end Knowbee.TopologyRuntime.Node
