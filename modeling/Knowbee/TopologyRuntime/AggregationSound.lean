import Knowbee.TopologyRuntime.Aggregation

/-!
# What a validation accepts

The validation of an aggregation is valid where no issue blocks, and a failing source does
not block: it is a warning, which only counts where a partial success is allowed.
-/

namespace Knowbee.TopologyRuntime

open Knowbee.Topology List

lemma mem_of_outputById {outputs : List NodeResultOutput} {outputId : String}
    {output : NodeResultOutput} (found : outputById outputs outputId = some output) :
    output ∈ outputs ∧ output.outputId = outputId := by
  have member := mem_of_find?_eq_some found
  have same := find?_some found
  exact ⟨mem_reverse.mp member, of_decide_eq_true same⟩

lemma isSatisfied_iff {outputs : List NodeResultOutput} {outputId : String} :
    isSatisfied outputs outputId = true ↔
      ∃ output, outputById outputs outputId = some output ∧ output.status = .satisfied := by
  unfold isSatisfied
  cases outputById outputs outputId with
  | none => simp
  | some output => simp

variable {items : List AggregatedResultItem} {strategy : AggregationStrategy}

lemma mem_splitSeen {seen : List String} {item : AggregatedResultItem}
    (member : item ∈ (splitSeen seen items).1) : item ∈ items := by
  induction items generalizing seen with
  | nil => exact member
  | cons first rest ih =>
    unfold splitSeen at member
    by_cases known : first.fingerprint ∈ seen
    · rw [if_pos known] at member
      exact mem_cons_of_mem _ (ih member)
    · rw [if_neg known] at member
      rcases mem_cons.mp member with rfl | later
      · exact mem_cons_self
      · exact mem_cons_of_mem _ (ih later)

lemma mem_of_selectOutputForMerge {item : AggregatedResultItem}
    (chosen : selectOutputForMerge items = some item) : item ∈ items := by
  have first := mem_of_head? chosen
  exact (perm_insertionSort _ items).mem_iff.mp first

lemma mem_mergeOutputs {output : NodeResultOutput}
    (member : output ∈ (mergeOutputs items strategy).outputs) :
    ∃ item ∈ items, item.output = output := by
  obtain ⟨group, grouped, member⟩ := mem_flatMap.mp member
  obtain ⟨outputId, -, rfl⟩ := mem_map.mp grouped
  obtain ⟨item, chosen, same⟩ := Option.map_eq_some_iff.mp (Option.mem_toList.mp member)
  have unique := mem_of_selectOutputForMerge chosen
  exact ⟨item, mem_of_mem_filter (mem_splitSeen unique), same⟩

lemma mem_conflicts {issue : AggregationIssue}
    (member : issue ∈ (mergeOutputs items strategy).conflicts) :
    issue.code = .outputConflictDetected ∧
      issue.severity = if strategy = .parentDecides then .warning else .needsRevision := by
  obtain ⟨group, grouped, member⟩ := mem_flatMap.mp member
  obtain ⟨outputId, -, rfl⟩ := mem_map.mp grouped
  simp only [mergeGroup] at member
  by_cases several :
      (splitSeen [] (items.filter (·.output.outputId = outputId))).1.length > 1
  · rw [if_pos several] at member
    rw [mem_singleton.mp member]
    exact ⟨rfl, rfl⟩
  · rw [if_neg several] at member
    cases member

lemma mem_duplicates {issue : AggregationIssue}
    (member : issue ∈ (mergeOutputs items strategy).duplicates) :
    issue.code = .duplicateOutputRemoved := by
  obtain ⟨group, grouped, member⟩ := mem_flatMap.mp member
  obtain ⟨outputId, -, rfl⟩ := mem_map.mp grouped
  obtain ⟨item, -, rfl⟩ := mem_map.mp member
  rfl

/-- An issue that a valid result may have. -/
def Tolerated (allowPartialSuccess : Bool) (issue : AggregatedNodeValidationIssue) : Prop :=
  issue.code ≠ .successCriterionUnmet ∧ issue.severity ≠ .blocked ∧
    issue.severity ≠ .needsRevision ∧ (allowPartialSuccess = true → issue.severity ≠ .warning)

lemma decideValidationStatus_valid_iff {issues : List AggregatedNodeValidationIssue}
    {allowPartialSuccess : Bool} :
    decideValidationStatus issues allowPartialSuccess = .valid ↔
      ∀ issue ∈ issues, Tolerated allowPartialSuccess issue := by
  have none_iff : ∀ found,
      ¬issues.any found = true ↔ ∀ issue ∈ issues, ¬found issue = true := fun found => by
    rw [any_eq_true]
    exact ⟨fun none issue member held => none ⟨issue, member, held⟩,
      fun all ⟨issue, member, held⟩ => all issue member held⟩
  have all_iff : (∀ issue ∈ issues, Tolerated allowPartialSuccess issue) ↔
      ¬issues.any (·.code = .successCriterionUnmet) = true ∧
        ¬issues.any (·.severity = .blocked) = true ∧
          ¬issues.any (·.severity = .needsRevision) = true ∧
            (allowPartialSuccess = true → ¬issues.any (·.severity = .warning) = true) := by
    simp only [none_iff, decide_eq_true_eq, Tolerated]
    exact ⟨fun all => ⟨fun issue member => (all issue member).1,
        fun issue member => (all issue member).2.1, fun issue member => (all issue member).2.2.1,
        fun allowed issue member => (all issue member).2.2.2 allowed⟩,
      fun all issue member => ⟨all.1 issue member, all.2.1 issue member, all.2.2.1 issue member,
        fun allowed => all.2.2.2 allowed issue member⟩⟩
  rw [all_iff]
  unfold decideValidationStatus
  split_ifs with unmet blocked allowed revision warned allowed <;>
    simp_all only [not_true_eq_false, not_false_eq_true, false_and, and_false, and_true,
      forall_const, Bool.false_eq_true, false_implies, implies_true]

structure Accepts (input : AggregateNodeRuntimeResultsInput) (allowPartialSuccess : Bool) :
    Prop where
  criteria : ∀ criterion ∈ input.workOrder.successCriteria, criterion.required = true →
    isSatisfied (aggregateNodeRuntimeResults input).outputs criterion.criterionId = true
  schema : ∃ output, outputById (aggregateNodeRuntimeResults input).outputs
      (expectedSchemaOutputId input.workOrder) = some output ∧ output.status ≠ .missing ∧
    validateOutputSchemaValue input.workOrder output = []
  children : input.missingChildNodeIds = [] ∨
    input.requireAllChildResults = false ∧ input.strategy ≠ .requireAllChildResults
  quorum : ∀ required ∈ input.requiredSatisfiedSourceCount, input.strategy = .quorum →
    (JsNumber.ofNat input.satisfiedSourceCount).lt required = false
  conflicts : (aggregateNodeRuntimeResults input).conflicts = [] ∨
    input.strategy = .parentDecides
  quiet : allowPartialSuccess = true →
    (∀ source ∈ input.sources, source.failureCandidate = false) ∧
    (aggregateNodeRuntimeResults input).conflicts = [] ∧
    ∀ criterion ∈ input.workOrder.successCriteria,
      isSatisfied (aggregateNodeRuntimeResults input).outputs criterion.criterionId = true

section Valid

variable {input : AggregateNodeRuntimeResultsInput} {allowPartialSuccess : Bool}

lemma not_tolerated_blocked {issue : AggregatedNodeValidationIssue}
    (blocked : issue.severity = .blocked) : ¬Tolerated allowPartialSuccess issue :=
  fun tolerated => tolerated.2.1 blocked

lemma validateOutputSchemaValue_blocked {workOrder : WorkOrder} {output : NodeResultOutput}
    {issue : AggregatedNodeValidationIssue}
    (member : issue ∈ validateOutputSchemaValue workOrder output) : issue.severity = .blocked := by
  unfold validateOutputSchemaValue at member
  cases found : output.value with
  | none =>
    rw [found] at member
    rw [mem_singleton.mp member]
    rfl
  | some value =>
    rw [found] at member
    rcases mem_append.mp member with type | fields
    · split_ifs at type
      · rw [mem_singleton.mp type]
        rfl
      · cases type
    · unfold requiredFieldIssues at fields
      split_ifs at fields
      · cases fields
      · cases record : value.asRecord? with
        | none =>
          rw [record] at fields
          rw [mem_singleton.mp fields]
          rfl
        | some entries =>
          rw [record] at fields
          obtain ⟨key, -, rfl⟩ := mem_map.mp fields
          rfl

lemma schemaIssues_tolerated {workOrder : WorkOrder} {outputs : List NodeResultOutput} :
    (∀ issue ∈ schemaIssues workOrder outputs, Tolerated allowPartialSuccess issue) ↔
      ∃ output, outputById outputs (expectedSchemaOutputId workOrder) = some output ∧
        output.status ≠ .missing ∧ validateOutputSchemaValue workOrder output = [] := by
  cases found : outputById outputs (expectedSchemaOutputId workOrder) with
  | none =>
    have issues : schemaIssues workOrder outputs =
        [blockedOutput .requiredOutputMissing (expectedSchemaOutputId workOrder) none] := by
      unfold schemaIssues
      simp only
      rw [found]
    rw [issues, forall_mem_singleton]
    exact ⟨fun tolerated => absurd tolerated (not_tolerated_blocked rfl), nofun⟩
  | some output =>
    have issues : schemaIssues workOrder outputs =
        if output.status = .missing then
          [blockedOutput .requiredOutputMissing (expectedSchemaOutputId workOrder) none]
        else validateOutputSchemaValue workOrder output := by
      unfold schemaIssues
      simp only
      rw [found]
    rw [issues]
    by_cases missing : output.status = .missing
    · rw [if_pos missing, forall_mem_singleton]
      refine ⟨fun tolerated => absurd tolerated (not_tolerated_blocked rfl), ?_⟩
      rintro ⟨_, same, present, -⟩
      cases same
      exact absurd missing present
    · rw [if_neg missing]
      constructor
      · intro tolerated
        refine ⟨output, rfl, missing, eq_nil_iff_forall_not_mem.mpr fun issue member => ?_⟩
        exact not_tolerated_blocked (validateOutputSchemaValue_blocked member)
          (tolerated issue member)
      · rintro ⟨_, same, -, clean⟩ issue member
        cases same
        rw [clean] at member
        cases member

lemma criterionIssue_tolerated {outputs : List NodeResultOutput}
    {criteria : List WorkOrderSuccessCriterion} :
    (∀ issue ∈ criteria.filterMap (criterionIssue outputs), Tolerated allowPartialSuccess issue) ↔
      (∀ criterion ∈ criteria, criterion.required = true →
        isSatisfied outputs criterion.criterionId = true) ∧
      (allowPartialSuccess = true → ∀ criterion ∈ criteria,
        isSatisfied outputs criterion.criterionId = true) := by
  have one : ∀ criterion,
      (∀ issue, criterionIssue outputs criterion = some issue →
        Tolerated allowPartialSuccess issue) ↔
      (criterion.required = true → isSatisfied outputs criterion.criterionId = true) ∧
        (allowPartialSuccess = true → isSatisfied outputs criterion.criterionId = true) := by
    intro criterion
    unfold criterionIssue
    cases isSatisfied outputs criterion.criterionId with
    | true => simp
    | false =>
      cases required : criterion.required with
      | true => simp [Tolerated]
      | false => simp [Tolerated]
  constructor
  · intro all
    have each := fun criterion member => (one criterion).mp fun issue made =>
      all issue (mem_filterMap.mpr ⟨criterion, member, made⟩)
    exact ⟨fun criterion member => (each criterion member).1,
      fun allowed criterion member => (each criterion member).2 allowed⟩
  · rintro ⟨required, every⟩ issue member
    obtain ⟨criterion, listed, made⟩ := mem_filterMap.mp member
    exact (one criterion).mpr ⟨required criterion listed, fun allowed => every allowed criterion listed⟩
      issue made

/-- An issue of an aggregation does not block, or is not carried over. -/
def Harmless (allowPartialSuccess : Bool) (issue : AggregationIssue) : Prop :=
  issue.code ≠ .duplicateOutputRemoved → issue.severity ≠ .blocked ∧
    issue.severity ≠ .needsRevision ∧
      (allowPartialSuccess = true → issue.severity ≠ .warning ∧ issue.severity ≠ .info)

lemma carriedIssue_tolerated {issues : List AggregationIssue} :
    (∀ issue ∈ issues.filterMap carriedIssue, Tolerated allowPartialSuccess issue) ↔
      ∀ issue ∈ issues, Harmless allowPartialSuccess issue := by
  have one issue : (∀ carried, carriedIssue issue = some carried →
      Tolerated allowPartialSuccess carried) ↔ Harmless allowPartialSuccess issue := by
    unfold carriedIssue Harmless
    by_cases removed : issue.code = .duplicateOutputRemoved
    · simp [removed]
    · rw [if_neg removed]
      cases severity : issue.severity <;> simp [Tolerated, removed]
  simp only [← one, mem_filterMap]
  exact ⟨fun all issue member carried made => all carried ⟨issue, member, made⟩,
    fun all carried ⟨issue, member, made⟩ => all issue member carried made⟩

lemma aggregationIssues_tolerated :
    (∀ issue ∈ (aggregateNodeRuntimeResults input).issues.filterMap carriedIssue,
      Tolerated allowPartialSuccess issue) ↔
    (allowPartialSuccess = true → ∀ source ∈ input.sources, source.failureCandidate = false) ∧
      (input.missingChildNodeIds = [] ∨
        input.requireAllChildResults = false ∧ input.strategy ≠ .requireAllChildResults) ∧
      (∀ required ∈ input.requiredSatisfiedSourceCount, input.strategy = .quorum →
        (JsNumber.ofNat input.satisfiedSourceCount).lt required = false) ∧
      ((aggregateNodeRuntimeResults input).conflicts = [] ∨ input.strategy = .parentDecides) ∧
      (allowPartialSuccess = true → (aggregateNodeRuntimeResults input).conflicts = []) := by
  rw [carriedIssue_tolerated]
  simp only [aggregateNodeRuntimeResults, forall_mem_append]
  have sources : (∀ issue ∈ sourceIssues input, Harmless allowPartialSuccess issue) ↔
      (allowPartialSuccess = true → ∀ source ∈ input.sources, source.failureCandidate = false) := by
    unfold sourceIssues
    rw [forall_mem_map]
    simp only [mem_filter]
    cases allowPartialSuccess <;> simp [Harmless]
  have missing : (∀ issue ∈ missingChildIssues input, Harmless allowPartialSuccess issue) ↔
      (input.missingChildNodeIds = [] ∨
        input.requireAllChildResults = false ∧ input.strategy ≠ .requireAllChildResults) := by
    unfold missingChildIssues
    by_cases none : input.missingChildNodeIds = []
    · simp [none]
    · have some : input.missingChildNodeIds.length > 0 := length_pos_iff.mpr none
      cases input.requireAllChildResults <;>
        by_cases all : input.strategy = .requireAllChildResults <;> simp [Harmless, none, some, all]
  have quorum : (∀ issue ∈ quorumIssues input, Harmless allowPartialSuccess issue) ↔
      (∀ required ∈ input.requiredSatisfiedSourceCount, input.strategy = .quorum →
        (JsNumber.ofNat input.satisfiedSourceCount).lt required = false) := by
    unfold quorumIssues
    cases input.requiredSatisfiedSourceCount with
    | none => simp
    | some required =>
      by_cases counted : input.strategy = .quorum
      · cases (JsNumber.ofNat input.satisfiedSourceCount).lt required <;> simp [Harmless, counted]
      · simp [counted]
  have duplicates : ∀ issue ∈ (mergeOutputs input.rawItems input.strategy).duplicates,
      Harmless allowPartialSuccess issue :=
    fun issue member other => absurd (mem_duplicates member) other
  have conflicts : (∀ issue ∈ (mergeOutputs input.rawItems input.strategy).conflicts,
      Harmless allowPartialSuccess issue) ↔
      ((mergeOutputs input.rawItems input.strategy).conflicts = [] ∨
        input.strategy = .parentDecides) ∧
      (allowPartialSuccess = true →
        (mergeOutputs input.rawItems input.strategy).conflicts = []) := by
    cases listed : (mergeOutputs input.rawItems input.strategy).conflicts with
    | nil => simp
    | cons first rest =>
      have all : ∀ issue ∈ first :: rest, issue.code = .outputConflictDetected ∧
          issue.severity = if input.strategy = .parentDecides then .warning else .needsRevision :=
        fun issue member => mem_conflicts (listed ▸ member)
      constructor
      · intro tolerated
        obtain ⟨code, severity⟩ := all first mem_cons_self
        obtain ⟨-, revision, quiet⟩ := tolerated first mem_cons_self (code ▸ nofun)
        by_cases decides : input.strategy = .parentDecides
        · rw [severity, if_pos decides] at quiet
          exact ⟨.inr decides, fun allowed => absurd rfl (quiet allowed).1⟩
        · rw [severity, if_neg decides] at revision
          exact absurd rfl revision
      · rintro ⟨none | decides, quiet⟩ issue member -
        · exact nomatch none
        · obtain ⟨-, severity⟩ := all issue member
          rw [severity, if_pos decides]
          exact ⟨nofun, nofun, fun allowed => nomatch quiet allowed⟩
  rw [sources, missing, quorum, conflicts]
  exact ⟨fun ⟨⟨⟨⟨quiet, children⟩, count⟩, _⟩, merged⟩ => ⟨quiet, children, count, merged⟩,
    fun ⟨quiet, children, count, merged⟩ => ⟨⟨⟨⟨quiet, children⟩, count⟩, duplicates⟩, merged⟩⟩

/-- **A validation is valid** exactly where it accepts the merged outputs; a failing source
counts only where a partial success is allowed. -/
lemma validate_valid_iff :
    (validateAggregatedNodeResult input.workOrder (aggregateNodeRuntimeResults input)
      allowPartialSuccess).status = .valid ↔ Accepts input allowPartialSuccess := by
  simp only [validateAggregatedNodeResult, decideValidationStatus_valid_iff, validationIssues,
    forall_mem_append]
  rw [aggregationIssues_tolerated, schemaIssues_tolerated, criterionIssue_tolerated]
  constructor
  · rintro ⟨⟨⟨sources, children, quorum, conflicts, merged⟩, schema⟩, criteria, every⟩
    exact ⟨criteria, schema, children, quorum, conflicts,
      fun allowed => ⟨sources allowed, merged allowed, every allowed⟩⟩
  · rintro ⟨criteria, schema, children, quorum, conflicts, quiet⟩
    exact ⟨⟨⟨fun allowed => (quiet allowed).1, children, quorum, conflicts,
      fun allowed => (quiet allowed).2.1⟩, schema⟩, criteria, fun allowed => (quiet allowed).2.2⟩

lemma mem_aggregated_outputs {output : NodeResultOutput}
    (member : output ∈ (aggregateNodeRuntimeResults input).outputs) :
    output ∈ input.selfOutputs ∨ (∃ report ∈ input.childReports, output ∈ report.outputs) ∨
      ∃ toolResult ∈ input.toolResults, output = toolOutput toolResult := by
  obtain ⟨item, listed, rfl⟩ := mem_mergeOutputs member
  rcases mem_append.mp listed with node | tool
  · rcases mem_append.mp node with self | child
    · obtain ⟨output, held, rfl⟩ := mem_map.mp self
      exact .inl held
    · obtain ⟨report, reported, inside⟩ := mem_flatMap.mp child
      obtain ⟨output, held, rfl⟩ := mem_map.mp inside
      exact .inr (.inl ⟨report, reported, held⟩)
  · obtain ⟨toolResult, held, rfl⟩ := mem_map.mp tool
    exact .inr (.inr ⟨toolResult, held, rfl⟩)

end Valid

end Knowbee.TopologyRuntime
