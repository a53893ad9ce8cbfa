import Knowbee.SubSession.Aggregation

/-!
# Which results a parent delivers

`AggregateChildResult.execute` allows a final delivery exactly when there are
children, the report of each that has one is bound and from a direct child, each
review and report is complete, and no two satisfied values of one output differ, as
far as their printed texts tell (`final_delivery_iff`).  A child without a report is
judged by its review.
-/

namespace Knowbee

open List Platform

variable {platform : Platform} {input : AggregateChildResultInput}
  {child : ParentAggregationChildInput}

/-- The report is bound to the parent run and the sub-session and comes from a direct
child; names and ids are not blank. -/
structure Trusted (input : AggregateChildResultInput) (child : ParentAggregationChildInput)
    (report : ResultReport) : Prop where
  parent : report.parentRunId = input.parentRunId
  own : report.subSessionId = child.subSessionId
  identity : report.identityParentRunId = some input.parentRunId
  named : jsTrim input.parentRunId ≠ "" ∧ jsTrim input.parentAgentId ≠ "" ∧
    jsTrim child.subSessionId ≠ "" ∧ jsTrim report.resultReportId ≠ ""
  source : ∃ source, report.source = some source ∧ jsTrim source.entityId ≠ "" ∧
    jsTrim source.agentNameSnapshot ≠ "" ∧
    jsTrim source.entityId ∈ input.directChildAgentIds.map jsTrim

lemma issueChildResultTrustReceipt_cases (platform : Platform)
    (binding : ChildResultTrustBinding) (directChildAgentIds : List String) :
    (isValidBinding binding = true ∧
        jsTrim binding.childAgentId ∈ directChildAgentIds.map jsTrim ∧ ∃ receipt,
        platform.issueChildResultTrustReceipt binding directChildAgentIds = .ok receipt ∧
        receipt.isolated = true) ∨
      (¬(isValidBinding binding = true ∧
          jsTrim binding.childAgentId ∈ directChildAgentIds.map jsTrim) ∧ ∃ reasonCode,
        platform.issueChildResultTrustReceipt binding directChildAgentIds = .error reasonCode) := by
  unfold issueChildResultTrustReceipt
  dsimp only
  split_ifs with invalid direct
  · refine .inr ⟨fun valid => ?_, _, rfl⟩
    rw [valid.1] at invalid
    cases invalid
  · rw [Bool.not_eq_true', Bool.not_eq_false] at invalid
    exact .inl ⟨invalid, (mem_filter.mp direct).1, _, rfl, rfl⟩
  · rw [Bool.not_eq_true', Bool.not_eq_false] at invalid
    refine .inr ⟨fun valid => direct (mem_filter.mpr ⟨valid.2, ?_⟩), _, rfl⟩
    simp only [isValidBinding, all_cons, Bool.and_eq_true] at invalid
    exact invalid.1.2.2.1

lemma validateChildResultTrustReceipt_issued {binding : ChildResultTrustBinding}
    {directChildAgentIds : List String} {receipt : ChildResultTrustReceipt}
    (issued : platform.issueChildResultTrustReceipt binding directChildAgentIds = .ok receipt)
    (isolated : receipt.isolated = true) :
    platform.validateChildResultTrustReceipt receipt binding directChildAgentIds =
      .ok receipt.sourceRef := by
  unfold validateChildResultTrustReceipt
  rw [isolated, issued]
  simp

lemma trustVerdict_cases {report : ResultReport} (reported : child.resultReport = some report) :
    (Trusted input child report ∧ platform.trustedChildResult input child = child) ∨
      (¬Trusted input child report ∧ ∃ reasonCode,
        platform.trustedChildResult input child = rejectedChildResult child reasonCode) := by
  unfold trustedChildResult trustVerdict
  rw [reported, Option.map_some]
  split_ifs with foreign
  · refine .inr ⟨fun trusted => ?_, _, rfl⟩
    rcases foreign with run | session | identity
    · exact run trusted.parent
    · exact session trusted.own
    · exact identity trusted.identity
  simp only [not_or, not_not] at foreign
  obtain ⟨parent, own, identity⟩ := foreign
  dsimp only
  rcases issueChildResultTrustReceipt_cases platform _ input.directChildAgentIds with
    ⟨valid, direct, receipt, issued, isolated⟩ | ⟨invalid, reasonCode, refused⟩
  · rw [issued]
    dsimp only
    rw [validateChildResultTrustReceipt_issued issued isolated]
    refine .inl ⟨?_, rfl⟩
    simp only [isValidBinding, all_cons, all_nil, Bool.and_true, Bool.and_eq_true,
      decide_eq_true_eq] at valid
    obtain ⟨⟨run, agent, entity, name, session, reportId⟩, -⟩ := valid
    cases source : report.source with
    | none =>
      rw [source] at entity
      exact absurd rfl entity
    | some source' =>
      rw [source] at entity name direct
      exact ⟨parent, own, identity, ⟨run, agent, session, reportId⟩, source', source, entity, name,
        direct⟩
  · rw [refused]
    refine .inr ⟨fun trusted => invalid ?_, reasonCode, rfl⟩
    obtain ⟨run, agent, session, reportId⟩ := trusted.named
    obtain ⟨source, given, entity, name, direct⟩ := trusted.source
    rw [given]
    refine ⟨?_, direct⟩
    simp only [isValidBinding, all_cons, all_nil, Bool.and_true, Bool.and_eq_true,
      decide_eq_true_eq, Option.map_some, Option.getD_some]
    exact ⟨⟨run, agent, entity, name, session, reportId⟩, (platform.sha256 _).2⟩

lemma trustedChildResult_unreported (unreported : child.resultReport = none) :
    platform.trustedChildResult input child = child := by
  unfold trustedChildResult trustVerdict
  rw [unreported]
  rfl

/-- The review is accepted without limits, nothing is missing and no risk is left,
and what the report has is complete. -/
structure Verified (child : ParentAggregationChildInput) : Prop where
  accepted : child.review.accepted = true
  status : child.review.status ≠ .failed
  unlimited : child.review.isLimited = false
  missing : child.review.missingItems = []
  risks : child.review.risksOrGaps = []
  possible : child.review.impossibleReason = none
  report : ∀ report ∈ child.resultReport, report.status = .completed ∧
    ∀ output ∈ report.outputs, output.status = .satisfied

lemma not_verified_rejected (child : ParentAggregationChildInput)
    (reasonCode : ChildResultTrustReasonCode) : ¬Verified (rejectedChildResult child reasonCode) :=
  fun verified => Bool.noConfusion verified.accepted

lemma resolve_completed_iff : resolveParentFacingChildResultStatus child = .completed ↔
    Verified child := by
  unfold resolveParentFacingChildResultStatus
  constructor
  · intro completed
    split_ifs at completed with failed limited
    simp only [not_or, not_not, ne_eq, Bool.not_eq_true, Bool.not_eq_false] at failed limited
    obtain ⟨revision, accepted, unlimited, unsatisfied, missing, risks, impossible⟩ := limited
    refine ⟨accepted, failed.2, unlimited, missing, risks, ?_, fun report given => ?_⟩
    · exact Option.isSome_eq_false_iff.mp impossible |> Option.isNone_iff_eq_none.mp
    · have here := Option.mem_def.mp given
      rw [here, Option.any_some] at failed revision unsatisfied
      refine ⟨?_, fun output member => ?_⟩
      · cases status : report.status with
        | completed => rfl
        | needsRevision =>
          rw [status] at revision
          exact Bool.noConfusion revision
        | failed =>
          rw [status] at failed
          exact Bool.noConfusion failed.1
      · exact Decidable.not_not.mp fun open_ =>
          absurd (any_eq_false.mp unsatisfied output member) (not_not.mpr (decide_eq_true open_))
  · intro verified
    have none test (passes : ∀ report ∈ child.resultReport,
        test report = false) : child.resultReport.any test = false := by
      cases given : child.resultReport with
      | none => rfl
      | some report => exact passes report given
    rw [if_neg, if_neg]
    · simp only [not_or, not_not, ne_eq, Bool.not_eq_true, Bool.not_eq_false]
      refine ⟨none _ fun report given => ?_, verified.accepted, verified.unlimited,
        none _ fun report given => ?_, verified.missing, verified.risks, ?_⟩
      · rw [(verified.report report given).1]
        rfl
      · refine any_eq_false.mpr fun output member => ?_
        rw [(verified.report report given).2 output member]
        decide
      · rw [verified.possible]
        rfl
    · simp only [not_or, Bool.not_eq_true]
      refine ⟨none _ fun report given => ?_, verified.status⟩
      rw [(verified.report report given).1]
      rfl

lemma summarize_verified (verified : Verified child) :
    (platform.summarizeChildResultForParent child).unverifiedItems = [] ∧
      (platform.summarizeChildResultForParent child).riskNotes = [] := by
  unfold summarizeChildResultForParent
  rw [verified.missing, verified.risks, verified.possible]
  have satisfied : (child.resultReport.toList.flatMap (·.outputs)).filter
      (fun output => decide (output.status ≠ .satisfied)) = [] := by
    refine filter_eq_nil_iff.mpr fun output member => ?_
    obtain ⟨report, given, inside⟩ := mem_flatMap.mp member
    rw [(verified.report report (Option.mem_toList.mp given)).2 output inside]
    decide
  dsimp only
  rw [satisfied]
  exact ⟨rfl, rfl⟩

/-- No two satisfied values of one output are printed differently. -/
def PrintedAlike (platform : Platform) (children : List ParentAggregationChildInput) : Prop :=
  ∀ child ∈ children, ∀ other ∈ children,
    ∀ entry ∈ platform.satisfiedValues child, ∀ entry' ∈ platform.satisfiedValues other,
      entry.outputId = entry'.outputId → entry.value = entry'.value

/-- One JSON value, whatever the order of the keys of its objects. -/
inductive OutputValue.Same : OutputValue → OutputValue → Prop
  | refl (value : OutputValue) : Same value value
  | array {items items' : List OutputValue} :
    List.Forall₂ Same items items' → Same (.array items) (.array items')
  | object {entries middle entries' : List (String × OutputValue)} :
    entries.map (·.1) = middle.map (·.1) →
      List.Forall₂ Same (entries.map (·.2)) (middle.map (·.2)) →
      middle.Perm entries' → Same (.object entries) (.object entries')

/-- The children report such an output, and as satisfied. -/
def Satisfied (children : List ParentAggregationChildInput) (output : ResultOutput) : Prop :=
  ∃ child ∈ children, ∃ report ∈ child.resultReport,
    output ∈ report.outputs ∧ output.status = .satisfied

/-- No two satisfied values of one output are different. -/
def Agreeing (children : List ParentAggregationChildInput) : Prop :=
  ∀ first second, Satisfied children first → Satisfied children second →
    first.outputId = second.outputId → Option.Rel OutputValue.Same first.value second.value

/-- The printed texts show which satisfied values of one output are different. -/
structure TellsApart (platform : Platform) (children : List ParentAggregationChildInput) :
    Prop where
  solid (output : ResultOutput) : Satisfied children output →
    jsTrim (platform.summarizeOutputValue output.outputId output.value) ≠ ""
  tells (first second : ResultOutput) : Satisfied children first → Satisfied children second →
    first.outputId = second.outputId →
      (platform.summarizeOutputValue first.outputId first.value =
          platform.summarizeOutputValue second.outputId second.value ↔
        Option.Rel OutputValue.Same first.value second.value)

/-- Plain texts are told apart. -/
lemma tellsApart_of_texts {children : List ParentAggregationChildInput}
    (texts : ∀ output, Satisfied children output →
      ∃ text, output.value = some (.string text) ∧ jsTrim text = text ∧ text ≠ "") :
    TellsApart platform children := by
  have printed output (satisfied : Satisfied children output) : ∃ text,
      output.value = some (.string text) ∧ jsTrim text ≠ "" ∧
        platform.summarizeOutputValue output.outputId output.value = text := by
    obtain ⟨text, value, trimmed, solid⟩ := texts output satisfied
    refine ⟨text, value, trimmed.symm ▸ solid, ?_⟩
    rw [value]
    simp [summarizeOutputValue, trimmed, solid]
  refine ⟨fun output satisfied => ?_, fun first second one other _ => ?_⟩
  · obtain ⟨text, -, solid, prints⟩ := printed output satisfied
    rwa [prints]
  · obtain ⟨text, value, -, prints⟩ := printed first one
    obtain ⟨text', value', -, prints'⟩ := printed second other
    rw [prints, prints', value, value']
    constructor
    · rintro rfl
      exact .some (.refl _)
    · intro related
      cases related with
      | some same =>
        cases same
        rfl

lemma mem_satisfiedValues {entry : SatisfiedValue} : entry ∈ platform.satisfiedValues child ↔
    ∃ report ∈ child.resultReport, ∃ output ∈ report.outputs, output.status = .satisfied ∧
      jsTrim (platform.summarizeOutputValue output.outputId output.value) ≠ "" ∧
        entry = ⟨output.outputId, child.subSessionId,
          platform.summarizeOutputValue output.outputId output.value⟩ := by
  simp only [satisfiedValues, mem_filterMap, mem_flatMap, Option.mem_toList]
  constructor
  · rintro ⟨output, ⟨report, reported, inside⟩, found⟩
    split_ifs at found with unsatisfied
    obtain ⟨satisfied, solid⟩ := not_or.mp unsatisfied
    exact ⟨report, reported, output, inside, not_not.mp satisfied, solid,
      (Option.some.inj found).symm⟩
  · rintro ⟨report, reported, output, inside, satisfied, solid, rfl⟩
    exact ⟨output, ⟨report, reported, inside⟩, by simp [satisfied, solid]⟩

lemma printedAlike_iff {children : List ParentAggregationChildInput}
    (apart : TellsApart platform children) : PrintedAlike platform children ↔ Agreeing children := by
  constructor
  · intro alike first second one other same
    refine (apart.tells first second one other same).mp ?_
    have solid := apart.solid first one
    have solid' := apart.solid second other
    obtain ⟨child, here, report, reported, inside, satisfied⟩ := one
    obtain ⟨child', here', report', reported', inside', satisfied'⟩ := other
    exact alike child here child' here'
      _ (mem_satisfiedValues.mpr ⟨report, reported, first, inside, satisfied, solid, rfl⟩)
      _ (mem_satisfiedValues.mpr ⟨report', reported', second, inside', satisfied', solid', rfl⟩) same
  · intro agreeing child here child' here' entry member entry' member' same
    obtain ⟨report, reported, output, inside, satisfied, -, rfl⟩ := mem_satisfiedValues.mp member
    obtain ⟨report', reported', output', inside', satisfied', -, rfl⟩ :=
      mem_satisfiedValues.mp member'
    have one : Satisfied children output := ⟨child, here, report, reported, inside, satisfied⟩
    have other : Satisfied children output' :=
      ⟨child', here', report', reported', inside', satisfied'⟩
    exact (apart.tells output output' one other same).mpr (agreeing output output' one other same)

lemma setAdd_length_le_one {values : List String} :
    (setAdd [] values).length ≤ 1 ↔ ∀ value ∈ values, ∀ other ∈ values, value = other := by
  have distinct : (setAdd [] values).Nodup := setAdd_nodup nodup_nil values
  have members value : value ∈ setAdd [] values ↔ value ∈ values := by
    rw [mem_setAdd, or_iff_right not_mem_nil]
  simp only [← members]
  revert distinct
  rcases setAdd [] values with _ | ⟨first, _ | ⟨second, rest⟩⟩
  · exact fun _ => iff_of_true (Nat.zero_le 1) nofun
  · refine fun _ => iff_of_true (Nat.le_refl 1) fun value here other there => ?_
    rw [mem_singleton.mp here, mem_singleton.mp there]
  · refine fun distinct => iff_of_false (fun short => ?_) fun same => ?_
    · rw [length_cons, length_cons] at short
      omega
    · have equal := same first mem_cons_self second (mem_cons_of_mem _ mem_cons_self)
      rw [equal] at distinct
      exact (nodup_cons.mp distinct).1 mem_cons_self

lemma conflicting_eq_nil_iff (children : List ParentAggregationChildInput) :
    platform.conflictingChildResultSubSessionIds children = [] ↔ PrintedAlike platform children := by
  unfold conflictingChildResultSubSessionIds
  dsimp only
  constructor
  · intro empty child here other there entry inside entry' inside' same
    have member : entry ∈ children.flatMap platform.satisfiedValues :=
      mem_flatMap.mpr ⟨child, here, inside⟩
    have member' : entry' ∈ children.flatMap platform.satisfiedValues :=
      mem_flatMap.mpr ⟨other, there, inside'⟩
    by_contra differ
    have conflict : entry.subSessionId ∈ setAdd [] ((setAdd []
        ((children.flatMap platform.satisfiedValues).map (·.outputId))).flatMap fun outputId =>
          let values := (children.flatMap platform.satisfiedValues).filter (·.outputId = outputId)
          if (setAdd [] (values.map (·.value))).length ≤ 1 then [] else values.map (·.subSessionId)) := by
      rw [mem_setAdd, mem_flatMap]
      refine Or.inr ⟨entry.outputId, ?_, ?_⟩
      · rw [mem_setAdd]
        exact Or.inr (mem_map_of_mem member)
      · have first : entry ∈ (children.flatMap platform.satisfiedValues).filter
            (·.outputId = entry.outputId) := mem_filter.mpr ⟨member, decide_eq_true rfl⟩
        have second : entry' ∈ (children.flatMap platform.satisfiedValues).filter
            (·.outputId = entry.outputId) := mem_filter.mpr ⟨member', decide_eq_true same.symm⟩
        dsimp only
        rw [if_neg]
        · exact mem_map_of_mem first
        · intro short
          exact differ (setAdd_length_le_one.mp short _ (mem_map_of_mem first) _
            (mem_map_of_mem second))
    rw [empty] at conflict
    cases conflict
  · intro agreeing
    have none : ((setAdd [] ((children.flatMap platform.satisfiedValues).map
        (·.outputId))).flatMap fun outputId =>
          let values := (children.flatMap platform.satisfiedValues).filter (·.outputId = outputId)
          if (setAdd [] (values.map (·.value))).length ≤ 1 then []
          else values.map (·.subSessionId)) = [] := by
      refine flatMap_eq_nil_iff.mpr fun outputId _ => ?_
      dsimp only
      rw [if_pos]
      refine setAdd_length_le_one.mpr fun value here other there => ?_
      obtain ⟨entry, inside, rfl⟩ := mem_map.mp here
      obtain ⟨entry', inside', rfl⟩ := mem_map.mp there
      obtain ⟨member, id⟩ := mem_filter.mp inside
      obtain ⟨member', id'⟩ := mem_filter.mp inside'
      obtain ⟨child, owner, held⟩ := mem_flatMap.mp member
      obtain ⟨child', owner', held'⟩ := mem_flatMap.mp member'
      exact agreeing child owner child' owner' entry held entry' held'
        ((of_decide_eq_true id).trans (of_decide_eq_true id').symm)
    rw [none]
    rfl

lemma chooseParentAggregationAlternative_ne_ready (input : AggregateChildResultInput) :
    chooseParentAggregationAlternative input ≠ .readyForFinalization := by
  unfold chooseParentAggregationAlternative
  dsimp only
  split_ifs <;> decide

lemma aggregate_allowed_iff (platform : Platform) (input : AggregateChildResultInput) :
    (platform.aggregateSubSessionResultsForParent input).finalDeliveryAllowed = true ↔
      input.childResults ≠ [] ∧ (∀ child ∈ input.childResults, Verified child) ∧
        PrintedAlike platform input.childResults := by
  unfold aggregateSubSessionResultsForParent
  dsimp only
  rw [decide_eq_true_iff]
  have problem {condition : Prop} [Decidable condition] :
      (if condition then chooseParentAggregationAlternative input else .readyForFinalization) =
        .readyForFinalization ↔ ¬condition := by
    by_cases holds : condition
    · rw [if_pos holds]
      exact iff_of_false (chooseParentAggregationAlternative_ne_ready input) (not_not.mpr holds)
    · rw [if_neg holds]
      exact iff_of_true rfl holds
  rw [problem]
  simp only [not_or, ne_eq, not_not, conflicting_eq_nil_iff, map_eq_nil_iff,
    filter_eq_nil_iff, forall_mem_map]
  constructor
  · rintro ⟨nonempty, agreeing, -, -, unverified⟩
    refine ⟨nonempty, fun child member => ?_, agreeing⟩
    have here := unverified child member
    simp only [decide_eq_true_eq, not_or, Decidable.not_not] at here
    exact resolve_completed_iff.mp here.1
  · rintro ⟨nonempty, verified, agreeing⟩
    refine ⟨nonempty, agreeing, fun child member => ?_, fun child member => ?_,
      fun child member => ?_⟩
    · rw [(verified child member).accepted, Bool.not_true, Bool.false_or]
      simpa using (verified child member).status
    · rw [(verified child member).unlimited, Bool.and_false]
      exact Bool.false_ne_true
    · obtain ⟨items, notes⟩ := @summarize_verified platform child (verified child member)
      simp only [decide_eq_true_eq, not_or, Decidable.not_not]
      exact ⟨resolve_completed_iff.mpr (verified child member), items, notes⟩

lemma execute_allowed_iff (platform : Platform) (input : AggregateChildResultInput) :
    (platform.execute input).finalDeliveryAllowed = true ↔
      input.childResults ≠ [] ∧
        (∀ child ∈ input.childResults, (∀ report ∈ child.resultReport, Trusted input child report) ∧
          Verified child) ∧
        PrintedAlike platform input.childResults := by
  unfold execute
  dsimp only
  rw [aggregate_allowed_iff]
  simp only [ne_eq, map_eq_nil_iff, forall_mem_map]
  refine and_congr_right fun _ => ?_
  have each child :
      Verified (platform.trustedChildResult input child) ↔
        (∀ report ∈ child.resultReport, Trusted input child report) ∧ Verified child := by
    cases reported : child.resultReport with
    | none =>
      rw [trustedChildResult_unreported reported]
      exact ⟨fun verified => ⟨nofun, verified⟩, And.right⟩
    | some report =>
      rcases @trustVerdict_cases platform input child report reported with
        ⟨trusted, same⟩ | ⟨untrusted, reasonCode, rejected⟩
      · rw [same]
        refine ⟨fun verified => ⟨fun other given => ?_, verified⟩, And.right⟩
        rw [← Option.mem_some.mp given]
        exact trusted
      · rw [rejected]
        exact iff_of_false (not_verified_rejected child reasonCode) fun both =>
          untrusted (both.1 report rfl)
  simp only [each]
  refine and_congr_right fun all => ?_
  have same : input.childResults.map (platform.trustedChildResult input) = input.childResults := by
    refine (map_congr_left fun child member => ?_).trans (List.map_id _)
    cases reported : child.resultReport with
    | none => exact trustedChildResult_unreported reported
    | some report =>
      rcases @trustVerdict_cases platform input child report reported with
        ⟨-, same⟩ | ⟨untrusted, -⟩
      · exact same
      · exact absurd ((all child member).1 report reported) untrusted
  rw [same]

lemma decide_allowed_iff (reviews : List (String × ChildReview)) :
    (decideSubSessionCompletionIntegration reviews).finalDeliveryAllowed = true ↔
      ∀ item ∈ reviews, item.2.accepted = true ∧ item.2.isLimited = false := by
  unfold decideSubSessionCompletionIntegration
  dsimp only
  split_ifs with blocked limited
  · refine iff_of_false not_false fun all => limited ?_
    refine filter_eq_nil_iff.mpr fun item member => ?_
    rw [(all item member).2, Bool.and_false]
    exact Bool.false_ne_true
  · refine iff_of_true rfl fun item member => ?_
    have accepted := filter_eq_nil_iff.mp blocked item member
    rw [Bool.not_eq_true', Bool.not_eq_false] at accepted
    have unlimited := filter_eq_nil_iff.mp (not_not.mp limited) item member
    rw [accepted, Bool.true_and, Bool.not_eq_true] at unlimited
    exact ⟨accepted, unlimited⟩
  · refine iff_of_false not_false fun all => blocked ?_
    refine filter_eq_nil_iff.mpr fun item member => ?_
    rw [(all item member).1]
    exact Bool.false_ne_true

/-- A platform that prints little. -/
def samplePlatform : Platform where
  sha256 _ := ⟨"sha256:" ++ String.ofList (List.replicate 64 '0'), by decide⟩
  stringify _ := "json"
  numberText _ := "0"
  reportText _ := "report"

def acceptedReview : ChildReview where
  accepted := true
  status := .completed
  verdict := some .accept
  parentIntegrationStatus := some .readyForParentIntegration
  missingItems := []
  risksOrGaps := []
  impossibleReason := none
  canRetry := false

/-- One child without a report, whose review is accepted. -/
def unreportedChild : AggregateChildResultInput where
  parentRunId := "run"
  parentAgentId := "agent:parent"
  directChildAgentIds := []
  childResults := [⟨"sub", none, acceptedReview, none, none, none, none, none, none⟩]
  canSelfSolve := none
  needsUserDecision := none
  returnToParentAllowed := none

end Knowbee
