import Knowbee.JavaScript
import Knowbee.Lib.Machine

/-!
# Recursive resolution

`contracts/recursive-resolution-admission.ts` and `detectResolutionCycles` and
`evaluateRecursiveContinuation` of `recursive-resolution-governance.ts`.
-/

namespace Knowbee.Resolution

open List

inductive ValidationStatus where
  | sufficient | insufficient | failed
  deriving DecidableEq

/-- A `ProposedResolutionAttempt`. -/
structure ProposedAttempt where
  (attemptId meansId : String)
  inputRefs : List String
  (targetId strategyFingerprint : String)
  deriving DecidableEq

/-- A `ResolutionAttemptRecord`; its validation has the last three fields. -/
structure AttemptRecord extends ProposedAttempt where
  (workId stepId : String)
  resultRefs : List String
  failureCause : Option String
  validationStatus : ValidationStatus
  evidenceRefs : List String
  reason : String
  deriving DecidableEq

/-- `Boolean(value.trim())`. -/
def written (value : String) : Bool := jsTrim value ≠ ""

def uniqueText (values : List String) : Bool :=
  if values.isEmpty then false
  else (values.map jsTrim).all (· ≠ "") && (values.map jsTrim).Nodup

def isValidAttemptRecord (record : AttemptRecord) : Bool :=
  written record.attemptId && written record.workId && written record.stepId &&
    written record.meansId && uniqueText record.inputRefs && written record.targetId &&
    written record.strategyFingerprint && uniqueText record.resultRefs &&
    uniqueText record.evidenceRefs && written record.reason &&
    if record.validationStatus ≠ .sufficient then written (record.failureCause.getD "")
    else record.failureCause.getD "" = ""

def sameInputs (left right : List String) : Bool :=
  left.length = right.length && (left.zip right).all fun (value, other) =>
    jsTrim value = jsTrim other

def sameAttempt (prior next : ProposedAttempt) : Bool :=
  jsTrim prior.meansId = jsTrim next.meansId && sameInputs prior.inputRefs next.inputRefs &&
    jsTrim prior.targetId = jsTrim next.targetId &&
    jsTrim prior.strategyFingerprint = jsTrim next.strategyFingerprint

inductive ChangedDimension where
  | means | input | target | strategy
  deriving DecidableEq

inductive AdmissionReason where
  | resolutionInputInvalid | attemptRecordInvalid | attemptIdDuplicate | unchangedAttempt
  deriving DecidableEq

inductive AttemptAdmission where
  | allowed (workId attemptId : String) (changedDimensions : List ChangedDimension)
  | rejected (reasonCodes : List AdmissionReason)
  deriving DecidableEq

def validLedger (workId : String) (priorAttempts : List AttemptRecord) : Bool :=
  priorAttempts.all fun attempt => isValidAttemptRecord attempt && jsTrim attempt.workId = workId

def changedDimensions (previous : Option AttemptRecord) (next : ProposedAttempt) :
    List ChangedDimension :=
  let changed (same : ProposedAttempt → Bool) (dimension : ChangedDimension) :=
    if previous.any (same ·.toProposedAttempt) then [] else [dimension]
  changed (jsTrim ·.meansId = jsTrim next.meansId) .means ++
    changed (sameInputs ·.inputRefs next.inputRefs) .input ++
    changed (jsTrim ·.targetId = jsTrim next.targetId) .target ++
    changed (jsTrim ·.strategyFingerprint = jsTrim next.strategyFingerprint) .strategy

def validProposal (next : ProposedAttempt) : Bool :=
  written next.attemptId && written next.meansId && uniqueText next.inputRefs &&
    written next.targetId && written next.strategyFingerprint

def admitNextResolutionAttempt (work unresolvedGoal : String) (priorAttempts : List AttemptRecord)
    (next : ProposedAttempt) : AttemptAdmission :=
  let workId := jsTrim work
  if workId = "" || !written unresolvedGoal || !validProposal next then
    .rejected [.resolutionInputInvalid]
  else if !validLedger workId priorAttempts then .rejected [.attemptRecordInvalid]
  else if priorAttempts.any fun attempt => jsTrim attempt.attemptId = jsTrim next.attemptId then
    .rejected [.attemptIdDuplicate]
  else if priorAttempts.any fun attempt => sameAttempt attempt.toProposedAttempt next then
    .rejected [.unchangedAttempt]
  else .allowed workId (jsTrim next.attemptId) (changedDimensions priorAttempts.getLast? next)

structure ResolutionCycle where
  (failureCause strategyFingerprint : String)
  attemptIds : List String
  deriving DecidableEq

def recordFailure (occurrences : List (String × ResolutionCycle)) (attempt : AttemptRecord) :
    List (String × ResolutionCycle) :=
  let failureCause := jsTrim (attempt.failureCause.getD "")
  let strategyFingerprint := jsTrim attempt.strategyFingerprint
  let key := s!"{failureCause}\u0000{strategyFingerprint}"
  if failureCause = "" then occurrences
  else if occurrences.any (·.1 = key) then
    occurrences.map fun (other, cycle) =>
      if other = key then
        (other, { cycle with attemptIds := cycle.attemptIds ++ [jsTrim attempt.attemptId] })
      else (other, cycle)
  else occurrences ++ [(key, ⟨failureCause, strategyFingerprint, [jsTrim attempt.attemptId]⟩)]

/-- `detectResolutionCycles`; a ledger that is not valid is `none`. -/
def detectResolutionCycles (attempts : List AttemptRecord) : Option (List ResolutionCycle) :=
  if !attempts.all isValidAttemptRecord then none
  else some (((attempts.foldl recordFailure []).map (·.2)).filter (·.attemptIds.length > 1))

/-- A `ResolutionCandidate`; its statuses say which of their two or three values hinders. -/
structure Candidate where
  (candidateId meansId : String)
  inputRefs : List String
  (targetId strategyFingerprint : String)
  (implausibleProspect permissionDenied connectionUnavailable policyDenied : Bool)
  (capabilityConfirmed executable : Bool)
  evidenceRefs : List String

inductive ExclusionReason where
  | permissionDenied | connectionUnavailable | policyDenied | capabilityUnconfirmed | notExecutable
  | implausibleGoal | cycleDetected | unchangedAttempt
  deriving DecidableEq

inductive RejectionReason where
  | continuationInputInvalid | attemptLedgerInvalid | candidateSnapshotInvalid
  deriving DecidableEq

inductive ContinuationDecision where
  | goOn (viableCandidateIds : List String)
  | reassess (workId : String) (evaluatedCandidateIds : List String)
      (excludedCandidates : List (String × List ExclusionReason))
  | rejected (reasonCodes : List RejectionReason)
  deriving DecidableEq

structure ContinuationInput where
  (workId unresolvedGoal : String)
  retryCount : JsNumber
  priorAttempts : List AttemptRecord
  candidates : List Candidate

namespace Candidate

def proposal (candidate : Candidate) : ProposedAttempt :=
  ⟨candidate.candidateId, candidate.meansId, candidate.inputRefs, candidate.targetId,
    candidate.strategyFingerprint⟩

def valid (candidate : Candidate) : Bool :=
  written candidate.candidateId && written candidate.meansId && uniqueText candidate.inputRefs &&
    written candidate.targetId && written candidate.strategyFingerprint &&
    uniqueText candidate.evidenceRefs

end Candidate

namespace ContinuationInput

variable (input : ContinuationInput)

def blockedStrategies : List String :=
  ((detectResolutionCycles input.priorAttempts).getD []).map (·.strategyFingerprint)

def admission (candidate : Candidate) : AttemptAdmission :=
  admitNextResolutionAttempt (jsTrim input.workId) input.unresolvedGoal input.priorAttempts
    candidate.proposal

def exclusionReasons (candidate : Candidate) : List ExclusionReason :=
  let reason (applies : Bool) (code : ExclusionReason) := if applies then [code] else []
  reason candidate.permissionDenied .permissionDenied ++
    reason candidate.connectionUnavailable .connectionUnavailable ++
    reason candidate.policyDenied .policyDenied ++
    reason (!candidate.capabilityConfirmed) .capabilityUnconfirmed ++
    reason (!candidate.executable) .notExecutable ++
    reason candidate.implausibleProspect .implausibleGoal ++
    reason (jsTrim candidate.strategyFingerprint ∈ input.blockedStrategies) .cycleDetected ++
    reason (match input.admission candidate with
      | .rejected reasonCodes => .unchangedAttempt ∈ reasonCodes
      | .allowed .. => false) .unchangedAttempt

def validRetryCount : Bool :=
  match input.retryCount with
  | .finite count => count.isInt && 0 ≤ count
  | _ => false

def validSnapshot : Bool :=
  input.candidates.all (·.valid) &&
    (input.candidates.map fun candidate => jsTrim candidate.candidateId).Nodup

def evaluateRecursiveContinuation : ContinuationDecision :=
  let workId := jsTrim input.workId
  let viable := input.candidates.filter fun candidate => (input.exclusionReasons candidate).isEmpty
  let excluded := input.candidates.filter fun candidate =>
    !(input.exclusionReasons candidate).isEmpty
  if workId = "" || !written input.unresolvedGoal || !input.validRetryCount then
    .rejected [.continuationInputInvalid]
  else if !validLedger workId input.priorAttempts then .rejected [.attemptLedgerInvalid]
  else if !input.validSnapshot then .rejected [.candidateSnapshotInvalid]
  else if !viable.isEmpty then .goOn (viable.map fun candidate => jsTrim candidate.candidateId)
  else
    .reassess workId (input.candidates.map fun candidate => jsTrim candidate.candidateId)
      (excluded.map fun candidate =>
        (jsTrim candidate.candidateId, input.exclusionReasons candidate))

def viableIds : ContinuationDecision → List String
  | .goOn viableCandidateIds => viableCandidateIds
  | _ => []

structure Eligible (candidate : Candidate) : Prop where
  permitted : candidate.permissionDenied = false
  connected : candidate.connectionUnavailable = false
  allowed : candidate.policyDenied = false
  confirmed : candidate.capabilityConfirmed = true
  executable : candidate.executable = true
  prospect : candidate.implausibleProspect = false
  noCycle : ∀ cycles, detectResolutionCycles input.priorAttempts = some cycles →
    ∀ cycle ∈ cycles, cycle.strategyFingerprint ≠ jsTrim candidate.strategyFingerprint

structure Valid : Prop where
  work : jsTrim input.workId ≠ ""
  goal : written input.unresolvedGoal = true
  retryCount : input.validRetryCount = true
  ledger : validLedger (jsTrim input.workId) input.priorAttempts = true
  snapshot : input.validSnapshot = true

variable {input} {candidate : Candidate}

lemma mem_blockedStrategies {strategy : String} : strategy ∈ input.blockedStrategies ↔
    ∃ cycles, detectResolutionCycles input.priorAttempts = some cycles ∧
      ∃ cycle ∈ cycles, cycle.strategyFingerprint = strategy := by
  unfold blockedStrategies
  cases detectResolutionCycles input.priorAttempts <;> simp

lemma admission_fresh (valid : input.Valid) (member : candidate ∈ input.candidates)
    (fresh : ∀ attempt ∈ input.priorAttempts,
      jsTrim attempt.attemptId ≠ jsTrim candidate.candidateId) :
    input.admission candidate =
      if input.priorAttempts.any fun attempt =>
          sameAttempt attempt.toProposedAttempt candidate.proposal then
        .rejected [.unchangedAttempt]
      else .allowed (jsTrim input.workId) (jsTrim candidate.candidateId)
        (changedDimensions input.priorAttempts.getLast? candidate.proposal) := by
  have known := all_eq_true.mp (Bool.and_eq_true_iff.mp valid.snapshot).1 candidate member
  have proposed : validProposal candidate.proposal = true := by
    simp only [Candidate.valid, Bool.and_eq_true] at known
    simp [validProposal, Candidate.proposal, known]
  have unused : (input.priorAttempts.any fun attempt =>
      jsTrim attempt.attemptId = jsTrim candidate.proposal.attemptId) = false := by
    simp only [any_eq_false, decide_eq_true_eq]
    exact fresh
  unfold admission admitNextResolutionAttempt
  simp only [jsTrim_jsTrim, valid.work, valid.goal, proposed, valid.ledger, unused]
  rfl

lemma exclusionReasons_eq_nil : input.exclusionReasons candidate = [] ↔
    input.Eligible candidate ∧ ∀ reasonCodes, input.admission candidate = .rejected reasonCodes →
      AdmissionReason.unchangedAttempt ∉ reasonCodes := by
  have reason_nil applies (code : ExclusionReason) :
      (if applies then [code] else []) = [] ↔ applies = false := by
    cases applies <;> simp
  simp only [exclusionReasons, append_eq_nil_iff, reason_nil, decide_eq_false_iff_not,
    Bool.not_eq_false', mem_blockedStrategies, not_exists, not_and]
  constructor
  · rintro ⟨⟨⟨⟨⟨⟨⟨permitted, connected⟩, allowed⟩, confirmed⟩, executable⟩, prospect⟩, noCycle⟩,
      changed⟩
    refine ⟨⟨permitted, connected, allowed, confirmed, executable, prospect, noCycle⟩,
      fun reasonCodes rejected => ?_⟩
    simpa [rejected] using changed
  · rintro ⟨eligible, changed⟩
    refine ⟨⟨⟨⟨⟨⟨⟨eligible.permitted, eligible.connected⟩, eligible.allowed⟩, eligible.confirmed⟩,
      eligible.executable⟩, eligible.prospect⟩, eligible.noCycle⟩, ?_⟩
    cases answered : input.admission candidate with
    | allowed => rfl
    | rejected reasonCodes => simpa using changed reasonCodes answered

lemma evaluate_eq (valid : input.Valid) : input.evaluateRecursiveContinuation =
    let viable := input.candidates.filter fun candidate =>
      (input.exclusionReasons candidate).isEmpty
    if !viable.isEmpty then .goOn (viable.map fun candidate => jsTrim candidate.candidateId)
    else
      .reassess (jsTrim input.workId)
        (input.candidates.map fun candidate => jsTrim candidate.candidateId)
        ((input.candidates.filter fun candidate =>
          !(input.exclusionReasons candidate).isEmpty).map fun candidate =>
            (jsTrim candidate.candidateId, input.exclusionReasons candidate)) := by
  simp [evaluateRecursiveContinuation, valid.work, valid.goal, valid.retryCount, valid.ledger,
    valid.snapshot]

lemma mem_viableIds (valid : input.Valid) (member : candidate ∈ input.candidates) :
    jsTrim candidate.candidateId ∈ viableIds input.evaluateRecursiveContinuation ↔
      input.exclusionReasons candidate = [] := by
  have unique := of_decide_eq_true (Bool.and_eq_true_iff.mp valid.snapshot).2
  have listed : jsTrim candidate.candidateId ∈ (input.candidates.filter fun candidate =>
        (input.exclusionReasons candidate).isEmpty).map (fun candidate =>
          jsTrim candidate.candidateId) ↔ input.exclusionReasons candidate = [] := by
    rw [mem_map]
    constructor
    · rintro ⟨other, kept, same⟩
      obtain ⟨others, free⟩ := mem_filter.mp kept
      cases inj_on_of_nodup_map unique others member same
      simpa using free
    · intro free
      exact ⟨candidate, mem_filter.mpr ⟨member, by simp [free]⟩, rfl⟩
  rw [evaluate_eq valid, ← listed]
  dsimp only
  split_ifs with some_viable
  · exact Iff.rfl
  · have none_viable : (input.candidates.filter fun candidate =>
        (input.exclusionReasons candidate).isEmpty) = [] := by simpa using some_viable
    simp [viableIds, none_viable]

end ContinuationInput

def appendAdmitted (work unresolvedGoal : String) (ledger : List AttemptRecord)
    (record : AttemptRecord) : List AttemptRecord × AttemptAdmission :=
  match admitNextResolutionAttempt work unresolvedGoal ledger record.toProposedAttempt with
  | .rejected reasonCodes => (ledger, .rejected reasonCodes)
  | admitted => (ledger ++ [record], admitted)

def Distinct (first second : AttemptRecord) : Prop :=
  jsTrim first.attemptId ≠ jsTrim second.attemptId ∧
    ¬(jsTrim first.meansId = jsTrim second.meansId ∧
      first.inputRefs.map jsTrim = second.inputRefs.map jsTrim ∧
      jsTrim first.targetId = jsTrim second.targetId ∧
      jsTrim first.strategyFingerprint = jsTrim second.strategyFingerprint)

lemma sameInputs_iff {left right : List String} :
    sameInputs left right = true ↔ left.map jsTrim = right.map jsTrim := by
  unfold sameInputs
  induction left generalizing right with
  | nil => cases right <;> simp
  | cons value left ih =>
    cases right with
    | nil => simp
    | cons other right =>
      simp only [length_cons, zip_cons_cons, all_cons, map_cons, cons.injEq, ← ih]
      simp only [Bool.and_eq_true, decide_eq_true_eq, Nat.add_right_cancel_iff]
      tauto

lemma sameAttempt_iff {prior next : ProposedAttempt} : sameAttempt prior next = true ↔
    jsTrim prior.meansId = jsTrim next.meansId ∧
      prior.inputRefs.map jsTrim = next.inputRefs.map jsTrim ∧
      jsTrim prior.targetId = jsTrim next.targetId ∧
      jsTrim prior.strategyFingerprint = jsTrim next.strategyFingerprint := by
  simp only [sameAttempt, Bool.and_eq_true, decide_eq_true_eq, sameInputs_iff, and_assoc]

lemma distinct_of_admitted {work unresolvedGoal workId attemptId : String}
    {ledger : List AttemptRecord} {next : ProposedAttempt} {dimensions : List ChangedDimension}
    (admitted : admitNextResolutionAttempt work unresolvedGoal ledger next =
      .allowed workId attemptId dimensions) {attempt : AttemptRecord} (member : attempt ∈ ledger) :
    jsTrim attempt.attemptId ≠ jsTrim next.attemptId ∧
      sameAttempt attempt.toProposedAttempt next = false := by
  unfold admitNextResolutionAttempt at admitted
  dsimp only at admitted
  split_ifs at admitted with invalid unsound used unchanged
  constructor
  · intro same
    exact used (any_eq_true.mpr ⟨attempt, member, by simpa using same⟩)
  · by_contra same
    exact unchanged (any_eq_true.mpr ⟨attempt, member, by simpa using same⟩)

lemma pairwise_appendAdmitted {work unresolvedGoal : String} {ledger : List AttemptRecord}
    (distinct : ledger.Pairwise Distinct) (record : AttemptRecord) :
    (appendAdmitted work unresolvedGoal ledger record).1.Pairwise Distinct := by
  unfold appendAdmitted
  cases answered : admitNextResolutionAttempt work unresolvedGoal ledger
      record.toProposedAttempt with
  | rejected reasonCodes => exact distinct
  | allowed workId attemptId dimensions =>
    refine pairwise_append.mpr ⟨distinct, pairwise_singleton _ _, fun attempt member other its => ?_⟩
    cases mem_singleton.mp its
    obtain ⟨unused, changed⟩ := distinct_of_admitted answered member
    refine ⟨unused, fun same => ?_⟩
    rw [sameAttempt_iff.mpr same] at changed
    cases changed

/-- **Recursive resolution.** A candidate whose id no attempt has is listed as viable exactly
if nothing hinders it, its strategy is in no detected cycle and its attempt is admitted; where
none is, each is excluded with a reason.  Along every run of admitted attempts no id and no
attempt with its inputs in their order comes twice. -/
theorem continuation_exact {input : ContinuationInput} (valid : input.Valid) :
    (∀ candidate ∈ input.candidates,
      (∀ attempt ∈ input.priorAttempts,
        jsTrim attempt.attemptId ≠ jsTrim candidate.candidateId) →
      (jsTrim candidate.candidateId ∈
          ContinuationInput.viableIds input.evaluateRecursiveContinuation ↔
        input.Eligible candidate ∧ ∃ workId attemptId dimensions,
          input.admission candidate = .allowed workId attemptId dimensions)) ∧
    (∀ workId evaluated excluded,
      input.evaluateRecursiveContinuation = .reassess workId evaluated excluded →
      ∀ candidate ∈ input.candidates, ∃ reasonCodes ≠ [],
        (jsTrim candidate.candidateId, reasonCodes) ∈ excluded) ∧
    ∀ work unresolvedGoal records,
      (Machine.run (appendAdmitted work unresolvedGoal) [] records).Pairwise Distinct := by
  refine ⟨fun candidate member fresh => ?_, fun workId evaluated excluded answered candidate member =>
    ?_, fun work unresolvedGoal records => ?_⟩
  · rw [ContinuationInput.mem_viableIds valid member, ContinuationInput.exclusionReasons_eq_nil,
      ContinuationInput.admission_fresh valid member fresh]
    refine and_congr_right fun eligible => ?_
    split_ifs <;> simp
  · rw [ContinuationInput.evaluate_eq valid] at answered
    dsimp only at answered
    split_ifs at answered with some_viable
    obtain ⟨-, -, rfl⟩ := ContinuationDecision.reassess.inj answered
    have hindered : input.exclusionReasons candidate ≠ [] := fun free => by
      refine some_viable ?_
      have kept : candidate ∈ input.candidates.filter fun candidate =>
          (input.exclusionReasons candidate).isEmpty := mem_filter.mpr ⟨member, by simp [free]⟩
      simpa using ne_nil_of_mem kept
    exact ⟨_, hindered, mem_map.mpr ⟨candidate, mem_filter.mpr ⟨member, by simpa using hindered⟩, rfl⟩⟩
  · have keep : ∀ ledger record, ledger.Pairwise Distinct →
        (appendAdmitted work unresolvedGoal ledger record).1.Pairwise Distinct :=
      fun _ record distinct => pairwise_appendAdmitted distinct record
    exact Machine.run_invariant keep Pairwise.nil records

def sampleAttempt (attemptId : String) (inputRefs : List String) : AttemptRecord :=
  { attemptId, meansId := "search", inputRefs, targetId := "page", strategyFingerprint := "plain"
    workId := "work", stepId := "step", resultRefs := ["result"], failureCause := some "timeout"
    validationStatus := .failed, evidenceRefs := ["log"], reason := "no answer" }

def sampleContinuation (candidateId : String) : ContinuationInput :=
  ⟨"work", "goal", 1, [sampleAttempt "first" ["a"]],
    [⟨candidateId, "search", ["a"], "page", "plain", false, false, false, false, true, true,
      ["catalog"]⟩]⟩

/-- The attempt that was made is viable under its own id, although it is not admitted, and it
is admitted again with its inputs in another order. -/
theorem attempt_repeated :
    (sampleContinuation "first").evaluateRecursiveContinuation = .goOn ["first"] ∧
      (∀ candidate ∈ (sampleContinuation "first").candidates,
        (sampleContinuation "first").admission candidate = .rejected [.attemptIdDuplicate]) ∧
      Machine.run (appendAdmitted "work" "goal") [] [sampleAttempt "first" ["a", "b"],
          sampleAttempt "second" ["b", "a"]] =
        [sampleAttempt "first" ["a", "b"], sampleAttempt "second" ["b", "a"]] := by
  decide

theorem sampleContinuation_exact :
    (∀ workId evaluated excluded,
      (sampleContinuation "second").evaluateRecursiveContinuation =
          .reassess workId evaluated excluded →
        ∀ candidate ∈ (sampleContinuation "second").candidates, ∃ reasonCodes ≠ [],
          (jsTrim candidate.candidateId, reasonCodes) ∈ excluded) ∧
    (Machine.run (appendAdmitted "work" "goal") [] [sampleAttempt "first" ["a"]]).Pairwise
      Distinct :=
  (continuation_exact ⟨by decide, by decide, by decide, by decide,
    by decide⟩).2.imp_right fun distinct => distinct _ _ _

end Knowbee.Resolution
