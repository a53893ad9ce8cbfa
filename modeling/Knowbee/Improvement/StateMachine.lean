import Knowbee.JavaScript
import Knowbee.Lib.Machine

/-!
# The state machine of recursive improvement

`recursive-improvement-state-machine.ts`: a transition is authorized by the table or, for a
cancellation and the end of retries, before it.  A failed test leads back to the proposal
with the sources still written, where no rollback is in the table (`improvement_sound`).
-/

namespace Knowbee

open List

namespace Improvement

inductive RecursiveImprovementState where
  | idle | intake | sourceDiscovery | baselineCapture | proposalDrafting | harnessMetaReview
  | invariantReview | diffGeneration | approvalWait | applyChange | testExecution
  | activationPending | activated | reporting | completed | blocked | rolledBack
  deriving DecidableEq

inductive RecursiveImprovementEvent where
  | startRequested | inputsValidated | sourceFound | sourceMissing | baselineRecorded
  | proposalReady | harnessChangeRequested | harnessGuardrailsPassed | harnessGuardrailsFailed
  | invariantPassed | invariantFailed | diffReady | approvalGranted | approvalDenied | changeApplied
  | testsPassed | testsFailed | activationConfirmed | rollbackRequested | rollbackCompleted
  | maxRetryReached | cancelRequested
  deriving DecidableEq

structure RecursiveImprovementTransitionRule where
  source : RecursiveImprovementState
  event : Option RecursiveImprovementEvent
  target : RecursiveImprovementState

def transitions : List RecursiveImprovementTransitionRule :=
  [⟨.idle, some .startRequested, .intake⟩,
    ⟨.intake, some .inputsValidated, .sourceDiscovery⟩,
    ⟨.intake, some .cancelRequested, .blocked⟩,
    ⟨.sourceDiscovery, some .sourceFound, .baselineCapture⟩,
    ⟨.sourceDiscovery, some .sourceMissing, .blocked⟩,
    ⟨.baselineCapture, some .baselineRecorded, .proposalDrafting⟩,
    ⟨.proposalDrafting, some .proposalReady, .invariantReview⟩,
    ⟨.proposalDrafting, some .harnessChangeRequested, .harnessMetaReview⟩,
    ⟨.harnessMetaReview, some .harnessGuardrailsPassed, .invariantReview⟩,
    ⟨.harnessMetaReview, some .harnessGuardrailsFailed, .blocked⟩,
    ⟨.invariantReview, some .invariantPassed, .diffGeneration⟩,
    ⟨.invariantReview, some .invariantFailed, .blocked⟩,
    ⟨.diffGeneration, some .diffReady, .approvalWait⟩,
    ⟨.approvalWait, some .approvalGranted, .applyChange⟩,
    ⟨.approvalWait, some .approvalDenied, .blocked⟩,
    ⟨.applyChange, some .changeApplied, .testExecution⟩,
    ⟨.testExecution, some .testsPassed, .activationPending⟩,
    ⟨.testExecution, some .testsFailed, .proposalDrafting⟩,
    ⟨.applyChange, some .rollbackCompleted, .rolledBack⟩,
    ⟨.testExecution, some .rollbackCompleted, .rolledBack⟩,
    ⟨.activationPending, some .rollbackCompleted, .rolledBack⟩,
    ⟨.activated, some .rollbackCompleted, .rolledBack⟩,
    ⟨.activationPending, some .activationConfirmed, .activated⟩,
    ⟨.activated, none, .reporting⟩,
    ⟨.reporting, none, .completed⟩]

/-! ## Requests -/

structure ScopedEvidence where
  (proposalFingerprint sourceSetFingerprint : String)

structure RecursiveImprovementBlockedEvidence extends ScopedEvidence where
  evidenceRef : String

inductive ChangedAxis where
  | target | input | tool | workSplit | executionOrder | verificationMethod
  deriving DecidableEq

structure RecursiveImprovementRetryEvidence extends ScopedEvidence where
  changedAxes : List ChangedAxis
  evidenceRef : String

structure RecursiveImprovementRollbackEvidence extends ScopedEvidence where
  restoredSourceRefs : List String
  baselineRestored : Bool
  verificationRef : String

structure RecursiveImprovementCompletionEvidence extends ScopedEvidence where
  changedSourceRefs : List String
  sourceWriteVerified : Bool
  validationEvidenceRefs : List String
  (activationEvidenceRef rollbackPath finalReportRef : String)

structure RecursiveImprovementTransitionInput extends ScopedEvidence where
  currentState : RecursiveImprovementState
  event : Option RecursiveImprovementEvent
  requestedNextState : RecursiveImprovementState
  sourceWritten : Bool
  sourceRefs : List String
  blockedEvidence : Option RecursiveImprovementBlockedEvidence := none
  retryEvidence : Option RecursiveImprovementRetryEvidence := none
  rollbackEvidence : Option RecursiveImprovementRollbackEvidence := none
  completionEvidence : Option RecursiveImprovementCompletionEvidence := none

inductive TransitionReasonCode where
  | stateInvalid | terminalStateExitForbidden | transitionNotAllowed | sourceWriteEvidenceInvalid
  | blockedEvidenceMissing | blockedEvidenceScopeMismatch | retryEvidenceMissing
  | retryEvidenceInvalid | rollbackSourceNotWritten | rollbackEvidenceInvalid
  | completionEvidenceMissing | completionEvidenceInvalid
  deriving DecidableEq

inductive RollbackReasonCode where
  | rollbackRequested | cancelAfterWrite | terminalStopAfterWrite
  deriving DecidableEq

inductive TransitionDecision where
  | authorized (nextState : RecursiveImprovementState)
  | rollbackRequired (reasonCode : RollbackReasonCode) (sourceRefs : List String)
  | blocked (reasonCode : TransitionReasonCode)
  deriving DecidableEq

def isTerminal (state : RecursiveImprovementState) : Bool :=
  state ∈ [.completed, .blocked, .rolledBack]

def isRollbackCapable (state : RecursiveImprovementState) : Bool :=
  state ∈ [.applyChange, .testExecution, .activationPending, .activated]

def isBlank (value : String) : Bool := jsTrim value = ""

def exactSet (left right : List String) : Bool :=
  let a := (left.map jsTrim).filter (· ≠ "")
  let b := (right.map jsTrim).filter (· ≠ "")
  a.length = left.length && b.length = right.length && 0 < a.length && a.Nodup && b.Nodup &&
    a.length = b.length && a.all (· ∈ b)

def exactScope (value : ScopedEvidence) (proposal sourceSet : String) : Bool :=
  value.proposalFingerprint = proposal && value.sourceSetFingerprint = sourceSet

section Authorize

variable (input : RecursiveImprovementTransitionInput)

/-- The evidence is of this proposal and these sources. -/
def RecursiveImprovementTransitionInput.scopes (evidence : ScopedEvidence) : Bool :=
  exactScope evidence (jsTrim input.proposalFingerprint) (jsTrim input.sourceSetFingerprint)

def authorized : TransitionDecision := .authorized input.requestedNextState

def authorizeBlocked : TransitionDecision :=
  if input.sourceWritten then .blocked .transitionNotAllowed
  else match input.blockedEvidence with
    | none => .blocked .blockedEvidenceMissing
    | some evidence =>
      if !input.scopes evidence.toScopedEvidence || isBlank evidence.evidenceRef then
        .blocked .blockedEvidenceScopeMismatch
      else authorized input

def authorizeRollbackRequested : TransitionDecision :=
  if !input.sourceWritten then .blocked .rollbackSourceNotWritten
  else if !isRollbackCapable input.currentState then .blocked .transitionNotAllowed
  else .rollbackRequired .rollbackRequested input.sourceRefs

def authorizeCancel : TransitionDecision :=
  if input.sourceWritten then
    if isRollbackCapable input.currentState then .rollbackRequired .cancelAfterWrite input.sourceRefs
    else .blocked .transitionNotAllowed
  else if input.requestedNextState ≠ .blocked then .blocked .transitionNotAllowed
  else authorizeBlocked input

def authorizeMaxRetry : TransitionDecision :=
  match input.blockedEvidence with
  | none => .blocked .blockedEvidenceMissing
  | some evidence =>
    if !input.scopes evidence.toScopedEvidence || isBlank evidence.evidenceRef then
      .blocked .blockedEvidenceScopeMismatch
    else if input.sourceWritten then .rollbackRequired .terminalStopAfterWrite input.sourceRefs
    else if input.requestedNextState = .blocked then authorized input
    else .blocked .transitionNotAllowed

def authorizeRolledBack : TransitionDecision :=
  match input.rollbackEvidence with
  | none => .blocked .rollbackEvidenceInvalid
  | some rollback =>
    if !input.sourceWritten || !input.scopes rollback.toScopedEvidence ||
        !rollback.baselineRestored || isBlank rollback.verificationRef ||
        !exactSet rollback.restoredSourceRefs input.sourceRefs then
      .blocked .rollbackEvidenceInvalid
    else authorized input

def authorizeCompleted : TransitionDecision :=
  match input.completionEvidence with
  | none => .blocked .completionEvidenceMissing
  | some completion =>
    if !input.sourceWritten || !input.scopes completion.toScopedEvidence ||
        !completion.sourceWriteVerified || !exactSet completion.changedSourceRefs input.sourceRefs ||
        completion.validationEvidenceRefs.isEmpty ||
        completion.validationEvidenceRefs.any isBlank ||
        isBlank completion.activationEvidenceRef || isBlank completion.rollbackPath ||
        isBlank completion.finalReportRef then
      .blocked .completionEvidenceInvalid
    else authorized input

def retryRefusal : Option TransitionReasonCode :=
  match input.retryEvidence with
  | none => some .retryEvidenceMissing
  | some retry =>
    if !input.scopes retry.toScopedEvidence || isBlank retry.evidenceRef ||
        retry.changedAxes.isEmpty || !decide retry.changedAxes.Nodup then
      some .retryEvidenceInvalid
    else none

/-- The part of `authorizeRecursiveImprovementTransition` after the events with rules of
their own. -/
def authorizeByTable : TransitionDecision :=
  if !transitions.any fun rule => rule.source = input.currentState ∧ rule.event = input.event ∧
      rule.target = input.requestedNextState then
    .blocked .transitionNotAllowed
  else if input.requestedNextState = .blocked then authorizeBlocked input
  else match (if input.event = some .testsFailed then retryRefusal input else none) with
    | some reasonCode => .blocked reasonCode
    | none =>
      if input.requestedNextState = .rolledBack then authorizeRolledBack input
      else if input.requestedNextState = .completed then authorizeCompleted input
      else authorized input

def authorizeRecursiveImprovementTransition : TransitionDecision :=
  if isBlank input.proposalFingerprint || isBlank input.sourceSetFingerprint then
    .blocked .stateInvalid
  else if isTerminal input.currentState then .blocked .terminalStateExitForbidden
  else if input.sourceRefs.isEmpty || !decide (input.sourceRefs.map jsTrim).Nodup ||
      input.sourceRefs.any isBlank then
    .blocked .sourceWriteEvidenceInvalid
  else match input.event with
    | some .rollbackRequested => authorizeRollbackRequested input
    | some .cancelRequested => authorizeCancel input
    | some .maxRetryReached => authorizeMaxRetry input
    | _ => authorizeByTable input

end Authorize

/-! ## Authorized transitions -/

variable {input : RecursiveImprovementTransitionInput} {next : RecursiveImprovementState}

lemma authorizeBlocked_authorized (granted : authorizeBlocked input = .authorized next) :
    next = input.requestedNextState ∧ input.sourceWritten = false := by
  unfold authorizeBlocked at granted
  split_ifs at granted with written
  split at granted
  · cases granted
  · split_ifs at granted
    exact ⟨(TransitionDecision.authorized.inj granted).symm, Bool.eq_false_iff.mpr written⟩

lemma authorized_of_evidence (granted : authorizeRolledBack input = .authorized next ∨
    authorizeCompleted input = .authorized next) : next = input.requestedNextState := by
  unfold authorizeRolledBack authorizeCompleted at granted
  rcases granted with granted | granted
  all_goals
    split at granted
    · cases granted
    · split_ifs at granted
      exact (TransitionDecision.authorized.inj granted).symm

lemma authorizeBlocked_ne (reasonCode : RollbackReasonCode) (sourceRefs : List String) :
    authorizeBlocked input ≠ .rollbackRequired reasonCode sourceRefs := by
  unfold authorizeBlocked authorized
  repeat' split
  all_goals nofun

/-- A transition of the table, or a stop of sources that are not written. -/
def Granted (input : RecursiveImprovementTransitionInput) (next : RecursiveImprovementState) :
    Prop :=
  (∃ rule ∈ transitions, rule.source = input.currentState ∧ rule.event = input.event ∧
    rule.target = next) ∨
    next = .blocked ∧ (input.event = some .cancelRequested ∨ input.event = some .maxRetryReached)

lemma authorizeByTable_authorized (granted : authorizeByTable input = .authorized next) :
    Granted input next ∧ (next = .blocked → input.sourceWritten = false) := by
  unfold authorizeByTable at granted
  by_cases listed : transitions.any fun rule => rule.source = input.currentState ∧
      rule.event = input.event ∧ rule.target = input.requestedNextState
  · rw [listed, if_neg (by decide)] at granted
    obtain ⟨rule, member, fits⟩ := any_eq_true.mp listed
    obtain ⟨source, event, target⟩ := of_decide_eq_true fits
    by_cases stop : input.requestedNextState = .blocked
    · rw [if_pos stop] at granted
      obtain ⟨rfl, unwritten⟩ := authorizeBlocked_authorized granted
      exact ⟨.inl ⟨rule, member, source, event, target⟩, fun _ => unwritten⟩
    · rw [if_neg stop] at granted
      have same : next = input.requestedNextState := by
        split at granted
        · cases granted
        · split_ifs at granted
          · exact authorized_of_evidence (.inl granted)
          · exact authorized_of_evidence (.inr granted)
          · exact (TransitionDecision.authorized.inj granted).symm
      subst same
      exact ⟨.inl ⟨rule, member, source, event, target⟩, fun blocked => absurd blocked stop⟩
  · rw [Bool.eq_false_iff.mpr listed, if_pos (by decide)] at granted
    cases granted

lemma authorizeByTable_ne (reasonCode : RollbackReasonCode) (sourceRefs : List String) :
    authorizeByTable input ≠ .rollbackRequired reasonCode sourceRefs := by
  unfold authorizeByTable authorizeBlocked authorizeRolledBack authorizeCompleted authorized
  repeat' split
  all_goals nofun

lemma authorized_spec (granted : authorizeRecursiveImprovementTransition input = .authorized next) :
    isTerminal input.currentState = false ∧ Granted input next ∧
      (next = .blocked → input.sourceWritten = false) := by
  unfold authorizeRecursiveImprovementTransition at granted
  split_ifs at granted with blank terminal refs
  refine ⟨Bool.eq_false_iff.mpr terminal, ?_⟩
  split at granted
  next =>
    unfold authorizeRollbackRequested at granted
    split_ifs at granted
  next event =>
    unfold authorizeCancel at granted
    split_ifs at granted with written capable other
    obtain ⟨rfl, unwritten⟩ := authorizeBlocked_authorized granted
    exact ⟨.inr ⟨not_not.mp other, .inl event⟩, fun _ => unwritten⟩
  next event =>
    unfold authorizeMaxRetry at granted
    split at granted
    · cases granted
    · split_ifs at granted with invalid written other
      cases granted
      exact ⟨.inr ⟨other, .inr event⟩, fun _ => Bool.eq_false_iff.mpr written⟩
  next => exact authorizeByTable_authorized granted

/-! ## Runs -/

/-- The state of a run, whether its sources are written, and the events taken, the last
one first. -/
structure ImprovementRun where
  state : RecursiveImprovementState
  written : Bool
  taken : List (Option RecursiveImprovementEvent)

namespace ImprovementRun

def start : ImprovementRun := ⟨.idle, false, []⟩

/-- A request; one that is not authorized changes nothing. -/
def request (run : ImprovementRun) (input : RecursiveImprovementTransitionInput) :
    ImprovementRun × TransitionDecision :=
  match authorizeRecursiveImprovementTransition input with
  | .authorized nextState =>
    ({ state := nextState
       written := input.event = some .changeApplied ||
        (run.written && input.event ≠ some .rollbackCompleted)
       taken := input.event :: run.taken }, .authorized nextState)
  | decision => (run, decision)

/-- The request is of the state of the run and reports whether its sources are written; the
first change may report itself. -/
def Reports (run : ImprovementRun) (input : RecursiveImprovementTransitionInput) : Prop :=
  input.currentState = run.state ∧
    (input.sourceWritten = run.written ∨ input.event = some .changeApplied)

instance (run : ImprovementRun) (input : RecursiveImprovementTransitionInput) :
    Decidable (run.Reports input) :=
  inferInstanceAs (Decidable (_ ∧ _))

def sinceFailure (run : ImprovementRun) : List (Option RecursiveImprovementEvent) :=
  run.taken.takeWhile (· ≠ some .testsFailed)

/-- What has happened since the last failure of the tests, before a state is reached. -/
def required : RecursiveImprovementState → List RecursiveImprovementEvent
  | .applyChange => [.approvalGranted]
  | .testExecution => [.approvalGranted, .changeApplied]
  | .activationPending => [.approvalGranted, .changeApplied, .testsPassed]
  | .activated | .reporting | .completed =>
    [.approvalGranted, .changeApplied, .testsPassed, .activationConfirmed]
  | _ => []

lemma required_of_rule : ∀ rule ∈ transitions, ∀ event ∈ required rule.target,
    rule.event ≠ some .testsFailed ∧
      (some event = rule.event ∨ event ∈ required rule.source) := by
  decide

lemma unchanged_of_rule : ∀ rule ∈ transitions, rule.target = .blocked →
    rule.event ≠ some .changeApplied := by
  decide

structure Sound (run : ImprovementRun) : Prop where
  progress : ∀ event ∈ required run.state, some event ∈ run.sinceFailure
  blocked : run.state = .blocked → run.written = false

lemma Sound.request {run : ImprovementRun} {input : RecursiveImprovementTransitionInput}
    (sound : run.Sound) (reports : run.Reports input) : (run.request input).1.Sound := by
  unfold ImprovementRun.request
  split
  next nextState granted =>
    obtain ⟨-, step, unwritten⟩ := authorized_spec granted
    refine ⟨fun event needed => ?_, fun stop => ?_⟩
    · rcases step with ⟨rule, member, source, taken, target⟩ | ⟨stop, -⟩
      · subst target
        obtain ⟨kept, now | before⟩ := required_of_rule rule member event needed
        · simp [sinceFailure, ← taken, kept, now]
        · have earlier := sound.progress event (reports.1 ▸ source ▸ before)
          simp only [sinceFailure, ← taken]
          rw [takeWhile_cons_of_pos (by simpa using kept)]
          exact mem_cons_of_mem _ earlier
      · subst stop
        cases needed
    · have quiet : input.event ≠ some .changeApplied := by
        rcases step with ⟨rule, member, source, taken, target⟩ | ⟨-, event | event⟩
        · exact taken ▸ unchanged_of_rule rule member (target.trans stop)
        · rw [event]
          nofun
        · rw [event]
          nofun
      have same := reports.2.resolve_right quiet
      simp [quiet, ← same, unwritten stop]
  next => exact sound

/-! ## Rollbacks -/

/-- Some request of the state is answered that a rollback is required. -/
def RollbackRequired (run : ImprovementRun) : Prop :=
  ∃ input reasonCode sourceRefs, run.Reports input ∧
    authorizeRecursiveImprovementTransition input = .rollbackRequired reasonCode sourceRefs

/-- A request of a completed rollback with the sources restored and verified. -/
structure CompletesRollback (run : ImprovementRun) (input : RecursiveImprovementTransitionInput)
    (rollback : RecursiveImprovementRollbackEvidence) : Prop where
  reports : run.Reports input
  event : input.event = some .rollbackCompleted
  next : input.requestedNextState = .rolledBack
  named : isBlank input.proposalFingerprint = false ∧ isBlank input.sourceSetFingerprint = false
  sources : input.sourceRefs ≠ [] ∧ (input.sourceRefs.map jsTrim).Nodup ∧
    input.sourceRefs.any isBlank = false
  evidence : input.rollbackEvidence = some rollback
  inScope : input.scopes rollback.toScopedEvidence = true
  restored : rollback.baselineRestored = true ∧
    exactSet rollback.restoredSourceRefs input.sourceRefs = true
  verified : isBlank rollback.verificationRef = false

variable {run : ImprovementRun} {input : RecursiveImprovementTransitionInput}

lemma rollbackRequired_written (required : run.RollbackRequired) :
    run.written = true ∧ isTerminal run.state = false := by
  obtain ⟨input, reasonCode, sourceRefs, ⟨state, reported⟩, answered⟩ := required
  unfold authorizeRecursiveImprovementTransition at answered
  split_ifs at answered with blank terminal refs
  rw [← state]
  refine ⟨?_, Bool.eq_false_iff.mpr terminal⟩
  have written quiet told :
      run.written = true := (reported.resolve_right quiet).symm.trans told
  split at answered
  next event =>
    unfold authorizeRollbackRequested at answered
    split_ifs at answered with unwritten
    exact written (event ▸ nofun) (by simpa using unwritten)
  next event =>
    unfold authorizeCancel at answered
    split_ifs at answered with told capable other
    · exact written (event ▸ nofun) told
    · exact absurd answered (authorizeBlocked_ne _ _)
  next event =>
    unfold authorizeMaxRetry at answered
    split at answered
    · cases answered
    · split_ifs at answered with invalid told other
      · exact written (event ▸ nofun) told
      · cases answered
  next => exact absurd answered (authorizeByTable_ne _ _)

lemma authorized_rollback {rollback : RecursiveImprovementRollbackEvidence}
    (completes : run.CompletesRollback input rollback) (written : run.written = true)
    (capable : isRollbackCapable run.state = true) :
    authorizeRecursiveImprovementTransition input = .authorized .rolledBack := by
  have states : isTerminal run.state = false ∧ (transitions.any fun rule =>
      rule.source = run.state ∧ rule.event = some .rollbackCompleted ∧
        rule.target = .rolledBack) = true := by
    revert capable
    generalize run.state = state
    cases state <;> decide
  obtain ⟨reports, event, next, named, sources, evidence, inScope, restored, verified⟩ := completes
  have told : input.sourceWritten = true := (reports.2.resolve_right (event ▸ nofun)).trans written
  simp only [authorizeRecursiveImprovementTransition, authorizeByTable, authorizeRolledBack,
    authorized, named, reports.1, states, sources, event, next, evidence, inScope, restored,
    verified, told]
  simpa using sources.1

/-- The request of an event with all evidence, from the proposal "p" and the source "s". -/
def fullRequest (run : ImprovementRun) (event : RecursiveImprovementEvent)
    (nextState : RecursiveImprovementState) : RecursiveImprovementTransitionInput where
  proposalFingerprint := "p"
  sourceSetFingerprint := "s"
  currentState := run.state
  event := some event
  requestedNextState := nextState
  sourceWritten := run.written
  sourceRefs := ["s"]
  blockedEvidence := some ⟨⟨"p", "s"⟩, "e"⟩
  retryEvidence := some ⟨⟨"p", "s"⟩, [.tool], "e"⟩
  rollbackEvidence := some ⟨⟨"p", "s"⟩, ["s"], true, "e"⟩

lemma fullRequest_fits : isBlank "p" = false ∧ isBlank "s" = false ∧ isBlank "e" = false ∧
    (["s"].map jsTrim).Nodup ∧ exactScope ⟨"p", "s"⟩ (jsTrim "p") (jsTrim "s") = true ∧
    exactSet ["s"] ["s"] = true := by
  decide

lemma completesRollback_full (run : ImprovementRun) :
    run.CompletesRollback (run.fullRequest .rollbackCompleted .rolledBack)
      ⟨⟨"p", "s"⟩, ["s"], true, "e"⟩ := by
  obtain ⟨proposal, source, evidence, distinct, scope, restored⟩ := fullRequest_fits
  exact ⟨⟨rfl, .inl rfl⟩, rfl, rfl, ⟨proposal, source⟩,
    ⟨cons_ne_nil _ _, distinct, by simpa [fullRequest] using source⟩, rfl, scope,
    ⟨rfl, restored⟩, evidence⟩

/-- Written sources are told to be rolled back, in whatever state retries end. -/
lemma rollbackRequired_of_written (written : run.written = true)
    (running : isTerminal run.state = false) : run.RollbackRequired := by
  refine ⟨run.fullRequest .maxRetryReached .blocked, .terminalStopAfterWrite, ["s"],
    ⟨rfl, .inl rfl⟩, ?_⟩
  simp [authorizeRecursiveImprovementTransition, authorizeMaxRetry, fullRequest,
    RecursiveImprovementTransitionInput.scopes, fullRequest_fits, running, written]

/-- **Recursive improvement.** Along every run, completion comes after what it needs since the
last failed test, nothing stops with its sources written and no end is left; and a required
rollback can be completed exactly where no sources are written outside the states that have
a rollback in the table. -/
theorem improvement_sound {inputs : List RecursiveImprovementTransitionInput}
    (along : Machine.Along request Reports .start inputs) :
    let run := Machine.run request .start inputs
    (run.state = .completed → ∀ event ∈ [RecursiveImprovementEvent.approvalGranted, .changeApplied,
      .testsPassed, .activationConfirmed], some event ∈ run.sinceFailure) ∧
    (run.state = .blocked → run.written = false) ∧
    (isTerminal run.state = true → ∀ input, input.currentState = run.state →
      ∀ nextState, authorizeRecursiveImprovementTransition input ≠ .authorized nextState) ∧
    ((run.RollbackRequired → ∀ input rollback, run.CompletesRollback input rollback →
        authorizeRecursiveImprovementTransition input = .authorized .rolledBack) ↔
      (run.written = true → isRollbackCapable run.state = true ∨ isTerminal run.state = true)) := by
  intro run
  have sound : run.Sound := Machine.run_invariant_along (fun _ _ => Sound.request)
    ⟨fun _ => nofun, nofun⟩ along
  refine ⟨fun completed => ?_, sound.blocked, fun ended input state nextState granted => ?_, ?_, ?_⟩
  · have progress := sound.progress
    rw [completed] at progress
    exact progress
  · obtain ⟨running, -⟩ := authorized_spec granted
    rw [state, ended] at running
    cases running
  · intro completable written
    by_contra stuck
    obtain ⟨incapable, running⟩ := not_or.mp stuck
    have granted := completable (rollbackRequired_of_written written (by simpa using running)) _ _
      (completesRollback_full run)
    obtain ⟨-, ⟨rule, member, source, event, target⟩ | ⟨impossible, -⟩, -⟩ := authorized_spec granted
    · have table : ∀ rule ∈ transitions, rule.target = .rolledBack →
          isRollbackCapable rule.source = true := by
        decide
      have capable := table rule member target
      rw [source] at capable
      exact incapable capable
    · cases impossible
  · intro condition required input rollback completes
    obtain ⟨written, running⟩ := rollbackRequired_written required
    rcases condition written with capable | ended
    · exact authorized_rollback completes written capable
    · rw [running] at ended
      cases ended

/-- The requests of a run whose first test fails. -/
def failedTest : List RecursiveImprovementTransitionInput :=
  [fullRequest ⟨.idle, false, []⟩ .startRequested .intake,
    fullRequest ⟨.intake, false, []⟩ .inputsValidated .sourceDiscovery,
    fullRequest ⟨.sourceDiscovery, false, []⟩ .sourceFound .baselineCapture,
    fullRequest ⟨.baselineCapture, false, []⟩ .baselineRecorded .proposalDrafting,
    fullRequest ⟨.proposalDrafting, false, []⟩ .proposalReady .invariantReview,
    fullRequest ⟨.invariantReview, false, []⟩ .invariantPassed .diffGeneration,
    fullRequest ⟨.diffGeneration, false, []⟩ .diffReady .approvalWait,
    fullRequest ⟨.approvalWait, false, []⟩ .approvalGranted .applyChange,
    fullRequest ⟨.applyChange, true, []⟩ .changeApplied .testExecution,
    fullRequest ⟨.testExecution, true, []⟩ .testsFailed .proposalDrafting]

theorem failedTest_sound :
    (Machine.run request .start failedTest).state ≠ .blocked ∨
      (Machine.run request .start failedTest).written = false :=
  not_or_of_imp (improvement_sound (by decide)).2.1

/-- After the failed test a rollback is required, and its completion is refused. -/
theorem failedTest_stuck :
    let run := Machine.run request .start failedTest
    Machine.Along request Reports .start failedTest ∧
      authorizeRecursiveImprovementTransition (run.fullRequest .maxRetryReached .blocked) =
        .rollbackRequired .terminalStopAfterWrite ["s"] ∧
      authorizeRecursiveImprovementTransition (run.fullRequest .rollbackCompleted .rolledBack) =
        .blocked .transitionNotAllowed := by
  decide

end ImprovementRun

end Improvement

end Knowbee
