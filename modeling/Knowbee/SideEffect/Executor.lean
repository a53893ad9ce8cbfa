import Knowbee.SideEffect.Repository

/-!
# The side-effect executor

`side-effect-operation-executor.ts` and `side-effect-verification.ts`: one run of
`executeSideEffectOperation`, from the authorization over the reservation and the effect to its
verification and compensation.
-/

namespace Knowbee

structure SideEffectReceiptEvidence where
  success : Bool
  (targetFingerprint resultFingerprint : String)
  recordedAt : Int
  receiptRef : String

inductive VerificationFailure where
  | adapterFailed | observationUnavailable | observationTargetMismatch
  | authorizedExpectationMismatch | observationStale | postStateMismatch

def VerificationFailure.code : VerificationFailure → String
  | .adapterFailed => "adapter_failed"
  | .observationUnavailable => "observation_unavailable"
  | .observationTargetMismatch => "observation_target_mismatch"
  | .authorizedExpectationMismatch => "authorized_expectation_mismatch"
  | .observationStale => "observation_stale"
  | .postStateMismatch => "post_state_mismatch"

inductive SideEffectVerificationDecision where
  | verified (receiptRefs : String × String)
  | failed (reasonCode : VerificationFailure)

/-- The receipt reference the executor gives an observation. -/
def SideEffectObservation.receiptRef (observation : SideEffectObservation) : String :=
  "observation-evidence:" ++ observation.observedStateFingerprint

def decideSideEffectVerification (effect : SideEffectReceiptEvidence)
    (observation : SideEffectObservation)
    (authorizedExpectedStateFingerprint : Option String) : SideEffectVerificationDecision :=
  if !effect.success then .failed .adapterFailed
  else if !observation.available then .failed .observationUnavailable
  else if observation.targetFingerprint ≠ effect.targetFingerprint then
    .failed .observationTargetMismatch
  else if authorizedExpectedStateFingerprint.any (observation.expectedStateFingerprint ≠ ·) then
    .failed .authorizedExpectationMismatch
  else if observation.capturedAt < effect.recordedAt then .failed .observationStale
  else if observation.observedStateFingerprint ≠ observation.expectedStateFingerprint then
    .failed .postStateMismatch
  else .verified (effect.receiptRef, observation.receiptRef)

def decideResumedSideEffectVerification (targetFingerprint : String)
    (authorizedExpectedStateFingerprint : String) (effectReceiptRef : String)
    (observation : SideEffectObservation) : SideEffectVerificationDecision :=
  if !observation.available then .failed .observationUnavailable
  else if observation.targetFingerprint ≠ targetFingerprint then .failed .observationTargetMismatch
  else if observation.expectedStateFingerprint ≠ authorizedExpectedStateFingerprint then
    .failed .authorizedExpectationMismatch
  else if observation.observedStateFingerprint ≠ observation.expectedStateFingerprint then
    .failed .postStateMismatch
  else .verified (effectReceiptRef, observation.receiptRef)

inductive CompensationSupport where
  | reversible
  | irreversible

inductive SideEffectRemediationDecision where
  | none | compensate | manualIntervention
  deriving DecidableEq

def SideEffectRemediationDecision.reasonCode : SideEffectRemediationDecision → String
  | .none => "side_effect_verified"
  | .compensate => "side_effect_verification_failed"
  | .manualIntervention => "side_effect_irreversible"

def decideSideEffectRemediation (decision : SideEffectVerificationDecision)
    (compensationSupport : CompensationSupport) : SideEffectRemediationDecision :=
  match decision with
  | .verified _ => .none
  | .failed _ =>
    match compensationSupport with
    | .reversible => .compensate
    | .irreversible => .manualIntervention

/-- The input of a run: which of the optional ports are given, and the
authorization of its dependencies. -/
structure SideEffectInput where
  identity : SideEffectOperationIdentity
  compensationSupport : CompensationSupport
  (observesCurrentPostState compensates verifiesCompensation : Bool)
  authorization : Option SideEffectOperationAuthorization

inductive SideEffectOperationExecutionResult (T : Type) where
  | verified (value : T) (aggregate : SideEffectOperationAggregate)
  | duplicateVerified (aggregate : SideEffectOperationAggregate)
  | resumedVerified (aggregate : SideEffectOperationAggregate)
  | cancelledBeforeEffect (aggregate : SideEffectOperationAggregate)
  | compensated (aggregate : SideEffectOperationAggregate)
  | effectRejected (reasonCode : String) (aggregate : SideEffectOperationAggregate)
  | manualIntervention (reasonCode : String) (aggregate : SideEffectOperationAggregate)
      (recoveryEvidence : Option String) (priorReceiptRef : Option String)
  | blocked (reasonCode : String) (aggregate : Option SideEffectOperationAggregate)
  | threw (message : String)

variable {T : Type}

def receiptRefOf (item : Option SideEffectOperationTransitionRecord) : Option String :=
  (item.map (·.receiptRef)).filter fun receiptRef => !receiptRef.isEmpty

def latestReceiptRef (aggregate : SideEffectOperationAggregate)
    (found : SideEffectOperationEvent → Bool) : Option String :=
  receiptRefOf (aggregate.transitions.reverse.find? fun item => found item.event)

/-- `transition`, followed by what is done once it is applied; a rejected
transition blocks the run. -/
def transition (aggregate : SideEffectOperationAggregate) (event : SideEffectOperationEvent)
    (evidence : Option SideEffectEvidence)
    (onApplied : SideEffectOperationAggregate →
      SideEffectProg T (SideEffectOperationExecutionResult T)) :
    SideEffectProg T (SideEffectOperationExecutionResult T) := do
  let receipt ← sideEffectStep (.createReceipt aggregate.identity event (aggregate.revision + 1)
    evidence)
  let result ← transitionReservedSideEffectOperation aggregate.identity.operationId
    aggregate.identity.scopeId aggregate.revision event receipt
  match result with
  | .applied aggregate => onApplied aggregate
  | .rejected reasonCode _ => return .blocked reasonCode.code (some aggregate)
  | .threw message => return .threw message

variable (input : SideEffectInput)

variable (authorization : SideEffectOperationAuthorization)

/-- The end of a run that was resumed after its effect. -/
def verifyResumed (effectReceiptRef : String) (effectReceipt : SideEffectOperationReceipt)
    (aggregate : SideEffectOperationAggregate) :
    SideEffectProg T (SideEffectOperationExecutionResult T) := do
  let observation ← sideEffectStep (.observeCurrentPostState effectReceipt.evidenceRefs)
  match decideResumedSideEffectVerification input.identity.targetFingerprint
      authorization.expectedEffectFingerprint effectReceiptRef observation with
  | .verified receiptRefs =>
    transition aggregate .verificationPassed (some (.resumedReceipts receiptRefs))
      fun aggregate => return .resumedVerified aggregate
  | .failed reasonCode =>
    transition aggregate .verificationFailed (some (.resumedFailure reasonCode.code))
      fun aggregate =>
        transition aggregate .markManual (some (.reason "side_effect_resume_verification_failed"))
          fun aggregate =>
            return .manualIntervention "side_effect_resume_verification_failed" aggregate
              observation.recoveryEvidence none

section

variable (aggregate : SideEffectOperationAggregate)

/-- A run that finds the effect recorded. -/
def resumeVerification : SideEffectProg T (SideEffectOperationExecutionResult T) := do
  if !input.observesCurrentPostState then
    return .blocked "side_effect_resume_observer_missing" (some aggregate)
  else
    match latestReceiptRef aggregate (· = .recordEffect) with
    | none => return .blocked "side_effect_record_receipt_missing" (some aggregate)
    | some effectReceiptRef =>
      match ← sideEffectStep (.loadReceipt effectReceiptRef) with
      | .error message => return .threw message
      | .ok none => return .blocked "side_effect_record_receipt_invalid" (some aggregate)
      | .ok (some effectReceipt) =>
        if effectReceipt.operationId ≠ aggregate.identity.operationId ∨
            effectReceipt.event ≠ .recordEffect ∨ effectReceipt.kind ≠ .effect then
          return .blocked "side_effect_record_receipt_invalid" (some aggregate)
        else if aggregate.state ≠ .verifying then
          transition aggregate .beginVerification (some (.resumedFrom aggregate.state))
            fun aggregate =>
              verifyResumed input authorization effectReceiptRef effectReceipt aggregate
        else verifyResumed input authorization effectReceiptRef effectReceipt aggregate

/-- What follows a verification that failed after an effect. -/
def remediate (value : T) (decision : SideEffectVerificationDecision)
    (recoveryEvidence : Option String) (aggregate : SideEffectOperationAggregate) :
    SideEffectProg T (SideEffectOperationExecutionResult T) := do
  let remediation := decideSideEffectRemediation decision input.compensationSupport
  if remediation = .manualIntervention ∨ !input.compensates ∨ !input.verifiesCompensation then
    transition aggregate .markManual (some (.reason remediation.reasonCode))
      fun aggregate =>
        return .manualIntervention remediation.reasonCode aggregate recoveryEvidence none
  else
    transition aggregate .beginCompensation none fun aggregate => do
      let compensation ← sideEffectStep (.compensate value)
      let verification ←
        if compensation.success then sideEffectStep .verifyCompensation
        else pure ⟨false, "compensation_execution_failed"⟩
      let evidence := SideEffectEvidence.compensation compensation.receiptEvidence
        verification.receiptEvidence
      if compensation.success ∧ verification.verified then
        transition aggregate .compensationSucceeded (some evidence)
          fun aggregate => return .compensated aggregate
      else
        transition aggregate .compensationFailed (some evidence)
          fun aggregate =>
            return .manualIntervention "side_effect_compensation_failed" aggregate none none

/-- The verification of an effect that was just recorded. -/
def verifyEffect (effect : SideEffectResult T) (effectReceiptRef : String)
    (aggregate : SideEffectOperationAggregate) :
    SideEffectProg T (SideEffectOperationExecutionResult T) :=
  transition aggregate .beginVerification none fun aggregate => do
    let observation ← sideEffectStep (.observePostState effect.value)
    let decision := decideSideEffectVerification
      ⟨effect.success, input.identity.targetFingerprint, effect.resultFingerprint,
        effect.recordedAt, effectReceiptRef⟩
      observation (some authorization.expectedEffectFingerprint)
    match decision with
    | .verified receiptRefs =>
      transition aggregate .verificationPassed (some (.receipts receiptRefs))
        fun aggregate => return .verified effect.value aggregate
    | .failed reasonCode =>
      transition aggregate .verificationFailed (some (.reason reasonCode.code))
        fun aggregate => remediate input effect.value decision observation.recoveryEvidence aggregate

def runEffect : SideEffectProg T (SideEffectOperationExecutionResult T) := do
  let effect ← sideEffectStep (.executeEffect input.identity)
  match effect.preEffectRejection with
  | some rejection =>
    transition aggregate .recordRejection
      (some (.rejection rejection.reasonCode rejection.retrySafety input.identity.targetFingerprint
        effect.resultFingerprint effect.recordedAt))
      fun aggregate => return .effectRejected rejection.reasonCode aggregate
  | none =>
    transition aggregate .recordEffect
      (some (.effect effect.success input.identity.targetFingerprint effect.resultFingerprint
        effect.recordedAt effect.effectEvidenceRefs))
      fun aggregate => do
        match receiptRefOf aggregate.transitions.getLast? with
        | none => return .blocked "side_effect_record_receipt_missing" (some aggregate)
        | some effectReceiptRef =>
          if ← sideEffectStep .isCancelled then
            transition aggregate .requestCancel none
              fun aggregate => verifyEffect input authorization effect effectReceiptRef aggregate
          else verifyEffect input authorization effect effectReceiptRef aggregate

def startEffect (input : SideEffectInput) (authorization : SideEffectOperationAuthorization)
    (aggregate : SideEffectOperationAggregate) :
    SideEffectProg T (SideEffectOperationExecutionResult T) := do
  if ← sideEffectStep .isCancelled then
    transition aggregate .requestCancel none
      fun aggregate => return .cancelledBeforeEffect aggregate
  else
    transition aggregate .startEffect (some (.authorization authorization)) fun aggregate => do
      if ← sideEffectStep .isCancelled then
        transition aggregate .requestCancel (some (.reason "cancelled_after_start_before_effect"))
          fun aggregate => return .cancelledBeforeEffect aggregate
      else runEffect input authorization aggregate

/-- The run of an operation that is reserved now or was before. -/
def continueOperation : SideEffectProg T (SideEffectOperationExecutionResult T) :=
  match aggregate.state with
  | .verified => return .duplicateVerified aggregate
  | .effectRejected => return .effectRejected "side_effect_existing_effect_rejected" aggregate
  | .manualIntervention =>
    return .manualIntervention "side_effect_existing_manual_intervention" aggregate none
      (latestReceiptRef aggregate fun event => event = .markManual ∨ event = .compensationFailed)
  | .effectRecorded => resumeVerification input authorization aggregate
  | .verifying => resumeVerification input authorization aggregate
  | .cancelRequested => resumeVerification input authorization aggregate
  | .reserved => startEffect input authorization aggregate
  | state => return .blocked ("side_effect_operation_not_resumable:" ++ state.text) (some aggregate)

end

def executeSideEffectOperation : SideEffectProg T (SideEffectOperationExecutionResult T) := do
  match validateSideEffectOperationAuthorization input.identity input.authorization with
  | .error reasonCode => return .blocked reasonCode none
  | .ok authorization =>
    match ← reserveSideEffectOperation input.identity with
    | .rejected reasonCode => return .blocked reasonCode.code none
    | .threw message => return .threw message
    | .reserved aggregate => continueOperation input authorization aggregate
    | .existing aggregate => continueOperation input authorization aggregate

end Knowbee
