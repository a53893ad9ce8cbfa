import Knowbee.Lib.Call
import Knowbee.Resource.Admission
import Knowbee.Terminal.Content

/-!
# The gate before a platform effect

`execute_capability.rs`: the order in which an operation is guarded, preflighted,
admitted and executed.  What the clock, the cancellations, the platform port and the
admission answer is up to the environment; a run shows what was asked and answered.
-/

namespace Knowbee

open List Throwing Meets

/-- What is read of a bound operation.  Its digest was checked when it was made. -/
structure BoundPlatformOperation where
  (operationId targetInstanceId targetSessionId targetFingerprint bindingDigest : String)
  resource : PlatformResource
  deadlineMs : Int
  cancellationId : String
  correlates : isBoundedNonBlank bindingDigest maxCorrelationIdBytes = true

inductive PreflightPermissionState where
  | notRequired | granted | notDetermined | denied | restricted

structure PlatformPreflightReceipt where
  (operationId targetInstanceId targetSessionId targetFingerprint bindingDigest : String)
  resource : PlatformResource
  capabilityAvailable : Bool
  permission : PreflightPermissionState
  permissionRequestable : Bool
  observedAtMs : Int

inductive PreflightReceiptError where
  | invalidResourceFingerprint | invalidObservedAt | permissionRequestNotAllowed | bindingMismatch
  | observationFromFuture | stale

/-- A receipt is not observed before time zero, so only a negative age can leave the
range of a word. -/
def PlatformPreflightReceipt.validateFor (receipt : PlatformPreflightReceipt)
    (operation : BoundPlatformOperation) (nowMs : Int) (maxAgeMs : Nat) :
    Except PreflightReceiptError Unit :=
  if receipt.operationId ≠ operation.operationId ∨
      receipt.targetInstanceId ≠ operation.targetInstanceId ∨
      receipt.targetSessionId ≠ operation.targetSessionId ∨
      receipt.targetFingerprint ≠ operation.targetFingerprint ∨
      receipt.resource ≠ operation.resource ∨ receipt.bindingDigest ≠ operation.bindingDigest then
    .error .bindingMismatch
  else if nowMs < receipt.observedAtMs then .error .observationFromFuture
  else if (maxAgeMs : Int) < nowMs - receipt.observedAtMs then .error .stale
  else .ok ()

structure PlatformEffectReceipt where
  (operationId targetInstanceId targetSessionId targetFingerprint bindingDigest : String)
  nativeReceiptRef : String
  completedAtMs : Int

/-- `validate_for` finds no mismatch. -/
def PlatformEffectReceipt.validFor (receipt : PlatformEffectReceipt)
    (operation : BoundPlatformOperation) : Bool :=
  receipt.operationId = operation.operationId &&
    receipt.targetInstanceId = operation.targetInstanceId &&
    receipt.targetSessionId = operation.targetSessionId &&
    receipt.targetFingerprint = operation.targetFingerprint &&
    receipt.bindingDigest = operation.bindingDigest

section Failures

variable (operation : BoundPlatformOperation)

def knownFailure (stage : ExecutionStage) (reasonCode : ExecutionFailureReason)
    (effectState : EffectState) (retrySafety : RetrySafety) (recoveryAction : RecoveryAction) :
    ExecutionFailure where
  stage
  reasonCode
  effectState
  retrySafety
  recoveryAction
  evidenceRef := none
  correlationId := operation.bindingDigest

def resourceAdmissionFailure : ExecutionResourceAdmissionError → ExecutionFailure
  | .cancelled =>
    knownFailure operation .resourceAdmission .cancelled .notStarted .notRetryable .none
  | .deadlineExceeded => knownFailure operation .resourceAdmission .deadlineExceeded .notStarted
      .materialChangeRequired .correctRequest
  | .saturated => knownFailure operation .resourceAdmission .resourceBusy .notStarted
      .localActionRequired .releaseResource
  | .unavailable => knownFailure operation .resourceAdmission .internalUnclassified .notStarted
      .materialChangeRequired .none

def preflightValidationFailure : PreflightReceiptError → ExecutionFailure
  | .bindingMismatch => knownFailure operation .osPreflight .targetMismatch .notStarted
      .notRetryable .selectSupportedTarget
  | .stale => knownFailure operation .osPreflight .preflightStale .notStarted
      .materialChangeRequired .none
  | _ => knownFailure operation .osPreflight .preflightObservationInvalid .notStarted
      .materialChangeRequired .none

def permissionFailure (reasonCode : ExecutionFailureReason) : ExecutionFailure :=
  knownFailure operation .osPreflight reasonCode .notStarted .localActionRequired
    .completeLocalOsSetup

end Failures

inductive ExecuteStep where
  | isCancelled (cancellationId : String)
  | nowMs
  | preflight
  | acquire
  | execute (preflight : PlatformPreflightReceipt)

abbrev ExecuteStep.Answer : ExecuteStep → Type
  | .isCancelled _ => Bool
  | .nowMs => Int
  | .preflight => Except ExecutionFailure PlatformPreflightReceipt
  | .acquire => Except ExecutionResourceAdmissionError Unit
  | .execute _ => Except ExecutionFailure PlatformEffectReceipt

structure ExecuteCapabilityUseCase where
  /-- A resource admission is there. -/
  resourceAdmission : Bool
  maxPreflightAgeMs : Nat

abbrev Execute (α : Type) : Type := Throwing ExecuteStep ExecuteStep.Answer ExecutionFailure α

def preEffectGuard (operation : BoundPlatformOperation) : Execute Unit := do
  if ← perform (.isCancelled operation.cancellationId) then
    throw (knownFailure operation .resourceAdmission .cancelled .notStarted .notRetryable .none)
  else
    let nowMs ← perform .nowMs
    if operation.deadlineMs ≤ nowMs then
      throw (knownFailure operation .resourceAdmission .deadlineExceeded .notStarted
        .materialChangeRequired .correctRequest)

def preflightRefusal (useCase : ExecuteCapabilityUseCase) (operation : BoundPlatformOperation)
    (preflight : PlatformPreflightReceipt) (nowMs : Int) : Option ExecutionFailure :=
  match preflight.validateFor operation nowMs useCase.maxPreflightAgeMs with
  | .error error => some (preflightValidationFailure operation error)
  | .ok () =>
    if !preflight.capabilityAvailable then
      some (knownFailure operation .osPreflight .capabilityUnavailable .notStarted
        .materialChangeRequired .selectSupportedTarget)
    else
      match preflight.permission, preflight.permissionRequestable with
      | .notRequired, _ | .granted, _ | .notDetermined, true => none
      | .notDetermined, false => some (permissionFailure operation .permissionNotDetermined)
      | .denied, _ => some (permissionFailure operation .permissionDenied)
      | .restricted, _ => some (permissionFailure operation .permissionRestricted)

def acquirePermit (useCase : ExecuteCapabilityUseCase) (operation : BoundPlatformOperation) :
    Execute Unit :=
  if useCase.resourceAdmission then
    attempt .acquire (Except.mapError (resourceAdmissionFailure operation))
  else pure ()

def ExecuteCapabilityUseCase.execute (useCase : ExecuteCapabilityUseCase)
    (operation : BoundPlatformOperation) : Execute PlatformEffectReceipt := do
  preEffectGuard operation
  let preflight ← attempt .preflight id
  let nowMs ← perform .nowMs
  match preflightRefusal useCase operation preflight nowMs with
  | some failure => throw failure
  | none =>
    preEffectGuard operation
    acquirePermit useCase operation
    preEffectGuard operation
    let effect ← attempt (.execute preflight) id
    if effect.validFor operation then return effect
    else
      throw (knownFailure operation .postCheck .postCheckMismatch .unknown
        .manualVerificationRequired .manualEffectVerification)

abbrev Asked : Type := Past ExecuteStep ExecuteStep.Answer

def NoEffect (asked : Asked) : Prop := ∀ receipt answer, ⟨.execute receipt, answer⟩ ∉ asked

def passedGuard (operation : BoundPlatformOperation) (nowMs : Int) : Asked :=
  [⟨.nowMs, nowMs⟩, ⟨.isCancelled operation.cancellationId, false⟩]

/-- The permit, as a run shows it. -/
def permit (useCase : ExecuteCapabilityUseCase) : Asked :=
  if useCase.resourceAdmission then [⟨.acquire, .ok ()⟩] else []

/-- The permission is there, or the effect itself may ask for it. -/
def PlatformPreflightReceipt.Permitted (receipt : PlatformPreflightReceipt) : Prop :=
  receipt.permission = .notRequired ∨ receipt.permission = .granted ∨
    receipt.permission = .notDetermined ∧ receipt.permissionRequestable = true

/-- What was asked before an effect: three guards that passed, a preflight that was validated
between the first two, and a permit before the last where there is an admission. -/
structure Cleared (useCase : ExecuteCapabilityUseCase) (operation : BoundPlatformOperation)
    (receipt : PlatformPreflightReceipt) (asked : Asked) : Prop where
  order : ∃ first checked second third : Int,
    first < operation.deadlineMs ∧ second < operation.deadlineMs ∧ third < operation.deadlineMs ∧
    receipt.validateFor operation checked useCase.maxPreflightAgeMs = .ok () ∧
    asked = passedGuard operation third ++ permit useCase ++ passedGuard operation second ++
      ⟨.nowMs, checked⟩ :: ⟨.preflight, .ok receipt⟩ :: passedGuard operation first
  available : receipt.capabilityAvailable = true
  permitted : receipt.Permitted

/-- A failure from before the effect says that it was not started, or it is that of the
preflight. -/
def Refuses (asked : Asked) (failure : ExecutionFailure) : Prop :=
  NoEffect asked → failure.effectState = .notStarted ∨ ⟨.preflight, .error failure⟩ ∈ asked

/-- Every effect is cleared by what was asked before. -/
def gate (useCase : ExecuteCapabilityUseCase) (operation : BoundPlatformOperation) :
    Rules Unit ExecuteStep ExecuteStep.Answer Asked where
  start _ := []
  next asked step answer := ⟨step, answer⟩ :: asked
  may asked step := ∀ receipt, step = .execute receipt → Cleared useCase operation receipt asked
  gets _ _ _ := True

section Keeps

variable {useCase : ExecuteCapabilityUseCase} {operation : BoundPlatformOperation}
  {receipt : PlatformPreflightReceipt} {asked : Asked} {step : ExecuteStep}
  {failure : ExecutionFailure}

lemma refuses_of_notStarted (unstarted : failure.effectState = .notStarted) :
    Refuses asked failure :=
  fun _ => .inl unstarted

lemma perform_meets (may : (gate useCase operation).may asked step) :
    Meets (gate useCase operation) (fun after answer => after = ⟨step, answer⟩ :: asked) Refuses asked
      (perform step) :=
  perform may fun _ _ => rfl

lemma attempt_meets {α : Type} {thrown : step.Answer → Except ExecutionFailure α}
    (may : (gate useCase operation).may asked step)
    (refuses : ∀ answer failure, thrown answer = .error failure →
      Refuses (⟨step, answer⟩ :: asked) failure) :
    Meets (gate useCase operation)
      (fun after value => ∃ answer, thrown answer = .ok value ∧ after = ⟨step, answer⟩ :: asked)
      Refuses asked (attempt step thrown) := by
  refine attempt may fun answer _ => ?_
  cases ended : thrown answer with
  | ok value => exact ⟨answer, ended, rfl⟩
  | error failure => exact refuses answer failure ended

lemma preEffectGuard_meets : Meets (gate useCase operation)
    (fun after _ => ∃ nowMs < operation.deadlineMs, after = passedGuard operation nowMs ++ asked)
    Refuses asked (preEffectGuard operation) := by
  refine bind _ (perform_meets nofun) ?_
  rintro _ cancelled rfl
  refine ite (fun _ => throw (refuses_of_notStarted rfl)) fun passed => ?_
  rw [Bool.not_eq_true] at passed
  subst passed
  refine bind _ (perform_meets nofun) ?_
  rintro _ nowMs rfl
  refine ite (fun _ => throw (refuses_of_notStarted rfl)) fun early => ?_
  exact pure ⟨nowMs, not_le.mp early, rfl⟩

lemma acquirePermit_meets : Meets (gate useCase operation)
    (fun after _ => after = permit useCase ++ asked) Refuses asked
    (acquirePermit useCase operation) := by
  unfold permit
  refine ite (fun admits => ?_) fun free => pure (by rw [if_neg free]; rfl)
  rw [if_pos admits]
  refine attempt nofun fun answer _ => ?_
  cases answer with
  | ok => exact rfl
  | error error => exact refuses_of_notStarted (by cases error <;> rfl)

/-- What is refused after the preflight was not started, and the rest was checked. -/
lemma preflightRefusal_spec (nowMs : Int) :
    match preflightRefusal useCase operation receipt nowMs with
    | some failure => failure.effectState = .notStarted
    | none => receipt.validateFor operation nowMs useCase.maxPreflightAgeMs = .ok () ∧
        receipt.capabilityAvailable = true ∧ receipt.Permitted := by
  unfold preflightRefusal PlatformPreflightReceipt.Permitted
  cases receipt.validateFor operation nowMs useCase.maxPreflightAgeMs with
  | error error => cases error <;> rfl
  | ok =>
    cases receipt.capabilityAvailable with
    | false => rfl
    | true => cases receipt.permission <;> cases receipt.permissionRequestable <;> simp <;> rfl

lemma execute_meets : Meets (gate useCase operation) (fun _ _ => True) Refuses []
    (useCase.execute operation) := by
  refine bind _ preEffectGuard_meets ?_
  rintro _ - ⟨first, inTime, rfl⟩
  refine bind _ (attempt_meets nofun fun answer failure same _ => .inr ?_) ?_
  · exact same ▸ mem_cons_self
  rintro _ preflight ⟨_, rfl, rfl⟩
  refine bind _ (perform_meets nofun) ?_
  rintro _ checked rfl
  have spec := @preflightRefusal_spec useCase operation preflight checked
  cases refusal : preflightRefusal useCase operation preflight checked with
  | some failure =>
    rw [refusal] at spec
    exact throw (refuses_of_notStarted spec)
  | none =>
    rw [refusal] at spec
    obtain ⟨valid, available, permitted⟩ := spec
    refine bind _ preEffectGuard_meets ?_
    rintro _ - ⟨second, inTime', rfl⟩
    refine bind _ acquirePermit_meets ?_
    rintro _ - rfl
    refine bind _ preEffectGuard_meets ?_
    rintro _ - ⟨third, inTime'', rfl⟩
    -- From here on the effect is among what was asked.
    have executed answer earlier
        failure : Refuses (⟨.execute preflight, answer⟩ :: earlier) failure :=
      fun none => absurd mem_cons_self (none preflight answer)
    refine bind _ (attempt_meets (fun receipt same => ?_) fun answer failure _ =>
      executed answer _ failure) ?_
    · cases same
      exact ⟨⟨first, checked, second, third, inTime, inTime', inTime'', valid, by simp⟩, available,
        permitted⟩
    · rintro _ effect ⟨answer, -, rfl⟩
      exact ite (fun _ => pure trivial) fun _ => throw (executed _ _ _)

lemma since_eq (useCase : ExecuteCapabilityUseCase) (operation : BoundPlatformOperation)
    (asked : Asked) : (gate useCase operation).since [] asked = asked := by
  induction asked with
  | nil => rfl
  | cons latest earlier ih => exact congrArg (latest :: ·) ih

lemma cleared_of_followed {later earlier : Asked}
    {answer : Except ExecutionFailure PlatformEffectReceipt} (followed : (gate useCase
      operation).Followed [] (later ++ ⟨.execute receipt, answer⟩ :: earlier)) :
    Cleared useCase operation receipt earlier := by
  induction later with
  | nil => exact since_eq useCase operation earlier ▸ followed.1 receipt rfl
  | cons latest later ih => exact ih followed.2

lemma Cleared.noEffect (cleared : Cleared useCase operation receipt asked) : NoEffect asked := by
  obtain ⟨first, checked, second, third, -, -, -, -, rfl⟩ := cleared.order
  intro receipt answer
  unfold permit passedGuard
  split_ifs <;> simp

end Keeps

/-- In every run an effect is asked for once at most, and cleared before; and a failure from
before the effect says that it was not started, unless it is that of the preflight. -/
theorem execute_gate (useCase : ExecuteCapabilityUseCase) (operation : BoundPlatformOperation)
    (oracle : Asked → (step : ExecuteStep) → step.Answer) :
    let run := (useCase.execute operation).run.play (fun past step => some (oracle past step)) []
    (∀ later receipt answer earlier, run.1 = later ++ ⟨.execute receipt, answer⟩ :: earlier →
      Cleared useCase operation receipt earlier ∧ NoEffect earlier ∧ NoEffect later) ∧
    ∀ failure, run.2 = some (.error failure) → Refuses run.1 failure := by
  intro run
  obtain ⟨followed, ends⟩ : (gate useCase operation).Followed [] run.1 ∧ _ :=
    Prog.Obeys.play (fun _ _ _ _ => trivial) trivial (@execute_meets useCase operation)
  refine ⟨fun later receipt answer earlier shown => ?_, fun failure ended => ?_⟩
  · have followed := shown ▸ followed
    have cleared := cleared_of_followed followed
    refine ⟨cleared, cleared.noEffect, fun receipt' answer' again => ?_⟩
    obtain ⟨newest, older, rfl⟩ := append_of_mem again
    rw [append_assoc] at followed
    exact (cleared_of_followed followed).noEffect receipt answer (by simp)
  · exact since_eq useCase operation run.1 ▸ ends _ ended

def sampleOperation : BoundPlatformOperation :=
  ⟨"operation", "instance", "session", "target", "digest", .camera, 1, "cancel", by decide⟩

/-- A preflight whose permission is not determined but may be asked for. -/
def askingReceipt : PlatformPreflightReceipt :=
  ⟨"operation", "instance", "session", "target", "digest", .camera, true, .notDetermined, true, 0⟩

def helperExited : ExecutionFailure := knownFailure sampleOperation .helperExecution .helperExited
  .unknown .manualVerificationRequired .manualEffectVerification

def idleAnswer (preflight : Except ExecutionFailure PlatformPreflightReceipt) :
    (step : ExecuteStep) → step.Answer
  | .isCancelled _ => false
  | .nowMs => (0 : Int)
  | .preflight => preflight
  | .acquire => .ok ()
  | .execute _ => .error helperExited

/-- An effect runs without its permission granted, and the failure of a preflight is handed
on that does not say that the effect was not started. -/
theorem undetermined_permission_executes :
    let run (preflight : Except ExecutionFailure PlatformPreflightReceipt) :=
      ((ExecuteCapabilityUseCase.mk true 0).execute sampleOperation).run.play
        (fun _ step => some (idleAnswer preflight step)) []
    (run (.ok askingReceipt)).1.head? = some ⟨.execute askingReceipt, .error helperExited⟩ ∧
    run (.error helperExited) =
      (⟨.preflight, .error helperExited⟩ :: passedGuard sampleOperation 0,
        some (.error helperExited)) :=
  ⟨rfl, rfl⟩

end Knowbee
