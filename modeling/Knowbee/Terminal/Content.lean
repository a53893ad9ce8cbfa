import Knowbee.Rust

/-!
# Terminal content

`platform_execution.rs`, `terminal_receipt.rs` and `protocol_v2_terminal.rs`: what is stored and
answered for a finished command.  Each level validates itself; a restart recovery is content that
claims nothing about the effect and invites no automatic retry.
-/

namespace Knowbee

def maxCorrelationIdBytes : Nat := 128

def maxEvidenceRefBytes : Nat := 256

inductive ExecutionStage where
  | ingressValidation | targetValidation | authorization | localPolicy | osPreflight
  | resourceAdmission | platformDispatch | helperExecution | artifactCommit | postCheck
  | responseEnqueue | responsePublish | artifactTransfer | cleanupRecovery
  deriving DecidableEq

def ExecutionStage.isBeforeEffect : ExecutionStage → Bool
  | ingressValidation | targetValidation | authorization | localPolicy | osPreflight
  | resourceAdmission => true
  | _ => false

inductive EffectState where
  | notStarted | confirmedNotApplied | confirmedApplied | unknown
  deriving DecidableEq

inductive RetrySafety where
  | safeRedeliverySameIdempotency | materialChangeRequired | localActionRequired | notRetryable
  | manualVerificationRequired
  deriving DecidableEq

inductive RecoveryAction where
  | none | correctRequest | retryAdmission | selectSupportedTarget | updateLocalPolicy
  | completeLocalOsSetup | releaseResource | reconnectTransport | fetchArtifactAgain
  | manualEffectVerification
  deriving DecidableEq

inductive ExecutionFailureReason where
  | invalidRequest | retainedMessageRejected | protocolUpgradeRequired | protocolVersionUnsupported
  | requestIssuedInFuture | requestExpired | targetMismatch | authorizationRequired
  | authorizationRejected | authorizationReplayed | authorizationVerifierUnavailable
  | localPolicyDenied | localPolicyUnavailable | permissionNotDetermined | permissionNotGranted
  | permissionDenied | permissionRestricted | preflightStale | preflightObservationInvalid
  | capabilityUnavailable | targetUnavailable | deviceUnavailable | displayUnavailable
  | resourceBusy | idempotencyInProgress | idempotencyScopeConflict | terminalRepositoryUnavailable
  | restartRecoveryRequired | cancelled | deadlineExceeded | helperTimedOut | helperSpawnFailed
  | helperExited | helperProtocolInvalid | artifactMissing | artifactInvalid | artifactCommitFailed
  | postCheckMismatch | cleanupFailed | internalUnclassified
  deriving DecidableEq

structure ExecutionFailure where
  stage : ExecutionStage
  reasonCode : ExecutionFailureReason
  effectState : EffectState
  retrySafety : RetrySafety
  recoveryAction : RecoveryAction
  evidenceRef : Option String
  correlationId : String
  deriving DecidableEq

inductive ExecutionFailureContractError where
  | preEffectStageHasInvalidEffectState | unknownEffectRequiresManualVerification
  | manualVerificationRequiresUnknownEffect | invalidCorrelationId | invalidEvidenceRef
  deriving DecidableEq

def ExecutionFailure.validate (failure : ExecutionFailure) :
    Except ExecutionFailureContractError Unit :=
  if failure.stage.isBeforeEffect ∧
      ¬(failure.effectState = .notStarted ∨ failure.effectState = .confirmedNotApplied) then
    .error .preEffectStageHasInvalidEffectState
  else if failure.effectState = .unknown ∧
      (failure.retrySafety ≠ .manualVerificationRequired ∨
        failure.recoveryAction ≠ .manualEffectVerification) then
    .error .unknownEffectRequiresManualVerification
  else if failure.effectState ≠ .unknown ∧
      (failure.retrySafety = .manualVerificationRequired ∨
        failure.recoveryAction = .manualEffectVerification) then
    .error .manualVerificationRequiresUnknownEffect
  else if !isBoundedNonBlank failure.correlationId maxCorrelationIdBytes then
    .error .invalidCorrelationId
  else if failure.evidenceRef.any (fun value => !isBoundedNonBlank value maxEvidenceRefBytes) then
    .error .invalidEvidenceRef
  else .ok ()

def terminalReceiptSchemaVersion : Nat := 1

inductive PlatformResource where
  | camera
  | screen
  deriving DecidableEq

inductive TargetPlatform where
  | macos | windows | linux | android | ios | unknown
  deriving DecidableEq

inductive ExecutionOutcome where
  | blocked | failed | cancelled | effectUnknown | succeeded
  deriving DecidableEq

inductive DeliveryOutcome where
  | notStarted | queued | published | consumerAcknowledged | pendingRetry | failed | expired
  deriving DecidableEq

def DeliveryOutcome.requiresFailure : DeliveryOutcome → Bool
  | pendingRetry | failed | expired => true
  | _ => false

structure TerminalTarget where
  platform : TargetPlatform
  (instanceId sessionId fingerprint : String)
  deriving DecidableEq

structure TerminalReceipt where
  schemaVersion : Nat
  (requestId commandId operationId requesterId : String)
  target : TerminalTarget
  method : String
  resource : PlatformResource
  (idempotencyKey bindingDigest : String)
  executionOutcome : ExecutionOutcome
  deliveryOutcome : DeliveryOutcome
  terminalRevision : Nat
  failure : Option ExecutionFailure
  deriving DecidableEq

def isDeliveryOrCleanupStage : ExecutionStage → Bool
  | .responseEnqueue | .responsePublish | .artifactTransfer | .cleanupRecovery => true
  | _ => false

namespace TerminalReceipt

/-- The failure of a stored receipt agrees with the outcome it is filed
under. -/
def failureAgrees (receipt : TerminalReceipt) (failure : ExecutionFailure) : Bool :=
  if failure.validate ≠ .ok () ∨ failure.correlationId ≠ receipt.bindingDigest then false
  else if receipt.executionOutcome = .blocked ∧
      ¬(failure.effectState = .notStarted ∨ failure.effectState = .confirmedNotApplied) then
    false
  else if receipt.executionOutcome = .effectUnknown ∧ failure.effectState ≠ .unknown then false
  else
    receipt.executionOutcome ≠ .succeeded ||
      (failure.effectState = .confirmedApplied && isDeliveryOrCleanupStage failure.stage)

def validateStored (receipt : TerminalReceipt) : Bool :=
  if receipt.schemaVersion ≠ terminalReceiptSchemaVersion ∨ receipt.terminalRevision = 0 ∨
      !isBoundedIdentity receipt.requestId ∨ !isBoundedIdentity receipt.commandId ∨
      !isBoundedIdentity receipt.operationId ∨ !isBoundedIdentity receipt.requesterId ∨
      !isBoundedIdentity receipt.target.instanceId ∨
      !isBoundedIdentity receipt.target.sessionId ∨
      !isSha256Digest receipt.target.fingerprint ∨
      !isBoundedIdentity receipt.method ∨ !isBoundedIdentity receipt.idempotencyKey ∨
      !isSha256Digest receipt.bindingDigest ∨
      ((receipt.executionOutcome ≠ .succeeded ∨ receipt.deliveryOutcome.requiresFailure) ∧
        receipt.failure = none) then
    false
  else receipt.failure.all receipt.failureAgrees

end TerminalReceipt

inductive CaptureArtifactKind where
  | cameraJpeg
  | screenPng
  deriving DecidableEq

structure ArtifactDeliveryDescriptor where
  schemaVersion : Nat
  artifactRef : String
  kind : CaptureArtifactKind
  mediaType : String
  sizeBytes : Nat
  fullDigest : String
  (createdAtMs expiresAtMs : Int)
  lifecycleRevision : Nat
  deriving DecidableEq

def CaptureArtifactKind.mediaType : CaptureArtifactKind → String
  | cameraJpeg => "image/jpeg"
  | screenPng => "image/png"

def ArtifactDeliveryDescriptor.validate (artifact : ArtifactDeliveryDescriptor) : Bool :=
  artifact.schemaVersion == 1 && isPrefixedHex artifact.artifactRef "capture:" &&
    isPrefixedHex artifact.fullDigest "sha256:" && 0 < artifact.sizeBytes &&
    0 < artifact.createdAtMs && artifact.createdAtMs < artifact.expiresAtMs &&
    artifact.mediaType == artifact.kind.mediaType

def terminalResponseContentSchemaVersion : Nat := 3

def legacyTerminalResponseContentSchemaV2 : Nat := 2

def legacyTerminalResponseContentSchemaV1 : Nat := 1

structure V2TerminalResponseContent where
  schemaVersion : Nat
  (requestId commandId operationId requesterId correlationId causationId targetInstanceId : String)
  (targetSessionId targetFingerprint idempotencyKey : String)
  targetScopeDigest : Option String
  terminal : TerminalReceipt
  artifact : Option ArtifactDeliveryDescriptor
  deriving DecidableEq

namespace V2TerminalResponseContent

def validateStored (content : V2TerminalResponseContent) : Bool :=
  (content.schemaVersion == legacyTerminalResponseContentSchemaV1 ||
      content.schemaVersion == legacyTerminalResponseContentSchemaV2 ||
      content.schemaVersion == terminalResponseContentSchemaVersion) &&
    (content.schemaVersion != legacyTerminalResponseContentSchemaV1 || content.artifact.isNone) &&
    (if content.schemaVersion = terminalResponseContentSchemaVersion then
      content.targetScopeDigest.any isSha256Digest
    else content.targetScopeDigest.isNone) &&
    content.artifact.all ArtifactDeliveryDescriptor.validate &&
    content.terminal.validateStored &&
    content.requestId == content.terminal.requestId &&
    content.commandId == content.terminal.commandId &&
    content.operationId == content.terminal.operationId &&
    content.requesterId == content.terminal.requesterId &&
    content.targetInstanceId == content.terminal.target.instanceId &&
    content.targetSessionId == content.terminal.target.sessionId &&
    content.targetFingerprint == content.terminal.target.fingerprint &&
    content.idempotencyKey == content.terminal.idempotencyKey &&
    isBoundedIdentity content.correlationId &&
    isBoundedIdentity content.causationId

def validateRestartRecovery (content : V2TerminalResponseContent) : Bool :=
  content.validateStored && content.artifact.isNone &&
    content.terminal.executionOutcome == .effectUnknown &&
    content.terminal.failure.any fun failure =>
      failure.effectState == .unknown && failure.retrySafety == .manualVerificationRequired &&
        failure.recoveryAction == .manualEffectVerification

end V2TerminalResponseContent

end Knowbee
