import Knowbee.Cancellation.DurableReceipt
import Knowbee.Command.Registry
import Knowbee.Lib.Threads

/-!
# The cancellation use case

`v2_cancel_use_case.rs`: an admitted control is applied to the registry of active commands, behind
a durable receipt that is prepared first and finalized with the registry's answer; a redelivered
control only reads the receipt, and finalizes it where it was left prepared.
-/

namespace Knowbee

open CasStore DurableCancellationReceipt

inductive V2CancelReason where
  | userRequested | deadlineExceeded | runtimeShutdown

structure V2CancelParams where
  (targetRequestId targetCommandId targetOperationId targetIdempotencyKey cancellationId : String)
  cancelToken : String
  reason : V2CancelReason

/-- The fields of a control that its use case reads. -/
structure V2ControlEnvelope where
  (messageId requestId commandId operationId correlationId requesterId targetInstanceId : String)
  (targetSessionId targetFingerprint idempotencyKey : String)
  issuedAt : Int
  cancel : V2CancelParams

/-- The instance whose registry the use case owns, as `V2CancelOwnerScope::new`
admits it. -/
structure V2CancelOwnerScope where
  (instanceId sessionId targetFingerprint : String)
  valid : isBoundedIdentity instanceId = true ∧ isBoundedIdentity sessionId = true ∧
    isSha256Digest targetFingerprint = true

namespace V2CancelOwnerScope

def matchesControl (scope : V2CancelOwnerScope) (control : V2ControlEnvelope) : Bool :=
  scope.instanceId == control.targetInstanceId && scope.sessionId == control.targetSessionId &&
    scope.targetFingerprint == control.targetFingerprint

end V2CancelOwnerScope

inductive V2CancelOutcome where
  | accepted | duplicate | alreadyTerminal | bindingMismatch | targetMismatch | notActive
  | stateUnavailable | internalContractFailure
  deriving DecidableEq

structure V2CancelAcknowledgement where
  (requestId commandId operationId correlationId causationId requesterId targetInstanceId : String)
  (targetSessionId targetFingerprint idempotencyKey targetRequestId targetCommandId : String)
  (targetOperationId targetIdempotencyKey cancellationId : String)
  outcome : V2CancelOutcome
  targetTerminal : Bool

def acknowledgement (control : V2ControlEnvelope) (outcome : V2CancelOutcome) :
    V2CancelAcknowledgement where
  __ := control
  causationId := control.messageId
  targetRequestId := control.cancel.targetRequestId
  targetCommandId := control.cancel.targetCommandId
  targetOperationId := control.cancel.targetOperationId
  targetIdempotencyKey := control.cancel.targetIdempotencyKey
  cancellationId := control.cancel.cancellationId
  outcome := outcome
  targetTerminal := false

def mapReason : V2CancelReason → CancellationReasonKind
  | .userRequested => .userRequested
  | .deadlineExceeded => .deadlineExceeded
  | .runtimeShutdown => .runtimeShutdown

def exactCancellation (control : V2ControlEnvelope) : Option ExactCancellationRequest := do
  let target ← CommandTargetBinding.new control.cancel.targetRequestId
    control.cancel.targetCommandId control.cancel.targetOperationId control.targetSessionId
    control.targetFingerprint control.cancel.targetIdempotencyKey
  ExactCancellationRequest.new 1 target control.cancel.cancelToken
    (mapReason control.cancel.reason) control.issuedAt

def mapRequestResult : CancellationRequestResult → V2CancelOutcome
  | .accepted => .accepted
  | .duplicate => .duplicate
  | .alreadyTerminal => .alreadyTerminal
  | .bindingMismatch => .bindingMismatch
  | .notActive => .notActive
  | .rejected => .stateUnavailable

def probeToRequestResult : CancellationProbeResult → CancellationRequestResult
  | .active => .rejected
  | .rejected => .rejected
  | .duplicate => .duplicate
  | .alreadyTerminal => .alreadyTerminal
  | .bindingMismatch => .bindingMismatch
  | .notActive => .notActive

def receiptOutcome : CancellationRequestResult → Option CancellationReceiptOutcome
  | .accepted => some .accepted
  | .duplicate => some .duplicate
  | .alreadyTerminal => some .alreadyTerminal
  | .bindingMismatch => none
  | .notActive => none
  | .rejected => none

def mapReceiptOutcome : CancellationReceiptOutcome → V2CancelOutcome
  | .prepared => .accepted
  | .accepted => .accepted
  | .duplicate => .duplicate
  | .alreadyTerminal => .alreadyTerminal

/-- The steps of a call, and the calls of others at the same store and
registry. -/
inductive CancelStep where
  | load (key : CancellationReceiptKey)
  | begin (receipt : DurableCancellationReceipt)
  | finalize (receipt : DurableCancellationReceipt)
  | storeTerminal (receipt : DurableCancellationReceipt)
  | probeExactCancellation (cancellation : ExactCancellationRequest)
  /-- The last of the probes that wait for a command to be registered: those
  before it found none and changed nothing. -/
  | waitForExactCancellationTarget (cancellation : ExactCancellationRequest)
  | requestExactCancellation (cancellation : ExactCancellationRequest)
  | nowMs
  | store (call : DurableCancellationStore.Call)
  | registry (call : ActiveCommandRegistry.Call)

abbrev CancelStep.Answer : CancelStep → Type
  | load _ => CancellationLoadResult
  | begin _ => CancellationBeginResult
  | finalize _ => CancellationFinalizeResult
  | storeTerminal _ => CancellationStoreTerminalResult
  | probeExactCancellation _ => CancellationProbeResult
  | waitForExactCancellationTarget _ => CancellationProbeResult
  | requestExactCancellation _ => CancellationRequestResult
  | nowMs => Int
  | store _ => Unit
  | registry _ => Unit

abbrev CancelProg (α : Type) : Type := Prog CancelStep CancelStep.Answer α

def cancelStep (step : CancelStep) : CancelProg step.Answer := Prog.perform step

def recoverReceipt (receipt : DurableCancellationReceipt) : CancelProg V2CancelOutcome := do
  if receipt.outcome ≠ .prepared then return mapReceiptOutcome receipt.outcome
  else
    let now ← cancelStep .nowMs
    match new receipt.key .accepted now with
    | .error _ => return .stateUnavailable
    | .ok accepted =>
      match ← cancelStep (.finalize accepted) with
      | .finalized => return .accepted
      | .alreadyFinalized => return .accepted
      | .notPrepared => return .stateUnavailable
      | .scopeMismatch => return .stateUnavailable
      | .unavailable => return .stateUnavailable

variable (key : CancellationReceiptKey) (cancellation : ExactCancellationRequest)

/-- The end of a call that has prepared the receipt: the registry is asked, and
its answer finalizes the receipt. -/
def requestPrepared : CancelProg V2CancelOutcome := do
  let requestResult ← cancelStep (.requestExactCancellation cancellation)
  match receiptOutcome requestResult with
  | none => return mapRequestResult requestResult
  | some outcome =>
    let now ← cancelStep .nowMs
    match new key outcome now with
    | .error _ => return .stateUnavailable
    | .ok terminal =>
      match ← cancelStep (.finalize terminal) with
      | .finalized => return mapReceiptOutcome outcome
      | .alreadyFinalized => return mapReceiptOutcome outcome
      | _ => return .stateUnavailable

/-- The end of a call that found the command cancelled or terminal already. -/
def storeProbed (probed : CancellationProbeResult) : CancelProg V2CancelOutcome := do
  let requestResult := probeToRequestResult probed
  match receiptOutcome requestResult with
  | none => return mapRequestResult requestResult
  | some outcome =>
    let now ← cancelStep .nowMs
    match new key outcome now with
    | .error _ => return .stateUnavailable
    | .ok terminal =>
      match ← cancelStep (.storeTerminal terminal) with
      | .stored => return mapReceiptOutcome outcome
      | .alreadyStored => return mapReceiptOutcome outcome
      | _ => return .stateUnavailable

def prepare : CancelProg V2CancelOutcome := do
  let now ← cancelStep .nowMs
  match new key .prepared now with
  | .error _ => return .stateUnavailable
  | .ok prepared =>
    match ← cancelStep (.begin prepared) with
    | .prepared => requestPrepared key cancellation
    | .alreadyPrepared => return .accepted
    | .alreadyFinalized =>
      match ← cancelStep (.load key) with
      | .exact receipt => recoverReceipt receipt
      | _ => return .stateUnavailable
    | .scopeMismatch => return .bindingMismatch
    | .saturated => return .stateUnavailable
    | .unavailable => return .stateUnavailable

def applyProbed (probed : CancellationProbeResult) : CancelProg V2CancelOutcome :=
  match probed with
  | .notActive => return .notActive
  | .bindingMismatch => return .bindingMismatch
  | .rejected => return .stateUnavailable
  | .active => prepare key cancellation
  | .duplicate => storeProbed key .duplicate
  | .alreadyTerminal => storeProbed key .alreadyTerminal

def applyDurable (sha256 : Sha256) (cancellationRequestId : String)
    (cancellation : ExactCancellationRequest) : CancelProg V2CancelOutcome :=
  match CancellationReceiptKey.newExact sha256 cancellationRequestId cancellation with
  | .error _ => return .internalContractFailure
  | .ok key => do
    match ← cancelStep (.load key) with
    | .exact receipt => recoverReceipt receipt
    | .scopeMismatch => return .bindingMismatch
    | .miss =>
      match ← cancelStep (.probeExactCancellation cancellation) with
      | .notActive =>
        applyProbed key cancellation (← cancelStep (.waitForExactCancellationTarget cancellation))
      | probed => applyProbed key cancellation probed

inductive V2CancelPersistence where
  | processLocal
  | durable

def applyExact (sha256 : Sha256) (persistence : V2CancelPersistence)
    (control : V2ControlEnvelope) : CancelProg V2CancelOutcome :=
  match exactCancellation control with
  | none => return .internalContractFailure
  | some cancellation =>
    match persistence with
    | .processLocal => do
      return mapRequestResult (← cancelStep (.requestExactCancellation cancellation))
    | .durable => applyDurable sha256 control.requestId cancellation

def replayDurable (sha256 : Sha256) (persistence : V2CancelPersistence)
    (control : V2ControlEnvelope) : CancelProg V2CancelOutcome :=
  match exactCancellation control with
  | none => return .internalContractFailure
  | some cancellation =>
    match persistence with
    | .processLocal => return .stateUnavailable
    | .durable =>
      match CancellationReceiptKey.newExact sha256 control.requestId cancellation with
      | .error _ => return .internalContractFailure
      | .ok key => do
        match ← cancelStep (.load key) with
        | .exact receipt => recoverReceipt receipt
        | .scopeMismatch => return .bindingMismatch
        | .miss => return .stateUnavailable

structure V2CancelUseCase where
  ownerScope : V2CancelOwnerScope
  persistence : V2CancelPersistence

namespace V2CancelUseCase

def execute (sha256 : Sha256) (useCase : V2CancelUseCase) (control : V2ControlEnvelope) :
    CancelProg V2CancelAcknowledgement := do
  let outcome ←
    if !useCase.ownerScope.matchesControl control then pure .targetMismatch
    else applyExact sha256 useCase.persistence control
  return acknowledgement control outcome

def replay (sha256 : Sha256) (useCase : V2CancelUseCase) (control : V2ControlEnvelope) :
    CancelProg V2CancelAcknowledgement := do
  let outcome ←
    if !useCase.ownerScope.matchesControl control then pure .targetMismatch
    else replayDurable sha256 useCase.persistence control
  return acknowledgement control outcome

end V2CancelUseCase

end Knowbee
