import Knowbee.Rust

/-!
# What a cancellation names

The exact target of a cancellation and the request for it, as
`cancellation.rs` builds them: every field is trimmed and bounded on the way
in.
-/

namespace Knowbee

def maxBindingLength : Nat := 256

/-- A trimmed, non-empty string of at most 256 bytes. -/
def boundedBinding (value : String) : Option String :=
  let trimmed := trim value
  if trimmed.isEmpty || maxBindingLength < trimmed.utf8ByteSize then none else some trimmed

structure CommandTargetBinding where
  (targetRequestId commandId operationId targetSessionId targetFingerprint idempotencyKey : String)
  deriving DecidableEq

inductive CancellationReasonKind where
  | userRequested | deadlineExceeded | runtimeShutdown
  deriving DecidableEq

structure ExactCancellationRequest where
  target : CommandTargetBinding
  cancelToken : String
  reasonKind : CancellationReasonKind
  requestedAtMs : Int
  deriving DecidableEq

namespace CommandTargetBinding

def new (targetRequestId commandId operationId targetSessionId targetFingerprint
    idempotencyKey : String) : Option CommandTargetBinding := do
  return {
    targetRequestId := ← boundedBinding targetRequestId
    commandId := ← boundedBinding commandId
    operationId := ← boundedBinding operationId
    targetSessionId := ← boundedBinding targetSessionId
    targetFingerprint := ← boundedBinding targetFingerprint
    idempotencyKey := ← boundedBinding idempotencyKey
  }

/-- The bytes `update_digest` feeds: every field behind its length. -/
def digestInput (target : CommandTargetBinding) : ByteArray :=
  [target.targetRequestId, target.commandId, target.operationId, target.targetSessionId,
    target.targetFingerprint, target.idempotencyKey].foldl
    (fun bytes field => bytes ++ toBeBytes field.utf8ByteSize ++ field.toUTF8) .empty

def scopeDigest (sha256 : Sha256) (target : CommandTargetBinding) : String :=
  sha256.prefixed target.digestInput

end CommandTargetBinding

/-- The discriminant `reason_kind as u8`. -/
def CancellationReasonKind.toByte : CancellationReasonKind → UInt8
  | .userRequested => 0
  | .deadlineExceeded => 1
  | .runtimeShutdown => 2

namespace ExactCancellationRequest

def cancellationEnvelopeSchemaVersion : Nat := 1

def new (schemaVersion : Nat) (target : CommandTargetBinding) (cancelToken : String)
    (reasonKind : CancellationReasonKind) (requestedAtMs : Int) :
    Option ExactCancellationRequest :=
  if schemaVersion ≠ cancellationEnvelopeSchemaVersion ∨ requestedAtMs ≤ 0 then none
  else (boundedBinding cancelToken).map fun token => ⟨target, token, reasonKind, requestedAtMs⟩

def scopeDigest (sha256 : Sha256) (request : ExactCancellationRequest) : String :=
  sha256.prefixed ((request.target.scopeDigest sha256).toUTF8 ++
    ⟨#[request.reasonKind.toByte]⟩ ++ toBeBytes request.requestedAtMs)

end ExactCancellationRequest

end Knowbee
