import Knowbee.Lib.RecordStore
import Knowbee.Rust

/-!
# Delivery receipts

`v2_delivery_receipt.rs`: one receipt for each terminal response that is queued
for a consumer, kept apart from the execution's own terminal state.  A receipt
is registered queued (or published), marked published by the transport and
acknowledged by the consumer that names its exact binding.
-/

namespace Knowbee

open CasStore

def deliverySchemaVersion : Nat := 1

inductive V2DeliveryReceiptState where
  | queued | published | consumerAcknowledged
  deriving DecidableEq

/-- The fields of a receipt that no transition changes. -/
structure V2DeliveryBinding where
  schemaVersion : Nat
  (receiptId requesterId requestId commandId operationId idempotencyKey targetInstanceId : String)
  (targetSessionId targetFingerprint : String)
  terminalRevision : Nat
  responseDigest : String
  deriving DecidableEq

structure V2DeliveryReceipt extends V2DeliveryBinding where
  state : V2DeliveryReceiptState
  deliveryRevision : Nat
  deriving DecidableEq

structure V2DeliveryAckBinding where
  (receiptId requesterId requestId commandId operationId idempotencyKey targetInstanceId : String)
  (targetSessionId targetFingerprint : String)
  terminalRevision : Nat
  responseDigest : String

inductive V2DeliveryRegisterResult where
  | registered | duplicate | bindingMismatch | saturated | unavailable

inductive V2DeliveryAckStoreResult where
  | accepted (deliveryRevision : Nat)
  | duplicate (deliveryRevision : Nat)
  | notReady
  | notFound
  | bindingMismatch
  | revisionMismatch
  | unavailable

inductive V2DeliveryPublishResult where
  | published (deliveryRevision : Nat)
  | duplicate (deliveryRevision : Nat)
  | alreadyAcknowledged (deliveryRevision : Nat)
  | notFound
  | unavailable

inductive V2DeliveryIdentityResolution where
  | candidate
  | existing (receiptId : String)
  | conflict

namespace V2DeliveryReceipt

def validate (receipt : V2DeliveryReceipt) : Bool :=
  receipt.schemaVersion == deliverySchemaVersion &&
    [receipt.receiptId, receipt.requesterId, receipt.requestId, receipt.commandId,
      receipt.operationId, receipt.idempotencyKey, receipt.targetInstanceId,
      receipt.targetSessionId].all validateIdentifier &&
    isSha256Digest receipt.targetFingerprint &&
    isSha256Digest receipt.responseDigest &&
    0 < receipt.terminalRevision &&
    0 < receipt.deliveryRevision &&
    (receipt.state ≠ .consumerAcknowledged || 2 ≤ receipt.deliveryRevision)

def hasSameImmutableBinding (receipt other : V2DeliveryReceipt) : Bool :=
  receipt.toV2DeliveryBinding = other.toV2DeliveryBinding

/-- `has_same_terminal_delivery_binding`: all of the binding but the id. -/
def hasSameTerminalDeliveryBinding (receipt other : V2DeliveryReceipt) : Bool :=
  { receipt.toV2DeliveryBinding with receiptId := other.receiptId } = other.toV2DeliveryBinding

def exactAckBinding (receipt : V2DeliveryReceipt) (binding : V2DeliveryAckBinding) :
    V2DeliveryAckStoreResult :=
  if receipt.requesterId ≠ binding.requesterId ∨ receipt.requestId ≠ binding.requestId ∨
      receipt.commandId ≠ binding.commandId ∨ receipt.operationId ≠ binding.operationId ∨
      receipt.idempotencyKey ≠ binding.idempotencyKey ∨
      receipt.targetInstanceId ≠ binding.targetInstanceId ∨
      receipt.targetSessionId ≠ binding.targetSessionId ∨
      receipt.targetFingerprint ≠ binding.targetFingerprint ∨
      receipt.responseDigest ≠ binding.responseDigest then
    .bindingMismatch
  else if receipt.terminalRevision ≠ binding.terminalRevision then .revisionMismatch
  else .accepted receipt.deliveryRevision

end V2DeliveryReceipt

/-- A receipt as `V2DeliveryReceipt::build` returns it: valid and at its first delivery revision. -/
structure BuiltDeliveryReceipt where
  receipt : V2DeliveryReceipt
  valid : receipt.validate = true
  first : receipt.deliveryRevision = 1

def queuedReceipt (receiptId : String) : V2DeliveryReceipt where
  schemaVersion := 1
  receiptId := receiptId
  requesterId := "requester-1"
  requestId := "request-1"
  commandId := "command-1"
  operationId := "operation-1"
  idempotencyKey := "key-1"
  targetInstanceId := "instance-1"
  targetSessionId := "session-1"
  targetFingerprint := "sha256:" ++ String.ofList (List.replicate 64 '0')
  terminalRevision := 1
  responseDigest := "sha256:" ++ String.ofList (List.replicate 64 '1')
  state := .queued
  deliveryRevision := 1

abbrev DeliveryReceipts : Type := SortedMap String V2DeliveryReceipt

inductive DurableV2DeliveryRepositoryError where
  | invalidCapacity | corrupt | duplicate | saturated | unavailable

namespace DurableV2Delivery

variable {Raw : Type}

def decode (codec : Codec V2DeliveryReceipt Raw) (raw : Raw) :
    Except DurableV2DeliveryRepositoryError V2DeliveryReceipt :=
  match codec.parse raw with
  | none => .error .corrupt
  | some receipt => if receipt.validate then .ok receipt else .error .corrupt

def bootstrap (codec : Codec V2DeliveryReceipt Raw) (capacity : Nat) (read : Read Raw) :
    Except DurableV2DeliveryRepositoryError (Cache DeliveryReceipts) :=
  RecordStore.bootstrap ⟨.invalidCapacity, .duplicate, .saturated, .unavailable⟩ u32Max
    (decode codec) (fun receipt => receipt.receiptId) capacity read

def register (capacity : Nat) (receipt : V2DeliveryReceipt) (receipts : DeliveryReceipts) :
    Plan DeliveryReceipts V2DeliveryRegisterResult :=
  if !receipt.validate then .reply .unavailable
  else
    match receipts.get? receipt.receiptId with
    | some existing =>
      if existing.hasSameImmutableBinding receipt then .reply .duplicate
      else .reply .bindingMismatch
    | none =>
      if capacity ≤ receipts.size then .reply .saturated
      else
        .commit (receipts.insert receipt.receiptId receipt)
          fun committed => committed.ifWritten .registered .unavailable

def loadExact (receiptId : String) (receipts : DeliveryReceipts) : Option V2DeliveryReceipt :=
  receipts.get? receiptId

def resolveReceiptId (candidate : V2DeliveryReceipt) (receipts : DeliveryReceipts) :
    V2DeliveryIdentityResolution :=
  match receipts.values.filter (fun receipt => receipt.hasSameTerminalDeliveryBinding candidate) with
  | [] => .candidate
  | [existing] => .existing existing.receiptId
  | _ => .conflict

def markPublished (receiptId : String) (receipts : DeliveryReceipts) :
    Plan DeliveryReceipts V2DeliveryPublishResult :=
  match receipts.get? receiptId with
  | none => .reply .notFound
  | some receipt =>
    match receipt.state with
    | .published => .reply (.duplicate receipt.deliveryRevision)
    | .consumerAcknowledged => .reply (.alreadyAcknowledged receipt.deliveryRevision)
    | .queued =>
      let deliveryRevision := u64Add receipt.deliveryRevision 1
      .commit (receipts.insert receiptId { receipt with state := .published, deliveryRevision })
        fun committed => committed.ifWritten (.published deliveryRevision) .unavailable

def acknowledge (binding : V2DeliveryAckBinding) (receipts : DeliveryReceipts) :
    Plan DeliveryReceipts V2DeliveryAckStoreResult :=
  match receipts.get? binding.receiptId with
  | none => .reply .notFound
  | some receipt =>
    match receipt.exactAckBinding binding with
    | .accepted _ =>
      match receipt.state with
      | .queued => .reply .notReady
      | .consumerAcknowledged => .reply (.duplicate receipt.deliveryRevision)
      | .published =>
        let deliveryRevision := u64Add receipt.deliveryRevision 1
        .commit (receipts.insert binding.receiptId
            { receipt with state := .consumerAcknowledged, deliveryRevision })
          fun committed => committed.ifWritten (.accepted deliveryRevision) .unavailable
    | exact => .reply exact

inductive Call where
  | register (receipt : BuiltDeliveryReceipt)
  | markPublished (receiptId : String)
  | acknowledge (binding : V2DeliveryAckBinding)
  | loadExact (receiptId : String)
  | resolveReceiptId (candidate : V2DeliveryReceipt)

inductive Answer where
  | register (result : V2DeliveryRegisterResult)
  | markPublished (result : V2DeliveryPublishResult)
  | acknowledge (result : V2DeliveryAckStoreResult)
  | loadExact (result : Option V2DeliveryReceipt)
  | resolveReceiptId (result : V2DeliveryIdentityResolution)

def plan (capacity : Nat) (call : Call) (receipts : DeliveryReceipts) :
    Plan DeliveryReceipts Answer :=
  match call with
  | .register built => (register capacity built.receipt receipts).map .register
  | .markPublished receiptId => (markPublished receiptId receipts).map .markPublished
  | .acknowledge binding => (acknowledge binding receipts).map .acknowledge
  | .loadExact receiptId => .reply (.loadExact (loadExact receiptId receipts))
  | .resolveReceiptId candidate => .reply (.resolveReceiptId (resolveReceiptId candidate receipts))

def repository (codec : Codec V2DeliveryReceipt Raw) (capacity : Nat) :
    Repository Raw DeliveryReceipts Call Answer DurableV2DeliveryRepositoryError where
  bootstrap := bootstrap codec capacity
  recovery := fun _ => none
  encode := RecordStore.encodeRecords codec.print
  plan := plan capacity

end DurableV2Delivery

end Knowbee
