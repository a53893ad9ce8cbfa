import Knowbee.Lib.RecordStore
import Knowbee.Rust

/-!
# The completed records

`completed_idempotency.rs` and `durable_completed_store.rs`: one record for each idempotency key,
first a reservation whose effect is unknown and then the terminal outcome with the reference of
the archived response.
-/

namespace Knowbee

open CasStore

def maxDurableRecordBytes : Nat := 8 * 1024

def durableRecordSchemaVersion : Nat := 1

/-- `valid_required`: a trimmed, non-empty string of bounded length. -/
def validRequired (value : String) (maxBytes : Nat) : Bool :=
  !value.isEmpty && value.utf8ByteSize ≤ maxBytes && trim value == value

structure CompletedRequestKey where
  (authorizationId method resourceScope commandId operationId targetSessionId : String)
  (targetFingerprint idempotencyKey : String)
  expiresAt : Int
  deriving DecidableEq

namespace CompletedRequestKey

def isValid (key : CompletedRequestKey) : Bool :=
  validRequired key.authorizationId 256 && validRequired key.method 128 &&
    validRequired key.resourceScope 128 && validRequired key.commandId 256 &&
    validRequired key.operationId 256 && validRequired key.targetSessionId 256 &&
    validRequired key.targetFingerprint 512 && validRequired key.idempotencyKey 256

def storageKey (key : CompletedRequestKey) : String := key.idempotencyKey

end CompletedRequestKey

inductive DurableTerminalOutcome where
  | effectStateUnknown (observedAtMs : Int)
  | succeeded (responseDigest responseReference : String)
  | failed (responseDigest responseReference errorCode : String)

def DurableTerminalOutcome.isValid : DurableTerminalOutcome → Bool
  | effectStateUnknown observedAtMs => 0 < observedAtMs
  | succeeded responseDigest responseReference =>
    isSha256Digest responseDigest && validRequired responseReference 512
  | failed responseDigest responseReference errorCode =>
    isSha256Digest responseDigest && validRequired responseReference 512 &&
      validRequired errorCode 128

inductive DurableRecordError where
  | tooLarge | malformed | unsupportedVersion | invalidRecord

structure DurableCompletedRecord where
  key : CompletedRequestKey
  terminal : DurableTerminalOutcome
  finalizedAtMs : Int
  valid : key.isValid = true ∧ terminal.isValid = true ∧ 0 < finalizedAtMs

structure DurableRecordWire where
  schemaVersion : Nat
  key : CompletedRequestKey
  terminal : DurableTerminalOutcome
  finalizedAtMs : Int

/-- The JSON form of records, with the probe of its schema version. -/
abbrev DurableRecordCodec (Raw : Type) : Type :=
  ProbedCodec DurableRecordWire Raw Nat DurableRecordWire.schemaVersion

namespace DurableCompletedRecord

variable {Raw : Type} (record : DurableCompletedRecord)

def toWire : DurableRecordWire where
  schemaVersion := durableRecordSchemaVersion
  __ := record

def encode (codec : DurableRecordCodec Raw) (record : DurableCompletedRecord) :
    Except DurableRecordError Raw :=
  match codec.print record.toWire with
  | none => .error .malformed
  | some encoded =>
    if maxDurableRecordBytes < codec.length encoded then .error .tooLarge else .ok encoded

def responseReference (record : DurableCompletedRecord) : Option String :=
  match record.terminal with
  | .effectStateUnknown _ => none
  | .succeeded _ responseReference => some responseReference
  | .failed _ responseReference _ => some responseReference

def isEffectStateUnknown : Bool :=
  match record.terminal with
  | .effectStateUnknown _ => true
  | _ => false

lemma isEffectStateUnknown_eq :
    record.isEffectStateUnknown = record.responseReference.isNone := by
  unfold isEffectStateUnknown responseReference
  cases record.terminal <;> rfl

end DurableCompletedRecord

abbrev DurableCompletedRecords : Type := SortedMap String DurableCompletedRecord

structure RetentionRecord where
  key : CompletedRequestKey
  responseReference : String
  (expiresAt finalizedAtMs : Int)
  deriving DecidableEq

inductive RetentionRecordRemoveResult where
  | removed | missing | changed | unavailable
  deriving DecidableEq

namespace DurableRecordRepository

variable {Raw : Type}

def encode (codec : DurableRecordCodec Raw) (records : DurableCompletedRecords) :
    Option (List Raw) :=
  RecordStore.encodeRecords (fun record => (record.encode codec).toOption) records

def retentionRecord (record : DurableCompletedRecord) : Option RetentionRecord :=
  record.responseReference.map fun responseReference => {
    key := record.key
    responseReference := responseReference
    expiresAt := record.key.expiresAt
    finalizedAtMs := record.finalizedAtMs
  }

def retentionRecords (records : DurableCompletedRecords) : List RetentionRecord :=
  records.values.filterMap retentionRecord

def hasUnknownReservations (records : DurableCompletedRecords) : Bool :=
  records.values.any DurableCompletedRecord.isEffectStateUnknown

def removeTerminalExact (key : CompletedRequestKey) (responseReference : String)
    (records : DurableCompletedRecords) :
    Plan DurableCompletedRecords RetentionRecordRemoveResult :=
  match records.get? key.storageKey with
  | none => .reply .missing
  | some existing =>
    if existing.key ≠ key ∨ existing.isEffectStateUnknown = true ∨
        existing.responseReference ≠ some responseReference then
      .reply .changed
    else
      .commit (records.erase key.storageKey)
        fun committed => committed.ifWritten .removed .unavailable

end DurableRecordRepository

end Knowbee
