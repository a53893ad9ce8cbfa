import Knowbee.Lib.RecordStore
import Knowbee.Rust
import Mathlib

/-!
# The response archive

`durable_response_archive.rs`: the responses of completed commands, each stored as its JSON under
the digest of these bytes.  The archive bounds the number of its entries and their bytes, and
keeps a running total of the latter.
-/

namespace Knowbee

open CasStore

structure ErrorBody where
  (code message : String)
  deriving DecidableEq

structure Response (Value Attempt : Type) where
  id : Option String
  ok : Bool
  result : Option Value
  error : Option ErrorBody
  attempt : Option Attempt
  deriving DecidableEq

structure ArchivedResponseWire (Value Attempt : Type) where
  schemaVersion : Nat
  responseReference : String
  response : Response Value Attempt

/-- How responses are printed and read.  `versionFromSlice` reads the
`ArchiveVersionProbe`. -/
structure ResponseJson (Value Attempt : Type) where
  toVec : Response Value Attempt → Option ByteArray
  fromSlice : ByteArray → Option (Response Value Attempt)
  wireFromSlice : ByteArray → Option (ArchivedResponseWire Value Attempt)
  versionFromSlice : ByteArray → Option Nat

variable {Value Attempt : Type}

/-- The object of an archived response, its fields in their order. -/
def ArchivedResponseWire.toVec (json : ResponseJson Value Attempt)
    (wire : ArchivedResponseWire Value Attempt) : Option ByteArray :=
  (json.toVec wire.response).map fun response =>
    ("\x7b\"schemaVersion\":" ++ toString wire.schemaVersion ++ ",\"responseReference\":\"" ++
      wire.responseReference ++ "\",\"response\":").toUTF8 ++ response ++ "\x7d".toUTF8

def archiveSchemaVersion : Nat := 1

def maxArchiveCapacity : Nat := 65536

def maxEntryBytes : Nat := 16 * 1024 * 1024

def maxTotalBytes : Nat := 64 * 1024 * 1024

def maxWireOverheadBytes : Nat := 512

def responseReferencePrefix : String := "response:v1:sha256:"

inductive ResponseArchiveBootstrapError where
  | invalidLimits | tooManyEntries | tooManyBytes | malformed | unsupportedVersion | invalidResponse
  | duplicateReference | referenceMismatch | unavailable
  deriving DecidableEq

structure ArchiveLimits where
  (capacity maxEntryBytes maxTotalBytes : Nat)

def ArchiveLimits.Valid (limits : ArchiveLimits) : Prop :=
  ¬(limits.capacity = 0 ∨ maxArchiveCapacity < limits.capacity ∨ limits.maxEntryBytes = 0 ∨
    Knowbee.maxEntryBytes < limits.maxEntryBytes ∨ limits.maxTotalBytes < limits.maxEntryBytes ∨
    Knowbee.maxTotalBytes < limits.maxTotalBytes)

instance (limits : ArchiveLimits) : Decidable limits.Valid := inferInstanceAs (Decidable (¬_))

/-- A success has a result and no error, a failure a bounded error and no
result. -/
def shapeIsValid (response : Response Value Attempt) : Bool :=
  if response.ok then response.result.isSome && response.error.isNone
  else
    response.result.isNone && response.error.any fun error =>
      !(trim error.code).isEmpty && error.code.utf8ByteSize ≤ 128 &&
        !(trim error.message).isEmpty

/-- The bytes a response is archived as, without its request id. -/
def canonicalResponseBytes (json : ResponseJson Value Attempt)
    (response : Response Value Attempt) : Option ByteArray :=
  if !shapeIsValid response then none else json.toVec { response with id := none }

def responseReference (sha256 : Sha256) (responseBytes : ByteArray) : String :=
  responseReferencePrefix ++ (sha256 responseBytes).text

def validResponseReference (reference : String) : Bool :=
  isPrefixedHex reference responseReferencePrefix

/-- The archived bytes by reference, with their running total. -/
structure ArchiveRecords where
  responses : SortedMap String ByteArray
  totalResponseBytes : Nat
  deriving DecidableEq

inductive DurableResponseArchiveResult where
  | archived (responseReference : String)
  | unavailable

inductive DurableResponseResolveResult (Value Attempt : Type) where
  | found (response : Response Value Attempt)
  | missing
  | unavailable

inductive RetentionResponseRemoveResult where
  | removed | missing | unavailable

namespace ResponseArchiveRepository

inductive Call (Value Attempt : Type) where
  | archive (response : Response Value Attempt)
  | resolve (responseReference : String)
  | removeExact (responseReference : String)

inductive Answer (Value Attempt : Type) where
  | archive (result : DurableResponseArchiveResult)
  | resolve (result : DurableResponseResolveResult Value Attempt)
  | removeExact (result : RetentionResponseRemoveResult)

section Repository

variable (json : ResponseJson Value Attempt) (sha256 : Sha256) (limits : ArchiveLimits)

def loadEntry (records : ArchiveRecords) (entry : ByteArray) :
    Except ResponseArchiveBootstrapError ArchiveRecords :=
  if limits.maxEntryBytes + maxWireOverheadBytes < entry.size then .error .tooManyBytes
  else
    match json.versionFromSlice entry with
    | none => .error .malformed
    | some version =>
      if version ≠ archiveSchemaVersion then .error .unsupportedVersion
      else
        match json.wireFromSlice entry with
        | none => .error .malformed
        | some wire =>
          if wire.response.id.isSome then .error .invalidResponse
          else
            match canonicalResponseBytes json wire.response with
            | none => .error .invalidResponse
            | some responseBytes =>
              if limits.maxEntryBytes < responseBytes.size then .error .tooManyBytes
              else
                match u64CheckedAdd records.totalResponseBytes responseBytes.size with
                | none => .error .tooManyBytes
                | some total =>
                  if limits.maxTotalBytes < total then .error .tooManyBytes
                  else if responseReference sha256 responseBytes ≠ wire.responseReference then
                    .error .referenceMismatch
                  else if (records.responses.get? wire.responseReference).isSome then
                    .error .duplicateReference
                  else .ok ⟨records.responses.insert wire.responseReference responseBytes, total⟩

/-- `bootstrap`.  The sum of the entry limit and the overhead, which the source
checks, is far from overflowing. -/
def bootstrap (read : Read ByteArray) :
    Except ResponseArchiveBootstrapError (Cache ArchiveRecords) :=
  if ¬limits.Valid then .error .invalidLimits
  else
    match read with
    | .unavailable => .error .unavailable
    | .missing revision => .ok ⟨revision, ⟨.empty, 0⟩⟩
    | .records revision entries =>
      if limits.capacity < entries.length then .error .tooManyEntries
      else
        (entries.foldlM (loadEntry json sha256 limits) ⟨.empty, 0⟩).map fun records =>
          ⟨revision, records⟩

/-- The entries that `commit` writes. -/
def encode (records : ArchiveRecords) : Option (List ByteArray) :=
  records.responses.entries.mapM fun entry => do
    let response ← json.fromSlice entry.2
    ArchivedResponseWire.toVec json ⟨archiveSchemaVersion, entry.1, response⟩

def archive (response : Response Value Attempt) (records : ArchiveRecords) :
    Plan ArchiveRecords DurableResponseArchiveResult :=
  match canonicalResponseBytes json response with
  | none => .reply .unavailable
  | some responseBytes =>
    if limits.maxEntryBytes < responseBytes.size then .reply .unavailable
    else
      let reference := responseReference sha256 responseBytes
      if (records.responses.get? reference).isSome then .reply (.archived reference)
      else if limits.capacity ≤ records.responses.size then .reply .unavailable
      else
        match u64CheckedAdd records.totalResponseBytes responseBytes.size with
        | none => .reply .unavailable
        | some total =>
          if limits.maxTotalBytes < total then .reply .unavailable
          else
            .commit ⟨records.responses.insert reference responseBytes, total⟩
              fun committed => committed.ifWritten (.archived reference) .unavailable

def resolve (reference : String) (records : ArchiveRecords) :
    DurableResponseResolveResult Value Attempt :=
  if !validResponseReference reference then .missing
  else
    match records.responses.get? reference with
    | none => .missing
    | some responseBytes =>
      match json.fromSlice responseBytes with
      | some response => .found response
      | none => .unavailable

def removeExact (reference : String) (records : ArchiveRecords) :
    Plan ArchiveRecords RetentionResponseRemoveResult :=
  match records.responses.get? reference with
  | none => .reply .missing
  | some responseBytes =>
    if records.totalResponseBytes < responseBytes.size then .reply .unavailable
    else
      .commit ⟨records.responses.erase reference,
          records.totalResponseBytes - responseBytes.size⟩
        fun committed => committed.ifWritten .removed .unavailable

def plan (call : Call Value Attempt) (records : ArchiveRecords) :
    Plan ArchiveRecords (Answer Value Attempt) :=
  match call with
  | .archive response => (archive json sha256 limits response records).map .archive
  | .resolve reference => .reply (.resolve (resolve json reference records))
  | .removeExact reference => (removeExact reference records).map .removeExact

/-- `ResponseArchiveRepository` over a storage of entries. -/
def repository : Repository ByteArray ArchiveRecords (Call Value Attempt) (Answer Value Attempt)
    ResponseArchiveBootstrapError where
  bootstrap := bootstrap json sha256 limits
  recovery := fun _ => none
  encode := encode json
  plan := plan json sha256 limits

end Repository

end ResponseArchiveRepository

end Knowbee
