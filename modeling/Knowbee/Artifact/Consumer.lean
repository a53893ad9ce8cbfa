import Knowbee.Artifact.Assembler
import Knowbee.JavaScript

/-!
# The consumer in TypeScript

`createYeonjangMqttV2ArtifactAssembler` and `decodeFrame` of `mqtt-v2-artifact.ts`, which read the
frames of `artifact_transfer.rs`.
-/

namespace Knowbee

/-- A member of an object; `other` is any value that is no integer and no
string. -/
inductive JsonField where
  | integer (value : Int)
  | string (value : String)
  | other

/-- What `JSON.parse` gives; `other` is any value that is no record. -/
inductive JsonValue where
  | record (fields : List (String × JsonField))
  | other

/-- `JSON.parse` of the text in UTF-8, unless it throws. -/
abbrev JsonParse : Type := List UInt8 → Option JsonValue

section

variable (fields : List (String × JsonField))

/-- `Object.keys(value).length === keys.length && keys.every(…)`. -/
def exact (keys : List String) : Bool :=
  fields.length == keys.length && keys.all fun key => fields.any fun field => field.1 == key

def field (fields : List (String × JsonField)) (key : String) : Option JsonField :=
  (fields.find? fun field => field.1 == key).map Prod.snd

def integerField (key : String) : Option Int :=
  match field fields key with
  | some (.integer value) => some value
  | _ => none

def stringField (key : String) : Option String :=
  match field fields key with
  | some (.string value) => some value
  | _ => none

/-- `isIdentity` of a string. -/
def isConsumerIdentity (value : String) : Bool := !value.isEmpty && value.utf8ByteSize ≤ 256

def safePositive (value : Int) : Bool := isSafeInteger value && 0 < value

/-- `/^capture:[0-9a-f]{64}$/u`. -/
def isCaptureReference (value : String) : Bool :=
  let start := "capture:".toList
  let digest := value.toList.drop start.length
  start.isPrefixOf value.toList && digest.length == 64 &&
    digest.all fun c => (97 ≤ c.toNat && c.toNat ≤ 102) || (48 ≤ c.toNat && c.toNat ≤ 57)

def artifactChunkHeaderKeys : List String :=
  ["schema_version", "transfer_id", "artifact_ref", "owner_requester_id", "owner_request_id",
    "index", "count", "offset", "chunk_size", "total_size", "payload_digest", "full_digest",
    "expires_at_ms"]

/-- The object that `serde_json` writes for a header. -/
def ArtifactChunkHeader.toJson (header : ArtifactChunkHeader) : List (String × JsonField) :=
  [("schema_version", .integer header.schemaVersion), ("transfer_id", .string header.transferId),
    ("artifact_ref", .string header.artifactRef),
    ("owner_requester_id", .string header.ownerRequesterId),
    ("owner_request_id", .string header.ownerRequestId), ("index", .integer header.index),
    ("count", .integer header.count), ("offset", .integer header.offset),
    ("chunk_size", .integer header.chunkSize), ("total_size", .integer header.totalSize),
    ("payload_digest", .string header.payloadDigest), ("full_digest", .string header.fullDigest),
    ("expires_at_ms", .integer header.expiresAtMs)]

/-- The checks of a parsed header, and the header that passes them. -/
def decodeHeader (bytes : List UInt8) : Option ArtifactChunkHeader := do
  let schemaVersion ← integerField fields "schema_version"
  let transferId ← stringField fields "transfer_id"
  let artifactRef ← stringField fields "artifact_ref"
  let ownerRequesterId ← stringField fields "owner_requester_id"
  let ownerRequestId ← stringField fields "owner_request_id"
  let index ← integerField fields "index"
  let count ← integerField fields "count"
  let offset ← integerField fields "offset"
  let chunkSize ← integerField fields "chunk_size"
  let totalSize ← integerField fields "total_size"
  let payloadDigest ← stringField fields "payload_digest"
  let fullDigest ← stringField fields "full_digest"
  let expiresAtMs ← integerField fields "expires_at_ms"
  if schemaVersion ≠ 1 ∨ !isConsumerIdentity transferId ∨
      !isConsumerIdentity ownerRequesterId ∨ !isConsumerIdentity ownerRequestId ∨
      !isCaptureReference artifactRef ∨ !isHashReference payloadDigest ∨
      !isHashReference fullDigest ∨ !safePositive count ∨ 65536 < count ∨
      !isSafeInteger index ∨ index < 0 ∨ count ≤ index ∨ !isSafeInteger offset ∨ offset < 0 ∨
      !safePositive chunkSize ∨ 262144 < chunkSize ∨ !safePositive totalSize ∨
      !safePositive expiresAtMs ∨ (bytes.length : Int) ≠ chunkSize ∨
      totalSize < offset + bytes.length then
    none
  else
    some {
      schemaVersion := schemaVersion.toNat
      transferId
      artifactRef
      ownerRequesterId
      ownerRequestId
      index := index.toNat
      count := count.toNat
      offset := offset.toNat
      chunkSize := chunkSize.toNat
      totalSize := totalSize.toNat
      payloadDigest
      fullDigest
      expiresAtMs
    }

end

/-- `toString("ascii")`, which clears the highest bit of each byte. -/
def asciiText (bytes : List UInt8) : List UInt8 := bytes.map fun byte => byte &&& 127

def decodeFrame (parse : JsonParse) (frame : List UInt8) :
    Option (ArtifactChunkHeader × List UInt8) :=
  if frame.length < 9 ∨ asciiText (frame.take 4) ≠ artifactChunkFrameMagic then none
  else
    let headerLength := u32FromBeBytes ((frame.drop 4).take 4)
    if headerLength < 1 ∨ 65536 < headerLength ∨ frame.length ≤ 8 + headerLength then none
    else
      match parse ((frame.drop 8).take headerLength) with
      | some (.record fields) =>
        if !exact fields artifactChunkHeaderKeys then none
        else
          let bytes := frame.drop (8 + headerLength)
          (decodeHeader fields bytes).map fun header => (header, bytes)
      | _ => none

inductive ArtifactReasonCode where
  | frameInvalid | bindingMismatch | digestMismatch | expired | alreadyTerminal

inductive ArtifactAssemblyResult where
  | pending
  | complete (bytes : List UInt8)
  | failed (reasonCode : ArtifactReasonCode)

structure ArtifactAssemblerInput where
  (transferId artifactRef ownerRequesterId ownerRequestId fullDigest : String)
  (totalSize expiresAtMs : Int)

/-- What it keeps between frames: the offset and the bytes of each index, the
number of chunks once a frame has told it, and whether it is over. -/
structure YeonjangMqttV2ArtifactAssembler where
  chunks : SortedMap Nat (Nat × List UInt8)
  expectedCount : Option Nat
  terminal : Bool

namespace YeonjangMqttV2ArtifactAssembler

def create : YeonjangMqttV2ArtifactAssembler where
  chunks := .empty
  expectedCount := none
  terminal := false

def fail (assembler : YeonjangMqttV2ArtifactAssembler) (reasonCode : ArtifactReasonCode) :
    YeonjangMqttV2ArtifactAssembler × ArtifactAssemblyResult :=
  ({ assembler with terminal := true }, .failed reasonCode)

/-- The loop over the chunks in the order of their indices. -/
def orderedParts : List (Nat × Nat × List UInt8) → Nat → Nat → List UInt8 → Option (List UInt8)
  | [], _, _, parts => some parts
  | (key, start, bytes) :: rest, index, offset, parts =>
    if key ≠ index ∨ start ≠ offset then none
    else orderedParts rest (index + 1) (offset + bytes.length) (parts ++ bytes)

/-- The end of `accept`, once there are as many chunks as expected. -/
def complete (sha256 : Sha256) (input : ArtifactAssemblerInput)
    (assembler : YeonjangMqttV2ArtifactAssembler) :
    YeonjangMqttV2ArtifactAssembler × ArtifactAssemblyResult :=
  match orderedParts assembler.chunks.entries 0 0 [] with
  | none => assembler.fail .bindingMismatch
  | some result =>
    if (result.length : Int) ≠ input.totalSize ∨ digest sha256 result ≠ input.fullDigest then
      assembler.fail .digestMismatch
    else ({ assembler with terminal := true }, .complete result)

/-- `accept`, with what the two readings of the clock give. -/
def accept (parse : JsonParse) (sha256 : Sha256) (input : ArtifactAssemblerInput)
    (assembler : YeonjangMqttV2ArtifactAssembler) (frame : List UInt8) (nowMs laterMs : Int) :
    YeonjangMqttV2ArtifactAssembler × ArtifactAssemblyResult :=
  if assembler.terminal then (assembler, .failed .alreadyTerminal)
  else
    match decodeFrame parse frame with
    | none => assembler.fail .frameInvalid
    | some (header, bytes) =>
      if input.expiresAtMs ≤ nowMs ∨ header.expiresAtMs ≤ laterMs then assembler.fail .expired
      else if header.transferId ≠ input.transferId ∨ header.artifactRef ≠ input.artifactRef ∨
          header.ownerRequesterId ≠ input.ownerRequesterId ∨
          header.ownerRequestId ≠ input.ownerRequestId ∨ header.fullDigest ≠ input.fullDigest ∨
          (header.totalSize : Int) ≠ input.totalSize then
        assembler.fail .bindingMismatch
      else if digest sha256 bytes ≠ header.payloadDigest then assembler.fail .digestMismatch
      else
        let expectedCount := assembler.expectedCount.getD header.count
        let assembler := { assembler with expectedCount := some expectedCount }
        if expectedCount ≠ header.count then assembler.fail .bindingMismatch
        else
          let changed := (assembler.chunks.get? header.index).any fun previous =>
            previous.1 ≠ header.offset || previous.2 ≠ bytes
          if changed then assembler.fail .bindingMismatch
          else
            let assembler :=
              { assembler with
                chunks := assembler.chunks.insert header.index (header.offset, bytes) }
            if assembler.chunks.size ≠ expectedCount then (assembler, .pending)
            else assembler.complete sha256 input

/-- A frame, and what the two readings of the clock give at its delivery. -/
structure FrameDelivery where
  frame : List UInt8
  (nowMs laterMs : Int)

def step (parse : JsonParse) (sha256 : Sha256) (input : ArtifactAssemblerInput)
    (assembler : YeonjangMqttV2ArtifactAssembler) (delivery : FrameDelivery) :
    YeonjangMqttV2ArtifactAssembler × ArtifactAssemblyResult :=
  assembler.accept parse sha256 input delivery.frame delivery.nowMs delivery.laterMs

abbrev run (parse : JsonParse) (sha256 : Sha256) (input : ArtifactAssemblerInput) :
    YeonjangMqttV2ArtifactAssembler → List FrameDelivery → YeonjangMqttV2ArtifactAssembler :=
  Machine.run (step parse sha256 input)

end YeonjangMqttV2ArtifactAssembler

end Knowbee
