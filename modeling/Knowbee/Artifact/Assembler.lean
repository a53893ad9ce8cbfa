import Knowbee.Artifact.Transfer

/-!
# The consumer of chunks

The rest of `artifact_transfer.rs`: the frame a chunk travels in, and the
assembler that takes chunks in whatever order they arrive and gives the bytes
when the last one is there.

A frame is `YAC2 | header length | JSON header | raw bytes`.  The JSON of headers
is a parameter.
-/

namespace Knowbee

def artifactChunkFrameMagic : List UInt8 := [89, 65, 67, 50]

def maxChunkHeaderBytes : Nat := 65536

def u32ToBeBytes (value : Nat) : List UInt8 :=
  [UInt8.ofNat (value / 2 ^ 24), UInt8.ofNat (value / 2 ^ 16), UInt8.ofNat (value / 2 ^ 8),
    UInt8.ofNat value]

def u32FromBeBytes (bytes : List UInt8) : Nat :=
  bytes.foldl (fun value byte => value * 256 + byte.toNat) 0

/-- `serde_json::to_vec` and `serde_json::from_slice` of a header. -/
structure ArtifactChunkHeaderJson where
  toVec : ArtifactChunkHeader → Option (List UInt8)
  fromSlice : List UInt8 → Option ArtifactChunkHeader

def encodeArtifactChunkFrame (json : ArtifactChunkHeaderJson) (chunk : ArtifactChunk) :
    Except ArtifactChunkError (List UInt8) := do
  chunk.header.validate
  if chunk.payload.length ≠ chunk.header.chunkSize ∨
      maxChunkPayloadBytes < chunk.payload.length then
    throw .invalidPayloadSize
  else
    match json.toVec chunk.header with
    | none => throw .invalidHeader
    | some header =>
      if header.isEmpty ∨ maxChunkHeaderBytes < header.length then throw .invalidHeader
      else return artifactChunkFrameMagic ++ u32ToBeBytes header.length ++ header ++ chunk.payload

def decodeArtifactChunkFrame (json : ArtifactChunkHeaderJson) (sha256 : Sha256)
    (frame : List UInt8) : Except ArtifactChunkError ArtifactChunk :=
  if frame.length < 9 ∨ frame.take 4 ≠ artifactChunkFrameMagic then .error .invalidFrame
  else
    let headerLength := u32FromBeBytes ((frame.drop 4).take 4)
    if headerLength = 0 ∨ maxChunkHeaderBytes < headerLength then .error .invalidFrame
    else if frame.length < 8 + headerLength then .error .invalidFrame
    else
      let payload := frame.drop (8 + headerLength)
      if payload.isEmpty ∨ maxChunkPayloadBytes < payload.length then .error .invalidFrame
      else
        match json.fromSlice ((frame.drop 8).take headerLength) with
        | none => .error .invalidHeader
        | some header => ArtifactChunk.fromUntrusted sha256 header payload

inductive ArtifactChunkReceive where
  | accepted (received : Nat)
  | duplicate (received : Nat)
  | complete (bytes : List UInt8)
  | rejected (reason : ArtifactChunkError)

structure ArtifactChunkAssembler where
  binding : ArtifactBinding
  transferId : String
  count : Nat
  chunks : SortedMap Nat ArtifactChunk

namespace ArtifactChunkAssembler

def new (binding : ArtifactBinding) (transferId : String) (count : Nat) :
    Except ArtifactChunkError ArtifactChunkAssembler :=
  if !isBoundedIdentity transferId ∨ count = 0 ∨ maxChunkCount < count then .error .invalidHeader
  else .ok ⟨binding, transferId, count, .empty⟩

variable (sha256 : Sha256) (assembler : ArtifactChunkAssembler)

def received : Nat := assembler.chunks.size % 2 ^ 32

/-- The loop of `reassemble` over the indices that are left. -/
def reassembleFrom (sha256 : Sha256) (assembler : ArtifactChunkAssembler) :
    List Nat → List UInt8 → Nat → Except ArtifactChunkError (List UInt8)
  | [], bytes, expectedOffset =>
    if expectedOffset ≠ assembler.binding.totalSize ∨
        digest sha256 bytes ≠ assembler.binding.fullDigest then
      .error .fullDigestMismatch
    else .ok bytes
  | index :: rest, bytes, expectedOffset =>
    match assembler.chunks.get? index with
    | none => .error .missingChunks
    | some chunk =>
      if chunk.header.offset ≠ expectedOffset then .error .overlap
      else
        match u64CheckedAdd expectedOffset chunk.header.chunkSize with
        | none => .error .overlap
        | some offset => reassembleFrom sha256 assembler rest (bytes ++ chunk.payload) offset

def reassemble : Except ArtifactChunkError (List UInt8) :=
  reassembleFrom sha256 assembler (List.range assembler.count) [] 0

def wrongBinding (header : ArtifactChunkHeader) : Bool :=
  header.artifactRef != assembler.binding.artifactRef ||
    header.ownerRequesterId != assembler.binding.ownerRequesterId ||
    header.ownerRequestId != assembler.binding.ownerRequestId ||
    header.fullDigest != assembler.binding.fullDigest ||
    header.totalSize != assembler.binding.totalSize ||
    header.expiresAtMs != assembler.binding.expiresAtMs ||
    header.count != assembler.count

def accept (chunk : ArtifactChunk) (nowMs : Int) : ArtifactChunkAssembler × ArtifactChunkReceive :=
  let header := chunk.header
  if nowMs ≤ 0 ∨ assembler.binding.expiresAtMs ≤ nowMs then (assembler, .rejected .expired)
  else if header.transferId ≠ assembler.transferId then (assembler, .rejected .wrongTransfer)
  else if assembler.wrongBinding header then (assembler, .rejected .wrongBinding)
  else
    match assembler.chunks.get? header.index with
    | some existing =>
      if existing = chunk then (assembler, .duplicate assembler.received)
      else (assembler, .rejected .duplicateMismatch)
    | none =>
      let assembler := { assembler with chunks := assembler.chunks.insert header.index chunk }
      if assembler.received ≠ assembler.count then (assembler, .accepted assembler.received)
      else
        match assembler.reassemble sha256 with
        | .ok bytes => (assembler, .complete bytes)
        | .error reason => (assembler, .rejected reason)

abbrev Delivery : Type := ArtifactChunk × Int

def step (delivery : Delivery) : ArtifactChunkAssembler × ArtifactChunkReceive :=
  assembler.accept sha256 delivery.1 delivery.2

abbrev run (sha256 : Sha256) : ArtifactChunkAssembler → List Delivery → ArtifactChunkAssembler :=
  Machine.run (step sha256)

end ArtifactChunkAssembler

end Knowbee
