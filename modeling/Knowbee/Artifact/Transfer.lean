import Knowbee.Artifact.Repository

/-!
# Fetching an artifact

`artifact_transfer.rs` and the fetch of `artifact_transfer_use_case.rs`: a fetch begins the
transfer in the store, reads the verified bytes and cuts them into chunks.
-/

namespace Knowbee

open CasStore

def artifactChunkSchemaVersion : Nat := 1

def maxChunkPayloadBytes : Nat := 256 * 1024

inductive ArtifactChunkError where
  | invalidConfig | invalidLifecycle | invalidFrame | invalidHeader | invalidPayloadSize
  | payloadDigestMismatch | fullDigestMismatch | wrongBinding | wrongTransfer | duplicateMismatch
  | missingChunks | overlap | expired | tooManyChunks

/-- A chunk size as `ArtifactChunkConfig::new` admits it. -/
structure ArtifactChunkConfig where
  payloadBytes : Nat
  valid : 1 ≤ payloadBytes ∧ payloadBytes ≤ maxChunkPayloadBytes

namespace ArtifactChunkConfig

def divCeil (total size : Nat) : Nat := (total + size - 1) / size

def chunkCount (config : ArtifactChunkConfig) (totalSize : Nat) : Except ArtifactChunkError Nat :=
  let count := divCeil totalSize config.payloadBytes
  if u32Max < count then .error .tooManyChunks
  else if count = 0 ∨ maxChunkCount < count then .error .tooManyChunks
  else .ok count

end ArtifactChunkConfig

structure ArtifactChunkHeader where
  schemaVersion : Nat
  (transferId artifactRef ownerRequesterId ownerRequestId : String)
  (index count offset chunkSize totalSize : Nat)
  (payloadDigest fullDigest : String)
  expiresAtMs : Int
  deriving DecidableEq

def ArtifactChunkHeader.validate (header : ArtifactChunkHeader) : Except ArtifactChunkError Unit :=
  match u64CheckedAdd header.offset header.chunkSize with
  | none => .error .invalidHeader
  | some finish =>
    if header.schemaVersion ≠ artifactChunkSchemaVersion ∨
        !isBoundedIdentity header.transferId ∨ !isArtifactRef header.artifactRef ∨
        !isBoundedIdentity header.ownerRequesterId ∨ !isBoundedIdentity header.ownerRequestId ∨
        header.count = 0 ∨ maxChunkCount < header.count ∨ header.count ≤ header.index ∨
        header.chunkSize = 0 ∨ maxChunkPayloadBytes < header.chunkSize ∨
        header.totalSize = 0 ∨ header.totalSize < finish ∨
        (header.index = 0 ∧ header.offset ≠ 0) ∨ !isSha256Digest header.payloadDigest ∨
        !isSha256Digest header.fullDigest ∨ header.expiresAtMs ≤ 0 then
      .error .invalidHeader
    else .ok ()

structure ArtifactChunk where
  header : ArtifactChunkHeader
  payload : List UInt8
  deriving DecidableEq

def digest (sha256 : Sha256) (bytes : List UInt8) : String := sha256.prefixed ⟨bytes.toArray⟩

def ArtifactChunk.fromUntrusted (sha256 : Sha256) (header : ArtifactChunkHeader)
    (payload : List UInt8) : Except ArtifactChunkError ArtifactChunk := do
  header.validate
  if payload.length ≠ header.chunkSize then throw .invalidPayloadSize
  else if digest sha256 payload ≠ header.payloadDigest then throw .payloadDigestMismatch
  else return ⟨header, payload⟩

def chunkAt (size : Nat) (bytes : List UInt8) (index : Nat) : List UInt8 :=
  (bytes.drop (index * size)).take size

def buildArtifactChunk (sha256 : Sha256) (binding : ArtifactBinding) (transferId : String)
    (count payloadBytes index : Nat) (payload : List UInt8) :
    Except ArtifactChunkError ArtifactChunk :=
  if u32Max < index then .error .tooManyChunks
  else if u64Max < index * payloadBytes then .error .invalidHeader
  else if u32Max < payload.length then .error .invalidPayloadSize
  else
    ArtifactChunk.fromUntrusted sha256 {
      schemaVersion := artifactChunkSchemaVersion
      transferId
      __ := binding
      index
      count
      offset := index * payloadBytes
      chunkSize := payload.length
      payloadDigest := digest sha256 payload
    } payload

def buildArtifactChunks (sha256 : Sha256) (lifecycle : ArtifactLifecycle) (bytes : List UInt8)
    (nowMs : Int) (config : ArtifactChunkConfig) : Except ArtifactChunkError (List ArtifactChunk) :=
  match lifecycle.state with
  | .fetching transferId chunkCount _ =>
    let binding := lifecycle.binding
    if nowMs ≤ 0 ∨ binding.expiresAtMs ≤ nowMs then .error .expired
    else if bytes.length ≠ binding.totalSize then .error .fullDigestMismatch
    else if digest sha256 bytes ≠ binding.fullDigest then .error .fullDigestMismatch
    else do
      let count ← config.chunkCount bytes.length
      if count ≠ chunkCount then throw .invalidLifecycle
      (List.range (ArtifactChunkConfig.divCeil bytes.length config.payloadBytes)).mapM fun index =>
        buildArtifactChunk sha256 binding transferId count config.payloadBytes index
          (chunkAt config.payloadBytes bytes index)
  | _ => .error .invalidLifecycle

/-- Bytes whose metadata was derived from them, as `VerifiedArtifactBytes::new`
does after the post-check. -/
structure VerifiedArtifactBytes (sha256 : Sha256) where
  artifactRef : String
  sizeBytes : Nat
  sha256Digest : String
  bytes : List UInt8
  checked : sizeBytes = bytes.length ∧ sha256Digest = digest sha256 bytes

inductive VerifiedArtifactSourceError where
  | missing | invalid | unavailable

/-- What the source reads for a reference. -/
abbrev VerifiedArtifactSource (sha256 : Sha256) : Type :=
  String → Except VerifiedArtifactSourceError (VerifiedArtifactBytes sha256)

structure ArtifactFetchCommand where
  (artifactRef requesterId requestId operationId transferId : String)
  expectedRevision : Nat
  nowMs : Int
  chunkConfig : ArtifactChunkConfig

inductive ArtifactTransferReject where
  | missing | wrongOwner | revisionConflict | expired | wrongTransfer | digestMismatch
  | invalidState | sourceUnavailable | verificationFailed | storageConflict | unavailable

inductive ArtifactFetchResult where
  | prepared (chunks : List ArtifactChunk) (lifecycleRevision : Nat)
  | rejected (reason : ArtifactTransferReject)

def mapRepositoryResult : ArtifactRepositoryResult → ArtifactTransferReject
  | .revisionConflict .. => .revisionConflict
  | .transitionRejected reason =>
    match reason with
    | .wrongOwner => .wrongOwner
    | .wrongTransfer => .wrongTransfer
    | .digestMismatch => .digestMismatch
    | .expired | .notExpired => .expired
    | .invalidEvent | .invalidState | .terminalState | .revisionOverflow => .invalidState
  | .missing => .missing
  | .storageConflict => .storageConflict
  | .bindingConflict | .saturated | .unavailable => .unavailable
  | .registered _ | .applied _ | .idempotent _ => .invalidState

namespace ArtifactTransferUseCase

variable {Raw : Type} (codec : ArtifactCodec Raw) (sha256 : Sha256)
  (source : VerifiedArtifactSource sha256)

/-- The store behind the use case: a storage and the running repository. -/
structure Store (Raw : Type) where
  storage : Storage Raw
  cache : Cache ArtifactLifecycles

/-- `ArtifactLifecycleStore::apply`, with the fate of the write it may make. -/
def Store.apply (store : Store Raw) (fate : Fate) (artifactRef : String) (expectedRevision : Nat)
    (event : ArtifactEvent) : Store Raw × ArtifactRepositoryResult :=
  match (DurableArtifactLifecycleRepository.apply artifactRef expectedRevision event
      store.cache.records).execute
      (RecordStore.encodeRecords (DurableArtifactLifecycleRepository.encodeRecord codec)) fate
      store.storage store.cache with
  | (storage, cache, result) => (⟨storage, cache⟩, result)

def failFetch (store : Store Raw) (fate : Fate) (lifecycle : ArtifactLifecycle)
    (transferId : String) (reason : ArtifactFailureReason) (nowMs : Int)
    (publicReason : ArtifactTransferReject) : Store Raw × ArtifactFetchResult :=
  let event := .fail (some transferId) reason nowMs
  match store.apply codec fate lifecycle.binding.artifactRef lifecycle.revision event with
  | (after, .applied _) | (after, .idempotent _) => (after, .rejected publicReason)
  | (after, result) => (after, .rejected (mapRepositoryResult result))

/-- The part of a fetch that follows the start of its transfer. -/
def deliver (command : ArtifactFetchCommand) (binding : ArtifactBinding)
    (lifecycleRevision : Nat) (fate : Fate) (store : Store Raw) (fetching : ArtifactLifecycle) :
    Store Raw × ArtifactFetchResult :=
  match source command.artifactRef with
  | .error _ =>
    failFetch codec store fate fetching command.transferId .sourceUnavailable command.nowMs
      .sourceUnavailable
  | .ok verified =>
    if verified.artifactRef ≠ binding.artifactRef ∨ verified.sizeBytes ≠ binding.totalSize ∨
        verified.sha256Digest ≠ binding.fullDigest then
      failFetch codec store fate fetching command.transferId .verificationFailed command.nowMs
        .verificationFailed
    else
      match buildArtifactChunks sha256 fetching verified.bytes command.nowMs
          command.chunkConfig with
      | .ok chunks => (store, .prepared chunks lifecycleRevision)
      | .error _ =>
        failFetch codec store fate fetching command.transferId .verificationFailed command.nowMs
          .verificationFailed

/-- `prepare_fetch`, with the fates of the write that begins the transfer and of
the write that fails it. -/
def prepareFetch (command : ArtifactFetchCommand) (beginFate failFate : Fate)
    (store : Store Raw) : Store Raw × ArtifactFetchResult :=
  match store.cache.records.get? command.artifactRef with
  | none => (store, .rejected .missing)
  | some current =>
    let binding := current.binding
    if binding.ownerRequesterId ≠ command.requesterId ∨
        binding.ownerRequestId ≠ command.requestId ∨
        binding.ownerOperationId ≠ command.operationId then
      (store, .rejected .wrongOwner)
    else
      match command.chunkConfig.chunkCount binding.totalSize with
      | .error _ => (store, .rejected .verificationFailed)
      | .ok chunkCount =>
        let start := .beginFetch command.requesterId command.requestId command.operationId
          command.transferId chunkCount command.nowMs
        match store.apply codec beginFate command.artifactRef command.expectedRevision start with
        | (begun, .applied lifecycleRevision) | (begun, .idempotent lifecycleRevision) =>
          match begun.cache.records.get? command.artifactRef with
          | none => (begun, .rejected .unavailable)
          | some fetching =>
            deliver codec sha256 source command binding lifecycleRevision failFate begun fetching
        | (begun, result) => (begun, .rejected (mapRepositoryResult result))

end ArtifactTransferUseCase

end Knowbee
