import Knowbee.Lib.RecordStore
import Knowbee.Artifact.Lifecycle

/-!
# The artifact repository

`artifact_repository.rs`: the durable single writer of artifact lifecycles.
-/

namespace Knowbee

open CasStore

def artifactRecordSchemaVersion : Nat := 1

def maxArtifactRecordBytes : Nat := 8 * 1024

inductive ArtifactRepositoryBootstrapError where
  | invalidCapacity | corrupt | unsupportedVersion | duplicate | saturated | unavailable

inductive ArtifactRepositoryResult where
  | registered (revision : Nat)
  | applied (revision : Nat)
  | idempotent (revision : Nat)
  | revisionConflict (expectedRevision currentRevision : Nat)
  | transitionRejected (reason : ArtifactTransitionReject)
  | bindingConflict
  | missing
  | saturated
  | storageConflict
  | unavailable

structure ArtifactLifecycleWire extends ArtifactBindingFields where
  (schemaVersion revision : Nat)
  state : ArtifactLifecycleState
  cleanupStatus : ArtifactCleanupStatus

abbrev ArtifactCodec (Raw : Type) : Type :=
  ProbedCodec ArtifactLifecycleWire Raw Nat ArtifactLifecycleWire.schemaVersion

def ArtifactLifecycleWire.ofLifecycle (lifecycle : ArtifactLifecycle) : ArtifactLifecycleWire where
  toArtifactBindingFields := lifecycle.binding.toArtifactBindingFields
  schemaVersion := artifactRecordSchemaVersion
  __ := lifecycle

abbrev ArtifactLifecycles : Type := SortedMap String ArtifactLifecycle

namespace DurableArtifactLifecycleRepository

variable {Raw : Type}

def bootErrors : RecordStore.BootErrors ArtifactRepositoryBootstrapError :=
  ⟨.invalidCapacity, .duplicate, .saturated, .unavailable⟩

def encodeRecord (codec : ArtifactCodec Raw) (lifecycle : ArtifactLifecycle) : Option Raw := do
  let encoded ← codec.print (.ofLifecycle lifecycle)
  if codec.length encoded ≤ maxArtifactRecordBytes then some encoded else none

def decodeRecord (codec : ArtifactCodec Raw) (record : Raw) :
    Except ArtifactRepositoryBootstrapError ArtifactLifecycle :=
  if maxArtifactRecordBytes < codec.length record then .error .corrupt
  else
    match codec.probe record with
    | none => .error .corrupt
    | some schemaVersion =>
      if schemaVersion ≠ artifactRecordSchemaVersion then .error .unsupportedVersion
      else
        match codec.parse record with
        | none => .error .corrupt
        | some wire => do
          let binding ← (ArtifactBinding.new wire.toArtifactBindingFields).mapError fun _ => .corrupt
          (ArtifactLifecycle.restore binding wire.revision wire.state wire.cleanupStatus).mapError
            fun _ => .corrupt

def bootstrap (codec : ArtifactCodec Raw) (capacity : Nat) (read : Read Raw) :
    Except ArtifactRepositoryBootstrapError (Cache ArtifactLifecycles) :=
  RecordStore.bootstrap bootErrors u32Max (decodeRecord codec)
    (fun lifecycle => lifecycle.binding.artifactRef) capacity read

def answer (written : ArtifactRepositoryResult) : Committed → ArtifactRepositoryResult
  | .written => written
  | .conflict => .storageConflict
  | .unavailable => .unavailable

def register (capacity : Nat) (binding : ArtifactBinding) (lifecycles : ArtifactLifecycles) :
    Plan ArtifactLifecycles ArtifactRepositoryResult :=
  match lifecycles.get? binding.artifactRef with
  | some existing =>
    if existing.binding = binding then .reply (.idempotent existing.revision)
    else .reply .bindingConflict
  | none =>
    if capacity ≤ lifecycles.size then .reply .saturated
    else
      let lifecycle := ArtifactLifecycle.new binding
      .commit (lifecycles.insert lifecycle.binding.artifactRef lifecycle)
        (answer (.registered lifecycle.revision))

def apply (artifactRef : String) (expectedRevision : Nat) (event : ArtifactEvent)
    (lifecycles : ArtifactLifecycles) : Plan ArtifactLifecycles ArtifactRepositoryResult :=
  match lifecycles.get? artifactRef with
  | none => .reply .missing
  | some current =>
    match applyArtifactEvent current event with
    | .idempotent revision => .reply (.idempotent revision)
    | .applied lifecycle _ =>
      if current.revision ≠ expectedRevision then
        .reply (.revisionConflict expectedRevision current.revision)
      else .commit (lifecycles.insert artifactRef lifecycle) (answer (.applied lifecycle.revision))
    | .rejected reason =>
      if current.revision ≠ expectedRevision then
        .reply (.revisionConflict expectedRevision current.revision)
      else .reply (.transitionRejected reason)

inductive Call where
  | read (artifactRef : String)
  | list
  | register (binding : ArtifactBinding)
  | apply (artifactRef : String) (expectedRevision : Nat) (event : ArtifactEvent)

inductive Answer where
  | read (lifecycle : Option ArtifactLifecycle)
  | list (lifecycles : List ArtifactLifecycle)
  | result (result : ArtifactRepositoryResult)

def plan (capacity : Nat) (call : Call) (lifecycles : ArtifactLifecycles) :
    Plan ArtifactLifecycles Answer :=
  match call with
  | .read artifactRef => .reply (.read (lifecycles.get? artifactRef))
  | .list => .reply (.list lifecycles.values)
  | .register binding => (register capacity binding lifecycles).map .result
  | .apply artifactRef expectedRevision event =>
    (apply artifactRef expectedRevision event lifecycles).map .result

/-- `DurableArtifactLifecycleRepository` over a storage of raw records. -/
def repository (codec : ArtifactCodec Raw) (capacity : Nat) :
    Repository Raw ArtifactLifecycles Call Answer ArtifactRepositoryBootstrapError where
  bootstrap := bootstrap codec capacity
  recovery := fun _ => none
  encode := RecordStore.encodeRecords (encodeRecord codec)
  plan := plan capacity

end DurableArtifactLifecycleRepository

end Knowbee
