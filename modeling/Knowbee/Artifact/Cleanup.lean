import Knowbee.Artifact.Repository
import Knowbee.Lib.Threads

/-!
# Cleaning up artifacts

`artifact_cleanup.rs`: the file of an artifact that has ended is removed and the removal is
recorded, and a recovery does this for everything it finds in the store, expiring what is past its
time.  It then removes the files that no artifact of its snapshot names.
-/

namespace Knowbee

open CasStore DurableArtifactLifecycleRepository

inductive ArtifactRemovalResult where
  | removed | alreadyMissing | rejected | unavailable

inductive ArtifactInventoryResult where
  | references (references : List String)
  | unavailable

inductive ArtifactLifecycleRead where
  | found (lifecycle : ArtifactLifecycle)
  | missing
  | unavailable

inductive ArtifactLifecycleList where
  | snapshots (lifecycles : List ArtifactLifecycle)
  | unavailable

/-- The steps of a cleanup, and those by which another task writes the file of
an artifact and registers it. -/
inductive CleanupStep where
  | read (artifactRef : String)
  | list
  | apply (artifactRef : String) (expectedRevision : Nat) (event : ArtifactEvent)
  | remove (artifactRef : String)
  | references
  | capture (artifactRef : String)
  | register (binding : ArtifactBinding)

abbrev CleanupStep.Answer : CleanupStep → Type
  | read _ => ArtifactLifecycleRead
  | list => ArtifactLifecycleList
  | apply .. => ArtifactRepositoryResult
  | remove _ => ArtifactRemovalResult
  | references => ArtifactInventoryResult
  | capture _ => Bool
  | register _ => ArtifactRepositoryResult

abbrev CleanupProg (α : Type) : Type := Prog CleanupStep CleanupStep.Answer α

def cleanupStep (step : CleanupStep) : CleanupProg step.Answer := Prog.perform step

inductive ArtifactCleanupReject where
  | missing | revisionConflict | notTerminal | removalRejected | removalUnavailable
  | storageUnavailable

inductive ArtifactCleanupOutcome where
  | completed (lifecycleRevision : Nat) (alreadyMissing : Bool)
  | alreadyCompleted (lifecycleRevision : Nat)
  | deferred (reason : ArtifactCleanupReject)
  | rejected (reason : ArtifactCleanupReject)

structure ArtifactCleanupRecoveryReport where
  (completed alreadyCompleted deferred skippedActive orphanCompleted : Nat)

def ArtifactCleanupStatus.isCompleted : ArtifactCleanupStatus → Bool
  | .completed _ => true
  | .pending => false

def mapStoreResult : ArtifactRepositoryResult → ArtifactCleanupOutcome
  | .revisionConflict .. => .rejected .revisionConflict
  | .transitionRejected _ => .rejected .notTerminal
  | .missing => .rejected .missing
  | .storageConflict | .unavailable | .saturated | .bindingConflict => .deferred .storageUnavailable
  | .registered _ | .applied _ | .idempotent _ => .deferred .storageUnavailable

def ArtifactCleanupRecoveryReport.count (report : ArtifactCleanupRecoveryReport) :
    ArtifactCleanupOutcome → ArtifactCleanupRecoveryReport
  | .completed .. => { report with completed := report.completed + 1 }
  | .alreadyCompleted _ => { report with alreadyCompleted := report.alreadyCompleted + 1 }
  | .deferred _ | .rejected _ => { report with deferred := report.deferred + 1 }

/-- Whether the inventory port is given. -/
structure ArtifactCleanupUseCase where
  inventory : Bool

namespace ArtifactCleanupUseCase

def complete (artifactRef : String) (expectedRevision : Nat) (nowMs : Int)
    (alreadyMissing : Bool) : CleanupProg ArtifactCleanupOutcome := do
  match ← cleanupStep (.apply artifactRef expectedRevision (.cleanupCompleted nowMs)) with
  | .applied revision => return .completed revision alreadyMissing
  | .idempotent revision => return .alreadyCompleted revision
  | result => return mapStoreResult result

def cleanup (artifactRef : String) (expectedRevision : Nat) (nowMs : Int) :
    CleanupProg ArtifactCleanupOutcome := do
  match ← cleanupStep (.read artifactRef) with
  | .missing => return .rejected .missing
  | .unavailable => return .deferred .storageUnavailable
  | .found lifecycle =>
    if lifecycle.revision ≠ expectedRevision then return .rejected .revisionConflict
    else if lifecycle.cleanupStatus.isCompleted then return .alreadyCompleted lifecycle.revision
    else if !lifecycle.state.isTerminal then return .rejected .notTerminal
    else
      match ← cleanupStep (.remove artifactRef) with
      | .removed => complete artifactRef expectedRevision nowMs false
      | .alreadyMissing => complete artifactRef expectedRevision nowMs true
      | .rejected => return .rejected .removalRejected
      | .unavailable => return .deferred .removalUnavailable

/-- The lifecycle to clean up, after it was expired where its time is over. -/
def recoveryCandidate (lifecycle : ArtifactLifecycle) (nowMs : Int) :
    CleanupProg (Option ArtifactLifecycle) := do
  if lifecycle.cleanupStatus.isCompleted then return none
  else if lifecycle.state.isTerminal then return some lifecycle
  else if nowMs < lifecycle.binding.expiresAtMs then return none
  else
    match ← cleanupStep (.apply lifecycle.binding.artifactRef lifecycle.revision
        (.expire nowMs)) with
    | .applied _ | .idempotent _ =>
      match ← cleanupStep (.read lifecycle.binding.artifactRef) with
      | .found expired => return some expired
      | .missing | .unavailable => return none
    | _ => return none

def recoverSnapshots (nowMs : Int) : List ArtifactLifecycle → ArtifactCleanupRecoveryReport →
    CleanupProg ArtifactCleanupRecoveryReport
  | [], report => return report
  | lifecycle :: rest, report => do
    match ← recoveryCandidate lifecycle nowMs with
    | none => recoverSnapshots nowMs rest { report with skippedActive := report.skippedActive + 1 }
    | some candidate =>
      let outcome ← cleanup candidate.binding.artifactRef candidate.revision nowMs
      recoverSnapshots nowMs rest (report.count outcome)

def removeOrphans (canonicalRefs : List String) : List String → ArtifactCleanupRecoveryReport →
    CleanupProg ArtifactCleanupRecoveryReport
  | [], report => return report
  | artifactRef :: rest, report => do
    if artifactRef ∈ canonicalRefs then removeOrphans canonicalRefs rest report
    else
      match ← cleanupStep (.remove artifactRef) with
      | .removed | .alreadyMissing =>
        removeOrphans canonicalRefs rest
          { report with orphanCompleted := report.orphanCompleted + 1 }
      | .rejected | .unavailable =>
        removeOrphans canonicalRefs rest { report with deferred := report.deferred + 1 }

def recoverOrphans (useCase : ArtifactCleanupUseCase) (canonicalRefs : List String)
    (report : ArtifactCleanupRecoveryReport) : CleanupProg ArtifactCleanupRecoveryReport := do
  if !useCase.inventory then return report
  else
    match ← cleanupStep .references with
    | .unavailable => return { report with deferred := report.deferred + 1 }
    | .references references => removeOrphans canonicalRefs references report

def canonicalRefs (snapshots : List ArtifactLifecycle) : List String :=
  snapshots.map fun lifecycle => lifecycle.binding.artifactRef

def recover (useCase : ArtifactCleanupUseCase) (nowMs : Int) :
    CleanupProg ArtifactCleanupRecoveryReport := do
  match ← cleanupStep .list with
  | .unavailable => return ⟨0, 0, 1, 0, 0⟩
  | .snapshots snapshots =>
    let report ← recoverSnapshots nowMs snapshots ⟨0, 0, 0, 0, 0⟩
    useCase.recoverOrphans (canonicalRefs snapshots) report

end ArtifactCleanupUseCase

/-- The running repository, its storage, and the directories of the sink by the
references they stand for. -/
structure ArtifactWorld (Raw : Type) where
  storage : Storage Raw
  cache : Cache ArtifactLifecycles
  files : SortedMap String Unit

/-- What a port meets: the fate of a write, whether the port can be used at
all, and whether a lease directory holds nothing but what the sink put there. -/
structure PortChoice where
  fate : Fate
  (available intact : Bool)

variable {Raw : Type} (codec : ArtifactCodec Raw) (world : ArtifactWorld Raw)

def ArtifactWorld.carryOut (fate : Fate) (plan : Plan ArtifactLifecycles ArtifactRepositoryResult) :
    ArtifactRepositoryResult × ArtifactWorld Raw :=
  match plan.execute
      (RecordStore.encodeRecords (encodeRecord codec)) fate
      world.storage world.cache with
  | (storage, cache, result) => (result, { world with storage, cache })

/-- `FilesystemCaptureArtifactSink::remove`.  A directory that is not removed
as a whole stays. -/
def ArtifactWorld.remove (choice : PortChoice) (artifactRef : String) :
    ArtifactRemovalResult × ArtifactWorld Raw :=
  if !isArtifactRef artifactRef then (.rejected, world)
  else if !choice.available then (.unavailable, world)
  else if (world.files.get? artifactRef).isNone then (.alreadyMissing, world)
  else if !choice.intact then (.rejected, world)
  else (.removed, { world with files := world.files.erase artifactRef })

/-- `FilesystemCaptureArtifactSink::allocate`, with the commit of the lease: an
artifact whose directory is there already is not captured. -/
def ArtifactWorld.capture (choice : PortChoice) (artifactRef : String) : Bool × ArtifactWorld Raw :=
  if (world.files.get? artifactRef).isSome ∨ !choice.available then (false, world)
  else (true, { world with files := world.files.insert artifactRef () })

def ArtifactWorld.handle (capacity : Nat) (choice : PortChoice) (world : ArtifactWorld Raw) :
    (step : CleanupStep) → step.Answer × ArtifactWorld Raw
  | .read artifactRef =>
    if !choice.available then (.unavailable, world)
    else
      match world.cache.records.get? artifactRef with
      | some lifecycle => (.found lifecycle, world)
      | none => (.missing, world)
  | .list =>
    if !choice.available then (.unavailable, world)
    else (.snapshots world.cache.records.values, world)
  | .apply artifactRef expectedRevision event =>
    world.carryOut codec choice.fate
      (apply artifactRef expectedRevision event
        world.cache.records)
  | .remove artifactRef => world.remove choice artifactRef
  | .references =>
    if !choice.available then (.unavailable, world)
    else (.references world.files.keys, world)
  | .capture artifactRef => world.capture choice artifactRef
  | .register binding =>
    world.carryOut codec choice.fate
      (register capacity binding world.cache.records)

/-- What a task does: a recovery, the cleanup of one artifact, the registration
of one whose file it writes first, or an event of a transfer. -/
inductive ArtifactTask where
  | recover (nowMs : Int)
  | cleanup (artifactRef : String) (expectedRevision : Nat) (nowMs : Int)
  | register (binding : ArtifactBinding)
  | apply (artifactRef : String) (expectedRevision : Nat) (event : ArtifactEvent)

def ArtifactTask.program (useCase : ArtifactCleanupUseCase) : ArtifactTask → CleanupProg Unit
  | .recover nowMs => do
    let _ ← useCase.recover nowMs
    return ()
  | .cleanup artifactRef expectedRevision nowMs => do
    let _ ← ArtifactCleanupUseCase.cleanup artifactRef expectedRevision nowMs
    return ()
  | .register binding => do
    if ← cleanupStep (.capture binding.artifactRef) then
      let _ ← cleanupStep (.register binding)
      return ()
    else return ()
  | .apply artifactRef expectedRevision event => do
    let _ ← cleanupStep (.apply artifactRef expectedRevision event)
    return ()

def artifactTasks (capacity : Nat) (useCase : ArtifactCleanupUseCase) :
    Process ArtifactTask CleanupStep CleanupStep.Answer Unit (ArtifactWorld Raw) PortChoice
      Empty where
  program := ArtifactTask.program useCase
  handle := ArtifactWorld.handle codec capacity
  fail := nofun

end Knowbee
