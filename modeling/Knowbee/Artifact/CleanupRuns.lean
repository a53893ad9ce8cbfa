import Knowbee.Artifact.Cleanup
import Knowbee.Artifact.RepositoryRuns

/-!
# Recovery beside registrations

A recovery takes its snapshot of the store first and lists the inventory later,
so a file that is written and registered in between is listed, is not in the
snapshot, and is removed while its artifact is live
(`registered_file_removed`).  The recovery is a gate at the start of a process,
before anything is captured.  What holds with captures beside it is that every
other removal is harmless: the files of the snapshot are removed after their
artifacts have ended for good, and an orphan stays one as long as it was none of
a registration when it was listed (`recovery_spares`).
-/

namespace Knowbee

open CasStore DurableArtifactLifecycleRepository List ArtifactLifecycleWire SortedMap Prog.Obeys
open Function

variable {Raw : Type} {codec : ArtifactCodec Raw} {capacity : Nat}

/-! ## Ended artifacts -/

namespace DurableArtifactLifecycleRepository

lemma terminal_of_applied {current next : ArtifactLifecycle} {event : ArtifactEvent}
    {previous : Nat} (applied : applyArtifactEvent current event = .applied next previous)
    (terminal : current.state.isTerminal = true) : next.state.isTerminal = true := by
  obtain ⟨state, cleanupStatus, applies, own⟩ := applies_of_applied applied
  obtain ⟨rfl, -⟩ := transitionTo_applied own
  cases applies with
  | beginFetch state => simp [state, ArtifactLifecycleState.isTerminal] at terminal
  | chunksPublished state => simp [state, ArtifactLifecycleState.isTerminal] at terminal
  | acknowledge => rfl
  | expire => rfl
  | cancel => rfl
  | fail => rfl
  | cleanupCompleted => exact terminal

lemma binding_of_applied {current next : ArtifactLifecycle} {event : ArtifactEvent}
    {previous : Nat} (applied : applyArtifactEvent current event = .applied next previous) :
    next.binding = current.binding := by
  obtain ⟨state, cleanupStatus, -, own⟩ := applies_of_applied applied
  obtain ⟨rfl, -⟩ := transitionTo_applied own
  rfl

lemma Change.ended {lifecycles next : ArtifactLifecycles} {call : Call} {artifactRef : String}
    {lifecycle : ArtifactLifecycle} (change : Change capacity lifecycles call next)
    (bound : lifecycles.get? artifactRef = some lifecycle)
    (terminal : lifecycle.state.isTerminal = true) :
    ∃ later, next.get? artifactRef = some later ∧ later.state.isTerminal = true := by
  cases change with
  | registered binding free room =>
    have other : artifactRef ≠ binding.artifactRef := by
      rintro rfl
      simp [free] at bound
    exact ⟨lifecycle, by rw [get?_insert, if_neg other, bound], terminal⟩
  | applied ref event current after previous here transition =>
    by_cases same : artifactRef = ref
    · subst same
      cases here.symm.trans bound
      exact ⟨after, by rw [get?_insert, if_pos rfl],
        terminal_of_applied transition terminal⟩
    · exact ⟨lifecycle, by rw [get?_insert, if_neg same, bound], terminal⟩

lemma Change.live {lifecycles next : ArtifactLifecycles} {call : Call} {artifactRef : String}
    {later : ArtifactLifecycle} (change : Change capacity lifecycles call next)
    (bound : next.get? artifactRef = some later) (live : later.state.isTerminal = false) :
    (∃ lifecycle, lifecycles.get? artifactRef = some lifecycle ∧
      lifecycle.state.isTerminal = false) ∨
      ∃ binding, call = .register binding ∧ binding.artifactRef = artifactRef := by
  cases change with
  | registered binding free room =>
    rw [get?_insert] at bound
    split_ifs at bound with same
    · exact .inr ⟨binding, rfl, same.symm⟩
    · exact .inl ⟨later, bound, live⟩
  | applied ref event current after previous here transition =>
    rw [get?_insert] at bound
    split_ifs at bound with same
    · cases bound
      subst same
      refine .inl ⟨current, here, Bool.eq_false_iff.mpr fun terminal => ?_⟩
      exact absurd (terminal_of_applied transition terminal) (by simp [live])
    · exact .inl ⟨later, bound, live⟩

lemma Change.keyed {lifecycles next : ArtifactLifecycles} {call : Call}
    (change : Change capacity lifecycles call next)
    (keyed : lifecycles.Keyed fun lifecycle => lifecycle.binding.artifactRef) :
    next.Keyed fun lifecycle => lifecycle.binding.artifactRef := by
  cases change with
  | registered binding free room => exact keyed.insert (.new binding)
  | applied ref event current after previous here transition =>
    have own : after.binding.artifactRef = ref := by
      rw [binding_of_applied transition]
      exact keyed _ _ here
    exact own ▸ keyed.insert after

/-! ## What is stored -/

lemma encodeRecord_injective {lifecycle other : ArtifactLifecycle} {raw : Raw}
    (one : encodeRecord codec lifecycle = some raw) (two : encodeRecord codec other = some raw) :
    lifecycle = other := by
  have first := codec.parse_print (encodeRecord_eq_some.mp one).1
  have second := codec.parse_print (encodeRecord_eq_some.mp two).1
  have same := Option.some.inj (first.symm.trans second)
  obtain ⟨⟨fields, valid⟩, revision, state, cleanupStatus⟩ := lifecycle
  obtain ⟨⟨fields', valid'⟩, revision', state', cleanupStatus'⟩ := other
  simp only [ofLifecycle, mk.injEq, true_and] at same
  obtain ⟨rfl, rfl, rfl, rfl⟩ := same
  rfl

end DurableArtifactLifecycleRepository

/-! ## Live artifacts -/

/-- The storage holds the record of a lifecycle. -/
def ArtifactWorld.Stored (codec : ArtifactCodec Raw) (world : ArtifactWorld Raw)
    (lifecycle : ArtifactLifecycle) : Prop :=
  ∃ records, world.storage.records = some records ∧
    ∃ raw ∈ records, encodeRecord codec lifecycle = some raw

/-- An artifact is registered and has not ended, in memory or in the storage. -/
def ArtifactWorld.Live (codec : ArtifactCodec Raw) (world : ArtifactWorld Raw)
    (artifactRef : String) : Prop :=
  ∃ lifecycle, (world.cache.records.get? artifactRef = some lifecycle ∨
      lifecycle.binding.artifactRef = artifactRef ∧ world.Stored codec lifecycle) ∧
    lifecycle.state.isTerminal = false

def ArtifactWorld.Ended (world : ArtifactWorld Raw) (artifactRef : String) : Prop :=
  ∃ lifecycle, world.cache.records.get? artifactRef = some lifecycle ∧
    lifecycle.state.isTerminal = true

namespace ArtifactTasks

/-- What has ended in memory has ended in the storage. -/
structure Coupled (codec : ArtifactCodec Raw) (world : ArtifactWorld Raw) : Prop where
  keyed : world.cache.records.Keyed fun lifecycle => lifecycle.binding.artifactRef
  ended {artifactRef : String} {lifecycle : ArtifactLifecycle} : world.Ended artifactRef →
    lifecycle.binding.artifactRef = artifactRef → world.Stored codec lifecycle →
      lifecycle.state.isTerminal = true

variable {world after : ArtifactWorld Raw} {artifactRef : String}

lemma Coupled.not_live (coupled : Coupled codec world) (ended : world.Ended artifactRef) :
    ¬world.Live codec artifactRef := by
  rintro ⟨lifecycle, held | ⟨own, stored⟩, live⟩
  · obtain ⟨other, bound, terminal⟩ := ended
    cases held.symm.trans bound
    simp [live] at terminal
  · exact absurd (coupled.ended ended own stored) (by simp [live])

lemma Coupled.start {storage : Storage Raw} {cache : Cache ArtifactLifecycles}
    (files : SortedMap String Unit)
    (starts : bootstrap codec capacity storage.read = .ok cache) :
    Coupled codec ⟨storage, cache, files⟩ := by
  obtain ⟨-, valid⟩ := RecordStore.bootstrap_ok
    (P := ArtifactLifecycle.Restorable) (fun _ _ => decodeRecord_restorable) starts
  refine ⟨valid.keyed, ?_⟩
  rintro _ lifecycle ⟨other, bound, terminal⟩ rfl ⟨records, found, raw, member, encoded⟩
  have present : storage.records = some records := found
  simp only [bootstrap, Storage.read, present] at starts
  obtain ⟨loaded, decoded, held⟩ := RecordStore.bootstrap_holds starts member
  have same : loaded = lifecycle := by
    rw [decodeRecord_encodeRecord encoded] at decoded
    cases restored : ArtifactLifecycle.restore lifecycle.binding lifecycle.revision
        lifecycle.state lifecycle.cleanupStatus with
    | error err => simp [restored, Except.mapError] at decoded
    | ok found =>
      simp only [restored, Except.mapError] at decoded
      cases decoded
      exact (ArtifactLifecycle.restore_eq_ok.mp restored).1
  subst same
  cases held.symm.trans bound
  exact terminal

/-! ## One step -/

/-- What a call of the repository leaves behind: nothing new, or one commit,
which the storage holds and perhaps the memory. -/
inductive Carried (codec : ArtifactCodec Raw) (capacity : Nat) (world : ArtifactWorld Raw)
    (call : Call) : ArtifactWorld Raw → Prop where
  | same : Carried codec capacity world call world
  | committed (storage : Storage Raw) (cache : Cache ArtifactLifecycles)
      (next : ArtifactLifecycles) : Change capacity world.cache.records call next →
      (∃ records, storage.records = some records ∧
        RecordStore.encodeRecords (encodeRecord codec) next = some records) →
      (cache = world.cache ∨ cache.records = next) →
      Carried codec capacity world call { world with storage, cache }

variable {call : Call}

lemma carryOut_carried {fate : Fate}
    {planned : Plan ArtifactLifecycles ArtifactRepositoryResult}
    (plans : plan capacity call world.cache.records = planned.map .result) :
    Carried codec capacity world call (world.carryOut codec fate planned).2 := by
  unfold ArtifactWorld.carryOut
  rcases run : planned.execute (RecordStore.encodeRecords (encodeRecord codec)) fate world.storage
    world.cache with ⟨storage, cache, result⟩
  rcases Plan.execute_cases run with
    ⟨rfl, rfl⟩ | ⟨next, answer, records, revision, rfl, encoded, rfl, adopted, -⟩
  · exact .same
  · refine .committed _ _ next (plan_commit plans) ⟨records, rfl, encoded⟩ ?_
    rcases adopted with rfl | rfl
    · exact .inl rfl
    · exact .inr rfl

lemma stored_committed {next : ArtifactLifecycles} {lifecycle : ArtifactLifecycle}
    {records : List Raw} (keyed : next.Keyed fun lifecycle => lifecycle.binding.artifactRef)
    (holds : after.storage.records = some records)
    (encoded : RecordStore.encodeRecords (encodeRecord codec) next = some records)
    (stored : after.Stored codec lifecycle) :
    next.get? lifecycle.binding.artifactRef = some lifecycle := by
  obtain ⟨found, present, raw, member, one⟩ := stored
  cases holds.symm.trans present
  obtain ⟨ref, other, bound, two⟩ := RecordStore.mem_encodeRecords encoded member
  cases encodeRecord_injective one two
  have own : lifecycle.binding.artifactRef = ref := keyed _ _ bound
  rw [own]
  exact bound

lemma Carried.coupled (coupled : Coupled codec world)
    (carried : Carried codec capacity world call after) : Coupled codec after := by
  cases carried with
  | same => exact coupled
  | committed storage cache next change written held =>
    obtain ⟨records, holds, encoded⟩ := written
    have keyed := change.keyed coupled.keyed
    refine ⟨?_, ?_⟩
    · rcases held with same | adopted
      · rw [same]
        exact coupled.keyed
      · rw [adopted]
        exact keyed
    · rintro _ lifecycle ⟨other, bound, terminal⟩ rfl stored
      have committed := stored_committed keyed holds encoded stored
      rcases held with same | adopted
      · rw [same] at bound
        obtain ⟨later, found, ended⟩ := change.ended bound terminal
        cases committed.symm.trans found
        exact ended
      · rw [adopted] at bound
        cases committed.symm.trans bound
        exact terminal

lemma Carried.ended (carried : Carried codec capacity world call after)
    (ended : world.Ended artifactRef) : after.Ended artifactRef := by
  cases carried with
  | same => exact ended
  | committed storage cache next change written held =>
    rcases held with same | adopted
    · rw [same]
      exact ended
    · obtain ⟨lifecycle, bound, terminal⟩ := ended
      obtain ⟨later, found, still⟩ := change.ended bound terminal
      exact ⟨later, adopted ▸ found, still⟩

lemma Carried.live (coupled : Coupled codec world)
    (carried : Carried codec capacity world call after) (live : after.Live codec artifactRef) :
    world.Live codec artifactRef ∨
      ∃ binding, call = .register binding ∧ binding.artifactRef = artifactRef := by
  cases carried with
  | same => exact .inl live
  | committed storage cache next change written held =>
    obtain ⟨records, holds, encoded⟩ := written
    obtain ⟨lifecycle, found, running⟩ := live
    have committed (bound : next.get? artifactRef = some lifecycle) :
        world.Live codec artifactRef ∨
          ∃ binding, call = .register binding ∧ binding.artifactRef = artifactRef := by
      rcases change.live bound running with ⟨before, here, alive⟩ | registered
      · exact .inl ⟨before, .inl here, alive⟩
      · exact .inr registered
    rcases found with bound | ⟨rfl, stored⟩
    · rcases held with same | adopted
      · rw [same] at bound
        exact .inl ⟨lifecycle, .inl bound, running⟩
      · rw [adopted] at bound
        exact committed bound
    · exact committed (stored_committed (change.keyed coupled.keyed) holds encoded stored)

end ArtifactTasks

/-! ## What a task was told -/

/-- What the answers so far told a task: the references of its snapshot, those
it listed and has yet to remove as orphans, those it read an ended artifact of,
and the one whose file it has written and is about to register. -/
structure TaskKnowledge where
  canonical : Option (List String)
  (orphans ended : List String)
  captured : Option String

namespace TaskKnowledge

def start : TaskKnowledge := ⟨none, [], [], none⟩

def listed (knowledge : TaskKnowledge) (references : List String) : List String :=
  references.filter fun artifactRef => artifactRef ∉ knowledge.canonical.getD []

def next (knowledge : TaskKnowledge) : (step : CleanupStep) → step.Answer → TaskKnowledge
  | .read artifactRef, .found lifecycle =>
    if lifecycle.state.isTerminal then { knowledge with ended := artifactRef :: knowledge.ended }
    else knowledge
  | .list, .snapshots lifecycles =>
    { knowledge with canonical := some (ArtifactCleanupUseCase.canonicalRefs lifecycles) }
  | .references, .references references => { knowledge with orphans := knowledge.listed references }
  | .remove artifactRef, _ =>
    { knowledge with orphans := knowledge.orphans.filter fun other => other ≠ artifactRef }
  | .capture artifactRef, true => { knowledge with captured := some artifactRef }
  | .register _, _ => { knowledge with captured := none }
  | _, _ => knowledge

end TaskKnowledge

/-- The discipline of the tasks: a file is removed after its artifact was read
as ended, or as an orphan of the inventory; the inventory is listed after the
snapshot; and what is registered was captured. -/
def taskRules : Rules ArtifactTask CleanupStep CleanupStep.Answer TaskKnowledge where
  start _ := .start
  next := TaskKnowledge.next
  may knowledge
    | .remove artifactRef => artifactRef ∈ knowledge.ended ∨ artifactRef ∈ knowledge.orphans
    | .references => knowledge.canonical.isSome
    | .register binding => knowledge.captured = some binding.artifactRef
    | _ => True
  gets _ step ans :=
    match step, ans with
    | .references, .references references => references.Nodup
    | _, _ => True

namespace ArtifactCleanupUseCase

variable {knowledge : TaskKnowledge} {snapshot : Option (List String)}

abbrev Keeps (α : Type) (snapshot : Option (List String)) (knowledge : TaskKnowledge) (_ : α) :
    Prop :=
  knowledge.canonical = snapshot

lemma complete_obeys (artifactRef : String) (expectedRevision : Nat) (nowMs : Int)
    (alreadyMissing : Bool) (same : knowledge.canonical = snapshot) :
    (complete artifactRef expectedRevision nowMs alreadyMissing).Obeys taskRules
      (Keeps ArtifactCleanupOutcome snapshot) knowledge := by
  refine perform trivial fun result _ => ?_
  cases result <;> exact same

lemma cleanup_obeys (artifactRef : String) (expectedRevision : Nat) (nowMs : Int)
    (same : knowledge.canonical = snapshot) :
    (cleanup artifactRef expectedRevision nowMs).Obeys taskRules
      (Keeps ArtifactCleanupOutcome snapshot) knowledge := by
  refine perform trivial fun result _ => ?_
  cases result with
  | missing => exact same
  | unavailable => exact same
  | found lifecycle =>
    by_cases terminal : lifecycle.state.isTerminal = true
    · have told : taskRules.next knowledge (.read artifactRef) (.found lifecycle) =
          { knowledge with ended := artifactRef :: knowledge.ended } := by
        simp [taskRules, TaskKnowledge.next, terminal]
      rw [told]
      refine .ite (fun _ => same) fun _ => .ite (fun _ => same) fun _ => .ite (fun _ => same) ?_
      intro _
      refine perform (.inl mem_cons_self) fun removal _ => ?_
      cases removal with
      | removed => exact complete_obeys artifactRef expectedRevision nowMs false same
      | alreadyMissing => exact complete_obeys artifactRef expectedRevision nowMs true same
      | rejected => exact same
      | unavailable => exact same
    · have told : taskRules.next knowledge (.read artifactRef) (.found lifecycle) =
          knowledge := by
        simp [taskRules, TaskKnowledge.next, terminal]
      rw [told]
      refine .ite (fun _ => same) fun _ => .ite (fun _ => same) fun _ => .ite (fun _ => same) ?_
      intro ended
      simp [terminal] at ended

lemma next_read_canonical (artifactRef : String) (ans : ArtifactLifecycleRead) :
    (taskRules.next knowledge (.read artifactRef) ans).canonical = knowledge.canonical := by
  cases ans with
  | found lifecycle =>
    simp only [taskRules, TaskKnowledge.next]
    split_ifs <;> rfl
  | missing => rfl
  | unavailable => rfl

lemma recoveryCandidate_obeys (lifecycle : ArtifactLifecycle) (nowMs : Int)
    (same : knowledge.canonical = snapshot) :
    (recoveryCandidate lifecycle nowMs).Obeys taskRules
      (Keeps (Option ArtifactLifecycle) snapshot) knowledge := by
  refine .ite (fun _ => same) fun _ => .ite (fun _ => same) fun _ => .ite (fun _ => same) ?_
  intro _
  refine perform trivial fun result _ => ?_
  cases result with
  | applied revision | idempotent revision =>
    refine perform trivial fun ans _ => ?_
    have kept := (next_read_canonical lifecycle.binding.artifactRef ans).trans same
    cases ans <;> exact kept
  | _ => exact same

lemma recoverSnapshots_obeys (nowMs : Int) (snapshots : List ArtifactLifecycle)
    (report : ArtifactCleanupRecoveryReport) (same : knowledge.canonical = snapshot) :
    (recoverSnapshots nowMs snapshots report).Obeys taskRules
      (Keeps ArtifactCleanupRecoveryReport snapshot) knowledge := by
  induction snapshots generalizing knowledge report with
  | nil => exact same
  | cons lifecycle rest ih =>
    refine (recoveryCandidate_obeys lifecycle nowMs same).bind _ fun _ candidate kept => ?_
    cases candidate with
    | none => exact ih _ kept
    | some candidate =>
      exact (cleanup_obeys candidate.binding.artifactRef candidate.revision nowMs kept).bind _
        fun _ outcome still => ih _ still

lemma removeOrphans_obeys (canonicalRefs references : List String)
    (report : ArtifactCleanupRecoveryReport) (distinct : references.Nodup)
    (left : knowledge.orphans = references.filter fun ref => ref ∉ canonicalRefs) :
    (removeOrphans canonicalRefs references report).Obeys taskRules (fun _ _ => True)
      knowledge := by
  induction references generalizing knowledge report with
  | nil => exact trivial
  | cons artifactRef rest ih =>
    obtain ⟨fresh, distinct⟩ := nodup_cons.mp distinct
    refine .ite (fun known => ih _ distinct ?_) fun stray => ?_
    · rw [left, filter_cons_of_neg (by simpa using known)]
    · have first : knowledge.orphans =
          artifactRef :: rest.filter fun ref => ref ∉ canonicalRefs := by
        rw [left, filter_cons_of_pos (by simpa using stray)]
      refine perform (.inr (by rw [first]; exact mem_cons_self))
        fun removal _ => ?_
      have dropped : (taskRules.next knowledge (.remove artifactRef) removal).orphans =
          rest.filter fun ref => ref ∉ canonicalRefs := by
        have others : ∀ other ∈ rest.filter fun ref => ref ∉ canonicalRefs,
            decide (other ≠ artifactRef) = true := by
          intro other member
          have apart : other ≠ artifactRef := by
            rintro rfl
            exact fresh (mem_of_mem_filter member)
          exact decide_eq_true apart
        simp only [taskRules, TaskKnowledge.next, first]
        rw [filter_cons_of_neg (by simp)]
        exact filter_eq_self.mpr others
      cases removal with
      | removed => exact ih _ distinct dropped
      | alreadyMissing => exact ih _ distinct dropped
      | rejected => exact ih _ distinct dropped
      | unavailable => exact ih _ distinct dropped

lemma recover_obeys (useCase : ArtifactCleanupUseCase) (nowMs : Int) :
    (useCase.recover nowMs).Obeys taskRules (fun _ _ => True) knowledge := by
  refine perform trivial fun snapshots _ => ?_
  cases snapshots with
  | unavailable => exact trivial
  | snapshots lifecycles =>
    have listed : (taskRules.next knowledge .list (.snapshots lifecycles)).canonical =
        some (canonicalRefs lifecycles) := rfl
    refine (recoverSnapshots_obeys nowMs lifecycles ⟨0, 0, 0, 0, 0⟩ listed).bind _
      fun later report kept => ?_
    refine .ite (fun _ => trivial) fun _ => ?_
    refine perform (by simp [taskRules, kept]) fun inventory gets => ?_
    cases inventory with
    | unavailable => exact trivial
    | references references =>
      refine removeOrphans_obeys _ _ _ gets ?_
      simp [taskRules, TaskKnowledge.next, TaskKnowledge.listed, kept]

end ArtifactCleanupUseCase

lemma ArtifactTask.program_obeys (useCase : ArtifactCleanupUseCase) (task : ArtifactTask) :
    (task.program useCase).Obeys taskRules (fun _ _ => True) .start := by
  cases task with
  | recover nowMs => exact (useCase.recover_obeys nowMs).bind _ fun _ _ _ => trivial
  | cleanup artifactRef expectedRevision nowMs =>
    exact (ArtifactCleanupUseCase.cleanup_obeys artifactRef expectedRevision nowMs rfl).bind _
      fun _ _ _ => trivial
  | register binding =>
    refine perform trivial fun captured _ => ?_
    cases captured with
    | true => exact perform rfl fun _ _ => trivial
    | false => exact trivial
  | apply artifactRef expectedRevision event => exact perform trivial fun _ _ => trivial

/-! ## The invariant -/

namespace ArtifactTasks

section Runs

variable {Tid : Type} {tasks : Tid → Option TaskKnowledge} {world after : ArtifactWorld Raw}
  {artifactRef : String}

/-- A file that no artifact and no task lays claim to. -/
structure Stray (codec : ArtifactCodec Raw) (world : ArtifactWorld Raw)
    (tasks : Tid → Option TaskKnowledge) (artifactRef : String) : Prop where
  present : (world.files.get? artifactRef).isSome
  dead : ¬world.Live codec artifactRef
  unclaimed {tid : Tid} {knowledge : TaskKnowledge} :
    tasks tid = some knowledge → knowledge.captured ≠ some artifactRef

/-- What the tasks know is so: what they read as ended has ended, and what a
recovery is about to remove has ended or is a stray file.  At most one recovery
is past its snapshot. -/
structure Safe (codec : ArtifactCodec Raw) (world : ArtifactWorld Raw)
    (tasks : Tid → Option TaskKnowledge) : Prop where
  coupled : Coupled codec world
  ended {tid : Tid} {knowledge : TaskKnowledge} {artifactRef : String} :
    tasks tid = some knowledge → artifactRef ∈ knowledge.ended → world.Ended artifactRef
  orphans {tid : Tid} {knowledge : TaskKnowledge} {artifactRef : String} :
    tasks tid = some knowledge → artifactRef ∈ knowledge.orphans →
      world.Ended artifactRef ∨ Stray codec world tasks artifactRef
  snapshot {tid : Tid} {knowledge : TaskKnowledge} {artifactRef : String} :
    tasks tid = some knowledge → artifactRef ∈ knowledge.orphans → knowledge.canonical.isSome
  alone {tid other : Tid} {knowledge foreign : TaskKnowledge} :
    tasks tid = some knowledge → tasks other = some foreign → knowledge.canonical.isSome →
      foreign.canonical.isSome → tid = other

variable [DecidableEq Tid] {tid : Tid} {knowledge next : TaskKnowledge}

/-- A lookup among the tasks after one of them was told more. -/
lemma told_cases {other : Tid} {foreign : TaskKnowledge}
    (found : update tasks tid (some next) other = some foreign) :
    (other = tid ∧ foreign = next) ∨ (other ≠ tid ∧ tasks other = some foreign) := by
  by_cases same : other = tid
  · subst same
    rw [update_self] at found
    exact .inl ⟨rfl, (Option.some.inj found).symm⟩
  · rw [update_of_ne same] at found
    exact .inr ⟨same, found⟩

/-- A stray file stays one when its task learns nothing of it and nothing
revives it. -/
lemma Stray.step (stray : Stray codec world tasks artifactRef)
    (present : (after.files.get? artifactRef).isSome)
    (dead : after.Live codec artifactRef → world.Live codec artifactRef)
    (unclaimed : next.captured ≠ some artifactRef) :
    Stray codec after (update tasks tid (some next)) artifactRef where
  present := present
  dead live := stray.dead (dead live)
  unclaimed found := by
    rcases told_cases found with ⟨-, rfl⟩ | ⟨-, before⟩
    · exact unclaimed
    · exact stray.unclaimed before

/-- One step keeps the invariant when it revives nothing, leaves the stray files
that are still to be removed, and tells its task what is so. -/
lemma Safe.step (safe : Safe codec world tasks) (here : tasks tid = some knowledge)
    (coupled : Coupled codec after)
    (stays : ∀ artifactRef, world.Ended artifactRef → after.Ended artifactRef)
    (strays : ∀ artifactRef, (artifactRef ∈ next.orphans ∨ ∃ other foreign, other ≠ tid ∧
        tasks other = some foreign ∧ artifactRef ∈ foreign.orphans) →
      Stray codec world tasks artifactRef → after.Ended artifactRef ∨
        Stray codec after (update tasks tid (some next)) artifactRef)
    (ended : ∀ artifactRef ∈ next.ended, artifactRef ∉ knowledge.ended → after.Ended artifactRef)
    (orphans : ∀ artifactRef ∈ next.orphans, artifactRef ∉ knowledge.orphans →
      after.Ended artifactRef ∨
        Stray codec after (update tasks tid (some next)) artifactRef)
    (snapshot : ∀ artifactRef ∈ next.orphans, next.canonical.isSome)
    (alone : next.canonical.isSome → knowledge.canonical.isSome ∨ ∀ other foreign, other ≠ tid →
      tasks other = some foreign → foreign.canonical = none) :
    Safe codec after (update tasks tid (some next)) where
  coupled := coupled
  ended := by
    intro other foreign ref found member
    rcases told_cases found with ⟨-, rfl⟩ | ⟨-, before⟩
    · by_cases known : ref ∈ knowledge.ended
      · exact stays ref (safe.ended here known)
      · exact ended ref member known
    · exact stays ref (safe.ended before member)
  orphans := by
    intro other foreign ref found member
    rcases told_cases found with ⟨-, rfl⟩ | ⟨apart, before⟩
    · by_cases known : ref ∈ knowledge.orphans
      · rcases safe.orphans here known with past | stray
        · exact .inl (stays ref past)
        · exact strays ref (.inl member) stray
      · exact orphans ref member known
    · rcases safe.orphans before member with past | stray
      · exact .inl (stays ref past)
      · exact strays ref (.inr ⟨other, foreign, apart, before, member⟩) stray
  snapshot := by
    intro other foreign ref found member
    rcases told_cases found with ⟨-, rfl⟩ | ⟨-, before⟩
    · exact snapshot ref member
    · exact safe.snapshot before member
  alone := by
    have single {other : Tid} {foreign : TaskKnowledge} (apart : other ≠ tid)
        (before : tasks other = some foreign) (mine : next.canonical.isSome)
        (theirs : foreign.canonical.isSome) : False := by
      rcases alone mine with already | none
      · exact apart (safe.alone before here theirs already)
      · simp [none other foreign apart before] at theirs
    intro first second one two foundOne foundTwo taken takenToo
    rcases told_cases foundOne with ⟨rfl, rfl⟩ | ⟨apart, before⟩ <;>
      rcases told_cases foundTwo with ⟨rfl, rfl⟩ | ⟨apart', before'⟩
    · rfl
    · exact (single apart' before' taken takenToo).elim
    · exact (single apart before takenToo taken).elim
    · exact safe.alone before before' taken takenToo

lemma Safe.keep (safe : Safe codec world tasks) (here : tasks tid = some knowledge) :
    Safe codec world (update tasks tid (some knowledge)) := by
  rw [← here, update_eq_self]
  exact safe

/-! ## Every step is safe -/

lemma Safe.read (capacity : Nat) (safe : Safe codec world tasks)
    (here : tasks tid = some knowledge) (choice : PortChoice) (artifactRef : String) :
    Safe codec (world.handle codec capacity choice (.read artifactRef)).2
      (update tasks tid (some (knowledge.next (.read artifactRef)
        (world.handle codec capacity choice (.read artifactRef)).1))) := by
  simp only [ArtifactWorld.handle]
  split_ifs with down
  · exact safe.keep here
  · cases bound : world.cache.records.get? artifactRef with
    | none => exact safe.keep here
    | some lifecycle =>
      by_cases terminal : lifecycle.state.isTerminal = true
      · simp only [TaskKnowledge.next, if_pos terminal]
        refine safe.step here safe.coupled (fun _ past => past) ?_ ?_ ?_ ?_ ?_
        · intro ref _ stray
          have free := stray.unclaimed here
          exact .inr (stray.step stray.present (fun live => live) free)
        · intro ref member fresh
          rcases mem_cons.mp member with rfl | known
          · exact ⟨lifecycle, bound, terminal⟩
          · exact absurd known fresh
        · exact fun ref member fresh => absurd member fresh
        · intro ref member
          have taken := safe.snapshot here member
          exact taken
        · exact .inl
      · simp only [TaskKnowledge.next, if_neg terminal]
        exact safe.keep here

lemma Safe.list (capacity : Nat) (safe : Safe codec world tasks)
    (here : tasks tid = some knowledge)
    (alone : ∀ other foreign, other ≠ tid → tasks other = some foreign → foreign.canonical = none)
    (choice : PortChoice) :
    Safe codec (world.handle codec capacity choice .list).2
      (update tasks tid (some (knowledge.next .list
        (world.handle codec capacity choice .list).1))) := by
  simp only [ArtifactWorld.handle]
  split_ifs with down
  · exact safe.keep here
  · simp only [TaskKnowledge.next]
    refine safe.step here safe.coupled (fun _ past => past) ?_ ?_ ?_ ?_ ?_
    · intro ref _ stray
      have free := stray.unclaimed here
      exact .inr (stray.step stray.present (fun live => live) free)
    · exact fun ref member fresh => absurd member fresh
    · exact fun ref member fresh => absurd member fresh
    · exact fun _ _ => rfl
    · exact fun _ => .inr alone

lemma Safe.carried (safe : Safe codec world tasks) (here : tasks tid = some knowledge)
    {call : Call} (carried : Carried codec capacity world call after)
    (files : after.files = world.files)
    (captured : ∀ binding, call = .register binding →
      knowledge.captured = some binding.artifactRef)
    (kept : next.orphans = knowledge.orphans ∧ next.ended = knowledge.ended ∧
      next.canonical = knowledge.canonical)
    (claims : next.captured = knowledge.captured ∨ next.captured = none) :
    Safe codec after (update tasks tid (some next)) := by
  obtain ⟨orphans, ended, canonical⟩ := kept
  refine safe.step here (carried.coupled safe.coupled) (fun _ past => carried.ended past)
    ?_ ?_ ?_ ?_ ?_
  · intro ref _ stray
    refine .inr (stray.step (files ▸ stray.present) (fun live => ?_) ?_)
    · rcases carried.live safe.coupled live with before | ⟨binding, registers, rfl⟩
      · exact before
      · exact absurd (captured binding registers) (stray.unclaimed here)
    · rcases claims with same | none
      · exact same ▸ stray.unclaimed here
      · simp [none]
  · intro ref member fresh
    rw [ended] at member
    exact absurd member fresh
  · intro ref member fresh
    rw [orphans] at member
    exact absurd member fresh
  · intro ref member
    rw [orphans] at member
    exact canonical ▸ safe.snapshot here member
  · exact fun taken => .inl (canonical ▸ taken)

lemma Safe.remove (safe : Safe codec world tasks) (here : tasks tid = some knowledge)
    (may : artifactRef ∈ knowledge.ended ∨ artifactRef ∈ knowledge.orphans)
    (choice : PortChoice) :
    Safe codec (world.remove choice artifactRef).2
      (update tasks tid (some (knowledge.next (.remove artifactRef)
        (world.remove choice artifactRef).1))) := by
  have others {ref : String} (member : ref ∈ (knowledge.orphans.filter
      fun other => other ≠ artifactRef)) : ref ∈ knowledge.orphans ∧ ref ≠ artifactRef := by
    simpa using mem_filter.mp member
  have cached : (world.remove choice artifactRef).2.cache = world.cache ∧
      (world.remove choice artifactRef).2.storage = world.storage := by
    unfold ArtifactWorld.remove
    split_ifs <;> exact ⟨rfl, rfl⟩
  have files {ref : String} (apart : ref ≠ artifactRef) :
      (world.remove choice artifactRef).2.files.get? ref = world.files.get? ref := by
    unfold ArtifactWorld.remove
    split_ifs
    · rfl
    · rfl
    · rfl
    · rfl
    · rw [get?_erase, if_neg apart]
  generalize (world.remove choice artifactRef).2 = after at cached files ⊢
  obtain ⟨storage, cache, left⟩ := after
  obtain ⟨rfl, rfl⟩ := cached
  simp only [TaskKnowledge.next]
  refine safe.step here ⟨safe.coupled.keyed, safe.coupled.ended⟩ (fun _ past => past) ?_ ?_ ?_ ?_ ?_
  · intro ref pending stray
    by_cases removed : ref = artifactRef
    · subst removed
      -- Only the recovery itself has the reference among its orphans, and drops it.
      rcases may with past | mine
      · exact .inl (safe.ended here past)
      · rcases pending with member | ⟨other, foreign, apart, before, member⟩
        · exact absurd rfl (others member).2
        · exact absurd (safe.alone before here (safe.snapshot before member)
            (safe.snapshot here mine)) apart
    · have free := stray.unclaimed here
      have present := stray.present
      rw [← files removed] at present
      exact .inr (stray.step present (fun live => live) free)
  · exact fun ref member fresh => absurd member fresh
  · exact fun ref member fresh => absurd (others member).1 fresh
  · intro ref member
    have taken := safe.snapshot here (others member).1
    exact taken
  · exact .inl

lemma Safe.references (capacity : Nat) (safe : Safe codec world tasks)
    (here : tasks tid = some knowledge) (snapshot : knowledge.canonical.isSome)
    (unclaimed : ∀ artifactRef, (world.files.get? artifactRef).isSome →
      artifactRef ∉ knowledge.canonical.getD [] → ¬world.Live codec artifactRef ∧
        ∀ other foreign, tasks other = some foreign → foreign.captured ≠ some artifactRef)
    (choice : PortChoice) :
    Safe codec (world.handle codec capacity choice .references).2
      (update tasks tid (some (knowledge.next .references
        (world.handle codec capacity choice .references).1))) := by
  simp only [ArtifactWorld.handle]
  split_ifs with down
  · exact safe.keep here
  · simp only [TaskKnowledge.next]
    have stays {ref : String} (stray : Stray codec world tasks ref) :
        Stray codec world (update tasks tid
          (some { knowledge with orphans := knowledge.listed world.files.keys })) ref := by
      have free := stray.unclaimed here
      exact stray.step stray.present (fun live => live) free
    refine safe.step here safe.coupled (fun _ past => past) ?_ ?_ ?_ ?_ ?_
    · exact fun ref _ stray => .inr (stays stray)
    · exact fun ref member fresh => absurd member fresh
    · intro ref member _
      obtain ⟨listed, outside⟩ := mem_filter.mp member
      have present : (world.files.get? ref).isSome := mem_keys.mp listed
      obtain ⟨dead, free⟩ := unclaimed ref present (by simpa using outside)
      exact .inr (stays ⟨present, dead, free _ _⟩)
    · exact fun _ _ => snapshot
    · exact .inl

lemma Safe.capture (safe : Safe codec world tasks) (here : tasks tid = some knowledge)
    (choice : PortChoice) (artifactRef : String) :
    Safe codec (world.capture choice artifactRef).2
      (update tasks tid (some (knowledge.next (.capture artifactRef)
        (world.capture choice artifactRef).1))) := by
  unfold ArtifactWorld.capture
  split_ifs with refused
  · exact safe.keep here
  · simp only [TaskKnowledge.next]
    have absent : ¬(world.files.get? artifactRef).isSome := fun found => refused (.inl found)
    refine safe.step here ⟨safe.coupled.keyed, safe.coupled.ended⟩ (fun _ past => past)
      ?_ ?_ ?_ ?_ ?_
    · intro ref _ stray
      -- A stray file is present, and what is present is not captured.
      have apart : artifactRef ≠ ref := by
        rintro rfl
        exact absent stray.present
      refine .inr (stray.step ?_ (fun live => live) ?_)
      · rw [get?_insert, if_neg apart.symm]
        exact stray.present
      · simpa using apart
    · exact fun ref member fresh => absurd member fresh
    · exact fun ref member fresh => absurd member fresh
    · intro ref member
      have taken := safe.snapshot here member
      exact taken
    · exact .inl

/-! ## Every run is safe -/

abbrev ArtifactPool (Tid Raw : Type) : Type :=
  Pool Tid ArtifactTask CleanupStep CleanupStep.Answer Unit (ArtifactWorld Raw)

abbrev TaskEvent (Tid : Type) : Type := Process.Event Tid ArtifactTask PortChoice Empty

def Performs (pool : ArtifactPool Tid Raw) (tid : Tid) (step : CleanupStep) : Prop :=
  ∃ thread onward, pool.threads tid = some thread ∧ thread.prog = .call step onward

/-- A task has written the file of an artifact and is about to register it. -/
def Registering (pool : ArtifactPool Tid Raw) (artifactRef : String) : Prop :=
  ∃ tid knowledge, taskRules.summaries pool tid = some knowledge ∧
    knowledge.captured = some artifactRef

/-- Recoveries do not overlap, and the inventory is listed when no file outside
the snapshot is that of a live artifact or of a registration in progress. -/
def Guarded (codec : ArtifactCodec Raw) (pool : ArtifactPool Tid Raw) : TaskEvent Tid → Prop
  | .step tid _ =>
    (Performs pool tid .list → ∀ other foreign, other ≠ tid →
      taskRules.summaries pool other = some foreign → foreign.canonical = none) ∧
    (Performs pool tid .references → ∀ knowledge, taskRules.summaries pool tid = some knowledge →
      ∀ artifactRef, (pool.state.files.get? artifactRef).isSome →
        artifactRef ∉ knowledge.canonical.getD [] →
        ¬pool.state.Live codec artifactRef ∧ ¬Registering pool artifactRef)
  | _ => True

def Removes (pool : ArtifactPool Tid Raw) (event : TaskEvent Tid) (artifactRef : String) : Prop :=
  ∃ tid choice, event = .step tid choice ∧ Performs pool tid (.remove artifactRef)

lemma upholds (codec : ArtifactCodec Raw) (capacity : Nat) (useCase : ArtifactCleanupUseCase) :
    taskRules.Upholds (artifactTasks codec capacity useCase) (fun _ _ => True)
      (Guarded codec : ArtifactPool Tid Raw → _ → Prop)
      (fun world _ tasks => Safe codec world tasks) where
  program := ArtifactTask.program_obeys useCase
  spawn := by
    intro world returned tasks tid job safe free
    refine ⟨safe.coupled, ?_, ?_, ?_, ?_⟩
    · intro other knowledge ref found member
      rcases told_cases found with ⟨-, rfl⟩ | ⟨-, before⟩
      · cases member
      · exact safe.ended before member
    · intro other knowledge ref found member
      rcases told_cases found with ⟨-, rfl⟩ | ⟨-, before⟩
      · cases member
      · rcases safe.orphans before member with past | stray
        · exact .inl past
        · exact .inr (stray.step stray.present (fun live => live) fun same => by cases same)
    · intro other knowledge ref found member
      rcases told_cases found with ⟨-, rfl⟩ | ⟨-, before⟩
      · cases member
      · exact safe.snapshot before member
    · intro first second one two foundOne foundTwo taken takenToo
      rcases told_cases foundOne with ⟨-, rfl⟩ | ⟨-, before⟩
      · cases taken
      · rcases told_cases foundTwo with ⟨-, rfl⟩ | ⟨-, before'⟩
        · cases takenToo
        · exact safe.alone before before' taken takenToo
  call := by
    intro pool tid thread op onward choice safe found performs permits may
    have here : taskRules.summaries pool tid = some (taskRules.summary thread) := by
      simp [Rules.summaries, found]
    obtain ⟨alone, listing⟩ := permits
    cases op with
    | read ref => exact ⟨trivial, safe.read capacity here choice ref⟩
    | list =>
      have single := alone ⟨thread, onward, found, performs⟩
      exact ⟨trivial, safe.list capacity here single choice⟩
    | apply ref revision event =>
      have carried : Carried codec capacity pool.state (.apply ref revision event)
          (ArtifactWorld.handle codec capacity choice pool.state (.apply ref revision event)).2 :=
        carryOut_carried rfl
      exact ⟨trivial, safe.carried here carried rfl (by simp) ⟨rfl, rfl, rfl⟩ (.inl rfl)⟩
    | remove ref => exact ⟨trivial, safe.remove here may choice⟩
    | references =>
      refine ⟨?_, safe.references capacity here may ?_ choice⟩
      · simp only [artifactTasks, ArtifactWorld.handle]
        split_ifs
        · trivial
        · exact keys_nodup _
      · intro ref present outside
        obtain ⟨dead, free⟩ := listing ⟨thread, onward, found, performs⟩ _ here ref present outside
        exact ⟨dead, fun other foreign known claims => free ⟨other, foreign, known, claims⟩⟩
    | capture ref => exact ⟨trivial, safe.capture here choice ref⟩
    | register binding =>
      have carried : Carried codec capacity pool.state (.register binding)
          (ArtifactWorld.handle codec capacity choice pool.state (.register binding)).2 :=
        carryOut_carried rfl
      refine ⟨trivial, safe.carried here carried rfl ?_ ⟨rfl, rfl, rfl⟩ (.inr rfl)⟩
      rintro _ ⟨⟩
      exact may
  ret := by
    intro pool tid thread value safe found ends
    have kept {other : Tid} {knowledge : TaskKnowledge}
        (left : update (taskRules.summaries pool) tid none other = some knowledge) :
        taskRules.summaries pool other = some knowledge := by
      by_cases same : other = tid
      · subst same
        simp at left
      · rwa [update_of_ne same] at left
    refine ⟨safe.coupled, fun left => safe.ended (kept left), ?_,
      fun left => safe.snapshot (kept left), fun one two => safe.alone (kept one) (kept two)⟩
    intro other knowledge ref left member
    rcases safe.orphans (kept left) member with past | stray
    · exact .inl past
    · exact .inr ⟨stray.present, stray.dead, fun known => stray.unclaimed (kept known)⟩
  fault := nofun

lemma handle_files (codec : ArtifactCodec Raw) (capacity : Nat) {step : CleanupStep}
    (choice : PortChoice)
    (present : (world.files.get? artifactRef).isSome) (other : step ≠ .remove artifactRef) :
    ((world.handle codec capacity choice step).2.files.get? artifactRef).isSome := by
  cases step with
  | read ref =>
    simp only [ArtifactWorld.handle]
    split_ifs
    · exact present
    · cases world.cache.records.get? ref <;> exact present
  | list =>
    simp only [ArtifactWorld.handle]
    split_ifs <;> exact present
  | apply ref revision event => exact present
  | remove ref =>
    have apart : artifactRef ≠ ref := fun same => other (by rw [same])
    simp only [ArtifactWorld.handle, ArtifactWorld.remove]
    split_ifs
    · exact present
    · exact present
    · exact present
    · exact present
    · rw [get?_erase, if_neg apart]
      exact present
  | references =>
    simp only [ArtifactWorld.handle]
    split_ifs <;> exact present
  | capture ref =>
    simp only [ArtifactWorld.handle, ArtifactWorld.capture]
    split_ifs
    · exact present
    · rw [get?_insert]
      split_ifs
      · rfl
      · exact present
  | register binding => exact present

lemma removed_by {useCase : ArtifactCleanupUseCase} {pool : ArtifactPool Tid Raw}
    {event : TaskEvent Tid} (present : (pool.state.files.get? artifactRef).isSome)
    (gone : ((artifactTasks codec capacity useCase).next pool event).state.files.get? artifactRef =
      none) : Removes pool event artifactRef := by
  obtain ⟨world, threads, returned⟩ := pool
  have left (same : world.files.get? artifactRef = none) : False := by
    simp [same] at present
  cases event with
  | spawn tid job =>
    simp only [Process.next] at gone
    cases found : threads tid with
    | some thread =>
      simp only [found] at gone
      exact (left gone).elim
    | none =>
      simp only [found] at gone
      exact (left gone).elim
  | fault fault => exact fault.elim
  | step tid choice =>
    simp only [Process.next] at gone
    rcases found : threads tid with _ | ⟨job, past, value | ⟨op, onward⟩⟩
    · simp only [found] at gone
      exact (left gone).elim
    · simp only [found] at gone
      exact (left gone).elim
    · by_cases removes : op = .remove artifactRef
      · subst removes
        exact ⟨tid, choice, rfl, _, onward, found, rfl⟩
      · have stays := handle_files codec capacity choice present removes
        simp only [found, artifactTasks] at gone
        rw [gone] at stays
        cases stays

/-- Over every run of any number of registrations, cleanups, events and recoveries
in which recoveries do not overlap and an inventory is listed only when no file
outside the snapshot is that of a live artifact or of a registration in progress: no
file of a live artifact is removed, and none that is being registered unless its
artifact has ended. -/
theorem recovery_spares (codec : ArtifactCodec Raw) (capacity : Nat)
    (useCase : ArtifactCleanupUseCase) (storage : Storage Raw) (cache : Cache ArtifactLifecycles)
    (files : SortedMap String Unit) (starts : bootstrap codec capacity storage.read = .ok cache)
    (events : List (TaskEvent Tid))
    (guarded : Machine.Along (artifactTasks codec capacity useCase).step (Guarded codec)
      (Process.idle ⟨storage, cache, files⟩) events) :
    let pool := (artifactTasks codec capacity useCase).run
      (Process.idle ⟨storage, cache, files⟩) events
    ∀ event artifactRef,
      (Removes pool event artifactRef → ¬pool.state.Live codec artifactRef ∧
        (Registering pool artifactRef → pool.state.Ended artifactRef)) ∧
      ((pool.state.files.get? artifactRef).isSome →
        ((artifactTasks codec capacity useCase).next pool event).state.files.get? artifactRef =
          none → Removes pool event artifactRef) := by
  intro pool event artifactRef
  have start : Safe codec ⟨storage, cache, files⟩ (fun _ : Tid => none) :=
    ⟨.start files starts, nofun, nofun, nofun, nofun⟩
  have kept := (upholds codec capacity useCase).run (Rules.kept_idle start) guarded
  refine ⟨?_, removed_by⟩
  rintro ⟨tid, choice, -, thread, onward, found, performs⟩
  have here : taskRules.summaries pool tid = some (taskRules.summary thread) := by
    simp [Rules.summaries, found]
  have obeys := kept.obeys found
  rw [performs] at obeys
  rcases obeys.1 with past | orphan
  · have ended := kept.inv.ended here past
    exact ⟨kept.inv.coupled.not_live ended, fun _ => ended⟩
  · rcases kept.inv.orphans here orphan with ended | stray
    · exact ⟨kept.inv.coupled.not_live ended, fun _ => ended⟩
    · refine ⟨stray.dead, ?_⟩
      rintro ⟨other, knowledge, known, claims⟩
      exact absurd claims (stray.unclaimed known)

end Runs

/-! ## A registration between the two reads -/

/-- What the ports meet when nothing goes wrong and a write takes the given
revision. -/
def clear (revision : Nat) : PortChoice := ⟨.applied revision, true, true⟩

def sampleWorld (files : SortedMap String Unit) : ArtifactWorld ArtifactLifecycleWire :=
  ⟨⟨0, none⟩, ⟨0, .empty⟩, files⟩

def sampleTasks : Process ArtifactTask CleanupStep CleanupStep.Answer Unit
    (ArtifactWorld ArtifactLifecycleWire) PortChoice Empty :=
  artifactTasks (.plain schemaVersion) 1 ⟨true⟩

/-- The artifact of a process that left its file behind and never came to register it. -/
def orphanRef : String := "capture:" ++ String.ofList (List.replicate 64 'b')

def sampleFiles : SortedMap String Unit := empty.insert orphanRef ()

/-- An artifact is captured and registered after a recovery has listed the inventory. -/
def besideRun : List (TaskEvent Nat) :=
  [.spawn 0 (.recover 1000000), .step 0 (clear 0), .step 0 (clear 0),
    .spawn 1 (.register sampleBinding), .step 1 (clear 0), .step 1 (clear 1)]

/-- A recovery that is alone in its process, at a store without artifacts. -/
lemma guarded_alone {Raw : Type} {codec : ArtifactCodec Raw} {pool : ArtifactPool Nat Raw}
    (only : ∀ other, other ≠ 0 → pool.threads other = none)
    (idle : ∀ knowledge, taskRules.summaries pool 0 = some knowledge → knowledge.captured = none)
    (unregistered : pool.state.cache.records = .empty)
    (unstored : pool.state.storage.records = none) (choice : PortChoice) : Guarded codec pool
      (.step 0 choice) := by
  refine ⟨fun _ other foreign apart known => ?_, fun _ knowledge _ artifactRef _ _ => ⟨?_, ?_⟩⟩
  · simp [Rules.summaries, only other apart] at known
  · rintro ⟨lifecycle, held | ⟨-, records, present, -⟩, -⟩
    · simp [unregistered] at held
    · simp [unstored] at present
  · rintro ⟨other, foreign, known, claims⟩
    by_cases same : other = 0
    · subst same
      simp [idle foreign known] at claims
    · simp [Rules.summaries, only other same] at known

/-- The recovery removes the file without an artifact and leaves the other. -/
theorem recovery_spares_sample :
    let pool := sampleTasks.run (Process.idle (sampleWorld sampleFiles)) besideRun
    Removes pool (.step 0 (clear 0)) orphanRef ∧ ¬pool.state.Live (.plain schemaVersion) orphanRef ∧
      pool.state.Live (.plain schemaVersion) sampleBinding.artifactRef ∧
      ¬Removes pool (.step 0 (clear 0)) sampleBinding.artifactRef := by
  intro pool
  have removes : Removes pool (.step 0 (clear 0)) orphanRef := ⟨0, clear 0, rfl, _, _, rfl, rfl⟩
  have guarded : Machine.Along sampleTasks.step
      (Guarded (.plain schemaVersion))
      (Process.idle (sampleWorld sampleFiles)) besideRun := by
    refine ⟨trivial, guarded_alone ?_ ?_ rfl rfl _, guarded_alone ?_ ?_ rfl rfl _, trivial,
      ⟨?_, ?_⟩, ⟨?_, ?_⟩, trivial⟩
    · exact fun other apart => update_of_ne apart _ _
    · rintro _ ⟨⟩
      rfl
    · intro other apart
      exact (update_of_ne apart _ _).trans (update_of_ne apart _ _)
    · rintro _ ⟨⟩
      rfl
    -- The registration neither lists the inventory nor asks what is referred to.
    all_goals
      rintro ⟨thread, onward, ⟨⟩, performs⟩
      cases performs
  have spares := recovery_spares (.plain schemaVersion) 1 ⟨true⟩ ⟨0, none⟩ ⟨0, .empty⟩ sampleFiles
    rfl besideRun guarded (.step 0 (clear 0))
  have live : pool.state.Live (.plain schemaVersion) sampleBinding.artifactRef :=
    ⟨.new sampleBinding, .inl rfl, rfl⟩
  exact ⟨removes, ((spares _).1 removes).1, live, fun removed => ((spares _).1 removed).1 live⟩

/-- A recovery that takes its snapshot, an artifact that is captured and
registered, and the listing of the inventory. -/
def sampleRun : List (TaskEvent Nat) :=
  [.spawn 0 (.recover 1000000), .step 0 (clear 0), .spawn 1 (.register sampleBinding),
    .step 1 (clear 0), .step 1 (clear 1), .step 0 (clear 1)]

/-- The file of an artifact that is registered between the snapshot and the
listing is removed while the artifact is live. -/
theorem registered_file_removed :
    let pool := sampleTasks.run (Process.idle (sampleWorld .empty)) sampleRun
    pool.state.Live (.plain schemaVersion) sampleBinding.artifactRef ∧
      (pool.state.files.get? sampleBinding.artifactRef).isSome ∧
      (sampleTasks.next pool (.step 0 (clear 1))).state.files.get? sampleBinding.artifactRef =
        none :=
  ⟨⟨.new sampleBinding, .inl rfl, rfl⟩, rfl, rfl⟩

end ArtifactTasks

end Knowbee
