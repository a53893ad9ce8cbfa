import Knowbee.Artifact.Repository

/-!
# Runs of the artifact repository

The reducer checks the clock of most events only to be positive, while a
bootstrap restores no lifecycle whose times lie before the creation of its
artifact.  So the store can be bootstrapped as long as no event is committed
that is stamped before that creation, and the first such commit locks it
(`bootable_while_on_time`, `early_fetch_locks_store`).
-/

namespace Knowbee

open CasStore ArtifactLifecycle ArtifactLifecycleWire RecordStore

namespace DurableArtifactLifecycleRepository

variable {Raw : Type} {codec : ArtifactCodec Raw} {capacity : Nat}
  {lifecycles next : ArtifactLifecycles}

abbrev Valid (capacity : Nat) (lifecycles : ArtifactLifecycles) : Prop :=
  Within (fun lifecycle => lifecycle.binding.artifactRef) capacity
    ArtifactLifecycle.Restorable lifecycles

/-- No event is applied that is stamped before the creation of its artifact. -/
def OnTime : Call → ArtifactLifecycles → Prop
  | .apply artifactRef _ event, lifecycles => ∀ current,
      lifecycles.get? artifactRef = some current → event.isEarly current.binding = false
  | _, _ => True

variable {lifecycle : ArtifactLifecycle} {raw : Raw} {call : Call}

lemma encodeRecord_eq_some : encodeRecord codec lifecycle = some raw ↔
      codec.print (.ofLifecycle lifecycle) = some raw ∧
        codec.length raw ≤ maxArtifactRecordBytes := by
  simp only [encodeRecord, bind, Option.bind_eq_some_iff]
  constructor
  · rintro ⟨encoded, printed, fits⟩
    split_ifs at fits with small
    cases fits
    exact ⟨printed, small⟩
  · rintro ⟨printed, small⟩
    exact ⟨raw, printed, by rw [if_pos small]⟩

lemma decodeRecord_encodeRecord (encoded : encodeRecord codec lifecycle = some raw) :
    decodeRecord codec raw = (restore lifecycle.binding lifecycle.revision
      lifecycle.state lifecycle.cleanupStatus).mapError fun _ => .corrupt := by
  obtain ⟨printed, small⟩ := encodeRecord_eq_some.mp encoded
  have built : ArtifactBinding.new lifecycle.binding.toArtifactBindingFields =
      .ok lifecycle.binding := by
    rw [ArtifactBinding.new, dif_pos lifecycle.binding.valid]
  have version := codec.probe_print printed
  unfold decodeRecord
  rw [if_neg (not_lt.mpr small), version, codec.parse_print printed]
  simp only [ofLifecycle, ne_eq, not_true_eq_false, if_false, built]
  rfl

lemma decodeRecord_ok (restorable : lifecycle.Restorable)
    (encoded : encodeRecord codec lifecycle = some raw) :
    decodeRecord codec raw = .ok lifecycle := by
  rw [decodeRecord_encodeRecord encoded,
    restore_eq_ok.mpr ⟨rfl, restorable⟩]
  rfl

lemma restorable_of_decodeRecord {other : ArtifactLifecycle}
    (encoded : encodeRecord codec lifecycle = some raw)
    (decoded : decodeRecord codec raw = .ok other) : lifecycle.Restorable := by
  rw [decodeRecord_encodeRecord encoded] at decoded
  cases restored : restore lifecycle.binding lifecycle.revision
      lifecycle.state lifecycle.cleanupStatus with
  | error err => simp [restored, Except.mapError] at decoded
  | ok found =>
    obtain ⟨rfl, restorable⟩ := restore_eq_ok.mp restored
    exact restorable

lemma decodeRecord_restorable (decoded : decodeRecord codec raw = .ok lifecycle) :
    lifecycle.Restorable := by
  unfold decodeRecord at decoded
  split_ifs at decoded
  cases version : codec.probe raw with
  | none => simp [version] at decoded
  | some schemaVersion =>
    simp only [version] at decoded
    split_ifs at decoded
    cases parsed : codec.parse raw with
    | none => simp [parsed] at decoded
    | some wire =>
      cases built : ArtifactBinding.new wire.toArtifactBindingFields with
      | error err => simp [parsed, built, Except.mapError, bind, Except.bind] at decoded
      | ok binding =>
        simp only [parsed, built, Except.mapError, bind, Except.bind] at decoded
        cases restored : restore binding wire.revision wire.state
            wire.cleanupStatus with
        | error err => simp [restored] at decoded
        | ok found =>
          simp only [restored] at decoded
          cases decoded
          obtain ⟨rfl, restorable⟩ := restore_eq_ok.mp restored
          exact restorable

inductive Change (capacity : Nat) (lifecycles : ArtifactLifecycles) :
    Call → ArtifactLifecycles → Prop where
  | registered (binding : ArtifactBinding) :
      lifecycles.get? binding.artifactRef = none → lifecycles.size < capacity →
      Change capacity lifecycles (.register binding)
        (lifecycles.insert binding.artifactRef (.new binding))
  | applied (artifactRef : String) (event : ArtifactEvent)
      (current lifecycle : ArtifactLifecycle) (previous : Nat) :
      lifecycles.get? artifactRef = some current →
      applyArtifactEvent current event = .applied lifecycle previous →
      Change capacity lifecycles (.apply artifactRef current.revision event)
        (lifecycles.insert artifactRef lifecycle)

lemma plan_commit {reply : Committed → Answer}
    (planned : plan capacity call lifecycles = .commit next reply) :
    Change capacity lifecycles call next := by
  cases call with
  | read artifactRef => cases planned
  | list => cases planned
  | register binding =>
    obtain ⟨inner, own, -⟩ := Plan.map_eq_commit planned
    unfold register at own
    cases bound : lifecycles.get? binding.artifactRef with
    | some existing =>
      simp only [bound] at own
      split_ifs at own
    | none =>
      simp only [bound] at own
      split_ifs at own with full
      cases own
      exact .registered binding bound (not_le.mp full)
  | apply artifactRef expectedRevision event =>
    obtain ⟨inner, own, -⟩ := Plan.map_eq_commit planned
    unfold apply at own
    cases bound : lifecycles.get? artifactRef with
    | none => simp [bound] at own
    | some current =>
      cases transition : applyArtifactEvent current event with
      | idempotent revision => simp [bound, transition] at own
      | rejected reason =>
        simp only [bound, transition] at own
        split_ifs at own
      | applied lifecycle previous =>
        simp only [bound, transition] at own
        split_ifs at own with stale
        cases own
        have same : current.revision = expectedRevision := not_not.mp stale
        subst same
        exact .applied artifactRef event current lifecycle previous bound transition

lemma Change.valid (valid : Valid capacity lifecycles)
    (change : Change capacity lifecycles call next) (onTime : OnTime call lifecycles) :
    Valid capacity next := by
  cases change with
  | registered binding free room =>
    have restorable := new_restorable binding
    exact valid.insert_new (by exact free) room restorable
  | applied artifactRef event current lifecycle previous bound transition =>
    have restorable : lifecycle.Restorable :=
      (restorable_applied_iff (valid.each bound) transition).mpr (onTime current bound)
    obtain ⟨state, cleanupStatus, -, own⟩ := applies_of_applied transition
    obtain ⟨rfl, -⟩ := transitionTo_applied own
    have keyed : current.binding.artifactRef = artifactRef := valid.keyed _ _ bound
    subst keyed
    exact valid.replace (by exact bound) restorable

lemma lawful (range : 0 < capacity ∧ capacity ≤ u32Max) :
    (repository codec capacity).Lawful (Valid capacity) OnTime where
  bootstrap_unavailable := ⟨_, bootstrap_unavailable range⟩
  bootstrap_encode := bootstrap_encodeRecords range
    fun _ _ restorable encoded => decodeRecord_ok restorable encoded
  plan_valid valid onTime planned := (plan_commit planned).valid valid onTime
  recovery_valid _ recovered := nomatch recovered

lemma Change.onTime {encoded : List Raw} {revision : Nat} {cache : Cache ArtifactLifecycles}
    (valid : Valid capacity lifecycles) (change : Change capacity lifecycles call next)
    (printed : encodeRecords (encodeRecord codec) next = some encoded)
    (booted : bootstrap codec capacity (.records revision encoded) = .ok cache) :
    OnTime call lifecycles := by
  cases change with
  | registered binding free room => trivial
  | applied artifactRef event current lifecycle previous bound transition =>
    intro other other_bound
    cases bound.symm.trans other_bound
    have stored : (lifecycles.insert artifactRef lifecycle).get? artifactRef = some lifecycle := by
      rw [SortedMap.get?_insert, if_pos rfl]
    obtain ⟨raw, decoded, one, ok⟩ := bootstrap_decodes printed stored booted
    exact (restorable_applied_iff (valid.each bound) transition).mp
      (restorable_of_decodeRecord one ok)

/-- The lifecycles that events stamped no earlier than the creation lead to. -/
abbrev ReducedOnTime (binding : ArtifactBinding) : ArtifactLifecycle → Prop :=
  Reduced (fun current event => event.isEarly current.binding = false) binding

lemma reducedOnTime_restorable {binding : ArtifactBinding}
    (reduced : ReducedOnTime binding lifecycle) : lifecycle.Restorable := by
  induction reduced with
  | new => exact new_restorable binding
  | applied _ transition onTime ih => exact (restorable_applied_iff ih transition).mpr onTime

/-- What the reducer makes of a new artifact can be restored, and its next
transition can be restored exactly when its event is on time. -/
def ReducerRestores : Prop :=
  ∀ binding lifecycle, ReducedOnTime binding lifecycle →
    restore lifecycle.binding lifecycle.revision lifecycle.state
        lifecycle.cleanupStatus = .ok lifecycle ∧
      ∀ event next previous, applyArtifactEvent lifecycle event = .applied next previous →
        (restore next.binding next.revision next.state next.cleanupStatus =
          .ok next ↔ event.isEarly lifecycle.binding = false)

lemma reducer_restores : ReducerRestores := by
  intro binding lifecycle reduced
  have restorable := reducedOnTime_restorable reduced
  refine ⟨restore_eq_ok.mpr ⟨rfl, restorable⟩, ?_⟩
  intro event next previous transition
  rw [restore_eq_ok, ← restorable_applied_iff restorable transition]
  exact ⟨fun restored => restored.2, fun restorable => ⟨rfl, restorable⟩⟩

/-- Over every run of the repository in which no event is committed that is stamped
before the creation of its artifact: the storage can be bootstrapped to exactly what
was committed, with restarts and any fate of each write.  The first write of an
earlier event ends this. -/
theorem bootable_while_on_time (codec : ArtifactCodec Raw) (capacity : Nat)
    (storage : Storage Raw) (start : ArtifactLifecycles)
    (starts : (repository codec capacity).Stores storage start) (events : List (Event Call))
    (onTime : Machine.Along (repository codec capacity).step
      ((repository codec capacity).Permits OnTime) ⟨storage, none⟩ events) :
    let node := (repository codec capacity).run ⟨storage, none⟩ events
    (repository codec capacity).Bootstraps node ∧
      (repository codec capacity).BootsExactlyWhen OnTime node ∧ ReducerRestores := by
  intro node
  obtain ⟨range, valid⟩ := bootstrap_ok
    (P := ArtifactLifecycle.Restorable) (fun _ _ => decodeRecord_restorable) starts
  have lawful : (repository codec capacity).Lawful (Valid capacity) OnTime := lawful range
  obtain ⟨stored, consistent, -, -⟩ := (Repository.Since.down starts valid).run lawful onTime
  refine ⟨consistent.bootstraps, ?_, reducer_restores⟩
  apply consistent.boots_exactly_when lawful
  intro call records next reply encoded revision booted records_valid planned printed ok
  have change : Change capacity records call next := plan_commit planned
  exact change.onTime records_valid printed ok

def sampleBinding : ArtifactBinding where
  artifactRef := "capture:" ++ String.ofList (List.replicate 64 'a')
  ownerRequesterId := "requester"
  ownerRequestId := "request-1"
  ownerOperationId := "operation-1"
  fullDigest := "sha256:eaa4a94ea300e0d2c775968cbe42f0b5b51ceafdeb73d64e9efddf6d4e880865"
  totalSize := 67
  createdAtMs := 1000000
  expiresAtMs := 1600000
  valid := by decide

def sampleRun (nowMs : Int) : List (Event Call) :=
  [.restart true .unavailable, .call (.register sampleBinding) (.applied 1),
    .call (.apply sampleBinding.artifactRef 0
      (.beginFetch "requester" "request-1" "operation-1" "transfer-1" 1 nowMs)) (.applied 2)]

/-- The store stays bootable over the registration and a fetch in time. -/
theorem bootable_while_on_time_sample :
    (repository (.plain schemaVersion) 1).Bootstraps
      ((repository (.plain schemaVersion) 1).run ⟨⟨0, none⟩, none⟩
        (sampleRun 1000000)) := by
  refine (bootable_while_on_time (.plain schemaVersion) 1 ⟨0, none⟩ .empty
    rfl (sampleRun 1000000) ⟨trivial, ?_, ?_, trivial⟩).1
  · exact fun _ _ => trivial
  · intro cache writes current bound
    cases writes.1
    cases bound
    rfl

/-- A fetch that is stamped before the artifact was created is committed, and
the storage can no longer be bootstrapped. -/
theorem early_fetch_locks_store :
    let node := (repository (.plain schemaVersion) 1).run
      ⟨⟨0, none⟩, none⟩ (sampleRun 1)
    node.storage.revision = 2 ∧
      bootstrap (.plain schemaVersion) 1 node.storage.read =
        .error .corrupt :=
  ⟨rfl, rfl⟩

end DurableArtifactLifecycleRepository

end Knowbee
