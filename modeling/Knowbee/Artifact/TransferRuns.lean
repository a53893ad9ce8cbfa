import Knowbee.Artifact.RepositoryRuns
import Knowbee.Artifact.Transfer

/-!
# Redelivered fetches

A fetch that is delivered again is answered by the store as a replay, both while its transfer is
being fetched and while its acknowledgement is awaited.  So a redelivery is harmless exactly when
the transfer is still being fetched, the store refuses the replay, or the write of the failure is
not taken (`refetch_harmless_iff`).
-/

namespace Knowbee

open CasStore List RecordStore ArtifactLifecycle

/-! ## Chunks of a transfer -/

variable {chunkCount : Nat}

section Chunks

variable {sha256 : Sha256} {binding : ArtifactBinding} {config : ArtifactChunkConfig}

lemma ArtifactChunkConfig.chunkCount_ok {total count : Nat}
    (counted : config.chunkCount total = .ok count) :
    count = divCeil total config.payloadBytes ∧ 0 < count ∧ count ≤ maxChunkCount := by
  simp only [chunkCount] at counted
  split_ifs at counted with word bounds
  cases counted
  refine ⟨rfl, ?_, ?_⟩ <;> omega

lemma chunkAt_length {bytes : List UInt8} {size index : Nat} (positive : 0 < size)
    (below : index < ArtifactChunkConfig.divCeil bytes.length size) :
    0 < (chunkAt size bytes index).length ∧ (chunkAt size bytes index).length ≤ size ∧
      index * size + (chunkAt size bytes index).length ≤ bytes.length := by
  have inside : index * size < bytes.length := by
    have steps : (index + 1) * size ≤ bytes.length + size - 1 :=
      (Nat.le_div_iff_mul_le positive).mp below
    rw [Nat.succ_mul] at steps
    omega
  simp only [chunkAt, length_take, length_drop]
  omega

lemma buildArtifactChunk_ok {transferId : String} {count index : Nat} {payload : List UInt8}
    (transfer : validTransfer transferId count = true) (below : index < count)
    (filled : 0 < payload.length) (bounded : payload.length ≤ maxChunkPayloadBytes)
    (fits : index * config.payloadBytes + payload.length ≤ binding.totalSize) :
    ∃ chunk, buildArtifactChunk sha256 binding transferId count config.payloadBytes index
      payload = .ok chunk := by
  have valid := binding.valid
  simp only [ArtifactBindingFields.isValid, Bool.and_eq_true, decide_eq_true_eq] at valid
  obtain ⟨⟨⟨⟨⟨⟨⟨⟨⟨ref, requester⟩, request⟩, -⟩, full⟩, total⟩, largest⟩, created⟩, living⟩, -⟩ :=
    valid
  simp only [validTransfer, Bool.and_eq_true, decide_eq_true_eq] at transfer
  obtain ⟨⟨identity, positive⟩, most⟩ := transfer
  simp only [maxArtifactBytes] at largest
  simp only [maxChunkCount] at most
  simp only [maxChunkPayloadBytes] at bounded
  simp only [minTtlMs] at living
  have index_word : ¬u32Max < index := by simp only [u32Max]; omega
  have offset_word : ¬u64Max < index * config.payloadBytes := by simp only [u64Max]; omega
  have size_word : ¬u32Max < payload.length := by simp only [u32Max]; omega
  have finish_word : index * config.payloadBytes + payload.length ≤ u64Max := by
    simp only [u64Max]
    omega
  have expires : ¬binding.expiresAtMs ≤ 0 := by omega
  unfold buildArtifactChunk ArtifactChunk.fromUntrusted ArtifactChunkHeader.validate
  simp only [if_neg index_word, if_neg offset_word, if_neg size_word, u64CheckedAdd,
    if_pos finish_word]
  have first : ¬(index = 0 ∧ index * config.payloadBytes ≠ 0) := by
    rintro ⟨rfl, offset⟩
    simp at offset
  rw [if_neg]
  · exact ⟨_, by simp [bind, Except.bind, pure, Except.pure]; rfl⟩
  · simp only [identity, ref, requester, request, full, digest, isSha256Digest_prefixed,
      maxChunkCount, maxChunkPayloadBytes, not_or]
    simp only [Bool.not_true, Bool.false_eq_true, not_false_eq_true, true_and, not_not, not_lt,
      not_le]
    refine ⟨by omega, most, below, by omega, bounded, by omega, fits, first, by omega⟩

lemma mapM_ok {α β Err : Type} {build : α → Except Err β} {items : List α}
    (each : ∀ item ∈ items, ∃ built, build item = .ok built) :
    ∃ all, items.mapM build = .ok all := by
  induction items with
  | nil => exact ⟨[], rfl⟩
  | cons item rest ih =>
    obtain ⟨built, one⟩ := each item mem_cons_self
    obtain ⟨all, others⟩ := ih fun other member => each other (mem_cons_of_mem _ member)
    exact ⟨built :: all, by simp [one, others, bind, Except.bind, pure, Except.pure]⟩

/-- The chunks of the bound bytes can be built as long as the artifact is being
fetched and has not expired. -/
lemma buildArtifactChunks_ok {lifecycle : ArtifactLifecycle} {bytes : List UInt8} {nowMs : Int}
    {transferId : String} {startedAtMs : Int}
    (fetching : lifecycle.state = .fetching transferId chunkCount startedAtMs)
    (transfer : validTransfer transferId chunkCount = true) (positive : 0 < nowMs)
    (running : nowMs < lifecycle.binding.expiresAtMs)
    (size : bytes.length = lifecycle.binding.totalSize)
    (full : digest sha256 bytes = lifecycle.binding.fullDigest)
    (counted : config.chunkCount lifecycle.binding.totalSize = .ok chunkCount) :
    ∃ chunks, buildArtifactChunks sha256 lifecycle bytes nowMs config = .ok chunks := by
  obtain ⟨exact_count, -, -⟩ := ArtifactChunkConfig.chunkCount_ok counted
  have inTime : ¬(nowMs ≤ 0 ∨ lifecycle.binding.expiresAtMs ≤ nowMs) := by omega
  unfold buildArtifactChunks
  simp only [fetching, if_neg inTime, size, full, counted, ne_eq, not_true_eq_false, if_false,
    bind, Except.bind]
  refine mapM_ok fun index member => ?_
  have below : index < ArtifactChunkConfig.divCeil bytes.length config.payloadBytes := by
    rw [size]
    exact mem_range.mp member
  obtain ⟨filled, bounded, fits⟩ := chunkAt_length config.valid.1 below
  refine buildArtifactChunk_ok transfer ?_ filled (bounded.trans config.valid.2) (size ▸ fits)
  rw [exact_count, ← size]
  exact below

end Chunks

/-! ## Lifecycles of a run -/

namespace DurableArtifactLifecycleRepository

variable {Raw : Type} {codec : ArtifactCodec Raw} {capacity : Nat}

abbrev AnyEvent (_ : ArtifactLifecycle) (_ : ArtifactEvent) : Prop := True

/-- Lifecycles that the reducer leads to, under their own references. -/
abbrev WithinReduced (capacity : Nat) (lifecycles : ArtifactLifecycles) : Prop :=
  RecordStore.Within (fun lifecycle => lifecycle.binding.artifactRef) capacity
    (fun lifecycle => Reduced AnyEvent lifecycle.binding lifecycle) lifecycles

/-- The storage is empty or holds the encoding of `stored`. -/
def Written (codec : ArtifactCodec Raw) (storage : Storage Raw) (stored : ArtifactLifecycles) :
    Prop :=
  (storage.records = none ∧ stored = .empty) ∨ ∃ raws,
    encodeRecords (encodeRecord codec) stored = some raws ∧
      storage.records = some raws

/-- Only what the reducer leads to is stored and held. -/
def KeepsReduced (codec : ArtifactCodec Raw) (capacity : Nat) (node : Node Raw ArtifactLifecycles) :
    Prop :=
  (∃ stored, Written codec node.storage stored ∧ WithinReduced capacity stored) ∧
    ∀ cache, node.cache = some cache → WithinReduced capacity cache.records

lemma Change.reduced {lifecycles next : ArtifactLifecycles} {call : Call}
    (within : WithinReduced capacity lifecycles) (change : Change capacity lifecycles call next) :
    WithinReduced capacity next := by
  cases change with
  | registered binding free room =>
    have reduced : Reduced AnyEvent (new binding).binding (.new binding) := .new
    exact within.insert_new (by exact free) room reduced
  | applied artifactRef event current lifecycle previous bound transition =>
    have before := within.each bound
    have after := Reduced.applied before transition trivial
    have same : lifecycle.binding = current.binding := after.binding_eq
    have reduced : Reduced AnyEvent lifecycle.binding lifecycle := same ▸ after
    have keyed : current.binding.artifactRef = artifactRef := within.keyed _ _ bound
    rw [← keyed, ← same] at bound ⊢
    exact within.replace (by exact bound) reduced

/-- What a bootstrap reads is what was written, whenever it reads it at all. -/
lemma Written.bootstrapped {storage : Storage Raw} {stored : ArtifactLifecycles}
    {cache : Cache ArtifactLifecycles} (written : Written codec storage stored)
    (within : WithinReduced capacity stored)
    (booted : bootstrap codec capacity storage.read = .ok cache) : cache.records = stored := by
  obtain ⟨range, -⟩ := bootstrap_ok
    (P := Restorable) (fun _ _ => decodeRecord_restorable) booted
  obtain ⟨revision, records⟩ := storage
  rcases written with ⟨rfl, rfl⟩ | ⟨raws, encoded, rfl⟩
  · have missing := booted.symm.trans (bootstrap_missing range revision)
    exact congrArg Cache.records (Except.ok.inj missing)
  · have valid : Valid capacity stored := by
      refine ⟨within.keyed, within.bounded, fun bound => ?_⟩
      obtain ⟨raw, decoded, one, ok⟩ := bootstrap_decodes encoded bound booted
      exact restorable_of_decodeRecord one ok
    have same := booted.symm.trans ((lawful range).bootstrap_encode valid encoded)
    exact congrArg Cache.records (Except.ok.inj same)

lemma KeepsReduced.step {node : Node Raw ArtifactLifecycles} (keeps : KeepsReduced codec capacity node)
    (event : Event Call) :
    KeepsReduced codec capacity ((repository codec capacity).step node event).1 := by
  obtain ⟨⟨stored, written, within⟩, held⟩ := keeps
  cases event with
  | restart readable fate =>
    simp only [Repository.step, Repository.start]
    cases booted : (repository codec capacity).bootstrap
        (if readable then node.storage.read else .unavailable) with
    | error err => exact ⟨⟨stored, written, within⟩, by simp⟩
    | ok cache =>
      refine ⟨⟨stored, written, within⟩, fun other up => ?_⟩
      cases up
      cases readable with
      | false =>
        have range := bootstrap_ok
          (P := Restorable) (fun _ _ => decodeRecord_restorable) booted
        cases booted.symm.trans (bootstrap_unavailable range.1)
      | true => exact written.bootstrapped within booted ▸ within
  | call op fate =>
    obtain ⟨storage, _ | cache⟩ := node
    · exact ⟨⟨stored, written, within⟩, held⟩
    · rcases outcome : (repository codec capacity).call op fate storage cache with
        ⟨after, kept, res⟩
      simp only [Repository.step, outcome]
      rcases Plan.execute_cases outcome with
        ⟨rfl, rfl⟩ | ⟨next, answer, records, revision, planned, encoded, rfl, kept_as, -⟩
      · exact ⟨⟨stored, written, within⟩, held⟩
      · have reduced : WithinReduced capacity next := (plan_commit planned).reduced (held cache rfl)
        refine ⟨⟨next, .inr ⟨records, encoded, rfl⟩, reduced⟩, fun other up => ?_⟩
        cases up
        rcases kept_as with rfl | rfl
        · exact held _ rfl
        · exact reduced

lemma keepsReduced_run (codec : ArtifactCodec Raw) (capacity revision : Nat)
    (events : List (Event Call)) :
    KeepsReduced codec capacity
      ((repository codec capacity).run ⟨⟨revision, none⟩, none⟩ events) :=
  Machine.run_invariant (fun _ event keeps => keeps.step event)
    ⟨⟨.empty, .inl ⟨rfl, rfl⟩, within_empty⟩, nofun⟩ events

end DurableArtifactLifecycleRepository

/-! ## The fetch of an active transfer -/

namespace ArtifactTransferUseCase

open DurableArtifactLifecycleRepository

variable {Raw : Type} {codec : ArtifactCodec Raw} {sha256 : Sha256}
  {source : VerifiedArtifactSource sha256} {command : ArtifactFetchCommand}
  {store : Store Raw} {current : ArtifactLifecycle}

def isActiveOf (transferId : String) : ArtifactLifecycleState → Bool
  | .fetching active .. | .awaitingAck active .. => active = transferId
  | _ => false

/-- The storage holds a record of the artifact with the given lifecycle. -/
def StoredAs (codec : ArtifactCodec Raw) (storage : Storage Raw) (artifactRef : String)
    (lifecycle : ArtifactLifecycle) : Prop :=
  ∃ raws raw, storage.records = some raws ∧ raw ∈ raws ∧
    encodeRecord codec lifecycle = some raw ∧ lifecycle.binding.artifactRef = artifactRef

/-- Whatever lifecycle the store holds or has stored for the artifact is active
with the given transfer. -/
def KeepsTransfer (codec : ArtifactCodec Raw) (store : Store Raw)
    (artifactRef transferId : String) : Prop :=
  (∀ lifecycle, store.cache.records.get? artifactRef = some lifecycle →
    isActiveOf transferId lifecycle.state = true) ∧
    ∀ lifecycle, StoredAs codec store.storage artifactRef lifecycle →
      isActiveOf transferId lifecycle.state = true

/-- A fetch of the owner that names the active transfer, with its chunk count,
before the artifact expires and while the source returns the bound bytes. -/
structure Redelivered (source : VerifiedArtifactSource sha256) (command : ArtifactFetchCommand)
    (store : Store Raw) (current : ArtifactLifecycle) : Prop where
  held : store.cache.records.get? command.artifactRef = some current
  owner : current.ownerMatches command.requesterId command.requestId command.operationId = true
  active : ∃ chunkCount atMs,
    (current.state = .fetching command.transferId chunkCount atMs ∨
      current.state = .awaitingAck command.transferId chunkCount atMs) ∧
    command.chunkConfig.chunkCount current.binding.totalSize = .ok chunkCount
  running : command.nowMs < current.binding.expiresAtMs
  bytes : ∃ verified, source command.artifactRef = .ok verified ∧
    verified.artifactRef = current.binding.artifactRef ∧
    verified.sizeBytes = current.binding.totalSize ∧
    verified.sha256Digest = current.binding.fullDigest

def failed (current : ArtifactLifecycle) (nowMs : Int) : ArtifactLifecycle where
  binding := current.binding
  revision := current.revision + 1
  state := .failed .verificationFailed nowMs
  cleanupStatus := current.cleanupStatus

/-- The condition under which a redelivery is harmless: the transfer is still
being fetched, the store refuses a clock that is not positive, or the storage
does not take the write of the failure. -/
def Harmless (codec : ArtifactCodec Raw) (command : ArtifactFetchCommand) (failFate : Fate)
    (store : Store Raw) (current : ArtifactLifecycle) : Prop :=
  (∃ transferId chunkCount startedAtMs,
    current.state = .fetching transferId chunkCount startedAtMs) ∨
    command.nowMs ≤ 0 ∨
    ¬Taken (encodeRecords (encodeRecord codec)) failFate store.storage store.cache
      (store.cache.records.insert current.binding.artifactRef (failed current command.nowMs))

section

variable (redelivered : Redelivered source command store current)
include redelivered

lemma applyBeginFetch_replay
    (counted : current.Counted) (positive : 0 < command.nowMs)
    (exact_count : command.chunkConfig.chunkCount current.binding.totalSize = .ok chunkCount) :
    applyBeginFetch current command.requesterId command.requestId command.operationId
      command.transferId chunkCount command.nowMs = .idempotent current.revision := by
  obtain ⟨own, atMs, active, own_count⟩ := redelivered.active
  cases own_count.symm.trans exact_count
  have running : current.isExpired command.nowMs = false := by
    simpa [isExpired] using redelivered.running
  have clock : ¬command.nowMs ≤ 0 := not_le.mpr positive
  unfold applyBeginFetch
  rcases active with state | state
  · simp only [Counted, state] at counted
    simp [redelivered.owner, counted.2, clock, state, ArtifactLifecycleState.isTerminal, running,
      idempotent]
  · simp only [Counted, state] at counted
    simp [redelivered.owner, counted.2, clock, state, ArtifactLifecycleState.isTerminal, running,
      idempotent]

lemma prepareFetch_refused (stale : command.nowMs ≤ 0) (beginFate failFate : Fate) :
    (prepareFetch codec sha256 source command beginFate failFate store).1 = store := by
  obtain ⟨chunkCount, -, -, counted⟩ := redelivered.active
  have owner := redelivered.owner
  have refused : applyBeginFetch current command.requesterId command.requestId
      command.operationId command.transferId chunkCount command.nowMs = .rejected .invalidEvent := by
    simp [applyBeginFetch, owner, stale]
  simp only [ArtifactLifecycle.ownerMatches, Bool.and_eq_true, beq_iff_eq] at owner
  obtain ⟨⟨requester, request⟩, operation⟩ := owner
  simp only [prepareFetch, redelivered.held, requester, request, operation, counted, Store.apply,
    DurableArtifactLifecycleRepository.apply, applyArtifactEvent, ne_eq, not_true_eq_false,
    or_self, if_false]
  simp only [requester, request, operation] at refused
  rw [refused]
  split_ifs <;> rfl

lemma prepareFetch_replay
    (counted : current.Counted) (positive : 0 < command.nowMs) (beginFate failFate : Fate) :
    prepareFetch codec sha256 source command beginFate failFate store =
      deliver codec sha256 source command current.binding current.revision failFate store
        current := by
  obtain ⟨chunkCount, -, -, exact_count⟩ := redelivered.active
  have replay := applyBeginFetch_replay redelivered counted positive exact_count
  have owner := redelivered.owner
  simp only [ArtifactLifecycle.ownerMatches, Bool.and_eq_true, beq_iff_eq] at owner
  obtain ⟨⟨requester, request⟩, operation⟩ := owner
  simp only [prepareFetch, redelivered.held, requester, request, operation, exact_count,
    Store.apply, DurableArtifactLifecycleRepository.apply, applyArtifactEvent, ne_eq,
    not_true_eq_false, or_self, if_false]
  simp only [requester, request, operation] at replay
  rw [replay]
  simp only [Plan.execute, redelivered.held]

lemma deliver_fetching
    (counted : current.Counted) (positive : 0 < command.nowMs) {transferId : String}
    {startedAtMs : Int}
    (fetching : current.state = .fetching transferId chunkCount startedAtMs)
    (lifecycleRevision : Nat) (fate : Fate) :
    (deliver codec sha256 source command current.binding lifecycleRevision fate store current).1 =
      store := by
  obtain ⟨verified, read, ref, size, full⟩ := redelivered.bytes
  obtain ⟨own, atMs, active, own_count⟩ := redelivered.active
  have same : own = chunkCount := by
    rcases active with state | state <;> rw [fetching] at state <;> cases state
    rfl
  subst same
  simp only [Counted, fetching] at counted
  have checked := verified.checked
  obtain ⟨chunks, built⟩ := buildArtifactChunks_ok fetching counted.2 positive
    redelivered.running (checked.1.symm.trans size) (checked.2.symm.trans full) own_count
  simp only [deliver, read, ref, size, full, built, ne_eq, not_true_eq_false, or_self, if_false]

end

lemma failFetch_store (fate : Fate) (lifecycle : ArtifactLifecycle) (transferId : String)
    (reason : ArtifactFailureReason) (nowMs : Int) (publicReason : ArtifactTransferReject) :
    (failFetch codec store fate lifecycle transferId reason nowMs publicReason).1 =
      (store.apply codec fate lifecycle.binding.artifactRef lifecycle.revision
        (.fail (some transferId) reason nowMs)).1 := by
  simp only [failFetch]
  generalize store.apply codec fate lifecycle.binding.artifactRef lifecycle.revision
    (.fail (some transferId) reason nowMs) = outcome
  obtain ⟨after, result⟩ := outcome
  cases result <;> rfl

lemma deliver_awaitingAck (redelivered : Redelivered source command store current)
    (counted : current.Counted) (keyed : current.binding.artifactRef = command.artifactRef)
    (positive : 0 < command.nowMs) {publishedAtMs : Int}
    (awaiting : current.state = .awaitingAck command.transferId chunkCount publishedAtMs)
    (lifecycleRevision : Nat) (fate : Fate) :
    ∃ (res : Committed → ArtifactRepositoryResult) (after : _), (Plan.commit
      (store.cache.records.insert current.binding.artifactRef
        (failed current command.nowMs)) res).execute
        (encodeRecords (encodeRecord codec)) fate store.storage store.cache = after ∧
      (deliver codec sha256 source command current.binding lifecycleRevision fate store
        current).1 = ⟨after.1, after.2.1⟩ := by
  obtain ⟨verified, read, ref, size, full⟩ := redelivered.bytes
  have unbuilt : buildArtifactChunks sha256 current verified.bytes command.nowMs
      command.chunkConfig = .error .invalidLifecycle := by
    simp [buildArtifactChunks, awaiting]
  simp only [ArtifactLifecycle.Counted, awaiting] at counted
  have identity : isBoundedIdentity command.transferId = true := by
    have transfer := counted.2
    simp only [validTransfer, Bool.and_eq_true] at transfer
    exact transfer.1.1
  have clock : ¬command.nowMs ≤ 0 := not_le.mpr positive
  have word : current.revision + 1 ≤ u64Max := by
    rw [counted.1]
    decide
  have failing : applyFail current (some command.transferId) .verificationFailed command.nowMs =
      .applied (failed current command.nowMs) current.revision := by
    simp [applyFail, clock, identity, awaiting, activeTransfer, ArtifactLifecycleState.isTerminal,
      ArtifactLifecycle.apply, ArtifactLifecycle.transitionTo, u64CheckedAdd, word, failed]
  have held : store.cache.records.get? current.binding.artifactRef = some current :=
    keyed ▸ redelivered.held
  refine ⟨answer (.applied (failed current command.nowMs).revision), _, rfl, ?_⟩
  simp [deliver, read, ref, size, full, unbuilt, ne_eq, not_true_eq_false, or_self,
    failFetch_store, Store.apply, DurableArtifactLifecycleRepository.apply, held,
    applyArtifactEvent, failing]

lemma not_keepsTransfer_of_taken {fate : Fate} {res : Committed → ArtifactRepositoryResult}
    {nowMs : Int} (transferId : String)
    (taken : Taken (encodeRecords (encodeRecord codec)) fate store.storage store.cache
      (store.cache.records.insert current.binding.artifactRef (failed current nowMs))) :
    let after := (Plan.commit (store.cache.records.insert current.binding.artifactRef
      (failed current nowMs)) res).execute (encodeRecords (encodeRecord codec)) fate
      store.storage store.cache
    ¬KeepsTransfer codec ⟨after.1, after.2.1⟩ current.binding.artifactRef transferId := by
  rintro after ⟨-, stored_active⟩
  obtain ⟨raws, revision, encoded, stored⟩ := @Plan.execute_taken _ _ _ _ fate _ _ _ res taken
  have records : after.1.records = some raws := congrArg Storage.records stored
  have bound := SortedMap.get?_insert store.cache.records current.binding.artifactRef
    current.binding.artifactRef (failed current nowMs)
  rw [if_pos rfl] at bound
  obtain ⟨raw, member, one⟩ := encodeRecords_mem encoded bound
  have active := stored_active _ ⟨raws, raw, records, member, one, rfl⟩
  simp [failed, isActiveOf] at active

/-- Over every run of the store from an empty storage, a fetch of its owner
that names the active transfer of an artifact keeps that transfer active, in
memory and in the storage, exactly when the transfer is still being fetched,
the clock of the fetch is refused, or the write of the failure is not taken. -/
theorem refetch_harmless_iff (codec : ArtifactCodec Raw) (sha256 : Sha256)
    (source : VerifiedArtifactSource sha256) (capacity revision : Nat)
    (events : List (Event Call)) (cache : Cache ArtifactLifecycles)
    (command : ArtifactFetchCommand) (current : ArtifactLifecycle) (beginFate failFate : Fate) :
    let node := (repository codec capacity).run ⟨⟨revision, none⟩, none⟩ events
    let store : Store Raw := ⟨node.storage, cache⟩
    node.cache = some cache → Redelivered source command store current →
    KeepsTransfer codec store command.artifactRef command.transferId →
    (KeepsTransfer codec (prepareFetch codec sha256 source command beginFate failFate store).1
        command.artifactRef command.transferId ↔
      Harmless codec command failFate store current) := by
  intro node store running redelivered keeps
  have within := (keepsReduced_run codec capacity revision events).2 cache running
  have counted : current.Counted := (within.each redelivered.held).counted
  have keyed : current.binding.artifactRef = command.artifactRef :=
    within.keyed _ _ redelivered.held
  rcases le_or_gt command.nowMs 0 with stale | positive
  · rw [prepareFetch_refused redelivered stale]
    exact ⟨fun _ => .inr (.inl stale), fun _ => keeps⟩
  rw [prepareFetch_replay redelivered counted positive]
  obtain ⟨chunkCount, atMs, fetching | awaiting, -⟩ := redelivered.active
  · rw [deliver_fetching redelivered counted positive fetching]
    exact ⟨fun _ => .inl ⟨_, _, _, fetching⟩, fun _ => keeps⟩
  · obtain ⟨res, ⟨storage, kept, result⟩, outcome, delivered⟩ :=
      deliver_awaitingAck redelivered counted keyed positive awaiting current.revision failFate
    rw [delivered]
    constructor
    · intro after_keeps
      refine .inr (.inr fun taken => ?_)
      have broken := @not_keepsTransfer_of_taken _ _ _ _ failFate res _ command.transferId taken
      simp only [outcome] at broken
      exact broken (keyed.symm ▸ after_keeps)
    · rintro (⟨transferId, count, startedAtMs, fetching⟩ | stale | refused)
      · rw [awaiting] at fetching
        cases fetching
      · exact absurd positive (not_lt.mpr stale)
      · rcases Plan.execute_cases outcome with ⟨rfl, rfl⟩ | ⟨next, answer, _, _, same, -, -, -, taken⟩
        · exact keeps
        · cases same
          exact absurd taken refused

/-! ## A redelivery after the publication -/

/-- A grey image of one pixel. -/
def sampleBytes : List UInt8 :=
  [137, 80, 78, 71, 13, 10, 26, 10, 0, 0, 0, 13, 73, 72, 68, 82, 0, 0,
    0, 1, 0, 0, 0, 1, 8, 0, 0, 0, 0, 58, 126, 155, 85, 0, 0, 0,
    10, 73, 68, 65, 84, 120, 156, 99, 96, 0, 0, 0, 2, 0, 1, 72, 175, 164,
    113, 0, 0, 0, 0, 73, 69, 78, 68, 174, 66, 96, 130]

def sampleSha256 : Sha256 := fun _ =>
  ⟨"eaa4a94ea300e0d2c775968cbe42f0b5b51ceafdeb73d64e9efddf6d4e880865", by decide, by decide⟩

def sampleSource : VerifiedArtifactSource sampleSha256 := fun artifactRef =>
  .ok ⟨artifactRef, 67, digest sampleSha256 sampleBytes, sampleBytes, rfl, rfl⟩

/-- The fetch of the sample, as its owner sends it again. -/
def sampleCommand : ArtifactFetchCommand where
  artifactRef := sampleBinding.artifactRef
  requesterId := "requester"
  requestId := "request-1"
  operationId := "operation-1"
  transferId := "transfer-1"
  expectedRevision := 0
  nowMs := 1000002
  chunkConfig := ⟨1024, by decide⟩

abbrev sampleCodec : ArtifactCodec ArtifactLifecycleWire :=
  .plain ArtifactLifecycleWire.schemaVersion

/-- The store after the fetch began, and after its chunks were published. -/
def sampleStore (published : Bool) : Node ArtifactLifecycleWire ArtifactLifecycles :=
  (repository sampleCodec 1).run ⟨⟨0, none⟩, none⟩ (sampleRun 1000000 ++
    if published then [.call (.apply sampleBinding.artifactRef 1
      (.chunksPublished "transfer-1" 1 1000001)) (.applied 3)]
    else [])

lemma keepsTransfer_of_single {store : Store ArtifactLifecycleWire}
    {artifactRef transferId : String} {lifecycle : ArtifactLifecycle}
    (held : store.cache.records.get? artifactRef = some lifecycle)
    (stored : store.storage.records = some [.ofLifecycle lifecycle])
    (active : isActiveOf transferId lifecycle.state = true) :
    KeepsTransfer sampleCodec store artifactRef transferId := by
  refine ⟨fun other other_held => ?_, ?_⟩
  · cases held.symm.trans other_held
    exact active
  · rintro other ⟨raws, raw, records, member, encoded, -⟩
    cases stored.symm.trans records
    have same := (encodeRecord_eq_some.mp encoded).1
    rw [mem_singleton.mp member] at same
    have state : other.state = lifecycle.state :=
      congrArg ArtifactLifecycleWire.state (Option.some.inj same)
    rw [state]
    exact active

/-- The fetch is sent again while its transfer is being fetched. -/
theorem refetch_harmless_iff_sample : ∃ cache, (sampleStore false).cache = some cache ∧
    KeepsTransfer sampleCodec (prepareFetch sampleCodec sampleSha256 sampleSource sampleCommand
      .conflict (.applied 4) ⟨(sampleStore false).storage, cache⟩).1
      sampleBinding.artifactRef "transfer-1" := by
  refine ⟨_, rfl, ?_⟩
  have harmless := refetch_harmless_iff sampleCodec sampleSha256 sampleSource 1 0
    (sampleRun 1000000) _ sampleCommand _ .conflict (.applied 4) rfl
    ⟨rfl, rfl, ⟨1, 1000000, .inl rfl, rfl⟩, by decide, ⟨_, rfl, rfl, rfl, rfl⟩⟩
    (keepsTransfer_of_single rfl rfl (by decide))
  exact harmless.mpr (.inl ⟨_, _, _, rfl⟩)

/-- The exact replay of a fetch whose chunks were published: its owner names
the active transfer in time and the source returns the bound bytes, and the
artifact is failed. -/
theorem refetch_fails_published : ∃ cache current, (sampleStore true).cache = some cache ∧
    Redelivered sampleSource sampleCommand ⟨(sampleStore true).storage, cache⟩ current ∧
    KeepsTransfer sampleCodec ⟨(sampleStore true).storage, cache⟩ sampleBinding.artifactRef
      "transfer-1" ∧
    ¬KeepsTransfer sampleCodec (prepareFetch sampleCodec sampleSha256 sampleSource sampleCommand
      .conflict (.applied 4) ⟨(sampleStore true).storage, cache⟩).1
      sampleBinding.artifactRef "transfer-1" := by
  refine ⟨_, _, rfl, ⟨rfl, rfl, ⟨1, 1000001, .inr rfl, rfl⟩, by decide, ⟨_, rfl, rfl, rfl, rfl⟩⟩,
    keepsTransfer_of_single rfl rfl (by decide), fun keeps => ?_⟩
  have active := keeps.1 _ rfl
  exact absurd active (by decide)

end ArtifactTransferUseCase

end Knowbee
