import Knowbee.Cancellation.DurableReceipt

/-!
# Runs of the durable cancellation store

The store is a lawful repository (`lawful`): it starts on the encoding of every
set of receipts it can commit with exactly these receipts.  Over any run, with
restarts and any fate of each write, it stays within its capacity, gives up
nothing but its oldest terminal commands, and never touches a finalized receipt
(`cancellation_store_safe`).
-/

namespace Knowbee

open CasStore CancellationReceiptWire

namespace DurableCancellationStore

variable {Raw : Type} {codec : CancellationCodec Raw} {capacity : Nat}

lemma bootstrap_ok {read : Read Raw} {cache : Cache CancellationReceipts}
    (booted : bootstrap codec capacity read = .ok cache) :
    (0 < capacity ∧ capacity ≤ u32Max) ∧ Valid capacity cache.records :=
  RecordStore.bootstrap_ok (fun _ _ _ => trivial) booted

lemma decodeRecord_encodeRecord {receipt : DurableCancellationReceipt} {raw : Raw}
    (encoded : encodeRecord codec receipt = some raw) : decodeRecord codec raw = .ok receipt := by
  cases one : receipt.encode codec with
  | error err => simp [encodeRecord, one, Except.toOption] at encoded
  | ok other =>
    simp only [encodeRecord, one, Except.toOption, Option.some.injEq] at encoded
    cases encoded
    simp [decodeRecord, DurableCancellationReceipt.decode_encode one, Except.mapError]

lemma commits_change {receipts next : CancellationReceipts}
    (commits : (repository codec capacity).Commits receipts next) :
    ∃ receipt, Change capacity receipts receipt next := by
  cases commits with
  | plan call answer planned =>
    obtain ⟨⟨receipt, -, change⟩, -⟩ := plan_commit planned
    exact ⟨receipt, change⟩
  | recovery recovered => cases recovered

lemma lawful (range : 0 < capacity ∧ capacity ≤ u32Max) :
    (repository codec capacity).Lawful (Valid capacity) fun _ _ => True where
  bootstrap_unavailable := ⟨_, RecordStore.bootstrap_unavailable range⟩
  bootstrap_encode := RecordStore.bootstrap_encodeRecords range
    fun _ _ _ encoded => decodeRecord_encodeRecord encoded
  plan_valid valid _ planned := by
    obtain ⟨⟨receipt, -, change⟩, -⟩ := plan_commit planned
    exact change.valid valid
  recovery_valid _ recovered := nomatch recovered

/-- What is stored can be bootstrapped, within the capacity; a process holds
exactly that, or is behind it by one commit it was not told of. -/
def Bootstraps (codec : CancellationCodec Raw) (capacity : Nat)
    (node : Node Raw CancellationReceipts) : Prop :=
  ∃ stored, (repository codec capacity).Stores node.storage stored ∧ stored.size ≤ capacity ∧
    ∀ cache, node.cache = some cache → cache.records.size ≤ capacity ∧
      (cache.revision = node.storage.revision → cache.records = stored) ∧
      (repository codec capacity).Moves cache.records stored

/-- A call that does not answer a commit leaves the memory as it was. -/
def FailuresKeepMemory (codec : CancellationCodec Raw) (capacity : Nat)
    (node : Node Raw CancellationReceipts) : Prop :=
  ∀ call fate after cache kept answer, node.cache = some cache →
    (repository codec capacity).call call fate node.storage cache = (after, kept, answer) →
    answer.isCommitted = false → kept = cache

/-- Every receipt of a cancellation keeps its identity, and once finalized it
stays exactly as it is. -/
def CancellationsStay (before after : CancellationReceipts) : Prop :=
  ∀ key receipt, before.get? key = some receipt → receipt.key.terminalCommand = false →
    ∃ later, after.get? key = some later ∧ later.key = receipt.key ∧
      (receipt.outcome ≠ .prepared → later = receipt)

lemma CancellationsStay.refl (receipts : CancellationReceipts) :
    CancellationsStay receipts receipts :=
  fun _ receipt bound _ => ⟨receipt, bound, rfl, fun _ => rfl⟩

lemma CancellationsStay.trans {first second third : CancellationReceipts}
    (early : CancellationsStay first second) (late : CancellationsStay second third) :
    CancellationsStay first third := by
  intro key receipt bound cancellation
  obtain ⟨middle, middle_bound, identity, same⟩ := early key receipt bound cancellation
  obtain ⟨last, last_bound, identity', same'⟩ :=
    late key middle middle_bound (identity ▸ cancellation)
  refine ⟨last, last_bound, identity'.trans identity, fun finalized => ?_⟩
  cases same finalized
  exact same' finalized

lemma Change.cancellationsStay {receipts next : CancellationReceipts}
    {receipt : DurableCancellationReceipt} (change : Change capacity receipts receipt next) :
      CancellationsStay receipts next := by
  intro key receipt bound cancellation
  cases after : next.get? key with
  | none =>
    obtain ⟨-, command, -⟩ := change.evictsOnlyOldest key receipt bound after
    exact absurd command (by simp [cancellation])
  | some later => exact ⟨later, rfl, change.keepsFinalized key receipt later bound after⟩

lemma evolves_cancellationsStay {before after : CancellationReceipts}
    (evolves : (repository codec capacity).Evolves before after) :
    CancellationsStay before after :=
  Repository.Evolves.keeps (fun stay commits => by
    obtain ⟨receipt, change⟩ := commits_change commits
    exact stay.trans change.cancellationsStay) evolves (.refl before)

lemma moves_evicts {before after : CancellationReceipts}
    (moves : (repository codec capacity).Moves before after) :
    EvictsOnlyOldest capacity before after ∧ KeepsFinalized before after := by
  cases moves with
  | refl =>
    refine ⟨fun key receipt bound gone => ?_, fun key old new bound kept => ?_⟩
    · rw [bound] at gone
      cases gone
    · cases bound.symm.trans kept
      exact ⟨rfl, fun _ => rfl⟩
  | single commits =>
    obtain ⟨receipt, change⟩ := commits_change commits
    exact ⟨change.evictsOnlyOldest, change.keepsFinalized⟩

/-- Over every run of the store, with restarts and any fate of each write: it stays
within its capacity, its storage can be bootstrapped to what it committed, each
event gives up nothing but the oldest terminal command of a full store, a failed
call leaves the memory alone, and no finalized cancellation is changed. -/
theorem cancellation_store_safe (codec : CancellationCodec Raw) (capacity : Nat)
    (storage : Storage Raw) (start : CancellationReceipts)
    (starts : (repository codec capacity).Stores storage start) (events : List (Event Call)) :
    let node := (repository codec capacity).run ⟨storage, none⟩ events
    Bootstraps codec capacity node ∧ FailuresKeepMemory codec capacity node ∧
      (∀ event cache later, node.cache = some cache →
        ((repository codec capacity).step node event).1.cache = some later →
        EvictsOnlyOldest capacity cache.records later.records ∧
          KeepsFinalized cache.records later.records) ∧
      ∀ more cache later, node.cache = some cache →
        ((repository codec capacity).run node more).cache = some later →
        CancellationsStay cache.records later.records := by
  intro node
  obtain ⟨range, valid⟩ := bootstrap_ok starts
  have lawful : (repository codec capacity).Lawful (Valid capacity) fun _ _ => True := lawful range
  obtain ⟨stored, consistent, -, -⟩ := (Repository.Since.down starts valid).run_all lawful events
  refine ⟨⟨stored, consistent.stores, consistent.valid.bounded, fun cache held => ?_⟩,
    ?_, ?_, ?_⟩
  · exact ⟨(consistent.cache_valid held).bounded, consistent.current held, consistent.moves held⟩
  · intro call fate after cache kept answer held run failed
    rcases Repository.call_kept run with same | ⟨next, reply, planned, rfl, -⟩
    · exact same
    · have written := ((plan_commit planned).2 .written).mpr rfl
      simp [written] at failed
  · intro event cache later held after
    exact moves_evicts (consistent.step_moves lawful (fun _ => rfl)
      (Repository.permits_all _ node event) held after)
  · intro more cache later held after
    obtain ⟨-, -, -, onward⟩ := (consistent.since held).run_all lawful more
    exact evolves_cancellationsStay (onward later after)

def sampleReceipt : DurableCancellationReceipt where
  key := {
    cancellationId := "cancel-1"
    commandId := "command-1"
    cancelTokenDigest := "sha256:" ++ String.ofList (List.replicate 64 '0')
    cancellationScopeDigest := none
    terminalCommand := false
  }
  outcome := .prepared
  observedAtMs := 1
  valid := by decide

/-- The receipt is begun by a write that is not reported and finalized after a restart. -/
def sampleEvents : List (Event Call) :=
  [.restart true .unavailable, .call (.begin sampleReceipt) (.unreported 7),
    .restart true .unavailable,
    .call (.finalize { sampleReceipt with outcome := .accepted, valid := by decide }) (.applied 8),
    .restart true .unavailable]

theorem cancellation_store_safe_sample :
    let node := (repository (.plain schemaVersion) 1).run ⟨⟨0, none⟩, none⟩
      sampleEvents
    (Bootstraps (.plain schemaVersion) 1 node ∧
        FailuresKeepMemory (.plain schemaVersion) 1 node) ∧
      node.cache.map (fun cache => cache.records.values.map (·.outcome)) = some [.accepted] := by
  have safe := cancellation_store_safe (.plain schemaVersion) 1 ⟨0, none⟩
    .empty rfl sampleEvents
  exact ⟨⟨safe.1, safe.2.1⟩, by decide +kernel⟩

end DurableCancellationStore

end Knowbee
