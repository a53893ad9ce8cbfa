import Knowbee.Artifact.Assembler
import Knowbee.Artifact.TransferRuns
import Knowbee.Lib.Gather

/-!
# Transfers in any order

Chunks are built for a fetch in progress, of the bound bytes and in the number
of chunks the fetch began with (`buildArtifactChunks_iff`).  Delivered in any
order and any number of times they give the bytes back with the last one
(`accept_built`), and no untrusted chunks give any other bytes
(`complete_sound`).
-/

namespace Knowbee

open List ArtifactChunkConfig ArtifactTransferUseCase

/-! ## Lifecycles -/

/-- The lifecycles there are: new ones, restored ones, and those an event leads
to. -/
inductive ArtifactLifecycle.Made : ArtifactLifecycle → Prop where
  | new (binding : ArtifactBinding) : Made (.new binding)
  | restored {binding : ArtifactBinding} {revision : Nat} {state : ArtifactLifecycleState}
      {cleanupStatus : ArtifactCleanupStatus} {lifecycle : ArtifactLifecycle} :
      ArtifactLifecycle.restore binding revision state cleanupStatus = .ok lifecycle →
      Made lifecycle
  | applied {current lifecycle : ArtifactLifecycle} {event : ArtifactEvent} {previous : Nat} :
      Made current → applyArtifactEvent current event = .applied lifecycle previous →
      Made lifecycle

def ArtifactLifecycle.TransferValid (lifecycle : ArtifactLifecycle) : Prop :=
  ∀ transferId chunkCount atMs, lifecycle.state = .fetching transferId chunkCount atMs →
    validTransfer transferId chunkCount = true

lemma ArtifactLifecycle.Made.transferValid {lifecycle : ArtifactLifecycle}
    (made : lifecycle.Made) : lifecycle.TransferValid := by
  induction made with
  | new binding => exact nofun
  | @restored binding revision state cleanupStatus lifecycle restored =>
    obtain ⟨rfl, restorable, -⟩ := restore_eq_ok.mp restored
    intro transferId chunkCount atMs fetching
    simp only at fetching
    simp only [fetching, stateRestorable, Bool.and_eq_true] at restorable
    exact restorable.1.2
  | applied _ transition valid =>
    obtain ⟨state, cleanupStatus, applies, own⟩ := applies_of_applied transition
    obtain ⟨rfl, -⟩ := transitionTo_applied own
    intro transferId chunkCount atMs fetching
    cases applies with
    | beginFetch _ transfer _ =>
      cases fetching
      exact transfer
    | cleanupCompleted => exact valid transferId chunkCount atMs fetching
    | chunksPublished => cases fetching
    | acknowledge => cases fetching
    | expire => cases fetching
    | cancel => cases fetching
    | fail => cases fetching

/-! ## What is built -/

/-- The chunk is one that `from_untrusted` lets through. -/
def ArtifactChunk.Checked (sha256 : Sha256) (chunk : ArtifactChunk) : Prop :=
  fromUntrusted sha256 chunk.header chunk.payload = .ok chunk

variable {header : ArtifactChunkHeader} {chunk : ArtifactChunk}

lemma ArtifactChunk.fromUntrusted_ok {sha256 : Sha256} {payload : List UInt8}
    (passed : fromUntrusted sha256 header payload = .ok chunk) :
    chunk = ⟨header, payload⟩ ∧ header.validate = .ok () ∧ payload.length = header.chunkSize ∧
      digest sha256 payload = header.payloadDigest := by
  unfold fromUntrusted at passed
  cases valid : header.validate with
  | error reason => simp [valid, bind, Except.bind] at passed
  | ok =>
    simp only [valid, bind, Except.bind] at passed
    split_ifs at passed with size named
    cases passed
    exact ⟨rfl, rfl, not_not.mp size, not_not.mp named⟩

lemma ArtifactChunk.checked_of_fromUntrusted {sha256 : Sha256} {payload : List UInt8}
    (passed : fromUntrusted sha256 header payload = .ok chunk) :
    chunk.Checked sha256 := by
  obtain ⟨rfl, -⟩ := fromUntrusted_ok passed
  exact passed

lemma ArtifactChunkHeader.validate_ok (valid : header.validate = .ok ()) :
    header.schemaVersion = artifactChunkSchemaVersion ∧
      (isBoundedIdentity header.transferId = true ∧ isArtifactRef header.artifactRef = true ∧
        isBoundedIdentity header.ownerRequesterId = true ∧
        isBoundedIdentity header.ownerRequestId = true ∧
        isSha256Digest header.payloadDigest = true ∧ isSha256Digest header.fullDigest = true) ∧
      header.index < header.count ∧ header.count ≤ maxChunkCount ∧ 0 < header.chunkSize ∧
      header.chunkSize ≤ maxChunkPayloadBytes ∧
      header.offset + header.chunkSize ≤ header.totalSize ∧ 0 < header.expiresAtMs := by
  unfold validate u64CheckedAdd at valid
  split_ifs at valid with word
  simp only at valid
  split_ifs at valid with invalid
  simp only [not_or, not_not, Bool.not_eq_true', Bool.not_eq_false, not_lt, not_le] at invalid
  obtain ⟨version, transfer, ref, requester, request, -, most, index, positive, size, -, fits, -,
    payload, full, expires⟩ := invalid
  exact ⟨version, ⟨transfer, ref, requester, request, payload, full⟩, index, most,
    Nat.pos_of_ne_zero positive, size, fits, expires⟩

section Built

variable (sha256 : Sha256) (binding : ArtifactBinding) (transferId : String) (count size : Nat)
  (bytes : List UInt8)

def builtChunk (index : Nat) : ArtifactChunk where
  header := {
    schemaVersion := artifactChunkSchemaVersion
    transferId
    __ := binding
    index
    count
    offset := index * size
    chunkSize := (chunkAt size bytes index).length
    payloadDigest := digest sha256 (chunkAt size bytes index)
  }
  payload := chunkAt size bytes index

variable {sha256 binding transferId count size bytes}

lemma buildArtifactChunk_eq {index : Nat}
    (built : buildArtifactChunk sha256 binding transferId count size index
      (chunkAt size bytes index) = .ok chunk) :
    chunk = builtChunk sha256 binding transferId count size bytes index ∧
      chunk.Checked sha256 := by
  unfold buildArtifactChunk at built
  split_ifs at built
  exact ⟨(ArtifactChunk.fromUntrusted_ok built).1, ArtifactChunk.checked_of_fromUntrusted built⟩

end Built

lemma mapM_eq {α β Err : Type} {build : α → Except Err β} {items : List α} {all : List β}
    {expected : α → β} {good : β → Prop}
    (each : ∀ item built, build item = .ok built → built = expected item ∧ good built)
    (built : items.mapM build = .ok all) :
    all = items.map expected ∧ ∀ one ∈ all, good one := by
  induction items generalizing all with
  | nil =>
    cases built
    exact ⟨rfl, nofun⟩
  | cons item rest ih =>
    simp only [mapM_cons, bind, Except.bind] at built
    cases first : build item with
    | error err => simp [first] at built
    | ok one =>
      simp only [first] at built
      cases others : rest.mapM build with
      | error err => simp [others] at built
      | ok more =>
        simp only [others] at built
        cases built
        obtain ⟨rfl, holds⟩ := each item one first
        obtain ⟨rfl, hold⟩ := ih others
        refine ⟨rfl, fun other member => ?_⟩
        rcases mem_cons.mp member with rfl | later
        · exact holds
        · exact hold other later

/-- The chunks of a transfer: of the bound bytes, in the number the fetch began
with, and all of them checked. -/
structure BuiltChunks (sha256 : Sha256) (lifecycle : ArtifactLifecycle) (bytes : List UInt8)
    (config : ArtifactChunkConfig) (transferId : String) (count : Nat)
    (chunks : List ArtifactChunk) : Prop where
  fetching : ∃ startedAtMs, lifecycle.state = .fetching transferId count startedAtMs
  size : bytes.length = lifecycle.binding.totalSize
  full : digest sha256 bytes = lifecycle.binding.fullDigest
  counted : config.chunkCount bytes.length = .ok count
  each : chunks = (List.range count).map
    (builtChunk sha256 lifecycle.binding transferId count config.payloadBytes bytes)
  checked : ∀ chunk ∈ chunks, chunk.Checked sha256

section Build

variable {sha256 : Sha256} {lifecycle : ArtifactLifecycle} {bytes : List UInt8} {nowMs : Int}
  {config : ArtifactChunkConfig} {chunks : List ArtifactChunk}

lemma buildArtifactChunks_built
    (built : buildArtifactChunks sha256 lifecycle bytes nowMs config = .ok chunks) :
    (0 < nowMs ∧ nowMs < lifecycle.binding.expiresAtMs) ∧
      ∃ transferId count, BuiltChunks sha256 lifecycle bytes config transferId count chunks := by
  unfold buildArtifactChunks at built
  cases fetching : lifecycle.state with
  | fetching transferId count startedAtMs =>
    simp only [fetching] at built
    split_ifs at built with time size full
    cases counted : config.chunkCount bytes.length with
    | error reason => simp [counted, bind, Except.bind] at built
    | ok number =>
      simp only [counted, bind, Except.bind] at built
      split_ifs at built with same
      have same : number = count := not_not.mp same
      subst same
      obtain ⟨exact_count, -, -⟩ := chunkCount_ok counted
      rw [← exact_count] at built
      obtain ⟨each, checked⟩ := mapM_eq (fun _ _ one => buildArtifactChunk_eq one) built
      exact ⟨by omega, transferId, number, ⟨startedAtMs, fetching⟩, not_not.mp size,
        not_not.mp full, counted, each, checked⟩
  | _ => simp [fetching] at built

lemma buildArtifactChunks_iff (made : lifecycle.Made) :
    (∃ chunks, buildArtifactChunks sha256 lifecycle bytes nowMs config = .ok chunks) ↔
      (0 < nowMs ∧ nowMs < lifecycle.binding.expiresAtMs) ∧
        bytes.length = lifecycle.binding.totalSize ∧
        digest sha256 bytes = lifecycle.binding.fullDigest ∧
        ∃ transferId count startedAtMs, lifecycle.state = .fetching transferId count startedAtMs ∧
          config.chunkCount lifecycle.binding.totalSize = .ok count := by
  constructor
  · rintro ⟨chunks, built⟩
    obtain ⟨time, transferId, count, of⟩ := buildArtifactChunks_built built
    obtain ⟨startedAtMs, fetching⟩ := of.fetching
    exact ⟨time, of.size, of.full, transferId, count, startedAtMs, fetching, of.size ▸ of.counted⟩
  · rintro ⟨⟨positive, running⟩, size, full, transferId, count, startedAtMs, fetching, counted⟩
    exact buildArtifactChunks_ok fetching (made.transferValid _ _ _ fetching) positive running size
      full counted

end Build

/-! ## Assembling -/

lemma take_chunkAt (size : Nat) (bytes : List UInt8) (index : Nat) :
    bytes.take (index * size) ++ chunkAt size bytes index = bytes.take ((index + 1) * size) := by
  rw [chunkAt, Nat.succ_mul, take_add]

lemma ArtifactBinding.totalSize_le (binding : ArtifactBinding) :
    binding.totalSize ≤ maxArtifactBytes := by
  have valid := binding.valid
  simp only [ArtifactBindingFields.isValid, Bool.and_eq_true, decide_eq_true_eq] at valid
  exact valid.1.1.1.2

section Chunks

variable {sha256 : Sha256} {lifecycle : ArtifactLifecycle} {bytes : List UInt8}
  {config : ArtifactChunkConfig} {transferId : String} {count : Nat} {chunks : List ArtifactChunk}
  {index : Nat}

section

variable (built : BuiltChunks sha256 lifecycle bytes config transferId count chunks)
include built

lemma BuiltChunks.count_le : count ≤ maxChunkCount := (chunkCount_ok built.counted).2.2

lemma BuiltChunks.checked_index
    (below : index < count) : (builtChunk sha256 lifecycle.binding transferId count
      config.payloadBytes bytes index).Checked sha256 := by
  refine built.checked _ ?_
  rw [built.each]
  exact mem_map.mpr ⟨index, mem_range.mpr below, rfl⟩

lemma BuiltChunks.covers :
    bytes.length ≤ count * config.payloadBytes ∧
      ∀ index < count, index * config.payloadBytes ≤ bytes.length := by
  obtain ⟨exact_count, -, -⟩ := chunkCount_ok built.counted
  have positive : 0 < config.payloadBytes := config.valid.1
  constructor
  · have parts := Nat.div_add_mod (bytes.length + config.payloadBytes - 1) config.payloadBytes
    have rest := Nat.mod_lt (bytes.length + config.payloadBytes - 1) positive
    rw [exact_count, divCeil, Nat.mul_comm]
    omega
  · intro index below
    rw [exact_count] at below
    obtain ⟨-, -, fits⟩ := chunkAt_length positive below
    omega

lemma BuiltChunks.mem_iff : chunk ∈ chunks ↔ chunk.header.index < count ∧
      chunk = builtChunk sha256 lifecycle.binding transferId count config.payloadBytes bytes
        chunk.header.index := by
  rw [built.each, mem_map]
  constructor
  · rintro ⟨index, member, rfl⟩
    exact ⟨mem_range.mp member, rfl⟩
  · rintro ⟨below, same⟩
    exact ⟨chunk.header.index, mem_range.mpr below, same.symm⟩

lemma BuiltChunks.apart
    {chunk other : ArtifactChunk} (member : chunk ∈ chunks) (other_member : other ∈ chunks)
    (same : chunk.header.index = other.header.index) : chunk = other := by
  rw [(built.mem_iff.mp member).2, (built.mem_iff.mp other_member).2, same]

lemma BuiltChunks.nodup : chunks.Nodup := by
  rw [built.each]
  refine nodup_range.map fun index other same => ?_
  have headers := congrArg (fun chunk => chunk.header.index) same
  exact headers

lemma BuiltChunks.length : chunks.length = count := by
  rw [built.each, length_map, length_range]

end

end Chunks

namespace ArtifactChunkAssembler

section Gathering

variable {sha256 : Sha256} {lifecycle : ArtifactLifecycle} {bytes : List UInt8}
  {config : ArtifactChunkConfig} {transferId : String} {count : Nat} {chunks : List ArtifactChunk}
  {assembler : ArtifactChunkAssembler} {seen : Finset Nat} {index : Nat} {nowMs : Int}

/-- The assembler of the transfer has gathered the chunks of these indices. -/
structure Gathering (sha256 : Sha256) (lifecycle : ArtifactLifecycle) (bytes : List UInt8)
    (config : ArtifactChunkConfig) (transferId : String) (count : Nat) (seen : Finset Nat)
    (assembler : ArtifactChunkAssembler) : Prop where
  binding : assembler.binding = lifecycle.binding
  transfer : assembler.transferId = transferId
  total : assembler.count = count
  below : seen ⊆ Finset.range count
  holds : Gather.Holds
    (builtChunk sha256 lifecycle.binding transferId count config.payloadBytes bytes) seen
    assembler.chunks

lemma Gathering.received (gathering : Gathering sha256 lifecycle bytes config transferId count
    seen assembler) (most : count ≤ maxChunkCount) : assembler.received = seen.card := by
  have card := Finset.card_le_card gathering.below
  rw [Finset.card_range] at card
  rw [ArtifactChunkAssembler.received, gathering.holds.size]
  refine Nat.mod_eq_of_lt ?_
  simp only [maxChunkCount] at most
  omega

section

variable (built : BuiltChunks sha256 lifecycle bytes config transferId count chunks)
include built

section

variable
  (gathering : Gathering sha256 lifecycle bytes config transferId count (Finset.range count) assembler)

include gathering

lemma Gathering.reassembleFrom (left : Nat) :
    ∀ index, index + left = count →
      reassembleFrom sha256 assembler (List.range' index left)
        (bytes.take (index * config.payloadBytes))
        (bytes.take (index * config.payloadBytes)).length = .ok bytes := by
  obtain ⟨beyond, within⟩ := built.covers
  induction left with
  | zero =>
    rintro index rfl
    have all : bytes.take (index * config.payloadBytes) = bytes := take_of_length_le beyond
    rw [all]
    simp only [range'_zero, ArtifactChunkAssembler.reassembleFrom, gathering.binding,
      built.size, built.full, ne_eq, not_true_eq_false, or_self, if_false]
  | succ left ih =>
    intro index split
    have below : index < count := by omega
    have here := gathering.holds index
    rw [if_pos (Finset.mem_range.mpr below)] at here
    have offset : (bytes.take (index * config.payloadBytes)).length =
        index * config.payloadBytes := by
      rw [length_take]
      exact Nat.min_eq_left (within index below)
    have word : index * config.payloadBytes + (chunkAt config.payloadBytes bytes index).length ≤
        u64Max := by
      have fits := (ArtifactChunk.fromUntrusted_ok (built.checked_index below)).2.1
      have fits := (ArtifactChunkHeader.validate_ok fits).2.2.2.2.2.2.1
      have largest := lifecycle.binding.totalSize_le
      simp only [builtChunk] at fits
      simp only [maxArtifactBytes] at largest
      simp only [u64Max]
      omega
    have next := ih (index + 1) (by omega)
    rw [← take_chunkAt, length_append, offset] at next
    simp only [range'_succ, ArtifactChunkAssembler.reassembleFrom, here]
    simp only [builtChunk, offset, ne_eq, not_true_eq_false, if_false, u64CheckedAdd, if_pos word]
    exact next

lemma Gathering.reassemble : reassemble sha256 assembler = .ok bytes := by
  have all := gathering.reassembleFrom built count 0 (Nat.zero_add count)
  rw [Nat.zero_mul, take_zero] at all
  rw [ArtifactChunkAssembler.reassemble, gathering.total, range_eq_range']
  exact all

end

lemma Gathering.accept
    (gathering : Gathering sha256 lifecycle bytes config transferId count seen assembler)
    (below : index < count) (positive : 0 < nowMs) (running : nowMs < lifecycle.binding.expiresAtMs) :
    Gathering sha256 lifecycle bytes config transferId count (insert index seen)
        (assembler.accept sha256 (builtChunk sha256 lifecycle.binding transferId count
          config.payloadBytes bytes index) nowMs).1 ∧
      (assembler.accept sha256 (builtChunk sha256 lifecycle.binding transferId count
        config.payloadBytes bytes index) nowMs).2 =
        if index ∈ seen then .duplicate seen.card
        else if seen.card + 1 = count then .complete bytes
        else .accepted (seen.card + 1) := by
  generalize same : builtChunk sha256 lifecycle.binding transferId count config.payloadBytes bytes
    index = chunk
  have time : ¬(nowMs ≤ 0 ∨ assembler.binding.expiresAtMs ≤ nowMs) := by
    rw [gathering.binding]
    omega
  have transfer : ¬chunk.header.transferId ≠ assembler.transferId := by
    rw [← same, gathering.transfer]
    exact not_not.mpr rfl
  have bound : assembler.wrongBinding chunk.header = false := by
    simp [wrongBinding, ← same, builtChunk, gathering.binding, gathering.total, bne_self_eq_false,
      Bool.or_self]
  have named : chunk.header.index = index := by rw [← same]; rfl
  have here := gathering.holds index
  rw [same] at here
  have most := built.count_le
  simp only [ArtifactChunkAssembler.accept, if_neg time, if_neg transfer, bound, named,
    Bool.false_eq_true, if_false]
  by_cases again : index ∈ seen
  · rw [if_pos again] at here
    simp only [here, if_true, if_pos again, gathering.received most, Finset.insert_eq_of_mem again]
    exact ⟨gathering, trivial⟩
  · rw [if_neg again] at here
    simp only [here, if_neg again]
    have after : Gathering sha256 lifecycle bytes config transferId count (insert index seen)
        { assembler with chunks := assembler.chunks.insert index chunk } := by
      refine ⟨gathering.binding, gathering.transfer, gathering.total, ?_, ?_⟩
      · exact Finset.insert_subset (Finset.mem_range.mpr below) gathering.below
      · rw [← same]
        exact gathering.holds.insert index
    have more := after.received most
    rw [Finset.card_insert_of_notMem again] at more
    generalize { assembler with chunks := assembler.chunks.insert index chunk } = next
      at after more ⊢
    simp only [more, gathering.total]
    by_cases last : seen.card + 1 = count
    · have all := Gather.seen_eq_range after.below (by
        rw [Finset.card_insert_of_notMem again, last])
      rw [all] at after ⊢
      have complete := after.reassemble built
      simp only [last, ne_eq, not_true_eq_false, if_false, if_true, complete]
      exact ⟨after, trivial⟩
    · simp only [ne_eq, last, not_false_eq_true, if_true, if_false]
      exact ⟨after, trivial⟩

end

def InTime (lifecycle : ArtifactLifecycle) (chunks : List ArtifactChunk) (delivery : Delivery) :
    Prop :=
  delivery.1 ∈ chunks ∧ 0 < delivery.2 ∧ delivery.2 < lifecycle.binding.expiresAtMs

def indices (deliveries : List Delivery) : Finset Nat :=
  (deliveries.map fun delivery => delivery.1.header.index).toFinset

variable {deliveries : List Delivery}

lemma Gathering.run (built : BuiltChunks sha256 lifecycle bytes config transferId count chunks)
    (gathering : Gathering sha256 lifecycle bytes config transferId count seen assembler)
    (all : ∀ delivery ∈ deliveries, InTime lifecycle chunks delivery) :
    Gathering sha256 lifecycle bytes config transferId count (seen ∪ indices deliveries)
      (assembler.run sha256 deliveries) := by
  induction deliveries generalizing assembler seen with
  | nil =>
    simp only [indices, map_nil, toFinset_nil, Finset.union_empty]
    exact gathering
  | cons delivery rest ih =>
    obtain ⟨chunk, nowMs⟩ := delivery
    obtain ⟨member, positive, running⟩ := all _ mem_cons_self
    obtain ⟨below, same⟩ := built.mem_iff.mp member
    have next := (gathering.accept built below positive running).1
    rw [← same] at next
    have after := ih next fun other later => all other (mem_cons_of_mem _ later)
    have joined : seen ∪ indices ((chunk, nowMs) :: rest) =
        insert chunk.header.index seen ∪ indices rest := by
      simp [indices, map_cons, toFinset_cons, Finset.union_insert, Finset.insert_union]
    rw [joined]
    exact after

lemma indices_eq (built : BuiltChunks sha256 lifecycle bytes config transferId count chunks)
    (all : ∀ delivery ∈ deliveries, InTime lifecycle chunks delivery) :
    (indices deliveries).card = (deliveries.map Prod.fst).toFinset.card ∧
      ∀ chunk ∈ chunks, chunk.header.index ∈ indices deliveries ↔
        chunk ∈ deliveries.map Prod.fst := by
  constructor
  · have image : indices deliveries =
        (deliveries.map Prod.fst).toFinset.image fun chunk => chunk.header.index := by
      ext index
      simp [indices]
    rw [image]
    refine Finset.card_image_of_injOn fun chunk member other other_member same => ?_
    simp only [Finset.mem_coe, mem_toFinset, mem_map] at member other_member
    obtain ⟨delivery, delivered, rfl⟩ := member
    obtain ⟨delivery', delivered', rfl⟩ := other_member
    exact built.apart (all _ delivered).1 (all _ delivered').1 same
  · intro chunk member
    simp only [indices, mem_toFinset, mem_map]
    constructor
    · rintro ⟨delivery, delivered, same⟩
      exact ⟨delivery, delivered, built.apart (all _ delivered).1 member same⟩
    · rintro ⟨delivery, delivered, rfl⟩
      exact ⟨delivery, delivered, rfl⟩

/-- What the assembler answers to a chunk of a transfer of so many chunks after
others of it. -/
def expectedReceive (bytes : List UInt8) (count : Nat) (before : List ArtifactChunk)
    (chunk : ArtifactChunk) : ArtifactChunkReceive :=
  if chunk ∈ before then .duplicate before.toFinset.card
  else if before.toFinset.card + 1 = count then .complete bytes
  else .accepted (before.toFinset.card + 1)

lemma new_gathering (built : BuiltChunks sha256 lifecycle bytes config transferId count chunks) :
    ∃ assembler, new lifecycle.binding transferId count = .ok assembler ∧
      Gathering sha256 lifecycle bytes config transferId count ∅ assembler := by
  obtain ⟨-, positive, most⟩ := chunkCount_ok built.counted
  have checked := (ArtifactChunk.fromUntrusted_ok (built.checked_index positive)).2.1
  have identity : isBoundedIdentity transferId = true :=
    (ArtifactChunkHeader.validate_ok checked).2.1.1
  refine ⟨⟨lifecycle.binding, transferId, count, .empty⟩, ?_, rfl, rfl, rfl,
    Finset.empty_subset _, Gather.holds_empty _⟩
  rw [ArtifactChunkAssembler.new, if_neg]
  rw [identity]
  simp only [Bool.not_true, Bool.false_eq_true, false_or]
  omega

lemma Gathering.receives
    (built : BuiltChunks sha256 lifecycle bytes config transferId count chunks)
    (started : Gathering sha256 lifecycle bytes config transferId count ∅ assembler)
    {delivery : Delivery} (all : ∀ one ∈ delivery :: deliveries, InTime lifecycle chunks one) :
    ((assembler.run sha256 deliveries).accept sha256 delivery.1 delivery.2).2 =
      expectedReceive bytes count (deliveries.map Prod.fst) delivery.1 := by
  obtain ⟨chunk, nowMs⟩ := delivery
  have earlier : ∀ one ∈ deliveries, InTime lifecycle chunks one :=
    fun one member => all one (mem_cons_of_mem _ member)
  obtain ⟨member, positive, running⟩ := all _ mem_cons_self
  obtain ⟨below, same⟩ := built.mem_iff.mp member
  have after := started.run built earlier
  rw [Finset.empty_union] at after
  have answer := (after.accept built below positive running).2
  rw [← same] at answer
  obtain ⟨card, known⟩ := indices_eq built earlier
  rw [answer, card, expectedReceive]
  simp only [known chunk member]

end Gathering

/-! ## Untrusted chunks -/

section Untrusted

variable {sha256 : Sha256} {assembler : ArtifactChunkAssembler}

def Sound (sha256 : Sha256) (assembler : ArtifactChunkAssembler) : Prop :=
  ∀ index chunk, assembler.chunks.get? index = some chunk → chunk.Checked sha256

lemma reassembleFrom_ok (sound : assembler.Sound sha256) {left : List Nat} :
    ∀ {before bytes : List UInt8} {offset : Nat}, before.length = offset →
      reassembleFrom sha256 assembler left before offset = .ok bytes →
      bytes.length = assembler.binding.totalSize ∧
        digest sha256 bytes = assembler.binding.fullDigest := by
  induction left with
  | nil =>
    intro before bytes offset length ended
    simp only [reassembleFrom] at ended
    split_ifs at ended with broken
    cases ended
    simp only [not_or, not_not] at broken
    exact ⟨length.trans broken.1, broken.2⟩
  | cons index rest ih =>
    intro before bytes offset length ended
    simp only [reassembleFrom] at ended
    cases found : assembler.chunks.get? index with
    | none => simp [found] at ended
    | some chunk =>
      simp only [found, u64CheckedAdd] at ended
      split_ifs at ended with place word
      have size := (ArtifactChunk.fromUntrusted_ok (sound index chunk found)).2.2.1
      exact ih (by rw [length_append, length, size]) ended

/-- A delivery of a checked chunk gathers no other, and completes with nothing
but bytes of the size and the digest that the header names. -/
lemma accept_sound (sound : assembler.Sound sha256)
    (checked : chunk.Checked sha256) (nowMs : Int) :
    (assembler.accept sha256 chunk nowMs).1.Sound sha256 ∧
      ∀ bytes, (assembler.accept sha256 chunk nowMs).2 = .complete bytes →
        bytes.length = chunk.header.totalSize ∧ digest sha256 bytes = chunk.header.fullDigest := by
  have next : Sound sha256 { assembler with
      chunks := assembler.chunks.insert chunk.header.index chunk } := by
    intro index other found
    simp only [SortedMap.get?_insert] at found
    split_ifs at found
    · cases found
      exact checked
    · exact sound index other found
  unfold ArtifactChunkAssembler.accept
  by_cases time : nowMs ≤ 0 ∨ assembler.binding.expiresAtMs ≤ nowMs
  · simp only [if_pos time]
    exact ⟨sound, nofun⟩
  simp only [if_neg time]
  by_cases transfer : chunk.header.transferId ≠ assembler.transferId
  · simp only [if_pos transfer]
    exact ⟨sound, nofun⟩
  simp only [if_neg transfer]
  cases wrong : assembler.wrongBinding chunk.header with
  | true => exact ⟨sound, nofun⟩
  | false =>
    simp only [Bool.false_eq_true, if_false]
    cases found : assembler.chunks.get? chunk.header.index with
    | some existing =>
      by_cases same : existing = chunk
      · simp only [if_pos same]
        exact ⟨sound, nofun⟩
      · simp only [if_neg same]
        exact ⟨sound, nofun⟩
    | none =>
      split_ifs with more
      · exact ⟨next, nofun⟩
      · cases ended : reassemble sha256 { assembler with
            chunks := assembler.chunks.insert chunk.header.index chunk } with
        | error reason => exact ⟨next, nofun⟩
        | ok all =>
          refine ⟨next, fun bytes complete => ?_⟩
          cases complete
          obtain ⟨size, full⟩ := reassembleFrom_ok next rfl ended
          simp only [wrongBinding, Bool.or_eq_false_iff, bne_eq_false_iff_eq] at wrong
          obtain ⟨⟨⟨⟨-, same_full⟩, same_size⟩, -⟩, -⟩ := wrong
          exact ⟨size.trans same_size.symm, full.trans same_full.symm⟩

lemma Sound.run (sound : assembler.Sound sha256) {deliveries : List Delivery}
    (checked : ∀ delivery ∈ deliveries, delivery.1.Checked sha256) :
    (assembler.run sha256 deliveries).Sound sha256 := by
  induction deliveries generalizing assembler with
  | nil => exact sound
  | cons delivery rest ih =>
    have next := (accept_sound sound (checked delivery mem_cons_self) delivery.2).1
    exact ih next fun other later => checked other (mem_cons_of_mem _ later)

end Untrusted

/-! ## Round trips -/

/-- Chunks are built exactly for a fetch in progress; they give the bytes back
with the last of them, in whatever order they are delivered; and whatever
untrusted chunks are delivered, the bytes that complete them have the size and
the digest of their headers. -/
theorem transfer_round_trip (sha256 : Sha256) :
    (∀ (lifecycle : ArtifactLifecycle) (bytes : List UInt8) (nowMs : Int)
        (config : ArtifactChunkConfig), lifecycle.Made →
      ((∃ chunks, buildArtifactChunks sha256 lifecycle bytes nowMs config = .ok chunks) ↔
        (0 < nowMs ∧ nowMs < lifecycle.binding.expiresAtMs) ∧
          bytes.length = lifecycle.binding.totalSize ∧
          digest sha256 bytes = lifecycle.binding.fullDigest ∧
          ∃ transferId count startedAtMs,
            lifecycle.state = .fetching transferId count startedAtMs ∧
            config.chunkCount lifecycle.binding.totalSize = .ok count)) ∧
    (∀ (lifecycle : ArtifactLifecycle) (bytes : List UInt8) (nowMs : Int)
        (config : ArtifactChunkConfig) (chunks : List ArtifactChunk),
      buildArtifactChunks sha256 lifecycle bytes nowMs config = .ok chunks →
      chunks.Nodup ∧ ∃ transferId startedAtMs assembler,
        lifecycle.state = .fetching transferId chunks.length startedAtMs ∧
        new lifecycle.binding transferId chunks.length = .ok assembler ∧
        ∀ (deliveries : List Delivery) (delivery : Delivery),
          (∀ one ∈ delivery :: deliveries, InTime lifecycle chunks one) →
          ((assembler.run sha256 deliveries).accept sha256 delivery.1 delivery.2).2 =
            expectedReceive bytes chunks.length (deliveries.map Prod.fst) delivery.1) ∧
    ∀ (binding : ArtifactBinding) (transferId : String) (count : Nat)
        (assembler : ArtifactChunkAssembler), new binding transferId count = .ok assembler →
      ∀ (deliveries : List Delivery) (delivery : Delivery),
        (∀ one ∈ delivery :: deliveries, one.1.Checked sha256) → ∀ bytes,
        ((assembler.run sha256 deliveries).accept sha256 delivery.1 delivery.2).2 =
            .complete bytes →
          bytes.length = delivery.1.header.totalSize ∧
            digest sha256 bytes = delivery.1.header.fullDigest := by
  refine ⟨fun lifecycle bytes nowMs config made => buildArtifactChunks_iff made, ?_, ?_⟩
  · intro lifecycle bytes nowMs config chunks ok
    obtain ⟨-, transferId, count, built⟩ := buildArtifactChunks_built ok
    obtain ⟨startedAtMs, fetching⟩ := built.fetching
    obtain ⟨assembler, started, gathering⟩ := new_gathering built
    have length := built.length
    subst length
    exact ⟨built.nodup, transferId, startedAtMs, assembler, fetching, started,
      fun deliveries delivery all => gathering.receives built all⟩
  · intro binding transferId count assembler started deliveries delivery checked
    have sound : assembler.Sound sha256 := by
      unfold new at started
      split_ifs at started
      cases started
      exact fun index chunk found => nomatch found
    have later := sound.run fun one member => checked one (mem_cons_of_mem _ member)
    exact (accept_sound later (checked delivery mem_cons_self) delivery.2).2

open DurableArtifactLifecycleRepository (sampleBinding) in
/-- A chunk size with another number of chunks than the fetch began with is
refused. -/
theorem other_chunk_size_refused :
    ¬∀ (lifecycle : ArtifactLifecycle) (bytes : List UInt8) (nowMs : Int)
        (config : ArtifactChunkConfig), lifecycle.Made →
      (∃ transferId count startedAtMs,
        lifecycle.state = .fetching transferId count startedAtMs) →
      bytes.length = lifecycle.binding.totalSize →
      digest sampleSha256 bytes = lifecycle.binding.fullDigest →
      0 < nowMs → nowMs < lifecycle.binding.expiresAtMs →
      ∃ chunks, buildArtifactChunks sampleSha256 lifecycle bytes nowMs
        config = .ok chunks := by
  intro always
  have made : ArtifactLifecycle.Made
      ⟨sampleBinding, 1, .fetching "transfer-1" 1 1000000, .pending⟩ :=
    .restored (by decide : ArtifactLifecycle.restore sampleBinding 1
      (.fetching "transfer-1" 1 1000000) .pending = .ok _)
  obtain ⟨chunks, built⟩ := always _ sampleBytes 1000002 ⟨1, by decide⟩ made
    ⟨_, _, _, rfl⟩ rfl rfl (by decide) (by decide)
  cases built

end ArtifactChunkAssembler

end Knowbee
