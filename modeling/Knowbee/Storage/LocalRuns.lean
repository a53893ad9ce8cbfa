import Knowbee.Storage.Local

/-!
# Runs of the local storage file

Between two rollbacks the file only moves forward, one revision with each swap, so a swap that is
answered as written replaced exactly what its client had last seen at the expected revision
(`swap_replaces_seen`).
-/

namespace Knowbee

open List Function

namespace AtomicLocalStorage

/-! ## Envelopes -/

lemma hexValue_hexDigit (value : Nat) (small : value < 16) :
    hexValue (hexDigit value) = value ∧ isAsciiHexdigit (hexDigit value) = true := by
  have all : ∀ value < 16, hexValue (hexDigit value) = value ∧
      isAsciiHexdigit (hexDigit value) = true := by decide
  exact all value small

lemma decodeHex_encodeHex (bytes : Entry) : decodeHex (encodeHex bytes) = some bytes := by
  rw [decodeHex, encodeHex, String.toList_ofList]
  induction bytes with
  | nil => rfl
  | cons byte rest ih =>
    have word := byte.toNat_lt
    obtain ⟨high, high_digit⟩ := hexValue_hexDigit (byte.toNat / 16) (by omega)
    obtain ⟨low, low_digit⟩ := hexValue_hexDigit (byte.toNat % 16) (by omega)
    have back : UInt8.ofNat (byte.toNat / 16 * 16 + byte.toNat % 16) = byte := by
      rw [Nat.div_add_mod']
      exact UInt8.ofNat_toNat
    simp only [flatMap_cons, cons_append, nil_append, decodeHexPairs, high_digit,
      low_digit, Bool.and_self, if_true, high, low, back, ih, Option.map_some]

lemma mapM_decodeHex (entries : List Entry) :
    (entries.map encodeHex).mapM decodeHex = some entries := by
  induction entries with
  | nil => rfl
  | cons entry rest ih => simp [decodeHex_encodeHex, ih]

section Runs

variable {Raw : Type} {codec : EnvelopeCodec Raw} {sha256 : Sha256} {maxFileBytes : Nat}

lemma validate_encodeEnvelope {revision : Nat} {entries : List Entry} {encoded : Raw}
    (positive : revision ≠ 0) (written : encodeEnvelope codec sha256 revision entries = .ok encoded)
    (fits : codec.length encoded ≤ maxFileBytes) :
    validateEnvelopeBytes codec sha256 maxFileBytes encoded = .ok (revision, entries) := by
  simp only [encodeEnvelope] at written
  split at written
  · cases written
  · next bytes printed =>
    cases written
    have probed := codec.probe_print printed
    have parsed := codec.parse_print printed
    simp only [validateEnvelopeBytes, not_lt.mpr fits, if_false, probed, parsed, positive,
      ne_eq, not_true_eq_false, or_self, mapM_decodeHex]

/-! ## The invariant -/

/-- What a client saw is still there, or has been replaced by a later
revision. -/
def Sighting.Before (sighting : Sighting) (now : Nat × Option (List Entry)) : Prop :=
  sighting.revision < now.1 ∨ (sighting.revision, sighting.entries) = now

/-- The client saw nothing else at the revision `expected`. -/
def SawOnly (state : State Raw) (client expected : Nat) (entries : Option (List Entry)) : Prop :=
  ∀ sighting ∈ (state.clients client).seen, sighting.epoch = state.epoch →
    sighting.revision = expected → sighting.entries = entries

/-- What a client at work can rely on. -/
def PhaseHolds (codec : EnvelopeCodec Raw) (sha256 : Sha256) (maxFileBytes : Nat)
    (state : State Raw) (client : Nat) : Prop :=
  match (state.clients client).phase with
  | .swapReady expected entries encoded =>
    (∃ current, stored codec sha256 maxFileBytes state = some (expected, current)) ∧
      validateEnvelopeBytes codec sha256 maxFileBytes encoded = .ok (expected + 1, entries)
  | .swapRenamed expected entries replaced =>
    stored codec sha256 maxFileBytes state = some (expected + 1, some entries) ∧
      replaced.1 = expected ∧ SawOnly state client expected replaced.2
  | _ => True

/-- Nobody but the holder of the lock is at work, and all sightings since the
file was put back agree with each other and with the file. -/
structure Consistent (codec : EnvelopeCodec Raw) (sha256 : Sha256) (maxFileBytes : Nat)
    (state : State Raw) : Prop where
  holder (client : Nat) : state.lock = some client ∨ ∃ seen, state.clients client = ⟨.idle, seen⟩
  phase (client : Nat) : PhaseHolds codec sha256 maxFileBytes state client
  past (client : Nat) (sighting : Sighting) : sighting ∈ (state.clients client).seen →
    sighting.epoch ≤ state.epoch
  present (client : Nat) (sighting : Sighting) : sighting ∈ (state.clients client).seen →
    sighting.epoch = state.epoch →
    ∃ now, stored codec sha256 maxFileBytes state = some now ∧ sighting.Before now

/-- One event leaves what is stored, moves it by one revision, or puts back an
older file. -/
inductive Moved (codec : EnvelopeCodec Raw) (sha256 : Sha256) (maxFileBytes : Nat)
    (before after : State Raw) : Prop where
  | same : after.epoch = before.epoch →
      stored codec sha256 maxFileBytes after = stored codec sha256 maxFileBytes before →
      Moved codec sha256 maxFileBytes before after
  | next {revision : Nat} {current : Option (List Entry)} {entries : List Entry} :
      after.epoch = before.epoch →
      stored codec sha256 maxFileBytes before = some (revision, current) →
      stored codec sha256 maxFileBytes after = some (revision + 1, some entries) →
      Moved codec sha256 maxFileBytes before after
  | putBack : before.epoch < after.epoch → Moved codec sha256 maxFileBytes before after

/-! ## Steps -/

section Keep

variable {state after : State Raw} {client other : Nat}

lemma setPhase_clients (state : State Raw) (client other : Nat) (phase : Phase Raw) :
    (state.setPhase client phase).clients other =
      if other = client then { state.clients client with phase } else state.clients other := by
  simp [State.setPhase, update_apply]

lemma Consistent.alone (consistent : Consistent codec sha256 maxFileBytes state)
    (held : state.lock = some client) (apart : other ≠ client) :
    ∃ seen, state.clients other = ⟨.idle, seen⟩ := by
  rcases consistent.holder other with same | idle
  · exact absurd (Option.some.inj (same.symm.trans held)) apart
  · exact idle

lemma Consistent.holds (consistent : Consistent codec sha256 maxFileBytes state)
    (busy : (state.clients client).phase ≠ .idle) : state.lock = some client := by
  rcases consistent.holder client with held | ⟨seen, idle⟩
  · exact held
  · rw [idle] at busy
    exact absurd rfl busy

lemma Consistent.keep (client : Nat) (consistent : Consistent codec sha256 maxFileBytes state)
    (epoch : after.epoch = state.epoch)
    (same : stored codec sha256 maxFileBytes after = stored codec sha256 maxFileBytes state)
    (others : ∀ other, other ≠ client → after.clients other = state.clients other)
    (holder : ∀ other, after.lock = some other ∨ ∃ seen, after.clients other = ⟨.idle, seen⟩)
    (phase : PhaseHolds codec sha256 maxFileBytes after client)
    (seen : ∀ sighting ∈ (after.clients client).seen, sighting ∈ (state.clients client).seen ∨
      sighting.epoch = state.epoch ∧
        stored codec sha256 maxFileBytes state = some (sighting.revision, sighting.entries)) :
    Consistent codec sha256 maxFileBytes after := by
  have old other sighting
      (member : sighting ∈ (after.clients other).seen) :
      sighting ∈ (state.clients other).seen ∨ sighting.epoch = state.epoch ∧
        stored codec sha256 maxFileBytes state = some (sighting.revision, sighting.entries) := by
    by_cases own : other = client
    · subst own
      exact seen sighting member
    · rw [others other own] at member
      exact .inl member
  refine ⟨holder, fun other => ?_, fun other sighting member => ?_,
    fun other sighting member now => ?_⟩
  · by_cases own : other = client
    · subst own
      exact phase
    · have before := consistent.phase other
      unfold PhaseHolds SawOnly at before ⊢
      rw [others other own, epoch, same]
      exact before
  · rw [epoch]
    rcases old other sighting member with before | ⟨now, -⟩
    · exact consistent.past other sighting before
    · exact now.le
  · rw [epoch] at now
    rw [same]
    rcases old other sighting member with before | ⟨-, current⟩
    · exact consistent.present other sighting before now
    · exact ⟨_, current, .inr rfl⟩

lemma Consistent.congr (consistent : Consistent codec sha256 maxFileBytes state)
    (file : after.file = state.file) (clients : after.clients = state.clients)
    (lock : after.lock = state.lock) (epoch : after.epoch = state.epoch) :
    Consistent codec sha256 maxFileBytes after := by
  obtain ⟨holder, phase, past, present⟩ := consistent
  refine ⟨?_, fun other => ?_, ?_, ?_⟩
  · rw [lock, clients]
    exact holder
  · have before := phase other
    simp only [PhaseHolds, SawOnly, stored, clients, epoch, file] at before ⊢
    exact before
  · rw [clients, epoch]
    exact past
  · simp only [clients, epoch, stored, file]
    exact present

lemma Consistent.setPhase (consistent : Consistent codec sha256 maxFileBytes state)
    (held : state.lock = some client) {phase : Phase Raw}
    (holds : PhaseHolds codec sha256 maxFileBytes (state.setPhase client phase) client) :
    Consistent codec sha256 maxFileBytes (state.setPhase client phase) := by
  refine consistent.keep client rfl rfl (fun other apart => ?_) (fun other => ?_) holds
    (fun sighting member => .inl ?_)
  · rw [setPhase_clients, if_neg apart]
  · by_cases own : other = client
    · exact .inl (own ▸ held)
    · obtain ⟨seen, idle⟩ := consistent.alone held own
      exact .inr ⟨seen, by rw [setPhase_clients, if_neg own, idle]⟩
  · rw [setPhase_clients, if_pos rfl] at member
    exact member

lemma phaseHolds_idle {seen : List Sighting} (idle : state.clients client = ⟨.idle, seen⟩) :
    PhaseHolds codec sha256 maxFileBytes state client := by
  simp [PhaseHolds, idle]

lemma release_clients (state : State Raw) (client other : Nat) :
    (state.release client).clients other =
      if other = client then { state.clients client with phase := .idle }
      else state.clients other := setPhase_clients state client other .idle

section

variable (consistent : Consistent codec sha256 maxFileBytes state)
include consistent

lemma Consistent.release (held : state.lock = some client) :
    Consistent codec sha256 maxFileBytes (state.release client) := by
  have own : (state.release client).clients client = ⟨.idle, (state.clients client).seen⟩ := by
    rw [release_clients, if_pos rfl]
  refine consistent.keep client rfl rfl (fun other apart => ?_) (fun other => .inr ?_)
    (phaseHolds_idle own) (fun sighting member => .inl ?_)
  · rw [release_clients, if_neg apart]
  · by_cases same : other = client
    · exact ⟨(state.clients client).seen, by rw [same, own]⟩
    · obtain ⟨seen, idle⟩ := consistent.alone held same
      exact ⟨seen, by rw [release_clients, if_neg same, idle]⟩
  · rw [own] at member
    exact member

lemma Consistent.see {revision : Nat} {entries : Option (List Entry)}
    (current : stored codec sha256 maxFileBytes state = some (revision, entries))
    (idle : PhaseHolds codec sha256 maxFileBytes (state.see client revision entries) client) :
    Consistent codec sha256 maxFileBytes (state.see client revision entries) := by
  refine consistent.keep client rfl rfl (fun other apart => ?_) (fun other => ?_) idle
    (fun sighting member => ?_)
  · simp [State.see, update_of_ne apart]
  · rcases consistent.holder other with held | ⟨seen, before⟩
    · exact .inl held
    · by_cases own : other = client
      · subst own
        exact .inr ⟨⟨state.epoch, revision, entries⟩ :: seen, by simp [State.see, before]⟩
      · exact .inr ⟨seen, by simp [State.see, update_of_ne own, before]⟩
  · simp only [State.see, update_self, mem_cons] at member
    rcases member with rfl | old
    · exact .inr ⟨rfl, current⟩
    · exact .inl old

lemma Consistent.moved {revision : Nat} {current : Option (List Entry)} {entries : List Entry}
    (before : stored codec sha256 maxFileBytes state = some (revision, current))
    (epoch : after.epoch = state.epoch)
    (next : stored codec sha256 maxFileBytes after = some (revision + 1, some entries))
    (seen : ∀ other, (after.clients other).seen = (state.clients other).seen)
    (alone : ∀ other, other ≠ client → ∃ seen, after.clients other = ⟨.idle, seen⟩)
    (held : after.lock = some client)
    (phase : PhaseHolds codec sha256 maxFileBytes after client) :
    Consistent codec sha256 maxFileBytes after := by
  refine ⟨fun other => ?_, fun other => ?_, fun other sighting member => ?_,
    fun other sighting member now => ?_⟩
  · by_cases own : other = client
    · exact .inl (own ▸ held)
    · exact .inr (alone other own)
  · by_cases own : other = client
    · exact own ▸ phase
    · obtain ⟨seen, idle⟩ := alone other own
      exact phaseHolds_idle idle
  · rw [seen] at member
    rw [epoch]
    exact consistent.past other sighting member
  · rw [seen] at member
    rw [epoch] at now
    obtain ⟨current', same, earlier⟩ := consistent.present other sighting member now
    cases before.symm.trans same
    refine ⟨_, next, .inl ?_⟩
    rcases earlier with less | equal
    · exact Nat.lt_succ_of_lt less
    · cases equal
      exact Nat.lt_succ_self _

lemma Consistent.putBack (epoch : after.epoch = state.epoch + 1)
    (seen : ∀ other sighting, sighting ∈ (after.clients other).seen →
      sighting ∈ (state.clients other).seen)
    (holder : ∀ other, after.lock = some other ∨ ∃ seen, after.clients other = ⟨.idle, seen⟩)
    (phase : ∀ other, PhaseHolds codec sha256 maxFileBytes after other) :
    Consistent codec sha256 maxFileBytes after := by
  refine ⟨holder, phase, fun other sighting member => ?_, fun other sighting member now => ?_⟩
  · have past := consistent.past other sighting (seen other sighting member)
    omega
  · have past := consistent.past other sighting (seen other sighting member)
    omega

end

end Keep

section Step

variable {state : State Raw} {client : Nat}

/-- A step keeps the invariant, and moves the file as it may. -/
abbrev Steps (codec : EnvelopeCodec Raw) (sha256 : Sha256) (maxFileBytes : Nat)
    (before after : State Raw) : Prop :=
  Consistent codec sha256 maxFileBytes after ∧ Moved codec sha256 maxFileBytes before after

section

variable (consistent : Consistent codec sha256 maxFileBytes state)
include consistent

lemma Consistent.released (held : state.lock = some client) :
    Steps codec sha256 maxFileBytes state (state.release client) :=
  ⟨consistent.release held, .same rfl rfl⟩

lemma Consistent.read (idle : (state.clients client).phase = .idle) (readable : Bool) :
    Steps codec sha256 maxFileBytes state
      (AtomicLocalStorage.read codec sha256 maxFileBytes state client readable).1 := by
  have phase revision entries :
      PhaseHolds codec sha256 maxFileBytes (state.see client revision entries) client := by
    simp [PhaseHolds, State.see, update_self, idle]
  unfold AtomicLocalStorage.read
  split
  · next revision current => exact ⟨consistent.see current (phase _ _), .same rfl rfl⟩
  · next revision entries current => exact ⟨consistent.see current (phase _ _), .same rfl rfl⟩
  · exact ⟨consistent, .same rfl rfl⟩

lemma Consistent.take (free : state.lock = none) (call : Call) :
    Steps codec sha256 maxFileBytes state
      { state.setPhase client (.locked call) with lock := some client } := by
  refine ⟨consistent.keep client rfl rfl (fun other apart => ?_) (fun other => ?_) ?_
    (fun sighting member => .inl ?_), .same rfl rfl⟩
  · exact (setPhase_clients ..).trans (if_neg apart)
  · by_cases own : other = client
    · exact .inl (own ▸ rfl)
    · rcases consistent.holder other with held | ⟨seen, idle⟩
      · rw [free] at held
        cases held
      · exact .inr ⟨seen, ((setPhase_clients ..).trans (if_neg own)).trans idle⟩
  · have own := (setPhase_clients state client client (.locked call)).trans (if_pos rfl)
    simp [PhaseHolds, own]
  · simp only [setPhase_clients, if_true] at member
    exact member

lemma Consistent.start (call : Call) :
    Steps codec sha256 maxFileBytes state
      (AtomicLocalStorage.start maxFileBytes state client call).1 := by
  have same : Steps codec sha256 maxFileBytes state state := ⟨consistent, .same rfl rfl⟩
  unfold AtomicLocalStorage.start
  cases lock : state.lock with
  | some holder =>
    cases call with
    | compareAndSwap expected entries =>
      simp only [Option.isSome_some, if_true]
      split_ifs
      · exact same
      · exact same
    | createBackup name => exact same
    | rollbackFromBackup name => exact same
  | none =>
    cases call with
    | compareAndSwap expected entries =>
      simp only [Option.isSome_none, Bool.false_eq_true, if_false]
      split_ifs
      · exact same
      · exact consistent.take lock _
    | createBackup name => exact consistent.take lock _
    | rollbackFromBackup name => exact consistent.take lock _

lemma Consistent.checkSwap
    (held : state.lock = some client) (expected : Nat) (entries : List Entry) (succeeds : Bool) :
    Steps codec sha256 maxFileBytes state (AtomicLocalStorage.checkSwap codec sha256 maxFileBytes
      state client expected entries succeeds).1 := by
  unfold AtomicLocalStorage.checkSwap
  split
  · next revision current now =>
    by_cases other : revision ≠ expected
    · rw [if_pos other]
      exact consistent.released held
    rw [if_neg other]
    by_cases overflow : u64Max < expected + 1
    · rw [if_pos overflow]
      exact consistent.released held
    rw [if_neg overflow]
    have same : revision = expected := not_not.mp other
    subst same
    cases written : encodeEnvelope codec sha256 (revision + 1) entries with
    | error reason => exact consistent.released held
    | ok encoded =>
      simp only
      by_cases large : maxFileBytes < codec.length encoded
      · rw [if_pos large]
        exact consistent.released held
      · rw [if_neg large]
        refine ⟨consistent.setPhase held ?_, .same rfl rfl⟩
        have own := setPhase_clients state client client (.swapReady revision entries encoded)
        rw [if_pos rfl] at own
        simp only [PhaseHolds, own]
        exact ⟨⟨current, now⟩,
          validate_encodeEnvelope (Nat.succ_ne_zero _) written (not_lt.mp large)⟩
  · exact consistent.released held

lemma Consistent.checkBackup (held : state.lock = some client) (name : String) (succeeds : Bool) :
    Steps codec sha256 maxFileBytes state (AtomicLocalStorage.checkBackup codec sha256
      maxFileBytes state client name succeeds).1 := by
  unfold AtomicLocalStorage.checkBackup
  split_ifs
  · exact consistent.released held
  split
  · exact consistent.released held
  · next bytes _ =>
    cases validateEnvelopeBytes codec sha256 maxFileBytes bytes with
    | error reason => exact consistent.released held
    | ok current =>
      refine ⟨consistent.setPhase held ?_, .same rfl rfl⟩
      have own := setPhase_clients state client client (.backupReady name bytes)
      rw [if_pos rfl] at own
      simp [PhaseHolds, own]
  · exact consistent.released held

lemma Consistent.checkRollback
    (held : state.lock = some client) (name : String) (succeeds : Bool) :
    Steps codec sha256 maxFileBytes state (AtomicLocalStorage.checkRollback codec sha256
      maxFileBytes state client name succeeds).1 := by
  unfold AtomicLocalStorage.checkRollback
  split
  · next backup _ =>
    cases validateEnvelopeBytes codec sha256 maxFileBytes backup with
    | error reason => exact consistent.released held
    | ok current =>
      refine ⟨consistent.setPhase held ?_, .same rfl rfl⟩
      have own := setPhase_clients state client client (.rollbackReady backup)
      rw [if_pos rfl] at own
      simp [PhaseHolds, own]
  · exact consistent.released held

end

variable [DecidableEq Raw]

omit [DecidableEq Raw] in
lemma stored_rename {bytes : Raw} {revision : Nat} {entries : List Entry} {after : State Raw}
    (valid : validateEnvelopeBytes codec sha256 maxFileBytes bytes = .ok (revision, entries))
    (file : after.file = some bytes) :
    stored codec sha256 maxFileBytes after = some (revision, some entries) := by
  simp [stored, readEnvelope, file, valid, Except.map]

lemma putBack_epoch (state : State Raw) (file : Option Raw) :
    (file = state.file ∧ (state.putBack file).epoch = state.epoch) ∨
      (state.putBack file).epoch = state.epoch + 1 := by
  by_cases same : file = state.file
  · exact .inl ⟨same, if_pos same⟩
  · exact .inr (if_neg same)

lemma Consistent.proceed (consistent : Consistent codec sha256 maxFileBytes state)
    (client : Nat) (succeeds : Bool) :
    Steps codec sha256 maxFileBytes state
      (AtomicLocalStorage.proceed codec sha256 maxFileBytes state client succeeds).1 := by
  have held busy : state.lock = some client :=
    consistent.holds busy
  have holds := consistent.phase client
  unfold AtomicLocalStorage.proceed
  cases phase : (state.clients client).phase with
  | idle => exact ⟨consistent, .same rfl rfl⟩
  | locked call =>
    have held := held (by rw [phase]; nofun)
    cases call with
    | compareAndSwap expected entries => exact consistent.checkSwap held expected entries succeeds
    | createBackup name => exact consistent.checkBackup held name succeeds
    | rollbackFromBackup name => exact consistent.checkRollback held name succeeds
  | swapReady expected entries encoded =>
    have held := held (by rw [phase]; nofun)
    simp only [PhaseHolds, phase] at holds
    obtain ⟨⟨current, now⟩, valid⟩ := holds
    cases succeeds with
    | false => exact consistent.released held
    | true =>
      simp only [if_true, now, Option.getD_some]
      -- The rename moves the file by one revision.
      have own := setPhase_clients (state.rename encoded) client client
        (.swapRenamed expected entries (expected, current))
      rw [if_pos rfl] at own
      have next : stored codec sha256 maxFileBytes ((state.rename encoded).setPhase client
          (.swapRenamed expected entries (expected, current))) =
          some (expected + 1, some entries) := stored_rename valid rfl
      refine ⟨consistent.moved now rfl next (fun other => ?_) (fun other apart => ?_) held ?_,
        .next rfl now next⟩
      · rw [setPhase_clients]
        split_ifs with same
        · rw [same]
          rfl
        · rfl
      · obtain ⟨seen, idle⟩ := consistent.alone held apart
        exact ⟨seen, by rw [setPhase_clients, if_neg apart]; exact idle⟩
      · simp only [PhaseHolds, own]
        refine ⟨next, trivial, fun sighting member epoch revision => ?_⟩
        rw [own] at member
        obtain ⟨now', same, before⟩ := consistent.present client sighting member epoch
        cases now.symm.trans same
        rcases before with less | equal
        · exact absurd revision less.ne
        · exact congrArg Prod.snd equal
  | swapRenamed expected entries replaced =>
    have held := held (by rw [phase]; nofun)
    simp only [PhaseHolds, phase] at holds
    cases succeeds with
    | false => exact consistent.released held
    | true =>
      simp only [if_true]
      have synced : Consistent codec sha256 maxFileBytes state.sync :=
        consistent.congr rfl rfl rfl rfl
      refine ⟨(synced.see holds.1 ?_).release held, .same rfl rfl⟩
      have own : (state.sync.see client (expected + 1) (some entries)).clients client =
          ⟨.swapRenamed expected entries replaced,
            ⟨state.epoch, expected + 1, some entries⟩ :: (state.clients client).seen⟩ := by
        simp [State.see, State.sync, phase]
      simp only [PhaseHolds, own]
      refine ⟨holds.1, holds.2.1, fun sighting member epoch revision => ?_⟩
      rw [own] at member
      rcases mem_cons.mp member with rfl | old
      · exact absurd revision (Nat.succ_ne_self _)
      · exact holds.2.2 sighting old epoch revision
  | backupReady name bytes =>
    have held := held (by rw [phase]; nofun)
    cases succeeds with
    | false => exact consistent.released held
    | true =>
      have stored_backup : Consistent codec sha256 maxFileBytes
          { state with backups := update state.backups name (some bytes) } :=
        consistent.congr rfl rfl rfl rfl
      exact ⟨stored_backup.release held, .same rfl rfl⟩
  | rollbackReady backup =>
    have held := held (by rw [phase]; nofun)
    cases succeeds with
    | false => exact consistent.released held
    | true =>
      simp only [if_true]
      generalize renamed : (({ state.putBack (some backup) with
        recoverable := state.recoverable ++ [some backup] } : State Raw).setPhase client
        .rollbackRenamed) = after
      have file : after.file = some backup := by rw [← renamed]; rfl
      have clients other : after.clients other =
          if other = client then { state.clients client with phase := .rollbackRenamed }
          else state.clients other := by
        rw [← renamed]
        exact setPhase_clients _ client other .rollbackRenamed
      have own : (after.clients client).phase = .rollbackRenamed := by
        rw [clients, if_pos rfl]
      have others other (apart : other ≠ client) :
          ∃ seen, after.clients other = ⟨.idle, seen⟩ := by
        rw [clients, if_neg apart]
        exact consistent.alone held apart
      have phases other : PhaseHolds codec sha256 maxFileBytes after other := by
        by_cases same : other = client
        · simp [PhaseHolds, same, own]
        · obtain ⟨seen, idle⟩ := others other same
          exact phaseHolds_idle idle
      have holder other :
          after.lock = some other ∨ ∃ seen, after.clients other = ⟨.idle, seen⟩ := by
        by_cases same : other = client
        · exact .inl (by rw [← renamed, same]; exact held)
        · exact .inr (others other same)
      have seen other : (after.clients other).seen = (state.clients other).seen := by
        rw [clients]
        split_ifs with same
        · rw [same]
        · rfl
      have epoch : after.epoch = (state.putBack (some backup)).epoch := by rw [← renamed]; rfl
      rcases putBack_epoch state (some backup) with ⟨unchanged, kept⟩ | changed
      · have same : stored codec sha256 maxFileBytes after =
            stored codec sha256 maxFileBytes state := by
          simp [stored, file, unchanged]
        refine ⟨consistent.keep client (epoch.trans kept) same (fun other apart => ?_) holder
          (phases client) (fun sighting member => .inl (seen client ▸ member)),
          .same (epoch.trans kept) same⟩
        rw [clients, if_neg apart]
      · refine ⟨consistent.putBack (epoch.trans changed) (fun other sighting member => ?_) holder
          phases, .putBack ?_⟩
        · exact seen other ▸ member
        · rw [epoch, changed]
          exact Nat.lt_succ_self _
  | rollbackRenamed =>
    have held := held (by rw [phase]; nofun)
    cases succeeds with
    | false => exact consistent.released held
    | true =>
      have synced : Consistent codec sha256 maxFileBytes state.sync :=
        consistent.congr rfl rfl rfl rfl
      exact ⟨synced.release held, .same rfl rfl⟩

lemma Consistent.step (consistent : Consistent codec sha256 maxFileBytes state) (event : Event) :
    Steps codec sha256 maxFileBytes state
      (AtomicLocalStorage.step codec sha256 maxFileBytes state event).1 := by
  have same : Steps codec sha256 maxFileBytes state state := ⟨consistent, .same rfl rfl⟩
  unfold AtomicLocalStorage.step
  cases event with
  | read client readable =>
    simp only
    split
    · next idle => exact consistent.read idle readable
    · exact same
  | call client call =>
    simp only
    split
    · exact consistent.start call
    · exact same
  | proceed client succeeds => exact consistent.proceed client succeeds
  | crash client =>
    have own : (crash state client).clients client = ⟨.idle, []⟩ := update_self ..
    have others other apart :
        (crash state client).clients other = state.clients other := update_of_ne apart ..
    refine ⟨consistent.keep client rfl rfl others (fun other => ?_) (phaseHolds_idle own)
      (fun sighting member => ?_), .same rfl rfl⟩
    · by_cases apart : other = client
      · exact .inr ⟨[], by rw [apart, own]⟩
      · rcases consistent.holder other with held | idle
        · refine .inl ?_
          simp only [crash, held]
          rw [if_neg fun same => apart (Option.some.inj same)]
        · rw [others other apart]
          exact .inr idle
    · rw [own] at member
      cases member
  | powerLoss left =>
    simp only
    generalize lost : powerLoss state left = after
    have idle other : after.clients other = ⟨.idle, []⟩ := by rw [← lost]; rfl
    have epoch : after.epoch =
        (state.putBack ((state.recoverable[left]?).getD state.file)).epoch := by rw [← lost]; rfl
    have consistent' : Consistent codec sha256 maxFileBytes after := by
      refine ⟨fun other => .inr ⟨[], idle other⟩, fun other => phaseHolds_idle (idle other),
        fun other sighting member => ?_, fun other sighting member => ?_⟩
      · rw [idle] at member
        cases member
      · rw [idle] at member
        cases member
    refine ⟨consistent', ?_⟩
    rcases putBack_epoch state ((state.recoverable[left]?).getD state.file) with
      ⟨unchanged, kept⟩ | changed
    · refine .same (epoch.trans kept) ?_
      have file : after.file = state.file := by
        rw [← unchanged, ← lost]
        rfl
      simp [stored, file]
    · refine .putBack ?_
      rw [epoch, changed]
      exact Nat.lt_succ_self _

end Step

/-! ## Runs -/

/-- The file is as it was or at a later revision, unless it was put back in
between. -/
def Advanced (codec : EnvelopeCodec Raw) (sha256 : Sha256) (maxFileBytes : Nat)
    (before after : State Raw) : Prop :=
  before.epoch < after.epoch ∨ after.epoch = before.epoch ∧
    (stored codec sha256 maxFileBytes after = stored codec sha256 maxFileBytes before ∨
      ∃ now later, stored codec sha256 maxFileBytes before = some now ∧
        stored codec sha256 maxFileBytes after = some later ∧ now.1 < later.1)

lemma Advanced.step {first before after : State Raw}
    (advanced : Advanced codec sha256 maxFileBytes first before)
    (moved : Moved codec sha256 maxFileBytes before after) :
    Advanced codec sha256 maxFileBytes first after := by
  cases moved with
  | same epoch stored =>
    unfold Advanced
    rw [epoch, stored]
    exact advanced
  | putBack later =>
    rcases advanced with earlier | ⟨epoch, -⟩
    · exact .inl (earlier.trans later)
    · exact .inl (epoch ▸ later)
  | next epoch now later =>
    rcases advanced with earlier | ⟨same, unchanged | ⟨first_now, middle, was, is, less⟩⟩
    · exact .inl (epoch.symm ▸ earlier)
    · exact .inr ⟨epoch.trans same, .inr ⟨_, _, unchanged ▸ now, later, Nat.lt_succ_self _⟩⟩
    · cases is.symm.trans now
      exact .inr ⟨epoch.trans same, .inr ⟨_, _, was, later, less.trans (Nat.lt_succ_self _)⟩⟩

lemma fresh_consistent (codec : EnvelopeCodec Raw) (sha256 : Sha256) (maxFileBytes : Nat)
    (file : Option Raw) (backups : String → Option Raw) :
    Consistent codec sha256 maxFileBytes (.fresh file backups) :=
  ⟨fun _ => .inr ⟨[], rfl⟩, fun _ => trivial, fun _ _ => nofun, fun _ _ => nofun⟩

variable [DecidableEq Raw]

lemma Consistent.run {state : State Raw} (consistent : Consistent codec sha256 maxFileBytes state)
    (events : List Event) :
    Consistent codec sha256 maxFileBytes (run codec sha256 maxFileBytes state events) ∧
      Advanced codec sha256 maxFileBytes state (run codec sha256 maxFileBytes state events) := by
  have keep later event
      (holds : Consistent codec sha256 maxFileBytes later ∧
        Advanced codec sha256 maxFileBytes state later) :
      Consistent codec sha256 maxFileBytes
          (AtomicLocalStorage.step codec sha256 maxFileBytes later event).1 ∧
        Advanced codec sha256 maxFileBytes state
          (AtomicLocalStorage.step codec sha256 maxFileBytes later event).1 := by
    obtain ⟨after, moved⟩ := holds.1.step event
    exact ⟨after, holds.2.step moved⟩
  exact Machine.run_invariant keep ⟨consistent, .inr ⟨rfl, .inl rfl⟩⟩ events

lemma written_proceed {state : State Raw} {event : Event} {revision : Nat}
    (written : (step codec sha256 maxFileBytes state event).2 = .swapped (.written revision)) :
    ∃ client expected entries replaced, event = .proceed client true ∧
      (state.clients client).phase = .swapRenamed expected entries replaced ∧
      revision = expected + 1 := by
  cases event with
  | read client readable =>
    simp only [step, read] at written
    split at written
    · split at written <;> cases written
    · cases written
  | call client call =>
    simp only [step, start] at written
    split at written
    · split at written <;> split_ifs at written
      all_goals cases written
    · cases written
  | proceed client succeeds =>
    simp only [step, proceed] at written
    cases phase : (state.clients client).phase with
    | idle =>
      rw [phase] at written
      cases written
    | locked call =>
      rw [phase] at written
      cases call with
      | compareAndSwap expected entries =>
        simp only [checkSwap] at written
        split at written
        · split_ifs at written
          · cases written
          · cases written
          · split at written
            · cases written
            · split_ifs at written
              cases written
        · cases written
      | createBackup name =>
        simp only [checkBackup] at written
        split_ifs at written
        split at written
        · cases written
        · split at written <;> cases written
        · cases written
      | rollbackFromBackup name =>
        simp only [checkRollback] at written
        split at written
        · split at written <;> cases written
        · cases written
    | swapReady expected entries encoded =>
      rw [phase] at written
      cases succeeds <;> cases written
    | swapRenamed expected entries replaced =>
      rw [phase] at written
      cases succeeds with
      | false => cases written
      | true =>
        cases written
        exact ⟨client, expected, entries, replaced, rfl, phase, rfl⟩
    | backupReady name bytes =>
      rw [phase] at written
      cases succeeds <;> cases written
    | rollbackReady backup =>
      rw [phase] at written
      cases succeeds <;> cases written
    | rollbackRenamed =>
      rw [phase] at written
      cases succeeds <;> cases written
  | crash client => cases written
  | powerLoss left => cases written

/-- In every run a swap that is written replaced, at the expected revision, what
its client last saw there since the file was last put back; and until the file
is put back again no revision comes with other contents. -/
theorem swap_replaces_seen (codec : EnvelopeCodec Raw) (sha256 : Sha256) (maxFileBytes : Nat)
    (file : Option Raw) (backups : String → Option Raw) (events : List Event) :
    let state := run codec sha256 maxFileBytes (.fresh file backups) events
    (∀ event revision,
      (step codec sha256 maxFileBytes state event).2 = .swapped (.written revision) →
      ∃ client expected entries replaced, event = .proceed client true ∧
        (state.clients client).phase = .swapRenamed expected entries replaced ∧
        revision = expected + 1 ∧ replaced.1 = expected ∧
        stored codec sha256 maxFileBytes state = some (expected + 1, some entries) ∧
        ∀ sighting ∈ (state.clients client).seen, sighting.epoch = state.epoch →
          sighting.revision = expected → sighting.entries = replaced.2) ∧
    ∀ more now later, (run codec sha256 maxFileBytes state more).epoch = state.epoch →
      stored codec sha256 maxFileBytes state = some now →
      stored codec sha256 maxFileBytes (run codec sha256 maxFileBytes state more) = some later →
      now.1 < later.1 ∨ now = later := by
  intro state
  have consistent : Consistent codec sha256 maxFileBytes state :=
    ((fresh_consistent codec sha256 maxFileBytes file backups).run events).1
  refine ⟨fun event revision written => ?_, fun more now later epoch first last => ?_⟩
  · obtain ⟨client, expected, entries, replaced, proceeds, phase, same⟩ := written_proceed written
    have holds := consistent.phase client
    simp only [PhaseHolds, phase] at holds
    exact ⟨client, expected, entries, replaced, proceeds, phase, same, holds.2.1, holds.1,
      holds.2.2⟩
  · rcases (consistent.run more).2 with put_back | ⟨-, same | ⟨now', later', was, is, less⟩⟩
    · exact absurd epoch put_back.ne'
    · exact .inr (Option.some.inj (first.symm.trans (same.symm.trans last)))
    · cases first.symm.trans was
      cases last.symm.trans is
      exact .inl less

end Runs

/-! ## A rollback -/

/-- SHA-256 where its digests do not matter. -/
def sampleSha256 : Sha256 := fun _ =>
  ⟨"1111111111111111111111111111111111111111111111111111111111111111", by decide, by decide⟩

abbrev sampleCodec : EnvelopeCodec LocalStorageEnvelope := .plain LocalStorageEnvelope.schemaVersion

/-- A swap from what the client read before, up to its last step. -/
def sampleSwap (client expected : Nat) (entry : UInt8) : List Event :=
  [.call client (.compareAndSwap expected [[entry]]), .proceed client true, .proceed client true]

/-- Client 1 writes the first revision, which client 0 backs up; client 2 reads
it and writes the second.  Client 0 rolls back, client 3 reads the first revision
and writes another second one, and client 2 swaps from the second revision that
it wrote itself. -/
def sampleRun : List Event :=
  .read 1 true :: sampleSwap 1 0 1 ++ [.proceed 1 true, .call 0 (.createBackup "backup"),
    .proceed 0 true, .proceed 0 true, .read 2 true] ++ sampleSwap 2 1 2 ++ [.proceed 2 true,
    .call 0 (.rollbackFromBackup "backup"), .proceed 0 true, .proceed 0 true, .proceed 0 true,
    .read 3 true] ++ sampleSwap 3 1 3 ++ .proceed 3 true :: sampleSwap 2 2 4

abbrev sampleState : State LocalStorageEnvelope :=
  run sampleCodec sampleSha256 64 (.fresh none fun _ => none) sampleRun

/-- The swap of client 2 is written, though it replaces the entries of client 3
and not its own, which it last saw at this revision. -/
theorem rollback_repeats_revision :
    (step sampleCodec sampleSha256 64 sampleState (.proceed 2 true)).2 =
        .swapped (.written 3) ∧
      (sampleState.clients 2).phase = .swapRenamed 2 [[4]] (2, some [[3]]) ∧
      (sampleState.clients 2).seen.find? (fun sighting => sighting.revision = 2) =
        some ⟨0, 2, some [[2]]⟩ :=
  ⟨by decide +kernel, by decide +kernel, by decide +kernel⟩

end AtomicLocalStorage

end Knowbee
