import Knowbee.Terminal.Repository

/-!
# Runs of the terminal repository

A commit prepares a fresh key, completes a prepared one, or completes all of
them at a start (`Change`).  So a key is claimed at most once over all restarts,
its completed record never changes, and a process that comes up holds nothing
prepared.  While no write fails and no process stops, the durable repository
answers as the one in memory does (`durable_simulates`).
-/

namespace Knowbee

open CasStore SortedMap DurableTerminalRecord RecordStore V2TerminalScope Option

/-! ## Records that a start accepts -/

lemma V2TerminalScope.new_eq_ok {key digest : String} {scope : V2TerminalScope} :
    new key digest = .ok scope ↔
      scope.idempotencyKey = key ∧ scope.exactScopeDigest = digest := by
  unfold new
  constructor
  · intro built
    split_ifs at built
    cases built
    exact ⟨rfl, rfl⟩
  · rintro ⟨rfl, rfl⟩
    rw [dif_pos scope.valid]

namespace DurableTerminalRecord

variable {record : DurableTerminalRecord} {scope : V2TerminalScope}

def Fits (schemaVersion : Nat) (scope : V2TerminalScope) : DurableTerminalState → Prop
  | .legacyPending => schemaVersion = legacyDurableV2TerminalSchemaVersion
  | .prepared restartRecovery => schemaVersion = durableV2TerminalSchemaVersion ∧
      validRestartRecovery scope restartRecovery = true
  | .completed content => contentMatchesScope scope content = true

lemma scope_eq_ok : record.scope = .ok scope ↔ scope.idempotencyKey = record.idempotencyKey ∧
      scope.exactScopeDigest = record.exactScopeDigest := by
  rw [← new_eq_ok, DurableTerminalRecord.scope]
  cases new record.idempotencyKey record.exactScopeDigest <;>
    simp [Except.mapError]

lemma validate_eq_ok : record.validate = .ok () ↔
    (record.schemaVersion = legacyDurableV2TerminalSchemaVersion ∨
      record.schemaVersion = durableV2TerminalSchemaVersion) ∧
      ∃ scope, record.scope = .ok scope ∧ Fits record.schemaVersion scope record.terminal := by
  unfold validate
  by_cases version : record.schemaVersion = legacyDurableV2TerminalSchemaVersion ∨
      record.schemaVersion = durableV2TerminalSchemaVersion
  · rw [if_neg (not_not.mpr version)]
    cases named : record.scope with
    | error err => simp [bind, Except.bind]
    | ok scope =>
      cases terminal : record.terminal with
      | legacyPending =>
        simp only [bind, Except.bind, Fits, Except.ok.injEq, exists_eq_left', version, true_and]
        split_ifs with old <;> simp_all [pure, Except.pure]
      | prepared restartRecovery =>
        simp only [bind, Except.bind, Fits, Except.ok.injEq, exists_eq_left', version, true_and]
        split_ifs with bad
        · have neither : ¬(record.schemaVersion = durableV2TerminalSchemaVersion ∧
              validRestartRecovery scope restartRecovery = true) := by
            rintro ⟨same, recovery⟩
            simp [same, recovery] at bad
          simp [neither]
        · simp only [not_or, not_not, Bool.not_eq_true, Bool.not_eq_false'] at bad
          simp [pure, Except.pure, bad]
      | completed content =>
        simp only [bind, Except.bind, Fits, Except.ok.injEq, exists_eq_left', version, true_and]
        split_ifs with bad <;> simp_all [pure, Except.pure]
  · simp [version]

/-- A record that a start holds: valid, and with a terminal to answer. -/
structure Sound (record : DurableTerminalRecord) : Prop where
  valid : record.validate = .ok ()
  recoverable : record.terminal ≠ .legacyPending

lemma contentMatchesScope_of_validRestartRecovery {content : V2TerminalResponseContent}
    (recovery : validRestartRecovery scope content = true) :
    contentMatchesScope scope content = true := by
  simp only [validRestartRecovery, Bool.and_eq_true] at recovery
  exact recovery.2

lemma Sound.completed {content : V2TerminalResponseContent} (sound : Sound record)
    (named : record.scope = .ok scope) (fits : contentMatchesScope scope content = true) :
    Sound { record with terminal := .completed content } := by
  obtain ⟨version, -⟩ := validate_eq_ok.mp sound.valid
  exact ⟨validate_eq_ok.mpr ⟨version, scope, named, fits⟩, nofun⟩

lemma Sound.recovered (sound : Sound record) : Sound record.recovered := by
  obtain ⟨version, scope, named, fits⟩ := validate_eq_ok.mp sound.valid
  unfold DurableTerminalRecord.recovered
  cases terminal : record.terminal with
  | prepared restartRecovery =>
    rw [terminal] at fits
    exact sound.completed named (contentMatchesScope_of_validRestartRecovery fits.2)
  | legacyPending => exact sound
  | completed content => exact sound

lemma Sound.prepared {restartRecovery : V2TerminalResponseContent}
    (recovery : validRestartRecovery scope restartRecovery = true) :
    Sound ⟨durableV2TerminalSchemaVersion, scope.idempotencyKey, scope.exactScopeDigest,
      .prepared restartRecovery⟩ :=
  ⟨validate_eq_ok.mpr ⟨.inr rfl, scope, scope_eq_ok.mpr ⟨rfl, rfl⟩, rfl, recovery⟩, nofun⟩

@[simp] lemma recovered_idempotencyKey (record : DurableTerminalRecord) :
    record.recovered.idempotencyKey = record.idempotencyKey := by
  unfold recovered
  split <;> rfl

@[simp] lemma recovered_exactScopeDigest (record : DurableTerminalRecord) :
    record.recovered.exactScopeDigest = record.exactScopeDigest := by
  unfold recovered
  split <;> rfl

@[simp] lemma recovered_isPrepared (record : DurableTerminalRecord) :
    record.recovered.isPrepared = false := by
  unfold recovered
  split
  · rfl
  · next other =>
    unfold isPrepared
    split
    · next content terminal => exact absurd terminal (other content)
    · rfl

lemma recovered_eq_self (other : record.isPrepared = false) : record.recovered = record := by
  unfold recovered
  split
  · next content terminal => simp [isPrepared, terminal] at other
  · rfl

end DurableTerminalRecord

namespace DurableV2TerminalRepository

variable {Raw : Type} {codec : Codec DurableTerminalRecord Raw} {capacity : Nat}

/-! ## What a commit does -/

/-- The records a start accepts and calls commit. -/
abbrev Valid (capacity : Nat) (records : DurableTerminalRecords) : Prop :=
  Within (fun record => record.idempotencyKey) capacity Sound
    records

/-- One commit: a fresh key is prepared, a prepared one is completed, or a
start completes all that were prepared. -/
inductive Change (capacity : Nat) (records : DurableTerminalRecords) :
    DurableTerminalRecords → Prop where
  | prepared (scope : V2TerminalScope) (restartRecovery : V2TerminalResponseContent) :
      validRestartRecovery scope restartRecovery = true →
      records.get? scope.idempotencyKey = none → records.size < capacity →
      Change capacity records (records.insert scope.idempotencyKey
        ⟨durableV2TerminalSchemaVersion, scope.idempotencyKey, scope.exactScopeDigest,
          .prepared restartRecovery⟩)
  | completed (scope : V2TerminalScope) (content : V2TerminalResponseContent)
      (existing : DurableTerminalRecord) (restartRecovery : V2TerminalResponseContent) :
      contentMatchesScope scope content = true →
      records.get? scope.idempotencyKey = some existing →
      existing.exactScopeDigest = scope.exactScopeDigest →
      existing.terminal = .prepared restartRecovery →
      Change capacity records (records.insert scope.idempotencyKey
        { existing with terminal := .completed content })
  | recovered : Change capacity records (records.map recovered)

lemma prepare_commit {scope : V2TerminalScope} {restartRecovery : V2TerminalResponseContent}
    {records next : DurableTerminalRecords} {answer : Committed → V2TerminalClaim}
    (planned : prepare capacity scope restartRecovery records = .commit next answer) :
    validRestartRecovery scope restartRecovery = true ∧
      records.get? scope.idempotencyKey = none ∧ records.size < capacity ∧
      next = records.insert scope.idempotencyKey ⟨durableV2TerminalSchemaVersion,
        scope.idempotencyKey, scope.exactScopeDigest, .prepared restartRecovery⟩ ∧
      answer = fun committed => committed.ifWritten .claimed .unavailable := by
  unfold prepare at planned
  cases bound : records.get? scope.idempotencyKey with
  | some record =>
    simp only [bound] at planned
    split_ifs at planned
    cases terminal : record.terminal <;> simp [terminal] at planned
  | none =>
    simp only [bound] at planned
    split_ifs at planned with invalid full
    cases planned
    exact ⟨by simpa using invalid, rfl, by omega, rfl, rfl⟩

lemma complete_commit {scope : V2TerminalScope} {content : V2TerminalResponseContent}
    {records next : DurableTerminalRecords} {answer : Committed → V2TerminalComplete}
    (planned : complete scope content records = .commit next answer) :
    ∃ existing restartRecovery, contentMatchesScope scope content = true ∧
      records.get? scope.idempotencyKey = some existing ∧
      existing.exactScopeDigest = scope.exactScopeDigest ∧
      existing.terminal = .prepared restartRecovery ∧
      next = records.insert scope.idempotencyKey
        { existing with terminal := .completed content } ∧
      answer = fun committed => committed.ifWritten .completed .unavailable := by
  unfold complete at planned
  split_ifs at planned with mismatch
  cases bound : records.get? scope.idempotencyKey with
  | none => simp [bound] at planned
  | some existing =>
    simp only [bound] at planned
    split_ifs at planned with conflict
    cases terminal : existing.terminal with
    | legacyPending => simp [terminal] at planned
    | completed other => simp [terminal] at planned
    | prepared restartRecovery =>
      simp only [terminal] at planned
      cases planned
      exact ⟨existing, restartRecovery, by simpa using mismatch, rfl, not_not.mp conflict,
        terminal, rfl, rfl⟩

lemma plan_commit {call : V2TerminalCall} {records next : DurableTerminalRecords}
    {answer : Committed → V2TerminalAnswer}
    (planned : plan capacity call records = .commit next answer) :
    Change capacity records next := by
  cases call with
  | lookup scope => cases planned
  | prepare scope restartRecovery =>
    obtain ⟨inner, own, -⟩ := Plan.map_eq_commit planned
    obtain ⟨valid, free, room, rfl, -⟩ := prepare_commit own
    exact .prepared scope restartRecovery valid free room
  | complete scope content =>
    obtain ⟨inner, own, -⟩ := Plan.map_eq_commit planned
    obtain ⟨existing, restartRecovery, fits, bound, same, terminal, rfl, -⟩ := complete_commit own
    exact .completed scope content existing restartRecovery fits bound same terminal

lemma recovery_change {records next : DurableTerminalRecords}
    (recovered : recovery records = some next) : Change capacity records next := by
  unfold recovery at recovered
  split_ifs at recovered
  cases recovered
  exact .recovered

lemma commits_change {records next : DurableTerminalRecords}
    (commits : (repository codec capacity).Commits records next) :
    Change capacity records next := by
  cases commits with
  | plan call answer planned => exact plan_commit planned
  | recovery recovered => exact recovery_change recovered

section Changes

variable {records next : DurableTerminalRecords}

lemma Change.valid (valid : Valid capacity records) (change : Change capacity records next) :
    Valid capacity next := by
  cases change with
  | prepared scope restartRecovery recovery free room =>
    have sound := DurableTerminalRecord.Sound.prepared recovery
    exact valid.insert_new (by exact free) room sound
  | completed scope content existing restartRecovery fits bound same terminal =>
    have keyed : existing.idempotencyKey = scope.idempotencyKey := valid.keyed _ _ bound
    have named : existing.scope = .ok scope :=
      scope_eq_ok.mpr ⟨keyed.symm, same.symm⟩
    have sound := (valid.each bound).completed named fits
    rw [← keyed] at bound ⊢
    exact valid.replace (by exact bound) sound
  | recovered =>
    refine ⟨fun key record bound => ?_, ?_, fun {key record} bound => ?_⟩
    · simp only [get?_map, map_eq_some_iff] at bound
      obtain ⟨before, held, rfl⟩ := bound
      simpa using valid.keyed key before held
    · rw [size_map]
      exact valid.bounded
    · simp only [get?_map, map_eq_some_iff] at bound
      obtain ⟨before, held, rfl⟩ := bound
      exact (valid.each held).recovered

/-- Every key stays, with its scope, and a completed record stays as it is. -/
def Keeps (before after : DurableTerminalRecords) : Prop :=
  ∀ key record, before.get? key = some record → ∃ later, after.get? key = some later ∧
    later.exactScopeDigest = record.exactScopeDigest ∧
    ∀ content, record.terminal = .completed content → later = record

lemma Keeps.refl (records : DurableTerminalRecords) : Keeps records records :=
  fun _ record bound => ⟨record, bound, rfl, fun _ _ => rfl⟩

lemma Keeps.trans {first second third : DurableTerminalRecords} (early : Keeps first second)
    (late : Keeps second third) : Keeps first third := by
  intro key record bound
  obtain ⟨middle, middle_bound, scope, same⟩ := early key record bound
  obtain ⟨last, last_bound, scope', same'⟩ := late key middle middle_bound
  refine ⟨last, last_bound, scope'.trans scope, fun content terminal => ?_⟩
  have middle_same := same content terminal
  subst middle_same
  exact same' content terminal

lemma Change.keeps (change : Change capacity records next) : Keeps records next := by
  intro key record held
  cases change with
  | prepared scope restartRecovery recovery free room =>
    have other : key ≠ scope.idempotencyKey := by
      rintro rfl
      rw [free] at held
      cases held
    exact ⟨record, by rw [get?_insert, if_neg other, held], rfl, fun _ _ => rfl⟩
  | completed scope content existing restartRecovery fits bound same terminal =>
    by_cases own : key = scope.idempotencyKey
    · subst own
      cases bound.symm.trans held
      refine ⟨{ record with terminal := .completed content },
        by rw [get?_insert, if_pos rfl], rfl, fun other completed => ?_⟩
      rw [terminal] at completed
      cases completed
    · exact ⟨record, by rw [get?_insert, if_neg own, held], rfl, fun _ _ => rfl⟩
  | recovered =>
    refine ⟨record.recovered, by simp [held], by simp, fun content completed => ?_⟩
    exact recovered_eq_self (by
      simp [isPrepared, completed])

end Changes

lemma evolves_keeps {before after : DurableTerminalRecords}
    (evolves : (repository codec capacity).Evolves before after) : Keeps before after :=
  Repository.Evolves.keeps (fun keeps commits => keeps.trans (commits_change commits).keeps)
    evolves (.refl before)

/-! ## The store over a run -/

lemma decode_ok {raw : Raw} {record : DurableTerminalRecord}
    (decoded : decode codec raw = .ok record) : record.validate = .ok () := by
  unfold decode at decoded
  cases parsed : codec.parse raw with
  | none => simp [parsed] at decoded
  | some other =>
    simp only [parsed, bind, Except.bind] at decoded
    cases valid : other.validate with
    | error err => simp [valid] at decoded
    | ok _ =>
      simp only [valid, pure, Except.pure] at decoded
      cases decoded
      exact valid

lemma decode_print {record : DurableTerminalRecord} {raw : Raw}
    (sound : record.Sound) (printed : codec.print record = some raw) :
    decode codec raw = .ok record := by
  simp [decode, codec.parse_print printed, sound.valid, bind, Except.bind, pure, Except.pure]

lemma bootstrap_ok {read : Read Raw} {cache : Cache DurableTerminalRecords}
    (booted : bootstrap codec capacity read = .ok cache) :
    (0 < capacity ∧ capacity ≤ u32Max) ∧ Valid capacity cache.records := by
  simp only [bootstrap, bind, Except.bind] at booted
  cases loaded : RecordStore.bootstrap bootErrors u32Max (decode codec)
      (fun record => record.idempotencyKey) capacity read with
  | error err => simp [loaded] at booted
  | ok state =>
    simp only [loaded] at booted
    obtain ⟨range, within⟩ := RecordStore.bootstrap_ok
      (P := fun record => record.validate = .ok ()) (fun _ _ => decode_ok) loaded
    split_ifs at booted with legacy
    cases booted
    refine ⟨range, within.keyed, within.bounded, fun {key record} bound => ?_⟩
    refine ⟨within.each bound, fun pending => legacy ?_⟩
    have member := mem_values.mpr ⟨key, bound⟩
    exact List.any_eq_true.mpr ⟨record, member, by simp [pending]⟩

lemma lawful (range : 0 < capacity ∧ capacity ≤ u32Max) :
    (repository codec capacity).Lawful (Valid capacity) fun _ _ => True where
  bootstrap_unavailable := by
    refine ⟨.unavailable, ?_⟩
    simp only [repository, bootstrap, RecordStore.bootstrap_unavailable range, bind, Except.bind]
    rfl
  bootstrap_encode {revision records encoded} valid printed := by
    have loaded : RecordStore.bootstrap bootErrors u32Max (decode codec)
        (fun record => record.idempotencyKey) capacity (.records revision encoded) =
          .ok ⟨revision, records⟩ :=
      RecordStore.bootstrap_encodeRecords range (fun _ _ sound one => decode_print sound one)
        valid printed
    have recoverable : ¬(records.values.any fun record =>
        record.terminal = .legacyPending) = true := by
      simp only [List.any_eq_true, decide_eq_true_eq, not_exists, not_and]
      intro record member
      obtain ⟨key, bound⟩ := mem_values.mp member
      exact (valid.each bound).recoverable
    simp only [repository, bootstrap, bind, Except.bind, loaded, if_neg recoverable]
    rfl
  plan_valid valid _ planned := (plan_commit planned).valid valid
  recovery_valid valid recovered := (recovery_change recovered).valid valid

/-- The answer that hands a key to its one executor. -/
def Claims (key : String) : V2TerminalCall → V2TerminalAnswer → Prop
  | .prepare scope _, .prepare .claimed => scope.idempotencyKey = key
  | _, _ => False

lemma prepare_reply {scope : V2TerminalScope} {restartRecovery : V2TerminalResponseContent}
    {records : DurableTerminalRecords} {claim : V2TerminalClaim}
    (planned : prepare capacity scope restartRecovery records = .reply claim) :
    claim ≠ .claimed := by
  rintro rfl
  unfold prepare at planned
  cases bound : records.get? scope.idempotencyKey with
  | none =>
    simp only [bound] at planned
    split_ifs at planned <;> simp at planned
  | some record =>
    simp only [bound] at planned
    cases terminal : record.terminal <;> simp only [terminal] at planned <;>
      split_ifs at planned <;> simp at planned

lemma claimedOnce (key : String) :
    (repository codec capacity).GrantsOnce (Valid capacity) (Claims key)
      (fun records => (records.get? key).isSome) where
  reply {call records answer} planned claimed := by
    cases call with
    | prepare scope restartRecovery =>
      cases own : prepare capacity scope restartRecovery records with
      | commit next inner => simp [repository, plan, own, Plan.map] at planned
      | reply claim =>
        simp only [repository, plan, own, Plan.map, Plan.reply.injEq] at planned
        subst planned
        cases claim with
        | claimed => exact prepare_reply own rfl
        | _ => exact claimed
    | _ => exact claimed
  commit {call records next answer committed} planned claimed := by
    cases call with
    | prepare scope restartRecovery =>
      obtain ⟨inner, own, rfl⟩ := Plan.map_eq_commit planned
      obtain ⟨-, free, -, rfl, rfl⟩ := prepare_commit own
      cases committed with
      | written =>
        have same : scope.idempotencyKey = key := claimed
        subst same
        exact ⟨rfl, by simp, by simp [free]⟩
      | conflict => exact claimed.elim
      | unavailable => exact claimed.elim
    | _ => exact claimed.elim
  keep {records next} _ commits held := by
    obtain ⟨record, bound⟩ := isSome_iff_exists.mp held
    obtain ⟨later, kept, -⟩ := (commits_change commits).keeps key record bound
    exact isSome_iff_exists.mpr ⟨later, kept⟩

lemma recovery_getD (records : DurableTerminalRecords) :
    (recovery records).getD records = records.map recovered := by
  unfold recovery
  split_ifs with any
  · rfl
  · refine ext_get? fun key => ?_
    rw [get?_map, getD_none]
    cases bound : records.get? key with
    | none => rfl
    | some record =>
      have other : record.isPrepared = false := by
        by_contra prepared
        have member := mem_values.mpr ⟨key, bound⟩
        exact any (List.any_eq_true.mpr ⟨record, member, by simpa using prepared⟩)
      rw [map_some, recovered_eq_self other]

/-! ## The two repositories -/

/-- A terminal in memory stands for a durable one. -/
inductive RepresentsTerminal : DurableTerminalState → StoredTerminal → Prop where
  | prepared (content : V2TerminalResponseContent) :
      RepresentsTerminal (.prepared content) (.prepared content)
  | completed (content : V2TerminalResponseContent) :
      RepresentsTerminal (.completed content) (.completed content)

structure RepresentsRecord (durable : DurableTerminalRecord) (stored : StoredRecord) : Prop where
  scope : stored.exactScopeDigest = durable.exactScopeDigest
  terminal : RepresentsTerminal durable.terminal stored.terminal

/-- The repository in memory stands for durable records: the same keys, with
the same scopes and terminals. -/
structure Represents (capacity : Nat) (records : DurableTerminalRecords)
    (memory : InMemoryV2TerminalRepository) : Prop where
  capacity : memory.capacity = capacity
  size : memory.records.size = records.size
  each (key : String) : Rel RepresentsRecord (records.get? key) (memory.records.get? key)

section Represents

variable {records : DurableTerminalRecords} {memory : InMemoryV2TerminalRepository}
  {scope : V2TerminalScope} {content : V2TerminalResponseContent}

section

variable (represents : Represents capacity records memory)
include represents

lemma Represents.bound (key : String) :
    (records.get? key = none ∧ memory.records.get? key = none) ∨
      ∃ record stored, records.get? key = some record ∧ memory.records.get? key = some stored ∧
        RepresentsRecord record stored := by
  have related := represents.each key
  generalize records.get? key = durable at related
  generalize memory.records.get? key = held at related
  cases related with
  | none => exact .inl ⟨rfl, rfl⟩
  | some record => exact .inr ⟨_, _, rfl, rfl, record⟩

lemma Represents.insert {key : String} {durable : DurableTerminalRecord} {stored : StoredRecord}
    (record : RepresentsRecord durable stored) :
    Represents capacity (records.insert key durable)
      { memory with records := memory.records.insert key stored } where
  capacity := represents.capacity
  size := by
    have size := represents.size
    rcases represents.bound key with ⟨free, free'⟩ | ⟨old, old', found, held, -⟩
    · simp [size_insert, free, free', size]
    · simp [size_insert, found, held, size]
  each other := by
    simp only [get?_insert]
    split_ifs
    · exact .some record
    · exact represents.each other

lemma Represents.prepare :
    ((prepare capacity scope content records).whenWritten records).2 =
        (memory.prepare scope content).2 ∧
      Represents capacity ((prepare capacity scope content records).whenWritten records).1
        (memory.prepare scope content).1 := by
  unfold DurableV2TerminalRepository.prepare InMemoryV2TerminalRepository.prepare
  have same_capacity := represents.capacity
  subst same_capacity
  rw [represents.size]
  rcases represents.bound scope.idempotencyKey with
    ⟨free, free'⟩ | ⟨⟨version, key, digest, terminal⟩, ⟨digest', stored⟩, found, held, same, agree⟩
  · simp only [free, free']
    split_ifs
    · exact ⟨rfl, represents⟩
    · exact ⟨rfl, represents⟩
    · have claimed : RepresentsRecord ⟨durableV2TerminalSchemaVersion, scope.idempotencyKey,
          scope.exactScopeDigest, .prepared content⟩ ⟨scope.exactScopeDigest, .prepared content⟩ :=
        ⟨rfl, .prepared content⟩
      exact ⟨rfl, represents.insert claimed⟩
  · cases same
    simp only [found, held]
    split_ifs
    · exact ⟨rfl, represents⟩
    · exact ⟨rfl, represents⟩
    · cases agree <;> exact ⟨rfl, represents⟩

lemma Represents.lookup : lookup scope records = memory.lookup scope := by
  unfold DurableV2TerminalRepository.lookup InMemoryV2TerminalRepository.lookup
  rcases represents.bound scope.idempotencyKey with
    ⟨free, free'⟩ | ⟨⟨version, key, digest, terminal⟩, ⟨digest', stored⟩, found, held, same, agree⟩
  · simp [free, free']
  · cases same
    simp only [found, held]
    cases agree <;> rfl

lemma Represents.complete :
    ((complete scope content records).whenWritten records).2 =
        (memory.complete scope content).2 ∧
      Represents capacity ((complete scope content records).whenWritten records).1
        (memory.complete scope content).1 := by
  unfold DurableV2TerminalRepository.complete InMemoryV2TerminalRepository.complete
  rcases represents.bound scope.idempotencyKey with
    ⟨free, free'⟩ | ⟨⟨version, key, digest, terminal⟩, ⟨digest', stored⟩, found, held, same, agree⟩
  · simp only [free, free']
    split_ifs <;> exact ⟨rfl, represents⟩
  · cases same
    simp only [found, held]
    split_ifs
    · exact ⟨rfl, represents⟩
    · exact ⟨rfl, represents⟩
    · cases agree with
      | prepared _ => exact ⟨rfl, represents.insert ⟨rfl, .completed content⟩⟩
      | completed _ => exact ⟨rfl, represents⟩

lemma Represents.call (call : V2TerminalCall) :
    ((plan capacity call records).whenWritten records).2 = (memory.call call).2 ∧
      Represents capacity ((plan capacity call records).whenWritten records).1
        (memory.call call).1 := by
  cases call with
  | prepare scope content =>
    obtain ⟨same, next⟩ := represents.prepare 
    simp only [plan, Plan.whenWritten_map, InMemoryV2TerminalRepository.call]
    exact ⟨congrArg _ same, next⟩
  | lookup scope => exact ⟨congrArg _ represents.lookup, represents⟩
  | complete scope content =>
    obtain ⟨same, next⟩ := represents.complete 
    simp only [plan, Plan.whenWritten_map, InMemoryV2TerminalRepository.call]
    exact ⟨congrArg _ same, next⟩

end

end Represents

/-! ## What holds over every run -/

/-- The printer never fails, as for records of plain fields. -/
def Prints (codec : Codec DurableTerminalRecord Raw) : Prop :=
  ∀ record, ∃ raw, codec.print record = some raw

/-- What is stored can be bootstrapped, and a process comes up on it where the
write of its recovery is taken; a process holds what is stored, or is behind it
by one commit it was not told of. -/
def Bootstraps (codec : Codec DurableTerminalRecord Raw) (capacity : Nat)
    (node : Node Raw DurableTerminalRecords) : Prop :=
  ∃ stored, (repository codec capacity).Stores node.storage stored ∧
    (Prints codec → ∀ revision, node.storage.revision < revision →
      ((repository codec capacity).start true (.applied revision) node.storage).cache.isSome) ∧
    ∀ cache, node.cache = some cache →
      (cache.revision = node.storage.revision → cache.records = stored) ∧
      (repository codec capacity).Moves cache.records stored

/-- The record of a completed key stays in the storage as it is, and no process
ever holds other content for the key. -/
def CompletedStays (codec : Codec DurableTerminalRecord Raw) (capacity : Nat)
    (before after : Node Raw DurableTerminalRecords) : Prop :=
  ∀ stored key record content, (repository codec capacity).Stores before.storage stored →
    stored.get? key = some record → record.terminal = .completed content →
    (∀ later, (repository codec capacity).Stores after.storage later →
      later.get? key = some record) ∧
    ∀ cache other found, after.cache = some cache → cache.records.get? key = some other →
      other.terminal = .completed found → other = record

/-- A process that comes up holds, and has stored, every record that was stored
before with the prepared ones completed by their restart recovery. -/
def RestartCompletes (codec : Codec DurableTerminalRecord Raw) (capacity : Nat)
    (node : Node Raw DurableTerminalRecords) : Prop :=
  ∀ readable fate stored cache, (repository codec capacity).Stores node.storage stored →
    let next := (repository codec capacity).start readable fate node.storage
    next.cache = some cache →
    cache.records = stored.map recovered ∧
      (repository codec capacity).Stores next.storage cache.records ∧
      ∀ key record, cache.records.get? key = some record → record.isPrepared = false

/-- A call whose write the storage takes. -/
def Taken (node : Node Raw DurableTerminalRecords) : Event V2TerminalCall → Prop
  | .call _ (.applied revision) => node.storage.revision < revision
  | _ => False

/-- As long as every write is taken and nothing restarts, the durable
repository answers as the one in memory. -/
def SimulatesInMemory (codec : Codec DurableTerminalRecord Raw) (capacity : Nat) : Prop :=
  ∀ memory revision, InMemoryV2TerminalRepository.new capacity = .ok memory →
    ∀ calls : List (V2TerminalCall × Nat),
      let node := (repository codec capacity).start true .unavailable ⟨revision, none⟩
      let events := calls.map fun one => Event.call one.1 (.applied one.2)
      Machine.Along (repository codec capacity).step Taken node events →
      ((repository codec capacity).trace node events).map Seen.answer? =
        (Machine.trace InMemoryV2TerminalRepository.call memory (calls.map Prod.fst)).map some

/-- A process that is level with its storage and holds what the repository in
memory stands for. -/
def Level (capacity : Nat) (node : Node Raw DurableTerminalRecords)
    (memory : InMemoryV2TerminalRepository) : Prop :=
  ∃ cache, node.cache = some cache ∧ cache.revision = node.storage.revision ∧
    Represents capacity cache.records memory

lemma Level.step {node : Node Raw DurableTerminalRecords}
    {memory : InMemoryV2TerminalRepository} (prints : Prints codec) (one : V2TerminalCall × Nat)
    (level : Level capacity node memory) (taken : Taken node (.call one.1 (.applied one.2))) :
    let after := (repository codec capacity).step node (.call one.1 (.applied one.2))
    Level capacity after.1 (memory.call one.1).1 ∧
      after.2.answer? = some (memory.call one.1).2 := by
  obtain ⟨storage, held⟩ := node
  obtain ⟨cache, rfl, current, represents⟩ := level
  obtain ⟨same, next⟩ := represents.call one.1
  obtain ⟨after, kept, outcome, records, revision⟩ :=
    (repository codec capacity).call_applied one.1 (exists_encodeRecords prints)
      current taken
  simp only [Repository.step, outcome]
  refine ⟨⟨kept, rfl, revision, ?_⟩, congrArg some same⟩
  rw [records]
  exact next

lemma durable_simulates (range : 0 < capacity ∧ capacity ≤ u32Max) (prints : Prints codec) :
    SimulatesInMemory codec capacity := by
  intro memory revision built calls node events along
  have fresh : memory = ⟨capacity, .empty⟩ := by
    have inRange : ¬(capacity = 0 ∨ u32Max < capacity) := by omega
    simp only [InMemoryV2TerminalRepository.new, if_neg inRange, Except.ok.injEq] at built
    exact built.symm
  have empty : (repository codec capacity).bootstrap (.missing revision) =
      .ok ⟨revision, .empty⟩ := by
    simp only [repository, bootstrap, bootstrap_missing range, bind, Except.bind]
    rfl
  have started : node = ⟨⟨revision, none⟩, some ⟨revision, .empty⟩⟩ := by
    simp only [node, Repository.start, if_true, Storage.read, empty]
    rfl
  have level : Level capacity node memory := by
    rw [started, fresh]
    exact ⟨_, rfl, rfl, rfl, rfl, fun key => .none⟩
  exact Machine.trace_simulated (Level capacity) _ Prod.fst Seen.answer? some
    (fun _ _ one level taken => level.step prints one taken) level along

/-- Over every run of the repository, with restarts and any fate of each write: its
storage can be bootstrapped, at most one prepare of a key is answered as claimed, a
completed record never changes, and a process that comes up has completed whatever
was prepared.  As long as no write fails and nothing restarts it answers as the
repository in memory. -/
theorem terminal_repository_safe (codec : Codec DurableTerminalRecord Raw) (capacity : Nat)
    (storage : Storage Raw) (start : DurableTerminalRecords)
    (starts : (repository codec capacity).Stores storage start)
    (events : List (Event V2TerminalCall)) :
    let node := (repository codec capacity).run ⟨storage, none⟩ events
    Bootstraps codec capacity node ∧
      (∀ key, ((repository codec capacity).trace ⟨storage, none⟩ events).Pairwise
        fun first second => ¬(Repository.Granted (Claims key) first ∧
          Repository.Granted (Claims key) second)) ∧
      (∀ more, CompletedStays codec capacity node ((repository codec capacity).run node more)) ∧
      RestartCompletes codec capacity node ∧
      (Prints codec → SimulatesInMemory codec capacity) := by
  intro node
  obtain ⟨range, valid⟩ := bootstrap_ok starts
  have lawful : (repository codec capacity).Lawful (Valid capacity) fun _ _ => True := lawful range
  have base := Repository.Since.down starts valid
  obtain ⟨stored, consistent, -, -⟩ := base.run_all lawful events
  refine ⟨⟨stored, consistent.stores, fun prints revision larger => ?_, fun cache held => ?_⟩,
    fun key => ?_, fun more => ?_, ?_, durable_simulates range⟩
  · exact consistent.start_serves (exists_encodeRecords prints) larger
  · exact ⟨consistent.current held, consistent.moves held⟩
  · obtain ⟨_, down, -, -⟩ := base
    exact (claimedOnce key).trace lawful down events
  · intro before key record content stores bound completed
    cases consistent.stores.unique stores
    obtain ⟨stored', after, ahead⟩ := consistent.run_all lawful more
    obtain ⟨last, kept, -, same⟩ := evolves_keeps ahead key record bound
    have record_kept := same content completed
    subst record_kept
    refine ⟨fun later stores_later => ?_, fun cache other found held cached finished => ?_⟩
    · exact (after.stores.unique stores_later) ▸ kept
    · have behind := evolves_keeps (after.moves held).to_reflTransGen
      obtain ⟨again, kept_again, -, same_again⟩ := behind key other cached
      have other_kept := same_again found finished
      exact other_kept.symm.trans (some.inj (kept_again.symm.trans kept))
  · intro readable fate before cache stores next up
    cases consistent.stores.unique stores
    have records : cache.records = stored.map recovered := by
      rw [consistent.start_recovers lawful up]
      exact recovery_getD stored
    obtain ⟨stored', after, -, holds⟩ := consistent.start lawful readable fate
    have same := holds cache up
    refine ⟨records, same ▸ after.stores, fun key record bound => ?_⟩
    rw [records, get?_map, map_eq_some_iff] at bound
    obtain ⟨old, -, rfl⟩ := bound
    exact recovered_isPrepared old

def sampleDigest (digit : Char) : String := "sha256:" ++ String.ofList (List.replicate 64 digit)

def sampleScope : V2TerminalScope := ⟨"key-1", sampleDigest 'a', by decide⟩

def sampleTerminal : TerminalReceipt where
  schemaVersion := 1
  requestId := "request-1"
  commandId := "command-1"
  operationId := "operation-1"
  requesterId := "requester-1"
  target := ⟨.macos, "node-1", "session-1", sampleDigest 'b'⟩
  method := "camera.capture"
  resource := .camera
  idempotencyKey := sampleScope.idempotencyKey
  bindingDigest := sampleDigest 'c'
  executionOutcome := .effectUnknown
  deliveryOutcome := .notStarted
  terminalRevision := 1
  failure := some ⟨.platformDispatch, .restartRecoveryRequired, .unknown,
    .manualVerificationRequired, .manualEffectVerification, none, sampleDigest 'c'⟩

def sampleContent (correlationId : String) : V2TerminalResponseContent where
  __ := sampleTerminal
  schemaVersion := 2
  correlationId := correlationId
  causationId := "message-1"
  targetInstanceId := "node-1"
  targetSessionId := "session-1"
  targetFingerprint := sampleDigest 'b'
  targetScopeDigest := none
  terminal := sampleTerminal
  artifact := none

/-- A key is prepared, its content is completed by a write that is not reported, and the
process starts again. -/
def sampleNode : Node DurableTerminalRecord DurableTerminalRecords :=
  (repository (.plain DurableTerminalRecord) 1).run ⟨⟨0, none⟩, none⟩
    [.restart true .unavailable, .call (.prepare sampleScope (sampleContent "first")) (.applied 1),
      .call (.complete sampleScope (sampleContent "second")) (.unreported 2),
      .restart true .unavailable]

theorem terminal_repository_safe_sample :
    (Bootstraps (.plain DurableTerminalRecord) 1 sampleNode ∧
        RestartCompletes (.plain DurableTerminalRecord) 1 sampleNode) ∧
      sampleNode.cache.map (fun cache => cache.records.values.map (·.terminal)) =
        some [.completed (sampleContent "second")] := by
  have safe := terminal_repository_safe (.plain DurableTerminalRecord) 1 ⟨0, none⟩ .empty rfl
    [.restart true .unavailable, .call (.prepare sampleScope (sampleContent "first")) (.applied 1),
      .call (.complete sampleScope (sampleContent "second")) (.unreported 2),
      .restart true .unavailable]
  exact ⟨⟨safe.1, safe.2.2.2.1⟩, by decide +kernel⟩

end DurableV2TerminalRepository

end Knowbee
