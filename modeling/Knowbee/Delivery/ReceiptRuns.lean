import Knowbee.Delivery.Receipt

/-!
# Runs of the delivery receipt store

A commit registers a fresh receipt or advances one by a single state and a single delivery
revision (`Change`).  From this every run keeps `Progress`: the binding of a receipt never
changes, its state only moves forward, and its delivery revision counts exactly the states it has
passed.
-/

namespace Knowbee

open CasStore V2DeliveryReceiptState RecordStore Repository

/-! ## The progress of a receipt -/

/-- The states in the order a receipt passes them. -/
def V2DeliveryReceiptState.rank : V2DeliveryReceiptState → Nat
  | .queued => 0
  | .published => 1
  | .consumerAcknowledged => 2

namespace V2DeliveryReceipt

/-- `later` has the binding of `receipt`, is no earlier in its life, and has
counted one delivery revision for each state in between. -/
structure Progress (receipt later : V2DeliveryReceipt) : Prop where
  binding : later.toV2DeliveryBinding = receipt.toV2DeliveryBinding
  forward : receipt.state.rank ≤ later.state.rank
  counted : later.deliveryRevision =
    receipt.deliveryRevision + (later.state.rank - receipt.state.rank)

/-- One transition: to the next state, with the next revision. -/
inductive Advances (receipt : V2DeliveryReceipt) : V2DeliveryReceipt → Prop where
  | published : receipt.state = .queued →
      Advances receipt { receipt with
        state := .published, deliveryRevision := u64Add receipt.deliveryRevision 1 }
  | acknowledged : receipt.state = .published →
      Advances receipt { receipt with
        state := .consumerAcknowledged, deliveryRevision := u64Add receipt.deliveryRevision 1 }

/-- What holds of every receipt of a run: it is valid, and its revision has not
counted more than the states it can have passed since its registration. -/
structure Sound (receipt : V2DeliveryReceipt) : Prop where
  valid : receipt.validate = true
  counted : receipt.deliveryRevision ≤ 1 + receipt.state.rank

variable {receipt later last : V2DeliveryReceipt}

lemma Progress.refl (receipt : V2DeliveryReceipt) : Progress receipt receipt :=
  ⟨rfl, Nat.le_refl _, by omega⟩

lemma Progress.trans (early : Progress receipt later) (late : Progress later last) :
    Progress receipt last := by
  have forward := early.forward
  have onward := late.forward
  have counted := early.counted
  have recounted := late.counted
  exact ⟨late.binding.trans early.binding, by omega, by omega⟩

lemma Sound.u64Add_one (sound : Sound receipt) :
    u64Add receipt.deliveryRevision 1 = receipt.deliveryRevision + 1 := by
  have counted := sound.counted
  have rank : receipt.state.rank ≤ 2 := by cases receipt.state <;> decide
  exact Nat.mod_eq_of_lt (by omega)

lemma validate_eq_true : receipt.validate = true ↔ receipt.schemaVersion = deliverySchemaVersion ∧
      [receipt.receiptId, receipt.requesterId, receipt.requestId, receipt.commandId,
        receipt.operationId, receipt.idempotencyKey, receipt.targetInstanceId,
        receipt.targetSessionId].all validateIdentifier = true ∧
      isSha256Digest receipt.targetFingerprint = true ∧
      isSha256Digest receipt.responseDigest = true ∧
      0 < receipt.terminalRevision ∧ 0 < receipt.deliveryRevision ∧
      (receipt.state ≠ .consumerAcknowledged ∨ 2 ≤ receipt.deliveryRevision) := by
  simp [validate, Bool.and_eq_true, beq_iff_eq, decide_eq_true_eq, Bool.or_eq_true, and_assoc]

lemma Advances.progress (sound : Sound receipt) (advances : Advances receipt later) :
    Progress receipt later := by
  have word := sound.u64Add_one
  cases advances with
  | published state => refine ⟨rfl, ?_, ?_⟩ <;> simp only [state, rank] <;> omega
  | acknowledged state => refine ⟨rfl, ?_, ?_⟩ <;> simp only [state, rank] <;> omega

lemma Advances.sound (sound : Sound receipt) (advances : Advances receipt later) :
    Sound later := by
  have word := sound.u64Add_one
  have counted := sound.counted
  obtain ⟨version, names, fingerprint, digest, terminal, positive, -⟩ :=
    validate_eq_true.mp sound.valid
  cases advances with
  | published state =>
    refine ⟨validate_eq_true.mpr ⟨version, names, fingerprint, digest, terminal, ?_, .inl nofun⟩, ?_⟩
    · simp only [word]
      omega
    · simp only [word, state, rank] at counted ⊢
      omega
  | acknowledged state =>
    refine ⟨validate_eq_true.mpr
      ⟨version, names, fingerprint, digest, terminal, ?_, .inr ?_⟩, ?_⟩
    · simp only [word]
      omega
    · simp only [word]
      omega
    · simp only [word, state, rank] at counted ⊢
      omega

end V2DeliveryReceipt

lemma BuiltDeliveryReceipt.sound (built : BuiltDeliveryReceipt) : built.receipt.Sound :=
  ⟨built.valid, by rw [built.first]; omega⟩

namespace DurableV2Delivery

open V2DeliveryReceipt

variable {Raw : Type} {codec : Codec V2DeliveryReceipt Raw} {capacity : Nat}

/-! ## What a commit changes -/

/-- The two commits of the store: a fresh receipt, and one transition of a
receipt it holds. -/
inductive Change (capacity : Nat) (receipts : DeliveryReceipts) : DeliveryReceipts → Prop where
  | registered (built : BuiltDeliveryReceipt) :
      receipts.get? built.receipt.receiptId = none → receipts.size < capacity →
      Change capacity receipts (receipts.insert built.receipt.receiptId built.receipt)
  | advanced {receiptId : String} {receipt later : V2DeliveryReceipt} :
      receipts.get? receiptId = some receipt → receipt.Advances later →
      Change capacity receipts (receipts.insert receiptId later)

def Answer.isCommitted : Answer → Bool
  | .register .registered => true
  | .markPublished (.published _) => true
  | .acknowledge (.accepted _) => true
  | _ => false

/-- A call is an acknowledgement of `receiptId` that was newly accepted. -/
def Accepts (receiptId : String) : Call → Answer → Prop
  | .acknowledge binding, .acknowledge (.accepted _) => binding.receiptId = receiptId
  | _, _ => False

def Acknowledged (receiptId : String) (receipts : DeliveryReceipts) : Prop :=
  ∃ receipt, receipts.get? receiptId = some receipt ∧ receipt.state = .consumerAcknowledged

section Plans

variable {receipts next : DeliveryReceipts}

lemma register_commit {built : BuiltDeliveryReceipt}
    {answer : Committed → V2DeliveryRegisterResult}
    (planned : register capacity built.receipt receipts = .commit next answer) :
    Change capacity receipts next ∧
      answer = fun committed => committed.ifWritten .registered .unavailable := by
  unfold register at planned
  cases bound : receipts.get? built.receipt.receiptId with
  | some existing =>
    simp only [bound] at planned
    split_ifs at planned
  | none =>
    simp only [bound] at planned
    split_ifs at planned with invalid full
    cases planned
    exact ⟨.registered built bound (not_le.mp full), rfl⟩

lemma markPublished_commit {receiptId : String} {answer : Committed → V2DeliveryPublishResult}
    (planned : markPublished receiptId receipts = .commit next answer) :
    Change capacity receipts next ∧ ∃ deliveryRevision,
      answer = fun committed => committed.ifWritten (.published deliveryRevision) .unavailable := by
  unfold markPublished at planned
  cases bound : receipts.get? receiptId with
  | none => simp [bound] at planned
  | some receipt =>
    simp only [bound] at planned
    cases state : receipt.state with
    | queued =>
      simp only [state] at planned
      cases planned
      exact ⟨.advanced bound (.published state), _, rfl⟩
    | published => simp [state] at planned
    | consumerAcknowledged => simp [state] at planned

lemma acknowledge_commit {binding : V2DeliveryAckBinding}
    {answer : Committed → V2DeliveryAckStoreResult}
    (planned : acknowledge binding receipts = .commit next answer) :
    Change capacity receipts next ∧ Acknowledged binding.receiptId next ∧
      ¬Acknowledged binding.receiptId receipts ∧ ∃ deliveryRevision,
      answer = fun committed => committed.ifWritten (.accepted deliveryRevision) .unavailable := by
  unfold acknowledge at planned
  cases bound : receipts.get? binding.receiptId with
  | none => simp [bound] at planned
  | some receipt =>
    simp only [bound] at planned
    split at planned
    · cases state : receipt.state with
      | queued => simp [state] at planned
      | consumerAcknowledged => simp [state] at planned
      | published =>
        simp only [state] at planned
        cases planned
        refine ⟨.advanced bound (.acknowledged state), ?_, ?_, _, rfl⟩
        · exact ⟨_, (SortedMap.get?_insert ..).trans (if_pos rfl), rfl⟩
        rintro ⟨other, held, acknowledged⟩
        cases bound.symm.trans held
        rw [state] at acknowledged
        cases acknowledged
    · cases planned

lemma acknowledge_reply {binding : V2DeliveryAckBinding} {result : V2DeliveryAckStoreResult}
    (planned : acknowledge binding receipts = .reply result) (deliveryRevision : Nat) :
    result ≠ .accepted deliveryRevision := by
  unfold acknowledge at planned
  cases bound : receipts.get? binding.receiptId with
  | none =>
    simp only [bound] at planned
    cases planned
    exact nofun
  | some receipt =>
    simp only [bound] at planned
    split at planned
    · cases state : receipt.state <;> simp only [state] at planned <;> cases planned <;> exact nofun
    · next other =>
      cases planned
      exact other deliveryRevision

end Plans

/-- A call commits one of the two changes, and its answer reports it exactly
when it was written. -/
lemma plan_commit {call : Call} {receipts next : DeliveryReceipts}
    {answer : Committed → Answer} (planned : plan capacity call receipts = .commit next answer) :
    Change capacity receipts next ∧
      ∀ committed, (answer committed).isCommitted = true ↔ committed = .written := by
  cases call with
  | register built =>
    obtain ⟨inner, own, rfl⟩ := Plan.map_eq_commit planned
    obtain ⟨change, rfl⟩ := register_commit own
    exact ⟨change, fun committed => by cases committed <;> decide⟩
  | markPublished receiptId =>
    obtain ⟨inner, own, rfl⟩ := Plan.map_eq_commit planned
    obtain ⟨change, deliveryRevision, rfl⟩ := markPublished_commit own
    exact ⟨change, fun committed => by
      cases committed <;> simp [Answer.isCommitted, Committed.ifWritten]⟩
  | acknowledge binding =>
    obtain ⟨inner, own, rfl⟩ := Plan.map_eq_commit planned
    obtain ⟨change, -, -, deliveryRevision, rfl⟩ := acknowledge_commit own
    exact ⟨change, fun committed => by
      cases committed <;> simp [Answer.isCommitted, Committed.ifWritten]⟩
  | loadExact receiptId => cases planned
  | resolveReceiptId candidate => cases planned

/-! ## What every change keeps -/

/-- Sound receipts under their own ids, within the capacity. -/
abbrev Valid (capacity : Nat) : DeliveryReceipts → Prop :=
  Within (fun receipt => receipt.receiptId) capacity V2DeliveryReceipt.Sound

/-- Every receipt is still there, unchanged or one transition further. -/
def Steps (before after : DeliveryReceipts) : Prop :=
  ∀ receiptId receipt, before.get? receiptId = some receipt →
    ∃ later, after.get? receiptId = some later ∧ (later = receipt ∨ receipt.Advances later) ∧
      receipt.Progress later

def Progresses (before after : DeliveryReceipts) : Prop :=
  ∀ receiptId receipt, before.get? receiptId = some receipt →
    ∃ later, after.get? receiptId = some later ∧ receipt.Progress later

lemma Steps.refl (receipts : DeliveryReceipts) : Steps receipts receipts :=
  fun _ receipt bound => ⟨receipt, bound, .inl rfl, .refl receipt⟩

lemma Steps.progresses {before after : DeliveryReceipts} (steps : Steps before after) :
    Progresses before after := by
  intro receiptId receipt bound
  obtain ⟨later, later_bound, -, progress⟩ := steps receiptId receipt bound
  exact ⟨later, later_bound, progress⟩

lemma Progresses.trans {first second third : DeliveryReceipts}
    (early : Progresses first second) (late : Progresses second third) :
    Progresses first third := by
  intro receiptId receipt bound
  obtain ⟨middle, middle_bound, progress⟩ := early receiptId receipt bound
  obtain ⟨last, last_bound, onward⟩ := late receiptId middle middle_bound
  exact ⟨last, last_bound, progress.trans onward⟩

section Changes

variable {receipts next : DeliveryReceipts}

lemma Change.valid (change : Change capacity receipts next) (valid : Valid capacity receipts) :
    Valid capacity next := by
  cases change with
  | registered built free room => exact valid.insert_new free room built.sound
  | @advanced receiptId receipt later bound advances =>
    have named : later.receiptId = receiptId := by
      have own : receipt.receiptId = receiptId := valid.keyed _ _ bound
      cases advances <;> exact own
    subst named
    exact valid.replace bound (advances.sound (valid.each bound))

lemma Change.steps (change : Change capacity receipts next) (valid : Valid capacity receipts) :
    Steps receipts next := by
  intro receiptId receipt bound
  cases change with
  | registered built free room =>
    refine ⟨receipt, ?_, .inl rfl, .refl receipt⟩
    rw [SortedMap.get?_insert, if_neg, bound]
    rintro rfl
    rw [free] at bound
    cases bound
  | @advanced changedId old later held advances =>
    rw [SortedMap.get?_insert]
    split_ifs with same
    · subst same
      cases held.symm.trans bound
      exact ⟨later, rfl, .inr advances, advances.progress (valid.each bound)⟩
    · exact ⟨receipt, bound, .inl rfl, .refl receipt⟩

lemma Change.acknowledged {receiptId : String} (change : Change capacity receipts next)
    (valid : Valid capacity receipts) (acknowledged : Acknowledged receiptId receipts) :
    Acknowledged receiptId next := by
  obtain ⟨receipt, bound, state⟩ := acknowledged
  obtain ⟨later, later_bound, -, progress⟩ := change.steps valid receiptId receipt bound
  refine ⟨later, later_bound, ?_⟩
  have forward := progress.forward
  rw [state] at forward
  cases reached : later.state with
  | consumerAcknowledged => rfl
  | queued => simp [reached, rank] at forward
  | published => simp [reached, rank] at forward

end Changes

/-! ## The store over a run -/

lemma decode_print {receipt : V2DeliveryReceipt} {raw : Raw} (valid : receipt.validate = true)
    (printed : codec.print receipt = some raw) : decode codec raw = .ok receipt := by
  simp [decode, codec.parse_print printed, valid]

lemma commits_change {receipts next : DeliveryReceipts}
    (commits : (repository codec capacity).Commits receipts next) :
    Change capacity receipts next := by
  cases commits with
  | plan call answer planned => exact (plan_commit planned).1
  | recovery recovered => cases recovered

lemma lawful (range : 0 < capacity ∧ capacity ≤ u32Max) :
    (repository codec capacity).Lawful (Valid capacity) fun _ _ => True where
  bootstrap_unavailable := ⟨_, bootstrap_unavailable range⟩
  bootstrap_encode := bootstrap_encodeRecords range
    fun _ _ sound printed => decode_print sound.valid printed
  plan_valid valid _ planned := (plan_commit planned).1.valid valid
  recovery_valid _ recovered := nomatch recovered

lemma grantsOnce (receiptId : String) :
    (repository codec capacity).GrantsOnce (Valid capacity) (Accepts receiptId)
      (Acknowledged receiptId) where
  reply {call receipts answer} planned accepted := by
    cases call with
    | acknowledge binding =>
      cases own : acknowledge binding receipts with
      | commit next inner => simp [repository, plan, own, Plan.map] at planned
      | reply result =>
        simp only [repository, plan, own, Plan.map, Plan.reply.injEq] at planned
        subst planned
        cases result with
        | accepted deliveryRevision => exact acknowledge_reply own deliveryRevision rfl
        | _ => exact accepted
    | _ => exact accepted
  commit {call receipts next answer committed} planned accepted := by
    cases call with
    | acknowledge binding =>
      obtain ⟨inner, own, rfl⟩ := Plan.map_eq_commit planned
      obtain ⟨-, after, before, deliveryRevision, rfl⟩ :=
        @acknowledge_commit capacity _ _ binding _ own
      cases committed with
      | written =>
        have same : binding.receiptId = receiptId := accepted
        exact ⟨rfl, same ▸ after, same ▸ before⟩
      | conflict => exact accepted.elim
      | unavailable => exact accepted.elim
    | _ => exact accepted.elim
  keep valid commits acknowledged := (commits_change commits).acknowledged valid acknowledged

lemma moves_steps {before after : DeliveryReceipts} (valid : Valid capacity before)
    (moves : (repository codec capacity).Moves before after) : Steps before after := by
  cases moves with
  | refl => exact .refl before
  | single commits => exact (commits_change commits).steps valid

lemma evolves_progresses {before after : DeliveryReceipts} (valid : Valid capacity before)
    (evolves : (repository codec capacity).Evolves before after) : Progresses before after := by
  have both : Valid capacity after ∧ Progresses before after := by
    refine Repository.Evolves.keeps
      (P := fun receipts => Valid capacity receipts ∧ Progresses before receipts)
      (fun holds commits => ?_) evolves ⟨valid, (Steps.refl before).progresses⟩
    have change := commits_change commits
    exact ⟨change.valid holds.1, holds.2.trans (change.steps holds.1).progresses⟩
  exact both.2

/-- What is stored can be bootstrapped; a process holds exactly that, or is
behind it by one commit it was not told of. -/
def Bootstraps (codec : Codec V2DeliveryReceipt Raw) (capacity : Nat)
    (node : Node Raw DeliveryReceipts) : Prop :=
  ∃ stored, (repository codec capacity).Stores node.storage stored ∧
    ∀ cache, node.cache = some cache →
      (cache.revision = node.storage.revision → cache.records = stored) ∧
      (repository codec capacity).Moves cache.records stored

/-- One event advances each receipt, in memory and in the storage, by at most
one transition. -/
def EventSteps (codec : Codec V2DeliveryReceipt Raw) (capacity : Nat)
    (node : Node Raw DeliveryReceipts) : Prop :=
  ∀ event, let next := ((repository codec capacity).step node event).1
    (∀ cache later, node.cache = some cache → next.cache = some later →
      Steps cache.records later.records) ∧
    ∀ stored later, (repository codec capacity).Stores node.storage stored →
      (repository codec capacity).Stores next.storage later → Steps stored later

/-- A call that does not answer a commit leaves the memory as it was, and the
storage too unless the storage took the write of that call and did not say so,
in which case it holds what the call was committing. -/
def FailuresKeep (codec : Codec V2DeliveryReceipt Raw) (capacity : Nat)
    (node : Node Raw DeliveryReceipts) : Prop :=
  ∀ call fate after cache kept answer, node.cache = some cache →
    (repository codec capacity).call call fate node.storage cache = (after, kept, answer) →
    answer.isCommitted = false →
    kept = cache ∧ (after = node.storage ∨
      (∃ revision, fate = .unreported revision) ∧ ∃ next reply,
        plan capacity call cache.records = .commit next reply ∧
          (repository codec capacity).Stores after next)

/-- Over every run of the store, with restarts and any fate of each write: its
storage can be bootstrapped to what it committed, each event advances a receipt by
at most one transition, a receipt keeps its binding and only moves forward, at most
one acknowledgement of it is newly accepted, and a failed call changes nothing but
what the storage took of it. -/
theorem delivery_receipts_safe (codec : Codec V2DeliveryReceipt Raw) (capacity : Nat)
    (range : 0 < capacity ∧ capacity ≤ u32Max) (revision : Nat) (events : List (Event Call)) :
    let node := (repository codec capacity).run ⟨⟨revision, none⟩, none⟩ events
    Bootstraps codec capacity node ∧ EventSteps codec capacity node ∧
      (∀ more cache later, node.cache = some cache →
        ((repository codec capacity).run node more).cache = some later →
        Progresses cache.records later.records) ∧
      (∀ receiptId, ((repository codec capacity).trace ⟨⟨revision, none⟩, none⟩ events).Pairwise
        fun first second => ¬(Granted (Accepts receiptId) first ∧
          Granted (Accepts receiptId) second)) ∧
      FailuresKeep codec capacity node := by
  intro node
  have lawful : (repository codec capacity).Lawful (Valid capacity) fun _ _ => True := lawful range
  have empty : (repository codec capacity).Stores ⟨revision, none⟩ .empty :=
    bootstrap_missing range revision
  have start := Repository.Since.down empty (within_empty : Valid capacity .empty)
  obtain ⟨stored, consistent, -, -⟩ := start.run_all lawful events
  refine ⟨⟨stored, consistent.stores, fun cache held => ?_⟩, fun event => ⟨?_, ?_⟩, ?_, ?_, ?_⟩
  · exact ⟨consistent.current held, consistent.moves held⟩
  · intro cache later held after
    exact moves_steps (consistent.cache_valid held) (consistent.step_moves lawful (fun _ => rfl)
      (permits_all _ node event) held after)
  · intro before after stores stores_after
    obtain ⟨stored', next, moves, -⟩ :=
      consistent.step lawful event (permits_all _ node event)
    cases consistent.stores.unique stores
    cases next.stores.unique stores_after
    exact moves_steps consistent.valid moves
  · intro more cache later held after
    obtain ⟨-, -, -, onward⟩ := (consistent.since held).run_all lawful more
    exact evolves_progresses (consistent.cache_valid held) (onward later after)
  · intro receiptId
    exact (grantsOnce receiptId).trace lawful
      (.down empty (within_empty : Valid capacity .empty)) events
  · intro call fate after cache kept answer held run failed
    have same : kept = cache := by
      rcases call_kept run with same | ⟨next, reply, planned, rfl, -⟩
      · exact same
      · have written := ((plan_commit planned).2 .written).mpr rfl
        simp [written] at failed
    subst same
    refine ⟨rfl, ?_⟩
    rcases consistent.call_unreported lawful held trivial run with
      unchanged | ⟨fated, next, reply, planned, -, stores⟩
    · exact .inl unchanged
    · exact .inr ⟨fated, next, reply, planned, stores⟩

/-! ## A write the caller was not told of -/

def sampleReceipt : BuiltDeliveryReceipt := ⟨queuedReceipt "receipt-1", by decide, rfl⟩

/-- The store of one receipt after its first start and the registration. -/
def sampleNode : Node V2DeliveryReceipt DeliveryReceipts :=
  (repository (.plain V2DeliveryReceipt) 1).run ⟨⟨0, none⟩, none⟩
    [.restart true .unavailable, .call (.register sampleReceipt) (.applied 1)]

/-- The run above meets the assumptions of `delivery_receipts_safe`. -/
theorem delivery_receipts_safe_sample :
    Bootstraps (.plain V2DeliveryReceipt) 1 sampleNode ∧
      EventSteps (.plain V2DeliveryReceipt) 1 sampleNode :=
  have safe := delivery_receipts_safe (.plain V2DeliveryReceipt) 1 (by decide) 0
    [.restart true .unavailable, .call (.register sampleReceipt) (.applied 1)]
  ⟨safe.1, safe.2.1⟩

/-- A publish mark that is answered as unavailable although the storage took
it: the call failed, and the stored receipt is published all the same. -/
theorem failed_publish_is_stored :
    let repo := repository (.plain V2DeliveryReceipt) 1
    let later := repo.step sampleNode (.call (.markPublished "receipt-1") (.unreported 2))
    later.2 = .answered (.markPublished "receipt-1") (.markPublished .unavailable) ∧
      ∃ before after, repo.Stores sampleNode.storage before ∧
        repo.Stores later.1.storage after ∧ before ≠ after := by
  refine ⟨rfl, _, _, rfl, rfl, ?_⟩
  decide

end DurableV2Delivery

end Knowbee
