import Knowbee.Cancellation.StoreRuns
import Knowbee.Cancellation.UseCase
import Knowbee.Command.RegistryRuns

/-!
# Cancellations beside each other

Any number of calls for one control run beside whatever else the process does at the registry and
at the store, with any fate of every write.  Every call stands somewhere with the receipt of the
control (`Stage`), and the receipt in memory, the receipt in the storage, the signal of the
command and the outcomes returned agree with where the calls stand (`Agrees`).
-/

namespace Knowbee

open CasStore Prog.Obeys CancellationReceiptKey DurableCancellationStore Function Repository

namespace DurableCancellationStore

/-! ## The receipt of a key -/

def outcome? (key : CancellationReceiptKey) (receipts : CancellationReceipts) :
    Option CancellationReceiptOutcome :=
  match load key receipts with
  | .exact receipt => some receipt.outcome
  | _ => none

section Slots

variable {capacity : Nat} {key : CancellationReceiptKey} {receipts next : CancellationReceipts}
  {receipt : DurableCancellationReceipt} {outcome : CancellationReceiptOutcome}

lemma outcome?_eq_some : outcome? key receipts = some outcome ↔
    ∃ receipt, receipts.get? key.storageKey = some receipt ∧ receipt.key = key ∧
      receipt.outcome = outcome := by
  unfold outcome? load
  cases receipts.get? key.storageKey with
  | none => simp
  | some receipt => by_cases same : receipt.key = key <;> simp [same]

lemma outcome?_of_free (free : receipts.get? key.storageKey = none) :
    outcome? key receipts = none := by
  simp [outcome?, load, free]

lemma load_exact (loaded : load key receipts = .exact receipt) :
    receipt.key = key ∧ outcome? key receipts = some receipt.outcome := by
  refine ⟨?_, by simp [outcome?, loaded]⟩
  unfold load at loaded
  cases bound : receipts.get? key.storageKey with
  | none => simp [bound] at loaded
  | some existing =>
    simp only [bound] at loaded
    split_ifs at loaded with same
    cases loaded
    exact same

lemma outcome?_insert : outcome? receipt.key (receipts.insert receipt.key.storageKey receipt) =
    some receipt.outcome :=
  outcome?_eq_some.mpr ⟨receipt, by simp, rfl, rfl⟩

lemma Change.outcome?_other (change : Change capacity receipts receipt next)
    (other : receipt.key ≠ key) (cancellation : key.terminalCommand = false) :
    outcome? key next = outcome? key receipts := by
  have replaced (before : CancellationReceipts) (same : key.storageKey = receipt.key.storageKey) :
      outcome? key (before.insert receipt.key.storageKey receipt) = none := by
    simp [outcome?, load, same, other]
  by_cases same : key.storageKey = receipt.key.storageKey
  · cases change with
    | added free room => rw [replaced _ same, outcome?_of_free (same ▸ free)]
    | replaced free full found => rw [replaced _ same, outcome?_of_free (same ▸ free)]
    | @finalized existing bound identity prepared =>
      have foreign : existing.key ≠ key := fun own => other (identity.symm.trans own)
      rw [replaced _ same]
      simp [outcome?, load, same, bound, foreign]
  · cases change with
    | added free room => simp [outcome?, load, same]
    | finalized bound identity prepared => simp [outcome?, load, same]
    | @replaced oldest free full found =>
      obtain ⟨evicted, bound, command, -⟩ := oldestTerminal_spec found
      by_cases evicts : key.storageKey = oldest
      · subst evicts
        have foreign : evicted.key ≠ key := by
          rintro rfl
          rw [cancellation] at command
          cases command
        simp [outcome?, load, same, bound, foreign]
      · simp [outcome?, load, same, evicts]

/-! ## What the calls of a cancellation find and leave -/

lemma beginReceipt_spec (capacity : Nat) (receipts : CancellationReceipts)
    (key_eq : receipt.key = key) :
    match beginReceipt capacity receipt receipts with
    | .reply result => result ≠ .prepared ∧
        (result = .alreadyPrepared → outcome? key receipts = some .prepared)
    | .commit next answer => outcome? key receipts = none ∧
        outcome? key next = some .prepared ∧
        answer = fun committed => committed.ifWritten .prepared .unavailable := by
  subst key_eq
  unfold beginReceipt
  cases bound : receipts.get? receipt.key.storageKey with
  | some existing =>
    simp only
    split_ifs with prepared other pending
    · exact ⟨nofun, nofun⟩
    · exact ⟨nofun, nofun⟩
    · exact ⟨nofun, fun _ => outcome?_eq_some.mpr ⟨existing, bound, not_not.mp other, pending⟩⟩
    · exact ⟨nofun, nofun⟩
  | none =>
    simp only
    split_ifs with prepared full
    · exact ⟨nofun, nofun⟩
    · exact ⟨nofun, nofun⟩
    · exact ⟨outcome?_of_free bound, by rw [outcome?_insert, not_not.mp prepared], rfl⟩

lemma finalize_spec (receipts : CancellationReceipts) (key_eq : receipt.key = key) :
    match finalize receipt receipts with
    | .reply result => result ≠ .finalized ∧ (result = .alreadyFinalized →
        ∃ outcome, outcome? key receipts = some outcome ∧ outcome ≠ .prepared)
    | .commit next answer => outcome? key receipts = some .prepared ∧
        outcome? key next = some receipt.outcome ∧
        answer = fun committed => committed.ifWritten .finalized .unavailable := by
  subst key_eq
  unfold finalize
  split_ifs with prepared
  · exact ⟨nofun, nofun⟩
  · cases bound : receipts.get? receipt.key.storageKey with
    | none => exact ⟨nofun, nofun⟩
    | some existing =>
      simp only
      split_ifs with other ended
      · exact ⟨nofun, nofun⟩
      · exact ⟨nofun, fun _ => ⟨existing.outcome,
          outcome?_eq_some.mpr ⟨existing, bound, not_not.mp other, rfl⟩, ended⟩⟩
      · exact ⟨outcome?_eq_some.mpr ⟨existing, bound, not_not.mp other, not_not.mp ended⟩,
          outcome?_insert, rfl⟩

lemma storeTerminal_spec (capacity : Nat) (receipts : CancellationReceipts)
    (key_eq : receipt.key = key) :
    match storeTerminal capacity receipt receipts with
    | .reply result => result ≠ .stored ∧
        (result = .alreadyStored → outcome? key receipts = some receipt.outcome)
    | .commit next answer => outcome? key receipts = none ∧
        outcome? key next = some receipt.outcome ∧
        answer = fun committed => committed.ifWritten .stored .unavailable := by
  subst key_eq
  unfold storeTerminal
  cases bound : receipts.get? receipt.key.storageKey with
  | some existing =>
    simp only
    split_ifs with prepared same
    · exact ⟨nofun, nofun⟩
    · exact ⟨nofun, fun _ => outcome?_eq_some.mpr ⟨existing, bound, same⟩⟩
    · exact ⟨nofun, nofun⟩
  | none =>
    have free := outcome?_of_free bound
    cases oldestTerminal receipts with
    | none =>
      simp only
      split_ifs
      · exact ⟨nofun, nofun⟩
      · exact ⟨nofun, nofun⟩
      · exact ⟨nofun, nofun⟩
      · exact ⟨free, outcome?_insert, rfl⟩
    | some oldest =>
      simp only
      split_ifs
      · exact ⟨nofun, nofun⟩
      · exact ⟨nofun, nofun⟩
      · exact ⟨free, outcome?_insert, rfl⟩
      · exact ⟨free, outcome?_insert, rfl⟩

end Slots

end DurableCancellationStore

namespace CancelCalls

open DurableCancellationStore

variable {Tid Raw : Type}

/-! ## Calls beside each other -/

def receiptKey (sha256 : Sha256) (control : V2ControlEnvelope) : Option CancellationReceiptKey := do
  let cancellation ← exactCancellation control
  (newExact sha256 control.requestId cancellation).toOption

/-- What the process does: calls for one control, calls at the store for
receipts of others, and calls at the registry. -/
inductive CancelJob (sha256 : Sha256) (control : V2ControlEnvelope) where
  | execute
  | replay
  | store (call : Call)
      (foreign : ∀ receipt, call.receipt? = some receipt →
        receiptKey sha256 control ≠ some receipt.key)
  | registry (call : ActiveCommandRegistry.Call)

/-- The store of a running process, with its storage, and the registry. -/
structure World (Raw : Type) where
  storage : Storage Raw
  cache : Cache CancellationReceipts
  registry : ActiveCommandRegistry

/-- What the environment decides of a step: the fate of a write and the time. -/
structure Choice where
  fate : Fate
  nowMs : Int

variable (codec : CancellationCodec Raw) (capacity : Nat) (sha256 : Sha256)

def World.carry {Res : Type} (world : World Raw) (fate : Fate)
    (plan : Plan CancellationReceipts Res) : Res × World Raw :=
  match plan.execute (RecordStore.encodeRecords (encodeRecord codec)) fate world.storage
      world.cache with
  | (storage, cache, res) => (res, { world with storage, cache })

def handle (choice : Choice) (world : World Raw) : (op : CancelStep) → op.Answer × World Raw
  | .load key => (load key world.cache.records, world)
  | .begin receipt =>
    world.carry codec choice.fate (beginReceipt capacity receipt world.cache.records)
  | .finalize receipt => world.carry codec choice.fate (finalize receipt world.cache.records)
  | .storeTerminal receipt =>
    world.carry codec choice.fate (storeTerminal capacity receipt world.cache.records)
  | .probeExactCancellation cancellation =>
    (world.registry.probeExactCancellation sha256 cancellation, world)
  | .waitForExactCancellationTarget cancellation =>
    (world.registry.probeExactCancellation sha256 cancellation, world)
  | .requestExactCancellation cancellation =>
    match world.registry.requestExactCancellation sha256 cancellation with
    | (result, registry) => (result, { world with registry })
  | .nowMs => (choice.nowMs, world)
  | .store call => ((), (world.carry codec choice.fate
      (plan capacity call world.cache.records)).2)
  | .registry call => ((), { world with registry := world.registry.afterCall sha256 call })

def program (ownerScope : V2CancelOwnerScope) (control : V2ControlEnvelope) :
    CancelJob sha256 control → CancelProg (Option V2CancelAcknowledgement)
  | .execute => do
    let answered ← V2CancelUseCase.execute sha256 ⟨ownerScope, .durable⟩ control
    return some answered
  | .replay => do
    let answered ← V2CancelUseCase.replay sha256 ⟨ownerScope, .durable⟩ control
    return some answered
  | .store call _ => do
    cancelStep (.store call)
    return none
  | .registry call => do
    cancelStep (.registry call)
    return none

def calls (ownerScope : V2CancelOwnerScope) (control : V2ControlEnvelope) :
    Process (CancelJob sha256 control) CancelStep CancelStep.Answer
      (Option V2CancelAcknowledgement) (World Raw) Choice Empty where
  program := program sha256 ownerScope control
  handle := handle codec capacity sha256
  fail := nofun

abbrev CancelPool (Tid Raw : Type) (sha256 : Sha256) (control : V2ControlEnvelope) : Type :=
  Pool Tid (CancelJob sha256 control) CancelStep CancelStep.Answer
    (Option V2CancelAcknowledgement) (World Raw)

/-! ## Where a call stands with the receipt -/

/-- A call has nothing to do with the receipt yet or any more, has prepared it,
was answered by the registry after that, found it prepared, or may return what
it says. -/
inductive Stage where
  | away
  | prepared
  | answered (outcome : CancellationReceiptOutcome)
  | recovering
  | settled (outcome : CancellationReceiptOutcome)

/-- The call has prepared the receipt and may still finalize it. -/
def Stage.Preparing : Stage → Prop
  | prepared => True
  | answered _ => True
  | _ => False

/-- The call has prepared the receipt and may still finalize it with something
else than an acceptance. -/
def Stage.Pending : Stage → Prop
  | prepared => True
  | answered outcome => outcome ≠ .accepted
  | _ => False

lemma Stage.Pending.preparing {stage : Stage} (pending : stage.Pending) : stage.Preparing := by
  cases stage <;> trivial

/-- Where a call that prepares or answers the receipt of a key for a
cancellation may step, and what it stands at then. -/
def rules (control : V2ControlEnvelope) (key : CancellationReceiptKey)
    (cancellation : ExactCancellationRequest) :
    Rules (CancelJob sha256 control) CancelStep CancelStep.Answer Stage where
  start _ := .away
  next
    | _, .load _, .exact receipt =>
      if receipt.outcome = .prepared then .recovering else .settled receipt.outcome
    | _, .load _, _ => .away
    | _, .begin _, .prepared => .prepared
    | _, .begin _, .alreadyPrepared => .settled .prepared
    | _, .begin _, _ => .away
    | _, .finalize receipt, .finalized => .settled receipt.outcome
    | _, .finalize receipt, .alreadyFinalized => .settled receipt.outcome
    | _, .finalize _, _ => .away
    | _, .storeTerminal receipt, .stored => .settled receipt.outcome
    | _, .storeTerminal receipt, .alreadyStored => .settled receipt.outcome
    | _, .storeTerminal _, _ => .away
    | _, .requestExactCancellation _, result =>
      match receiptOutcome result with
      | some outcome => .answered outcome
      | none => .away
    | stage, _, _ => stage
  may
    | stage, .load key' => stage = .away ∧ key' = key
    | stage, .begin receipt => stage = .away ∧ receipt.key = key
    | stage, .finalize receipt => receipt.key = key ∧
        (stage = .answered receipt.outcome ∨ stage = .recovering ∧ receipt.outcome = .accepted)
    | stage, .storeTerminal receipt => stage = .away ∧ receipt.key = key ∧
        (receipt.outcome = .duplicate ∨ receipt.outcome = .alreadyTerminal)
    | stage, .requestExactCancellation request => stage = .prepared ∧ request = cancellation
    | _, .store call => ∀ receipt, call.receipt? = some receipt → receipt.key ≠ key
    | _, _ => True
  gets
    | _, .load _, .exact receipt => receipt.key = key
    | _, _, _ => True

/-! ## Calls that obey -/

/-- An outcome that tells what became of the cancellation. -/
def Definite (outcome : V2CancelOutcome) : Prop :=
  outcome = .accepted ∨ outcome = .duplicate ∨ outcome = .alreadyTerminal

/-- A call returns a definite outcome only from a receipt that says so. -/
def Concludes (stage : Stage) (outcome : V2CancelOutcome) : Prop :=
  Definite outcome → ∃ receipt, stage = .settled receipt ∧ mapReceiptOutcome receipt = outcome

def Ends (stage : Stage) (result : Option V2CancelAcknowledgement) : Prop :=
  ∀ acknowledged, result = some acknowledged → Concludes stage acknowledged.outcome

lemma concludes_indefinite {stage : Stage} {outcome : V2CancelOutcome}
    (indefinite : ¬Definite outcome) : Concludes stage outcome :=
  fun definite => absurd definite indefinite

lemma concludes_unavailable {stage : Stage} : Concludes stage .stateUnavailable :=
  concludes_indefinite (by simp [Definite])

lemma receiptOutcome_eq_none {result : CancellationRequestResult}
    (none : receiptOutcome result = none) : ¬Definite (mapRequestResult result) := by
  cases result <;> simp_all [receiptOutcome, mapRequestResult, Definite]

lemma receipt_new_eq_ok {key : CancellationReceiptKey} {outcome : CancellationReceiptOutcome}
    {nowMs : Int} {receipt : DurableCancellationReceipt}
    (built : DurableCancellationReceipt.new key outcome nowMs = .ok receipt) :
    receipt.key = key ∧ receipt.outcome = outcome := by
  unfold DurableCancellationReceipt.new at built
  split_ifs at built
  cases built
  exact ⟨rfl, rfl⟩

section Obeys

variable {sha256} {control : V2ControlEnvelope} {key : CancellationReceiptKey}
  {cancellation : ExactCancellationRequest} {stage : Stage}

lemma nowMs_obeys {α : Type} {ends : Stage → α → Prop} {onward : Int → CancelProg α}
    (then_obeys : ∀ nowMs, (onward nowMs).Obeys (rules sha256 control key cancellation) ends stage) :
    (cancelStep .nowMs >>= onward).Obeys (rules sha256 control key cancellation) ends stage :=
  perform trivial fun nowMs _ => then_obeys nowMs

lemma built_obeys {own : CancellationReceiptKey} {outcome : CancellationReceiptOutcome}
    {onward : DurableCancellationReceipt → CancelProg V2CancelOutcome}
    (obeys : ∀ receipt : DurableCancellationReceipt, receipt.key = own → receipt.outcome = outcome →
      (onward receipt).Obeys (rules sha256 control key cancellation) Concludes stage) :
    (cancelStep .nowMs >>= fun now => match DurableCancellationReceipt.new own outcome now with
      | .error _ => pure .stateUnavailable
      | .ok receipt => onward receipt).Obeys (rules sha256 control key cancellation) Concludes
        stage := by
  refine nowMs_obeys fun nowMs => ?_
  cases built : DurableCancellationReceipt.new own outcome nowMs with
  | error err => exact concludes_unavailable
  | ok receipt =>
    obtain ⟨same_key, same_outcome⟩ := receipt_new_eq_ok built
    exact obeys receipt same_key same_outcome

lemma concludes_settled {receipt outcome : CancellationReceiptOutcome}
    (same : receipt = outcome) : Concludes (.settled receipt) (mapReceiptOutcome outcome) :=
  fun _ => ⟨receipt, rfl, by rw [same]⟩

lemma recoverReceipt_obeys {receipt : DurableCancellationReceipt} (own : receipt.key = key)
    (stands : stage =
      if receipt.outcome = .prepared then .recovering else .settled receipt.outcome) :
    (recoverReceipt receipt).Obeys (rules sha256 control key cancellation) Concludes stage := by
  unfold recoverReceipt
  refine .ite (fun ended => ?_) fun pending => built_obeys fun accepted same_key same_outcome => ?_
  · rw [if_neg ended] at stands
    exact fun _ => ⟨receipt.outcome, stands, rfl⟩
  · rw [if_pos (not_not.mp pending)] at stands
    refine perform ⟨same_key.trans own, .inr ⟨stands, same_outcome⟩⟩ fun result _ => ?_
    cases result with
    | finalized => exact concludes_settled same_outcome
    | alreadyFinalized => exact concludes_settled same_outcome
    | _ => exact concludes_unavailable

lemma requestPrepared_obeys :
    (requestPrepared key cancellation).Obeys (rules sha256 control key cancellation) Concludes
      .prepared := by
  unfold requestPrepared
  refine perform ⟨rfl, rfl⟩ fun result _ => ?_
  simp only [rules]
  cases answered : receiptOutcome result with
  | none => exact concludes_indefinite (receiptOutcome_eq_none answered)
  | some outcome =>
    refine built_obeys fun terminal same_key same_outcome => ?_
    refine perform ⟨same_key, .inl (by rw [same_outcome])⟩ fun result _ => ?_
    cases result with
    | finalized => exact concludes_settled same_outcome
    | alreadyFinalized => exact concludes_settled same_outcome
    | _ => exact concludes_unavailable

lemma storeProbed_obeys {probed : CancellationProbeResult} :
    (storeProbed key probed).Obeys (rules sha256 control key cancellation) Concludes .away := by
  unfold storeProbed
  simp only
  cases answered : receiptOutcome (probeToRequestResult probed) with
  | none => exact concludes_indefinite (receiptOutcome_eq_none answered)
  | some outcome =>
    have terminal_outcome : outcome = .duplicate ∨ outcome = .alreadyTerminal := by
      cases probed <;> simp_all [probeToRequestResult, receiptOutcome]
    refine built_obeys fun terminal same_key same_outcome => ?_
    refine perform ⟨rfl, same_key, by rwa [same_outcome]⟩ fun result _ => ?_
    cases result with
    | stored => exact concludes_settled same_outcome
    | alreadyStored => exact concludes_settled same_outcome
    | _ => exact concludes_unavailable

lemma prepare_obeys :
    (prepare key cancellation).Obeys (rules sha256 control key cancellation) Concludes .away := by
  unfold prepare
  refine built_obeys fun prepared same_key _ => perform ⟨rfl, same_key⟩ fun result _ => ?_
  cases result with
  | prepared => exact requestPrepared_obeys
  | alreadyPrepared => exact fun _ => ⟨.prepared, rfl, rfl⟩
  | alreadyFinalized =>
    refine perform ⟨rfl, rfl⟩ fun loaded named => ?_
    cases loaded with
    | exact receipt => exact recoverReceipt_obeys named rfl
    | _ => exact concludes_unavailable
  | _ => exact concludes_indefinite (by simp [Definite])

lemma applyProbed_obeys {probed : CancellationProbeResult} :
    (applyProbed key cancellation probed).Obeys (rules sha256 control key cancellation) Concludes
      .away := by
  unfold applyProbed
  cases probed with
  | active => exact prepare_obeys
  | duplicate => exact storeProbed_obeys
  | alreadyTerminal => exact storeProbed_obeys
  | _ => exact concludes_indefinite (by simp [Definite])

-- What a control names is computed from text, which no goal below needs.
attribute [local irreducible] exactCancellation newExact

lemma applyDurable_obeys (named : newExact sha256 control.requestId cancellation = .ok key) :
    (applyDurable sha256 control.requestId cancellation).Obeys
      (rules sha256 control key cancellation) Concludes .away := by
  unfold applyDurable
  rw [named]
  refine perform ⟨rfl, rfl⟩ fun loaded own => ?_
  cases loaded with
  | exact receipt => exact recoverReceipt_obeys own rfl
  | scopeMismatch => exact concludes_indefinite (by simp [Definite])
  | miss =>
    refine perform trivial fun probed _ => ?_
    cases probed with
    | notActive => exact perform trivial fun probed _ => applyProbed_obeys
    | _ => exact applyProbed_obeys

lemma replayDurable_obeys (cancels : exactCancellation control = some cancellation)
    (named : newExact sha256 control.requestId cancellation = .ok key) :
    (replayDurable sha256 .durable control).Obeys (rules sha256 control key cancellation)
      Concludes .away := by
  unfold replayDurable
  rw [cancels]
  simp only [named]
  refine perform ⟨rfl, rfl⟩ fun loaded own => ?_
  cases loaded with
  | exact receipt => exact recoverReceipt_obeys own rfl
  | _ => exact concludes_indefinite (by simp [Definite])

lemma program_obeys (ownerScope : V2CancelOwnerScope)
    (cancels : exactCancellation control = some cancellation)
    (named : newExact sha256 control.requestId cancellation = .ok key)
    (job : CancelJob sha256 control) :
    (program sha256 ownerScope control job).Obeys (rules sha256 control key cancellation) Ends
      ((rules sha256 control key cancellation).start job) := by
  have answers {outcome : CancelProg V2CancelOutcome}
      (obeys : outcome.Obeys (rules sha256 control key cancellation) Concludes .away) :
      (do
        let answered ← (do
          let outcome ←
            if !ownerScope.matchesControl control then pure .targetMismatch else outcome
          return acknowledgement control outcome)
        return some answered : CancelProg (Option V2CancelAcknowledgement)).Obeys
        (rules sha256 control key cancellation) Ends .away := by
    refine bind (fun stage answered => Concludes stage answered.outcome) ?_
      fun stage answered concludes => ?_
    · have mismatch : Concludes .away .targetMismatch := concludes_indefinite (by simp [Definite])
      refine .ite (fun _ => ?_) fun _ => ?_
      · exact bind Concludes (.ret mismatch) fun _ _ concludes => .ret concludes
      · exact bind Concludes obeys fun _ _ concludes => .ret concludes
    · rintro acknowledged ⟨⟩
      exact concludes
  cases job with
  | execute =>
    apply answers
    simp only [applyExact, cancels]
    apply applyDurable_obeys named
  | replay =>
    apply answers
    apply replayDurable_obeys cancels named
  | store call foreign =>
    refine perform (fun receipt called own => foreign receipt called ?_) fun _ _ => nofun
    simp [receiptKey, cancels, named, own, Except.toOption]
  | registry call => exact perform trivial fun _ _ => nofun

end Obeys

/-! ## Agreement -/

/-- A receipt with this outcome, if there is one, says `outcome`. -/
def Says (slot : Option CancellationReceiptOutcome) (outcome : V2CancelOutcome) : Prop :=
  slot.map mapReceiptOutcome = some outcome

/-- An outcome was returned, or a call may return it. -/
def Vouched (returned : V2CancelOutcome → Prop) (gs : Tid → Option Stage)
    (outcome : V2CancelOutcome) : Prop :=
  returned outcome ∨
    ∃ tid receipt, gs tid = some (.settled receipt) ∧ mapReceiptOutcome receipt = outcome

def Stage.Fits (held : Option CancellationReceiptOutcome) (signalled : Prop) : Stage → Prop
  | away => True
  | prepared => held = some .prepared
  | answered outcome => outcome ≠ .prepared ∧ (outcome = .accepted → signalled) ∧
      (held = some .prepared ∨ outcome = .accepted ∧ held = some .accepted)
  | recovering => held ≠ none
  | settled _ => True

/-- The receipt in memory, the receipt in the storage, the signal, the outcomes
returned and the calls that are on their way agree. -/
structure Agrees (held stored : Option CancellationReceiptOutcome) (signalled : Prop)
    (returned : V2CancelOutcome → Prop) (gs : Tid → Option Stage) : Prop where
  final : ∀ outcome, held = some outcome → outcome ≠ .prepared → stored = some outcome
  accepted : held = some .accepted ∨ stored = some .accepted → signalled
  vouched : ∀ outcome, Vouched returned gs outcome →
    Says held outcome ∧ Says stored outcome ∧ (outcome = .accepted → signalled)
  fits : ∀ tid stage, gs tid = some stage → stage.Fits held signalled
  single : ∀ tid tid' stage stage', gs tid = some stage → gs tid' = some stage' →
    stage.Preparing → stage'.Preparing → tid = tid'
  alone : ∀ tid stage, gs tid = some stage → stage.Pending →
    ∀ outcome, ¬Vouched returned gs outcome

/-- A prepared receipt may be taken up for an acceptance: it was accepted
meanwhile, or the signal is set and no call may finalize it otherwise. -/
def MayTakeUp (held : Option CancellationReceiptOutcome) (signalled : Prop)
    (gs : Tid → Option Stage) : Prop :=
  held = some .accepted ∨ held = some .prepared ∧ signalled ∧
    ∀ tid stage, gs tid = some stage → ¬stage.Pending

section Agrees

variable {held stored held' stored' : Option CancellationReceiptOutcome} {signalled : Prop}
  {returned : V2CancelOutcome → Prop} {gs gs' : Tid → Option Stage}

lemma Vouched.mono {outcome : V2CancelOutcome} (vouched : Vouched returned gs' outcome)
    (fewer : ∀ tid stage, gs' tid = some stage → gs tid = some stage ∨ stage = .away) :
    Vouched returned gs outcome := by
  rcases vouched with given | ⟨tid, receipt, settled, told⟩
  · exact .inl given
  · rcases fewer tid _ settled with before | ⟨⟨⟩⟩
    exact .inr ⟨tid, receipt, before, told⟩

lemma Agrees.mono (agrees : Agrees held stored signalled returned gs)
    (fewer : ∀ tid stage, gs' tid = some stage → gs tid = some stage ∨ stage = .away) :
    Agrees held stored signalled returned gs' where
  final := agrees.final
  accepted := agrees.accepted
  vouched outcome vouched := agrees.vouched outcome (vouched.mono fewer)
  fits tid stage found := by
    rcases fewer tid stage found with before | rfl
    · exact agrees.fits tid stage before
    · trivial
  single tid tid' stage stage' one other preparing preparing' := by
    rcases fewer tid stage one with before | rfl
    · rcases fewer tid' stage' other with before' | rfl
      · exact agrees.single tid tid' stage stage' before before' preparing preparing'
      · exact preparing'.elim
    · exact preparing.elim
  alone tid stage found pending := by
    rcases fewer tid stage found with before | rfl
    · intro outcome vouched
      exact agrees.alone tid stage before pending outcome (vouched.mono fewer)
    · exact pending.elim

lemma Agrees.signal {later : Prop} (agrees : Agrees held stored signalled returned gs)
    (set : signalled → later) : Agrees held stored later returned gs where
  final := agrees.final
  accepted told := set (agrees.accepted told)
  vouched outcome vouched := by
    obtain ⟨told, told', needs⟩ := agrees.vouched outcome vouched
    exact ⟨told, told', fun accepted => set (needs accepted)⟩
  fits tid stage found := by
    have fits := agrees.fits tid stage found
    cases stage with
    | answered outcome => exact ⟨fits.1, fun accepted => set (fits.2.1 accepted), fits.2.2⟩
    | _ => exact fits
  single := agrees.single
  alone := agrees.alone

lemma Agrees.away (agrees : Agrees none stored signalled returned gs) :
    (∀ tid stage, gs tid = some stage → stage = .away) ∧ ∀ outcome, ¬returned outcome := by
  have unvouched outcome : ¬Vouched returned gs outcome := by
    intro vouched
    obtain ⟨told, -⟩ := agrees.vouched outcome vouched
    cases told
  refine ⟨fun tid stage found => ?_, fun outcome given => unvouched outcome (.inl given)⟩
  have fits := agrees.fits tid stage found
  cases stage with
  | away => rfl
  | prepared => cases fits
  | answered outcome => simp [Stage.Fits] at fits
  | recovering => exact absurd rfl fits
  | settled receipt => exact absurd (.inr ⟨tid, receipt, found, rfl⟩) (unvouched _)

/-- With every call away or recovering and nothing returned, any receipt will do
that is signalled where it says so. -/
lemma Agrees.fresh
    (idle : ∀ tid stage, gs tid = some stage → stage = .away ∨ stage = .recovering ∧ held ≠ none)
    (unreturned : ∀ outcome, ¬returned outcome)
    (final : ∀ outcome, held = some outcome → outcome ≠ .prepared → stored = some outcome)
    (accepted : held = some .accepted ∨ stored = some .accepted → signalled) :
    Agrees held stored signalled returned gs where
  final := final
  accepted := accepted
  vouched outcome vouched := by
    rcases vouched with given | ⟨tid, receipt, settled, -⟩
    · exact absurd given (unreturned outcome)
    · rcases idle tid _ settled with ⟨⟨⟩⟩ | ⟨⟨⟩, -⟩
  fits tid stage found := by
    rcases idle tid stage found with rfl | ⟨rfl, here⟩
    · trivial
    · exact here
  single tid tid' stage stage' found found' preparing _ := by
    rcases idle tid stage found with rfl | ⟨rfl, -⟩ <;> exact preparing.elim
  alone tid stage found pending := by
    rcases idle tid stage found with rfl | ⟨rfl, -⟩ <;> exact pending.elim

/-- Where nothing is held, a receipt may be filed that nobody has to signal. -/
lemma Agrees.filed (agrees : Agrees none stored signalled returned gs)
    {outcome : CancellationReceiptOutcome} (unaccepted : outcome ≠ .accepted)
    (kept : held' = none ∨ held' = some outcome) :
    Agrees held' (some outcome) signalled returned gs := by
  obtain ⟨away, unreturned⟩ := agrees.away
  refine .fresh (fun tid stage found => .inl (away tid stage found)) unreturned ?_ ?_
  · rcases kept with rfl | rfl
    · exact nofun
    · exact fun _ same _ => same
  · rcases kept with rfl | rfl <;> simp [unaccepted]

lemma Agrees.accept (agrees : Agrees (some .prepared) (some .prepared) signalled returned gs)
    (settled : ∀ tid stage, gs tid = some stage → ¬stage.Pending) (set : signalled)
    (held_or : held' = some .prepared ∨ held' = some .accepted) :
    Agrees held' (some .accepted) signalled returned gs where
  final outcome told := by
    rcases held_or with rfl | rfl
    · cases told
      exact fun ended => absurd rfl ended
    · cases told
      exact fun _ => rfl
  accepted _ := set
  vouched outcome vouched := by
    obtain ⟨told, -⟩ := agrees.vouched outcome vouched
    cases told
    refine ⟨?_, rfl, fun _ => set⟩
    rcases held_or with rfl | rfl <;> rfl
  fits tid stage found := by
    have fits := agrees.fits tid stage found
    cases stage with
    | prepared => exact absurd trivial (settled tid _ found)
    | answered outcome =>
      have accepts : outcome = .accepted := by
        by_contra other
        exact settled tid _ found other
      exact ⟨fits.1, fits.2.1, held_or.imp id fun same => ⟨accepts, same⟩⟩
    | recovering => rcases held_or with rfl | rfl <;> exact nofun
    | _ => trivial
  single := agrees.single
  alone tid stage found pending := absurd pending (settled tid stage found)

lemma Agrees.told {returned' : V2CancelOutcome → Prop}
    (agrees : Agrees held stored signalled returned gs)
    (more : ∀ outcome, returned' outcome → Vouched returned gs outcome) :
    Agrees held stored signalled returned' gs := by
  have vouched {outcome : V2CancelOutcome} (vouched : Vouched returned' gs outcome) :
      Vouched returned gs outcome := by
    rcases vouched with given | settled
    · exact more outcome given
    · exact .inr settled
  exact ⟨agrees.final, agrees.accepted, fun outcome told => agrees.vouched outcome (vouched told),
    agrees.fits, agrees.single,
    fun tid stage found pending outcome told =>
      agrees.alone tid stage found pending outcome (vouched told)⟩

section

variable [DecidableEq Tid] {tid : Tid} {stage : Stage}

section

variable (agrees : Agrees held stored signalled returned gs)
include agrees

lemma Agrees.join (fits : stage.Fits held signalled)
    (single : stage.Preparing → ∀ other stage', other ≠ tid → gs other = some stage' →
      ¬stage'.Preparing)
    (alone : stage.Pending → ∀ outcome, ¬Vouched returned gs outcome)
    (clear : (∃ receipt, stage = .settled receipt) →
      ∀ other stage', other ≠ tid → gs other = some stage' → ¬stage'.Pending)
    (settled : ∀ receipt, stage = .settled receipt → Says held (mapReceiptOutcome receipt) ∧
      Says stored (mapReceiptOutcome receipt) ∧
      (mapReceiptOutcome receipt = .accepted → signalled)) :
    Agrees held stored signalled returned (update gs tid (some stage)) := by
  have found_update {other : Tid} {stage' : Stage}
      (found : update gs tid (some stage) other = some stage') :
      (other = tid ∧ stage' = stage) ∨ other ≠ tid ∧ gs other = some stage' := by
    by_cases same : other = tid
    · subst same
      rw [update_self] at found
      exact .inl ⟨rfl, (Option.some.inj found).symm⟩
    · rw [update_of_ne same] at found
      exact .inr ⟨same, found⟩
  have vouched_update {outcome : V2CancelOutcome}
      (vouched : Vouched returned (update gs tid (some stage)) outcome) :
      Vouched returned gs outcome ∨
        ∃ receipt, stage = .settled receipt ∧ mapReceiptOutcome receipt = outcome := by
    rcases vouched with given | ⟨other, receipt, found, told⟩
    · exact .inl (.inl given)
    · rcases found_update found with ⟨-, own⟩ | ⟨-, before⟩
      · exact .inr ⟨receipt, own.symm, told⟩
      · exact .inl (.inr ⟨other, receipt, before, told⟩)
  refine ⟨agrees.final, agrees.accepted, fun outcome vouched => ?_, fun other stage' found => ?_,
    fun one other stage' stage'' found found' preparing preparing' => ?_,
    fun other stage' found pending outcome vouched => ?_⟩
  · rcases vouched_update vouched with before | ⟨receipt, own, rfl⟩
    · exact agrees.vouched outcome before
    · exact settled receipt own
  · rcases found_update found with ⟨-, rfl⟩ | ⟨-, before⟩
    · exact fits
    · exact agrees.fits other stage' before
  · rcases found_update found with ⟨rfl, rfl⟩ | ⟨different, before⟩
    · rcases found_update found' with ⟨rfl, -⟩ | ⟨different, before'⟩
      · rfl
      · exact absurd preparing' (single preparing other stage'' different before')
    · rcases found_update found' with ⟨rfl, rfl⟩ | ⟨-, before'⟩
      · exact absurd preparing (single preparing' one stage' different before)
      · exact agrees.single one other stage' stage'' before before' preparing preparing'
  · rcases found_update found with ⟨-, rfl⟩ | ⟨different, before⟩
    · rcases vouched_update vouched with given | ⟨receipt, rfl, -⟩
      · exact alone pending outcome given
      · exact pending.elim
    · rcases vouched_update vouched with given | ⟨receipt, own, -⟩
      · exact agrees.alone other stage' before pending outcome given
      · exact clear ⟨receipt, own⟩ other stage' different before pending

lemma Agrees.goAway (tid : Tid) :
    Agrees held stored signalled returned (update gs tid (some .away)) :=
  agrees.join trivial nofun nofun (by simp) nofun

lemma Agrees.read (tid : Tid) {receipt : CancellationReceiptOutcome} (found : held = some receipt)
    (ended : receipt ≠ .prepared) :
    Agrees held stored signalled returned (update gs tid (some (.settled receipt))) := by
  have stored_too := agrees.final receipt found ended
  refine agrees.join trivial nofun nofun (fun _ other stage' _ here pending => ?_)
    fun receipt' same => ?_
  · -- Beside a pending call the receipt is still prepared.
    have fits := agrees.fits other stage' here
    cases stage' with
    | prepared => exact ended (Option.some.inj (found.symm.trans fits))
    | answered outcome =>
      obtain ⟨-, -, still | ⟨accepts, -⟩⟩ := fits
      · exact ended (Option.some.inj (found.symm.trans still))
      · exact pending accepts
    | _ => exact pending
  · cases same
    refine ⟨by simp [Says, found], by simp [Says, stored_too], fun accepts => ?_⟩
    apply agrees.accepted
    cases receipt <;> simp_all [mapReceiptOutcome]

lemma Agrees.takeUp (tid : Tid) (found : held ≠ none) :
    Agrees held stored signalled returned (update gs tid (some .recovering)) :=
  agrees.join found nofun nofun nofun nofun

end

/-! ## Steps at the receipt -/

variable {sha256} {capacity : Nat} {key : CancellationReceiptKey}
  {cancellation : ExactCancellationRequest} {control : V2ControlEnvelope}
  {receipts receipts' storedReceipts storedReceipts' : CancellationReceipts}
  {receipt : DurableCancellationReceipt}

section

variable
  (agrees : Agrees (outcome? key receipts) (outcome? key storedReceipts) signalled returned gs)
  (own : receipt.key = key)

include agrees own

lemma Agrees.begin {result : CancellationBeginResult}
    (settled : outcome? key receipts = some .prepared → signalled ∧ (∀ other stage, gs other = some
      stage → ¬stage.Pending) ∧ Says (outcome? key storedReceipts) .accepted)
    (carried : Carried (beginReceipt capacity receipt receipts) receipts storedReceipts
      result receipts' storedReceipts') :
    Agrees (outcome? key receipts') (outcome? key storedReceipts') signalled returned
      (update gs tid (some ((rules sha256 control key cancellation).next .away
        (.begin receipt) result))) := by
  have spec := beginReceipt_spec capacity receipts own
  cases carried with
  | replied planned =>
    rw [planned] at spec
    obtain ⟨unprepared, already⟩ := spec
    cases result with
    | prepared => exact absurd rfl unprepared
    | alreadyPrepared =>
      obtain ⟨set, unpending, told⟩ := settled (already rfl)
      refine agrees.join trivial nofun nofun
        (fun _ other stage _ here => unpending other stage here) fun receipt' same => ?_
      cases same
      exact ⟨by simp [Says, already rfl, mapReceiptOutcome], told, fun _ => set⟩
    | _ => exact agrees.goAway tid
  | refused planned answered failed =>
    rw [planned] at spec
    obtain ⟨-, -, rfl⟩ := spec
    simp only [answered, Committed.ifWritten_failed failed]
    exact agrees.goAway tid
  | adopted planned answered same =>
    rw [planned] at spec
    obtain ⟨free, begun, rfl⟩ := spec
    subst answered
    rw [free] at agrees
    obtain ⟨away, unreturned⟩ := agrees.away
    rw [begun]
    refine (agrees.filed (by simp) (.inr rfl)).join rfl (fun _ other stage _ here => ?_) (fun _
      outcome => ?_) nofun nofun
    · rw [away other stage here]
      exact id
    · rintro (given | ⟨other, receipt, found, -⟩)
      · exact unreturned outcome given
      · cases away other _ found
  | unreported planned answered same =>
    rw [planned] at spec
    obtain ⟨free, begun, rfl⟩ := spec
    subst answered
    rw [free] at agrees ⊢
    rw [begun]
    exact (agrees.filed (by simp) (.inl rfl)).goAway tid

lemma Agrees.storeTerminal {result : CancellationStoreTerminalResult}
    (ended : receipt.outcome = .duplicate ∨ receipt.outcome = .alreadyTerminal)
    (carried : Carried (storeTerminal capacity receipt receipts) receipts storedReceipts
      result receipts' storedReceipts') :
    Agrees (outcome? key receipts') (outcome? key storedReceipts') signalled returned
      (update gs tid (some ((rules sha256 control key cancellation).next .away
        (.storeTerminal receipt) result))) := by
  have spec := storeTerminal_spec capacity receipts own
  have unprepared : receipt.outcome ≠ .prepared := by rcases ended with eq | eq <;> simp [eq]
  have unaccepted : receipt.outcome ≠ .accepted := by rcases ended with eq | eq <;> simp [eq]
  cases carried with
  | replied planned =>
    rw [planned] at spec
    obtain ⟨unstored, already⟩ := spec
    cases result with
    | stored => exact absurd rfl unstored
    | alreadyStored => exact agrees.read tid (already rfl) unprepared
    | _ => exact agrees.goAway tid
  | refused planned answered failed =>
    rw [planned] at spec
    obtain ⟨-, -, rfl⟩ := spec
    simp only [answered, Committed.ifWritten_failed failed]
    exact agrees.goAway tid
  | adopted planned answered same =>
    rw [planned] at spec
    obtain ⟨free, filed, rfl⟩ := spec
    subst answered
    rw [free] at agrees
    rw [filed]
    exact (agrees.filed unaccepted (.inr rfl)).read tid rfl unprepared
  | unreported planned answered same =>
    rw [planned] at spec
    obtain ⟨free, filed, rfl⟩ := spec
    subst answered
    rw [free] at agrees ⊢
    rw [filed]
    exact (agrees.filed unaccepted (.inl rfl)).goAway tid

end

/-- Beside the call that may finalize the receipt with something else than an
acceptance, calls are away or to take it up. -/
lemma Agrees.alone_away (agrees : Agrees held stored signalled returned gs)
    (found : gs tid = some stage) (pending : stage.Pending) :
    (∀ other stage', update gs tid (some .away) other = some stage' →
      stage' = .away ∨ stage' = .recovering) ∧ ∀ outcome, ¬returned outcome := by
  have unvouched := agrees.alone tid stage found pending
  refine ⟨fun other stage' here => ?_, fun outcome given => unvouched outcome (.inl given)⟩
  by_cases same : other = tid
  · subst same
    rw [update_self] at here
    exact .inl (Option.some.inj here).symm
  · rw [update_of_ne same] at here
    have lone preparing : False :=
      same (agrees.single other tid stage' stage here found preparing pending.preparing)
    cases stage' with
    | away => exact .inl rfl
    | prepared => exact (lone trivial).elim
    | answered outcome => exact (lone trivial).elim
    | recovering => exact .inr rfl
    | settled receipt => exact absurd (.inr ⟨other, receipt, here, rfl⟩) (unvouched _)

/-- A call that finalizes the receipt stands there with the answer of the
registry, or to take it up. -/
def Stage.Finalizes (stage : Stage) (receipt : DurableCancellationReceipt) : Prop :=
  stage = .answered receipt.outcome ∨ stage = .recovering ∧ receipt.outcome = .accepted

lemma Stage.Finalizes.pending (stands : stage.Finalizes receipt)
    (other : receipt.outcome ≠ .accepted) : stage.Pending := by
  rcases stands with rfl | ⟨rfl, accepted⟩
  · exact other
  · exact absurd accepted other

omit [DecidableEq Tid] in
lemma Agrees.accepts (agrees : Agrees held stored signalled returned gs)
    (found : gs tid = some stage) (stands : stage.Finalizes receipt)
    (ready : stage = .recovering → MayTakeUp held signalled gs)
    (accepted : receipt.outcome = .accepted) (pending : held = some .prepared) :
    signalled ∧ ∀ other stage', gs other = some stage' → ¬stage'.Pending := by
  rcases stands with rfl | ⟨rfl, -⟩
  · have fits := agrees.fits tid _ found
    refine ⟨fits.2.1 accepted, fun other stage' here pending => ?_⟩
    have same : other = tid := agrees.single other tid stage' _ here found pending.preparing trivial
    subst same
    cases found.symm.trans here
    exact pending accepted
  · rcases ready rfl with here | ⟨-, set, unpending⟩
    · rw [here] at pending
      cases pending
    · exact ⟨set, unpending⟩

lemma Agrees.finalize {result : CancellationFinalizeResult}
    (agrees : Agrees (outcome? key receipts) (outcome? key storedReceipts) signalled returned gs)
    (found : gs tid = some stage) (own : receipt.key = key)
    (stands : stage.Finalizes receipt)
    (ready : stage = .recovering → MayTakeUp (outcome? key receipts) signalled gs)
    (carried : Carried (finalize receipt receipts) receipts storedReceipts result
      receipts' storedReceipts') :
    Agrees (outcome? key receipts') (outcome? key storedReceipts') signalled returned
      (update gs tid (some ((rules sha256 control key cancellation).next stage
        (.finalize receipt) result))) := by
  have spec := finalize_spec receipts own
  have fits := agrees.fits tid stage found
  have unprepared : receipt.outcome ≠ .prepared := by
    rcases stands with rfl | ⟨-, accepted⟩
    · exact fits.1
    · simp [accepted]
  cases carried with
  | replied planned =>
    rw [planned] at spec
    obtain ⟨unfinalized, already⟩ := spec
    cases result with
    | finalized => exact absurd rfl unfinalized
    | alreadyFinalized =>
      obtain ⟨outcome, held, ended⟩ := already rfl
      have unpending : outcome? key receipts ≠ some .prepared := by
        rw [held]
        exact fun same => ended (Option.some.inj same)
      have same : outcome? key receipts = some receipt.outcome := by
        rcases stands with rfl | ⟨rfl, accepted⟩
        · obtain ⟨-, -, pending | ⟨accepted, here⟩⟩ := fits
          · exact absurd pending unpending
          · rw [here, accepted]
        · rcases ready rfl with here | ⟨pending, -⟩
          · rw [here, accepted]
          · exact absurd pending unpending
      exact agrees.read tid same unprepared
    | _ => exact agrees.goAway tid
  | refused planned answered failed =>
    rw [planned] at spec
    obtain ⟨-, -, rfl⟩ := spec
    simp only [answered, Committed.ifWritten_failed failed]
    exact agrees.goAway tid
  | adopted planned answered same =>
    rw [planned] at spec
    obtain ⟨pending, filed, rfl⟩ := spec
    subst answered same
    rw [filed]
    by_cases accepted : receipt.outcome = .accepted
    · obtain ⟨set, unpending⟩ := agrees.accepts found stands ready accepted pending
      rw [pending] at agrees
      have after := agrees.accept unpending set (.inr rfl)
      rw [← accepted] at after
      exact after.read tid rfl unprepared
    · obtain ⟨idle, unreturned⟩ := agrees.alone_away found (stands.pending accepted)
      have fresh : Agrees (some receipt.outcome) (some receipt.outcome) signalled returned _ :=
        .fresh (fun other stage here => (idle other stage here).imp id (⟨·, nofun⟩)) unreturned
          (fun _ same _ => same) (by simp [accepted])
      have after := fresh.read tid rfl unprepared
      rwa [update_idem] at after
  | unreported planned answered same =>
    rw [planned] at spec
    obtain ⟨pending, filed, rfl⟩ := spec
    subst answered same
    rw [filed]
    by_cases accepted : receipt.outcome = .accepted
    · obtain ⟨set, unpending⟩ := agrees.accepts found stands ready accepted pending
      rw [accepted, pending]
      rw [pending] at agrees
      exact (agrees.accept unpending set (.inl rfl)).goAway tid
    · obtain ⟨idle, unreturned⟩ := agrees.alone_away found (stands.pending accepted)
      rw [pending]
      refine .fresh (fun other stage here => (idle other stage here).imp id (⟨·, nofun⟩)) unreturned
        (fun outcome same ended => ?_) (by simp [accepted])
      exact absurd (Option.some.inj same).symm ended

lemma Agrees.answered {result : CancellationRequestResult} {later : Prop}
    (agrees : Agrees held stored signalled returned gs) (found : gs tid = some .prepared)
    (set : signalled → later) (accepted : result = .accepted → later) :
    Agrees held stored later returned (update gs tid
      (some ((rules sha256 control key cancellation).next .prepared
        (.requestExactCancellation cancellation) result))) := by
  have prepared : held = some .prepared := agrees.fits tid _ found
  have unvouched := agrees.alone tid _ found trivial
  simp only [rules]
  cases answer : receiptOutcome result with
  | none => exact (agrees.signal set).goAway tid
  | some outcome =>
    refine (agrees.signal set).join ⟨?_, fun same => accepted ?_, .inl prepared⟩
      (fun _ other stage different here preparing => ?_) (fun _ => unvouched)
      (by simp) nofun
    · rintro rfl
      cases result <;> cases answer
    · subst same
      cases result <;> cases answer
      rfl
    · exact different (agrees.single other tid stage _ here found preparing trivial)

end

end Agrees

/-! ## Every step keeps the agreement -/

def Returned {sha256 : Sha256} {control : V2ControlEnvelope}
    (returned : List (CancelJob sha256 control × Option V2CancelAcknowledgement))
    (outcome : V2CancelOutcome) : Prop :=
  Definite outcome ∧ ∃ (job : CancelJob sha256 control) (acknowledged : V2CancelAcknowledgement),
    (job, some acknowledged) ∈ returned ∧ acknowledged.outcome = outcome

/-- The storage can be bootstrapped, and the receipt of the key, the signal, the
outcomes returned and the running calls agree. -/
def Agreeing (codec : CancellationCodec Raw) (capacity : Nat) {sha256 : Sha256}
    {control : V2ControlEnvelope} (key : CancellationReceiptKey)
    (cancellation : ExactCancellationRequest) (world : World Raw)
    (returned : List (CancelJob sha256 control × Option V2CancelAcknowledgement))
    (gs : Tid → Option Stage) : Prop :=
  ∃ stored, (repository codec capacity).Consistent (Valid capacity)
      ⟨world.storage, some world.cache⟩ stored ∧
    Agrees (outcome? key world.cache.records) (outcome? key stored)
      (world.registry.Signalled cancellation) (Returned returned) gs

/-- What a call may do with a receipt that another has prepared: its beginning
may find it so when it is to be accepted, and it may only be taken up then. -/
def MayStep (codec : CancellationCodec Raw) (capacity : Nat) (key : CancellationReceiptKey)
    (cancellation : ExactCancellationRequest) (world : World Raw) (gs : Tid → Option Stage)
    (stage : Stage) : CancelStep → Prop
  | .begin _ => outcome? key world.cache.records = some .prepared →
      world.registry.Signalled cancellation ∧
      (∀ tid stage, gs tid = some stage → ¬stage.Pending) ∧
      ∃ stored, (repository codec capacity).Stores world.storage stored ∧
        Says (outcome? key stored) .accepted
  | .finalize _ => stage = .recovering → MayTakeUp (outcome? key world.cache.records)
      (world.registry.Signalled cancellation) gs
  | _ => True

section Steps

variable {codec} {capacity} {sha256} {key : CancellationReceiptKey}
  {cancellation : ExactCancellationRequest} {control : V2ControlEnvelope} {world : World Raw}
  {returned : List (CancelJob sha256 control × Option V2CancelAcknowledgement)}
  {gs : Tid → Option Stage} {tid : Tid} {stage : Stage} {stored : CancellationReceipts}

lemma carry_carried {Res : Type} {plan : Plan CancellationReceipts Res}
    (range : 0 < capacity ∧ capacity ≤ u32Max)
    (consistent : (repository codec capacity).Consistent (Valid capacity)
      ⟨world.storage, some world.cache⟩ stored)
    (call : Call) (rename : Res → Answer)
    (named : DurableCancellationStore.plan capacity call world.cache.records = plan.map rename)
    (fate : Fate) :
    ∃ stored', (repository codec capacity).Consistent (Valid capacity)
        ⟨(world.carry codec fate plan).2.storage, some (world.carry codec fate plan).2.cache⟩
        stored' ∧
      Repository.Carried plan world.cache.records stored (world.carry codec fate plan).1
        (world.carry codec fate plan).2.cache.records stored' ∧
      (world.carry codec fate plan).2.registry = world.registry := by
  have lawful : (repository codec capacity).Lawful (Valid capacity) fun _ _ => True :=
    lawful range
  have commits next answer
      (planned : plan = .commit next answer) :
      (repository codec capacity).Commits world.cache.records next ∧ Valid capacity next := by
    rw [planned] at named
    have valid := consistent.cache_valid rfl
    exact ⟨.plan call _ named, lawful.plan_valid valid trivial named⟩
  rcases outcome : plan.execute (RecordStore.encodeRecords (encodeRecord codec)) fate world.storage
    world.cache with ⟨after, kept, res⟩
  obtain ⟨stored', consistent', carried⟩ := consistent.carry lawful
    (fun next answer planned => (commits next answer planned).imp_right fun valid _ => valid) outcome
  simp only [World.carry, outcome]
  exact ⟨stored', consistent', carried, trivial⟩

lemma carried_foreign {call : Call}
    {result : Answer}
    {receipts receipts' stored' : CancellationReceipts}
    (foreign : ∀ receipt, call.receipt? = some receipt → receipt.key ≠ key)
    (cancels : key.terminalCommand = false)
    (carried : Carried (plan capacity call receipts) receipts
      stored result receipts' stored') :
    outcome? key receipts' = outcome? key receipts ∧ outcome? key stored' = outcome? key stored := by
  have unchanged {next : CancellationReceipts}
      {answer : Committed → Answer}
      (planned : plan capacity call receipts = .commit next answer) :
      outcome? key next = outcome? key receipts := by
    obtain ⟨⟨receipt, called, change⟩, -⟩ := plan_commit planned
    exact change.outcome?_other (foreign receipt called) cancels
  cases carried with
  | replied => exact ⟨rfl, rfl⟩
  | refused => exact ⟨rfl, rfl⟩
  | adopted planned _ same =>
    subst same
    exact ⟨unchanged planned, unchanged planned⟩
  | unreported planned _ same =>
    subst same
    exact ⟨rfl, unchanged planned⟩

lemma Agreeing.call [DecidableEq Tid] {op : CancelStep} (range : 0 < capacity ∧ capacity ≤ u32Max)
    (cancels : key.terminalCommand = false)
    (agreeing : Agreeing codec capacity key cancellation world returned gs)
    (found : gs tid = some stage) (may : (rules sha256 control key cancellation).may stage op)
    (ready : MayStep codec capacity key cancellation world gs stage op) (choice : Choice) :
    (rules sha256 control key cancellation).gets stage op
        (handle codec capacity sha256 choice world op).1 ∧
      Agreeing codec capacity key cancellation (handle codec capacity sha256 choice world op).2
        returned (Function.update gs tid (some ((rules sha256 control key cancellation).next stage op
          (handle codec capacity sha256 choice world op).1))) := by
  obtain ⟨stored, consistent, agrees⟩ := agreeing
  have stays : Function.update gs tid (some stage) = gs := by
    rw [← found, Function.update_eq_self]
  cases op with
  | load key' =>
    obtain ⟨rfl, rfl⟩ := may
    simp only [handle]
    cases loaded : load key' world.cache.records with
    | exact receipt =>
      obtain ⟨own, held⟩ := load_exact loaded
      refine ⟨own, stored, consistent, ?_⟩
      simp only [rules]
      split_ifs with pending
      · exact agrees.takeUp tid (by simp [held])
      · exact agrees.read tid held pending
    | miss => exact ⟨trivial, stored, consistent, agrees.goAway tid⟩
    | scopeMismatch => exact ⟨trivial, stored, consistent, agrees.goAway tid⟩
  | begin receipt =>
    obtain ⟨rfl, own⟩ := may
    obtain ⟨stored', consistent', carried, same⟩ :=
      carry_carried range consistent (.begin receipt) .begin rfl choice.fate
    refine ⟨trivial, stored', consistent', ?_⟩
    simp only [handle, same]
    refine agrees.begin own (fun pending => ?_) carried
    obtain ⟨set, unpending, stored'', stores, told⟩ := ready pending
    cases Repository.Stores.unique consistent.stores stores
    exact ⟨set, unpending, told⟩
  | finalize receipt =>
    obtain ⟨own, stands⟩ := may
    obtain ⟨stored', consistent', carried, same⟩ :=
      carry_carried range consistent (.finalize receipt) .finalize rfl choice.fate
    refine ⟨trivial, stored', consistent', ?_⟩
    simp only [handle, same]
    exact agrees.finalize found own stands ready carried
  | storeTerminal receipt =>
    obtain ⟨rfl, own, ended⟩ := may
    obtain ⟨stored', consistent', carried, same⟩ :=
      carry_carried range consistent (.storeTerminal receipt) .storeTerminal rfl choice.fate
    refine ⟨trivial, stored', consistent', ?_⟩
    simp only [handle, same]
    exact agrees.storeTerminal own ended carried
  | requestExactCancellation request =>
    obtain ⟨rfl, rfl⟩ := may
    refine ⟨trivial, stored, consistent, ?_⟩
    exact agrees.answered found
      (world.registry.requestExact_keeps request).signalled
      ActiveCommandRegistry.requestExact_accepted
  | store call =>
    obtain ⟨stored', consistent', carried, same⟩ :=
      carry_carried range consistent call id (Plan.map_id _).symm choice.fate
    obtain ⟨held, kept⟩ := carried_foreign may cancels carried
    refine ⟨trivial, stored', consistent', ?_⟩
    simp only [handle, rules, same, held, kept, stays]
    exact agrees
  | registry call =>
    refine ⟨trivial, stored, consistent, ?_⟩
    simp only [handle, rules, stays]
    exact agrees.signal (world.registry.afterCall_keeps call).signalled
  | probeExactCancellation =>
    refine ⟨trivial, stored, consistent, ?_⟩
    simp only [handle, rules, stays]
    exact agrees
  | waitForExactCancellationTarget =>
    refine ⟨trivial, stored, consistent, ?_⟩
    simp only [handle, rules, stays]
    exact agrees
  | nowMs =>
    refine ⟨trivial, stored, consistent, ?_⟩
    simp only [handle, rules, stays]
    exact agrees

end Steps

end CancelCalls

end Knowbee
