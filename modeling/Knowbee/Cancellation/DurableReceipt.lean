import Mathlib.Data.List.MinMax
import Knowbee.Lib.RecordStore
import Knowbee.Cancellation.Binding

/-!
# The durable cancellation store

`durable_cancellation.rs`: receipts of cancellations and of terminal commands in one store of
bounded capacity.  A cancellation receipt is prepared and then finalized; a terminal command is
stored at once and, when the store is full, in place of the oldest terminal command.
-/

namespace Knowbee

open CasStore SortedMap

/-! ## Keys and receipts -/

def maxIdBytes : Nat := 256

def maxCancellationRecordBytes : Nat := 4 * 1024

def cancellationSchemaVersion : Nat := 1

def validId (value : String) : Bool :=
  !value.isEmpty && value.utf8ByteSize ≤ maxIdBytes && trim value == value

inductive CancellationReceiptError where
  | tooLarge | malformed | unsupportedVersion | invalidRecord

structure CancellationReceiptKey where
  (cancellationId commandId cancelTokenDigest : String)
  cancellationScopeDigest : Option String
  terminalCommand : Bool
  deriving DecidableEq

inductive CancellationReceiptOutcome where
  | prepared | accepted | duplicate | alreadyTerminal
  deriving DecidableEq

namespace CancellationReceiptKey

def new (sha256 : Sha256) (cancellationId commandId cancelToken : String) :
    Except CancellationReceiptError CancellationReceiptKey :=
  if !validId cancellationId || !validId commandId || !validId cancelToken then
    .error .invalidRecord
  else
    .ok {
      cancellationId
      commandId
      cancelTokenDigest := sha256.ofText cancelToken
      cancellationScopeDigest := none
      terminalCommand := false
    }

def newExact (sha256 : Sha256) (cancellationId : String) (cancellation : ExactCancellationRequest) :
    Except CancellationReceiptError CancellationReceiptKey := do
  let key ← new sha256 cancellationId cancellation.target.commandId cancellation.cancelToken
  return { key with cancellationScopeDigest := some (cancellation.scopeDigest sha256) }

def isValid (key : CancellationReceiptKey) : Bool :=
  let common := validId key.cancellationId && validId key.commandId &&
    isSha256Digest key.cancelTokenDigest && key.cancellationScopeDigest.all isSha256Digest
  common && (!key.terminalCommand ||
    (isSha256Digest key.cancellationId && isSha256Digest key.commandId &&
      key.cancellationScopeDigest == some key.commandId))

def storageKey (key : CancellationReceiptKey) : String :=
  let keySpace := if key.terminalCommand then "terminal" else "cancellation"
  keySpace ++ ":" ++ key.cancellationId

end CancellationReceiptKey

/-- A receipt as `DurableCancellationReceipt::new` builds it. -/
structure DurableCancellationReceipt where
  key : CancellationReceiptKey
  outcome : CancellationReceiptOutcome
  observedAtMs : Int
  valid : key.isValid = true ∧ 0 < observedAtMs

structure CancellationReceiptWire where
  schemaVersion : Nat
  key : CancellationReceiptKey
  outcome : CancellationReceiptOutcome
  observedAtMs : Int

/-- The JSON of a receipt, with the version probe. -/
abbrev CancellationCodec (Raw : Type) : Type :=
  ProbedCodec CancellationReceiptWire Raw Nat CancellationReceiptWire.schemaVersion

namespace DurableCancellationReceipt

def new (key : CancellationReceiptKey) (outcome : CancellationReceiptOutcome)
    (observedAtMs : Int) : Except CancellationReceiptError DurableCancellationReceipt :=
  if valid : key.isValid = true ∧ 0 < observedAtMs then .ok ⟨key, outcome, observedAtMs, valid⟩
  else .error .invalidRecord

variable {Raw : Type}

def toWire (receipt : DurableCancellationReceipt) : CancellationReceiptWire where
  schemaVersion := cancellationSchemaVersion
  __ := receipt

def encode (codec : CancellationCodec Raw) (receipt : DurableCancellationReceipt) :
    Except CancellationReceiptError Raw :=
  match codec.print receipt.toWire with
  | none => .error .malformed
  | some encoded =>
    if maxCancellationRecordBytes < codec.length encoded then .error .tooLarge else .ok encoded

def decode (codec : CancellationCodec Raw) (encoded : Raw) :
    Except CancellationReceiptError DurableCancellationReceipt :=
  if maxCancellationRecordBytes < codec.length encoded then .error .tooLarge
  else
    match codec.probe encoded with
    | none => .error .malformed
    | some version =>
      if version ≠ cancellationSchemaVersion then .error .unsupportedVersion
      else
        match codec.parse encoded with
        | none => .error .malformed
        | some wire => new wire.key wire.outcome wire.observedAtMs

lemma decode_encode {codec : CancellationCodec Raw} {receipt : DurableCancellationReceipt}
    {encoded : Raw} (ok : receipt.encode codec = .ok encoded) :
    decode codec encoded = .ok receipt := by
  unfold encode at ok
  cases printed : codec.print receipt.toWire with
  | none => simp [printed] at ok
  | some raw =>
    simp only [printed] at ok
    split_ifs at ok with large
    cases ok
    have probed := codec.probe_print printed
    have parsed := codec.parse_print printed
    simp [decode, large, probed, parsed, toWire, new, receipt.valid]

end DurableCancellationReceipt

/-! ## The repository -/

/-- The receipts by storage key. -/
abbrev CancellationReceipts : Type := SortedMap String DurableCancellationReceipt

inductive CancellationLoadResult where
  | miss
  | exact (receipt : DurableCancellationReceipt)
  | scopeMismatch

inductive CancellationBeginResult where
  | prepared | alreadyPrepared | alreadyFinalized | scopeMismatch | saturated | unavailable
  deriving DecidableEq

inductive CancellationFinalizeResult where
  | finalized | alreadyFinalized | notPrepared | scopeMismatch | unavailable
  deriving DecidableEq

inductive CancellationStoreTerminalResult where
  | stored | alreadyStored | scopeMismatch | saturated | unavailable
  deriving DecidableEq

inductive DurableCancellationStoreBootstrapError where
  | invalidCapacity
  | corrupt (error : CancellationReceiptError)
  | duplicateRecord
  | saturated
  | unavailable

namespace DurableCancellationStore

variable {Raw : Type} (codec : CancellationCodec Raw)

def decodeRecord (raw : Raw) :
    Except DurableCancellationStoreBootstrapError DurableCancellationReceipt :=
  (DurableCancellationReceipt.decode codec raw).mapError .corrupt

def bootstrap (codec : CancellationCodec Raw) (capacity : Nat) (read : Read Raw) :
    Except DurableCancellationStoreBootstrapError (Cache CancellationReceipts) :=
  RecordStore.bootstrap ⟨.invalidCapacity, .duplicateRecord, .saturated, .unavailable⟩ u32Max
    (decodeRecord codec) (fun receipt => receipt.key.storageKey) capacity read

def encodeRecord (receipt : DurableCancellationReceipt) : Option Raw :=
  (receipt.encode codec).toOption

def load (key : CancellationReceiptKey) (receipts : CancellationReceipts) :
    CancellationLoadResult :=
  match receipts.get? key.storageKey with
  | none => .miss
  | some receipt => if receipt.key = key then .exact receipt else .scopeMismatch

/-- `begin`, as far as the answer to its commit. -/
def beginReceipt (capacity : Nat) (receipt : DurableCancellationReceipt)
    (receipts : CancellationReceipts) : Plan CancellationReceipts CancellationBeginResult :=
  if receipt.outcome ≠ .prepared then .reply .unavailable
  else
    match receipts.get? receipt.key.storageKey with
    | some existing =>
      if existing.key ≠ receipt.key then .reply .scopeMismatch
      else if existing.outcome = .prepared then .reply .alreadyPrepared
      else .reply .alreadyFinalized
    | none =>
      if capacity ≤ receipts.size then .reply .saturated
      else
        .commit (receipts.insert receipt.key.storageKey receipt)
          fun committed => committed.ifWritten .prepared .unavailable

def finalize (receipt : DurableCancellationReceipt) (receipts : CancellationReceipts) :
    Plan CancellationReceipts CancellationFinalizeResult :=
  if receipt.outcome = .prepared then .reply .unavailable
  else
    match receipts.get? receipt.key.storageKey with
    | none => .reply .notPrepared
    | some existing =>
      if existing.key ≠ receipt.key then .reply .scopeMismatch
      else if existing.outcome ≠ .prepared then .reply .alreadyFinalized
      else
        .commit (receipts.insert receipt.key.storageKey receipt)
          fun committed => committed.ifWritten .finalized .unavailable

instance agePreorder : Preorder (Lex (Int × String)) :=
  (@Prod.Lex.instLinearOrder Int String Int.instLinearOrder String.instLinearOrder).toPreorder

/-- When a terminal command was observed, and its storage key to tell two of
one instant apart. -/
def terminalAge (entry : String × DurableCancellationReceipt) : Lex (Int × String) :=
  toLex (entry.2.observedAtMs, entry.1)

def oldestTerminal (receipts : CancellationReceipts) : Option String :=
  ((receipts.entries.filter fun entry => entry.2.key.terminalCommand).argmin terminalAge).map
    Prod.fst

def storeTerminal (capacity : Nat) (receipt : DurableCancellationReceipt)
    (receipts : CancellationReceipts) :
    Plan CancellationReceipts CancellationStoreTerminalResult :=
  if receipt.outcome = .prepared then .reply .unavailable
  else
    match receipts.get? receipt.key.storageKey with
    | some existing =>
      if existing.key = receipt.key ∧ existing.outcome = receipt.outcome then .reply .alreadyStored
      else .reply .scopeMismatch
    | none =>
      if capacity ≤ receipts.size then
        if !receipt.key.terminalCommand then .reply .saturated
        else
          match oldestTerminal receipts with
          | none => .reply .saturated
          | some oldest =>
            .commit ((receipts.erase oldest).insert receipt.key.storageKey receipt)
              fun committed => committed.ifWritten .stored .unavailable
      else
        .commit (receipts.insert receipt.key.storageKey receipt)
          fun committed => committed.ifWritten .stored .unavailable

inductive Call where
  | load (key : CancellationReceiptKey)
  | begin (receipt : DurableCancellationReceipt)
  | finalize (receipt : DurableCancellationReceipt)
  | storeTerminal (receipt : DurableCancellationReceipt)

inductive Answer where
  | load (result : CancellationLoadResult)
  | begin (result : CancellationBeginResult)
  | finalize (result : CancellationFinalizeResult)
  | storeTerminal (result : CancellationStoreTerminalResult)

def plan (capacity : Nat) (call : Call) (receipts : CancellationReceipts) :
    Plan CancellationReceipts Answer :=
  match call with
  | .load key => .reply (.load (load key receipts))
  | .begin receipt => (beginReceipt capacity receipt receipts).map .begin
  | .finalize receipt => (finalize receipt receipts).map .finalize
  | .storeTerminal receipt => (storeTerminal capacity receipt receipts).map .storeTerminal

/-- `DurableCancellationReceiptRepository` over a storage of raw records. -/
def repository (capacity : Nat) :
    Repository Raw CancellationReceipts Call Answer DurableCancellationStoreBootstrapError where
  bootstrap := bootstrap codec capacity
  recovery := fun _ => none
  encode := RecordStore.encodeRecords (encodeRecord codec)
  plan := plan capacity

/-! ## What a commit changes -/

/-- The three commits the store makes of a receipt: it is added under a free
key, it finalizes a prepared receipt, or it takes the place of the oldest
terminal command. -/
inductive Change (capacity : Nat) (receipts : CancellationReceipts)
    (receipt : DurableCancellationReceipt) : CancellationReceipts → Prop where
  | added :
      receipts.get? receipt.key.storageKey = none → receipts.size < capacity →
      Change capacity receipts receipt (receipts.insert receipt.key.storageKey receipt)
  | finalized {existing : DurableCancellationReceipt} :
      receipts.get? receipt.key.storageKey = some existing → existing.key = receipt.key →
      existing.outcome = .prepared →
      Change capacity receipts receipt (receipts.insert receipt.key.storageKey receipt)
  | replaced {oldest : String} :
      receipts.get? receipt.key.storageKey = none → capacity ≤ receipts.size →
      oldestTerminal receipts = some oldest →
      Change capacity receipts receipt
        ((receipts.erase oldest).insert receipt.key.storageKey receipt)

section Plans

variable {capacity : Nat} {receipt : DurableCancellationReceipt}
  {receipts next : CancellationReceipts}

lemma beginReceipt_commit {answer : Committed → CancellationBeginResult}
    (planned : beginReceipt capacity receipt receipts = .commit next answer) :
    Change capacity receipts receipt next ∧
      answer = fun committed => committed.ifWritten .prepared .unavailable := by
  unfold beginReceipt at planned
  cases bound : receipts.get? receipt.key.storageKey with
  | some existing =>
    simp only [bound] at planned
    split_ifs at planned
  | none =>
    simp only [bound] at planned
    split_ifs at planned with prepared full
    cases planned
    exact ⟨.added bound (not_le.mp full), rfl⟩

lemma finalize_commit {answer : Committed → CancellationFinalizeResult}
    (planned : finalize receipt receipts = .commit next answer) :
    Change capacity receipts receipt next ∧
      answer = fun committed => committed.ifWritten .finalized .unavailable := by
  unfold finalize at planned
  cases bound : receipts.get? receipt.key.storageKey with
  | none =>
    simp only [bound] at planned
    split_ifs at planned
  | some existing =>
    simp only [bound] at planned
    split_ifs at planned with prepared other finalized
    cases planned
    exact ⟨.finalized bound (not_not.mp other) (not_not.mp finalized), rfl⟩

lemma storeTerminal_commit {answer : Committed → CancellationStoreTerminalResult}
    (planned : storeTerminal capacity receipt receipts = .commit next answer) :
    Change capacity receipts receipt next ∧
      answer = fun committed => committed.ifWritten .stored .unavailable := by
  unfold storeTerminal at planned
  cases bound : receipts.get? receipt.key.storageKey with
  | some existing =>
    simp only [bound] at planned
    split_ifs at planned
  | none =>
    cases found : oldestTerminal receipts with
    | none =>
      simp only [bound, found] at planned
      split_ifs at planned with prepared full
      cases planned
      exact ⟨.added bound (not_le.mp full), rfl⟩
    | some oldest =>
      simp only [bound, found] at planned
      split_ifs at planned with prepared full command
      · cases planned
        exact ⟨.replaced bound full found, rfl⟩
      · cases planned
        exact ⟨.added bound (not_le.mp full), rfl⟩

end Plans

/-- The answers that report a commit. -/
def Answer.isCommitted : Answer → Bool
  | .begin result => result = .prepared
  | .finalize result => result = .finalized
  | .storeTerminal result => result = .stored
  | .load _ => false

def Call.receipt? : Call → Option DurableCancellationReceipt
  | .load _ => none
  | .begin receipt => some receipt
  | .finalize receipt => some receipt
  | .storeTerminal receipt => some receipt

/-- A call commits one of the three changes of its receipt, and its answer
reports it exactly when it was written. -/
lemma plan_commit {capacity : Nat} {call : Call} {receipts next : CancellationReceipts}
    {answer : Committed → Answer} (planned : plan capacity call receipts = .commit next answer) :
    (∃ receipt, call.receipt? = some receipt ∧ Change capacity receipts receipt next) ∧
      ∀ committed, (answer committed).isCommitted = true ↔ committed = .written := by
  cases call with
  | load key => cases planned
  | begin receipt =>
    obtain ⟨inner, own, rfl⟩ := Plan.map_eq_commit planned
    obtain ⟨change, rfl⟩ := beginReceipt_commit own
    exact ⟨⟨receipt, rfl, change⟩, fun committed => by cases committed <;> decide⟩
  | finalize receipt =>
    obtain ⟨inner, own, rfl⟩ := Plan.map_eq_commit planned
    obtain ⟨change, rfl⟩ := finalize_commit own
    exact ⟨⟨receipt, rfl, change⟩, fun committed => by cases committed <;> decide⟩
  | storeTerminal receipt =>
    obtain ⟨inner, own, rfl⟩ := Plan.map_eq_commit planned
    obtain ⟨change, rfl⟩ := storeTerminal_commit own
    exact ⟨⟨receipt, rfl, change⟩, fun committed => by cases committed <;> decide⟩

/-! ## What every change keeps -/

abbrev Valid (capacity : Nat) : CancellationReceipts → Prop :=
  RecordStore.Within (fun receipt => receipt.key.storageKey) capacity fun _ => True

/-- Whatever key disappears was bound to the oldest terminal command of a full
store. -/
def EvictsOnlyOldest (capacity : Nat) (before after : CancellationReceipts) : Prop :=
  ∀ key receipt, before.get? key = some receipt → after.get? key = none →
    capacity ≤ before.size ∧ receipt.key.terminalCommand = true ∧
      ∀ entry ∈ before.entries, entry.2.key.terminalCommand = true →
        terminalAge (key, receipt) ≤ terminalAge entry

/-- Whatever stays bound keeps its identity, and a finalized receipt stays as
it is. -/
def KeepsFinalized (before after : CancellationReceipts) : Prop :=
  ∀ key old new, before.get? key = some old → after.get? key = some new →
    new.key = old.key ∧ (old.outcome ≠ .prepared → new = old)

lemma oldestTerminal_spec {receipts : CancellationReceipts} {oldest : String}
    (found : oldestTerminal receipts = some oldest) :
    ∃ receipt, receipts.get? oldest = some receipt ∧ receipt.key.terminalCommand = true ∧
      ∀ entry ∈ receipts.entries, entry.2.key.terminalCommand = true →
        terminalAge (oldest, receipt) ≤ terminalAge entry := by
  obtain ⟨⟨key, receipt⟩, least, rfl⟩ := Option.map_eq_some_iff.mp found
  obtain ⟨bound, command⟩ := List.mem_filter.mp (List.argmin_mem least)
  refine ⟨receipt, mem_entries.mp bound, command, fun entry member other => ?_⟩
  exact List.le_of_mem_argmin (List.mem_filter.mpr ⟨member, other⟩) least

section Changes

variable {capacity : Nat} {receipts next : CancellationReceipts}
  {receipt : DurableCancellationReceipt}

section

variable (change : Change capacity receipts receipt next)

include change

lemma Change.valid (valid : Valid capacity receipts) : Valid capacity next := by
  cases change with
  | added free room => exact valid.insert_new free room trivial
  | finalized bound same prepared => exact valid.replace bound trivial
  | @replaced oldest free full found =>
    obtain ⟨evicted, bound, -, -⟩ := oldestTerminal_spec found
    have smaller := size_erase_lt bound
    have bounded := valid.bounded
    have still_free : (receipts.erase oldest).get? receipt.key.storageKey = none := by
      rw [get?_erase, free, ite_self]
    -- The eviction makes the room the new record needs.
    have room : (receipts.erase oldest).size < capacity := by omega
    exact (valid.erase oldest).insert_new still_free room trivial

lemma Change.evictsOnlyOldest : EvictsOnlyOldest capacity receipts next := by
  intro key receipt bound gone
  cases change with
  | added free room =>
    rw [get?_insert] at gone
    split_ifs at gone
    rw [bound] at gone
    cases gone
  | finalized existing_bound same prepared =>
    rw [get?_insert] at gone
    split_ifs at gone
    rw [bound] at gone
    cases gone
  | @replaced oldest free full found =>
    obtain ⟨evicted, evicted_bound, command, least⟩ := oldestTerminal_spec found
    rw [get?_insert, get?_erase] at gone
    split_ifs at gone with same evicts
    · subst evicts
      cases evicted_bound.symm.trans bound
      exact ⟨full, command, least⟩
    · rw [bound] at gone
      cases gone

lemma Change.keepsFinalized : KeepsFinalized receipts next := by
  intro key old new before after
  cases change with
  | added free room =>
    rw [get?_insert] at after
    split_ifs at after with same
    · subst same
      rw [free] at before
      cases before
    · cases before.symm.trans after
      exact ⟨rfl, fun _ => rfl⟩
  | finalized bound identity prepared =>
    rw [get?_insert] at after
    split_ifs at after with same
    · subst same
      cases bound.symm.trans before
      cases after
      exact ⟨identity.symm, fun finalized => absurd prepared finalized⟩
    · cases before.symm.trans after
      exact ⟨rfl, fun _ => rfl⟩
  | replaced free full found =>
    rw [get?_insert, get?_erase] at after
    split_ifs at after with same evicts
    · subst same
      rw [free] at before
      cases before
    · cases before.symm.trans after
      exact ⟨rfl, fun _ => rfl⟩

end

end Changes

end DurableCancellationStore

end Knowbee
