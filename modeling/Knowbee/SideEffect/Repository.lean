import Knowbee.Lib.SortedMap
import Knowbee.Lib.Threads
import Knowbee.SideEffect.Operation

/-!
# The side-effect repository and its use case

`side-effect-operation-repository.ts` and `side-effect-operation-use-case.ts`:
the operations that executors share, one for each scope, and the two-step
protocol over them.  An operation is reserved once for its scope and then moved
by transitions, each saved with its receipt at the revision it was decided at.
-/

namespace Knowbee

structure SideEffectOperationTransitionRecord where
  revision : Nat
  previousState : SideEffectOperationState
  event : SideEffectOperationEvent
  nextState : SideEffectOperationState
  receiptRef : String
  deriving DecidableEq

structure SideEffectOperationAggregate where
  identity : SideEffectOperationIdentity
  state : SideEffectOperationState
  revision : Nat
  transitions : List SideEffectOperationTransitionRecord
  deriving DecidableEq

/-- The rows of `SqliteSideEffectOperationRepository`. -/
structure SideEffectStore where
  operations : SortedMap String SideEffectOperationAggregate
  receipts : SortedMap String SideEffectOperationReceipt

inductive SaveRefusal where
  | revisionConflict | receiptConflict | receiptInvalid
  deriving DecidableEq

inductive SaveTransitionResult where
  | saved
  | refused (reasonCode : SaveRefusal) (currentRevision : Nat)
  | threw (message : String)
  deriving DecidableEq

def persistenceCorrupt : String := "side_effect_operation_persistence_corrupt"

/-- The loop of `hydrate`: the transitions as the table decides them again, and the
state they lead to. -/
def hydrateTransitions (state : SideEffectOperationState) (index : Nat) :
    List SideEffectOperationTransitionRecord →
    Option (List SideEffectOperationTransitionRecord × SideEffectOperationState)
  | [] => some ([], state)
  | item :: rest =>
    if item.revision ≠ index + 1 ∨ item.previousState ≠ state then none
    else
      match transitionSideEffectOperation state item.event item.receiptRef with
      | .refused _ _ _ => none
      | .accepted previousState event nextState receiptRef =>
        if item.nextState ≠ nextState then none
        else
          (hydrateTransitions nextState (index + 1) rest).map fun hydrated =>
            (⟨index + 1, previousState, event, nextState, receiptRef⟩ :: hydrated.1, hydrated.2)

def hydrate (row : SideEffectOperationAggregate) : Except String SideEffectOperationAggregate := do
  let identity ← buildSideEffectOperationIdentity
    ⟨row.identity.runId, row.identity.workId, row.identity.stepKey, row.identity.adapterId,
      row.identity.targetFingerprint, row.identity.paramsFingerprint⟩
  if identity.operationId ≠ row.identity.operationId ∨ identity.scopeId ≠ row.identity.scopeId ∨
      row.transitions.length ≠ row.revision then
    .error persistenceCorrupt
  else
    match hydrateTransitions .reserved 0 row.transitions with
    | none => .error persistenceCorrupt
    | some (transitions, state) =>
      if state ≠ row.state then .error persistenceCorrupt
      else .ok ⟨identity, state, row.revision, transitions⟩

/-- The identity as it is built again from a row. -/
def SideEffectOperationIdentity.tidy (identity : SideEffectOperationIdentity) :
    SideEffectOperationIdentity :=
  { identity with
    runId := jsTrim identity.runId
    workId := jsTrim identity.workId
    stepKey := jsTrim identity.stepKey
    adapterId := jsTrim identity.adapterId }

lemma SideEffectOperationIdentity.tidy_tidy (identity : SideEffectOperationIdentity) :
    identity.tidy.tidy = identity.tidy := by
  simp only [tidy, jsTrim_jsTrim]

lemma build_tidy {input : SideEffectOperationIdentityInput} {identity : SideEffectOperationIdentity}
    (built : buildSideEffectOperationIdentity input = .ok identity) : identity.tidy = identity := by
  obtain ⟨run, work, step, adapter, -⟩ := build_trims built
  simp only [SideEffectOperationIdentity.tidy, run, work, step, adapter, jsTrim_jsTrim]
  rw [← run, ← work, ← step, ← adapter]

/-- The operation with its identity as it is read. -/
def SideEffectOperationAggregate.tidy (row : SideEffectOperationAggregate) :
    SideEffectOperationAggregate :=
  { row with identity := row.identity.tidy }

section

variable {row aggregate : SideEffectOperationAggregate}

lemma hydrate_ok (hydrated : hydrate row = .ok aggregate) :
    aggregate.identity = row.identity.tidy ∧ aggregate.state = row.state ∧
      aggregate.revision = row.revision ∧
      hydrateTransitions .reserved 0 row.transitions =
        some (aggregate.transitions, aggregate.state) := by
  unfold hydrate at hydrated
  cases built : buildSideEffectOperationIdentity ⟨row.identity.runId, row.identity.workId,
      row.identity.stepKey, row.identity.adapterId, row.identity.targetFingerprint,
      row.identity.paramsFingerprint⟩ with
  | error message => simp [built, bind, Except.bind] at hydrated
  | ok identity =>
    simp only [built, bind, Except.bind] at hydrated
    split_ifs at hydrated with foreign
    simp only [not_or, not_not] at foreign
    cases decided : hydrateTransitions .reserved 0 row.transitions with
    | none => simp [decided] at hydrated
    | some again =>
      simp only [decided] at hydrated
      split_ifs at hydrated with other
      cases hydrated
      obtain ⟨run, work, step, adapter, target, params⟩ := build_trims built
      refine ⟨?_, not_not.mp other, rfl, rfl⟩
      obtain ⟨operationId, scopeId, runId, workId, stepKey, adapterId, target', params'⟩ := identity
      obtain ⟨same, same', -⟩ := foreign
      dsimp only at run work step adapter target params same same' ⊢
      rw [run, work, step, adapter, target, params, same, same']
      rfl

/-- Transitions with trimmed references are read as they are. -/
lemma hydrateTransitions_eq {state final : SideEffectOperationState} {index : Nat}
    {items records : List SideEffectOperationTransitionRecord}
    (hydrated : hydrateTransitions state index items = some (records, final))
    (trimmed : ∀ item ∈ items, jsTrim item.receiptRef = item.receiptRef) : records = items := by
  induction items generalizing state index records with
  | nil =>
    cases hydrated
    rfl
  | cons item rest ih =>
    rw [hydrateTransitions] at hydrated
    split_ifs at hydrated with foreign
    simp only [not_or, not_not] at foreign
    cases decided : transitionSideEffectOperation state item.event item.receiptRef with
    | refused other event reasonCode => simp [decided] at hydrated
    | accepted previousState event nextState receiptRef =>
      simp only [decided] at hydrated
      split_ifs at hydrated with other
      obtain ⟨again, onward, same⟩ := Option.map_eq_some_iff.mp hydrated
      obtain ⟨rfl, -⟩ := transition_accepted decided
      obtain ⟨-, rfl, rfl⟩ := transition_moves decided
      cases same
      rw [ih onward fun item' member => trimmed item' (List.mem_cons_of_mem _ member),
        trimmed item List.mem_cons_self, ← foreign.1, ← foreign.2, ← not_not.mp other]

end

namespace SideEffectStore

def empty : SideEffectStore := ⟨.empty, .empty⟩

variable (store : SideEffectStore)

def loadByScope (scopeId : String) : Except String (Option SideEffectOperationAggregate) :=
  match store.operations.get? scopeId with
  | none => .ok none
  | some row => (hydrate row).map some

def loadReceipt (receiptId : String) : Except String (Option SideEffectOperationReceipt) :=
  match store.receipts.get? receiptId with
  | none => .ok none
  | some receipt =>
    match store.operations.values.find? (·.identity.operationId = receipt.operationId) with
    | none => .error persistenceCorrupt
    | some row => do
      let operation ← hydrate row
      if validateSideEffectOperationReceipt receipt operation.identity receipt.event
            receipt.operationRevision ∧
          operation.transitions[receipt.operationRevision - 1]?.any fun item =>
            item.event = receipt.event ∧ item.receiptRef = receipt.receiptId then
        .ok (some receipt)
      else .error persistenceCorrupt

lemma loadByScope_some {scopeId : String} {aggregate : SideEffectOperationAggregate}
    (loaded : store.loadByScope scopeId = .ok (some aggregate)) :
    ∃ row, store.operations.get? scopeId = some row ∧ hydrate row = .ok aggregate := by
  unfold loadByScope at loaded
  cases found : store.operations.get? scopeId with
  | none => simp [found] at loaded
  | some row =>
    simp only [found] at loaded
    cases hydrated : hydrate row with
    | error message => simp [hydrated, Except.map] at loaded
    | ok hydrated' =>
      simp only [hydrated, Except.map, Except.ok.injEq, Option.some.injEq] at loaded
      exact ⟨row, rfl, loaded ▸ hydrated⟩

variable (aggregate : SideEffectOperationAggregate)

/-- `INSERT OR IGNORE`, with the operation and the scope unique. -/
def create : Bool × SideEffectStore :=
  if (store.operations.get? aggregate.identity.scopeId).isSome ∨
      store.operations.values.any
        fun other => other.identity.operationId = aggregate.identity.operationId then
    (false, store)
  else
    (true, { store with
      operations := store.operations.insert aggregate.identity.scopeId aggregate })

def refuse (expectedRevision : Nat) (reasonCode : SaveRefusal) : SaveTransitionResult :=
  match store.loadByScope aggregate.identity.scopeId with
  | .error message => .threw message
  | .ok (some current) => .refused reasonCode current.revision
  | .ok none => .refused reasonCode expectedRevision

/-- `INSERT OR IGNORE` leaves the receipt out: its id is taken, or its operation
has another receipt at the revision. -/
def hasReceipt (receipt : SideEffectOperationReceipt) : Bool :=
  (store.receipts.get? receipt.receiptId).isSome ||
    store.receipts.values.any fun other =>
      other.operationId = receipt.operationId ∧
        other.operationRevision = receipt.operationRevision

/-- The transaction of `saveTransition`: the receipt is inserted, and the row is
updated if it is at the expected revision. -/
def saveTransition (expectedRevision : Nat) (receipt : SideEffectOperationReceipt) :
    SaveTransitionResult × SideEffectStore :=
  let event := (aggregate.transitions.getLast?.map (·.event)).getD receipt.event
  if ¬validateSideEffectOperationReceipt receipt aggregate.identity event aggregate.revision then
    (.refused .receiptInvalid expectedRevision, store)
  else if store.hasReceipt receipt then
    (store.refuse aggregate expectedRevision .receiptConflict, store)
  else
    match store.operations.get? aggregate.identity.scopeId with
    | none => (store.refuse aggregate expectedRevision .revisionConflict, store)
    | some row =>
      if row.identity.operationId ≠ aggregate.identity.operationId ∨
          row.revision ≠ expectedRevision then
        (store.refuse aggregate expectedRevision .revisionConflict, store)
      else
        (.saved, {
          operations := store.operations.insert aggregate.identity.scopeId { row with
            state := aggregate.state
            revision := aggregate.revision
            transitions := aggregate.transitions }
          receipts := store.receipts.insert receipt.receiptId receipt })

lemma refuse_ne_saved (expectedRevision : Nat) (reasonCode : SaveRefusal) :
    store.refuse aggregate expectedRevision reasonCode ≠ .saved := by
  unfold refuse
  rcases store.loadByScope aggregate.identity.scopeId with message | _ | current <;> simp

lemma saveTransition_cases (expectedRevision : Nat) (receipt : SideEffectOperationReceipt) :
    (store.saveTransition aggregate expectedRevision receipt).1 ≠ .saved ∧
        (store.saveTransition aggregate expectedRevision receipt).2 = store ∨
      ∃ row, store.operations.get? aggregate.identity.scopeId = some row ∧
        row.revision = expectedRevision ∧ store.receipts.get? receipt.receiptId = none ∧
        store.saveTransition aggregate expectedRevision receipt = (.saved, {
          operations := store.operations.insert aggregate.identity.scopeId { row with
            state := aggregate.state
            revision := aggregate.revision
            transitions := aggregate.transitions }
          receipts := store.receipts.insert receipt.receiptId receipt }) := by
  unfold saveTransition
  cases found : store.operations.get? aggregate.identity.scopeId with
  | none =>
    simp only
    split_ifs
    · exact .inl ⟨store.refuse_ne_saved _ _ _, rfl⟩
    · exact .inl ⟨store.refuse_ne_saved _ _ _, rfl⟩
    · exact .inl ⟨nofun, rfl⟩
  | some row =>
    simp only
    split_ifs with _ taken stale
    · exact .inl ⟨store.refuse_ne_saved _ _ _, rfl⟩
    · exact .inl ⟨store.refuse_ne_saved _ _ _, rfl⟩
    · have free : store.receipts.get? receipt.receiptId = none := by
        simp only [hasReceipt, Bool.or_eq_true, not_or] at taken
        exact Option.not_isSome_iff_eq_none.mp taken.1
      exact .inr ⟨row, rfl, not_not.mp (not_or.mp stale).2, free, rfl⟩
    · exact .inl ⟨nofun, rfl⟩

end SideEffectStore

/-- The evidence of a receipt, as each transition of an executor gives it.
Opaque evidence of a port is text. -/
inductive SideEffectEvidence where
  | authorization (authorization : SideEffectOperationAuthorization)
  | resumedFrom (state : SideEffectOperationState)
  | resumedReceipts (receiptRefs : String × String)
  | resumedFailure (reasonCode : String)
  | reason (reasonCode : String)
  | rejection (reasonCode : String) (retrySafety : String) (targetFingerprint : String)
      (resultFingerprint : String) (recordedAt : Int)
  | effect (success : Bool) (targetFingerprint : String) (resultFingerprint : String)
      (recordedAt : Int) (effectEvidenceRefs : Option (List String))
  | receipts (receiptRefs : String × String)
  | compensation (compensation : String) (verification : String)

structure PreEffectRejection where
  (reasonCode retrySafety : String)

/-- What `executeEffect` resolves to. -/
structure SideEffectResult (T : Type) where
  value : T
  success : Bool
  resultFingerprint : String
  recordedAt : Int
  effectEvidenceRefs : Option (List String)
  preEffectRejection : Option PreEffectRejection

/-- What an observer of the state after the effect resolves to. -/
structure SideEffectObservation where
  available : Bool
  (targetFingerprint expectedStateFingerprint observedStateFingerprint : String)
  capturedAt : Int
  recoveryEvidence : Option String

structure CompensationResult where
  success : Bool
  receiptEvidence : String

structure CompensationVerification where
  verified : Bool
  receiptEvidence : String

/-- The steps of an executor that others can come between: calls of the repository and of its ports.
-/
inductive SideEffectStep (T : Type) where
  | loadByScope (scopeId : String)
  | create (aggregate : SideEffectOperationAggregate)
  | loadReceipt (receiptId : String)
  | saveTransition (aggregate : SideEffectOperationAggregate) (expectedRevision : Nat)
      (receipt : SideEffectOperationReceipt)
  | createReceipt (identity : SideEffectOperationIdentity) (event : SideEffectOperationEvent)
      (operationRevision : Nat) (evidence : Option SideEffectEvidence)
  | isCancelled
  | executeEffect (identity : SideEffectOperationIdentity)
  | observePostState (value : T)
  | observeCurrentPostState (effectEvidenceRefs : List String)
  | compensate (value : T)
  | verifyCompensation

@[reducible] def SideEffectStep.Answer (T : Type) : SideEffectStep T → Type
  | .loadByScope _ => Except String (Option SideEffectOperationAggregate)
  | .create _ => Bool
  | .loadReceipt _ => Except String (Option SideEffectOperationReceipt)
  | .saveTransition _ _ _ => SaveTransitionResult
  | .createReceipt _ _ _ _ => SideEffectOperationReceipt
  | .isCancelled => Bool
  | .executeEffect _ => SideEffectResult T
  | .observePostState _ => SideEffectObservation
  | .observeCurrentPostState _ => SideEffectObservation
  | .compensate _ => CompensationResult
  | .verifyCompensation => CompensationVerification

abbrev SideEffectProg (T : Type) : Type → Type := Prog (SideEffectStep T) (SideEffectStep.Answer T)

variable {T : Type}

abbrev sideEffectStep (op : SideEffectStep T) : SideEffectProg T (op.Answer T) := Prog.perform op

inductive ReserveRefusal where
  | operationScopeParamsConflict
  | operationScopePersistenceConflict

def ReserveRefusal.code : ReserveRefusal → String
  | .operationScopeParamsConflict => "operation_scope_params_conflict"
  | .operationScopePersistenceConflict => "operation_scope_persistence_conflict"

inductive ReserveSideEffectOperationResult where
  | reserved (aggregate : SideEffectOperationAggregate)
  | existing (aggregate : SideEffectOperationAggregate)
  | rejected (reasonCode : ReserveRefusal)
  | threw (message : String)

def reserveSideEffectOperation (identity : SideEffectOperationIdentity) :
    SideEffectProg T ReserveSideEffectOperationResult := do
  match ← sideEffectStep (.loadByScope identity.scopeId) with
  | .error message => return .threw message
  | .ok (some current) =>
    if current.identity = identity then return .existing current
    else return .rejected .operationScopeParamsConflict
  | .ok none =>
    let aggregate : SideEffectOperationAggregate := ⟨identity, .reserved, 0, []⟩
    if ← sideEffectStep (.create aggregate) then return .reserved aggregate
    else
      match ← sideEffectStep (.loadByScope identity.scopeId) with
      | .error message => return .threw message
      | .ok none => return .rejected .operationScopePersistenceConflict
      | .ok (some raced) =>
        if raced.identity = identity then return .existing raced
        else return .rejected .operationScopeParamsConflict

inductive SideEffectTransitionRejection where
  | operationNotFound | operationIdentityMismatch | staleRevision
  | decision (refusal : SideEffectTransitionRefusal)
  | save (refusal : SaveRefusal)
  | receiptConflict
  | receiptInvalid

def SideEffectTransitionRejection.code : SideEffectTransitionRejection → String
  | .operationNotFound => "operation_not_found"
  | .operationIdentityMismatch => "operation_identity_mismatch"
  | .staleRevision => "stale_revision"
  | .decision .receiptRequired => "receipt_required"
  | .decision .transitionNotAllowed => "transition_not_allowed"
  | .decision .terminalStateLocked => "terminal_state_locked"
  | .save .revisionConflict => "revision_conflict"
  | .save .receiptConflict => "receipt_conflict"
  | .save .receiptInvalid => "receipt_invalid"
  | .receiptConflict => "receipt_conflict"
  | .receiptInvalid => "receipt_invalid"

inductive TransitionSideEffectOperationResult where
  | applied (aggregate : SideEffectOperationAggregate)
  | rejected (reasonCode : SideEffectTransitionRejection) (currentRevision : Option Nat)
  | threw (message : String)

def saveSideEffectTransition (current : SideEffectOperationAggregate) (expectedRevision : Nat)
    (event : SideEffectOperationEvent) (receipt : SideEffectOperationReceipt) :
    SideEffectProg T TransitionSideEffectOperationResult := do
  if current.revision ≠ expectedRevision then
    return .rejected .staleRevision (some current.revision)
  else if ¬validateSideEffectOperationReceipt receipt current.identity event
      (current.revision + 1) then
    return .rejected .receiptInvalid none
  else
    match transitionSideEffectOperation current.state event receipt.receiptId with
    | .refused _ _ reasonCode => return .rejected (.decision reasonCode) none
    | .accepted previousState event nextState receiptRef =>
      let revision := current.revision + 1
      let aggregate : SideEffectOperationAggregate := { current with
        state := nextState
        revision
        transitions :=
          current.transitions ++ [⟨revision, previousState, event, nextState, receiptRef⟩] }
      match ← sideEffectStep (.saveTransition aggregate expectedRevision receipt) with
      | .saved => return .applied aggregate
      | .refused reasonCode currentRevision =>
        return .rejected (.save reasonCode) (some currentRevision)
      | .threw message => return .threw message

def transitionReservedSideEffectOperation (operationId scopeId : String) (expectedRevision : Nat)
    (event : SideEffectOperationEvent) (receipt : SideEffectOperationReceipt) :
    SideEffectProg T TransitionSideEffectOperationResult := do
  match ← sideEffectStep (.loadByScope scopeId) with
  | .error message => return .threw message
  | .ok none => return .rejected .operationNotFound none
  | .ok (some current) =>
    if current.identity.operationId ≠ operationId then
      return .rejected .operationIdentityMismatch none
    else if current.revision = expectedRevision + 1 then
      match ← sideEffectStep (.loadReceipt receipt.receiptId) with
      | .error message => return .threw message
      | .ok persisted =>
        if (current.transitions.getLast?.map fun last => (last.event, last.receiptRef)) =
            some (event, receipt.receiptId) then
          -- The receipts are compared as the JSON of all their fields.
          if persisted = some receipt then return .applied current
          else return .rejected .receiptConflict none
        else saveSideEffectTransition current expectedRevision event receipt
    else saveSideEffectTransition current expectedRevision event receipt

end Knowbee
