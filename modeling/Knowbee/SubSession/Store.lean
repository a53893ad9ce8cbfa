import Knowbee.SubSession.Lifecycle

/-!
# The store of sub-sessions

The table `run_subsessions` of `db/index.ts`, whose rows have different ids and different
idempotency keys, and any number of calls of `runSubSession` on it, from the load of the record
on.  A call whose insertion is refused loads again by its idempotency key only.
-/

namespace Knowbee

variable {R : Type}

/-- What is read of a `CommandRequest`. -/
structure CommandRequest where
  (subSessionId parentRunId idempotencyKey : String)

/-- What identifies a `SubSessionContract`. -/
structure SubSessionContract where
  (subSessionId idempotencyKey : String)

/-- `buildSubSessionContract`; an empty key is replaced. -/
def buildSubSessionContract (command : CommandRequest) : SubSessionContract :=
  { subSessionId := command.subSessionId
    idempotencyKey :=
      if command.idempotencyKey ≠ "" then command.idempotencyKey
      else s!"sub-session:{command.parentRunId}:{command.subSessionId}" }

/-- A row; `createdBy` is the number of the call that inserted it, if it was one. -/
structure DbRunSubSession where
  (subSessionId idempotencyKey : String)
  status : SubSessionStatus
  createdBy : Option Nat
  deriving DecidableEq

/-- The primary key and the unique column keep two rows apart. -/
def DbRunSubSession.Apart (row other : DbRunSubSession) : Prop :=
  row.subSessionId ≠ other.subSessionId ∧ row.idempotencyKey ≠ other.idempotencyKey

instance (row other : DbRunSubSession) : Decidable (row.Apart other) :=
  inferInstanceAs (Decidable (_ ∧ _))

instance : Std.Symm DbRunSubSession.Apart := ⟨fun _ _ apart => ⟨apart.1.symm, apart.2.symm⟩⟩

/-- The table `run_subsessions`. -/
structure RunSubSessions where
  rows : List DbRunSubSession
  apart : rows.Pairwise DbRunSubSession.Apart

namespace RunSubSessions

variable (table : RunSubSessions)

def getRunSubSessionByIdempotencyKey (idempotencyKey : String) : Option DbRunSubSession :=
  table.rows.find? fun row => row.idempotencyKey = idempotencyKey

variable (input : SubSessionContract)

/-- `insertRunSubSession`: false when one of the unique columns has the value. -/
def insertRunSubSession (number : Nat) : Bool × RunSubSessions :=
  let row : DbRunSubSession := ⟨input.subSessionId, input.idempotencyKey, .created, some number⟩
  if free : ∀ other ∈ table.rows, other.Apart row then
    (true, ⟨table.rows ++ [row], List.pairwise_append.mpr
      ⟨table.apart, List.pairwise_singleton _ _, fun other member _ last =>
        List.mem_singleton.mp last ▸ free other member⟩⟩)
  else (false, table)

variable (status : SubSessionStatus)

def updatedRow (row : DbRunSubSession) : DbRunSubSession :=
  if row.subSessionId = input.subSessionId then
    { row with idempotencyKey := input.idempotencyKey, status }
  else row

/-- No other row has the key that an update writes. -/
def Updatable : Prop :=
  ∀ row ∈ table.rows, row.subSessionId ≠ input.subSessionId →
    row.idempotencyKey ≠ input.idempotencyKey

instance (table : RunSubSessions) (input : SubSessionContract) : Decidable (table.Updatable input) :=
  inferInstanceAs (Decidable (∀ _ ∈ _, _))

lemma updatedRow_subSessionId (row : DbRunSubSession) :
    (updatedRow input status row).subSessionId = row.subSessionId := by
  unfold updatedRow
  split_ifs <;> rfl

/-- `updateRunSubSession`, which does not look at the key of the row it finds. -/
def updateRunSubSession : Option RunSubSessions :=
  if updatable : table.Updatable input then
    some ⟨table.rows.map (updatedRow input status), by
      rw [List.pairwise_map]
      refine table.apart.imp_of_mem fun {row other} here there apart => ⟨?_, ?_⟩
      · rw [updatedRow_subSessionId, updatedRow_subSessionId]
        exact apart.1
      · unfold updatedRow
        split_ifs with first second
        · exact absurd (first.trans second.symm) apart.1
        · exact (updatable other there second).symm
        · exact updatable row here first
        · exact apart.2⟩
  else none

end RunSubSessions

/-- The table, the handlers that were called, with the number and the contract of
their call, and the updates, with the number of the call and of the one that
inserted the row. -/
structure SubSessionStore where
  table : RunSubSessions
  invoked : List (Nat × SubSessionContract)
  updated : List (Nat × Option Nat)

namespace SubSessionStore

/-- A store whose rows were there before. -/
def start (table : RunSubSessions) : SubSessionStore :=
  ⟨⟨table.rows.map fun row => { row with createdBy := none }, List.pairwise_map.mpr table.apart⟩,
    [], []⟩

/-- One stored change of the status of a call. -/
def update (number : Nat) (contract : SubSessionContract) (store : SubSessionStore)
    (status : SubSessionStatus) : SubSessionStore :=
  match store.table.updateRunSubSession contract status with
  | none => store
  | some table =>
    let hit := store.table.rows.filter fun row => row.subSessionId = contract.subSessionId
    { store with table, updated := store.updated ++ hit.map fun row => (number, row.createdBy) }

end SubSessionStore

/-- The operations of a call; those of its part after the insertion are the ones
of a `RunnerOp`. -/
inductive SubSessionOp where
  | loadSubSessionByIdempotencyKey | persistSubSession | appendReplayEvent
  | runner (op : RunnerOp)

def SubSessionAns (R : Type) : SubSessionOp → Type
  | .loadSubSessionByIdempotencyKey => Except ThrownError (Option SubSessionStatus)
  | .persistSubSession => Except ThrownError Bool
  | .appendReplayEvent => Except ThrownError Unit
  | .runner op => RunnerAns R op

/-- Every update fails that the table refuses. -/
def RunnerChoice.refusing (choice : RunnerChoice R) (refused : Prop) [Decidable refused] :
    RunnerChoice R :=
  if refused then
    { choice with
      updateFails := some ⟨false⟩
      meanwhile := choice.meanwhile.map fun
        | .emitProgress status _ => .emitProgress status (some ⟨false⟩)
        | .abort => .abort }
  else choice

/-- What a call has beside the store: its contract and its world. -/
abbrev SubSessionOwn : Type := SubSessionContract × SubSessionWorld

namespace SubSessionStore

/-- What a call stored since its world was `before` goes to the table. -/
def write (number : Nat) (contract : SubSessionContract) (before world : SubSessionWorld)
    (store : SubSessionStore) : SubSessionStore :=
  (world.persisted.drop before.persisted.length).foldl (update number contract) store

def noteHandler (number : Nat) (contract : SubSessionContract) (store : SubSessionStore) :
    RunnerOp → SubSessionStore
  | .callHandler => { store with invoked := store.invoked ++ [(number, contract)] }
  | _ => store

def handle (choice : RunnerChoice R) (number : Nat) (state : SubSessionStore × SubSessionOwn) :
    (op : SubSessionOp) → SubSessionAns R op × SubSessionStore × SubSessionOwn
  | .loadSubSessionByIdempotencyKey =>
    let found := state.1.table.getRunSubSessionByIdempotencyKey state.2.1.idempotencyKey
    (throwOr choice.throws (found.map (·.status)), state)
  | .persistSubSession =>
    match choice.throws with
    | some error => (.error error, state)
    | none =>
      let (inserted, table) := state.1.table.insertRunSubSession state.2.1 number
      (.ok inserted, { state.1 with table }, state.2)
  | .appendReplayEvent => (throwOr choice.throws (), state)
  | .runner op =>
    let (store, contract, world) := state
    let (ans, world') := world.handle (choice.refusing ¬store.table.Updatable contract) op
    (ans, (store.write number contract world world').noteHandler number contract op, contract, world')

/-- After the end of a call its handler may go on. -/
def after (choice : RunnerChoice R) (number : Nat) (state : SubSessionStore × SubSessionOwn) :
    SubSessionStore × SubSessionOwn :=
  let (store, contract, world) := state
  let world' := world.meanwhile (choice.refusing ¬store.table.Updatable contract)
  (store.write number contract world world', contract, world')

end SubSessionStore

/-- A call that replays the record it found, or that ran its part after the
insertion. -/
inductive SubSessionOutcome (R : Type) where
  | replayed (status : SubSessionStatus)
  | ran (outcome : RunnerOutcome R)

abbrev SubSessionProg (R α : Type) : Type := Throwing SubSessionOp (SubSessionAns R) ThrownError α

namespace SubSessionRunner

def loadSubSession : SubSessionProg R (Option SubSessionStatus) :=
  .attempt .loadSubSessionByIdempotencyKey id

def replay (status : SubSessionStatus) : SubSessionProg R (SubSessionOutcome R) := do
  .attempt .appendReplayEvent id
  return .replayed status

variable (hasModelSnapshot : Bool)

/-- The part after the insertion. -/
def runRest : SubSessionProg R (SubSessionOutcome R) := do
  let outcome ← ExceptT.mk
    ((runCreated hasModelSnapshot).run.embed SubSessionOp.runner fun _ ans => ans)
  return .ran outcome

/-- What follows the first load: without an insertion and without a record under
the key, the call goes on as with one. -/
def persistAndRun : SubSessionProg R (SubSessionOutcome R) := do
  let inserted ← .attempt .persistSubSession id
  if !inserted then
    match ← loadSubSession with
    | some status => replay status
    | none => runRest hasModelSnapshot
  else runRest hasModelSnapshot

/-- `runSubSession`, once its checks have passed. -/
def runSubSession : SubSessionProg R (SubSessionOutcome R) := do
  match ← loadSubSession with
  | some status => if status.isReplayable then replay status else persistAndRun hasModelSnapshot
  | none => persistAndRun hasModelSnapshot

end SubSessionRunner

/-- What a call is made with: its command, and whether a model was resolved. -/
structure RunSubSessionInput where
  command : CommandRequest
  hasModelSnapshot : Bool

/-- Any number of calls on one table. -/
def subSessionSystem (R : Type) : CallSystem RunSubSessionInput SubSessionOp (SubSessionAns R)
    (Except ThrownError (SubSessionOutcome R)) SubSessionStore SubSessionOwn (RunnerChoice R) where
  enter input := ((buildSubSessionContract input.command, .created),
    (SubSessionRunner.runSubSession input.hasModelSnapshot).run)
  handle := SubSessionStore.handle
  after := SubSessionStore.after

end Knowbee
