import Knowbee.SubSession.Store

/-!
# The writers of a stored status

Three kinds of writers update the rows of `run_subsessions`: the calls of the runner
(`sub-session-runner.ts`), each with its own copy, decisions about a delegated
capability (`capability-isolation.ts`), and the recovery after a restart, which goes
through copies that were loaded before.  Only the calls of the runner look at
`SUB_SESSION_STATUS_TRANSITIONS`.
-/

namespace Knowbee

inductive CapabilityDelegationStatus where
  | requested | approved | denied | expired | completed | failed
  deriving DecidableEq

def CapabilityDelegationStatus.transitions :
    CapabilityDelegationStatus → List CapabilityDelegationStatus
  | .requested => [.approved, .denied, .expired, .failed]
  | .approved => [.completed, .failed]
  | .denied | .expired | .completed | .failed => []

inductive CapabilityApprovalDecision where
  | approve | deny | expire | fail
  deriving DecidableEq

def CapabilityApprovalDecision.status : CapabilityApprovalDecision → CapabilityDelegationStatus
  | .approve => .approved
  | .expire => .expired
  | .fail => .failed
  | .deny => .denied

structure CapabilityDelegation where
  delegationId : String
  status : CapabilityDelegationStatus

inductive CapabilityDelegationReason where
  | notFound | transitionDenied | updated

structure CapabilityDelegationLifecycleResult where
  ok : Bool
  delegationId : String
  previousStatus : Option CapabilityDelegationStatus
  status : CapabilityDelegationStatus
  reason : CapabilityDelegationReason

def CapabilityDelegation.updated (delegationId : String) (status : CapabilityDelegationStatus)
    (row : CapabilityDelegation) : CapabilityDelegation :=
  if row.delegationId = delegationId then { row with status } else row

def updateCapabilityDelegationLifecycle (delegations : List CapabilityDelegation)
    (delegationId : String) (status : CapabilityDelegationStatus) :
    CapabilityDelegationLifecycleResult × List CapabilityDelegation :=
  match delegations.find? fun row => row.delegationId = delegationId with
  | none => (⟨false, delegationId, none, status, .notFound⟩, delegations)
  | some delegation =>
    if status ∉ delegation.status.transitions then
      (⟨false, delegationId, some delegation.status, status, .transitionDenied⟩, delegations)
    else
      (⟨true, delegationId, some delegation.status, status, .updated⟩,
        delegations.map (CapabilityDelegation.updated delegationId status))

/-- The copies that recoveries still go through and the calls of the runner beside
the tables. -/
structure StatusWriters where
  store : SubSessionStore
  delegations : List CapabilityDelegation
  runners : List SubSessionOwn
  recoveries : List (List DbRunSubSession)

namespace RunSubSessions

def getRunSubSession (table : RunSubSessions) (subSessionId : String) : Option DbRunSubSession :=
  table.rows.find? fun row => row.subSessionId = subSessionId

end RunSubSessions

def DbRunSubSession.contract (row : DbRunSubSession) : SubSessionContract :=
  ⟨row.subSessionId, row.idempotencyKey⟩

inductive SubSessionRecoveryAction where
  | unchanged
  | markFailed
  deriving DecidableEq

structure SubSessionRecoveryDecision where
  subSessionId : String
  (previousStatus nextStatus : SubSessionStatus)
  action : SubSessionRecoveryAction

def SubSessionStatus.isActive : SubSessionStatus → Bool
  | .created | .queued | .running | .waitingForInput | .awaitingApproval => true
  | _ => false

def classifySubSessionRecovery (subSession : DbRunSubSession) : SubSessionRecoveryDecision :=
  if subSession.status.isActive then
    ⟨subSession.subSessionId, subSession.status, .failed, .markFailed⟩
  else ⟨subSession.subSessionId, subSession.status, subSession.status, .unchanged⟩

/-- What is read of the input of `applyCapabilityDelegationApprovalDecision`; the
update of the parent run between the two writes may throw. -/
structure ApprovalDecisionInput where
  delegationId : String
  decision : CapabilityApprovalDecision
  subSessionId : Option String
  runUpdateThrows : Bool

namespace StatusWriters

variable (writers : StatusWriters)

def stored (subSessionId : String) : Option SubSessionStatus :=
  (writers.store.table.getRunSubSession subSessionId).map (·.status)

/-- The tables at the start, which hold whatever earlier runs left. -/
def start (table : RunSubSessions) (delegations : List CapabilityDelegation) : StatusWriters :=
  ⟨.start table, delegations, [], []⟩

/-- `updateRunSubSession` of a copy with another status; an update that is refused throws. -/
def update (store : SubSessionStore) (copy : DbRunSubSession) (status : SubSessionStatus) :
    Option SubSessionStore :=
  (store.table.updateRunSubSession copy.contract status).map fun table => { store with table }

/-- `nextStatus` of `applyCapabilityDelegationApprovalDecision`. -/
def decidedStatus (status : CapabilityDelegationStatus) : SubSessionStatus :=
  if status = .approved then .queued else .cancelled

/-- The last part of `applyCapabilityDelegationApprovalDecision`: an empty id is no id. -/
def decideSubSession (store : SubSessionStore) (subSessionId : Option String)
    (status : CapabilityDelegationStatus) : SubSessionStore :=
  match subSessionId with
  | none => store
  | some subSessionId =>
    if subSessionId = "" then store
    else
      match store.table.getRunSubSession subSessionId with
      | none => store
      | some subSession => (update store subSession (decidedStatus status)).getD store

def applyCapabilityDelegationApprovalDecision (input : ApprovalDecisionInput) :
    CapabilityDelegationLifecycleResult × StatusWriters :=
  let (result, delegations) := updateCapabilityDelegationLifecycle writers.delegations
    input.delegationId input.decision.status
  if !result.ok then (result, writers)
  else if input.runUpdateThrows then (result, { writers with delegations })
  else
    (result, { writers with
      delegations
      store := decideSubSession writers.store input.subSessionId input.decision.status })

/-- A call of the runner begins; with a record under its key it is a replay, and with
a record under its id it goes on without an insertion. -/
def startRunner (command : CommandRequest) : StatusWriters :=
  let contract := buildSubSessionContract command
  let (inserted, table) := writers.store.table.insertRunSubSession contract writers.runners.length
  if !inserted ∧ (table.getRunSubSessionByIdempotencyKey contract.idempotencyKey).isSome then writers
  else
    { writers with
      store := { writers.store with table }
      runners := writers.runners ++ [(contract, .created)] }

/-- A call of the runner changes the status of its copy and stores it. -/
def changeStatus (writers : StatusWriters) (number : Nat) (target : SubSessionStatus)
    (updateFails : Option ThrownError) : StatusWriters :=
  match writers.runners[number]? with
  | none => writers
  | some (contract, world) =>
    let updateFails := if writers.store.table.Updatable contract then updateFails else some ⟨false⟩
    let world' := (world.changeStatus target updateFails).2
    { writers with
      store := writers.store.write number contract world world'
      runners := writers.runners.set number (contract, world') }

/-- `recoverInterruptedSubSessions` is called with sub-sessions loaded now. -/
def startRecovery (subSessionIds : List String) : StatusWriters :=
  { writers with
    recoveries := writers.recoveries ++
      [subSessionIds.filterMap writers.store.table.getRunSubSession] }

/-- One turn of its loop; an update that throws ends it. -/
def recoverNext (number : Nat) (updateFails : Bool) : StatusWriters :=
  match writers.recoveries[number]? with
  | none | some [] => writers
  | some (copy :: rest) =>
    let recovery := classifySubSessionRecovery copy
    if recovery.action ≠ .markFailed then
      { writers with recoveries := writers.recoveries.set number rest }
    else
      let written := if updateFails then none else update writers.store copy recovery.nextStatus
      match written with
      | none => { writers with recoveries := writers.recoveries.set number [] }
      | some store => { writers with store, recoveries := writers.recoveries.set number rest }

end StatusWriters

inductive StatusAction where
  | startRunner (command : CommandRequest)
  | changeStatus (number : Nat) (target : SubSessionStatus) (updateFails : Option ThrownError)
  | applyDecision (input : ApprovalDecisionInput)
  | startRecovery (subSessionIds : List String)
  | recoverNext (number : Nat) (updateFails : Bool)

def StatusWriters.step (writers : StatusWriters) : StatusAction → StatusWriters × Unit
  | .startRunner command => (writers.startRunner command, ())
  | .changeStatus number target updateFails => (writers.changeStatus number target updateFails, ())
  | .applyDecision input => ((writers.applyCapabilityDelegationApprovalDecision input).2, ())
  | .startRecovery subSessionIds => (writers.startRecovery subSessionIds, ())
  | .recoverNext number updateFails => (writers.recoverNext number updateFails, ())

abbrev StatusWriters.run : StatusWriters → List StatusAction → StatusWriters :=
  Machine.run StatusWriters.step

end Knowbee
