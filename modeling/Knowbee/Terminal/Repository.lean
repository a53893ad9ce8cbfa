import Knowbee.Lib.RecordStore
import Knowbee.Terminal.Content

/-!
# The terminal repositories

`v2_terminal_repository.rs`: one claim for each idempotency key and, once the command is finished,
its terminal content.

There are two repositories behind one interface, one in the memory of a process and one that
commits every change to a durable storage and completes what was prepared when it starts.
-/

namespace Knowbee

open CasStore

inductive V2TerminalRepositoryBuildError where
  | invalidCapacity
  | invalidScope

/-- An idempotency key and the digest of the exact command it is used for, as
`V2TerminalScope::new` admits them. -/
structure V2TerminalScope where
  (idempotencyKey exactScopeDigest : String)
  valid : validateIdentifier idempotencyKey = true ∧ isSha256Digest exactScopeDigest = true

def V2TerminalScope.new (idempotencyKey exactScopeDigest : String) :
    Except V2TerminalRepositoryBuildError V2TerminalScope :=
  if valid : validateIdentifier idempotencyKey = true ∧ isSha256Digest exactScopeDigest = true then
    .ok ⟨idempotencyKey, exactScopeDigest, valid⟩
  else .error .invalidScope

inductive V2TerminalClaim where
  | claimed
  | inProgress
  | completed (content : V2TerminalResponseContent)
  | scopeConflict
  | saturated
  | unavailable

inductive V2TerminalLookup where
  | miss
  | inProgress
  | completed (content : V2TerminalResponseContent)
  | scopeConflict
  | unavailable

inductive V2TerminalComplete where
  | completed | alreadyCompleted | missing | scopeConflict | unavailable

def contentMatchesScope (scope : V2TerminalScope) (content : V2TerminalResponseContent) : Bool :=
  content.validateStored && content.idempotencyKey == scope.idempotencyKey &&
    content.targetScopeDigest.all fun digest => digest == scope.exactScopeDigest

def validRestartRecovery (scope : V2TerminalScope) (content : V2TerminalResponseContent) : Bool :=
  content.validateRestartRecovery && contentMatchesScope scope content

/-- The calls of the interface `V2TerminalRepository`. -/
inductive V2TerminalCall where
  | prepare (scope : V2TerminalScope) (restartRecovery : V2TerminalResponseContent)
  | lookup (scope : V2TerminalScope)
  | complete (scope : V2TerminalScope) (content : V2TerminalResponseContent)

inductive V2TerminalAnswer where
  | prepare (claim : V2TerminalClaim)
  | lookup (lookup : V2TerminalLookup)
  | complete (complete : V2TerminalComplete)

inductive StoredTerminal where
  | prepared (restartRecovery : V2TerminalResponseContent)
  | completed (content : V2TerminalResponseContent)

structure StoredRecord where
  exactScopeDigest : String
  terminal : StoredTerminal

structure InMemoryV2TerminalRepository where
  capacity : Nat
  records : SortedMap String StoredRecord

namespace InMemoryV2TerminalRepository

def new (capacity : Nat) : Except V2TerminalRepositoryBuildError InMemoryV2TerminalRepository :=
  if capacity = 0 ∨ u32Max < capacity then .error .invalidCapacity else .ok ⟨capacity, .empty⟩

variable (repository : InMemoryV2TerminalRepository) (scope : V2TerminalScope)

def prepare (restartRecovery : V2TerminalResponseContent) :
    InMemoryV2TerminalRepository × V2TerminalClaim :=
  if !validRestartRecovery scope restartRecovery then (repository, .unavailable)
  else
    match repository.records.get? scope.idempotencyKey with
    | some record =>
      if record.exactScopeDigest ≠ scope.exactScopeDigest then (repository, .scopeConflict)
      else
        match record.terminal with
        | .prepared _ => (repository, .inProgress)
        | .completed content => (repository, .completed content)
    | none =>
      if repository.capacity ≤ repository.records.size then (repository, .saturated)
      else
        let record := {
          exactScopeDigest := scope.exactScopeDigest
          terminal := .prepared restartRecovery
        }
        ({ repository with records := repository.records.insert scope.idempotencyKey record },
          .claimed)

def lookup : V2TerminalLookup :=
  match repository.records.get? scope.idempotencyKey with
  | none => .miss
  | some record =>
    if record.exactScopeDigest ≠ scope.exactScopeDigest then .scopeConflict
    else
      match record.terminal with
      | .prepared _ => .inProgress
      | .completed content => .completed content

def complete (content : V2TerminalResponseContent) :
    InMemoryV2TerminalRepository × V2TerminalComplete :=
  if !contentMatchesScope scope content then (repository, .unavailable)
  else
    match repository.records.get? scope.idempotencyKey with
    | none => (repository, .missing)
    | some record =>
      if record.exactScopeDigest ≠ scope.exactScopeDigest then (repository, .scopeConflict)
      else
        match record.terminal with
        | .prepared _ =>
          let record := { record with terminal := .completed content }
          ({ repository with records := repository.records.insert scope.idempotencyKey record },
            .completed)
        | .completed _ => (repository, .alreadyCompleted)

def call :
    V2TerminalCall → InMemoryV2TerminalRepository × V2TerminalAnswer
  | .prepare scope restartRecovery => (repository.prepare scope restartRecovery).map id .prepare
  | .lookup scope => (repository, .lookup (repository.lookup scope))
  | .complete scope content => (repository.complete scope content).map id .complete

end InMemoryV2TerminalRepository

def durableV2TerminalSchemaVersion : Nat := 2

def legacyDurableV2TerminalSchemaVersion : Nat := 1

inductive DurableTerminalState where
  | legacyPending
  | prepared (restartRecovery : V2TerminalResponseContent)
  | completed (content : V2TerminalResponseContent)
  deriving DecidableEq

structure DurableTerminalRecord where
  schemaVersion : Nat
  (idempotencyKey exactScopeDigest : String)
  terminal : DurableTerminalState

inductive DurableV2TerminalRepositoryError where
  | invalidCapacity | corrupt | duplicateRecord | recoveryEvidenceMissing | recoveryCommitFailed
  | saturated | unavailable

namespace DurableTerminalRecord

variable (record : DurableTerminalRecord)

def scope : Except DurableV2TerminalRepositoryError V2TerminalScope :=
  (V2TerminalScope.new record.idempotencyKey record.exactScopeDigest).mapError fun _ => .corrupt

def validate : Except DurableV2TerminalRepositoryError Unit :=
  if ¬(record.schemaVersion = legacyDurableV2TerminalSchemaVersion ∨
      record.schemaVersion = durableV2TerminalSchemaVersion) then
    .error .corrupt
  else do
    let scope ← record.scope
    match record.terminal with
    | .legacyPending =>
      if record.schemaVersion ≠ legacyDurableV2TerminalSchemaVersion then throw .corrupt
    | .prepared restartRecovery =>
      if record.schemaVersion ≠ durableV2TerminalSchemaVersion ∨
          !validRestartRecovery scope restartRecovery then throw .corrupt
    | .completed content => if !contentMatchesScope scope content then throw .corrupt

def isPrepared : Bool :=
  match record.terminal with
  | .prepared _ => true
  | _ => false

/-- What a start makes of a record: a prepared one is completed with the
content it was prepared with. -/
def recovered : DurableTerminalRecord :=
  match record.terminal with
  | .prepared restartRecovery => { record with terminal := .completed restartRecovery }
  | _ => record

end DurableTerminalRecord

/-- The records by idempotency key. -/
abbrev DurableTerminalRecords : Type := SortedMap String DurableTerminalRecord

namespace DurableV2TerminalRepository

variable {Raw : Type}

def bootErrors : RecordStore.BootErrors DurableV2TerminalRepositoryError :=
  ⟨.invalidCapacity, .duplicateRecord, .saturated, .unavailable⟩

def decode (codec : Codec DurableTerminalRecord Raw) (raw : Raw) :
    Except DurableV2TerminalRepositoryError DurableTerminalRecord :=
  match codec.parse raw with
  | none => .error .corrupt
  | some record => do
    record.validate
    return record

/-- The start of the repository up to the commit of its recovery. -/
def bootstrap (codec : Codec DurableTerminalRecord Raw) (capacity : Nat) (read : Read Raw) :
    Except DurableV2TerminalRepositoryError (Cache DurableTerminalRecords) := do
  let state ← RecordStore.bootstrap bootErrors u32Max (decode codec)
    (fun record => record.idempotencyKey) capacity read
  if state.records.values.any fun record => record.terminal = .legacyPending then
    throw .recoveryEvidenceMissing
  return state

/-- What the start commits when anything was left prepared. -/
def recovery (records : DurableTerminalRecords) : Option DurableTerminalRecords :=
  if records.values.any DurableTerminalRecord.isPrepared then
    some (records.map DurableTerminalRecord.recovered)
  else none

def prepare (capacity : Nat) (scope : V2TerminalScope)
    (restartRecovery : V2TerminalResponseContent) (records : DurableTerminalRecords) :
    Plan DurableTerminalRecords V2TerminalClaim :=
  if !validRestartRecovery scope restartRecovery then .reply .unavailable
  else
    match records.get? scope.idempotencyKey with
    | some record =>
      if record.exactScopeDigest ≠ scope.exactScopeDigest then .reply .scopeConflict
      else
        match record.terminal with
        | .prepared _ => .reply .inProgress
        | .legacyPending => .reply .unavailable
        | .completed content => .reply (.completed content)
    | none =>
      if capacity ≤ records.size then .reply .saturated
      else
        let record := {
          schemaVersion := durableV2TerminalSchemaVersion
          __ := scope
          terminal := .prepared restartRecovery
        }
        .commit (records.insert scope.idempotencyKey record)
          fun committed => committed.ifWritten .claimed .unavailable

def lookup (scope : V2TerminalScope) (records : DurableTerminalRecords) : V2TerminalLookup :=
  match records.get? scope.idempotencyKey with
  | none => .miss
  | some record =>
    if record.exactScopeDigest ≠ scope.exactScopeDigest then .scopeConflict
    else
      match record.terminal with
      | .prepared _ => .inProgress
      | .legacyPending => .unavailable
      | .completed content => .completed content

def complete (scope : V2TerminalScope) (content : V2TerminalResponseContent)
    (records : DurableTerminalRecords) : Plan DurableTerminalRecords V2TerminalComplete :=
  if !contentMatchesScope scope content then .reply .unavailable
  else
    match records.get? scope.idempotencyKey with
    | none => .reply .missing
    | some existing =>
      if existing.exactScopeDigest ≠ scope.exactScopeDigest then .reply .scopeConflict
      else
        match existing.terminal with
        | .completed _ => .reply .alreadyCompleted
        | .legacyPending => .reply .unavailable
        | .prepared _ =>
          .commit (records.insert scope.idempotencyKey
              { existing with terminal := .completed content })
            fun committed => committed.ifWritten .completed .unavailable

def plan (capacity : Nat) (call : V2TerminalCall) (records : DurableTerminalRecords) :
    Plan DurableTerminalRecords V2TerminalAnswer :=
  match call with
  | .prepare scope restartRecovery => (prepare capacity scope restartRecovery records).map .prepare
  | .lookup scope => .reply (.lookup (lookup scope records))
  | .complete scope content => (complete scope content records).map .complete

def repository (codec : Codec DurableTerminalRecord Raw) (capacity : Nat) :
    Repository Raw DurableTerminalRecords V2TerminalCall V2TerminalAnswer
      DurableV2TerminalRepositoryError where
  bootstrap := bootstrap codec capacity
  recovery := recovery
  encode := RecordStore.encodeRecords codec.print
  plan := plan capacity

end DurableV2TerminalRepository

end Knowbee
