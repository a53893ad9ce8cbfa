import Knowbee.JavaScript
import Knowbee.Lib.Window
import Mathlib.Data.Prod.Lex

/-!
# The message ledger

`message-ledger.ts` and its table: events of runs, with an id each and at most
one of every idempotency key.  The detail of an event is the text of its column,
and a run's row is what the query of its context gives.
-/

namespace Knowbee.Ledger

open List

inductive LedgerStatus where
  | received | pending | started | generated | sent | delivered | succeeded | failed | skipped
  | suppressed | degraded
  deriving DecidableEq

/-- A row of the table. -/
structure LedgerEvent where
  id : String
  (runId requestGroupId sessionKey threadKey : Option String)
  (channel eventKind : String)
  (deliveryKey idempotencyKey : Option String)
  status : LedgerStatus
  summary : String
  detailJson : Option String
  createdAt : Int

/-- The key under which the unique index holds an event, if it does. -/
def LedgerEvent.indexedKey (event : LedgerEvent) : Option String :=
  event.idempotencyKey.filter (· ≠ "")

/-- What events are listed by: the time and then the id. -/
def LedgerEvent.place (event : LedgerEvent) : Int ×ₗ String := toLex (event.createdAt, event.id)

/-- The table, with what its primary key and its unique index hold. -/
structure MessageLedger where
  rows : List LedgerEvent
  ids : (rows.map (·.id)).Nodup
  keys : (rows.filterMap (·.indexedKey)).Nodup

namespace MessageLedger

def Fresh (ledger : MessageLedger) (event : LedgerEvent) : Prop :=
  event.id ∉ ledger.rows.map (·.id) ∧
    ∀ key ∈ event.indexedKey, key ∉ ledger.rows.filterMap (·.indexedKey)

instance (ledger : MessageLedger) (event : LedgerEvent) : Decidable (ledger.Fresh event) :=
  inferInstanceAs (Decidable (_ ∧ _))

/-- `insertMessageLedgerEvent`: nothing, where the event breaks a constraint. -/
def insert (ledger : MessageLedger) (event : LedgerEvent) : Option MessageLedger :=
  if fresh : ledger.Fresh event then
    some
      { rows := ledger.rows ++ [event]
        ids := by
          rw [map_append, map_singleton, ← concat_eq_append]
          exact ledger.ids.concat fresh.1
        keys := by
          rw [filterMap_append, nodup_append]
          refine ⟨ledger.keys, ?_, fun key old other new same => ?_⟩
          · cases key : event.indexedKey <;> simp [key]
          · obtain ⟨added, only, named⟩ := mem_filterMap.mp new
            rw [mem_singleton] at only
            exact fresh.2 other (only ▸ named) (same ▸ old) }
  else none

lemma insert_eq_some {ledger stored : MessageLedger} {event : LedgerEvent}
    (inserted : ledger.insert event = some stored) :
    ledger.Fresh event ∧ stored.rows = ledger.rows ++ [event] := by
  unfold insert at inserted
  split at inserted
  next fresh =>
    cases inserted
    exact ⟨fresh, rfl⟩
  next => cases inserted

lemma row_ext {ledger : MessageLedger} {first second : LedgerEvent}
    (held : first ∈ ledger.rows) (held' : second ∈ ledger.rows) (same : first.id = second.id) :
    first = second :=
  inj_on_of_nodup_map ledger.ids held held' same

def change (ledger : MessageLedger) (changed : LedgerEvent → LedgerEvent)
    (id : ∀ event, (changed event).id = event.id)
    (key : ∀ event, (changed event).idempotencyKey = event.idempotencyKey) : MessageLedger where
  rows := ledger.rows.map changed
  ids := by
    rw [map_map]
    exact (map_congr_left fun event _ => id event) ▸ ledger.ids
  keys := by
    have same : (fun event => LedgerEvent.indexedKey event) ∘ changed = (·.indexedKey) :=
      funext fun event => congrArg (Option.filter (· ≠ "")) (key event)
    rw [filterMap_map, same]
    exact ledger.keys

end MessageLedger

structure Transition where
  eventKind : String
  status : LedgerStatus
  summary : String
  detailJson : Option String

def Transition.apply (transition : Transition) (event : LedgerEvent) : LedgerEvent :=
  { transition, event with }

/-- What `transitionMessageLedgerEvent` changes. -/
def Matches (idempotencyKey expectedEventKind : String) (expectedStatus : LedgerStatus)
    (event : LedgerEvent) : Prop :=
  event.idempotencyKey = some idempotencyKey ∧ event.eventKind = expectedEventKind ∧
    event.status = expectedStatus

instance (idempotencyKey expectedEventKind : String) (expectedStatus : LedgerStatus)
    (event : LedgerEvent) : Decidable (Matches idempotencyKey expectedEventKind expectedStatus event) :=
  inferInstanceAs (Decidable (_ ∧ _))

def transitionRow (idempotencyKey expectedEventKind : String) (expectedStatus : LedgerStatus)
    (transition : Transition) (event : LedgerEvent) : LedgerEvent :=
  if Matches idempotencyKey expectedEventKind expectedStatus event then transition.apply event
  else event

/-- `transitionMessageLedgerEvent`, with the ids of the rows it changes. -/
def transitionMessageLedgerEvent (ledger : MessageLedger)
    (idempotencyKey expectedEventKind : String) (expectedStatus : LedgerStatus)
    (transition : Transition) : MessageLedger × List String :=
  (ledger.change (transitionRow idempotencyKey expectedEventKind expectedStatus transition)
    (fun event => by unfold transitionRow; split_ifs <;> rfl)
    (fun event => by unfold transitionRow; split_ifs <;> rfl),
    (ledger.rows.filter (Matches idempotencyKey expectedEventKind expectedStatus ·)).map (·.id))

structure RunLedgerContext where
  runId : String
  (requestGroupId sessionKey channel : Option String)

/-- `resolveRunLedgerContext`, on the rows of the runs. -/
def resolveRunLedgerContext (runs : String → Option RunLedgerContext) (runId : Option String) :
    Option RunLedgerContext :=
  (runId.filter (· ≠ "")).bind runs

/-- `MessageLedgerEventInput`, with its detail as it is stored. -/
structure MessageLedgerEventInput where
  runId : Option String := none
  parentRunId : Option String := none
  requestGroupId : Option String := none
  sessionKey : Option String := none
  threadKey : Option String := none
  channel : Option String := none
  eventKind : String
  deliveryKey : Option String := none
  idempotencyKey : Option String := none
  status : LedgerStatus
  summary : String
  detailJson : Option String := none
  createdAt : Option Int := none

/-- What may throw while an event is recorded. -/
inductive RecordFault where
  | none | store | control
  deriving DecidableEq

section

variable (runs : String → Option RunLedgerContext)

def ledgerRow (input : MessageLedgerEventInput) (id : String) (now : Int) : LedgerEvent :=
  let resolved := resolveRunLedgerContext runs (input.runId.or input.parentRunId)
  let requestGroupId := (input.requestGroupId.or (resolved.bind (·.requestGroupId))).or input.runId
  let sessionKey := input.sessionKey.or (resolved.bind (·.sessionKey))
  { id
    runId := (input.runId.or input.parentRunId).or (resolved.map (·.runId))
    requestGroupId
    sessionKey
    threadKey := ((input.threadKey.or requestGroupId).or input.runId).or sessionKey
    channel := (input.channel.or (resolved.bind (·.channel))).getD "unknown"
    __ := input
    createdAt := (input.createdAt.filter (· ≠ 0)).getD now }

/-- `recordMessageLedgerEvent`: the id of the event that was stored. -/
def recordMessageLedgerEvent (ledger : MessageLedger) (input : MessageLedgerEventInput)
    (id : String) (now : Int) (fault : RecordFault) : MessageLedger × Option String :=
  match fault with
  | .store => (ledger, none)
  | _ =>
    match ledger.insert (ledgerRow runs input id now) with
    | none => (ledger, none)
    | some stored => (stored, if fault = .control then none else some id)

lemma recordMessageLedgerEvent_cases (ledger : MessageLedger) (input : MessageLedgerEventInput)
    (id : String) (now : Int) (fault : RecordFault) :
    recordMessageLedgerEvent runs ledger input id now fault = (ledger, none) ∨
      ledger.Fresh (ledgerRow runs input id now) ∧
        ∃ stored answer, recordMessageLedgerEvent runs ledger input id now fault = (stored, answer) ∧
          stored.rows = ledger.rows ++ [ledgerRow runs input id now] ∧
          (answer = none ∨ answer = some id) := by
  have recorded : recordMessageLedgerEvent runs ledger input id now fault = (ledger, none) ∨
      ∃ stored, ledger.insert (ledgerRow runs input id now) = some stored ∧
        recordMessageLedgerEvent runs ledger input id now fault =
          (stored, if fault = .control then none else some id) := by
    unfold recordMessageLedgerEvent
    cases inserted : ledger.insert (ledgerRow runs input id now) <;> cases fault <;> simp
  obtain same | ⟨stored, inserted, same⟩ := recorded
  · exact .inl same
  · obtain ⟨fresh, rows⟩ := MessageLedger.insert_eq_some inserted
    refine .inr ⟨fresh, stored, _, same, rows, ?_⟩
    split_ifs
    · exact .inl rfl
    · exact .inr rfl

end

/-- `getMessageLedgerEventByIdempotencyKey`; a key that is blank is not looked up. -/
def findMessageLedgerEventByIdempotencyKey (ledger : MessageLedger)
    (idempotencyKey : Option String) : Option LedgerEvent :=
  match (idempotencyKey.map jsTrim).filter (· ≠ "") with
  | none => none
  | some key =>
    (ledger.rows.filter (·.idempotencyKey = some key)).insertionSort
      (fun a b => b.createdAt ≤ a.createdAt) |>.head?

structure LedgerFilter where
  (runId requestGroupId : Option String)

def LedgerFilter.admits (filter : LedgerFilter) (event : LedgerEvent) : Prop :=
  (∀ runId ∈ filter.runId, runId ≠ "" → event.runId = some runId) ∧
    ∀ requestGroupId ∈ filter.requestGroupId, requestGroupId ≠ "" →
      event.requestGroupId = some requestGroupId

instance (filter : LedgerFilter) (event : LedgerEvent) : Decidable (filter.admits event) :=
  inferInstanceAs (Decidable (_ ∧ _))

def listMessageLedgerEvents (ledger : MessageLedger) (filter : LedgerFilter) (limit : Nat) :
    List LedgerEvent :=
  ((ledger.rows.filter (filter.admits ·)).insertionSort fun a b => a.place ≤ b.place).take
    (max 1 (min 1000 limit))

end Knowbee.Ledger
