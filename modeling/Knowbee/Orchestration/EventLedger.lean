import Knowbee.ParseInt

/-!
# The orchestration event ledger

The rows of the ledger in the order of their sequence, the query that lists them, and the
projections that a restart resumes from.
-/

namespace Knowbee.Orchestration

inductive OrchestrationEventKind where
  | agentRegistered | teamRegistered | hierarchyChanged | orchestrationPlanned
  | teamExecutionPlanned | commandRequested | namedHandoffCreated | dataExchangeCreated
  | subSessionQueued | subSessionStarted | subSessionProgressReported | subSessionCompleted
  | subSessionFailed | subSessionCancelled | capabilityCalled | approvalRequested | resultReported
  | resultReviewed | parentChildResultAggregated | controlAction | resourceLockWait
  | resourceLockReleased | resourceLockTimeout | budgetBlocked | modelResolved | modelFallback
  | modelBudgetBlocked | feedbackRequested | redelegationRequested | retryStarted
  | finalDeliveryCompleted | namedDeliveryAttributed | learningRecorded | historyRestored
  | structuredWorkAudit | workRecordSnapshot
  deriving DecidableEq

structure OrchestrationEvent where
  sequence : Nat
  createdAt : Int
  eventKind : OrchestrationEventKind
  (runId requestGroupId subSessionId agentId teamId exchangeId approvalId : Option String)
  correlationId : String

structure OrchestrationEventQuery where
  runId : Option String := none
  requestGroupId : Option String := none
  subSessionId : Option String := none
  agentId : Option String := none
  teamId : Option String := none
  exchangeId : Option String := none
  approvalId : Option String := none
  correlationId : Option String := none
  eventKind : Option OrchestrationEventKind := none
  afterCursor : Option String := none
  limit : Option JsNumber := none

def parseOrchestrationReplayCursor (cursor : Option String) : Nat :=
  let raw := jsTrim (cursor.getD "")
  if raw = "" then 0
  else match parseInt (raw.toList.takeWhile (· ≠ ':')) with
    | .finite value => if 0 < value then value.floor.toNat else 0
    | _ => 0

/-- The rows that a query may list at most: `limit` with its default, cut to what
the table is asked for at once. -/
def pageLimit : Option JsNumber → Nat
  | none => 500
  | some .nan => 500
  | some .negInfinity => 1
  | some .infinity => 2000
  | some (.finite limit) => if limit = 0 then 500 else (max 1 (min 2000 limit.floor)).toNat

/-- A column holds what a query names, if it names something. -/
def columnMatches (named : Option String) (column : Option String) : Bool :=
  match named with
  | none => true
  | some value => value = "" || column = some value

variable (table : List OrchestrationEvent) (query : OrchestrationEventQuery)

/-- The conditions of a query on the columns of a row, other than its place. -/
def OrchestrationEventQuery.selects (event : OrchestrationEvent) : Bool :=
  columnMatches query.runId event.runId &&
  columnMatches query.requestGroupId event.requestGroupId &&
  columnMatches query.subSessionId event.subSessionId &&
  columnMatches query.agentId event.agentId &&
  columnMatches query.teamId event.teamId &&
  columnMatches query.exchangeId event.exchangeId &&
  columnMatches query.approvalId event.approvalId &&
  columnMatches query.correlationId (some event.correlationId) &&
  (match query.eventKind with
    | none => true
    | some kind => decide (event.eventKind = kind))

def listOrchestrationEventLedger : List OrchestrationEvent :=
  (table.filter fun event => query.selects event &&
    decide (parseOrchestrationReplayCursor query.afterCursor < event.sequence)).take
      (pageLimit query.limit)

inductive SubSessionStatus where
  | queued | running | completed | failed | cancelled | unknown
  deriving DecidableEq

structure SubSessionEntry where
  subSessionId : String
  agentId : Option String
  status : SubSessionStatus
  latestEventKind : OrchestrationEventKind
  updatedAt : Int

def statusAfter (previous : Option SubSessionStatus) :
    OrchestrationEventKind → SubSessionStatus
  | .subSessionCompleted => .completed
  | .subSessionFailed => .failed
  | .subSessionCancelled => .cancelled
  | .subSessionQueued => .queued
  | .subSessionStarted => .running
  | .subSessionProgressReported => .running
  | _ => previous.getD .unknown

/-- `Map.set`: the entry of a sub-session replaced in its place, or a new one. -/
def setEntry (entry : SubSessionEntry) : List SubSessionEntry → List SubSessionEntry
  | [] => [entry]
  | first :: rest =>
    if first.subSessionId = entry.subSessionId then entry :: rest
    else first :: setEntry entry rest

def findEntry (entries : List SubSessionEntry) (subSessionId : String) : Option SubSessionEntry :=
  entries.find? fun entry => entry.subSessionId = subSessionId

/-- The sub-sessions of the monitoring snapshot after one more event. -/
def recordEvent (entries : List SubSessionEntry) (event : OrchestrationEvent) :
    List SubSessionEntry :=
  match event.subSessionId with
  | none => entries
  | some subSessionId =>
    if subSessionId = "" then entries
    else
      let previous := findEntry entries subSessionId
      setEntry
        { subSessionId
          agentId := event.agentId.or (previous.bind (·.agentId))
          status := statusAfter (previous.map (·.status)) event.eventKind
          latestEventKind := event.eventKind
          updatedAt := event.createdAt }
        entries

def monitoredSubSessions : List SubSessionEntry :=
  (listOrchestrationEventLedger table query).foldl recordEvent []

structure RestartResumeProjection where
  latestCursor : Option Nat
  activeSubSessionIds : List String
  activeSubSessions : List SubSessionEntry

def SubSessionEntry.isActive (entry : SubSessionEntry) : Bool :=
  entry.status = .queued || entry.status = .running

def buildRestartResumeProjection : RestartResumeProjection :=
  let activeSubSessions := (monitoredSubSessions table query).filter (·.isActive)
  { latestCursor := (listOrchestrationEventLedger table query).getLast?.map (·.sequence)
    activeSubSessionIds := activeSubSessions.map (·.subSessionId)
    activeSubSessions }

end Knowbee.Orchestration
