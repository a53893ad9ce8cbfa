import Knowbee.JavaScript
import Mathlib.Data.Prod.Lex

/-!
# The approval registry

`approval-registry.ts` and its table.  A row is the request, which no statement
changes, and its state.  Of the metadata two entries are read, `agentId` and
`approvalDecision`; an entry that is no string is read as one that is absent.
-/

namespace Knowbee.Approval

inductive ApprovalRegistryStatus where
  | requested | approvedOnce | approvedRun | denied | expired | superseded | consumed
  deriving DecidableEq

inductive ApprovalDecision where
  | allowOnce | allowRun | deny
  deriving DecidableEq

def ApprovalDecision.text : ApprovalDecision → String
  | .allowOnce => "allow_once"
  | .allowRun => "allow_run"
  | .deny => "deny"

structure ApprovalMetadata where
  (agentId approvalDecision : Option String)
  deriving DecidableEq

structure ApprovalOperationBinding where
  (operationId operationBindingHash : String)
  continuationSchemaVersion : Int

/-- The columns no statement updates. -/
structure ApprovalRequest where
  (id runId : String)
  requestGroupId : Option String
  (channel toolName riskLevel kind paramsHash : String)
  requestedAt : Int
  expiresAt : Option Int
  (operationId operationBindingHash : Option String)
  continuationSchemaVersion : Option Int
  createdAt : Int
  deriving DecidableEq

structure ApprovalState where
  status : ApprovalRegistryStatus
  channelMessageId : Option String
  (consumedAt decisionAt : Option Int)
  (decisionBy decisionSource supersededBy : Option String)
  metadata : Option ApprovalMetadata
  updatedAt : Int
  deriving DecidableEq

structure ApprovalRegistryRow where
  request : ApprovalRequest
  state : ApprovalState
  deriving DecidableEq

namespace ApprovalRegistryRow

def id (row : ApprovalRegistryRow) : String := row.request.id

def status (row : ApprovalRegistryRow) : ApprovalRegistryStatus := row.state.status

def parseApprovalMetadata (row : ApprovalRegistryRow) : ApprovalMetadata :=
  row.state.metadata.getD ⟨none, none⟩

def expiredAt (row : ApprovalRegistryRow) (now : Int) : Prop :=
  ∃ expiresAt ∈ row.request.expiresAt, expiresAt ≤ now

instance (row : ApprovalRegistryRow) (now : Int) : Decidable (row.expiredAt now) :=
  match h : row.request.expiresAt with
  | none => .isFalse (by simp [expiredAt, h])
  | some expiresAt => decidable_of_iff (expiresAt ≤ now) (by simp [expiredAt, h])

end ApprovalRegistryRow

/-- The table; its primary key is the id. -/
structure ApprovalRegistry where
  rows : List ApprovalRegistryRow
  ids : (rows.map (·.id)).Nodup

namespace ApprovalRegistry

def empty : ApprovalRegistry := ⟨[], List.nodup_nil⟩

/-- `getApprovalRegistryRow`. -/
def find? (registry : ApprovalRegistry) (id : String) : Option ApprovalRegistryRow :=
  registry.rows.find? (·.id = id)

def updateRow (selected : ApprovalRegistryRow → Bool) (change : ApprovalState → ApprovalState)
    (row : ApprovalRegistryRow) : ApprovalRegistryRow :=
  if selected row then { row with state := change row.state } else row

/-- An `UPDATE` of the selected rows. -/
def update (registry : ApprovalRegistry) (selected : ApprovalRegistryRow → Bool)
    (change : ApprovalState → ApprovalState) : ApprovalRegistry where
  rows := registry.rows.map (updateRow selected change)
  ids := by
    have same (row : ApprovalRegistryRow) : (updateRow selected change row).id = row.id := by
      unfold updateRow
      split_ifs <;> rfl
    rw [List.map_map]
    exact (List.map_congr_left fun row _ => same row) ▸ registry.ids

/-- An `INSERT`, which throws where the id is taken. -/
def insert (registry : ApprovalRegistry) (row : ApprovalRegistryRow) : Option ApprovalRegistry :=
  if fresh : row.id ∉ registry.rows.map (·.id) then
    some
      { rows := registry.rows ++ [row]
        ids := by
          rw [List.map_append, List.map_singleton, ← List.concat_eq_append]
          exact registry.ids.concat fresh }
  else none

end ApprovalRegistry

section

variable {Params : Type}

structure CreateApprovalRegistryRequestInput (Params : Type) where
  (id runId : String)
  requestGroupId : Option String := none
  (channel toolName riskLevel kind : String)
  params : Params
  authorizationParams : Option Params := none
  expiresAt : Option Int := none
  channelMessageId : Option String := none
  metadata : Option ApprovalMetadata := none
  operationBinding : Option ApprovalOperationBinding := none
  supersedePending : Option Bool := none

variable (hash : Params → String) (registry : ApprovalRegistry) (approvalId : String)

def createdRow (input : CreateApprovalRegistryRequestInput Params) (now : Int) :
    ApprovalRegistryRow where
  request :=
    { __ := input
      paramsHash := hash (input.authorizationParams.getD input.params)
      requestedAt := now
      operationId := input.operationBinding.map (·.operationId)
      operationBindingHash := input.operationBinding.map (·.operationBindingHash)
      continuationSchemaVersion := input.operationBinding.map (·.continuationSchemaVersion)
      createdAt := now }
  state :=
    { status := .requested
      channelMessageId := input.channelMessageId
      consumedAt := none
      decisionAt := none
      decisionBy := none
      decisionSource := none
      supersededBy := none
      metadata := input.metadata
      updatedAt := now }

def supersedePending (registry : ApprovalRegistry)
    (input : CreateApprovalRegistryRequestInput Params) (now : Int) : ApprovalRegistry :=
  if input.supersedePending.getD true then
    registry.update
      (fun row => row.request.runId = input.runId && row.request.toolName = input.toolName &&
        row.status = .requested)
      fun state =>
        { state with status := .superseded, supersededBy := some input.id, updatedAt := now }
  else registry

/-- `createApprovalRegistryRequest`; without a row it throws, and what it has
superseded by then stays so. -/
def createApprovalRegistryRequest (input : CreateApprovalRegistryRequestInput Params) (now : Int) :
    ApprovalRegistry × Option ApprovalRegistryRow :=
  let superseded := supersedePending registry input now
  match superseded.insert (createdRow hash input now) with
  | none => (superseded, none)
  | some stored => (stored, stored.find? input.id)

inductive DecisionReason where
  | timeout | late | alreadyConsumed | superseded | scopeMismatch

structure DecisionResult where
  accepted : Bool
  status : Option ApprovalRegistryStatus
  decision : Option ApprovalDecision := none
  reason : Option DecisionReason := none
  row : Option ApprovalRegistryRow := none

def refusalReason : ApprovalRegistryStatus → DecisionReason
  | .consumed => .alreadyConsumed
  | .superseded => .superseded
  | _ => .late

def expiredState (now : Int) (state : ApprovalState) : ApprovalState :=
  { state with
    status := .expired
    decisionAt := some now
    decisionSource := some "timeout"
    updatedAt := now }

def expireApprovalRegistryRequest (now : Int) : ApprovalRegistry × DecisionResult :=
  match registry.find? approvalId with
  | none => (registry, { accepted := false, status := none, reason := some .timeout })
  | some row =>
    if row.status = .requested then
      let expired := registry.update (fun row => row.id = approvalId && row.status = .requested)
        (expiredState now)
      (expired,
        { accepted := false
          status := some .expired
          reason := some .timeout
          row := expired.find? approvalId })
    else (registry, { accepted := false, status := some row.status, row := some row })

def ApprovalDecision.status : ApprovalDecision → ApprovalRegistryStatus
  | .allowRun => .approvedRun
  | .allowOnce => .approvedOnce
  | .deny => .denied

def resolveApprovalRegistryDecision (decision : ApprovalDecision) (decisionBy : Option String)
    (decisionSource : String) (now : Int) : ApprovalRegistry × DecisionResult :=
  match registry.find? approvalId with
  | none => (registry, { accepted := false, status := none })
  | some row =>
    if row.expiredAt now ∧ row.status = .requested then
      let expired := (expireApprovalRegistryRequest registry row.id now).1
      (expired,
        { accepted := false
          status := some .expired
          reason := some .late
          row := expired.find? row.id })
    else if row.status = .requested then
      let resolved := registry.update (fun row => row.id = approvalId && row.status = .requested)
        fun state =>
          { state with
            status := decision.status
            decisionAt := some now
            decisionBy := decisionBy
            decisionSource := some decisionSource
            metadata := some
              { row.parseApprovalMetadata with approvalDecision := some decision.text }
            updatedAt := now }
      (resolved,
        { accepted := true
          status := some decision.status
          decision := some decision
          row := resolved.find? approvalId })
    else
      (registry,
        { accepted := false
          status := some row.status
          reason := some (refusalReason row.status)
          row := some row })

structure ApprovalConsumptionScope (Params : Type) where
  runId : String
  requestGroupId : Option String := none
  toolName : String
  params : Params
  authorizationParams : Option Params := none
  agentId : Option String := none
  operationBinding : Option ApprovalOperationBinding := none

/-- The agent of a request: its text without the blanks around it, where there is any. -/
def requestedAgent (agentId : Option String) : Option String :=
  (agentId.map jsTrim).filter (· ≠ "")

def approvalScopeMatches (row : ApprovalRegistryRow) (expected : ApprovalConsumptionScope Params) :
    Prop :=
  row.request.runId = expected.runId ∧ row.request.toolName = expected.toolName ∧
    row.request.requestGroupId = expected.requestGroupId ∧
    row.request.paramsHash = hash (expected.authorizationParams.getD expected.params) ∧
    row.parseApprovalMetadata.agentId = requestedAgent expected.agentId ∧
    row.request.operationId = expected.operationBinding.map (·.operationId) ∧
    row.request.operationBindingHash = expected.operationBinding.map (·.operationBindingHash) ∧
    row.request.continuationSchemaVersion =
      expected.operationBinding.map (·.continuationSchemaVersion)

instance (hash : Params → String) (row : ApprovalRegistryRow)
    (expected : ApprovalConsumptionScope Params) :
    Decidable (approvalScopeMatches hash row expected) :=
  inferInstanceAs (Decidable (_ ∧ _))

def ApprovalRegistryStatus.approved (status : ApprovalRegistryStatus) : Bool :=
  status = .approvedOnce || status = .approvedRun

def consumedRegistry (now : Int) : ApprovalRegistry :=
  registry.update (fun row => row.id = approvalId && row.status.approved)
    fun state => { state with status := .consumed, consumedAt := some now, updatedAt := now }

def grantDecision (row : ApprovalRegistryRow) : ApprovalDecision :=
  if row.status = .approvedRun then .allowRun else .allowOnce

def consumeApprovalRegistryDecision (now : Int)
    (expected : Option (ApprovalConsumptionScope Params)) : ApprovalRegistry × DecisionResult :=
  match registry.find? approvalId with
  | none => (registry, { accepted := false, status := none })
  | some row =>
    if row.expiredAt now ∧ (row.status = .requested ∨ row.status.approved) then
      let expired := registry.update
        (fun other => other.id = row.id && (other.status = .requested || other.status.approved))
        (expiredState now)
      (expired,
        { accepted := false
          status := some .expired
          reason := some .late
          row := expired.find? row.id })
    else if ¬row.status.approved then
      (registry,
        { accepted := false
          status := some row.status
          reason := some (refusalReason row.status)
          row := some row })
    else if ∃ scope ∈ expected, ¬approvalScopeMatches hash row scope then
      (registry,
        { accepted := false
          status := some row.status
          reason := some .scopeMismatch
          row := some row })
    else
      let consumed := consumedRegistry registry approvalId now
      (consumed,
        { accepted := true
          status := some .consumed
          decision := some (grantDecision row)
          row := consumed.find? approvalId })

inductive GrantSource where
  | approved
  | consumedRun
  deriving DecidableEq

/-- `ApprovalRegistryGrantAcquisition`. -/
inductive GrantAcquisition where
  | acquired (decision : ApprovalDecision) (approvalId : String) (source : GrantSource)
      (row : ApprovalRegistryRow)
  | notFound
  | scopeMismatch
  deriving DecidableEq

/-- The rows `acquireApprovalRegistryGrant` looks through. -/
def grantRows (expected : ApprovalConsumptionScope Params) : List ApprovalRegistryRow :=
  (registry.rows.filter fun row =>
    row.request.requestGroupId = expected.requestGroupId &&
      row.request.toolName = expected.toolName &&
      row.request.paramsHash = hash (expected.authorizationParams.getD expected.params) &&
      (row.status.approved || row.status = .consumed)).insertionSort fun a b =>
        toLex (b.state.updatedAt, b.id) ≤ toLex (a.state.updatedAt, a.id)

def acquireFrom (hash : Params → String) (expected : ApprovalConsumptionScope Params) (now : Int) :
    List ApprovalRegistryRow → Bool → ApprovalRegistry → ApprovalRegistry × GrantAcquisition
  | [], mismatch, registry => (registry, if mismatch then .scopeMismatch else .notFound)
  | row :: rest, mismatch, registry =>
    if ¬approvalScopeMatches hash row expected then acquireFrom hash expected now rest true registry
    else if row.expiredAt now then acquireFrom hash expected now rest mismatch registry
    else if row.status = .consumed then
      if row.parseApprovalMetadata.approvalDecision ≠ some ApprovalDecision.allowRun.text then
        acquireFrom hash expected now rest mismatch registry
      else (registry, .acquired .allowRun row.id .consumedRun row)
    else
      match consumeApprovalRegistryDecision hash registry row.id now (some expected) with
      | (next, { accepted := true, decision := some decision, row := some consumed, .. }) =>
        if decision = .deny then acquireFrom hash expected now rest mismatch next
        else (next, .acquired decision row.id .approved consumed)
      | (next, _) => acquireFrom hash expected now rest mismatch next

def acquireApprovalRegistryGrant (expected : ApprovalConsumptionScope Params) (now : Int) :
    ApprovalRegistry × GrantAcquisition :=
  acquireFrom hash expected now (grantRows hash registry expected) false registry

def attachApprovalChannelMessage (channelMessageId : String) (now : Int) :
    ApprovalRegistry × Bool :=
  (registry.update (fun row => row.id = approvalId) fun state =>
    { state with channelMessageId := some channelMessageId, updatedAt := now },
    registry.rows.any (·.id = approvalId))

end

end Knowbee.Approval
