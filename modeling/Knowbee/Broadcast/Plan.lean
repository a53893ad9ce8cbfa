import Knowbee.JavaScript

/-!
# Plans of broadcast runs

`broadcast.ts` and `contracts/yeonjang-broadcast.ts`: a run is planned for the instances of the
fleet that a selector selects.  A retry brings the receipt of the run before it, with the records
of its targets and the list of those it skipped.
-/

namespace Knowbee

/-- `uniqueStrings` of `broadcast.ts`, which leaves the strings as they are. -/
def uniqueStrings (values : List String) : List String :=
  sortStrings (setAdd [] (values.filter fun value => jsTrim value ≠ ""))

def uniqueTrimmedStrings (values : List String) : List String :=
  setAdd [] ((values.map jsTrim).filter (· ≠ ""))

lemma mem_uniqueTrimmedStrings {value : String} {values : List String} :
    value ∈ uniqueTrimmedStrings values ↔ (∃ raw ∈ values, jsTrim raw = value) ∧ value ≠ "" := by
  simp [uniqueTrimmedStrings]

inductive InstanceState where
  | discovered | online | degraded | offline | updateRequired | permissionRequired
  deriving DecidableEq

def InstanceState.text : InstanceState → String
  | .discovered => "discovered"
  | .online => "online"
  | .degraded => "degraded"
  | .offline => "offline"
  | .updateRequired => "update_required"
  | .permissionRequired => "permission_required"

inductive InstanceLocation where
  | near
  | remote
  deriving DecidableEq

inductive SupportProfile where
  | desktopInteractive | desktopLimited | headlessManaged
  deriving DecidableEq

inductive TrustState where
  | pending | trusted | revoked | quarantined
  deriving DecidableEq

inductive ScopeAccess where
  | allowed | foreign | unassigned

/-- The reasons that the scope of an instance gives against it. -/
def ScopeAccess.reasonCodes : ScopeAccess → List String
  | .foreign => ["workspace_scope_forbidden"]
  | .unassigned => ["workspace_scope_unassigned"]
  | .allowed => []

/-- `YeonjangProjectedInstance`, as far as a plan reads it. -/
structure ProjectedInstance where
  (instanceId nodeId instanceAlias displayName : String)
  sessionId : Option String
  location : InstanceLocation
  supportProfile : SupportProfile
  platform : Option String
  state : InstanceState
  trustState : TrustState
  scopeAccess : ScopeAccess
  supportedMethods : List String

variable (toLowerCase : String → String)

def normalizeSupportProfile (value : String) : SupportProfile :=
  match toLowerCase (jsTrim value) with
  | "desktop_limited" => .desktopLimited
  | "headless_managed" => .headlessManaged
  | _ => .desktopInteractive

inductive BroadcastToolName where
  | screenCapture | screenFindText | shellExec | mouseAction | keyboardAction

inductive BroadcastTargetRequirement where
  | trustedOnly
  | approvalRequired
  deriving DecidableEq

/-- `YeonjangBroadcastPolicy`, as far as a plan reads it. -/
structure BroadcastPolicy where
  transportMethod : String
  targetRequirement : BroadcastTargetRequirement
  denies : Bool
  (reasonCode userMessage : String)

def getBroadcastPolicy : BroadcastToolName → BroadcastPolicy
  | .screenCapture => ⟨"screen.capture", .trustedOnly, false, "broadcast_safe_observation",
      "trusted Yeonjang 인스턴스에 한해 broadcast 가능한 관찰형 명령입니다."⟩
  | .screenFindText => ⟨"screen.capture", .trustedOnly, false, "broadcast_safe_observation",
      "trusted Yeonjang 인스턴스에 한해 broadcast 가능한 관찰형 명령입니다."⟩
  | .mouseAction => ⟨"mouse.action", .approvalRequired, true,
      "broadcast_interaction_requires_approval",
      "mouse.action broadcast는 기본 차단됩니다. 별도 승인 흐름이 준비되기 전까지 fan-out 실행하지 않습니다."⟩
  | .keyboardAction => ⟨"keyboard.action", .approvalRequired, true,
      "broadcast_interaction_requires_approval",
      "keyboard.action broadcast는 기본 차단됩니다. 별도 승인 흐름이 준비되기 전까지 fan-out 실행하지 않습니다."⟩
  | .shellExec => ⟨"system.exec", .approvalRequired, true,
      "broadcast_side_effect_requires_approval",
      "system.exec broadcast는 기본 차단됩니다. 명시적 승인 없이 여러 인스턴스에 실행하지 않습니다."⟩

structure SelectorFilters where
  location : Option InstanceLocation
  (supportProfiles platforms : List String)
  states : List InstanceState

/-- `YeonjangTargetSelector`; the types that select one instance come with the
paths of the issues of their own. -/
inductive TargetSelector where
  | allOnline
  | filteredGroup (filters : SelectorFilters)
  | single (issues : List String)

def TargetSelector.normalize : TargetSelector → TargetSelector
  | .filteredGroup filters =>
    .filteredGroup { filters with
      supportProfiles := sortStrings (uniqueTrimmedStrings filters.supportProfiles)
      platforms := sortStrings (uniqueTrimmedStrings filters.platforms)
      states := (setAdd [] filters.states).insertionSort fun first second =>
        utf16Units first.text ≤ utf16Units second.text }
  | other => other

/-- `validateYeonjangBroadcastSelector`: the paths of the issues, or the selector. -/
def validateBroadcastSelector (selector : TargetSelector) : Except (List String) TargetSelector :=
  match selector with
  | .allOnline => .ok .allOnline
  | .filteredGroup filters =>
    if filters.location.isNone && (uniqueTrimmedStrings filters.supportProfiles).isEmpty &&
        (uniqueTrimmedStrings filters.platforms).isEmpty && filters.states.isEmpty then
      .error ["$"]
    else .ok selector.normalize
  | .single issues => .error (if issues.isEmpty then ["$.type"] else issues)

namespace ProjectedInstance

/-- `matchesFilteredSelector`. -/
def isSelectedBy (toLowerCase : String → String) (target : ProjectedInstance)
    (filters : SelectorFilters) : Bool :=
  filters.location.all (· == target.location) &&
    (filters.supportProfiles.isEmpty ||
      (filters.supportProfiles.map (normalizeSupportProfile toLowerCase)).contains
        target.supportProfile) &&
    (filters.platforms.isEmpty ||
      ((filters.platforms.map fun item => toLowerCase (jsTrim item)).filter (· ≠ "")).contains
        (toLowerCase (jsTrim (target.platform.getD "")))) &&
    (filters.states.isEmpty || filters.states.contains target.state)

end ProjectedInstance

def filterInstancesForSelector (fleet : List ProjectedInstance) :
    TargetSelector → List ProjectedInstance
  | .allOnline => fleet.filter (·.state == .online)
  | .filteredGroup filters => fleet.filter (·.isSelectedBy toLowerCase filters)
  | .single _ => []

/-- `YeonjangBroadcastIntent`; a list that is absent is empty. -/
structure BroadcastIntent where
  confirm : Bool
  trustedOnly : Option Bool
  (supportProfiles requiredMethods : List String)

def BroadcastIntent.normalize (intent : BroadcastIntent) : BroadcastIntent where
  confirm := true
  trustedOnly := intent.trustedOnly
  supportProfiles := sortStrings (uniqueTrimmedStrings intent.supportProfiles)
  requiredMethods := sortStrings (uniqueTrimmedStrings intent.requiredMethods)

def validateBroadcastIntent (intent : BroadcastIntent) : Except (List String) BroadcastIntent :=
  if intent.confirm then .ok intent.normalize else .error ["$.confirm"]

inductive BroadcastTargetStatus where
  | succeeded | failed | skipped
  deriving DecidableEq

structure BroadcastReceiptTarget where
  instanceId : String
  status : BroadcastTargetStatus
  sessionId : Option String

structure BroadcastReceiptSkippedTarget where
  instanceId : String
  reasonCodes : List String

/-- `YeonjangBroadcastRetryReceipt`; a list that is absent is empty. -/
structure BroadcastRetryReceipt where
  previousBroadcastRunId : Option String
  targetReceipts : List BroadcastReceiptTarget
  skippedTargets : List BroadcastReceiptSkippedTarget

namespace BroadcastRetryReceipt

def empty : BroadcastRetryReceipt := ⟨none, [], []⟩

def normalize (receipt : BroadcastRetryReceipt) : BroadcastRetryReceipt where
  previousBroadcastRunId := (receipt.previousBroadcastRunId.map jsTrim).filter (· ≠ "")
  targetReceipts :=
    (receipt.targetReceipts.map fun item => { item with
      instanceId := jsTrim item.instanceId
      sessionId := (item.sessionId.map jsTrim).filter (· ≠ "") }).filter (·.instanceId ≠ "")
  skippedTargets :=
    (receipt.skippedTargets.map fun item => {
      instanceId := jsTrim item.instanceId
      reasonCodes := sortStrings (uniqueTrimmedStrings item.reasonCodes) :
        BroadcastReceiptSkippedTarget }).filter (·.instanceId ≠ "")

/-- The paths of the entries without an instance. -/
def blankIds (field : String) (instanceIds : List String) : List String :=
  (instanceIds.mapIdx fun index instanceId =>
    if jsTrim instanceId = "" then some s!"$.{field}[{index}].instanceId" else none).filterMap id

def issues (receipt : BroadcastRetryReceipt) : List String :=
  blankIds "targetReceipts" (receipt.targetReceipts.map (·.instanceId)) ++
    blankIds "skippedTargets" (receipt.skippedTargets.map (·.instanceId))

end BroadcastRetryReceipt

/-- `validateYeonjangBroadcastRetryReceipt`: the paths of the issues, or the receipt. -/
def validateBroadcastRetryReceipt (receipt : Option BroadcastRetryReceipt) :
    Except (List String) BroadcastRetryReceipt :=
  match receipt with
  | none => .ok .empty
  | some receipt => if receipt.issues.isEmpty then .ok receipt.normalize else .error receipt.issues

structure NormalizedRetryReceipt where
  previousBroadcastRunId : Option String
  (previousTargetIds previousSucceededIds previousIncompleteIds : List String)

/-- The receipt names a target of the run before. -/
def NormalizedRetryReceipt.requested (receipt : NormalizedRetryReceipt) : Bool :=
  0 < receipt.previousTargetIds.length

def normalizeBroadcastRetryReceipt (receipt : BroadcastRetryReceipt) : NormalizedRetryReceipt :=
  let normalized := receipt.normalize
  let targets := normalized.targetReceipts
  let skipped := normalized.skippedTargets.map (·.instanceId)
  let incomplete := (targets.filter (·.status ≠ .succeeded)).map (·.instanceId)
  { previousBroadcastRunId := normalized.previousBroadcastRunId
    previousTargetIds := setAdd (setAdd [] (targets.map (·.instanceId))) skipped
    previousSucceededIds := setAdd [] ((targets.filter (·.status = .succeeded)).map (·.instanceId))
    previousIncompleteIds := setAdd (setAdd [] incomplete) skipped }

structure BroadcastPlannedTarget where
  (broadcastIndex broadcastTotal : Nat)
  (instanceId extensionId : String)
  sessionId : Option String
  (instanceAlias displayName : String)
  location : InstanceLocation
  supportProfile : SupportProfile
  trustState : TrustState
  requiredMethods : List String

structure BroadcastSkippedTarget where
  (instanceId extensionId instanceAlias displayName : String)
  reasonCodes : List String

structure BroadcastRetryTrace where
  requested : Bool
  previousBroadcastRunId : Option String
  (previousTargetCount previousSucceededCount previousIncompleteCount : Nat)
  (skippedSucceededTargetIds skippedUnknownTargetIds retriedTargetIds : List String)

structure BroadcastRunPlan where
  broadcastRunId : String
  toolName : BroadcastToolName
  policy : BroadcastPolicy
  selector : TargetSelector
  broadcastIntent : BroadcastIntent
  requiredMethods : List String
  targets : List BroadcastPlannedTarget
  skippedTargets : List BroadcastSkippedTarget
  retryTrace : BroadcastRetryTrace

inductive BroadcastPlanError where
  | invalidBroadcastSelector (paths : List String)
  | missingBroadcastIntent
  | invalidBroadcastIntent (paths : List String)
  | invalidRetryReceipt (paths : List String)
  | broadcastPolicyDenied (policy : BroadcastPolicy)
  | broadcastTargetSelectionEmpty (skippedTargets : List BroadcastSkippedTarget)

namespace BroadcastPlanError

end BroadcastPlanError

/-- What `planYeonjangBroadcastRun` is called with but the receipt, the fleet as it
is projected at the time, and the id of the run. -/
structure BroadcastRunRequest where
  toolName : BroadcastToolName
  targetSelector : TargetSelector
  broadcastIntent : Option BroadcastIntent
  policy : Option BroadcastPolicy
  fleet : List ProjectedInstance
  broadcastRunId : String

/-- What the targets of a run are checked against. -/
structure BroadcastChecks where
  policy : BroadcastPolicy
  selector : TargetSelector
  broadcastIntent : BroadcastIntent

namespace BroadcastChecks

def requiredMethods (checks : BroadcastChecks) : List String :=
  uniqueStrings (checks.policy.transportMethod :: checks.broadcastIntent.requiredMethods)

def supportProfiles (toLowerCase : String → String) (checks : BroadcastChecks) :
    List SupportProfile :=
  (uniqueStrings ((match checks.selector with
    | .filteredGroup filters => filters.supportProfiles
    | _ => []) ++ checks.broadcastIntent.supportProfiles)).map (normalizeSupportProfile toLowerCase)

def trustedOnly (checks : BroadcastChecks) : Bool :=
  checks.broadcastIntent.trustedOnly != some false ||
    checks.policy.targetRequirement == .trustedOnly

def reasonCodes (toLowerCase : String → String) (checks : BroadcastChecks)
    (target : ProjectedInstance) : List String :=
  (if target.state ≠ .online then ["target_state_" ++ target.state.text] else []) ++
    (if checks.trustedOnly && target.trustState ≠ .trusted then
      [match target.trustState with
        | .pending => "target_trust_pending"
        | .quarantined => "target_trust_quarantined"
        | .revoked => "target_trust_revoked"
        | .trusted => "target_not_trusted"]
    else []) ++
    target.scopeAccess.reasonCodes ++
    (if 0 < (checks.supportProfiles toLowerCase).length &&
        !(checks.supportProfiles toLowerCase).contains target.supportProfile then
      ["support_profile_filter_mismatch"]
    else []) ++
    (if checks.requiredMethods.any fun method => !target.supportedMethods.contains method then
      ["required_capability_missing"]
    else [])

end BroadcastChecks

/-- The reasons against an instance that the receipt of the run before gives. -/
def NormalizedRetryReceipt.reasonCodes (receipt : NormalizedRetryReceipt) (instanceId : String) :
    List String :=
  if receipt.requested then
    if !receipt.previousTargetIds.contains instanceId then ["retry_target_not_in_previous_receipt"]
    else if receipt.previousSucceededIds.contains instanceId then
      ["retry_target_already_succeeded"]
    else []
  else []

def buildSkippedTarget (target : ProjectedInstance) (reasonCodes : List String) :
    BroadcastSkippedTarget :=
  ⟨target.instanceId, target.nodeId, target.instanceAlias, target.displayName,
    uniqueStrings reasonCodes⟩

def buildPlannedTarget (target : ProjectedInstance) (broadcastIndex broadcastTotal : Nat)
    (requiredMethods : List String) : BroadcastPlannedTarget :=
  ⟨broadcastIndex, broadcastTotal, target.instanceId, target.nodeId, target.sessionId,
    target.instanceAlias, target.displayName, target.location, target.supportProfile,
    target.trustState, requiredMethods⟩

def BroadcastRunRequest.checks (request : BroadcastRunRequest)
    (retryReceipt : Option BroadcastRetryReceipt) :
    Except BroadcastPlanError (BroadcastChecks × NormalizedRetryReceipt) :=
  match validateBroadcastSelector request.targetSelector with
  | .error paths => .error (.invalidBroadcastSelector paths)
  | .ok selector =>
    match request.broadcastIntent with
    | none => .error .missingBroadcastIntent
    | some intent =>
      match validateBroadcastIntent intent with
      | .error paths => .error (.invalidBroadcastIntent paths)
      | .ok intent =>
        match validateBroadcastRetryReceipt retryReceipt with
        | .error paths => .error (.invalidRetryReceipt paths)
        | .ok receipt =>
          let policy := request.policy.getD (getBroadcastPolicy request.toolName)
          if policy.denies then .error (.broadcastPolicyDenied policy)
          else .ok (⟨policy, selector, intent.normalize⟩, normalizeBroadcastRetryReceipt receipt)

def planBroadcastRun (request : BroadcastRunRequest) (retryReceipt : Option BroadcastRetryReceipt) :
    Except BroadcastPlanError BroadcastRunPlan :=
  match request.checks retryReceipt with
  | .error error => .error error
  | .ok (checks, receipt) =>
    let selected := filterInstancesForSelector toLowerCase request.fleet checks.selector
    let reasonCodes := fun target : ProjectedInstance =>
      receipt.reasonCodes target.instanceId ++ checks.reasonCodes toLowerCase target
    let planned := selected.filter fun target => (reasonCodes target).isEmpty
    let refused := selected.filter fun target => !(reasonCodes target).isEmpty
    let skippedTargets := refused.map fun target => buildSkippedTarget target (reasonCodes target)
    let refusedFor (reasonCode : String) := uniqueStrings
      ((refused.filter fun target =>
        (receipt.reasonCodes target.instanceId).contains reasonCode).map (·.instanceId))
    if planned.length = 0 then .error (.broadcastTargetSelectionEmpty skippedTargets)
    else
      .ok {
        broadcastRunId := request.broadcastRunId
        toolName := request.toolName
        __ := checks
        requiredMethods := checks.requiredMethods
        targets := planned.mapIdx fun index target =>
          buildPlannedTarget target index planned.length checks.requiredMethods
        skippedTargets
        retryTrace := {
          requested := receipt.requested
          previousBroadcastRunId := receipt.previousBroadcastRunId
          previousTargetCount := receipt.previousTargetIds.length
          previousSucceededCount := receipt.previousSucceededIds.length
          previousIncompleteCount := receipt.previousIncompleteIds.length
          skippedSucceededTargetIds := refusedFor "retry_target_already_succeeded"
          skippedUnknownTargetIds := refusedFor "retry_target_not_in_previous_receipt"
          retriedTargetIds := planned.map (·.instanceId) } }

structure BroadcastRun where
  plan : BroadcastRunPlan
  records : List BroadcastReceiptTarget

namespace BroadcastRun

/-- What executing the targets of a plan records: one record of each target, and
another one where it is noted as failed after it was recorded. -/
def execute (plan : BroadcastRunPlan)
    (outcome : Nat → BroadcastTargetStatus × List BroadcastTargetStatus) : BroadcastRun where
  plan
  records := plan.targets.flatMap fun target =>
    ((outcome target.broadcastIndex).1 :: (outcome target.broadcastIndex).2).map fun status =>
      ⟨target.instanceId, status, target.sessionId⟩

def receipt (run : BroadcastRun) : BroadcastRetryReceipt where
  previousBroadcastRunId := some run.plan.broadcastRunId
  targetReceipts := run.records
  skippedTargets := run.plan.skippedTargets.map fun skipped =>
    ⟨skipped.instanceId, skipped.reasonCodes⟩

def succeeded (run : BroadcastRun) : List String :=
  (run.records.filter (·.status = .succeeded)).map (·.instanceId)

end BroadcastRun

/-- A request for the next run of a chain, and what its targets come to by their
indices. -/
structure BroadcastChainStep where
  request : BroadcastRunRequest
  outcome : Nat → BroadcastTargetStatus × List BroadcastTargetStatus

/-- The next run of a chain, the last first; a request that is refused starts none. -/
def broadcastChainStep (runs : List BroadcastRun) (next : BroadcastChainStep) :
    List BroadcastRun × Except BroadcastPlanError BroadcastRunPlan :=
  match planBroadcastRun toLowerCase next.request (runs.head?.map BroadcastRun.receipt) with
  | .error error => (runs, .error error)
  | .ok plan => (.execute plan next.outcome :: runs, .ok plan)

end Knowbee
