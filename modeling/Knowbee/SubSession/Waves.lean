import Knowbee.JavaScript

/-!
# Execution waves of sub-sessions

`sub-session-runner.ts`: `ResourceLockManager`, the concurrency limits, and
`planSubSessionExecutionWaves`.
-/

namespace Knowbee

inductive ResourceLockKind where
  | file | display | channel | mcpServer | secretScope | externalTarget | custom
  deriving DecidableEq

def ResourceLockKind.text : ResourceLockKind → String
  | .file => "file"
  | .display => "display"
  | .channel => "channel"
  | .mcpServer => "mcp_server"
  | .secretScope => "secret_scope"
  | .externalTarget => "external_target"
  | .custom => "custom"

inductive ResourceLockMode where
  | shared | exclusive
  deriving DecidableEq

structure ResourceLock where
  kind : ResourceLockKind
  target : String
  mode : ResourceLockMode

/-- A work item without its `run` function; lists that are absent are empty. -/
structure SubSessionWorkItem where
  (taskId subSessionId : String)
  agentId : Option String
  (toolNames mcpServerIds : List String)
  (estimatedCost estimatedDurationMs : Option JsNumber)
  resourceLocks : List ResourceLock
  dependencies : List String

structure DependencyEdge where
  (fromTaskId toTaskId : String)

/-- What is read of a `ParallelSubSessionGroup`. -/
structure SubSessionGroup where
  groupId : String
  dependencyEdges : List DependencyEdge
  concurrencyLimit : Option JsNumber

structure ConcurrencyLimits where
  agentConcurrencyLimits : String → Option JsNumber
  defaultAgentConcurrencyLimit : Option JsNumber
  toolConcurrencyLimits : String → Option JsNumber
  defaultToolConcurrencyLimit : Option JsNumber
  mcpServerConcurrencyLimits : String → Option JsNumber
  defaultMcpServerConcurrencyLimit : Option JsNumber

/-- The locks that are held, with their holders, under their keys. -/
structure ResourceLockManager where
  holders : String → List (String × ResourceLock)

namespace ResourceLockManager

def empty : ResourceLockManager := ⟨fun _ => []⟩

def lockKey (lock : ResourceLock) : String := lock.kind.text ++ ":" ++ lock.target

variable (manager : ResourceLockManager)

def conflicts (locks : List ResourceLock) : List ResourceLock :=
  locks.flatMap fun lock =>
    ((manager.holders (lockKey lock)).filter fun holder =>
      holder.2.mode = .exclusive ∨ lock.mode = .exclusive).map (·.2)

def hold (holderId : String) (lock : ResourceLock) : ResourceLockManager :=
  ⟨fun key => if key = lockKey lock then manager.holders key ++ [(holderId, lock)]
    else manager.holders key⟩

def acquire (holderId : String) (locks : List ResourceLock) : Option ResourceLockManager :=
  if manager.conflicts locks = [] then
    some (locks.foldl (fun manager lock => manager.hold holderId lock) manager)
  else none

end ResourceLockManager

def normalizedPositiveLimit : Option JsNumber → Option Nat
  | some (.finite value) => if value ≤ 0 then none else some value.floor.toNat
  | _ => none

def effectiveLimit (explicitLimits : String → Option JsNumber) (defaultLimit : Option JsNumber)
    (key : String) : Option Nat :=
  normalizedPositiveLimit ((explicitLimits key).or defaultLimit)

def countLimitExceeded (key : String) (counts : String → Nat)
    (explicitLimits : String → Option JsNumber) (defaultLimit : Option JsNumber) : Bool :=
  if key = "" then false
  else match effectiveLimit explicitLimits defaultLimit key with
    | none => false
    | some limit => limit ≤ counts key

def addCount (key : String) (counts : String → Nat) : String → Nat :=
  if key = "" then counts
  else fun other => if other = key then counts other + 1 else counts other

def uniqueValues (values : List String) : List String :=
  setAdd [] (values.filter fun value => jsTrim value ≠ "")

structure WaveCounts where
  (agents tools mcpServers : String → Nat)

def WaveCounts.zero : WaveCounts := ⟨fun _ => 0, fun _ => 0, fun _ => 0⟩

/-- The reasons against an item, each once; an item without an agent is looked
up as one with an empty name. -/
def concurrencyLimitReasons (item : SubSessionWorkItem) (counts : WaveCounts)
    (options : ConcurrencyLimits) : List String :=
  (if countLimitExceeded (item.agentId.getD "") counts.agents options.agentConcurrencyLimits
      options.defaultAgentConcurrencyLimit then ["agent_concurrency_limit"] else []) ++
  (if (uniqueValues item.toolNames).any fun toolName =>
      countLimitExceeded toolName counts.tools options.toolConcurrencyLimits
        options.defaultToolConcurrencyLimit then ["tool_concurrency_limit"] else []) ++
  (if (uniqueValues item.mcpServerIds).any fun serverId =>
      countLimitExceeded serverId counts.mcpServers options.mcpServerConcurrencyLimits
        options.defaultMcpServerConcurrencyLimit then ["mcp_concurrency_limit"] else [])

def reserveConcurrency (item : SubSessionWorkItem) (counts : WaveCounts) : WaveCounts where
  agents := addCount (item.agentId.getD "") counts.agents
  tools := (uniqueValues item.toolNames).foldl (fun counts name => addCount name counts) counts.tools
  mcpServers :=
    (uniqueValues item.mcpServerIds).foldl (fun counts id => addCount id counts) counts.mcpServers

/-- Why the tasks that were passed over were, each reason once. -/
abbrev DeferredReasons : Type := String → List String

def rememberDeferredReasons (map : DeferredReasons) (taskId : String) (reasonCodes : List String) :
    DeferredReasons :=
  fun other => if other = taskId then setAdd (map other) reasonCodes else map other

/-- A wave; `waitReasonCodesByTask` is left out when it has no entries. -/
structure SubSessionExecutionWave where
  waveIndex : Nat
  items : List SubSessionWorkItem
  reasonCodes : List String
  waitReasonCodesByTask : Option (List (String × List String))

structure WaveDraft where
  items : List SubSessionWorkItem
  locks : ResourceLockManager
  counts : WaveCounts
  deferred : DeferredReasons

def WaveDraft.start (deferred : DeferredReasons) : WaveDraft := ⟨[], .empty, .zero, deferred⟩

/-- One turn of the loop over the candidates. -/
def WaveDraft.consider (limit : JsNumber) (options : ConcurrencyLimits) (draft : WaveDraft)
    (item : SubSessionWorkItem) : WaveDraft :=
  let defer (reasonCodes : List String) : WaveDraft :=
    { draft with deferred := rememberDeferredReasons draft.deferred item.taskId reasonCodes }
  if limit.le (.ofNat draft.items.length) then defer ["concurrency_limit"]
  else
    let reasons := concurrencyLimitReasons item draft.counts options
    if reasons ≠ [] then defer reasons
    else match draft.locks.acquire item.taskId item.resourceLocks with
      | none => defer ["resource_lock"]
      | some locks =>
        { draft with
          items := draft.items ++ [item]
          locks
          counts := reserveConcurrency item draft.counts }

def byTaskId (items : List SubSessionWorkItem) (taskId : String) : Option SubSessionWorkItem :=
  items.reverse.find? (·.taskId = taskId)

/-- `dependencyMap`: what the item and the edges say the task waits for. -/
def dependenciesOf (items : List SubSessionWorkItem) (edges : List DependencyEdge)
    (taskId : String) : List String :=
  ((byTaskId items taskId).map (·.dependencies)).getD [] ++
    (edges.filter (·.toTaskId = taskId)).map (·.fromTaskId)

structure WavePlanner where
  (pending completed : List String)
  deferred : DeferredReasons
  waves : List SubSessionExecutionWave

namespace WavePlanner

variable (items : List SubSessionWorkItem)

def start : WavePlanner := ⟨setAdd [] (items.map (·.taskId)), [], fun _ => [], []⟩

variable (edges : List DependencyEdge)

def candidates (planner : WavePlanner) : List SubSessionWorkItem :=
  (planner.pending.filterMap (byTaskId items)).filter fun item =>
    (dependenciesOf items edges item.taskId).all fun dep => dep ∈ planner.completed

/-- The end of a turn: the items make the next wave. -/
def close (planner : WavePlanner) (deferred : DeferredReasons)
    (waveItems : List SubSessionWorkItem) : WavePlanner :=
  let taken := waveItems.map (·.taskId)
  let waits := (waveItems.filter fun item => deferred item.taskId ≠ []).map fun item =>
    (item.taskId, deferred item.taskId)
  { pending := planner.pending.filter fun taskId => taskId ∉ taken
    completed := planner.completed ++ taken
    deferred := fun taskId => if taskId ∈ taken then [] else deferred taskId
    waves := planner.waves ++ [{
      waveIndex := planner.waves.length
      items := waveItems
      reasonCodes := if 1 < waveItems.length then ["parallel_sub_sessions"]
        else ["sequential_or_blocked_sub_session"]
      waitReasonCodesByTask := if waits = [] then none else some waits }] }

def select (limit : JsNumber) (options : ConcurrencyLimits) (planner : WavePlanner) : WaveDraft :=
  (planner.candidates items edges).foldl (WaveDraft.consider limit options)
    (.start planner.deferred)

/-- A turn of the loop; nothing, when it is left by `break`. -/
def next (limit : JsNumber) (options : ConcurrencyLimits) (planner : WavePlanner) :
    Option WavePlanner :=
  let draft := planner.select items edges limit options
  if draft.items = [] then
    (planner.pending.filterMap (byTaskId items)).head?.map fun fallback =>
      planner.close draft.deferred [fallback]
  else some (planner.close draft.deferred draft.items)

/-- The loop, for at most so many turns; nothing, when they are not enough. -/
def loop (items : List SubSessionWorkItem) (edges : List DependencyEdge) (limit : JsNumber)
    (options : ConcurrencyLimits) : Nat → WavePlanner → Option (List SubSessionExecutionWave)
  | 0, planner => if planner.pending = [] then some planner.waves else none
  | turns + 1, planner =>
    if planner.pending = [] then some planner.waves
    else match planner.next items edges limit options with
      | none => some planner.waves
      | some planner => planner.loop items edges limit options turns

end WavePlanner

def waveLimit (concurrencyLimit : Option JsNumber) (items : List SubSessionWorkItem) : JsNumber :=
  JsNumber.max 1 (concurrencyLimit.getD (.ofNat items.length))

/-- The plan; a turn takes an item at least, so no more turns than items are
needed. -/
def planSubSessionExecutionWaves (items : List SubSessionWorkItem) (group : SubSessionGroup)
    (options : ConcurrencyLimits) : Option (List SubSessionExecutionWave) :=
  (WavePlanner.start items).loop items group.dependencyEdges
    (waveLimit group.concurrencyLimit items) options items.length

end Knowbee
