import Knowbee.Lib.Threads
import Knowbee.SubSession.Waves

/-!
# Parallel groups of sub-sessions

`sub-session-runner.ts`: the budget and `runParallelSubSessionGroup`.  The clock, the callbacks
and the `run` functions of the items are operations; a callback or a `run` function that throws
leaves its operation unanswered, and the group is rejected.
-/

namespace Knowbee

inductive SubSessionStatus where
  | created | queued | running | waitingForInput | awaitingApproval | completed | needsRevision
  | failed | cancelled
  deriving DecidableEq

namespace SubSessionStatus

/-- `SUB_SESSION_STATUS_TRANSITIONS`. -/
def transitions : SubSessionStatus → List SubSessionStatus
  | .created => [.queued, .failed, .cancelled]
  | .queued => [.running, .failed, .cancelled]
  | .running => [.waitingForInput, .awaitingApproval, .completed, .needsRevision, .failed, .cancelled]
  | .waitingForInput => [.running, .completed, .needsRevision, .failed, .cancelled]
  | .awaitingApproval => [.running, .completed, .needsRevision, .failed, .cancelled]
  | .completed | .needsRevision | .failed | .cancelled => []

def isReplayable : SubSessionStatus → Bool
  | .completed | .needsRevision | .failed | .cancelled => true
  | _ => false

def canTransition (source target : SubSessionStatus) : Bool :=
  source = target ∨ target ∈ source.transitions

end SubSessionStatus

/-- Addition and subtraction of numbers, which round. -/
structure JsArithmetic where
  (add sub : JsNumber → JsNumber → JsNumber)

structure ParallelSubSessionBudget where
  (maxChildren maxEstimatedCost maxEstimatedDurationMs : Option JsNumber)

inductive BudgetStatus where
  | ok | shrunk | blocked
  deriving DecidableEq

structure BudgetTotals where
  childCount : Nat
  (estimatedCost estimatedDurationMs : JsNumber)

structure SkippedItem where
  (taskId subSessionId reasonCode : String)
  deriving DecidableEq

structure BudgetDecision where
  status : BudgetStatus
  (reasonCodes selectedTaskIds : List String)
  skipped : List SkippedItem
  totals : BudgetTotals

def SubSessionWorkItem.skip (item : SubSessionWorkItem) (reasonCode : String) : SkippedItem :=
  ⟨item.taskId, item.subSessionId, reasonCode⟩

def numericEstimate : Option JsNumber → JsNumber
  | some (.finite value) => if 0 < value then .finite value else 0
  | _ => 0

def positiveBudgetValue : Option JsNumber → Option JsNumber
  | some (.finite value) => if value < 0 then none else some (.finite value)
  | _ => none

def exceeds (limit : Option JsNumber) (value : JsNumber) : Bool :=
  match limit with
  | none => false
  | some limit => limit.lt value

variable (arithmetic : JsArithmetic)

def budgetExceededReason (item : SubSessionWorkItem) (totals : BudgetTotals) :
    Option ParallelSubSessionBudget → Option String
  | none => none
  | some budget =>
    if (normalizedPositiveLimit budget.maxChildren).any fun maxChildren =>
        maxChildren ≤ totals.childCount then
      some "max_child_budget_exceeded"
    else if exceeds (positiveBudgetValue budget.maxEstimatedCost)
        (arithmetic.add totals.estimatedCost (numericEstimate item.estimatedCost)) then
      some "cost_budget_exceeded"
    else if exceeds (positiveBudgetValue budget.maxEstimatedDurationMs)
        (arithmetic.add totals.estimatedDurationMs (numericEstimate item.estimatedDurationMs)) then
      some "time_budget_exceeded"
    else none

/-- What the loop over the items keeps. -/
structure BudgetSelection where
  selected : List SubSessionWorkItem
  skipped : List SkippedItem
  totals : BudgetTotals

def BudgetSelection.consider (budget : Option ParallelSubSessionBudget)
    (selection : BudgetSelection) (item : SubSessionWorkItem) : BudgetSelection :=
  match budgetExceededReason arithmetic item selection.totals budget with
  | some reasonCode => { selection with skipped := selection.skipped ++ [item.skip reasonCode] }
  | none =>
    { selection with
      selected := selection.selected ++ [item]
      totals := {
        childCount := selection.totals.childCount + 1
        estimatedCost :=
          arithmetic.add selection.totals.estimatedCost (numericEstimate item.estimatedCost)
        estimatedDurationMs := arithmetic.add selection.totals.estimatedDurationMs
          (numericEstimate item.estimatedDurationMs) } }

def selectWithinBudget (items : List SubSessionWorkItem)
    (budget : Option ParallelSubSessionBudget) : BudgetSelection :=
  items.foldl (BudgetSelection.consider arithmetic budget) ⟨[], [], 0, 0, 0⟩

def applyParallelSubSessionBudget (items : List SubSessionWorkItem)
    (budget : Option ParallelSubSessionBudget) : List SubSessionWorkItem × BudgetDecision :=
  let selection := selectWithinBudget arithmetic items budget
  (selection.selected, {
    status := if selection.skipped = [] then .ok
      else if selection.selected ≠ [] then .shrunk
      else .blocked
    reasonCodes := setAdd [] (selection.skipped.map (·.reasonCode))
    selectedTaskIds := selection.selected.map (·.taskId)
    skipped := selection.skipped
    totals := selection.totals })

variable {P : Type}

/-- `SubSessionRunOutcome`: its status, and the rest. -/
structure SubSessionRunOutcome (P : Type) where
  status : SubSessionStatus
  payload : P
  deriving DecidableEq

/-- What the promise of a `run` function comes to. -/
inductive RunSettlement (P : Type) where
  | fulfilled (outcome : SubSessionRunOutcome P)
  | rejected
  deriving DecidableEq

inductive GroupEvent where
  | waiting (groupId : String) (entries : List (String × List String))
  | budget (status : BudgetStatus) (groupId : String) (reasonCodes : List String)
  | lockWait (groupId taskId : String) (waitMs : JsNumber) (waitReasonCodes : List String)
  | lockTimeout (groupId taskId : String) (waitMs : JsNumber)
  | lockAcquired (groupId taskId : String) (locks : List ResourceLock)
  | lockReleased (groupId taskId : String) (locks : List ResourceLock)
  | groupCancelled (groupId reasonCode : String)

/-- `run` calls the `run` functions of a wave and waits until all are settled. -/
inductive GroupOp where
  | now
  | parentAborted
  | isParentCancelled (runId : String)
  | appendParentEvent (runId : String) (event : GroupEvent)
  | run (runnable : List SubSessionWorkItem)

/-- The promises of a wave are told by their positions. -/
def GroupAns (P : Type) : GroupOp → Type
  | .now => JsNumber
  | .parentAborted => Bool
  | .isParentCancelled _ => Bool
  | .appendParentEvent _ _ => Unit
  | .run _ => Nat → RunSettlement P

abbrev GroupProg (P α : Type) : Type := Prog GroupOp (GroupAns P) α

def groupStep (op : GroupOp) : GroupProg P (GroupAns P op) := Prog.perform op

/-- `ParallelSubSessionGroupRunOptions`; a parent run without a name is none. -/
structure GroupRunOptions where
  runId : Option String
  hasIsParentCancelled : Bool
  resourceLockWaitTimeoutMs : Option JsNumber
  budget : Option ParallelSubSessionBudget
  concurrency : ConcurrencyLimits

def GroupRunOptions.parentRun (options : GroupRunOptions) : Option String :=
  options.runId.filter (· ≠ "")

def appendParentEvent (options : GroupRunOptions) (event : GroupEvent) : GroupProg P Unit :=
  match options.parentRun with
  | none => pure ()
  | some runId => groupStep (.appendParentEvent runId event)

inductive GroupStatus where
  | completed | failed | blocked
  deriving DecidableEq

/-- The waves as a result reports them. -/
structure WaveReport where
  waveIndex : Nat
  (taskIds subSessionIds reasonCodes : List String)

structure GroupRunResult (P : Type) where
  groupId : String
  status : GroupStatus
  waves : List WaveReport
  outcomes : List (SubSessionRunOutcome P)
  skipped : List SkippedItem
  budget : BudgetDecision

/-- What the run of a group keeps; the sets are lists. -/
structure GroupState (P : Type) where
  outcomes : List (SubSessionRunOutcome P)
  skipped : List SkippedItem
  (completedTasks blockedTasks skippedTaskIds : List String)

def waitReasonCodes (wave : SubSessionExecutionWave) (taskId : String) : List String :=
  ((wave.waitReasonCodesByTask.getD []).lookup taskId).getD []

/-- The entries of `buildDeferredWaveSummary`. -/
def deferredEntries (waves : List SubSessionExecutionWave) : List (String × List String) :=
  waves.flatMap fun wave =>
    (wave.items.filter fun item => waitReasonCodes wave item.taskId ≠ []).map fun item =>
      (item.taskId, waitReasonCodes wave item.taskId)

def isParallelGroupCancelled (options : GroupRunOptions) : GroupProg P Bool := do
  let aborted : Bool ← groupStep .parentAborted
  if aborted then return true
  else
    match options.parentRun with
    | none => return false
    | some runId =>
      if options.hasIsParentCancelled then groupStep (.isParentCancelled runId)
      else return false

namespace GroupState

/-- One turn of the loops of `skipRemainingWaveItems`. -/
def skipRemaining (reasonCode : String) (state : GroupState P) (item : SubSessionWorkItem) :
    GroupState P :=
  if item.taskId ∈ state.completedTasks ∨ item.taskId ∈ state.blockedTasks ∨
      item.taskId ∈ state.skippedTaskIds then state
  else
    { state with
      skipped := state.skipped ++ [item.skip reasonCode]
      skippedTaskIds := state.skippedTaskIds ++ [item.taskId]
      blockedTasks := state.blockedTasks ++ [item.taskId] }

/-- What an item waits for, by itself and by the edges of the group. -/
def dependencies (edges : List DependencyEdge) (item : SubSessionWorkItem) : List String :=
  item.dependencies ++ (edges.filter (·.toTaskId = item.taskId)).map (·.fromTaskId)

/-- One turn of the filter for `dependencyReady`, with the items that are kept. -/
def checkDependencies (edges : List DependencyEdge)
    (checked : GroupState P × List SubSessionWorkItem) (item : SubSessionWorkItem) :
    GroupState P × List SubSessionWorkItem :=
  let state := checked.1
  if item.taskId ∈ state.skippedTaskIds then checked
  else if (dependencies edges item).any fun dep =>
      dep ∈ state.blockedTasks ∨ dep ∉ state.completedTasks then
    ({ state with
      skipped := state.skipped ++ [item.skip "dependency_not_completed"]
      blockedTasks := state.blockedTasks ++ [item.taskId] }, checked.2)
  else (state, checked.2 ++ [item])

def timeOut (state : GroupState P) (item : SubSessionWorkItem) : GroupState P :=
  { state with
    skipped := state.skipped ++ [item.skip "resource_lock_timeout"]
    skippedTaskIds := state.skippedTaskIds ++ [item.taskId]
    blockedTasks := state.blockedTasks ++ [item.taskId] }

/-- One turn of the loop over what `Promise.allSettled` gives. -/
def settle (state : GroupState P) (settled : SubSessionWorkItem × RunSettlement P) : GroupState P :=
  match settled.2 with
  | .fulfilled outcome =>
    let state := { state with outcomes := state.outcomes ++ [outcome] }
    if outcome.status = .completed then
      { state with completedTasks := state.completedTasks ++ [settled.1.taskId] }
    else { state with blockedTasks := state.blockedTasks ++ [settled.1.taskId] }
  | .rejected => { state with blockedTasks := state.blockedTasks ++ [settled.1.taskId] }

end GroupState

/-- The items of a wave with what their promises came to. -/
def settledRuns (runnable : List SubSessionWorkItem) (answers : Nat → RunSettlement P) :
    List (SubSessionWorkItem × RunSettlement P) :=
  runnable.zipIdx.map fun entry => (entry.1, answers entry.2)

/-- The loop that takes out the items that waited too long for their locks, with
the items that are left. -/
def waitForLocks (group : SubSessionGroup) (options : GroupRunOptions)
    (wave : SubSessionExecutionWave) (waitMs : JsNumber) :
    List SubSessionWorkItem → GroupState P → List SubSessionWorkItem →
      GroupProg P (GroupState P × List SubSessionWorkItem)
  | [], state, runnable => return (state, runnable)
  | item :: rest, state, runnable => do
    let codes := waitReasonCodes wave item.taskId
    if "resource_lock" ∈ codes then
      appendParentEvent options (.lockWait group.groupId item.taskId waitMs codes)
      if exceeds options.resourceLockWaitTimeoutMs waitMs then
        appendParentEvent options (.lockTimeout group.groupId item.taskId waitMs)
        waitForLocks group options wave waitMs rest (state.timeOut item) runnable
      else waitForLocks group options wave waitMs rest state (runnable ++ [item])
    else waitForLocks group options wave waitMs rest state (runnable ++ [item])

def appendLockEvents (options : GroupRunOptions) (event : SubSessionWorkItem → GroupEvent) :
    List SubSessionWorkItem → GroupProg P Unit
  | [] => pure ()
  | item :: rest => do
    if item.resourceLocks ≠ [] then appendParentEvent options (event item)
    appendLockEvents options event rest

/-- The loop over the waves that are left; `all` are the waves of the plan. -/
def runWaves (arithmetic : JsArithmetic) (group : SubSessionGroup) (options : GroupRunOptions)
    (groupStartedAt : JsNumber) (all : List SubSessionExecutionWave) :
    List SubSessionExecutionWave → GroupState P → GroupProg P (GroupState P)
  | [], state => return state
  | wave :: rest, state => do
    if ← isParallelGroupCancelled options then
      let state := (all.flatMap SubSessionExecutionWave.items).foldl
        (GroupState.skipRemaining "parent_run_cancelled") state
      appendParentEvent options (.groupCancelled group.groupId "parent_run_cancelled")
      return state
    else
      let waveStartedAt ← groupStep .now
      let (state, dependencyReady) :=
        wave.items.foldl (GroupState.checkDependencies group.dependencyEdges) (state, [])
      let waitMs := JsNumber.max 0 (arithmetic.sub waveStartedAt groupStartedAt)
      let (state, runnable) ← waitForLocks group options wave waitMs dependencyReady state []
      appendLockEvents options
        (fun item => .lockAcquired group.groupId item.taskId item.resourceLocks) runnable
      let answers ← groupStep (.run runnable)
      let state := (settledRuns runnable answers).foldl GroupState.settle state
      appendLockEvents options
        (fun item => .lockReleased group.groupId item.taskId item.resourceLocks) runnable
      runWaves arithmetic group options groupStartedAt all rest state

def isBlockingSkip (reasonCode : String) : Bool :=
  reasonCode ∈ ["max_child_budget_exceeded", "cost_budget_exceeded", "time_budget_exceeded",
    "resource_lock_timeout", "parent_run_cancelled"]

def resolveParallelGroupStatus (outcomes : List (SubSessionRunOutcome P))
    (skipped : List SkippedItem) (budget : BudgetDecision) : GroupStatus :=
  if budget.status = .blocked then .blocked
  else if outcomes.any fun outcome => outcome.status ≠ .completed then .failed
  else if skipped.any fun item => isBlockingSkip item.reasonCode then .blocked
  else if skipped ≠ [] then .failed
  else .completed

def runBudgetedGroup (group : SubSessionGroup) (options : GroupRunOptions)
    (groupStartedAt : JsNumber) (decision : BudgetDecision) (budgeted : List SubSessionWorkItem)
    (waves : List SubSessionExecutionWave) : GroupProg P (GroupRunResult P) :=
  if budgeted = [] then return ⟨group.groupId, .blocked, [], [], decision.skipped, decision⟩
  else do
    let state ← runWaves arithmetic group options groupStartedAt waves waves
      ⟨[], decision.skipped, [], [], decision.skipped.map (·.taskId)⟩
    return {
      groupId := group.groupId
      status := resolveParallelGroupStatus state.outcomes state.skipped decision
      waves := waves.map fun wave => {
        waveIndex := wave.waveIndex
        taskIds := wave.items.map (·.taskId)
        subSessionIds := wave.items.map (·.subSessionId)
        reasonCodes := wave.reasonCodes }
      outcomes := state.outcomes
      skipped := state.skipped
      budget := decision }

def runParallelSubSessionGroup (group : SubSessionGroup) (items : List SubSessionWorkItem)
    (options : GroupRunOptions) : GroupProg P (GroupRunResult P) := do
  let (budgeted, decision) := applyParallelSubSessionBudget arithmetic items options.budget
  let waves := (planSubSessionExecutionWaves budgeted group options.concurrency).getD []
  let groupStartedAt ← groupStep .now
  if deferredEntries waves ≠ [] then
    appendParentEvent options (.waiting group.groupId (deferredEntries waves))
  if decision.status ≠ .ok then
    appendParentEvent options (.budget decision.status group.groupId decision.reasonCodes)
  runBudgetedGroup arithmetic group options groupStartedAt decision budgeted waves

end Knowbee
