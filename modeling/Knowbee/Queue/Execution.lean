import Knowbee.Lib.SortedMap
import Knowbee.Queue.Backpressure

/-!
# Execution queues of request groups

`execution-queue.ts`.  A call chains its task to the tail of the queue of its group: the promise
of the call before it, or one that is resolved.  The stages of the chain (`catch`, `then`,
`catch`, `finally`) are run one at a time, and anything can happen between them.
-/

namespace Knowbee

variable {R E : Type}

/-- How far the promises of a call have come.  A root run may be missing. -/
inductive ChainStage (R E : Type) where
  | queued
  | recovered (thrown : Option E)
  | executing
  | ran (outcome : Except E (Option R))
  | caught (outcome : Except E (Option R))
  | released (outcome : Except E (Option R))
  | settled (outcome : Except E (Option R))

/-- What the environment decides about a stage: whether the handler of a failure
before the task throws, what the task comes to, and what the handler of its
failure does (`getRootRun`, or it throws). -/
structure ExecutionChoice (R E : Type) where
  recovery : Option E
  (result fallback : Except E (Option R))

/-- The next stage, once what the call was chained to lets it go on. -/
def ChainStage.advance (previous : Option (ChainStage R E))
    (choice : ExecutionChoice R E) : ChainStage R E → Option (ChainStage R E)
  | .queued =>
    match previous with
    | none => some (.recovered none)
    | some (.settled (.ok _)) => some (.recovered none)
    | some (.settled (.error _)) => some (.recovered choice.recovery)
    | some _ => none
  | .recovered none => some .executing
  | .recovered (some error) => some (.ran (.error error))
  | .executing => some (.ran choice.result)
  | .ran (.ok run) => some (.caught (.ok run))
  | .ran (.error _) => some (.caught choice.fallback)
  | .caught outcome => some (.released outcome)
  | .released outcome => some (.settled outcome)
  | .settled _ => none

/-- A call that was admitted, by the order of admission. -/
structure ExecutionEntry (R E : Type) where
  id : Nat
  runId : String
  maxPending : JsNumber
  stage : ChainStage R E

/-- `RequestGroupExecutionQueueState` of a group: `tail` is the promise of the
last call of the chain. -/
structure ExecutionQueue (R E : Type) where
  requestGroupId : String
  outstanding : Nat
  chain : List (ExecutionEntry R E)

/-- The queue objects there ever were, and the map of groups to those in use. -/
structure ExecutionQueues (R E : Type) where
  objects : List (ExecutionQueue R E)
  queues : SortedMap String Nat
  admitted : Nat
  started : List (String × Nat)
  runEvents : List (String × String)

namespace ExecutionQueues

def idle : ExecutionQueues R E := ⟨[], .empty, 0, [], []⟩

variable (state : ExecutionQueues R E)

def existing (requestGroupId : String) : Option (Nat × ExecutionQueue R E) :=
  (state.queues.get? requestGroupId).bind fun object =>
    state.objects[object]?.map fun queue => (object, queue)

def hasRequestGroupExecutionQueue (requestGroupId : String) : Bool :=
  (state.queues.get? requestGroupId).isSome

inductive Reply where
  | admitted (id : Nat)
  | queueFull (pendingCount : Nat)
  | thrown

def appendRunEvent (runId message : String) : ExecutionQueues R E :=
  { state with runEvents := state.runEvents ++ [(runId, message)] }

/-- The end of an admission: the call is chained to the tail. -/
def chainTo (object : Nat) (queue : ExecutionQueue R E) (runId : String) (maxPending : JsNumber) :
    ExecutionQueues R E × Reply :=
  let queue := { queue with
    outstanding := queue.outstanding + 1
    chain := queue.chain ++ [⟨state.admitted, runId, maxPending, .queued⟩] }
  ({ state with
    objects := if object < state.objects.length then state.objects.set object queue
      else state.objects ++ [queue]
    queues := state.queues.insert queue.requestGroupId object
    admitted := state.admitted + 1 }, .admitted state.admitted)

/-- A call; `logs` says whether the logger it is given returns. -/
def enqueueRequestGroupExecution (requestGroupId runId : String) (maxPending : Option JsNumber)
    (logs : Bool) : ExecutionQueues R E × Reply :=
  let maxPending := JsNumber.max 0
    (maxPending.getD QueueName.interactiveRun.defaultBudget.maxPending).floor
  match state.existing requestGroupId with
  | some (object, queue) =>
    let pendingCount := queue.outstanding - 1
    if !logs then (state, .thrown)
    else if maxPending.le (.ofNat pendingCount) then
      (state.appendRunEvent runId "execution_queue_rejected:queue_full", .queueFull pendingCount)
    else
      (state.appendRunEvent runId "execution_queue_waiting").chainTo object queue runId maxPending
  | none => state.chainTo state.objects.length ⟨requestGroupId, 0, []⟩ runId maxPending

def reach (object : Nat) (queue : ExecutionQueue R E) (entry : ExecutionEntry R E) :
    ChainStage R E → ExecutionQueues R E
  | .executing =>
    { state with started := state.started ++ [(queue.requestGroupId, entry.id)] }.appendRunEvent
      entry.runId "execution_queue_running"
  | .released _ =>
    -- The `finally` of the chain.
    let outstanding := queue.outstanding - 1
    let state := { state with objects := state.objects.set object { queue with outstanding } }
    let state := if state.queues.get? queue.requestGroupId = some object ∧ outstanding = 0 then
        { state with queues := state.queues.erase queue.requestGroupId }
      else state
    state.appendRunEvent entry.runId "execution_queue_released"
  | _ => state

def advance (state : ExecutionQueues R E) (object position : Nat)
    (choice : ExecutionChoice R E) : ExecutionQueues R E :=
  match state.objects[object]? with
  | none => state
  | some queue =>
    match queue.chain[position]? with
    | none => state
    | some entry =>
      let previous := if position = 0 then none else queue.chain[position - 1]?.map (·.stage)
      match entry.stage.advance previous choice with
      | none => state
      | some stage =>
        let queue := { queue with chain := queue.chain.set position { entry with stage } }
        { state with objects := state.objects.set object queue }.reach object queue entry stage

inductive Event (R E : Type) where
  | enqueue (requestGroupId runId : String) (maxPending : Option JsNumber) (logs : Bool)
  | advance (object position : Nat) (choice : ExecutionChoice R E)

def next : Event R E → ExecutionQueues R E × Option Reply
  | .enqueue requestGroupId runId maxPending logs =>
    let (state, reply) := state.enqueueRequestGroupExecution requestGroupId runId maxPending logs
    (state, some reply)
  | .advance object position choice => (state.advance object position choice, none)

abbrev run : ExecutionQueues R E → List (Event R E) → ExecutionQueues R E := Machine.run next

end ExecutionQueues

end Knowbee
