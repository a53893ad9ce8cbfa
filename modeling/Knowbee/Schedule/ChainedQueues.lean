import Mathlib.Data.String.Basic
import Knowbee.Lib.Machine
import Knowbee.Lib.SortedMap

/-!
# The queues of schedule executions and of deliveries

`queueing.ts` and `delivery-queue.ts`.  Both chain the task of a call to the promise that their
map holds under its key, or to one that is resolved, and hold the promise of the call under the
key until its `finally` finds it there.
-/

namespace Knowbee.Schedule

variable {R E : Type}

/-- How far the promises of a call have come. -/
inductive QueueStage (R E : Type) where
  | queued
  | recovered (thrown : Option E)
  | executing
  | ran (outcome : Except E R)
  | caught (outcome : Except E R)
  | released (outcome : Except E R)
  | settled (outcome : Except E R)

/-- What the environment decides about a stage: what the task comes to, and what
the loggers of the two handlers throw. -/
structure QueueChoice (R E : Type) where
  result : Except E R
  (logWarn logError : Option E)

/-- What a handler throws that logs the text of an error: making the text may throw. -/
def handlerThrows (errorMessage : E → Option E) (log : Option E) (error : E) : Option E :=
  (errorMessage error).or log

/-- The next stage, once what the call was chained to lets it go on. -/
def QueueStage.advance (errorMessage : E → Option E) (previous : Option (QueueStage R E))
    (choice : QueueChoice R E) : QueueStage R E → Option (QueueStage R E)
  | .queued =>
    match previous with
    | none => some (.recovered none)
    | some (.settled (.ok _)) => some (.recovered none)
    | some (.settled (.error error)) =>
      some (.recovered (handlerThrows errorMessage choice.logWarn error))
    | some _ => none
  | .recovered none => some .executing
  | .recovered (some error) => some (.ran (.error error))
  | .executing => some (.ran choice.result)
  | .ran (.ok value) => some (.caught (.ok value))
  | .ran (.error error) =>
    some (.caught (.error ((handlerThrows errorMessage choice.logError error).getD error)))
  | .caught outcome => some (.released outcome)
  | .released outcome => some (.settled outcome)
  | .settled _ => none

/-- A call, with the number of the call it was chained to; beside it, what its
task came to. -/
structure QueueCall (R E : Type) where
  key : String
  previous : Option Nat
  stage : QueueStage R E
  result : Option (Except E R)

/-- The calls of a queue in the order of admission, and the map of keys to the calls whose promises
it holds. -/
structure ChainQueue (R E : Type) where
  calls : List (QueueCall R E)
  queues : SortedMap String Nat
  started : List (String × Nat)

namespace ChainQueue

def idle : ChainQueue R E := ⟨[], .empty, []⟩

variable (state : ChainQueue R E)

/-- `has`. -/
def hasQueue (key : String) : Bool := (state.queues.get? key).isSome

/-- A call; `logs` says whether `logInfo` returns.  It answers the number of the
call, unless it throws. -/
def enqueue (key : String) (logs : Bool) : ChainQueue R E × Option Nat :=
  let previous := state.queues.get? key
  if previous.isSome && !logs then (state, none)
  else
    ({ state with
        calls := state.calls ++ [⟨key, previous, .queued, none⟩]
        queues := state.queues.insert key state.calls.length },
      some state.calls.length)

def reach (id : Nat) (call : QueueCall R E) : QueueStage R E → ChainQueue R E
  | .executing => { state with started := state.started ++ [(call.key, id)] }
  | .released _ =>
    -- the `finally` of the chain
    if state.queues.get? call.key = some id
    then { state with queues := state.queues.erase call.key }
    else state
  | _ => state

def resultAfter (call : QueueCall R E) (choice : QueueChoice R E) : Option (Except E R) :=
  match call.stage with
  | .executing => some choice.result
  | _ => call.result

def previousStage (call : QueueCall R E) : Option (QueueStage R E) :=
  call.previous.bind fun id => state.calls[id]?.map (·.stage)

def advance (errorMessage : E → Option E) (state : ChainQueue R E) (id : Nat)
    (choice : QueueChoice R E) : ChainQueue R E :=
  match state.calls[id]? with
  | none => state
  | some call =>
    match call.stage.advance errorMessage (state.previousStage call) choice with
    | none => state
    | some stage =>
      { state with
        calls := state.calls.set id { call with stage, result := resultAfter call choice }
        }.reach id call stage

end ChainQueue

def buildScheduleDeliveryQueueId (targetChannel targetSessionId : String) : String :=
  targetChannel ++ ":" ++ targetSessionId

structure ScheduleQueues (R E : Type) where
  (executions deliveries : ChainQueue R E)

namespace ScheduleQueues

def idle : ScheduleQueues R E := ⟨.idle, .idle⟩

def enqueueScheduleExecution (state : ScheduleQueues R E) (scheduleId : String) (logs : Bool) :
    ScheduleQueues R E × Option Nat :=
  let (executions, id) := state.executions.enqueue scheduleId logs
  ({ state with executions }, id)

def enqueueScheduledDelivery (state : ScheduleQueues R E) (targetChannel targetSessionId : String)
    (logs : Bool) : ScheduleQueues R E × Option Nat :=
  let (deliveries, id) := state.deliveries.enqueue
    (buildScheduleDeliveryQueueId targetChannel targetSessionId) logs
  ({ state with deliveries }, id)

/-- What happens: a call to one of the queues, or the next stage of a call. -/
inductive Event (R E : Type) where
  | execute (scheduleId : String) (logs : Bool)
  | deliver (targetChannel targetSessionId : String) (logs : Bool)
  | advanceExecution (id : Nat) (choice : QueueChoice R E)
  | advanceDelivery (id : Nat) (choice : QueueChoice R E)

def next (errorMessage : E → Option E) (state : ScheduleQueues R E) :
    Event R E → ScheduleQueues R E × Option Nat
  | .execute scheduleId logs => state.enqueueScheduleExecution scheduleId logs
  | .deliver targetChannel targetSessionId logs =>
    state.enqueueScheduledDelivery targetChannel targetSessionId logs
  | .advanceExecution id choice =>
    ({ state with executions := state.executions.advance errorMessage id choice }, none)
  | .advanceDelivery id choice =>
    ({ state with deliveries := state.deliveries.advance errorMessage id choice }, none)

abbrev run (errorMessage : E → Option E) :
    ScheduleQueues R E → List (Event R E) → ScheduleQueues R E := Machine.run (next errorMessage)

end ScheduleQueues

end Knowbee.Schedule
