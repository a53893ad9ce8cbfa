import Knowbee.JavaScript
import Knowbee.Lib.Machine

/-!
# Backpressure queues

`queue-backpressure.ts`, one queue of it.  The events are what can happen between two synchronous
stretches of the code: a caller enqueues, a scheduled task is called, a task settles, a timer
fires, a `runJob` goes on after its race.
-/

namespace Knowbee

inductive QueueName where
  | fastReceipt | interactiveRun | toolExecution | delivery | webBrowser | memoryIndex | diagnostic
  | scheduleTick

structure QueueBudget where
  (concurrency timeoutMs backoffMs maxPending : JsNumber)

structure QueueBudgetOverride where
  (concurrency timeoutMs backoffMs maxPending : Option JsNumber)

def QueueName.defaultBudget : QueueName → QueueBudget
  | .fastReceipt => ⟨8, 500, 0, 100⟩
  | .interactiveRun => ⟨2, 120000, 500, 50⟩
  | .toolExecution => ⟨4, 60000, 1000, 80⟩
  | .delivery => ⟨3, 30000, 1500, 100⟩
  | .webBrowser => ⟨1, 20000, 2000, 10⟩
  | .memoryIndex => ⟨1, 90000, 2000, 500⟩
  | .diagnostic => ⟨1, 30000, 1000, 20⟩
  | .scheduleTick => ⟨2, 30000, 1000, 200⟩

def budgetFor (queueName : QueueName) (override : QueueBudgetOverride) : QueueBudget :=
  let base := queueName.defaultBudget
  { concurrency := .max 1 (override.concurrency.getD base.concurrency).floor
    timeoutMs := .max 1 (override.timeoutMs.getD base.timeoutMs).floor
    backoffMs := .max 0 (override.backoffMs.getD base.backoffMs).floor
    maxPending := .max 0 (override.maxPending.getD base.maxPending).floor }

/-- What `safeRecordQueueEvent` is given, less the names of the job. -/
structure QueueEventRecord where
  (eventKind actionTaken : String)
  pendingCount : Nat
  error : Option String

/-- How the promise of an admitted job is settled. -/
inductive Settlement (V E : Type) where
  | resolved (value : V)
  | rejected (error : E)
  | timedOut (queueName : QueueName) (timeoutMs : JsNumber)

/-- What the race of a task and its timer came to. -/
inductive RaceResult (V E : Type) where
  | value (value : V)
  | error (error : E)
  | timeout

/-- A `runJob` that has not returned: its job, by the order of admission, and
the budget it was run with. -/
structure RunningJob where
  job : Nat
  budget : QueueBudget

/-- The state of a queue with the calls of `runJob` that are under way: `launched` are those whose
task is still to be called, `racing` those that wait for their race, and `decided` those whose race
is over. -/
structure QueueState (V E : Type) where
  running : Nat
  pending : List Nat
  (launched racing : List RunningJob)
  decided : List (RunningJob × RaceResult V E)
  admitted : Nat
  (started executing overdue : List Nat)
  settled : List (Nat × Settlement V E)
  recorded : List QueueEventRecord

namespace Backpressure

variable {V E : Type}

def idle : QueueState V E := ⟨0, [], [], [], [], 0, [], [], [], [], []⟩

def record (state : QueueState V E) (eventKind actionTaken : String) (error : Option String) :
    QueueState V E :=
  { state with recorded := ⟨eventKind, actionTaken, state.pending.length, error⟩ :: state.recorded }

/-- `runJob` up to its race: the call of the task is scheduled. -/
def runJob (budget : QueueBudget) (job : Nat) (state : QueueState V E) : QueueState V E :=
  let state := record { state with running := state.running + 1 } "running" "dequeue" none
  { state with launched := state.launched ++ [⟨job, budget⟩] }

/-- The loop of `runNext` over the jobs that wait. -/
def runPending (budget : QueueBudget) : List Nat → QueueState V E → QueueState V E
  | [], state => { state with pending := [] }
  | job :: rest, state =>
    if (JsNumber.ofNat state.running).lt budget.concurrency then
      runPending budget rest (runJob budget job { state with pending := rest })
    else { state with pending := job :: rest }

def runNext (budget : QueueBudget) (state : QueueState V E) : QueueState V E :=
  runPending budget state.pending state

inductive Reply where
  | queueFull
  | admitted (job : Nat)

def enqueueBackpressureTask (queueName : QueueName) (override : QueueBudgetOverride)
    (state : QueueState V E) : QueueState V E × Reply :=
  let budget := budgetFor queueName override
  if budget.concurrency.le (.ofNat state.running) ∧
      budget.maxPending.le (.ofNat state.pending.length) then
    (record state "rejected" "queue_full" none, .queueFull)
  else
    let job := state.admitted
    let immediate := (JsNumber.ofNat state.running).lt budget.concurrency
    let state := { state with pending := state.pending ++ [job], admitted := state.admitted + 1 }
    let state := record state "queued" (if immediate then "run_immediately" else "wait") none
    (runNext budget state, .admitted job)

/-- The `finally` of `runJob`. -/
def release (budget : QueueBudget) (state : QueueState V E) : QueueState V E :=
  runNext budget { state with running := state.running - 1 }

/-- `job.resolve` or `job.reject`, and what is recorded of it. -/
def settleJob (frame : RunningJob) (settlement : Settlement V E) (eventKind actionTaken : String)
    (error : Option String) (state : QueueState V E) : QueueState V E :=
  record { state with settled := state.settled ++ [(frame.job, settlement)] } eventKind actionTaken
    error

/-- What the `catch` of `runJob` makes of errors: `safeQueueErrorMessage`, which may throw
for what a task rejects with, the message of a timeout, and whether a task rejects with a
timeout of its own. -/
structure ErrorMessages (E : Type) where
  describe : E → Option String
  timeout : QueueName → JsNumber → String
  isTimeout : E → Bool

/-- `runJob` from the end of its race on.  Where the message of an error throws, the
promise of the job is left as it is. -/
def finishJob (queueName : QueueName) (messages : ErrorMessages E) (frame : RunningJob)
    (result : RaceResult V E) (state : QueueState V E) : QueueState V E :=
  release frame.budget <|
    match result with
    | .value value => settleJob frame (.resolved value) "completed" "complete" none state
    | .timeout =>
      settleJob frame (.timedOut queueName frame.budget.timeoutMs) "timeout" "timeout"
        (some (messages.timeout queueName frame.budget.timeoutMs)) state
    | .error error =>
      match messages.describe error with
      | none => state
      | some text =>
        settleJob frame (.rejected error) (if messages.isTimeout error then "timeout" else "failed")
          (if messages.isTimeout error then "timeout" else "fail") (some text) state

inductive Event (V E : Type) where
  | enqueue (override : QueueBudgetOverride)
  | callTask
  | taskSettles (job : Nat) (result : Except E V)
  | timerFires (job : Nat)
  | resume (job : Nat)

def raceResult : Except E V → RaceResult V E
  | .ok value => .value value
  | .error error => .error error

/-- The race of a job is decided, if it is still open. -/
def decideRace (job : Nat) (result : RaceResult V E) (state : QueueState V E) : QueueState V E :=
  match state.racing.find? (·.job = job) with
  | none => state
  | some frame =>
    { state with
      racing := state.racing.filter (·.job ≠ job)
      decided := state.decided ++ [(frame, result)] }

def next (queueName : QueueName) (messages : ErrorMessages E) (state : QueueState V E) :
    Event V E → QueueState V E × Option Reply
  | .enqueue override =>
    let (state, reply) := enqueueBackpressureTask queueName override state
    (state, some reply)
  | .callTask =>
    -- The scheduled calls are made in the order they were scheduled in.
    match state.launched with
    | [] => (state, none)
    | frame :: rest =>
      ({ state with
        launched := rest
        racing := state.racing ++ [frame]
        started := state.started ++ [frame.job]
        executing := state.executing ++ [frame.job] }, none)
  | .taskSettles job result =>
    if job ∈ state.executing then
      (decideRace job (raceResult result)
        { state with executing := state.executing.filter (· ≠ job) }, none)
    else (state, none)
  | .timerFires job =>
    -- A timer waits for the scheduled calls, and does nothing after the race.
    if state.launched = [] ∧ state.racing.any (·.job = job) then
      (decideRace job .timeout { state with overdue := job :: state.overdue }, none)
    else (state, none)
  | .resume job =>
    match state.decided.find? (·.1.job = job) with
    | none => (state, none)
    | some (frame, result) =>
      (finishJob queueName messages frame result
        { state with decided := state.decided.filter (·.1.job ≠ job) }, none)

abbrev run (queueName : QueueName) (messages : ErrorMessages E) :
    QueueState V E → List (Event V E) → QueueState V E :=
  Machine.run (next queueName messages)

end Backpressure

end Knowbee
