import Knowbee.JavaScript
import Knowbee.Lib.Machine
import Knowbee.Lib.SortedMap

/-!
# Queues of schedules

`scheduler/index.ts` over `queueing.ts` and `tick-policy.ts`.  A tick or a call
of `runNow` chains a task to the tail of the queue of its schedule.  The task
inserts the row of a run, sets off its execution and returns without waiting for
it: what the queue waits for is a promise of the object that holds the promise
of the execution.
-/

namespace Knowbee

structure ScheduleTickSource where
  id : String
  enabled : Bool
  (executionDriver cronExpression : String)
  timezone : Option String
  (createdAt lastRunAt : Option Int)

/-- `isValidCron`, `getNextRunForTimezone`, which may throw, and the text of an
instant. -/
structure Cron where
  isValidCron : String → Bool
  getNextRun : String → Int → Option String → Option Int
  toISOString : Int → String

inductive TickSkip where
  | disabled | systemDriver | invalidCron | queueActive | notDue | cronError

inductive ScheduleTickDirective where
  | skip (reason : TickSkip)
  | run (dueAtMs : Int) (trigger : String)

def resolveScheduleTickDirective (cron : Cron) (schedule : ScheduleTickSource) (nowMs : Int)
    (queueActive : Bool) : ScheduleTickDirective :=
  if !schedule.enabled then .skip .disabled
  else if schedule.executionDriver = "system_crontab" then .skip .systemDriver
  else if !cron.isValidCron schedule.cronExpression then .skip .invalidCron
  else if queueActive then .skip .queueActive
  else
    let baseTimestamp := (schedule.lastRunAt.or schedule.createdAt).getD nowMs
    match cron.getNextRun schedule.cronExpression baseTimestamp schedule.timezone with
    | none => .skip .cronError
    | some nextRun =>
      if nextRun > nowMs then .skip .notDue
      else .run nextRun s!"scheduler tick (due: {cron.toISOString nextRun})"

lemma resolve_queueActive (cron : Cron) (schedule : ScheduleTickSource) (nowMs dueAtMs : Int)
    (trigger : String) :
    resolveScheduleTickDirective cron schedule nowMs true ≠ .run dueAtMs trigger := by
  unfold resolveScheduleTickDirective
  split_ifs <;> first | exact ScheduleTickDirective.noConfusion | contradiction

lemma resolve_run_iff {cron : Cron} {source : ScheduleTickSource} (enabled : source.enabled)
    (driven : source.executionDriver ≠ "system_crontab")
    (valid : cron.isValidCron source.cronExpression) (nowMs dueAtMs : Int) :
    (∃ trigger, resolveScheduleTickDirective cron source nowMs false = .run dueAtMs trigger) ↔
      cron.getNextRun source.cronExpression ((source.lastRunAt.or source.createdAt).getD nowMs)
          source.timezone = some dueAtMs ∧
        dueAtMs ≤ nowMs := by
  unfold resolveScheduleTickDirective
  rw [if_neg (by simp [enabled]), if_neg driven, if_neg (by simp [valid]),
    if_neg Bool.false_ne_true]
  dsimp only
  cases cron.getNextRun source.cronExpression ((source.lastRunAt.or source.createdAt).getD nowMs)
      source.timezone with
  | none => simp
  | some due =>
    by_cases late : nowMs < due
    · simp only [gt_iff_lt, late, if_true, Option.some.injEq]
      constructor
      · rintro ⟨trigger, impossible⟩
        cases impossible
      · rintro ⟨rfl, early⟩
        omega
    · simp only [gt_iff_lt, late, if_false, Option.some.injEq, ScheduleTickDirective.run.injEq,
        exists_and_left, exists_eq', and_true]
      constructor
      · rintro rfl
        exact ⟨rfl, by omega⟩
      · exact fun found => found.1

/-- `normalizeScheduleMaxRetries`: what is missing or not finite has the default. -/
def normalizeScheduleMaxRetries : Option JsNumber → Nat
  | some (.finite value) => (max 0 (min 10 value.floor)).toNat
  | _ => 3

/-- The fields of a result that the loop of attempts reads. -/
structure ScheduledExecutionResult where
  success : Bool
  (executionSuccess deliverySuccess retryable : Option Bool)

inductive RunPhase where
  | executing | delaying | ended
  deriving DecidableEq

/-- The execution of a run, whose row is inserted: the promise `finished`. -/
structure ScheduleRun where
  (maxRetries attempt : Nat)
  phase : RunPhase
  deriving DecidableEq

namespace ScheduleRun

def start (maxRetries : Option JsNumber) : ScheduleRun :=
  ⟨normalizeScheduleMaxRetries maxRetries, 0, .executing⟩

def attemptEnds (run : ScheduleRun) : Option ScheduledExecutionResult → ScheduleRun
  | none => { run with phase := .ended }
  | some result =>
    if result.success then { run with phase := .ended }
    else if result.executionSuccess = some true ∧ result.deliverySuccess = some false then
      { run with attempt := run.attempt + 1, phase := .ended }
    else if result.retryable = some false then
      { run with attempt := run.attempt + 1, phase := .ended }
    else if run.attempt + 1 ≤ run.maxRetries then
      { run with attempt := run.attempt + 1, phase := .delaying }
    else { run with attempt := run.attempt + 1, phase := .ended }

end ScheduleRun

/-- How far the promises of a task have come: it waits for its turn, it was
called, its `finally` has run, and what is chained to it may go on. -/
inductive TaskStage where
  | waiting | taken | released | settled
  deriving DecidableEq

/-- A requested run, in the order of requests.  `previous` is the task whose
promise it was chained to, if it was not a resolved one. -/
structure ScheduledTask where
  (scheduleId trigger : String)
  previous : Option Nat
  stage : TaskStage
  run : Option ScheduleRun
  deriving DecidableEq

namespace ScheduledTask

/-- The request holds its place in the queue. -/
def queued (task : ScheduledTask) : Bool := task.stage = .waiting || task.stage = .taken

/-- The row of the run is inserted and its last attempt has not ended. -/
def running (task : ScheduledTask) : Bool :=
  match task.run with
  | none => false
  | some run => run.phase ≠ .ended

end ScheduledTask

/-- `scheduleExecutionQueues`, and every task there ever was. -/
structure Scheduler where
  queues : SortedMap String Nat
  tasks : List ScheduledTask

namespace Scheduler

def idle : Scheduler := ⟨.empty, []⟩

variable (scheduler : Scheduler) (scheduleId : String) (number : Nat)

def hasScheduleExecutionQueue : Bool :=
  (scheduler.queues.get? scheduleId).isSome

def enqueueScheduleExecution (trigger : String) : Scheduler :=
  let previous := scheduler.queues.get? scheduleId
  { queues := scheduler.queues.insert scheduleId scheduler.tasks.length
    tasks := scheduler.tasks ++ [⟨scheduleId, trigger, previous, .waiting, none⟩] }

/-- `runNowInternal`; `found` says whether the schedule is. -/
def runNowInternal (trigger : String) (found : Bool) : Scheduler :=
  if found then scheduler.enqueueScheduleExecution scheduleId trigger else scheduler

def runNow (scheduler : Scheduler) (scheduleId trigger : String) (found : Bool) : Scheduler :=
  scheduler.runNowInternal scheduleId trigger found

/-- The call differs from `runNow` only in what its caller waits for. -/
def runNowAndWait (trigger : String) (found : Bool) : Scheduler :=
  scheduler.runNowInternal scheduleId trigger found

/-- `tick` over the schedules it loads, and the ids of those it runs. -/
def tick (cron : Cron) (nowMs : Int) :
    List ScheduleTickSource → Scheduler → Scheduler × List String
  | [], scheduler => (scheduler, [])
  | schedule :: rest, scheduler =>
    match resolveScheduleTickDirective cron schedule nowMs
        (scheduler.hasScheduleExecutionQueue schedule.id) with
    | .skip _ => tick cron nowMs rest scheduler
    | .run _ trigger =>
      let (after, started) := tick cron nowMs rest (scheduler.runNow schedule.id trigger true)
      (after, schedule.id :: started)

/-- `executeQueuedRun` up to its return: the schedule is looked up again and the row of the run is
inserted, which may throw. -/
def executeQueuedRun (found inserted : Bool) (maxRetries : Option JsNumber) : Option ScheduleRun :=
  if found && inserted then some (.start maxRetries) else none

/-- What a task was chained to is settled, so that its turn has come. -/
def turn (task : ScheduledTask) : Bool :=
  match task.previous with
  | none => true
  | some previous => scheduler.tasks[previous]?.any (·.stage = .settled)

def replace (task : ScheduledTask) : Scheduler :=
  { scheduler with tasks := scheduler.tasks.set number task }

/-- A task whose turn has come is called. -/
def takeUp (run : Option ScheduleRun) : Scheduler :=
  match scheduler.tasks[number]? with
  | none => scheduler
  | some task =>
    if task.stage = .waiting ∧ scheduler.turn task then
      scheduler.replace number { task with stage := .taken, run := run }
    else scheduler

/-- The `finally` of a task that was called. -/
def finish : Scheduler :=
  match scheduler.tasks[number]? with
  | none => scheduler
  | some task =>
    if task.stage = .taken then
      let released := scheduler.replace number { task with stage := .released }
      if scheduler.queues.get? task.scheduleId = some number then
        { released with queues := scheduler.queues.erase task.scheduleId }
      else released
    else scheduler

/-- The promise that `enqueueScheduleExecution` returned settles. -/
def settle (scheduler : Scheduler) (number : Nat) : Scheduler :=
  match scheduler.tasks[number]? with
  | none => scheduler
  | some task =>
    if task.stage = .released then scheduler.replace number { task with stage := .settled }
    else scheduler

/-- The execution of a task's run goes on from the phase it is in. -/
def proceed (phase : RunPhase) (change : ScheduleRun → ScheduleRun) : Scheduler :=
  match scheduler.tasks[number]? with
  | none => scheduler
  | some task =>
    match task.run with
    | none => scheduler
    | some run =>
      if run.phase = phase then scheduler.replace number { task with run := some (change run) }
      else scheduler

def attemptEnds (scheduler : Scheduler) (number : Nat) (result : Option ScheduledExecutionResult) :
    Scheduler :=
  scheduler.proceed number .executing (·.attemptEnds result)

/-- The delay before another attempt is over. -/
def delayElapses : Scheduler :=
  scheduler.proceed number .delaying fun run => { run with phase := .executing }

inductive Event where
  | tick (nowMs : Int) (schedules : List ScheduleTickSource)
  | runNow (scheduleId trigger : String) (found : Bool)
  | runNowAndWait (scheduleId trigger : String) (found : Bool)
  | takeUp (number : Nat) (found inserted : Bool) (maxRetries : Option JsNumber)
  | finish (number : Nat)
  | settle (number : Nat)
  | attemptEnds (number : Nat) (result : Option ScheduledExecutionResult)
  | delayElapses (number : Nat)

/-- A step, and the schedules it requests runs of on its own account. -/
def next (cron : Cron) (scheduler : Scheduler) : Event → Scheduler × List String
  | .tick nowMs schedules => tick cron nowMs schedules scheduler
  | .runNow scheduleId trigger found => (scheduler.runNow scheduleId trigger found, [])
  | .runNowAndWait scheduleId trigger found =>
    (scheduler.runNowAndWait scheduleId trigger found, [])
  | .takeUp number found inserted maxRetries =>
    (scheduler.takeUp number (executeQueuedRun found inserted maxRetries), [])
  | .finish number => (scheduler.finish number, [])
  | .settle number => (scheduler.settle number, [])
  | .attemptEnds number result => (scheduler.attemptEnds number result, [])
  | .delayElapses number => (scheduler.delayElapses number, [])

abbrev run (cron : Cron) : Scheduler → List Event → Scheduler := Machine.run (next cron)

end Scheduler

end Knowbee
