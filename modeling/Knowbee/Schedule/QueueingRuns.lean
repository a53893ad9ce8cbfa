import Knowbee.Lib.PromiseChain
import Knowbee.Schedule.Queueing

/-!
# Runs of schedules

Ticks, calls and the stages of tasks in any order.  The tasks of a schedule are
called one at a time in the order of requests, and its queue is active while one
of them holds a place in it (`Scheduler.Sound`).  But a task gives up its place
once its run has started: the runs themselves exclude each other only where
their executions end first (`schedule_runs_serial`).
-/

namespace Knowbee

open List ScheduledTask Bool

namespace ScheduledTask

variable {task : ScheduledTask}

lemma queued_of_waiting (waiting : task.stage = .waiting) : task.queued = true := by
  simp only [queued, waiting]
  rfl

lemma queued_of_taken (taken : task.stage = .taken) : task.queued = true := by
  simp only [queued, taken]
  rfl

end ScheduledTask

namespace Scheduler

variable {scheduler : Scheduler}

/-! ## The order of tasks -/

/-- A task waits until it is called, and ends as it gives up its place. -/
def reading : PromiseChain.Reading String ScheduledTask where
  key := scheduleId
  previous := previous
  waits task := task.stage = .waiting
  ended task := !task.queued
  past {task} left := by
    rw [decide_eq_false_iff_not]
    intro waiting
    rw [queued_of_waiting waiting] at left
    cases left

/-- The tasks of a schedule are a chain of promises, and a run begins with its task. -/
structure Sound (scheduler : Scheduler) : Prop where
  chain : PromiseChain.Sound reading scheduler.queues.get? scheduler.tasks
  fresh (number : Nat) (task : ScheduledTask) : scheduler.tasks[number]? = some task →
    task.stage = .waiting → task.run = none

lemma sound_idle : Sound idle where
  chain := PromiseChain.sound_nil _ SortedMap.get?_empty
  fresh number task found := by cases found

variable {number : Nat} {cron : Cron} {scheduleId : String} {queues : SortedMap String Nat}

/-! ## What a step does -/

/-- What a step can do to the tasks and the queues, where the tasks that may give
up their places are given. -/
inductive Change (leaves : ScheduledTask → Prop) (scheduler : Scheduler) : Scheduler → Prop where
  | stays : Change leaves scheduler scheduler
  | enqueue (scheduleId trigger : String) :
      Change leaves scheduler (scheduler.enqueueScheduleExecution scheduleId trigger)
  | taken (number : Nat) (task : ScheduledTask) (run : Option ScheduleRun) :
      scheduler.tasks[number]? = some task → task.stage = .waiting → scheduler.turn task = true →
      Change leaves scheduler (scheduler.replace number { task with stage := .taken, run := run })
  | released (number : Nat) (task : ScheduledTask) :
      scheduler.tasks[number]? = some task → task.stage = .taken → leaves task →
      scheduler.queues.get? task.scheduleId ≠ some number →
      Change leaves scheduler (scheduler.replace number { task with stage := .released })
  | emptied (number : Nat) (task : ScheduledTask) :
      scheduler.tasks[number]? = some task → task.stage = .taken → leaves task →
      scheduler.queues.get? task.scheduleId = some number →
      Change leaves scheduler { scheduler.replace number { task with stage := .released } with
        queues := scheduler.queues.erase task.scheduleId }
  | settled (number : Nat) (task : ScheduledTask) :
      scheduler.tasks[number]? = some task → task.stage = .released →
      Change leaves scheduler (scheduler.replace number { task with stage := .settled })
  | proceeds (number : Nat) (task : ScheduledTask) (run run' : ScheduleRun) :
      scheduler.tasks[number]? = some task → task.run = some run → run.phase ≠ .ended →
      Change leaves scheduler (scheduler.replace number { task with run := some run' })

variable {leaves : ScheduledTask → Prop}

lemma change_runNowInternal (scheduleId trigger : String) (found : Bool) :
    Change leaves scheduler (scheduler.runNowInternal scheduleId trigger found) := by
  cases found with
  | false => exact .stays
  | true => exact .enqueue scheduleId trigger

lemma change_takeUp (number : Nat) (run : Option ScheduleRun) :
    Change leaves scheduler (scheduler.takeUp number run) := by
  unfold takeUp
  rcases found : scheduler.tasks[number]? with _ | task
  · exact .stays
  · dsimp only
    split_ifs with turn
    · exact .taken number task run found turn.1 turn.2
    · exact .stays

lemma change_finish (number : Nat)
    (permits : ∀ task, scheduler.tasks[number]? = some task → leaves task) :
    Change leaves scheduler (scheduler.finish number) := by
  unfold finish
  rcases found : scheduler.tasks[number]? with _ | task
  · exact .stays
  · dsimp only
    split_ifs with taken entry
    · exact .emptied number task found taken (permits task found) entry
    · exact .released number task found taken (permits task found) entry
    · exact .stays

lemma change_settle (number : Nat) : Change leaves scheduler (scheduler.settle number) := by
  unfold settle
  rcases found : scheduler.tasks[number]? with _ | task
  · exact .stays
  · dsimp only
    split_ifs with released
    · exact .settled number task found released
    · exact .stays

lemma change_proceed (number : Nat) {phase : RunPhase} (unended : phase ≠ .ended)
    (change : ScheduleRun → ScheduleRun) :
    Change leaves scheduler (scheduler.proceed number phase change) := by
  unfold proceed
  rcases found : scheduler.tasks[number]? with _ | task
  · exact .stays
  · rcases executes : task.run with _ | run
    · simp only [executes]
      exact .stays
    · simp only [executes]
      split_ifs with here
      · exact .proceeds number task run (change run) found executes (here ▸ unended)
      · exact .stays

lemma tick_keeps {nowMs : Int} {inv : Scheduler → Prop}
    (keep : ∀ scheduler scheduleId trigger, inv scheduler →
      inv (scheduler.enqueueScheduleExecution scheduleId trigger))
    (schedules : List ScheduleTickSource) (start : inv scheduler) :
    inv (tick cron nowMs schedules scheduler).1 := by
  induction schedules generalizing scheduler with
  | nil => exact start
  | cons schedule rest ih =>
    unfold tick
    split
    · exact ih start
    · exact ih (keep scheduler schedule.id _ start)

lemma next_keeps {inv : Scheduler → Prop}
    (keep : ∀ scheduler after, inv scheduler → Change leaves scheduler after → inv after)
    (start : inv scheduler) (event : Event)
    (permits : ∀ number, event = .finish number → ∀ task, scheduler.tasks[number]? = some task →
      leaves task) :
    inv (next cron scheduler event).1 := by
  cases event with
  | tick nowMs schedules =>
    exact tick_keeps (fun scheduler scheduleId trigger holds =>
      keep scheduler _ holds (.enqueue scheduleId trigger)) schedules start
  | runNow scheduleId trigger found =>
    exact keep scheduler _ start (change_runNowInternal scheduleId trigger found)
  | runNowAndWait scheduleId trigger found =>
    exact keep scheduler _ start (change_runNowInternal scheduleId trigger found)
  | takeUp number found inserted maxRetries => exact keep scheduler _ start (change_takeUp number _)
  | finish number => exact keep scheduler _ start (change_finish number (permits number rfl))
  | settle number => exact keep scheduler _ start (change_settle number)
  | attemptEnds number result =>
    exact keep scheduler _ start (change_proceed number RunPhase.noConfusion _)
  | delayElapses number =>
    exact keep scheduler _ start (change_proceed number RunPhase.noConfusion _)

/-! ## The order is kept -/

lemma Sound.enqueue (sound : Sound scheduler) (scheduleId trigger : String) :
    Sound (scheduler.enqueueScheduleExecution scheduleId trigger) where
  chain := by
    refine sound.chain.append rfl rfl rfl ?_ fun other => ?_ <;>
      rw [enqueueScheduleExecution, SortedMap.get?_insert]
    · exact if_pos rfl
    · exact if_neg other
  fresh number task found waiting := by
    rcases PromiseChain.getElem?_append_call found with ⟨-, old⟩ | ⟨-, rfl⟩
    · exact sound.fresh number task old waiting
    · rfl

/-- A task that keeps its schedule and what it is chained to keeps the order, if
it takes no place again, goes on only in its turn, and the entry of its schedule
is deleted when it gives up its place as the last one. -/
lemma Sound.replace (sound : Sound scheduler) {task : ScheduledTask} (changed : ScheduledTask)
    (found : scheduler.tasks[number]? = some task) (named : changed.scheduleId = task.scheduleId)
    (chain : changed.previous = task.previous)
    (gone : task.queued = false → changed.queued = false)
    (turn : task.stage = .waiting → changed.stage ≠ .waiting → scheduler.turn task = true)
    (fresh : changed.stage = .waiting → changed.run = none)
    (entries : ∀ scheduleId,
      queues.get? scheduleId = scheduler.queues.get? scheduleId ∧
        (queues.get? scheduleId = some number → changed.queued = true) ∨
      queues.get? scheduleId = none ∧
        scheduler.queues.get? scheduleId = some number ∧ changed.queued = false) :
    Sound ⟨queues, scheduler.tasks.set number changed⟩ where
  chain := by
    refine sound.chain.set found named chain
      (fun left => not_eq_true' _ |>.mpr (gone (not_eq_true' _ |>.mp left)))
      (fun waits past place before link there => ?_) (fun {scheduleId i} held => ?_)
      fun {scheduleId} absent => ?_
    · have settled := turn (of_decide_eq_true waits) (of_decide_eq_false past)
      rw [Scheduler.turn, show task.previous = some place from link] at settled
      dsimp only at settled
      rw [there, Option.any_some, decide_eq_true_eq] at settled
      simp only [reading, queued, settled]
      rfl
    · rcases entries scheduleId with ⟨same, holds⟩ | ⟨none, -⟩
      · exact ⟨same.symm.trans held, fun own => not_eq_false' _ |>.mpr (holds (own ▸ held))⟩
      · cases none.symm.trans held
    · rcases entries scheduleId with ⟨same, -⟩ | ⟨-, last, unqueued⟩
      · exact .inl (same.symm.trans absent)
      · exact .inr ⟨last, not_eq_true' _ |>.mpr unqueued⟩
  fresh position other present waiting := by
    rcases PromiseChain.getElem?_set_call present with ⟨rfl, rfl⟩ | ⟨-, old⟩
    · exact fresh waiting
    · exact sound.fresh position other old waiting

lemma Sound.change {after : Scheduler} (sound : Sound scheduler)
    (change : Change leaves scheduler after) : Sound after := by
  cases change with
  | stays => exact sound
  | enqueue scheduleId trigger => exact sound.enqueue scheduleId trigger
  | taken number task run found waiting turn =>
    refine sound.replace { task with stage := .taken, run := run }
      found rfl rfl (fun unqueued => ?_)
      (fun _ _ => turn) TaskStage.noConfusion
      (fun scheduleId => .inl ⟨rfl, fun _ => queued_of_taken rfl⟩)
    rw [queued_of_waiting waiting] at unqueued
    cases unqueued
  | released number task found taken permits entry =>
    refine sound.replace { task with stage := .released }
      found rfl rfl (fun _ => rfl) (fun waiting => nomatch taken.symm.trans waiting)
      TaskStage.noConfusion (fun scheduleId => .inl ⟨rfl, fun last => ?_⟩)
    obtain ⟨⟨other, there, own, -⟩, -⟩ := sound.chain.mapped last
    cases found.symm.trans there
    subst own
    exact absurd last entry
  | emptied number task found taken permits entry =>
    refine sound.replace { task with stage := .released }
      found rfl rfl (fun _ => rfl) (fun waiting => nomatch taken.symm.trans waiting)
      TaskStage.noConfusion (fun scheduleId => ?_)
    rw [SortedMap.get?_erase]
    split_ifs with own
    · exact .inr ⟨rfl, own ▸ entry, rfl⟩
    · refine .inl ⟨rfl, fun last => ?_⟩
      obtain ⟨⟨other, there, own', -⟩, -⟩ := sound.chain.mapped last
      cases found.symm.trans there
      exact absurd own'.symm own
  | settled number task found released =>
    have unqueued : task.queued = false := by
      simp only [queued, released]
      rfl
    refine sound.replace { task with stage := .settled }
      found rfl rfl (fun _ => rfl) (fun waiting => nomatch released.symm.trans waiting)
      TaskStage.noConfusion (fun scheduleId => .inl ⟨rfl, fun last => ?_⟩)
    obtain ⟨⟨other, there, -, queued⟩, -⟩ := sound.chain.mapped last
    cases found.symm.trans there
    rw [not_eq_false' _ |>.mp queued] at unqueued
    cases unqueued
  | proceeds number task run run' found executes unended =>
    refine sound.replace { task with run := some run' }
      found rfl rfl id (fun waiting past => absurd waiting past) (fun waiting => ?_)
      (fun scheduleId => .inl ⟨rfl, fun last => ?_⟩)
    · have none := sound.fresh number task found waiting
      rw [executes] at none
      cases none
    · obtain ⟨⟨other, there, -, queued⟩, -⟩ := sound.chain.mapped last
      cases found.symm.trans there
      exact not_eq_false' _ |>.mp queued

lemma sound_run (cron : Cron) (events : List Event) : Sound (run cron idle events) := by
  have keep scheduler event sound :
      Sound (next cron scheduler event).1 :=
    next_keeps (fun _ _ sound (change : Change (fun _ => True) _ _) => sound.change change) sound
      event fun _ _ _ _ => trivial
  exact Machine.run_invariant keep sound_idle events

lemma Sound.unqueued_before (sound : Sound scheduler) {first second : Nat}
    {task later : ScheduledTask} (less : first < second)
    (found : scheduler.tasks[first]? = some task) (found' : scheduler.tasks[second]? = some later)
    (same : task.scheduleId = later.scheduleId) (past : later.stage ≠ .waiting) :
    task.queued = false :=
  not_eq_true' _ |>.mp (sound.chain.behind found found' less same (decide_eq_false past))

lemma Sound.has_iff (sound : Sound scheduler) (scheduleId : String) :
    scheduler.hasScheduleExecutionQueue scheduleId = true ↔
      ∃ task ∈ scheduler.tasks, task.scheduleId = scheduleId ∧ task.queued = true := by
  unfold hasScheduleExecutionQueue
  rcases entry : scheduler.queues.get? scheduleId with _ | number
  · refine iff_of_false Bool.noConfusion ?_
    rintro ⟨task, member, own, queued⟩
    obtain ⟨number, found⟩ := mem_iff_getElem?.mp member
    have unqueued := Bool.not_eq_true' _ |>.mp (sound.chain.unmapped entry found own)
    rw [unqueued] at queued
    cases queued
  · obtain ⟨⟨task, found, own, queued⟩, -⟩ := sound.chain.mapped entry
    exact iff_of_true rfl ⟨task, mem_of_getElem? found, own, Bool.not_eq_false' _ |>.mp queued⟩

/-! ## What runs of one schedule do -/

/-- At most one run of a schedule executes. -/
def Serial (scheduler : Scheduler) : Prop :=
  ∀ (first second : Nat) (task other : ScheduledTask), scheduler.tasks[first]? = some task →
    scheduler.tasks[second]? = some other → task.scheduleId = other.scheduleId →
    task.running = true → other.running = true → first = second

/-- A run is started after those that were requested before it. -/
def InOrder (scheduler : Scheduler) : Prop :=
  ∀ (first second : Nat) (task later : ScheduledTask), first < second →
    scheduler.tasks[first]? = some task → scheduler.tasks[second]? = some later →
    task.scheduleId = later.scheduleId → later.stage ≠ .waiting → task.stage ≠ .waiting

/-- The queue of a schedule is active while a run of it is queued or executing. -/
def Exact (scheduler : Scheduler) : Prop :=
  ∀ scheduleId, scheduler.hasScheduleExecutionQueue scheduleId = true ↔
    ∃ task ∈ scheduler.tasks, task.scheduleId = scheduleId ∧
      (task.queued = true ∨ task.running = true)

/-- A tick starts no run of a schedule of which another is executing. -/
def TicksApart (cron : Cron) (scheduler : Scheduler) : Prop :=
  ∀ nowMs schedules, ∀ scheduleId ∈ (tick cron nowMs schedules scheduler).2,
    ∀ task ∈ scheduler.tasks, task.scheduleId = scheduleId → task.running = false

/-- A task gives up its place when the execution of its run has ended. -/
def EndsFirst (scheduler : Scheduler) : Event → Prop
  | .finish number => ∀ task ∈ scheduler.tasks[number]?, task.running = false
  | _ => True

instance (scheduler : Scheduler) (event : Event) : Decidable (EndsFirst scheduler event) :=
  match event with
  | .finish number =>
    inferInstanceAs (Decidable (∀ task ∈ scheduler.tasks[number]?, task.running = false))
  | .tick .. | .runNow .. | .runNowAndWait .. | .takeUp .. | .settle .. | .attemptEnds ..
  | .delayElapses .. => .isTrue trivial

/-- A run that executes holds its place in the queue. -/
def Contained (scheduler : Scheduler) : Prop :=
  ∀ task ∈ scheduler.tasks, task.running = true → task.queued = true

lemma Contained.replace (contained : Contained scheduler) (changed : ScheduledTask)
    (holds : changed.running = true → changed.queued = true) :
    Contained ⟨queues, scheduler.tasks.set number changed⟩ := by
  intro task member running
  rcases mem_or_eq_of_mem_set member with old | rfl
  · exact contained task old running
  · exact holds running

lemma Contained.change {after : Scheduler} (contained : Contained scheduler)
    (change : Change (fun task => task.running = false) scheduler after) : Contained after := by
  cases change with
  | stays => exact contained
  | enqueue scheduleId trigger =>
    intro task member running
    rcases mem_append.mp member with old | new
    · exact contained task old running
    · rw [mem_singleton.mp new]
      exact ScheduledTask.queued_of_waiting rfl
  | taken number task run found waiting turn =>
    exact contained.replace { task with stage := .taken, run := run }
      fun _ => ScheduledTask.queued_of_taken rfl
  | released number task found taken permits entry =>
    exact contained.replace { task with stage := .released }
      fun running => nomatch permits.symm.trans running
  | emptied number task found taken permits entry =>
    exact contained.replace { task with stage := .released }
      fun running => nomatch permits.symm.trans running
  | settled number task found released =>
    refine contained.replace { task with stage := .settled } fun running => ?_
    have queued := contained task (mem_of_getElem? found) running
    simp only [ScheduledTask.queued, released] at queued
    cases queued
  | proceeds number task run run' found executes unended =>
    refine contained.replace { task with run := some run' }
      fun _ => contained task (mem_of_getElem? found) ?_
    simp only [ScheduledTask.running, executes]
    exact decide_eq_true unended

lemma contained_run (cron : Cron) (events : List Event)
    (along : Machine.Along (next cron) EndsFirst idle events) :
    Contained (run cron idle events) := by
  have keep scheduler event (contained : Contained scheduler)
      (first : EndsFirst scheduler event) : Contained (next cron scheduler event).1 := by
    refine next_keeps (fun _ _ contained change => Contained.change contained change) contained
      event fun number same task found => ?_
    subst same
    exact first task found
  have start : Contained idle := fun task member => nomatch member
  exact Machine.run_invariant_along keep start along

lemma Sound.serial (sound : Sound scheduler) (contained : Contained scheduler) :
    Serial scheduler := by
  have apart {first second : Nat} {task later : ScheduledTask}
      (found : scheduler.tasks[first]? = some task)
      (found' : scheduler.tasks[second]? = some later) (same : task.scheduleId = later.scheduleId)
      (running : task.running = true) (running' : later.running = true) : ¬first < second := by
    intro less
    have past : later.stage ≠ .waiting := by
      intro waiting
      simp only [ScheduledTask.running, sound.fresh second later found' waiting] at running'
      cases running'
    have queued := contained task (mem_of_getElem? found) running
    rw [sound.unqueued_before less found found' same past] at queued
    cases queued
  intro first second task other found found' same running running'
  have below := apart found found' same running running'
  have above := apart found' found same.symm running' running
  omega

lemma Sound.inOrder (sound : Sound scheduler) : InOrder scheduler := by
  intro first second task later less found found' same past waiting
  have queued := queued_of_waiting waiting
  rw [sound.unqueued_before less found found' same past] at queued
  cases queued

lemma Sound.exact (sound : Sound scheduler) (contained : Contained scheduler) :
    Exact scheduler := by
  intro scheduleId
  rw [sound.has_iff]
  constructor
  · rintro ⟨task, member, own, queued⟩
    exact ⟨task, member, own, .inl queued⟩
  · rintro ⟨task, member, own, queued | running⟩
    · exact ⟨task, member, own, queued⟩
    · exact ⟨task, member, own, contained task member running⟩

lemma has_enqueue {requested trigger : String}
    (idle : (scheduler.enqueueScheduleExecution requested trigger).hasScheduleExecutionQueue
      scheduleId = false) :
    scheduler.hasScheduleExecutionQueue scheduleId = false := by
  unfold hasScheduleExecutionQueue enqueueScheduleExecution at idle
  rw [SortedMap.get?_insert] at idle
  split_ifs at idle with own
  · cases idle
  · exact idle

lemma idle_of_mem_tick {nowMs : Int} {schedules : List ScheduleTickSource}
    (member : scheduleId ∈ (tick cron nowMs schedules scheduler).2) :
    scheduler.hasScheduleExecutionQueue scheduleId = false := by
  induction schedules generalizing scheduler with
  | nil => cases member
  | cons schedule rest ih =>
    unfold tick at member
    split at member
    · exact ih member
    · rename_i dueAtMs trigger directive
      rcases mem_cons.mp member with rfl | later
      · rw [eq_false_iff]
        intro active
        rw [active] at directive
        exact resolve_queueActive cron schedule nowMs dueAtMs trigger directive
      · exact has_enqueue (ih later)

lemma Sound.ticksApart (sound : Sound scheduler) (contained : Contained scheduler)
    (cron : Cron) : TicksApart cron scheduler := by
  intro nowMs schedules scheduleId started task member own
  rw [eq_false_iff]
  intro running
  have active := (sound.has_iff scheduleId).mpr ⟨task, member, own, contained task member running⟩
  rw [idle_of_mem_tick started] at active
  cases active

/-- Where every execution ends before its task gives up its place, the runs of a
schedule exclude each other, they start in the order of requests, and its queue
tells whether there is one. -/
theorem schedule_runs_serial (cron : Cron) (events : List Event)
    (along : Machine.Along (next cron) EndsFirst idle events) :
    Serial (run cron idle events) ∧ InOrder (run cron idle events) ∧
      Exact (run cron idle events) ∧ TicksApart cron (run cron idle events) := by
  have sound := sound_run cron events
  have contained := contained_run cron events along
  exact ⟨sound.serial contained, sound.inOrder, sound.exact contained,
    sound.ticksApart contained cron⟩

/-- A crontab on which every schedule is due. -/
def alwaysDue : Cron where
  isValidCron _ := true
  getNextRun _ base _ := some base
  toISOString _ := ""

/-- A run that ends in the first attempt before its task gives up its place, and
another after it. -/
def quickRuns : List Event :=
  [.runNow "s" "manual" true, .runNowAndWait "s" "manual" true, .takeUp 0 true true none,
    .attemptEnds 0 (some ⟨true, none, none, none⟩), .finish 0, .settle 0, .takeUp 1 true true none]

theorem schedule_runs_serial_quick :
    Serial (run alwaysDue idle quickRuns) ∧ InOrder (run alwaysDue idle quickRuns) ∧
      Exact (run alwaysDue idle quickRuns) ∧ TicksApart alwaysDue (run alwaysDue idle quickRuns) :=
  schedule_runs_serial alwaysDue quickRuns (by decide +kernel)

def dueSchedule : ScheduleTickSource := ⟨"s", true, "internal", "* * * * *", none, some 0, none⟩

/-- A run that still executes when its task has given up its place. -/
def longRun : List Event := [.runNow "s" "manual" true, .takeUp 0 true true none, .finish 0]

/-- While a long run executes its queue is idle, a tick requests another run, and
the two execute at once. -/
theorem long_run_overlaps :
    ¬Exact (run alwaysDue idle longRun) ∧ ¬TicksApart alwaysDue (run alwaysDue idle longRun) ∧
      ¬Serial (run alwaysDue idle
        (longRun ++ [.settle 0, .tick 60000 [dueSchedule], .takeUp 1 true true none])) := by
  refine ⟨fun exact => ?_, fun apart => ?_, fun serial => ?_⟩
  · have active := (exact "s").mpr ⟨⟨"s", "manual", none, .released, some (.start none)⟩,
      by decide +kernel, rfl, .inr (by decide +kernel)⟩
    exact absurd active (by decide +kernel)
  · have ended := apart 60000 [dueSchedule] "s" (by decide +kernel)
      ⟨"s", "manual", none, .released, some (.start none)⟩ (by decide +kernel) rfl
    exact absurd ended (by decide +kernel)
  · have same := serial 0 1 ⟨"s", "manual", none, .settled, some (.start none)⟩
      ⟨"s", "scheduler tick (due: )", none, .taken, some (.start none)⟩ (by decide +kernel)
      (by decide +kernel) rfl (by decide +kernel) (by decide +kernel)
    exact absurd same (by decide)

end Scheduler

end Knowbee
