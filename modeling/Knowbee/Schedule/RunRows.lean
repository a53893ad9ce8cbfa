import Knowbee.Schedule.Queueing

/-!
# The rows of schedule runs

`executeQueuedRun` of `scheduler/index.ts` after its insert, and the startup recovery
of `db/index.ts`.  Nothing in the function handles an attempt that rejects.
-/

namespace Knowbee

open List

structure DbScheduleRun where
  id : String
  startedAt : Int
  finishedAt : Option Int
  success : Option Bool

def DbScheduleRun.isUnfinished (row : DbScheduleRun) : Bool :=
  row.finishedAt.isNone || row.success.isNone

inductive ScheduleRunEvent where
  | start
  | complete (success : Bool)
  | failed (attempts : Nat)

/-- An execution, its row, what it has emitted and how its attempts ended. -/
structure RunExecution where
  run : ScheduleRun
  row : DbScheduleRun
  events : List ScheduleRunEvent
  attempts : List (Option ScheduledExecutionResult)

namespace RunExecution

def start (maxRetries : Option JsNumber) (id : String) (startedAt : Int) : RunExecution :=
  ⟨.start maxRetries, ⟨id, startedAt, none, none⟩, [.start], []⟩

/-- What follows the loop of attempts. -/
def complete (execution : RunExecution) (success : Bool) (finishedAt : Int) : RunExecution :=
  { execution with
    row := { execution.row with finishedAt := some finishedAt, success := some success }
    events := execution.events ++ .complete success ::
      if success then [] else [.failed execution.run.attempt] }

/-- The loop, by the ends of its attempts and the time that is read then.  It waits
for another one, or for the delay before it, where the list ends. -/
def executeQueuedRun (execution : RunExecution) :
    List (Option ScheduledExecutionResult × Int) → RunExecution
  | [] => execution
  | (outcome, now) :: rest =>
    let ended := { execution with
      run := execution.run.attemptEnds outcome
      attempts := execution.attempts ++ [outcome] }
    match outcome with
    | none => ended
    | some result =>
      if ended.run.phase = .ended then ended.complete result.success now
      else { ended with run := { ended.run with phase := .executing } }.executeQueuedRun rest

end RunExecution

/-- `schedule_runs` with its primary key. -/
structure ScheduleRuns where
  rows : List DbScheduleRun
  ids : (rows.map (·.id)).Nodup

def listUnfinishedScheduleRuns (rows : List DbScheduleRun) (limit : Nat) : List DbScheduleRun :=
  ((rows.filter (·.isUnfinished)).mergeSort fun first second =>
    second.startedAt ≤ first.startedAt).take (max 1 (min 1000 limit))

/-- The recovery gives no limit. -/
def interruptUnfinishedScheduleRunsOnStartup (rows : List DbScheduleRun) (finishedAt : Int) :
    List DbScheduleRun :=
  let listed := (listUnfinishedScheduleRuns rows 200).map (·.id)
  rows.map fun row =>
    if row.id ∈ listed ∧ row.isUnfinished then
      { row with finishedAt := some finishedAt, success := some false }
    else row

/-- A result after which the loop goes on. -/
def ScheduledExecutionResult.isRetried (result : ScheduledExecutionResult) : Bool :=
  !result.success && !(result.executionSuccess = some true && result.deliverySuccess = some false) &&
    result.retryable ≠ some false

/-- Of the attempts that are made, with so many retries left, one rejects. -/
def AttemptRejects : List (Option ScheduledExecutionResult) → Nat → Prop
  | [], _ => False
  | none :: _, _ => True
  | some _ :: _, 0 => False
  | some result :: rest, left + 1 => result.isRetried = true ∧ AttemptRejects rest left

/-- What a run leaves once it has no pending work. -/
structure Finalised (maxRetries : Nat) (execution : RunExecution) : Prop where
  finished : execution.row.finishedAt.isSome = true
  success : ∃ result, execution.attempts.getLast? = some (some result) ∧
    execution.row.success = some result.success
  completed : execution.events.countP (· matches .complete _) = 1
  bounded : execution.attempts.length ≤ maxRetries + 1
  retried : ∀ outcome ∈ execution.attempts.dropLast, ∃ result, outcome = some result ∧
    result.isRetried = true

lemma ScheduleRun.attemptEnds_cases (run : ScheduleRun) (result : ScheduledExecutionResult) :
    (result.isRetried = true ∧ run.attempt < run.maxRetries ∧ run.attemptEnds (some result) =
        { run with attempt := run.attempt + 1, phase := .delaying }) ∨
      ¬(result.isRetried = true ∧ run.attempt < run.maxRetries) ∧
        (run.attemptEnds (some result)).phase = .ended := by
  unfold attemptEnds ScheduledExecutionResult.isRetried
  dsimp only
  split_ifs <;> grind

lemma executeQueuedRun_iff {execution : RunExecution} {front : List ScheduledExecutionResult}
    {left : Nat} (ends : List (Option ScheduledExecutionResult × Int))
    (run : execution.run = ⟨front.length + left, front.length, .executing⟩)
    (attempts : execution.attempts = front.map some)
    (retried : ∀ result ∈ front, result.isRetried = true) (events : execution.events = [.start])
    (unfinished : execution.row.finishedAt = none) :
    ((execution.executeQueuedRun ends).run.phase = .ended →
        Finalised (front.length + left) (execution.executeQueuedRun ends)) ↔
      ¬AttemptRejects (ends.map (·.1)) left := by
  induction ends generalizing front left execution with
  | nil =>
    refine iff_of_true (fun ended => ?_) nofun
    rw [RunExecution.executeQueuedRun, run] at ended
    cases ended
  | cons ended ends ih =>
    obtain ⟨outcome, now⟩ := ended
    cases outcome with
    | none =>
      refine iff_of_false (fun finalised => ?_) (not_not.mpr trivial)
      exact absurd (unfinished ▸ (finalised rfl).finished) nofun
    | some result =>
      unfold RunExecution.executeQueuedRun
      dsimp only
      rcases execution.run.attemptEnds_cases result with ⟨again, more, same⟩ | ⟨last, ended⟩
      · rw [run] at more
        obtain _ | left := left
        · exact absurd more (Nat.lt_irrefl _)
        have length : front.length + (left + 1) = (front ++ [result]).length + left := by
          rw [length_append, length_singleton]
          omega
        rw [same, if_neg nofun, length, map_cons, AttemptRejects, and_iff_right again]
        refine ih ?_ ?_ ?_ events unfinished
        · rw [run, ← length, length_append]
          rfl
        · rw [attempts, map_append]
          rfl
        · exact forall_mem_append.mpr ⟨retried, forall_mem_singleton.mpr again⟩
      · rw [if_pos ended]
        refine iff_of_true (fun _ => ⟨rfl, ⟨result, getLast?_concat, rfl⟩, ?_, ?_, ?_⟩)
          fun rejects => ?_
        · simp only [RunExecution.complete, events]
          cases result.success <;> rfl
        · simp [RunExecution.complete, attempts]
        · simpa [RunExecution.complete, attempts] using retried
        · obtain _ | left := left
          · exact rejects
          · refine last ⟨rejects.1, ?_⟩
            rw [run]
            exact Nat.lt_add_of_pos_right left.succ_pos

/-- The recovery closes all rows as long as its query lists them. -/
lemma interrupted_iff (runs : ScheduleRuns) (now : Int) :
    (∀ row ∈ interruptUnfinishedScheduleRunsOnStartup runs.rows now, row.isUnfinished = false) ↔
      (runs.rows.filter (·.isUnfinished)).length ≤ 200 := by
  unfold interruptUnfinishedScheduleRunsOnStartup
  rw [forall_mem_map]
  constructor
  · intro closed
    have all : (runs.rows.filter (·.isUnfinished)).map (·.id) ⊆
        (listUnfinishedScheduleRuns runs.rows 200).map (·.id) := by
      intro id member
      obtain ⟨row, found, rfl⟩ := mem_map.mp member
      obtain ⟨held, unfinished⟩ := mem_filter.mp found
      by_contra unlisted
      have still := closed row held
      rw [if_neg fun listed => unlisted listed.1, unfinished] at still
      cases still
    have fits := Nodup.length_le_of_subset (runs.ids.sublist (filter_sublist.map _)) all
    rw [length_map, length_map] at fits
    exact fits.trans (length_take_le _ _)
  · intro few row held
    split_ifs with listed
    · rfl
    · refine Bool.eq_false_iff.mpr fun unfinished => listed ⟨mem_map_of_mem ?_, unfinished⟩
      unfold listUnfinishedScheduleRuns
      rw [take_of_length_le]
      · exact mem_mergeSort.mpr (mem_filter.mpr ⟨held, unfinished⟩)
      · rwa [length_mergeSort]

/-- **The rows of schedule runs are closed** as long as no attempt rejects and no startup
finds more open rows than its query lists. -/
theorem runs_closed_iff (maxRetries : Option JsNumber) (id : String) (startedAt now : Int)
    (ends : List (Option ScheduledExecutionResult × Int)) (runs : ScheduleRuns) :
    let execution := (RunExecution.start maxRetries id startedAt).executeQueuedRun ends
    ((execution.run.phase = .ended →
        Finalised (normalizeScheduleMaxRetries maxRetries) execution) ∧
      ∀ row ∈ interruptUnfinishedScheduleRunsOnStartup runs.rows now,
        row.isUnfinished = false) ↔
    ¬AttemptRejects (ends.map (·.1)) (normalizeScheduleMaxRetries maxRetries) ∧
      (runs.rows.filter (·.isUnfinished)).length ≤ 200 := by
  refine and_congr ?_ (interrupted_iff runs now)
  have closed := @executeQueuedRun_iff (.start maxRetries id startedAt) []
    (normalizeScheduleMaxRetries maxRetries) ends (by rw [length_nil, Nat.zero_add]; rfl) rfl nofun
    rfl rfl
  rwa [length_nil, Nat.zero_add] at closed

/-- The row of a run whose first attempt rejects stays open. -/
theorem rejected_run_stays_open :
    ¬∀ maxRetries id startedAt ends,
      let execution := (RunExecution.start maxRetries id startedAt).executeQueuedRun ends
      execution.run.phase = .ended → execution.row.finishedAt.isSome = true := by
  intro closed
  exact absurd (closed none "run" 0 [(none, 1)] rfl) (by decide)

end Knowbee
