import Knowbee.Schedule.CronLeast
import Knowbee.Schedule.CrontabEdits
import Knowbee.Schedule.SystemDriver

/-!
# One driver for each schedule

An edit of the crontab decides for its own schedule alone whether a line runs it, so
a reconciliation keeps the drivers of the others and sets its own to what it did.
-/

namespace Knowbee

open Lib Crontab List DriverState Machine

/-! ## Commands in an edited crontab -/

namespace Crontab

variable {scheduleId : Text}

lemma runs_written (single : '\n' ∉ scheduleId) (edited : List Text) :
    (∃ line ∈ lines (some (crontabContent edited)), runs scheduleId line = true) ↔
      ∃ line ∈ edited, runs scheduleId line = true := by
  have counted (found : List Text) : 0 < (found.map (occurrences (runText scheduleId))).sum ↔
      ∃ line ∈ found, runs scheduleId line = true := by
    rw [Nat.pos_iff_ne_zero, ne_eq, sum_eq_zero_iff, forall_mem_map]
    push Not
    refine exists_congr fun line => and_congr_right fun _ => ?_
    rw [← Nat.pos_iff_ne_zero, occurrences_pos_iff (runText_ne_nil scheduleId)]
    exact decide_eq_true_iff.symm
  rw [crontabContent_eq, lines_ended, ← counted, ← counted,
    sum_occurrences_written (runText_ne_nil scheduleId) (nl_notMem_runText single) runText_head
      runText_last]

lemma not_runs_empty (scheduleId : Text) : runs scheduleId [] = false := by
  refine decide_eq_false ?_
  rw [infix_nil]
  exact runText_ne_nil scheduleId

lemma othersFrom_sublist (afterMarker : Bool) (lines : List Text) :
    (othersFrom scheduleId afterMarker lines).Sublist lines := by
  induction lines generalizing afterMarker with
  | nil => exact List.Sublist.slnil
  | cons line rest ih =>
    rw [othersFrom]
    split_ifs
    · exact (ih true).cons line
    · exact (ih false).cons line
    · exact (ih false).cons_cons line

lemma mem_othersFrom {afterMarker : Bool} {lines : List Text} {line : Text} (mem : line ∈ lines)
    (unmarked : isMarker scheduleId line = false) (other : runs scheduleId line = false) :
    line ∈ othersFrom scheduleId afterMarker lines := by
  induction lines generalizing afterMarker with
  | nil => cases mem
  | cons first rest ih =>
    rw [othersFrom]
    rcases mem_cons.mp mem with rfl | later
    · rw [unmarked, other, Bool.and_false, if_neg Bool.false_ne_true, if_neg Bool.false_ne_true]
      exact mem_cons_self
    · split_ifs
      · exact ih later
      · exact ih later
      · exact mem_cons_of_mem _ (ih later)

lemma exists_runs_stripped {crontab : Option Text}
    (tidy : TidyFrom scheduleId false false (lines crontab)) (id : Text) :
    (∃ line ∈ stripManagedEntry (readCurrentCrontab crontab) scheduleId, runs id line = true) ↔
      ∃ line ∈ others scheduleId crontab, runs id line = true := by
  rw [stripManagedEntry_eq, (stripFrom_of_tidyFrom tidy).1]
  change (∃ line ∈ others scheduleId crontab ++ trailing scheduleId crontab, _) ↔ _
  constructor
  · rintro ⟨line, mem, run⟩
    rcases mem_append.mp mem with old | last
    · exact ⟨line, old, run⟩
    · rcases trailing_cases scheduleId crontab with none_ | one
      · rw [none_] at last
        cases last
      · rw [one] at last
        cases mem_singleton.mp last
        rw [not_runs_empty] at run
        cases run
  · exact fun ⟨line, mem, run⟩ => ⟨line, mem_append_left _ mem, run⟩

lemma runs_commandLine (paths : CommandPaths) (schedule : DbSchedule) :
    runs schedule.id (commandLine paths schedule) = true := by
  refine decide_eq_true ⟨schedule.cronExpression ++ ' ' :: [' '].intercalate
    ["KNOWBEE_STATE_DIR=".toList ++ shellQuote paths.stateDir, shellQuote paths.nodePath,
      shellQuote paths.cliPath, []], ' ' :: (">> ".toList ++ shellQuote paths.logsFile ++
        " 2>&1".toList), ?_⟩
  have words : "schedule run ".toList = "schedule".toList ++ ' ' :: ("run".toList ++ [' ']) := rfl
  unfold commandLine commandText runText
  rw [words]
  simp

end Crontab

/-! ## Edits -/

section

variable {ids : List String} {schedule : DbSchedule} {crontab : Option Text} {id : String}

lemma EditFits.others_iff (fits : EditFits ids schedule crontab) (mem : id ∈ ids)
    (other : id.toList ≠ schedule.id) :
    (∃ line ∈ others schedule.id crontab, runs id.toList line = true) ↔
      ∃ line ∈ lines crontab, runs id.toList line = true := by
  constructor
  · exact fun ⟨line, mem, run⟩ => ⟨line, (othersFrom_sublist false _).subset mem, run⟩
  · rintro ⟨line, mem', run⟩
    have apart : ¬(isMarker schedule.id line = true ∨ runs schedule.id line = true) := by
      intro own
      rw [fits.apart id mem other line mem' own] at run
      cases run
    rw [not_or, Bool.not_eq_true, Bool.not_eq_true] at apart
    exact ⟨line, mem_othersFrom mem' apart.1 apart.2, run⟩

lemma EditFits.removed (fits : EditFits ids schedule crontab) (mem : id ∈ ids)
    (single : '\n' ∉ id.toList) :
    (∃ line ∈ lines (some (removeEntry schedule.id crontab)), runs id.toList line = true) ↔
      id.toList ≠ schedule.id ∧ ∃ line ∈ lines crontab, runs id.toList line = true := by
  unfold removeEntry
  rw [runs_written single, exists_runs_stripped fits.tidy]
  by_cases other : id.toList = schedule.id
  · constructor
    · rintro ⟨line, mem', run⟩
      rw [other, fits.own line mem'] at run
      cases run
    · exact fun ⟨apart, _⟩ => absurd other apart
  · rw [fits.others_iff mem other]
    exact (and_iff_right other).symm

lemma EditFits.added (fits : EditFits ids schedule crontab) (paths : CommandPaths)
    (mem : id ∈ ids) (single : '\n' ∉ id.toList)
    (apart : id.toList ≠ schedule.id → ∀ line ∈ buildManagedSystemCronEntry paths schedule, runs
      id.toList line = false) :
    (∃ line ∈ lines (some (addEntry paths schedule crontab)), runs id.toList line = true) ↔
      id.toList = schedule.id ∨ ∃ line ∈ lines crontab, runs id.toList line = true := by
  unfold addEntry
  rw [runs_written single]
  by_cases other : id.toList = schedule.id
  · refine ⟨fun _ => .inl other, fun _ => ⟨commandLine paths schedule, ?_, ?_⟩⟩
    · exact mem_append_right _ (mem_cons_of_mem _ mem_cons_self)
    · rw [other]
      exact runs_commandLine paths schedule
  · rw [or_iff_right other, ← fits.others_iff mem other, ← exists_runs_stripped fits.tidy]
    constructor
    · rintro ⟨line, mem', run⟩
      rcases mem_append.mp mem' with old | new
      · exact ⟨line, old, run⟩
      · rw [apart other line new] at run
        cases run
    · exact fun ⟨line, mem', run⟩ => ⟨line, mem_append_left _ mem', run⟩

end

/-! ## Removals -/

namespace SystemSchedulers

variable {os : SystemSchedulers} {ids : List String} {calls : SystemCalls}

lemma registered_windows (windows : os.windows = true) (id : String) :
    os.registered id ↔ id ∈ os.tasks := by
  unfold registered
  rw [windows]
  simp

lemma registered_unix (unix : os.windows = false) (id : String) :
    os.registered id ↔ ∃ line ∈ lines os.crontab, runs id.toList line = true := by
  unfold registered
  rw [unix]
  simp

/-- What a step leaves of the system's schedulers: the platform, and what is registered of
other schedules. -/
structure Leaves (ids : List String) (scheduleId : String) (os after : SystemSchedulers) : Prop where
  windows : after.windows = os.windows
  others : ∀ id ∈ ids, id ≠ scheduleId → (after.registered id ↔ os.registered id)

lemma Leaves.refl (ids : List String) (scheduleId : String) (os : SystemSchedulers) :
    Leaves ids scheduleId os os := ⟨rfl, fun _ _ _ => Iff.rfl⟩

def afterRemoval (os : SystemSchedulers) (calls : SystemCalls) (scheduleId : String) :
    SystemSchedulers := (os.removeManagedScheduleExecution calls scheduleId).getD os

lemma afterRemoval_windows (windows : os.windows = true) (scheduleId : String) :
    os.afterRemoval calls scheduleId =
      if os.removes calls then { os with tasks := os.tasks.filter (· ≠ scheduleId) } else os := by
  unfold afterRemoval removeManagedScheduleExecution removes deleteTask
  rw [windows, if_pos rfl, if_pos rfl]
  cases os.supportsWindowsTaskScheduler calls
  · rfl
  · cases calls.delete <;> rfl

lemma afterRemoval_unix (unix : os.windows = false) (scheduleId : String) :
    os.afterRemoval calls scheduleId =
      if os.removes calls then { os with crontab := some (removeEntry scheduleId.toList os.crontab) }
      else os := by
  unfold afterRemoval removeManagedScheduleExecution removes removeSystemCronSchedule
  rw [unix, if_neg Bool.false_ne_true, if_neg Bool.false_ne_true]
  cases os.supportsSystemCrontab calls
  · rfl
  · cases calls.read
    · rfl
    · cases calls.write <;> rfl

lemma write_of_removes (unix : os.windows = false) (removed : os.removes calls = true) :
    calls.write = true := by
  unfold removes at removed
  rw [unix, if_neg Bool.false_ne_true, Bool.and_eq_true] at removed
  exact removed.2

/-- **A removal** leaves others as they are, and its own schedule registered exactly if its
calls do not suffice. -/
lemma afterRemoval_spec {schedule : Crontab.DbSchedule} {scheduleId : String}
    (own : schedule.id = scheduleId.toList) (known : scheduleId ∈ ids)
    (single : ∀ id ∈ ids, '\n' ∉ id.toList)
    (fits : os.windows = false → calls.write = true → EditFits ids schedule os.crontab) :
    Leaves ids scheduleId os (os.afterRemoval calls scheduleId) ∧
      ((os.afterRemoval calls scheduleId).registered scheduleId ↔
        os.registered scheduleId ∧ os.removes calls = false) := by
  cases platform : os.windows with
  | true =>
    rw [afterRemoval_windows platform]
    split_ifs with removed
    · have windows : ({ os with tasks := os.tasks.filter (· ≠ scheduleId) } :
        SystemSchedulers).windows = true := platform
      refine ⟨⟨rfl, fun id _ other => ?_⟩, ?_⟩
      · rw [registered_windows windows, registered_windows platform, mem_filter]
        exact and_iff_left (decide_eq_true other)
      · rw [registered_windows windows, mem_filter, removed]
        simp
    · rw [Bool.not_eq_true] at removed
      exact ⟨.refl ids scheduleId os, by rw [removed]; exact (and_iff_left rfl).symm⟩
  | false =>
    rw [afterRemoval_unix platform]
    split_ifs with removed
    · have unix : ({ os with crontab := some (removeEntry scheduleId.toList os.crontab) } :
        SystemSchedulers).windows = false := platform
      have edit := fits platform (write_of_removes platform removed)
      refine ⟨⟨rfl, fun id mem other => ?_⟩, ?_⟩
      · rw [registered_unix unix, registered_unix platform, ← own,
          edit.removed mem (single id mem), own]
        exact and_iff_right fun same => other (String.toList_inj.mp same)
      · have gone := edit.removed known (single scheduleId known)
        rw [own] at gone
        rw [registered_unix unix, removed]
        exact ⟨fun run => absurd rfl (gone.mp run).1, fun both => Bool.noConfusion both.2⟩
    · rw [Bool.not_eq_true] at removed
      exact ⟨.refl ids scheduleId os, by rw [removed]; exact (and_iff_left rfl).symm⟩

/-! ## Reconciliations -/

variable {setting : DriverSetting} {schedule : ScheduleTickSource} {reconciled : ReconcileCalls}

/-- What a reconciliation does: others stay as they are, and an enabled schedule is registered
exactly if its driver is the crontab. -/
structure Settles (ids : List String) (schedule : ScheduleTickSource) (os : SystemSchedulers)
    (driver : ScheduleExecutionDriver) (after : SystemSchedulers) : Prop where
  leaves : Leaves ids schedule.id os after
  own : schedule.enabled = true → (after.registered schedule.id ↔ driver = .systemCrontab)

lemma edits_of_write (fits : ReconcileFits setting os ids schedule reconciled)
    {write : Bool} (among : write = true →
      (reconciled.main.write || reconciled.removal.write || reconciled.cleanup.write) = true) :
    os.windows = false → write = true → EditFits ids schedule.entry os.crontab :=
  fun unix written => (fits.edits unix (among written)).1

lemma settles_internal (fits : ReconcileFits setting os ids schedule reconciled)
    (known : schedule.id ∈ ids) (among : calls.write = true →
      (reconciled.main.write || reconciled.removal.write || reconciled.cleanup.write) = true)
    (cleaned : schedule.enabled = true → os.registered schedule.id → os.removes calls = true) :
    Settles ids schedule os .internal (os.afterRemoval calls schedule.id) := by
  obtain ⟨leaves, own⟩ := @afterRemoval_spec os ids calls schedule.entry schedule.id rfl known
    fits.single (edits_of_write fits among)
  refine ⟨leaves, fun enabled => ⟨fun registered => ?_, fun driver => by cases driver⟩⟩
  obtain ⟨before, kept⟩ := own.mp registered
  rw [cleaned enabled before] at kept
  cases kept

lemma removal_write {calls : ReconcileCalls} (written : calls.removal.write = true) :
    (calls.main.write || calls.removal.write || calls.cleanup.write) = true := by
  rw [written, Bool.or_true, Bool.true_or]

lemma cleanup_write {calls : ReconcileCalls} (written : calls.cleanup.write = true) :
    (calls.main.write || calls.removal.write || calls.cleanup.write) = true := by
  rw [written, Bool.or_true]

lemma settles_thrown (fits : ReconcileFits setting os ids schedule reconciled)
    (known : schedule.id ∈ ids)
    (thrown : os.reconcileSystemCronSchedule setting reconciled schedule = (none, os))
    (cleaned : schedule.enabled = true → os.registered schedule.id →
      os.removes reconciled.cleanup = true) :
    Settles ids schedule os (os.reconcileScheduleExecution setting reconciled schedule).1.driver
      (os.reconcileScheduleExecution setting reconciled schedule).2 := by
  unfold reconcileScheduleExecution
  rw [thrown]
  exact settles_internal fits known cleanup_write cleaned

lemma settles_of_result {driver : ScheduleExecutionDriver} {after : SystemSchedulers}
    (reason : Option String) (settles : Settles ids schedule os driver after)
    (answered : os.reconcileSystemCronSchedule setting reconciled schedule =
      (some ⟨driver, reason⟩, after)) :
    Settles ids schedule os (os.reconcileScheduleExecution setting reconciled schedule).1.driver
      (os.reconcileScheduleExecution setting reconciled schedule).2 := by
  unfold reconcileScheduleExecution
  rw [answered]
  exact settles

lemma settles_windows (windows : os.windows = true)
    (fits : ReconcileFits setting os ids schedule reconciled) (known : schedule.id ∈ ids) :
    Settles ids schedule os (os.reconcileScheduleExecution setting reconciled schedule).1.driver
      (os.reconcileScheduleExecution setting reconciled schedule).2 := by
  have removed cleaned :=
    settles_internal fits known removal_write cleaned
  cases supported : os.supportsWindowsTaskScheduler reconciled.main with
  | false =>
    refine settles_of_result
      (some "Windows 작업 스케줄러를 사용할 수 없어 내부 scheduler로 유지합니다.")
      (removed fun enabled registered => fits.unsupported enabled registered
        (by rw [if_pos windows]; exact .inl supported)) ?_
    unfold reconcileSystemCronSchedule upsertWindowsScheduledTask
    rw [windows, if_pos rfl, supported]
    rfl
  | true =>
    cases enabled : schedule.enabled with
    | false =>
      have settles : Settles ids schedule os .systemSchtasks
          (os.deleteTask reconciled.main schedule.id) := by
        refine ⟨?_, fun own => ?_⟩
        · unfold deleteTask
          split_ifs
          · have windows' : ({ os with tasks := os.tasks.filter (· ≠ schedule.id) } :
              SystemSchedulers).windows = true := windows
            refine ⟨rfl, fun id _ other => ?_⟩
            rw [registered_windows windows, registered_windows windows', mem_filter]
            exact and_iff_left (decide_eq_true other)
          · exact .refl ids schedule.id os
        · rw [enabled] at own
          cases own
      refine settles_of_result none settles ?_
      unfold reconcileSystemCronSchedule upsertWindowsScheduledTask
      rw [windows, if_pos rfl, supported, enabled]
      rfl
    | true =>
      cases args : tryBuildWindowsTaskScheduleArgs setting.cron setting.paths schedule with
      | none =>
        refine settles_of_result
          (some "현재 cron 표현식을 Windows 작업 스케줄러로 변환할 수 없어 내부 scheduler로 유지합니다.")
          (removed fun enabled registered => fits.unsupported enabled registered
            (by rw [if_pos windows]; exact .inr args)) ?_
        unfold reconcileSystemCronSchedule upsertWindowsScheduledTask
        rw [windows, if_pos rfl, supported, enabled, args]
        rfl
      | some words =>
        have some_ : tryBuildWindowsTaskScheduleArgs setting.cron setting.paths schedule ≠ none := by
          rw [args]
          exact Option.some_ne_none words
        have refused := fits.noTask windows enabled supported some_
        refine settles_thrown fits known ?_ fun enabled registered =>
          fits.failed enabled registered (by rw [if_pos windows]; exact ⟨supported, some_⟩)
        unfold reconcileSystemCronSchedule upsertWindowsScheduledTask
        rw [windows, if_pos rfl, supported, enabled, args, refused]
        rfl

lemma settles_unix (unix : os.windows = false)
    (fits : ReconcileFits setting os ids schedule reconciled) (known : schedule.id ∈ ids) :
    Settles ids schedule os (os.reconcileScheduleExecution setting reconciled schedule).1.driver
      (os.reconcileScheduleExecution setting reconciled schedule).2 := by
  have removal calls : os.afterRemoval calls schedule.id =
      (os.removeSystemCronSchedule calls schedule.id).getD os := by
    unfold afterRemoval removeManagedScheduleExecution
    rw [unix, if_neg Bool.false_ne_true]
  cases supported : os.supportsSystemCrontab reconciled.main with
  | false =>
    refine settles_of_result (some "system crontab을 사용할 수 없어 내부 scheduler로 유지합니다.")
      (settles_internal fits known removal_write fun enabled registered =>
        fits.unsupported enabled registered
          (by rw [unix, if_neg Bool.false_ne_true]; exact supported)) ?_
    unfold reconcileSystemCronSchedule
    rw [unix, if_neg Bool.false_ne_true, supported, removal]
    rfl
  | true =>
    cases enabled : schedule.enabled with
    | false =>
      have never (own : schedule.enabled = true) : False := by
        rw [enabled] at own
        cases own
      cases removed : os.removeSystemCronSchedule reconciled.removal schedule.id with
      | none =>
        refine settles_thrown fits known ?_ fun own => (never own).elim
        unfold reconcileSystemCronSchedule
        rw [unix, if_neg Bool.false_ne_true, supported, enabled, removed]
        rfl
      | some after =>
        have leaves := (@afterRemoval_spec os ids reconciled.removal schedule.entry schedule.id rfl
          known fits.single (edits_of_write fits removal_write)).1
        rw [removal, removed] at leaves
        have settles : Settles ids schedule os .systemCrontab after :=
          ⟨leaves, fun own => (never own).elim⟩
        refine settles_of_result none settles ?_
        unfold reconcileSystemCronSchedule
        rw [unix, if_neg Bool.false_ne_true, supported, enabled, removed]
        rfl
    | true =>
      cases done : reconciled.main.read && reconciled.main.mkdir && reconciled.main.write with
      | false =>
        have failed : (!reconciled.main.read || !reconciled.main.mkdir || !reconciled.main.write) =
            true := by
          rw [← Bool.not_and, ← Bool.not_and, done]
          rfl
        refine settles_thrown fits known ?_ fun own registered => fits.failed own registered
          (by rw [unix, if_neg Bool.false_ne_true]; exact ⟨supported, done⟩)
        unfold reconcileSystemCronSchedule
        rw [unix, if_neg Bool.false_ne_true, supported, enabled, failed]
        rfl
      | true =>
        have written : (!reconciled.main.read || !reconciled.main.mkdir || !reconciled.main.write) =
            false := by
          rw [← Bool.not_and, ← Bool.not_and, done]
          rfl
        have write : reconciled.main.write = true := by
          rw [Bool.and_eq_true] at done
          exact done.2
        obtain ⟨edit, apart⟩ := fits.edits unix (by rw [write, Bool.true_or, Bool.true_or])
        have unix' : ({ os with crontab := some (addEntry setting.paths schedule.entry os.crontab) } :
          SystemSchedulers).windows = false := unix
        have settles : Settles ids schedule os .systemCrontab
            { os with crontab := some (addEntry setting.paths schedule.entry os.crontab) } := by
          have added id mem := edit.added setting.paths mem
            (fits.single id mem) fun other => apart id mem fun same =>
              other (congrArg String.toList same)
          refine ⟨⟨rfl, fun id mem other => ?_⟩, fun _ => ?_⟩
          · rw [registered_unix unix, registered_unix unix', added id mem]
            exact or_iff_right fun same => other (String.toList_inj.mp same)
          · rw [registered_unix unix', added schedule.id known]
            exact ⟨fun _ => rfl, fun _ => .inl rfl⟩
        refine settles_of_result none settles ?_
        unfold reconcileSystemCronSchedule
        rw [unix, if_neg Bool.false_ne_true, supported, enabled, written]
        rfl

/-- **A reconciliation settles its schedule.** -/
lemma settles_reconcile (fits : ReconcileFits setting os ids schedule reconciled)
    (known : schedule.id ∈ ids) :
    Settles ids schedule os (os.reconcileScheduleExecution setting reconciled schedule).1.driver
      (os.reconcileScheduleExecution setting reconciled schedule).2 := by
  cases platform : os.windows with
  | true => exact settles_windows platform fits known
  | false => exact settles_unix platform fits known

end SystemSchedulers

/-! ## Runs -/

section

variable {setting : DriverSetting} {state : DriverState}

lemma driver_text_iff {driver : ScheduleExecutionDriver} :
    driver.text = "system_crontab" ↔ driver = .systemCrontab := by
  cases driver <;> decide

lemma mem_selected_iff {schedule : ScheduleTickSource} (mem : schedule ∈ state.schedules)
    {cron : Cron} {nowMs : Int} {queueActive : String → Bool} :
    schedule.id ∈ state.selected cron nowMs queueActive ↔ ∃ dueAtMs trigger,
      resolveScheduleTickDirective cron schedule nowMs (queueActive schedule.id) =
        .run dueAtMs trigger := by
  unfold selected
  rw [mem_map]
  constructor
  · rintro ⟨other, mem', same⟩
    obtain ⟨mem', selected⟩ := mem_filter.mp mem'
    have own : other = schedule := inj_on_of_nodup_map state.distinct mem' mem same
    subst own
    cases directive : resolveScheduleTickDirective cron other nowMs (queueActive other.id) with
    | skip reason => simp [directive] at selected
    | run dueAtMs trigger => exact ⟨dueAtMs, trigger, rfl⟩
  · rintro ⟨dueAtMs, trigger, directive⟩
    exact ⟨schedule, mem_filter.mpr ⟨mem, by simp [directive]⟩, rfl⟩

/-- **Where the drivers are owned, each schedule has one driver.** -/
lemma Owned.oneDriver (owned : Owned state) (cron : Cron) : OneDriver cron state where
  registered schedule mem registered nowMs queueActive selected := by
    obtain ⟨dueAtMs, trigger, directive⟩ := (mem_selected_iff mem).mp selected
    unfold resolveScheduleTickDirective at directive
    cases enabled : schedule.enabled with
    | false =>
      rw [enabled] at directive
      cases directive
    | true =>
      rw [enabled, (owned schedule mem enabled).mp registered] at directive
      cases directive
  internal schedule mem enabled unregistered nowMs queueActive due idle := by
    refine (mem_selected_iff mem).mpr ?_
    obtain ⟨valid, nextRun, next, past⟩ := due
    have ticks : schedule.executionDriver ≠ "system_crontab" :=
      fun driver => unregistered ((owned schedule mem enabled).mpr driver)
    refine ⟨nextRun, s!"scheduler tick (due: {cron.toISOString nextRun})", ?_⟩
    unfold resolveScheduleTickDirective
    rw [enabled, valid, idle]
    simp only [Bool.not_true, Bool.false_eq_true, if_false, if_neg ticks, next,
      if_neg (not_lt_of_ge past)]

lemma Owned.step (owned : Owned state) {event : DriverEvent}
    (fits : DriverFits setting state event) : Owned (state.step setting event).1 := by
  cases event with
  | tick nowMs queueActive => exact owned
  | ran scheduleId lastRunAt =>
    intro schedule mem enabled
    obtain ⟨before, mem', rfl⟩ := mem_map.mp mem
    have old := owned before mem'
    change state.os.registered _ ↔ _
    split_ifs at enabled ⊢
    · exact old enabled
    · exact old enabled
  | reconcile scheduleId enabled cronExpression calls =>
    unfold DriverState.step
    dsimp only
    cases found : state.schedules.find? (·.id = scheduleId) with
    | none => exact owned
    | some schedule =>
      have same : schedule.id = scheduleId := by simpa using find?_some found
      have known : schedule.id ∈ state.schedules.map (·.id) :=
        mem_map_of_mem (mem_of_find?_eq_some found)
      have settles := SystemSchedulers.settles_reconcile (fits schedule found) known
      intro changed mem ticking
      obtain ⟨before, mem', rfl⟩ := mem_map.mp mem
      by_cases own : before.id = scheduleId
      · rw [if_pos own] at ticking ⊢
        have settled := settles.own ticking
        change SystemSchedulers.registered _ before.id ↔ _ = _
        rw [own, ← same, driver_text_iff]
        exact settled
      · rw [if_neg own] at ticking ⊢
        have kept := settles.leaves.others before.id (mem_map_of_mem mem') (same ▸ own)
        exact kept.trans (owned before mem' ticking)

lemma not_oneDriver {cron : Cron} {scheduleId : String} {nowMs : Int} {queueActive : String → Bool}
    (registered : state.os.registered scheduleId)
    (selected : scheduleId ∈ state.selected cron nowMs queueActive) : ¬OneDriver cron state := by
  intro one
  obtain ⟨schedule, mem, rfl⟩ := mem_map.mp selected
  exact one.registered schedule (mem_filter.mp mem).1 registered nowMs queueActive selected

lemma owned_of_fresh (drivers : ∀ schedule ∈ state.schedules, schedule.executionDriver = "internal")
    (fresh : ∀ schedule ∈ state.schedules, ¬state.os.registered schedule.id) : Owned state := by
  intro schedule mem _
  rw [drivers schedule mem]
  exact ⟨fun registered => absurd registered (fresh schedule mem), fun same => absurd same (by decide)⟩

end

/-- **Each schedule has one driver** in every state of a run whose steps fit, from a state in
which the drivers are owned. -/
theorem one_driver_along (setting : DriverSetting) (state : DriverState) (events : List DriverEvent)
    (start : Owned state)
    (along : Along (step setting) (DriverFits setting) state events) :
    OneDriver setting.cron (run (step setting) state events) := by
  have keep : ∀ state event, Owned state → DriverFits setting state event →
      Owned (step setting state event).1 := fun state event owned fits => owned.step fits
  exact (run_invariant_along keep start along).oneDriver setting.cron

/-! ## Runs that fit, and one that does not -/

def utcCron : Cron where
  isValidCron := isValidCron integerCron
  getNextRun expr base _ := (timeClip base).bind fun from_ =>
    (getNextRun utc integerCron expr from_).toOption.map (·.time)
  toISOString _ := "due"

def sampleSetting : DriverSetting := ⟨utcCron, samplePaths⟩

/-- One schedule, at nine every day, that no scheduler of the system knows. -/
def freshDaily (windows : Bool) : DriverState where
  schedules := [⟨"job", true, "internal", "0 9 * * *", none, some 0, none⟩]
  distinct := by decide
  os := ⟨windows, none, []⟩

def succeeding : SystemCalls := ⟨true, true, true, true, true, true, true⟩

def registerDaily : DriverEvent :=
  .reconcile "job" true "0 9 * * *" ⟨succeeding, succeeding, succeeding⟩

lemma freshDaily_owned (windows : Bool) : Owned (freshDaily windows) := by
  refine owned_of_fresh ?_ ?_
  · rintro schedule mem
    cases mem_singleton.mp mem
    rfl
  · rintro schedule mem
    cases mem_singleton.mp mem
    cases windows <;> decide +kernel

/-- With a crontab, a registered schedule is run by no tick. -/
theorem one_driver_crontab : OneDriver utcCron (run (step sampleSetting)
    (freshDaily false) [registerDaily, .tick 86400000 fun _ => false]) := by
  refine one_driver_along sampleSetting (freshDaily false) _ (freshDaily_owned false)
    ⟨?_, trivial, trivial⟩
  intro schedule found
  cases found
  have fresh : ¬(freshDaily false).os.registered "job" := by decide +kernel
  refine ⟨by decide, nofun, fun _ _ => ⟨⟨rfl, nofun, nofun⟩, ?_⟩,
    fun _ registered => absurd registered fresh, fun _ registered => absurd registered fresh⟩
  intro id mem other
  cases mem_singleton.mp mem
  exact absurd rfl other

/-- With a Windows task, the registered schedule is run by a tick as well. -/
theorem windows_task_runs_twice :
    Owned (freshDaily true) ∧
      (run (step sampleSetting) (freshDaily true) [registerDaily]).os.registered
        "job" ∧
      trace (step sampleSetting) (freshDaily true)
        [registerDaily, .tick 86400000 fun _ => false] = [[], ["job"]] ∧
      ¬OneDriver utcCron
        (run (step sampleSetting) (freshDaily true) [registerDaily]) := by
  have known : (run (step sampleSetting) (freshDaily true)
      [registerDaily]).os.registered "job" := by decide +kernel
  have ticks : "job" ∈ (run (step sampleSetting) (freshDaily true)
      [registerDaily]).selected utcCron 86400000 (fun _ => false) := by decide +kernel
  exact ⟨freshDaily_owned true, known, by decide +kernel, not_oneDriver known ticks⟩

end Knowbee
