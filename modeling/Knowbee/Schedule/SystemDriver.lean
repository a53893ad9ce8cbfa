import Knowbee.Schedule.Cron
import Knowbee.Schedule.Crontab
import Knowbee.Schedule.Queueing

/-!
# Drivers of schedules

`reconcileScheduleExecution` of `packages/core/src/scheduler/system-cron.ts` hands a schedule to
the crontab or to the Windows task scheduler, or leaves it to the ticks of the internal scheduler,
and stores the driver with the schedule.
-/

namespace Knowbee

open Crontab

open Crontab (Text CommandPaths)

inductive ScheduleExecutionDriver where
  | internal | systemCrontab | systemSchtasks
  deriving DecidableEq

/-- The text that the column `execution_driver` has. -/
def ScheduleExecutionDriver.text : ScheduleExecutionDriver → String
  | .internal => "internal"
  | .systemCrontab => "system_crontab"
  | .systemSchtasks => "system_schtasks"

structure DriverResult where
  driver : ScheduleExecutionDriver
  reason : Option String

/-- The schedulers of the operating system: the crontab, and the tasks by the ids that
their names end in. -/
structure SystemSchedulers where
  windows : Bool
  crontab : Option Text
  tasks : List String

/-- What the calls of one attempt do: whether the file of the command exists, the probe
answers, the crontab is read, the directory of the logs is made, the crontab is written,
and a task is created or deleted. -/
structure SystemCalls where
  (cliExists probe read mkdir write create delete : Bool)

namespace SystemSchedulers

variable (os : SystemSchedulers)

variable (calls : SystemCalls)

def supportsSystemCrontab : Bool := calls.cliExists && !os.windows && calls.probe

def supportsWindowsTaskScheduler : Bool := calls.cliExists && os.windows && calls.probe

/-- `removeSystemCronSchedule`; nothing when it throws. -/
def removeSystemCronSchedule (scheduleId : String) : Option SystemSchedulers :=
  if !os.supportsSystemCrontab calls then some os
  else if !calls.read then none
  else if !calls.write then none
  else some { os with crontab := some (removeEntry scheduleId.toList os.crontab) }

/-- `schtasks /Delete`, whose answer nobody reads. -/
def deleteTask (scheduleId : String) : SystemSchedulers :=
  if calls.delete then { os with tasks := os.tasks.filter (· ≠ scheduleId) } else os

def removeManagedScheduleExecution (scheduleId : String) : Option SystemSchedulers :=
  if os.windows then
    if !os.supportsWindowsTaskScheduler calls then some os
    else some (os.deleteTask calls scheduleId)
  else os.removeSystemCronSchedule calls scheduleId

end SystemSchedulers

def toWindowsTaskName (scheduleId : Text) : Text := "KnowbeeSchedule-".toList ++ scheduleId

def buildWindowsTaskCommand (paths : CommandPaths) (scheduleId : Text) : Text :=
  let quote (item : Text) : Text :=
    '"' :: item.flatMap (fun c => if c = '"' then ['"', '"'] else [c]) ++ ['"']
  [' '].intercalate ([paths.nodePath, paths.cliPath, "schedule".toList, "run".toList,
    scheduleId].map quote)

/-- `/^\d+$/` -/
def isDigits (text : Text) : Bool := text ≠ [] && text.all Char.isDigit

/-- `text.padStart(2, "0")` -/
def padTwo (text : Text) : Text := List.replicate (2 - text.length) '0' ++ text

def tryBuildWindowsTaskScheduleArgs (cron : Cron) (paths : CommandPaths)
    (schedule : ScheduleTickSource) : Option (List Text) :=
  if !cron.isValidCron schedule.cronExpression then none
  else
    match cronWords schedule.cronExpression with
    | [minute, hour, dayOfMonth, month, dayOfWeek] =>
      let base := ["/Create".toList, "/F".toList, "/TN".toList,
        toWindowsTaskName schedule.id.toList, "/TR".toList,
        buildWindowsTaskCommand paths schedule.id.toList]
      let any := dayOfMonth = ['*'] ∧ month = ['*'] ∧ dayOfWeek = ['*']
      if minute.take 2 = ['*', '/'] ∧ isDigits (minute.drop 2) ∧ hour = ['*'] ∧ any then
        some (base ++ ["/SC".toList, "MINUTE".toList, "/MO".toList, minute.drop 2])
      else if isDigits minute ∧ isDigits hour ∧ any then
        some (base ++ ["/SC".toList, "DAILY".toList, "/ST".toList,
          padTwo hour ++ ':' :: padTwo minute])
      else none
    | _ => none

/-- What reconciliations read besides the schedules. -/
structure DriverSetting where
  cron : Cron
  paths : CommandPaths

/-- The calls of a reconciliation: its own, those of a removal in it, and those of the
cleanup after it threw. -/
structure ReconcileCalls where
  (main removal cleanup : SystemCalls)

def ScheduleTickSource.entry (schedule : ScheduleTickSource) : DbSchedule :=
  ⟨schedule.id.toList, schedule.cronExpression.toList⟩

namespace SystemSchedulers

variable (os : SystemSchedulers)

/-- `upsertWindowsScheduledTask`; no result when it throws. -/
def upsertWindowsScheduledTask (setting : DriverSetting) (calls : SystemCalls)
    (schedule : ScheduleTickSource) : Option DriverResult × SystemSchedulers :=
  if !os.supportsWindowsTaskScheduler calls then
    (some ⟨.internal, some "Windows 작업 스케줄러를 사용할 수 없어 내부 scheduler로 유지합니다."⟩, os)
  else if !schedule.enabled then
    (some ⟨.systemSchtasks, none⟩, os.deleteTask calls schedule.id)
  else
    match tryBuildWindowsTaskScheduleArgs setting.cron setting.paths schedule with
    | none =>
      (some ⟨.internal,
        some "현재 cron 표현식을 Windows 작업 스케줄러로 변환할 수 없어 내부 scheduler로 유지합니다."⟩, os)
    | some _ =>
      if calls.create then
        (some ⟨.systemSchtasks, none⟩,
          { os with tasks := schedule.id :: os.tasks.filter (· ≠ schedule.id) })
      else (none, os)

/-- `reconcileSystemCronSchedule`; no result when it throws. -/
def reconcileSystemCronSchedule (setting : DriverSetting) (calls : ReconcileCalls)
    (schedule : ScheduleTickSource) : Option DriverResult × SystemSchedulers :=
  if os.windows then
    match os.upsertWindowsScheduledTask setting calls.main schedule with
    | (some ⟨.internal, reason⟩, after) =>
      (some ⟨.internal, reason⟩,
        (after.removeManagedScheduleExecution calls.removal schedule.id).getD after)
    | other => other
  else if !os.supportsSystemCrontab calls.main then
    (some ⟨.internal, some "system crontab을 사용할 수 없어 내부 scheduler로 유지합니다."⟩,
      (os.removeSystemCronSchedule calls.removal schedule.id).getD os)
  else if !schedule.enabled then
    match os.removeSystemCronSchedule calls.removal schedule.id with
    | some after => (some ⟨.systemCrontab, none⟩, after)
    | none => (none, os)
  else if !calls.main.read || !calls.main.mkdir || !calls.main.write then (none, os)
  else
    (some ⟨.systemCrontab, none⟩,
      { os with crontab := some (addEntry setting.paths schedule.entry os.crontab) })

def reconcileScheduleExecution (setting : DriverSetting) (calls : ReconcileCalls)
    (schedule : ScheduleTickSource) : DriverResult × SystemSchedulers :=
  match os.reconcileSystemCronSchedule setting calls schedule with
  | (some result, after) => (result, after)
  | (none, after) =>
    (⟨.internal, some "시스템 스케줄러 등록에 실패해 내부 scheduler로 유지합니다."⟩,
      (after.removeManagedScheduleExecution calls.cleanup schedule.id).getD after)

def registered (scheduleId : String) : Prop :=
  os.windows = true ∧ scheduleId ∈ os.tasks ∨
    os.windows = false ∧
      ∃ line ∈ lines os.crontab, runs scheduleId.toList line = true

instance (scheduleId : String) : Decidable (os.registered scheduleId) :=
  inferInstanceAs (Decidable (_ ∨ _))

/-- The calls of an attempt suffice to remove an entry or a task. -/
def removes (calls : SystemCalls) : Bool :=
  if os.windows then os.supportsWindowsTaskScheduler calls && calls.delete
  else os.supportsSystemCrontab calls && calls.read && calls.write

end SystemSchedulers

/-- The schedules of the database, with distinct ids, and the system's schedulers. -/
structure DriverState where
  schedules : List ScheduleTickSource
  distinct : (schedules.map (·.id)).Nodup
  os : SystemSchedulers

/-- A schedule is changed, which a reconciliation follows; a tick; the run of a schedule. -/
inductive DriverEvent where
  | reconcile (scheduleId : String) (enabled : Bool) (cronExpression : String)
      (calls : ReconcileCalls)
  | tick (nowMs : Int) (queueActive : String → Bool)
  | ran (scheduleId : String) (lastRunAt : Int)

namespace DriverState

def updateSchedule (state : DriverState) (scheduleId : String)
    (change : ScheduleTickSource → ScheduleTickSource)
    (same : ∀ schedule, (change schedule).id = schedule.id) (os : SystemSchedulers) : DriverState where
  schedules := state.schedules.map fun schedule =>
    if schedule.id = scheduleId then change schedule else schedule
  distinct := by
    have ids : (state.schedules.map fun schedule =>
        if schedule.id = scheduleId then change schedule else schedule).map (·.id) =
          state.schedules.map (·.id) := by
      rw [List.map_map]
      refine List.map_congr_left fun schedule _ => ?_
      dsimp only [Function.comp_apply]
      split_ifs
      · exact same schedule
      · rfl
    rw [ids]
    exact state.distinct
  os := os

def selected (state : DriverState) (cron : Cron) (nowMs : Int) (queueActive : String → Bool) :
    List String :=
  (state.schedules.filter fun schedule =>
    match resolveScheduleTickDirective cron schedule nowMs (queueActive schedule.id) with
    | .run _ _ => true
    | .skip _ => false).map (·.id)

def step (setting : DriverSetting) (state : DriverState) : DriverEvent → DriverState × List String
  | .reconcile scheduleId enabled cronExpression calls =>
    match state.schedules.find? (·.id = scheduleId) with
    | none => (state, [])
    | some schedule =>
      let changed := { schedule with enabled, cronExpression }
      let (result, os) := state.os.reconcileScheduleExecution setting calls changed
      (state.updateSchedule scheduleId
        (fun schedule => { schedule with
          enabled, cronExpression, executionDriver := result.driver.text }) (fun _ => rfl) os, [])
  | .tick nowMs queueActive => (state, state.selected setting.cron nowMs queueActive)
  | .ran scheduleId lastRunAt =>
    (state.updateSchedule scheduleId (fun schedule => { schedule with lastRunAt := some lastRunAt })
      (fun _ => rfl) state.os, [])

end DriverState

def ScheduleTickSource.Due (schedule : ScheduleTickSource) (cron : Cron) (nowMs : Int) : Prop :=
  cron.isValidCron schedule.cronExpression = true ∧
    ∃ nextRun, cron.getNextRun schedule.cronExpression
      ((schedule.lastRunAt.or schedule.createdAt).getD nowMs) schedule.timezone = some nextRun ∧
        nextRun ≤ nowMs

/-- No tick runs a registered schedule, and each runs those enabled that are not registered,
when they are due and their queue is idle. -/
structure OneDriver (cron : Cron) (state : DriverState) : Prop where
  registered : ∀ schedule ∈ state.schedules, state.os.registered schedule.id →
    ∀ nowMs queueActive, schedule.id ∉ state.selected cron nowMs queueActive
  internal : ∀ schedule ∈ state.schedules, schedule.enabled = true →
    ¬state.os.registered schedule.id → ∀ nowMs queueActive, schedule.Due cron nowMs →
      queueActive schedule.id = false → schedule.id ∈ state.selected cron nowMs queueActive

/-- The driver of each enabled schedule is the crontab exactly if it is registered. -/
def Owned (state : DriverState) : Prop :=
  ∀ schedule ∈ state.schedules, schedule.enabled = true →
    (state.os.registered schedule.id ↔ schedule.executionDriver = "system_crontab")

structure EditFits (ids : List String) (schedule : DbSchedule) (crontab : Option Text) :
    Prop where
  tidy : TidyFrom schedule.id false false (lines crontab)
  own : ∀ line ∈ others schedule.id crontab, runs schedule.id line = false
  apart : ∀ id ∈ ids, id.toList ≠ schedule.id → ∀ line ∈ lines crontab,
    isMarker schedule.id line = true ∨ runs schedule.id line = true →
      runs id.toList line = false

/-- A reconciliation creates no Windows task, edits a crontab that its edits fit, and
where it leaves an enabled schedule to the ticks, removes what is registered of it. -/
structure ReconcileFits (setting : DriverSetting) (os : SystemSchedulers) (ids : List String)
    (schedule : ScheduleTickSource) (calls : ReconcileCalls) : Prop where
  single : ∀ id ∈ ids, '\n' ∉ id.toList
  noTask : os.windows = true → schedule.enabled = true →
    os.supportsWindowsTaskScheduler calls.main = true →
      tryBuildWindowsTaskScheduleArgs setting.cron setting.paths schedule ≠ none →
        calls.main.create = false
  edits : os.windows = false →
    (calls.main.write || calls.removal.write || calls.cleanup.write) = true →
      EditFits ids schedule.entry os.crontab ∧
        ∀ id ∈ ids, id ≠ schedule.id → ∀ line ∈
          buildManagedSystemCronEntry setting.paths schedule.entry,
            runs id.toList line = false
  unsupported : schedule.enabled = true → os.registered schedule.id →
    (if os.windows then os.supportsWindowsTaskScheduler calls.main = false ∨
        tryBuildWindowsTaskScheduleArgs setting.cron setting.paths schedule = none
      else os.supportsSystemCrontab calls.main = false) → os.removes calls.removal = true
  failed : schedule.enabled = true → os.registered schedule.id →
    (if os.windows then os.supportsWindowsTaskScheduler calls.main = true ∧
        tryBuildWindowsTaskScheduleArgs setting.cron setting.paths schedule ≠ none
      else os.supportsSystemCrontab calls.main = true ∧
        (calls.main.read && calls.main.mkdir && calls.main.write) = false) →
      os.removes calls.cleanup = true

def DriverFits (setting : DriverSetting) (state : DriverState) : DriverEvent → Prop
  | .reconcile scheduleId enabled cronExpression calls =>
    ∀ schedule, state.schedules.find? (·.id = scheduleId) = some schedule →
      ReconcileFits setting state.os (state.schedules.map (·.id))
        { schedule with enabled, cronExpression } calls
  | _ => True

end Knowbee
