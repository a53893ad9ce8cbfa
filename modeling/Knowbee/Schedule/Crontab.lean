import Knowbee.JavaScript
import Knowbee.Lib.LineEdits

/-!
# Entries of the system crontab

`packages/core/src/scheduler/system-cron.ts` keeps one entry for each schedule in the user's
crontab: a marker line with the id and a command line.
-/

namespace Knowbee.Crontab

abbrev Text : Type := List Char

def trim (text : Text) : Text := Lib.trimmed isTrimmed text

def cronMarkerPrefix : Text := "# knowbee-schedule:".toList

variable (scheduleId : Text) (paths : CommandPaths) (schedule : DbSchedule)
  (crontab : Option Text)

def marker : Text := cronMarkerPrefix ++ scheduleId

def shellQuote (value : Text) : Text :=
  '\'' :: value.flatMap (fun c => if c = '\'' then "'\\''".toList else [c]) ++ ['\'']

def chop (line : Text) : Text := if line.getLast? = some '\r' then line.dropLast else line

/-- `text.split(/\r?\n/)`: the last piece has no line end. -/
def splitLines (text : Text) : List Text :=
  let pieces := text.splitOn '\n'
  pieces.dropLast.map chop ++ pieces.getLast?.toList

/-- The lines of the crontab, which may not exist. -/
def readCurrentCrontab : Option Text → List Text
  | some text => splitLines text
  | none => []

/-- The content that `writeCrontab` hands over. -/
def crontabContent (lines : List Text) : Text :=
  trim (['\n'].intercalate (Lib.collapsed false lines)) ++ ['\n']

/-- The loop of `stripManagedEntry`, where a marker line skips the line after it. -/
def stripFrom (scheduleId : Text) (skip : Bool) : List Text → List Text
  | [] => []
  | line :: rest =>
    if skip then stripFrom scheduleId false rest
    else if trim line = marker scheduleId then stripFrom scheduleId true rest
    else if marker scheduleId <:+: line then stripFrom scheduleId false rest
    else line :: stripFrom scheduleId false rest

def stripManagedEntry (lines : List Text) (scheduleId : Text) : List Text :=
  stripFrom scheduleId false lines

structure CommandPaths where
  (nodePath cliPath stateDir logsFile : Text)

structure DbSchedule where
  (id cronExpression : Text)

def commandText : Text :=
  [' '].intercalate
    ["KNOWBEE_STATE_DIR=".toList ++ shellQuote paths.stateDir,
      shellQuote paths.nodePath,
      shellQuote paths.cliPath,
      "schedule".toList,
      "run".toList,
      shellQuote schedule.id,
      ">> ".toList ++ shellQuote paths.logsFile ++ " 2>&1".toList]

def commandLine : Text :=
  schedule.cronExpression ++ ' ' :: commandText paths schedule

def buildManagedSystemCronEntry : List Text :=
  [marker schedule.id, commandLine paths schedule]

/-- The crontab that `reconcileSystemCronSchedule` writes for an enabled schedule. -/
def addEntry : Text :=
  crontabContent (stripManagedEntry (readCurrentCrontab crontab) schedule.id ++
    buildManagedSystemCronEntry paths schedule)

def removeEntry : Text :=
  crontabContent (stripManagedEntry (readCurrentCrontab crontab) scheduleId)

/-- The lines of a crontab: what comes after the last line end is one if it is not empty. -/
def lines : List Text :=
  let pieces := readCurrentCrontab crontab
  if pieces.getLast? = some [] then pieces.dropLast else pieces

def isMarker (line : Text) : Bool := trim line = marker scheduleId

def runText : Text := "schedule run ".toList ++ shellQuote scheduleId

def runs (line : Text) : Bool := runText scheduleId <:+: line

/-- The lines that do not belong to a schedule: those that belong to it are its marker
lines, and a line that runs it directly after one. -/
def othersFrom (scheduleId : Text) (afterMarker : Bool) : List Text → List Text
  | [] => []
  | line :: rest =>
    if isMarker scheduleId line then othersFrom scheduleId true rest
    else if afterMarker && runs scheduleId line then othersFrom scheduleId false rest
    else line :: othersFrom scheduleId false rest

def others : List Text :=
  othersFrom scheduleId false (lines crontab)

/-- Edits touch only the entry of a schedule: an entry may be set off by an empty line. -/
structure TouchesOnlyEntry (paths : CommandPaths) (schedule : DbSchedule)
    (crontab : Option Text) : Prop where
  adding : ∃ gap, (gap = [] ∨ gap = [[]]) ∧
    lines (some (addEntry paths schedule crontab)) =
      others schedule.id crontab ++ gap ++ buildManagedSystemCronEntry paths schedule
  removing : lines (some (removeEntry schedule.id crontab)) = others schedule.id crontab
  addingTwice : addEntry paths schedule (some (addEntry paths schedule crontab)) =
    addEntry paths schedule crontab
  removingTwice : removeEntry schedule.id (some (removeEntry schedule.id crontab)) =
    removeEntry schedule.id crontab
  restoring : others schedule.id crontab = lines crontab →
    lines (some (removeEntry schedule.id (some (addEntry paths schedule crontab)))) = lines crontab

/-- Along the lines of a crontab, what is dropped is what belongs to the schedule: no other line
follows its marker or mentions it, and no command of it is behind a second marker. -/
def TidyFrom (scheduleId : Text) : Bool → Bool → List Text → Prop
  | skip, _, [] => skip = false
  | skip, afterMarker, line :: rest =>
    if isMarker scheduleId line then TidyFrom scheduleId (!skip) true rest
    else if afterMarker && runs scheduleId line then
      (skip = true ∨ marker scheduleId <:+: line) ∧ TidyFrom scheduleId false false rest
    else skip = false ∧ ¬marker scheduleId <:+: line ∧ TidyFrom scheduleId false false rest

/-- An entry is read back as it was written. -/
structure EntryReadable (paths : CommandPaths) (schedule : DbSchedule) : Prop where
  id : '\n' ∉ schedule.id ∧ schedule.id.getLast? ≠ some '\r'
  command : '\n' ∉ commandLine paths schedule
  marked : isMarker schedule.id (marker schedule.id) = true ∨
    marker schedule.id <:+: commandLine paths schedule

/-- What makes the edits touch only the entry. -/
structure EditsCleanly (paths : CommandPaths) (schedule : DbSchedule)
    (crontab : Option Text) : Prop where
  ended : (readCurrentCrontab crontab).getLast? = some []
  tidy : TidyFrom schedule.id false false (lines crontab)
  neat : Lib.Neat '\n' isTrimmed (others schedule.id crontab)
  chopped : (others schedule.id crontab).map chop = others schedule.id crontab
  entry : EntryReadable paths schedule

end Knowbee.Crontab
