import Knowbee.Date
import Knowbee.ParseInt

/-!
# Cron expressions

`packages/core/src/scheduler/cron.ts`: five fields are parsed to sets of numbers,
`getNextRun` searches the local calendar by months, days, hours and minutes, and
`getNextRunInTimezone` reads every minute in a zone.
-/

namespace Knowbee

/-- The operator `+` without rounding. -/
def JsNumber.add : JsNumber → JsNumber → JsNumber
  | .nan, _ => .nan
  | _, .nan => .nan
  | .infinity, .negInfinity => .nan
  | .negInfinity, .infinity => .nan
  | .infinity, _ => .infinity
  | _, .infinity => .infinity
  | .negInfinity, _ => .negInfinity
  | _, .negInfinity => .negInfinity
  | .finite a, .finite b => .finite (a + b)

/-- `Number(text)`, and `i++` of any number with its rounding. -/
structure CronPlatform where
  number : List Char → JsNumber
  increment : JsNumber → JsNumber

/-- The size above which a set cannot grow. -/
def maxSetSize : Nat := 2 ^ 24

/-- `for (let i = first; i <= last; i = advance(i)) result.add(i)`; nothing when the
loop does not end or the set gets too large. -/
def countUp (advance : JsNumber → JsNumber) (last : JsNumber) : Nat → JsNumber → Option (List JsNumber)
  | 0, _ => none
  | fuel + 1, i =>
    if i.le last then (countUp advance last fuel (advance i)).map (i :: ·) else some []

def addRange (advance : JsNumber → JsNumber) (first last : JsNumber) : Except String (List JsNumber) :=
  match countUp advance last (maxSetSize + 1) first with
  | some values => .ok values
  | none => .error "Set maximum size exceeded"

variable (platform : CronPlatform)

def parsePart (min max : Nat) (part : List Char) : Except String (List JsNumber) :=
  if part = ['*'] then addRange (JsNumber.add 1) (.ofNat min) (.ofNat max)
  else if ['*', '/'].isPrefixOf part then
    let step := parseInt (part.drop 2)
    if step = .nan ∨ step.le 0 then .error ("Invalid cron step: " ++ String.ofList part)
    else addRange (JsNumber.add step) (.ofNat min) (.ofNat max)
  else if part.contains '-' then
    match (part.splitOn '-').map platform.number with
    | a :: b :: _ =>
      if a = .nan ∨ b = .nan then .error ("Invalid cron range: " ++ String.ofList part)
      else addRange platform.increment a b
    | _ => .error ("Invalid cron range: " ++ String.ofList part)
  else
    let n := parseInt part
    if n = .nan then .error ("Invalid cron value: " ++ String.ofList part) else .ok [n]

def parseField (field : List Char) (min max : Nat) : Except String (List JsNumber) := do
  let values ← (field.splitOn ',').mapM (parsePart platform min max)
  return values.flatten

structure CronFields where
  (minutes hours days months weekdays : List JsNumber)
  deriving DecidableEq

/-- `expr.trim().split(/\s+/)`, without the empty word of a blank expression. -/
def cronWords (expr : String) : List (List Char) := (expr.toList.splitOnP isTrimmed).filter (· ≠ [])

def parseCron (expr : String) : Except String CronFields :=
  match cronWords expr with
  | [m, h, d, mo, wd] => do
    let minutes ← parseField platform m 0 59
    let hours ← parseField platform h 0 23
    let days ← parseField platform d 1 31
    let months ← parseField platform mo 1 12
    let weekdays ← parseField platform wd 0 6
    return { minutes, hours, days, months, weekdays }
  | _ => .error ("Cron expression must have 5 fields: \"" ++ expr ++ "\"")

def isValidCron (expr : String) : Bool := (parseCron platform expr).isOk

def has (set : List JsNumber) (value : Int) : Bool := set.contains (.finite value)

section

variable (clock : Clock)

/-- The first of the next month, where the day of the month overflows first. -/
def nextMonth (d : Instant) : Date := do
  let d ← d.setMonth clock (d.getMonth clock + 1)
  let d ← d.setDate clock 1
  let d ← d.setHours clock 0
  d.setMinutes clock 0

def nextDay (d : Instant) : Date := do
  let d ← d.setDate clock (d.getDate clock + 1)
  let d ← d.setHours clock 0
  d.setMinutes clock 0

def nextHour (d : Instant) : Date := do
  let d ← d.setHours clock (d.getHours clock + 1)
  d.setMinutes clock 0

def nextMinute (d : Instant) : Date := d.setMinutes clock (d.getMinutes clock + 1)

/-- The loop of `getNextRun`. -/
def searchNextRun (fields : CronFields) (limit : Instant) : Nat → Date → Date
  | 0, _ => none
  | _ + 1, none => none
  | fuel + 1, some d =>
    if d < limit then
      if !has fields.months (d.getMonth clock + 1) then
        searchNextRun fields limit fuel (nextMonth clock d)
      else if !has fields.days (d.getDate clock) || !has fields.weekdays (d.getDay clock) then
        searchNextRun fields limit fuel (nextDay clock d)
      else if !has fields.hours (d.getHours clock) then
        searchNextRun fields limit fuel (nextHour clock d)
      else if !has fields.minutes (d.getMinutes clock) then
        searchNextRun fields limit fuel (nextMinute clock d)
      else some d
    else none

def followingMinute (from_ : Instant) : Date := do
  let d ← from_.setSeconds clock 0
  let d ← d.setMilliseconds clock 0
  d.setMinutes clock (d.getMinutes clock + 1)

def fourYearsLater (from_ : Instant) : Date := from_.setFullYear clock (from_.getFullYear clock + 4)

/-- A loop towards a limit moves at least one millisecond in each turn. -/
def searchFuel (limit : Instant) : Date → Nat
  | some d => (limit.time - d.time).toNat
  | none => 0

def getNextRun (platform : CronPlatform) (expr : String) (from_ : Instant) :
    Except String Instant := do
  let fields ← parseCron platform expr
  let d := followingMinute clock from_
  let found := (fourYearsLater clock from_).bind fun limit =>
    searchNextRun clock fields limit (searchFuel limit d) d
  match found with
  | some run => .ok run
  | none => .error ("No matching time found for cron: \"" ++ expr ++ "\"")

end

structure ZonedDateParts where
  (year month day hour minute : Int)
  weekday : Option Int

/-- `Date.UTC(year, monthIndex, date)`, where a year of two digits is one of the
twentieth century. -/
def dateUTC (year monthIndex date : Int) : Date :=
  let fullYear := if 0 ≤ year ∧ year ≤ 99 then 1900 + year else year
  timeClip (makeDate (makeDay fullYear monthIndex date) 0)

/-- The year of its era, which is what the formatter writes. -/
def yearOfEra (year : Int) : Int := if 0 < year then year else 1 - year

def readZonedParts (clock : Clock) (date : Instant) : ZonedDateParts :=
  let year := yearOfEra (date.getFullYear clock)
  let month := date.getMonth clock + 1
  let day := date.getDate clock
  { year
    month
    day
    hour := date.getHours clock
    minute := date.getMinutes clock
    weekday := (dateUTC year (month - 1) day).map fun utcDate => utcDate.getDay utc }

def matchesCronFields (fields : CronFields) (parts : ZonedDateParts) : Bool :=
  has fields.months parts.month && has fields.days parts.day &&
    parts.weekday.any (has fields.weekdays) && has fields.hours parts.hour &&
    has fields.minutes parts.minute

/-- The loop of `getNextRunInTimezone`. -/
def searchInTimezone (clock : Clock) (fields : CronFields) (limit : Instant) : Nat → Date → Date
  | 0, _ => none
  | _ + 1, none => none
  | fuel + 1, some cursor =>
    if cursor < limit then
      if matchesCronFields fields (readZonedParts clock cursor) then some cursor
      else searchInTimezone clock fields limit fuel (nextMinute utc cursor)
    else none

def getNextRunInTimezone (expr : String) (from_ : Instant) (clock : Clock) :
    Except String Instant := do
  let fields ← parseCron platform expr
  let cursor := followingMinute utc from_
  let found := (fourYearsLater utc from_).bind fun limit =>
    searchInTimezone clock fields limit (searchFuel limit cursor) cursor
  match found with
  | some run => .ok run
  | none =>
    .error ("No matching time found for cron: \"" ++ expr ++ "\" in timezone: " ++ clock.name)

end Knowbee
