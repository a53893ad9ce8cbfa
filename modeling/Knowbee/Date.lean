import Knowbee.Lib.Calendar

/-!
# The dates of the language

A `Date` is an instant, in milliseconds within 100 million days of the epoch, or
invalid.  Local time is that of a zone with a fixed offset in minutes, and the
functions for UTC are those for the offset 0.
-/

namespace Knowbee

open Calendar

def maxTime : Int := 8640000000000000

/-- A time value. -/
structure Instant where
  time : Int
  valid : -maxTime ≤ time ∧ time ≤ maxTime
  deriving DecidableEq

lemma Instant.time_injective : Function.Injective Instant.time := by
  intro first second same
  cases first
  cases second
  cases same
  rfl

instance : LinearOrder Instant := LinearOrder.lift' Instant.time Instant.time_injective

lemma Instant.le_iff {first second : Instant} : first ≤ second ↔ first.time ≤ second.time :=
  Iff.rfl

lemma Instant.lt_iff {first second : Instant} : first < second ↔ first.time < second.time :=
  Iff.rfl

/-- There are finitely many instants before one. -/
instance : WellFoundedLT Instant :=
  ⟨Subrelation.wf (fun {first second} less => by
    have low := first.valid
    have high := second.valid
    rw [Instant.lt_iff] at less
    change (first.time + maxTime).toNat < (second.time + maxTime).toNat
    omega) (measure fun instant : Instant => (instant.time + maxTime).toNat).wf⟩

/-- A date, which is invalid as `none`. -/
abbrev Date : Type := Option Instant

variable (time : Int)

def timeClip : Date := if valid : -maxTime ≤ time ∧ time ≤ maxTime then some ⟨time, valid⟩ else none

lemma timeClip_eq_some {time : Int} {instant : Instant} :
    timeClip time = some instant ↔ instant.time = time := by
  unfold timeClip
  split_ifs with valid
  · rw [Option.some_inj]
    constructor
    · rintro rfl
      rfl
    · intro same
      exact Instant.time_injective same.symm
  · constructor
    · nofun
    · rintro rfl
      exact absurd instant.valid valid

lemma timeClip_eq_none {time : Int} :
    timeClip time = none ↔ time < -maxTime ∨ maxTime < time := by
  unfold timeClip
  split_ifs with valid
  · constructor
    · nofun
    · omega
  · constructor
    · omega
    · exact fun _ => rfl

/-- What the dates of a time zone are: its local time at an instant, and the date at
which it is a local time. -/
structure Clock where
  name : String
  localTime : Instant → Int
  date : Int → Date

/-- A zone of a fixed offset from UTC, in minutes. -/
structure Zone where
  name : String
  offset : Int
  within : -1440 < offset ∧ offset < 1440

def utc : Zone := ⟨"UTC", 0, by decide⟩

def Zone.localTime (zone : Zone) (instant : Instant) : Int := instant.time + 60000 * zone.offset

/-- `UTC(t)`, as a date. -/
def Zone.date (zone : Zone) (localTime : Int) : Date := timeClip (localTime - 60000 * zone.offset)

@[coe] def Zone.clock (zone : Zone) : Clock := ⟨zone.name, zone.localTime, zone.date⟩

instance : Coe Zone Clock := ⟨Zone.clock⟩

lemma Zone.clock_injective : Function.Injective Zone.clock := by
  rintro ⟨name, offset, within⟩ ⟨name', offset', within'⟩ same
  obtain rfl : name = name' := congrArg Clock.name same
  have times : 0 + 60000 * offset = 0 + 60000 * offset' :=
    congrFun (congrArg Clock.localTime same) ⟨0, by decide⟩
  obtain rfl : offset = offset' := by omega
  rfl

def dayOf : Int := time / 86400000
def hoursOf : Int := time / 3600000 % 24
def minutesOf : Int := time / 60000 % 60
def secondsOf : Int := time / 1000 % 60
def millisecondsOf : Int := time % 1000
def timeWithinDay : Int := time % 86400000

def makeTime (hours minutes seconds milliseconds : Int) : Int :=
  hours * 3600000 + minutes * 60000 + seconds * 1000 + milliseconds

def makeDay (year month date : Int) : Int := monthStart (12 * year + month) + date - 1

def makeDate (day time : Int) : Int := day * 86400000 + time

lemma makeDate_parts : makeDate (dayOf time)
    (makeTime (hoursOf time) (minutesOf time) (secondsOf time) (millisecondsOf time)) = time := by
  have minutes : time / 60000 = time / 1000 / 60 := by omega
  have hours : time / 3600000 = time / 60000 / 60 := by omega
  have days : time / 86400000 = time / 3600000 / 24 := by omega
  unfold makeDate makeTime dayOf hoursOf minutesOf secondsOf millisecondsOf
  rw [days]
  generalize hour_eq : time / 3600000 = hour at *
  rw [hours]
  generalize minute_eq : time / 60000 = minute at *
  rw [minutes]
  omega

namespace Instant

variable (instant : Instant) (clock : Clock)

def getFullYear : Int := monthOf (dayOf (clock.localTime instant)) / 12
def getMonth : Int := monthOf (dayOf (clock.localTime instant)) % 12
def getDate : Int := dateOf (dayOf (clock.localTime instant))
def getDay : Int := weekdayOf (dayOf (clock.localTime instant))
def getHours : Int := hoursOf (clock.localTime instant)
def getMinutes : Int := minutesOf (clock.localTime instant)

def setMilliseconds (milliseconds : Int) : Date :=
  let time := clock.localTime instant
  clock.date (makeDate (dayOf time)
    (makeTime (hoursOf time) (minutesOf time) (secondsOf time) milliseconds))

def setSeconds (seconds : Int) : Date :=
  let time := clock.localTime instant
  clock.date (makeDate (dayOf time)
    (makeTime (hoursOf time) (minutesOf time) seconds (millisecondsOf time)))

def setMinutes (minutes : Int) : Date :=
  let time := clock.localTime instant
  clock.date (makeDate (dayOf time)
    (makeTime (hoursOf time) minutes (secondsOf time) (millisecondsOf time)))

def setHours (hours : Int) : Date :=
  let time := clock.localTime instant
  clock.date (makeDate (dayOf time)
    (makeTime hours (minutesOf time) (secondsOf time) (millisecondsOf time)))

def setDate (date : Int) : Date :=
  let time := clock.localTime instant
  clock.date (makeDate (makeDay (instant.getFullYear clock) (instant.getMonth clock) date)
    (timeWithinDay time))

def setMonth (month : Int) : Date :=
  let time := clock.localTime instant
  clock.date (makeDate (makeDay (instant.getFullYear clock) month (instant.getDate clock))
    (timeWithinDay time))

def setFullYear (year : Int) : Date :=
  let time := clock.localTime instant
  clock.date (makeDate (makeDay year (instant.getMonth clock) (instant.getDate clock))
    (timeWithinDay time))

end Instant

def Zone.minute (zone : Zone) (instant : Instant) : Int := instant.time / 60000 + zone.offset

/-- The instant at which a local minute begins, as a date. -/
def Zone.ofMinute (zone : Zone) (minute : Int) : Date := timeClip (60000 * (minute - zone.offset))

section

variable {zone : Zone} {instant : Instant} {minute : Int}

lemma Zone.ofMinute_eq_some :
    zone.ofMinute minute = some instant ↔ instant.time = 60000 * (minute - zone.offset) :=
  timeClip_eq_some

lemma Zone.minute_eq_div (zone : Zone) (instant : Instant) :
    zone.minute instant = zone.localTime instant / 60000 := by
  unfold Zone.minute Zone.localTime
  omega

lemma Instant.getFullYear_eq :
    instant.getFullYear zone = monthOf (zone.minute instant / 1440) / 12 := by
  unfold Instant.getFullYear dayOf
  rw [zone.minute_eq_div, Int.ediv_ediv_of_nonneg (by decide)]
  rfl

lemma Instant.getMonth_eq :
    instant.getMonth zone = monthOf (zone.minute instant / 1440) % 12 := by
  unfold Instant.getMonth dayOf
  rw [zone.minute_eq_div, Int.ediv_ediv_of_nonneg (by decide)]
  rfl

lemma Instant.getDate_eq : instant.getDate zone = dateOf (zone.minute instant / 1440) := by
  unfold Instant.getDate dayOf
  rw [zone.minute_eq_div, Int.ediv_ediv_of_nonneg (by decide)]
  rfl

lemma Instant.getDay_eq : instant.getDay zone = weekdayOf (zone.minute instant / 1440) := by
  unfold Instant.getDay dayOf
  rw [zone.minute_eq_div, Int.ediv_ediv_of_nonneg (by decide)]
  rfl

lemma Instant.getHours_eq : instant.getHours zone = zone.minute instant / 60 % 24 := by
  unfold Instant.getHours hoursOf
  dsimp only [Zone.clock]
  rw [zone.minute_eq_div]
  omega

lemma Instant.getMinutes_eq : instant.getMinutes zone = zone.minute instant % 60 := by
  unfold Instant.getMinutes minutesOf
  dsimp only [Zone.clock]
  rw [zone.minute_eq_div]

def Instant.Whole (instant : Instant) : Prop := instant.time % 60000 = 0

lemma Instant.Whole.time_eq (whole : instant.Whole) (zone : Zone) :
    instant.time = 60000 * (zone.minute instant - zone.offset) := by
  unfold Instant.Whole at whole
  unfold Zone.minute
  omega

lemma Instant.Whole.localTime_eq (whole : instant.Whole) :
    zone.localTime instant = 60000 * zone.minute instant := by
  unfold Zone.localTime
  rw [whole.time_eq zone]
  omega

lemma Zone.whole_of_ofMinute (made : zone.ofMinute minute = some instant) : instant.Whole := by
  rw [Zone.ofMinute_eq_some] at made
  unfold Instant.Whole
  omega

lemma Zone.minute_of_ofMinute (made : zone.ofMinute minute = some instant) :
    zone.minute instant = minute := by
  rw [Zone.ofMinute_eq_some] at made
  unfold Zone.minute
  omega

lemma Zone.date_eq_ofMinute {time : Int} (same : time = 60000 * minute) :
    zone.date time = zone.ofMinute minute := by
  unfold Zone.date Zone.ofMinute
  rw [same, Int.mul_sub]

lemma Zone.exists_ofMinute {first last : Instant} (after : zone.minute first ≤ minute)
    (before : 60000 * (minute - zone.offset) ≤ last.time) (whole : first.Whole) :
    ∃ instant, zone.ofMinute minute = some instant := by
  have time := whole.time_eq zone
  have low := first.valid
  have high := last.valid
  exact ⟨⟨60000 * (minute - zone.offset), by omega, by omega⟩, Zone.ofMinute_eq_some.mpr rfl⟩

lemma Instant.setMinutes_eq (whole : instant.Whole) (minutes : Int) :
    instant.setMinutes zone minutes =
      zone.ofMinute (60 * (zone.minute instant / 60) + minutes) := by
  unfold Instant.setMinutes
  dsimp only [Zone.clock]
  rw [whole.localTime_eq]
  refine Zone.date_eq_ofMinute ?_
  unfold makeDate makeTime dayOf hoursOf secondsOf millisecondsOf
  omega

lemma Instant.setHours_eq (whole : instant.Whole) (hours : Int) :
    instant.setHours zone hours =
      zone.ofMinute (1440 * (zone.minute instant / 1440) + 60 * hours + zone.minute instant % 60) := by
  unfold Instant.setHours
  dsimp only [Zone.clock]
  rw [whole.localTime_eq]
  refine Zone.date_eq_ofMinute ?_
  unfold makeDate makeTime dayOf minutesOf secondsOf millisecondsOf
  omega

lemma timeWithinDay_minute (minute : Int) :
    timeWithinDay (60000 * minute) = 60000 * (minute % 1440) := by
  unfold timeWithinDay
  omega

lemma Instant.setDate_eq (whole : instant.Whole) (date : Int) :
    instant.setDate zone date =
      zone.ofMinute (1440 * (monthStart (monthOf (zone.minute instant / 1440)) + date - 1) +
        zone.minute instant % 1440) := by
  unfold Instant.setDate
  rw [Instant.getFullYear_eq, Instant.getMonth_eq]
  dsimp only [Zone.clock]
  rw [whole.localTime_eq, timeWithinDay_minute]
  refine Zone.date_eq_ofMinute ?_
  unfold makeDate makeDay
  rw [Int.mul_ediv_add_emod]
  ring

lemma Instant.setMonth_eq (whole : instant.Whole) (month : Int) :
    instant.setMonth zone (instant.getMonth zone + month) =
      zone.ofMinute (1440 * (monthStart (monthOf (zone.minute instant / 1440) + month) +
        dateOf (zone.minute instant / 1440) - 1) + zone.minute instant % 1440) := by
  unfold Instant.setMonth
  rw [Instant.getFullYear_eq, Instant.getMonth_eq, Instant.getDate_eq]
  dsimp only [Zone.clock]
  rw [whole.localTime_eq, timeWithinDay_minute]
  refine Zone.date_eq_ofMinute ?_
  unfold makeDate makeDay
  rw [← add_assoc, Int.mul_ediv_add_emod]
  ring

end

end Knowbee
