import Mathlib.Tactic.IntervalCases
import Mathlib.Tactic.Ring

/-!
# The proleptic Gregorian calendar

Days are counted from the first of January 1970 and months from the first month of the year 0, so
that a month is one number and years are their quotients by 12.
-/

namespace Knowbee.Calendar

def isLeap (year : Int) : Bool := year % 4 = 0 && (year % 100 ≠ 0 || year % 400 = 0)

def dayFromYear (year : Int) : Int :=
  365 * (year - 1970) + (year - 1969) / 4 - (year - 1901) / 100 + (year - 1601) / 400

/-- The days of a year before its months, which are counted from 0. -/
def daysBefore (leap : Bool) : Nat → Int
  | 0 => 0
  | 1 => 31
  | 2 => 59 + leap.toInt
  | 3 => 90 + leap.toInt
  | 4 => 120 + leap.toInt
  | 5 => 151 + leap.toInt
  | 6 => 181 + leap.toInt
  | 7 => 212 + leap.toInt
  | 8 => 243 + leap.toInt
  | 9 => 273 + leap.toInt
  | 10 => 304 + leap.toInt
  | 11 => 334 + leap.toInt
  | _ => 365 + leap.toInt

variable (month : Int)

def monthStart : Int :=
  dayFromYear (month / 12) + daysBefore (isLeap (month / 12)) (month % 12).toNat

def monthLength : Int :=
  match (month % 12).toNat with
  | 1 => 28 + (isLeap (month / 12)).toInt
  | 3 | 5 | 8 | 10 => 30
  | _ => 31

lemma toInt_bounds (value : Bool) : 0 ≤ value.toInt ∧ value.toInt ≤ 1 := by
  cases value <;> decide

lemma monthLength_bounds : 28 ≤ monthLength month ∧ monthLength month ≤ 31 := by
  unfold monthLength
  have bounds := toInt_bounds (isLeap (month / 12))
  split <;> omega

lemma dayFromYear_succ (year : Int) :
    dayFromYear (year + 1) = dayFromYear year + 365 + (isLeap year).toInt := by
  have leap : (isLeap year).toInt =
      if year % 4 = 0 ∧ (year % 100 ≠ 0 ∨ year % 400 = 0) then 1 else 0 := by
    unfold isLeap
    by_cases fourth : year % 4 = 0 <;> by_cases century : year % 100 = 0 <;>
      by_cases era : year % 400 = 0 <;> simp [fourth, century, era]
  rw [leap]
  unfold dayFromYear
  split_ifs <;> omega

lemma monthStart_succ : monthStart (month + 1) = monthStart month + monthLength month := by
  have place : 0 ≤ month % 12 ∧ month % 12 < 12 := by omega
  unfold monthStart monthLength
  by_cases last : month % 12 = 11
  · have next : (month + 1) / 12 = month / 12 + 1 ∧ (month + 1) % 12 = 0 := by omega
    rw [next.1, next.2, last, dayFromYear_succ]
    have first leap : daysBefore leap (0 : Int).toNat = 0 := rfl
    have eleventh leap : daysBefore leap (11 : Int).toNat = 334 + leap.toInt := rfl
    rw [first, eleventh]
    change _ = _ + 31
    omega
  · have next : (month + 1) / 12 = month / 12 ∧ (month + 1) % 12 = month % 12 + 1 := by omega
    rw [next.1, next.2]
    obtain ⟨position, eq⟩ := Int.eq_ofNat_of_zero_le place.1
    rw [eq] at last place ⊢
    have small : position < 11 := by omega
    rw [show ((position : Int) + 1).toNat = position + 1 by omega, Int.toNat_natCast]
    generalize isLeap (month / 12) = leap
    interval_cases position <;> cases leap <;> simp [daysBefore] <;> omega

lemma monthStart_lt_succ : monthStart month < monthStart (month + 1) := by
  have := monthLength_bounds month
  rw [monthStart_succ]
  omega

lemma monthStart_add_ge (count : Nat) :
    monthStart month + 28 * count ≤ monthStart (month + count) := by
  induction count with
  | zero => simp
  | succ count ih =>
    have := monthLength_bounds (month + count)
    rw [Nat.cast_succ, ← add_assoc, monthStart_succ]
    omega

lemma monthStart_lt {first second : Int} (less : first < second) :
    monthStart first < monthStart second := by
  obtain ⟨count, rfl⟩ : ∃ count : Nat, second = first + 1 + count :=
    ⟨(second - first - 1).toNat, by omega⟩
  have := monthStart_add_ge (first + 1) count
  have := monthStart_lt_succ first
  omega

lemma monthStart_le {first second : Int} (le : first ≤ second) :
    monthStart first ≤ monthStart second := by
  rcases eq_or_lt_of_le le with rfl | less
  · exact le_rfl
  · exact (monthStart_lt less).le

lemma monthStart_add_era (month era : Int) :
    monthStart (month + 4800 * era) = monthStart month + 146097 * era := by
  have place : (month + 4800 * era) / 12 = month / 12 + 400 * era ∧
      (month + 4800 * era) % 12 = month % 12 := by omega
  have leap : isLeap (month / 12 + 400 * era) = isLeap (month / 12) := by
    unfold isLeap
    rw [show (month / 12 + 400 * era) % 4 = month / 12 % 4 by omega,
      show (month / 12 + 400 * era) % 100 = month / 12 % 100 by omega,
      show (month / 12 + 400 * era) % 400 = month / 12 % 400 by omega]
  unfold monthStart
  rw [place.1, place.2, leap]
  unfold dayFromYear
  omega

/-- The last place of `low`, …, `high - 1` whose value is not above a bound. -/
def bisect (value : Int → Int) (bound : Int) : Nat → Int → Int → Int
  | 0, low, _ => low
  | fuel + 1, low, high =>
    if high ≤ low + 1 then low
    else if value ((low + high) / 2) ≤ bound then bisect value bound fuel ((low + high) / 2) high
    else bisect value bound fuel low ((low + high) / 2)

lemma bisect_spec {value : Int → Int} {bound : Int} {fuel : Nat} {low high : Int}
    (within : low < high) (fits : high - low ≤ 2 ^ fuel) (above : value low ≤ bound)
    (below : bound < value high) :
    value (bisect value bound fuel low high) ≤ bound ∧
      bound < value (bisect value bound fuel low high + 1) := by
  induction fuel generalizing low high with
  | zero =>
    have : high = low + 1 := by omega
    subst this
    exact ⟨above, below⟩
  | succ fuel ih =>
    rw [bisect]
    split_ifs with narrow left
    · have : high = low + 1 := by omega
      subst this
      exact ⟨above, below⟩
    · refine ih ?_ ?_ left below
      · omega
      · rw [pow_succ] at fits
        omega
    · refine ih ?_ ?_ above (Int.not_le.mp left)
      · omega
      · rw [pow_succ] at fits
        omega

def monthOf (day : Int) : Int :=
  let era := (day - monthStart 0) / 146097
  bisect monthStart (day - 146097 * era) 13 0 4800 + 4800 * era

lemma monthOf_spec (day : Int) :
    monthStart (monthOf day) ≤ day ∧ day < monthStart (monthOf day + 1) := by
  unfold monthOf
  dsimp only
  generalize era_eq : (day - monthStart 0) / 146097 = era
  have last : monthStart 4800 = monthStart 0 + 146097 := by
    have := monthStart_add_era 0 1
    rwa [zero_add, mul_one, mul_one] at this
  obtain ⟨above, below⟩ := @bisect_spec monthStart (day - 146097 * era) 13 0 4800
    (by decide) (by decide) (by omega) (by omega)
  generalize bisect monthStart (day - 146097 * era) 13 0 4800 = place at above below
  rw [show place + 4800 * era + 1 = place + 1 + 4800 * era by ring, monthStart_add_era,
    monthStart_add_era]
  omega

lemma monthOf_eq {day month : Int} (above : monthStart month ≤ day)
    (below : day < monthStart (month + 1)) : monthOf day = month := by
  obtain ⟨start, ending⟩ := monthOf_spec day
  rcases lt_trichotomy (monthOf day) month with before | eq | after
  · have := monthStart_le (show monthOf day + 1 ≤ month by omega)
    omega
  · exact eq
  · have := monthStart_le (show month + 1 ≤ monthOf day by omega)
    omega

lemma monthOf_le {first second : Int} (le : first ≤ second) : monthOf first ≤ monthOf second := by
  by_contra after
  have := monthStart_le (show monthOf second + 1 ≤ monthOf first by omega)
  have := monthOf_spec first
  have := monthOf_spec second
  omega

def dateOf (day : Int) : Int := day - monthStart (monthOf day) + 1

lemma dateOf_bounds (day : Int) : 1 ≤ dateOf day ∧ dateOf day ≤ monthLength (monthOf day) := by
  have := monthOf_spec day
  have := monthStart_succ (monthOf day)
  unfold dateOf
  omega

def weekdayOf (day : Int) : Int := (day + 4) % 7

example : monthOf 19782 = 12 * 2024 + 1 ∧ dateOf 19782 = 29 ∧ weekdayOf 19782 = 4 := by decide

end Knowbee.Calendar
