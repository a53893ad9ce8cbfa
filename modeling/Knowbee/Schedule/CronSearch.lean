import Knowbee.Schedule.Cron
import Knowbee.Lib.LeastSearch

/-!
# The least match of a cron expression

The search by fields moves from the first minute after a start to boundaries of
its fields.  At each position a field that does not match is at its boundary,
unless the search has not moved, so no move leaves a match behind: except the
first one, when the day of the month overflows the next month.
-/

namespace Knowbee

open Calendar LeastSearch Instant CronFields Zone

/-! ## Fields of a local minute -/

namespace CronFields

variable (fields : CronFields)

def monthOk (minute : Int) : Bool := has fields.months (monthOf (minute / 1440) % 12 + 1)

def dayOk (minute : Int) : Bool :=
  has fields.days (dateOf (minute / 1440)) && has fields.weekdays (weekdayOf (minute / 1440))

def hourOk (minute : Int) : Bool := has fields.hours (minute / 60 % 24)

def minuteOk (minute : Int) : Bool := has fields.minutes (minute % 60)

/-- All parts of the local time are in the parsed sets. -/
def accepts (zone : Zone) (d : Instant) : Bool :=
  has fields.months (d.getMonth zone + 1) && has fields.days (d.getDate zone) &&
    has fields.weekdays (d.getDay zone) && has fields.hours (d.getHours zone) &&
    has fields.minutes (d.getMinutes zone)

lemma accepts_eq (zone : Zone) (d : Instant) : fields.accepts zone d =
    (fields.monthOk (zone.minute d) && fields.dayOk (zone.minute d) &&
      fields.hourOk (zone.minute d) && fields.minuteOk (zone.minute d)) := by
  unfold accepts monthOk dayOk hourOk minuteOk
  rw [getMonth_eq, getDate_eq, getDay_eq, getHours_eq,
    getMinutes_eq]
  simp [Bool.and_assoc]

end CronFields

/-! ## Moves -/

section

variable {zone : Zone} {d : Instant}

/-- The month in which the day of the month of a day is, counted in the next month. -/
def overflowMonth (day : Int) : Int := monthOf (monthStart (monthOf day + 1) + dateOf day - 1)

lemma overflowMonth_of_le {day : Int} (fits : dateOf day ≤ monthLength (monthOf day + 1)) :
    overflowMonth day = monthOf day + 1 := by
  have bounds := dateOf_bounds day
  have := monthStart_succ (monthOf day + 1)
  exact monthOf_eq (by omega) (by omega)

lemma overflowMonth_of_gt {day : Int} (over_ : monthLength (monthOf day + 1) < dateOf day) :
    overflowMonth day = monthOf day + 2 := by
  have bounds := dateOf_bounds day
  have longest := monthLength_bounds (monthOf day)
  have next := monthLength_bounds (monthOf day + 1)
  have later := monthLength_bounds (monthOf day + 2)
  have start := monthStart_succ (monthOf day + 1)
  have ending := monthStart_succ (monthOf day + 2)
  rw [add_assoc, show (1 : Int) + 1 = 2 from rfl] at start
  refine monthOf_eq (by omega) ?_
  omega

lemma bind_ofMinute {first second : Int} {set : Instant → Date}
    (sets : ∀ e : Instant, e.Whole → zone.minute e = first → set e = zone.ofMinute second)
    (reached : (∃ e, zone.ofMinute first = some e) ∨ first = second) :
    (zone.ofMinute first).bind set = zone.ofMinute second := by
  cases made : zone.ofMinute first with
  | some e => exact sets e (whole_of_ofMinute made) (minute_of_ofMinute made)
  | none =>
    rcases reached with ⟨e, valid⟩ | rfl
    · rw [made] at valid
      cases valid
    · rw [made]
      rfl

lemma nextMinute_eq (whole : d.Whole) : nextMinute zone d = zone.ofMinute (zone.minute d + 1) := by
  unfold nextMinute
  rw [setMinutes_eq whole, getMinutes_eq]
  congr 1
  omega

lemma nextHour_eq (whole : d.Whole)
    (reached : (∃ e, zone.ofMinute (zone.minute d + 60) = some e) ∨ zone.minute d % 60 = 0) :
    nextHour zone d = zone.ofMinute (60 * (zone.minute d / 60 + 1)) := by
  have first : d.setHours zone (d.getHours zone + 1) = zone.ofMinute (zone.minute d + 60) := by
    rw [setHours_eq whole, getHours_eq]
    congr 1
    omega
  unfold nextHour
  rw [first]
  refine bind_ofMinute (fun e whole' minute' => ?_) ?_
  · rw [setMinutes_eq whole', minute']
    congr 1
    omega
  · refine reached.imp id fun boundary => ?_
    omega

lemma setMidnight_eq {minute : Int}
    (reached : (∃ e, zone.ofMinute minute = some e) ∨ minute % 1440 = 0)
    (middle : (∃ e, zone.ofMinute (1440 * (minute / 1440) + minute % 60) = some e) ∨
      minute % 60 = 0) :
    ((zone.ofMinute minute).bind fun e => (e.setHours zone 0).bind fun e => e.setMinutes zone 0) =
      zone.ofMinute (1440 * (minute / 1440)) := by
  refine bind_ofMinute (fun e whole' minute' => ?_) (reached.imp id fun boundary => by omega)
  rw [setHours_eq whole', minute', mul_zero, add_zero]
  refine bind_ofMinute (fun e whole'' minute'' => ?_) (middle.imp id fun boundary => by omega)
  rw [setMinutes_eq whole'', minute'']
  congr 1
  omega

lemma ofMinute_before (whole : d.Whole) {minute last : Int} (after : zone.minute d ≤ minute)
    (before : minute ≤ last) (reached : ∃ e, zone.ofMinute last = some e) :
    ∃ e, zone.ofMinute minute = some e := by
  obtain ⟨e, made⟩ := reached
  rw [ofMinute_eq_some] at made
  exact @exists_ofMinute zone minute d e after (by omega) whole

lemma nextDay_eq (whole : d.Whole)
    (reached : (∃ e, zone.ofMinute (zone.minute d + 1440) = some e) ∨ zone.minute d % 1440 = 0) :
    nextDay zone d = zone.ofMinute (1440 * (zone.minute d / 1440 + 1)) := by
  have first : d.setDate zone (d.getDate zone + 1) = zone.ofMinute (zone.minute d + 1440) := by
    rw [setDate_eq whole, getDate_eq]
    unfold dateOf
    congr 1
    omega
  have midnight := @setMidnight_eq zone (zone.minute d + 1440)
    (reached.imp id fun boundary => by omega)
    (reached.imp (ofMinute_before whole (by omega) (by omega)) fun boundary => by omega)
  unfold nextDay
  rw [first]
  refine midnight.trans ?_
  congr 1
  omega

/-- The minute to which setting the next month leads first. -/
def sameDateNextMonth (minute : Int) : Int :=
  1440 * (monthStart (monthOf (minute / 1440) + 1) + dateOf (minute / 1440) - 1) + minute % 1440

lemma nextMonth_eq (whole : d.Whole)
    (reached : (∃ e, zone.ofMinute (sameDateNextMonth (zone.minute d)) = some e) ∨
      zone.minute d = 1440 * monthStart (monthOf (zone.minute d / 1440))) :
    nextMonth zone d =
      zone.ofMinute (1440 * monthStart (overflowMonth (zone.minute d / 1440))) := by
  have first : d.setMonth zone (d.getMonth zone + 1) =
      zone.ofMinute (sameDateNextMonth (zone.minute d)) := setMonth_eq whole 1
  have date := dateOf_bounds (zone.minute d / 1440)
  have month := monthOf_spec (zone.minute d / 1440)
  obtain ⟨start, -⟩ := monthOf_spec
    (monthStart (monthOf (zone.minute d / 1440) + 1) + dateOf (zone.minute d / 1440) - 1)
  have later : monthStart (monthOf (zone.minute d / 1440) + 1) ≤
      monthStart (overflowMonth (zone.minute d / 1440)) := by
    refine monthStart_le (le_trans (monthOf_eq le_rfl (monthStart_lt_succ _)).ge ?_)
    exact monthOf_le (by omega)
  change monthStart (overflowMonth (zone.minute d / 1440)) ≤ _ at start
  have place : sameDateNextMonth (zone.minute d) / 1440 =
      monthStart (monthOf (zone.minute d / 1440) + 1) + dateOf (zone.minute d / 1440) - 1 := by
    unfold sameDateNextMonth
    omega
  have inDay : sameDateNextMonth (zone.minute d) % 1440 = zone.minute d % 1440 := by
    unfold sameDateNextMonth
    omega
  have boundary (same : zone.minute d = 1440 * monthStart (monthOf (zone.minute d / 1440))) :
      sameDateNextMonth (zone.minute d) =
        1440 * monthStart (overflowMonth (zone.minute d / 1440)) := by
    have one : dateOf (zone.minute d / 1440) = 1 := by
      unfold dateOf
      omega
    have long := monthLength_bounds (monthOf (zone.minute d / 1440) + 1)
    rw [overflowMonth_of_le (by omega)]
    unfold sameDateNextMonth
    omega
  have midnight := @setMidnight_eq zone
    (1440 * monthStart (overflowMonth (zone.minute d / 1440)) + zone.minute d % 1440)
    (reached.imp (ofMinute_before whole (by omega) (by omega)) fun same => by omega)
    (reached.imp (ofMinute_before whole (by omega) (by omega)) fun same => by omega)
  unfold nextMonth
  rw [first]
  refine @bind_ofMinute zone _ (1440 * monthStart (overflowMonth (zone.minute d / 1440))) _
    (fun e whole' minute' => ?_) (reached.imp id boundary)
  have second : e.setDate zone 1 = zone.ofMinute
      (1440 * monthStart (overflowMonth (zone.minute d / 1440)) + zone.minute d % 1440) := by
    rw [setDate_eq whole', minute', place, inDay]
    unfold overflowMonth
    congr 1
    omega
  dsimp
  rw [second]
  refine midnight.trans ?_
  congr 1
  omega

end

/-! ## Positions of the search -/

/-- A date of which 62 days later is still a date. -/
def Instant.Roomy (d : Instant) : Prop := d.time + 62 * 86400000 ≤ maxTime

/-- A position of the search: a field that does not match is at its boundary, or the
search has not moved; then the day is one of the next month too. -/
structure Placed (fields : CronFields) (zone : Zone) (d : Instant) : Prop where
  whole : d.Whole
  month : fields.monthOk (zone.minute d) = true ∨
    zone.minute d = 1440 * monthStart (monthOf (zone.minute d / 1440)) ∨
    d.Roomy ∧ dateOf (zone.minute d / 1440) ≤ monthLength (monthOf (zone.minute d / 1440) + 1)
  day : fields.dayOk (zone.minute d) = true ∨ zone.minute d % 1440 = 0 ∨ d.Roomy
  hour : fields.hourOk (zone.minute d) = true ∨ zone.minute d % 60 = 0 ∨ d.Roomy

section

variable {fields : CronFields} {zone : Zone} {d e : Instant}

lemma ofMinute_of_roomy (roomy : d.Roomy) (whole : d.Whole) {minute : Int}
    (after : zone.minute d ≤ minute) (near : minute ≤ zone.minute d + 62 * 1440) :
    ∃ e, zone.ofMinute minute = some e := by
  have time := whole.time_eq zone
  have low := d.valid
  unfold Instant.Roomy at roomy
  exact ⟨⟨60000 * (minute - zone.offset), by omega, by omega⟩, ofMinute_eq_some.mpr rfl⟩

lemma placed_month {month : Int} (made : zone.ofMinute (1440 * monthStart month) = some e) :
    Placed fields zone e := by
  have minute := minute_of_ofMinute made
  have day : zone.minute e / 1440 = monthStart month := by omega
  refine ⟨whole_of_ofMinute made, .inr (.inl ?_), .inr (.inl ?_), .inr (.inl ?_)⟩
  · rw [day, monthOf_eq le_rfl (monthStart_lt_succ month), minute]
  · omega
  · omega

lemma placed_day {minute : Int} (good : fields.monthOk minute = true)
    (made : zone.ofMinute (1440 * (minute / 1440 + 1)) = some e) : Placed fields zone e := by
  have minute' := minute_of_ofMinute made
  obtain ⟨start, ending⟩ := monthOf_spec (minute / 1440)
  rcases (Int.add_one_le_of_lt ending).lt_or_eq with same | next
  · have month : monthOf (minute / 1440 + 1) = monthOf (minute / 1440) := monthOf_eq (by omega) same
    refine ⟨whole_of_ofMinute made, .inl ?_, .inr (.inl ?_), .inr (.inl ?_)⟩
    · rw [minute']
      unfold monthOk at good ⊢
      rwa [Int.mul_ediv_cancel_left _ (by decide), month]
    · omega
    · omega
  · rw [next] at made
    exact placed_month made

lemma sameDay_ok {later minute : Int} (same : later / 1440 = minute / 1440) :
    fields.monthOk later = fields.monthOk minute ∧ fields.dayOk later = fields.dayOk minute := by
  unfold monthOk dayOk
  rw [same]
  exact ⟨rfl, rfl⟩

lemma placed_hour {minute : Int} (goodMonth : fields.monthOk minute = true)
    (goodDay : fields.dayOk minute = true)
    (made : zone.ofMinute (60 * (minute / 60 + 1)) = some e) : Placed fields zone e := by
  have minute' := minute_of_ofMinute made
  by_cases same : 60 * (minute / 60 + 1) / 1440 = minute / 1440
  · refine ⟨whole_of_ofMinute made, .inl ?_, .inl ?_, .inr (.inl ?_)⟩
    · rwa [minute', (sameDay_ok same).1]
    · rwa [minute', (sameDay_ok same).2]
    · omega
  · rw [show 60 * (minute / 60 + 1) = 1440 * (minute / 1440 + 1) by omega] at made
    exact placed_day goodMonth made

lemma placed_minute {minute : Int} (goodMonth : fields.monthOk minute = true)
    (goodDay : fields.dayOk minute = true) (goodHour : fields.hourOk minute = true)
    (made : zone.ofMinute (minute + 1) = some e) : Placed fields zone e := by
  have minute' := minute_of_ofMinute made
  by_cases same : (minute + 1) / 60 = minute / 60
  · have sameDay : (minute + 1) / 1440 = minute / 1440 := by omega
    refine ⟨whole_of_ofMinute made, .inl ?_, .inl ?_, .inl ?_⟩
    · rwa [minute', (sameDay_ok sameDay).1]
    · rwa [minute', (sameDay_ok sameDay).2]
    · rw [minute']
      unfold hourOk at goodHour ⊢
      rwa [same]
  · rw [show minute + 1 = 60 * (minute / 60 + 1) by omega] at made
    exact placed_hour goodMonth goodDay made

/-- The minute to which the search moves from one that does not match. -/
def CronFields.target (fields : CronFields) (minute : Int) : Int :=
  if !fields.monthOk minute then 1440 * monthStart (overflowMonth (minute / 1440))
  else if !fields.dayOk minute then 1440 * (minute / 1440 + 1)
  else if !fields.hourOk minute then 60 * (minute / 60 + 1)
  else minute + 1

/-- A turn of the loop of `getNextRun`. -/
def moveNextRun (fields : CronFields) (zone : Zone) (d : Instant) : Date :=
  if !fields.monthOk (zone.minute d) then nextMonth zone d
  else if !fields.dayOk (zone.minute d) then nextDay zone d
  else if !fields.hourOk (zone.minute d) then nextHour zone d
  else nextMinute zone d

lemma searchNextRun_eq_leap (fields : CronFields) (zone : Zone) (limit : Instant) (fuel : Nat)
    (d : Date) : searchNextRun zone fields limit fuel d =
      leap (fields.accepts zone) (moveNextRun fields zone) limit fuel d := by
  induction fuel generalizing d with
  | zero => rfl
  | succ fuel ih =>
    cases d with
    | none => rfl
    | some d =>
      unfold searchNextRun leap
      rw [fields.accepts_eq]
      unfold moveNextRun
      have month : has fields.months (d.getMonth zone + 1) = fields.monthOk (zone.minute d) := by
        rw [getMonth_eq]
        rfl
      have day : (!has fields.days (d.getDate zone) || !has fields.weekdays (d.getDay zone)) =
          !fields.dayOk (zone.minute d) := by
        rw [getDate_eq, getDay_eq]
        exact (Bool.not_and _ _).symm
      have hour : has fields.hours (d.getHours zone) = fields.hourOk (zone.minute d) := by
        rw [getHours_eq]
        rfl
      have minute : has fields.minutes (d.getMinutes zone) = fields.minuteOk (zone.minute d) := by
        rw [getMinutes_eq]
        rfl
      rw [month, day, hour, minute]
      simp only [ih]
      by_cases before : d < limit
      · rw [if_pos before, if_pos before]
        cases fields.monthOk (zone.minute d) <;> cases fields.dayOk (zone.minute d) <;>
          cases fields.hourOk (zone.minute d) <;> cases fields.minuteOk (zone.minute d) <;> rfl
      · rw [if_neg before, if_neg before]

lemma Placed.fits (placed : Placed fields zone d) (bad : fields.monthOk (zone.minute d) = false) :
    dateOf (zone.minute d / 1440) ≤ monthLength (monthOf (zone.minute d / 1440) + 1) := by
  rcases placed.month with good | boundary | ⟨-, fits⟩
  · rw [bad] at good
    cases good
  · have long := monthLength_bounds (monthOf (zone.minute d / 1440) + 1)
    unfold dateOf
    omega
  · exact fits

lemma sameDateNextMonth_bounds (minute : Int) :
    minute ≤ sameDateNextMonth minute ∧ sameDateNextMonth minute ≤ minute + 62 * 1440 := by
  have date := dateOf_bounds (minute / 1440)
  have start := monthStart_succ (monthOf (minute / 1440))
  have long := monthLength_bounds (monthOf (minute / 1440))
  have month := monthOf_spec (minute / 1440)
  have day : dateOf (minute / 1440) = minute / 1440 - monthStart (monthOf (minute / 1440)) + 1 := rfl
  unfold sameDateNextMonth
  omega

lemma Placed.moveNextRun_eq (placed : Placed fields zone d) :
    moveNextRun fields zone d = zone.ofMinute (fields.target (zone.minute d)) := by
  unfold moveNextRun target
  cases month : fields.monthOk (zone.minute d) with
  | false =>
    have bounds := sameDateNextMonth_bounds (zone.minute d)
    refine nextMonth_eq placed.whole ?_
    rcases placed.month with good | boundary | ⟨roomy, -⟩
    · rw [month] at good
      cases good
    · exact .inr boundary
    · exact .inl (ofMinute_of_roomy roomy placed.whole bounds.1 bounds.2)
  | true =>
    cases day : fields.dayOk (zone.minute d) with
    | false =>
      refine nextDay_eq placed.whole ?_
      rcases placed.day with good | boundary | roomy
      · rw [day] at good
        cases good
      · exact .inr boundary
      · exact .inl (ofMinute_of_roomy roomy placed.whole (by omega) (by omega))
    | true =>
      cases hour : fields.hourOk (zone.minute d) with
      | false =>
        refine nextHour_eq placed.whole ?_
        rcases placed.hour with good | boundary | roomy
        · rw [hour] at good
          cases good
        · exact .inr boundary
        · exact .inl (ofMinute_of_roomy roomy placed.whole (by omega) (by omega))
      | true => exact nextMinute_eq placed.whole

lemma Placed.lt_target (placed : Placed fields zone d) :
    zone.minute d < fields.target (zone.minute d) := by
  have day := monthOf_spec (zone.minute d / 1440)
  unfold target
  split_ifs with month
  · rw [Bool.not_eq_true'] at month
    rw [overflowMonth_of_le (placed.fits month)]
    omega
  · omega
  · omega
  · omega

lemma placed_target (made : zone.ofMinute (fields.target (zone.minute d)) = some e) :
    Placed fields zone e := by
  unfold target at made
  cases month : fields.monthOk (zone.minute d) with
  | false =>
    rw [month] at made
    exact placed_month made
  | true =>
    rw [month] at made
    cases day : fields.dayOk (zone.minute d) with
    | false =>
      rw [day] at made
      exact placed_day month made
    | true =>
      rw [day] at made
      cases hour : fields.hourOk (zone.minute d) with
      | false =>
        rw [hour] at made
        exact placed_hour month day made
      | true =>
        rw [hour] at made
        exact placed_minute month day hour made

lemma Placed.skips (placed : Placed fields zone d) (bad : fields.accepts zone d = false)
    (after : zone.minute d ≤ zone.minute e)
    (before : zone.minute e < fields.target (zone.minute d)) : fields.accepts zone e = false := by
  rw [fields.accepts_eq] at bad ⊢
  unfold target at before
  cases month : fields.monthOk (zone.minute d) with
  | false =>
    rw [month, overflowMonth_of_le (placed.fits month)] at before
    simp only [Bool.not_false, if_true] at before
    obtain ⟨start, ending⟩ := monthOf_spec (zone.minute d / 1440)
    have same : monthOf (zone.minute e / 1440) = monthOf (zone.minute d / 1440) :=
      monthOf_eq (by omega) (by omega)
    have bad' : fields.monthOk (zone.minute e) = false := by
      unfold monthOk at month ⊢
      rwa [same]
    rw [bad']
    rfl
  | true =>
    rw [month] at before bad
    cases day : fields.dayOk (zone.minute d) with
    | false =>
      rw [day] at before
      simp only [Bool.not_false, Bool.not_true, if_true, Bool.false_eq_true, if_false] at before
      have same : zone.minute e / 1440 = zone.minute d / 1440 := by omega
      have bad' : fields.dayOk (zone.minute e) = false := by
        unfold dayOk at day ⊢
        rwa [same]
      rw [bad', Bool.and_false]
      rfl
    | true =>
      rw [day] at before bad
      cases hour : fields.hourOk (zone.minute d) with
      | false =>
        rw [hour] at before
        simp only [Bool.not_false, Bool.not_true, if_true, Bool.false_eq_true, if_false] at before
        have same : zone.minute e / 60 = zone.minute d / 60 := by omega
        have bad' : fields.hourOk (zone.minute e) = false := by
          unfold hourOk at hour ⊢
          rwa [same]
        rw [bad', Bool.and_false]
        rfl
      | true =>
        rw [hour] at before bad
        simp only [Bool.not_true, Bool.false_eq_true, if_false] at before
        have same : zone.minute e = zone.minute d := by omega
        rw [same, month, day, hour]
        exact bad

end

end Knowbee
