import Knowbee.Schedule.CronSearch

/-!
# The next run is the least match

`getNextRun` finds the least match exactly if its first move skips no match and
its limit is a date.  It then agrees with `getNextRunInTimezone` exactly if the
first minute that matches the local calendar is the first one that matches the
parts that the formatter writes.
-/

namespace Knowbee

open Calendar LeastSearch Instant Zone

/-- Four calendar years after an instant, also where that is not a date. -/
def fourYearsTime (zone : Zone) (from_ : Instant) : Int :=
  makeDate (makeDay (from_.getFullYear zone + 4) (from_.getMonth zone) (from_.getDate zone))
    (timeWithinDay (zone.localTime from_)) - 60000 * zone.offset

/-- The beginning of a minute after that of another instant. -/
def Instant.Later (from_ t : Instant) : Prop := t.Whole ∧ from_.time / 60000 < t.time / 60000

/-- The minutes that match, before four years later. -/
def CronFields.candidates (fields : CronFields) (zone : Zone) (from_ : Instant) : Set Instant :=
  {t | from_.Later t ∧ t.time < fourYearsTime zone from_ ∧ fields.accepts zone t = true}

/-- The minutes whose parts in a zone match, before four years later in UTC. -/
def CronFields.zonedCandidates (fields : CronFields) (clock : Clock) (from_ : Instant) :
    Set Instant :=
  {t | from_.Later t ∧ t.time < fourYearsTime utc from_ ∧
    matchesCronFields fields (readZonedParts clock t) = true}

section

variable {fields : CronFields} {zone : Zone} {from_ : Instant}

lemma fourYearsTime_ge : from_.time + 1344 * 86400000 ≤ fourYearsTime zone from_ := by
  have months := monthStart_add_ge (monthOf (zone.minute from_ / 1440)) 48
  have day : dayOf (zone.localTime from_) = zone.minute from_ / 1440 := by
    rw [zone.minute_eq_div]
    unfold dayOf
    omega
  have date : dateOf (zone.minute from_ / 1440) =
      dayOf (zone.localTime from_) - monthStart (monthOf (zone.minute from_ / 1440)) + 1 := by
    rw [day]
    rfl
  have same : 12 * (monthOf (zone.minute from_ / 1440) / 12 + 4) +
      monthOf (zone.minute from_ / 1440) % 12 = monthOf (zone.minute from_ / 1440) + 48 := by omega
  unfold fourYearsTime makeDate makeDay timeWithinDay
  rw [getFullYear_eq, getMonth_eq, getDate_eq, same, date]
  unfold dayOf localTime
  push_cast at months
  omega

lemma followingMinute_eq : followingMinute zone from_ =
    zone.ofMinute (zone.minute from_ + 1) := by
  have valid := from_.valid
  have seconds : from_.setSeconds zone 0 =
      timeClip (from_.time - 1000 * secondsOf (zone.localTime from_)) := by
    have parts := makeDate_parts (zone.localTime from_)
    unfold setSeconds
    dsimp only [Zone.clock]
    unfold Zone.date
    unfold makeDate makeTime at *
    have time : zone.localTime from_ = from_.time + 60000 * zone.offset := rfl
    congr 1
    omega
  have minute : from_.time - 1000 * secondsOf (zone.localTime from_) =
      from_.time / 60000 * 60000 + from_.time % 1000 := by
    unfold secondsOf Zone.localTime
    omega
  unfold maxTime at valid
  obtain ⟨first, made⟩ : ∃ first,
      timeClip (from_.time - 1000 * secondsOf (zone.localTime from_)) = some first := by
    rw [minute]
    exact ⟨⟨_, by unfold maxTime; omega, by unfold maxTime; omega⟩, timeClip_eq_some.mpr rfl⟩
  have firstTime := (timeClip_eq_some.mp made).trans minute
  have milliseconds : first.setMilliseconds zone 0 = timeClip (from_.time / 60000 * 60000) := by
    have parts := makeDate_parts (zone.localTime first)
    have rest : millisecondsOf (zone.localTime first) = from_.time % 1000 := by
      unfold millisecondsOf Zone.localTime
      omega
    unfold setMilliseconds
    dsimp only [Zone.clock]
    unfold Zone.date
    unfold makeDate makeTime at *
    have time : zone.localTime first = first.time + 60000 * zone.offset := rfl
    congr 1
    omega
  obtain ⟨second, made'⟩ : ∃ second,
      timeClip (from_.time / 60000 * 60000) = some second :=
    ⟨⟨_, by unfold maxTime; omega, by unfold maxTime; omega⟩, timeClip_eq_some.mpr rfl⟩
  have secondTime := timeClip_eq_some.mp made'
  have whole : second.Whole := by
    unfold Instant.Whole
    omega
  have same : zone.minute second = zone.minute from_ := by
    unfold Zone.minute
    omega
  have last := @nextMinute_eq zone second whole
  unfold followingMinute
  rw [seconds, made]
  dsimp only [bind, Option.bind]
  rw [milliseconds, made']
  dsimp only
  rw [← same]
  exact last

lemma later_iff {start t : Instant} (made : followingMinute zone from_ = some start) :
    from_.Later t ↔ t.Whole ∧ start ≤ t := by
  rw [followingMinute_eq, ofMinute_eq_some] at made
  unfold Instant.Later Instant.Whole minute at *
  rw [le_iff]
  constructor
  · rintro ⟨whole, after⟩
    exact ⟨whole, by omega⟩
  · rintro ⟨whole, after⟩
    exact ⟨whole, by omega⟩

end

/-! ## Both searches -/

section

variable {fields : CronFields} {zone : Zone} {clock : Clock} {limit : Instant}

lemma leaps_nextRun : Leaps (fields.accepts zone) (moveNextRun fields zone) limit
    (fun t => t.Whole ∧ fields.accepts zone t = true) (Placed fields zone)
    (fun d => (limit.time - d.time).toNat) where
  accepts place placed := ⟨fun accepted => ⟨placed.whole, accepted⟩, fun good => good.2⟩
  moves place placed before bad further moved := by
    rw [placed.moveNextRun_eq] at moved
    have placed' : Placed fields zone further := placed_target moved
    have forward := placed.lt_target
    have minute := minute_of_ofMinute moved
    have time := placed.whole.time_eq zone
    have time' := placed'.whole.time_eq zone
    rw [lt_iff] at before
    refine ⟨placed', ?_, ?_⟩
    · rw [lt_iff]
      omega
    · omega
  skips place placed before bad t ahead := by
    obtain ⟨⟨whole, accepted⟩, after, early⟩ := ahead
    have refused : fields.accepts zone place = false := by
      rw [Bool.eq_false_iff]
      exact fun good => bad ⟨placed.whole, good⟩
    have time := placed.whole.time_eq zone
    have time' := whole.time_eq zone
    rw [le_iff] at after
    have behind : fields.target (zone.minute place) ≤ zone.minute t := by
      by_contra skipped
      rw [placed.skips refused (by omega) (by omega)] at accepted
      cases accepted
    obtain ⟨e, made⟩ := ofMinute_before placed.whole placed.lt_target.le behind
      ⟨t, ofMinute_eq_some.mpr time'⟩
    rw [placed.moveNextRun_eq]
    refine ⟨e, made, ?_⟩
    rw [ofMinute_eq_some] at made
    rw [le_iff]
    omega
  ends place done := by
    rw [lt_iff]
    omega

lemma searchInTimezone_eq_leap (fuel : Nat) (cursor : Date) :
    searchInTimezone clock fields limit fuel cursor =
      leap (fun d => matchesCronFields fields (readZonedParts clock d)) (nextMinute utc) limit
        fuel cursor := by
  induction fuel generalizing cursor with
  | zero => rfl
  | succ fuel ih =>
    cases cursor with
    | none => rfl
    | some cursor =>
      unfold searchInTimezone leap
      rw [ih]

lemma leaps_zoned : Leaps (fun d => matchesCronFields fields (readZonedParts clock d))
    (nextMinute utc) limit
    (fun t => t.Whole ∧ matchesCronFields fields (readZonedParts clock t) = true) Instant.Whole
    (fun d => (limit.time - d.time).toNat) where
  accepts place whole := ⟨fun accepted => ⟨whole, accepted⟩, fun good => good.2⟩
  moves place whole before bad further moved := by
    rw [nextMinute_eq whole] at moved
    have whole' := whole_of_ofMinute moved
    have minute := minute_of_ofMinute moved
    have time := whole.time_eq utc
    have time' := whole'.time_eq utc
    rw [lt_iff] at before
    refine ⟨whole', ?_, ?_⟩
    · rw [lt_iff]
      omega
    · omega
  skips place whole before bad t ahead := by
    obtain ⟨good, after, early⟩ := ahead
    have time := whole.time_eq utc
    have time' := good.1.time_eq utc
    have behind : place < t := by
      refine lt_of_le_of_ne after ?_
      rintro rfl
      exact bad good
    rw [lt_iff] at behind
    obtain ⟨e, made⟩ := @ofMinute_before utc place whole (utc.minute place + 1) (utc.minute t)
      (by omega) (by omega) ⟨t, ofMinute_eq_some.mpr time'⟩
    rw [nextMinute_eq whole]
    refine ⟨e, made, ?_⟩
    rw [ofMinute_eq_some] at made
    rw [le_iff]
    omega
  ends place done := by
    rw [lt_iff]
    omega

end

/-! ## The results -/

/-- A search returns the least of some instants, and throws if there are none. -/
structure FindsLeast (result : Except String Instant) (instants : Set Instant) : Prop where
  least : ∀ run, result = .ok run ↔ IsLeast instants run
  throws : (∃ error, result = .error error) ↔ instants = ∅

lemma findsLeast_iff_of_error (error : String) (instants : Set Instant) :
    FindsLeast (.error error) instants ↔ instants = ∅ := by
  constructor
  · exact fun finds => finds.throws.mp ⟨error, rfl⟩
  · rintro rfl
    refine ⟨fun run => ⟨?_, fun least => absurd least.1 (Set.notMem_empty run)⟩, ?_⟩
    · intro found
      cases found
    · exact ⟨fun _ => rfl, fun _ => ⟨error, rfl⟩⟩

section

variable {platform : CronPlatform} {expr : String} {fields : CronFields} {zone : Zone}
  {clock : Clock} {from_ start limit : Instant}

/-- What the loop of `getNextRun` found, as its result. -/
def runOr (error : String) : Date → Except String Instant
  | some run => .ok run
  | none => .error error

lemma findsLeast_runOr {error : String} {found : Date} {instants : Set Instant}
    (least : ∀ run, found = some run ↔ IsLeast instants run)
    (nothing : found = none ↔ instants = ∅) : FindsLeast (runOr error found) instants := by
  cases found with
  | none => exact (findsLeast_iff_of_error error instants).mpr (nothing.mp rfl)
  | some run =>
    refine ⟨fun other => ?_, ?_⟩
    · rw [← least other, Option.some_inj]
      exact ⟨Except.ok.inj, congrArg Except.ok⟩
    · constructor
      · rintro ⟨_, thrown⟩
        cases thrown
      · intro empty
        cases nothing.mpr empty

lemma room_of_limit (limited : fourYearsTime zone from_ ≤ maxTime) :
    ∃ start limit, followingMinute zone from_ = some start ∧
      fourYearsLater zone from_ = some limit ∧ limit.time = fourYearsTime zone from_ ∧
      start.Whole ∧ start.Roomy ∧ start < limit ∧ zone.minute start = zone.minute from_ + 1 := by
  have valid := from_.valid
  have later := @fourYearsTime_ge zone from_
  have minute : 60000 * (zone.minute from_ + 1 - zone.offset) ≤ from_.time + 60000 ∧
      from_.time < 60000 * (zone.minute from_ + 1 - zone.offset) := by
    unfold minute
    omega
  have start : zone.ofMinute (zone.minute from_ + 1) =
      some ⟨60000 * (zone.minute from_ + 1 - zone.offset), by omega, by omega⟩ :=
    ofMinute_eq_some.mpr rfl
  refine ⟨_, ⟨fourYearsTime zone from_, by omega, limited⟩, followingMinute_eq.trans start,
    timeClip_eq_some.mpr rfl, rfl, whole_of_ofMinute start, ?_, ?_,
    minute_of_ofMinute start⟩
  · unfold Instant.Roomy
    dsimp only
    omega
  · rw [lt_iff]
    dsimp only
    omega

lemma later_eq_ahead {last : Int} {accepts : Instant → Prop}
    (made : followingMinute zone from_ = some start) (limited : limit.time = last) :
    {t | from_.Later t ∧ t.time < last ∧ accepts t} =
      Ahead (fun t => t.Whole ∧ accepts t) limit start := by
  ext t
  unfold Ahead
  rw [Set.mem_ofPred_eq, Set.mem_ofPred_eq, later_iff made, lt_iff, limited]
  constructor
  · exact fun ⟨⟨whole, after⟩, before, accepted⟩ => ⟨⟨whole, accepted⟩, after, before⟩
  · exact fun ⟨⟨whole, accepted⟩, after, before⟩ => ⟨⟨whole, after⟩, before, accepted⟩

lemma candidates_eq (made : followingMinute zone from_ = some start)
    (limited : limit.time = fourYearsTime zone from_) : fields.candidates zone from_ =
      Ahead (fun t => t.Whole ∧ fields.accepts zone t = true) limit start :=
  later_eq_ahead made limited

lemma zonedCandidates_eq (made : followingMinute utc from_ = some start)
    (limited : limit.time = fourYearsTime utc from_) : fields.zonedCandidates clock from_ =
      Ahead (fun t => t.Whole ∧ matchesCronFields fields (readZonedParts clock t) = true)
        limit start :=
  later_eq_ahead made limited

section

variable (accepted : parseCron platform expr = .ok fields)

include accepted

lemma getNextRun_eq :
    getNextRun zone platform expr from_ =
      runOr ("No matching time found for cron: \"" ++ expr ++ "\"")
        ((fourYearsLater zone from_).bind fun limit => searchNextRun zone fields limit
          (searchFuel limit (followingMinute zone from_)) (followingMinute zone from_)) := by
  unfold getNextRun
  rw [accepted]
  dsimp only [bind, Except.bind]
  cases (fourYearsLater zone from_).bind fun limit => searchNextRun zone fields limit
    (searchFuel limit (followingMinute zone from_)) (followingMinute zone from_) <;> rfl

lemma getNextRunInTimezone_eq :
    getNextRunInTimezone platform expr from_ clock =
      runOr ("No matching time found for cron: \"" ++ expr ++ "\" in timezone: " ++ clock.name)
        ((fourYearsLater utc from_).bind fun limit => searchInTimezone clock fields limit
          (searchFuel limit (followingMinute utc from_)) (followingMinute utc from_)) := by
  unfold getNextRunInTimezone
  rw [accepted]
  dsimp only [bind, Except.bind]
  cases (fourYearsLater utc from_).bind fun limit => searchInTimezone clock fields limit
    (searchFuel limit (followingMinute utc from_)) (followingMinute utc from_) <;> rfl

/-- **The minute-by-minute search finds the least match of the zone.** -/
lemma getNextRunInTimezone_findsLeast (limited : fourYearsTime utc from_ ≤ maxTime) :
    FindsLeast (getNextRunInTimezone platform expr from_ clock)
      (fields.zonedCandidates clock from_) := by
  obtain ⟨start, limit, made, later, time, whole, -⟩ := room_of_limit limited
  rw [getNextRunInTimezone_eq accepted, made, later, zonedCandidates_eq made time]
  have leaps := @leaps_zoned fields clock limit
  refine findsLeast_runOr (fun run => ?_) ?_
  · exact (iff_of_eq (congrArg (· = some run) (searchInTimezone_eq_leap _ _))).trans
      (leap_eq_some_iff leaps whole le_rfl run)
  · exact (iff_of_eq (congrArg (· = none) (searchInTimezone_eq_leap _ _))).trans
      (leap_eq_none_iff leaps whole le_rfl)

lemma getNextRunInTimezone_unlimited (unlimited : ¬fourYearsTime utc from_ ≤ maxTime)
    (run : Instant) : getNextRunInTimezone platform expr from_ clock ≠ .ok run := by
  have late : fourYearsLater utc from_ = none :=
    timeClip_eq_none.mpr (.inr (Int.not_le.mp unlimited))
  rw [getNextRunInTimezone_eq accepted, late]
  nofun

end

/-- The first move of the search skips a match: the month of the first minute does
not match, its day is past the end of the next month, and that month has a match. -/
def SkipsMonth (fields : CronFields) (zone : Zone) (from_ : Instant) : Prop :=
  let minute := zone.minute from_ + 1
  fields.monthOk minute = false ∧
    monthLength (monthOf (minute / 1440) + 1) < dateOf (minute / 1440) ∧
      ∃ run ∈ fields.candidates zone from_,
        monthOf (zone.minute run / 1440) = monthOf (minute / 1440) + 1

lemma findsLeast_of_placed {error : String} {fuel : Nat} (placed : Placed fields zone start)
    (enough : (limit.time - start.time).toNat ≤ fuel) :
    FindsLeast (runOr error (searchNextRun zone fields limit fuel (some start)))
      (Ahead (fun t => t.Whole ∧ fields.accepts zone t = true) limit start) := by
  have leaps := @leaps_nextRun fields zone limit
  rw [searchNextRun_eq_leap]
  exact findsLeast_runOr (leap_eq_some_iff leaps placed enough)
    (leap_eq_none_iff leaps placed enough)

/-- A first minute at which the month overflows is left for the month after the next. -/
lemma searchNextRun_overflow (whole : start.Whole) (roomy : start.Roomy) (before : start < limit)
    (month : fields.monthOk (zone.minute start) = false)
    (long : monthLength (monthOf (zone.minute start / 1440) + 1) <
      dateOf (zone.minute start / 1440)) :
    ∃ second : Instant, zone.minute second =
        1440 * monthStart (monthOf (zone.minute start / 1440) + 2) ∧
      Placed fields zone second ∧ start < second ∧
      searchNextRun zone fields limit (limit.time - start.time).toNat (some start) =
        searchNextRun zone fields limit ((limit.time - start.time).toNat - 1) (some second) := by
  have bounds := sameDateNextMonth_bounds (zone.minute start)
  have month_eq := overflowMonth_of_gt long
  have moved : moveNextRun fields zone start =
      zone.ofMinute (1440 * monthStart (monthOf (zone.minute start / 1440) + 2)) := by
    unfold moveNextRun
    rw [month, ← month_eq]
    exact nextMonth_eq whole (.inl (ofMinute_of_roomy roomy whole bounds.1 bounds.2))
  have day := monthOf_spec (zone.minute start / 1440)
  have next := monthStart_lt_succ (monthOf (zone.minute start / 1440) + 1)
  have first := monthStart_succ (monthOf (zone.minute start / 1440))
  have second := monthStart_succ (monthOf (zone.minute start / 1440) + 1)
  have short := monthLength_bounds (monthOf (zone.minute start / 1440))
  have short' := monthLength_bounds (monthOf (zone.minute start / 1440) + 1)
  rw [add_assoc, show (1 : Int) + 1 = 2 from rfl] at next second
  obtain ⟨target, made⟩ := @ofMinute_of_roomy zone start roomy whole
    (1440 * monthStart (monthOf (zone.minute start / 1440) + 2)) (by omega) (by omega)
  have minute := minute_of_ofMinute made
  have whole' := whole_of_ofMinute made
  have time := whole.time_eq zone
  have time' := whole'.time_eq zone
  have turn : ∃ fuel, (limit.time - start.time).toNat = fuel + 1 := by
    rw [lt_iff] at before
    exact Nat.exists_eq_succ_of_ne_zero (by omega)
  obtain ⟨fuel, fuel_eq⟩ := turn
  refine ⟨target, minute, placed_month made, ?_, ?_⟩
  · rw [lt_iff]
    omega
  · rw [fuel_eq, Nat.add_sub_cancel, searchNextRun_eq_leap, searchNextRun_eq_leap, leap,
      if_pos before, fields.accepts_eq, month, moved, made]
    rfl

/-- Between the first minute and the month after the next, all matches are in the
next month, when the month of the first minute does not match. -/
lemma month_of_skipped {second t : Instant} (month : fields.monthOk (zone.minute start) = false)
    (target : zone.minute second = 1440 * monthStart (monthOf (zone.minute start / 1440) + 2))
    (whole : start.Whole) (whole' : second.Whole) (whole'' : t.Whole)
    (accepted : fields.accepts zone t = true) (after : start ≤ t) :
    second ≤ t ∨ monthOf (zone.minute t / 1440) = monthOf (zone.minute start / 1440) + 1 := by
  have time := whole.time_eq zone
  have time' := whole'.time_eq zone
  have time'' := whole''.time_eq zone
  rw [le_iff] at *
  by_cases far : second.time ≤ t.time
  · exact .inl far
  · refine .inr (monthOf_eq ?_ ?_)
    · by_contra same
      have day := monthOf_spec (zone.minute start / 1440)
      have own : monthOf (zone.minute t / 1440) = monthOf (zone.minute start / 1440) :=
        monthOf_eq (by omega) (by omega)
      rw [fields.accepts_eq] at accepted
      unfold CronFields.monthOk at accepted month
      rw [own, month] at accepted
      cases accepted
    · rw [add_assoc, show (1 : Int) + 1 = 2 from rfl]
      omega

lemma placed_of_short (whole : start.Whole) (roomy : start.Roomy)
    (short : ¬(fields.monthOk (zone.minute start) = false ∧
      monthLength (monthOf (zone.minute start / 1440) + 1) < dateOf (zone.minute start / 1440))) :
    Placed fields zone start := by
  refine ⟨whole, ?_, .inr (.inr roomy), .inr (.inr roomy)⟩
  cases month : fields.monthOk (zone.minute start) with
  | true => exact .inl rfl
  | false => exact .inr (.inr ⟨roomy, Int.not_lt.mp fun long => short ⟨month, long⟩⟩)

/-- A match in the month that the first move of the search skips. -/
def Overlooked (fields : CronFields) (zone : Zone) (from_ run : Instant) : Prop :=
  let minute := zone.minute from_ + 1
  fields.monthOk minute = false ∧
    monthLength (monthOf (minute / 1440) + 1) < dateOf (minute / 1440) ∧
      monthOf (zone.minute run / 1440) = monthOf (minute / 1440) + 1

/-- The matches that the search by fields comes to. -/
def CronFields.visited (fields : CronFields) (zone : Zone) (from_ : Instant) : Set Instant :=
  {run ∈ fields.candidates zone from_ | ¬Overlooked fields zone from_ run}

lemma skipsMonth_iff : SkipsMonth fields zone from_ ↔
    ∃ run ∈ fields.candidates zone from_, Overlooked fields zone from_ run := by
  constructor
  · rintro ⟨month, long, run, candidate, inMonth⟩
    exact ⟨run, candidate, month, long, inMonth⟩
  · rintro ⟨run, candidate, month, long, inMonth⟩
    exact ⟨month, long, run, candidate, inMonth⟩

lemma Overlooked.lt {run other : Instant} (overlooked : Overlooked fields zone from_ run)
    (candidate : run ∈ fields.candidates zone from_) (visited : other ∈ fields.visited zone from_) :
    run < other := by
  obtain ⟨month, long, inMonth⟩ := overlooked
  obtain ⟨⟨⟨whole, after⟩, -, accepted⟩, seen⟩ := visited
  have later : ¬monthOf (zone.minute other / 1440) = monthOf ((zone.minute from_ + 1) / 1440) + 1 :=
    fun same => seen ⟨month, long, same⟩
  have own : ¬monthOf (zone.minute other / 1440) = monthOf ((zone.minute from_ + 1) / 1440) := by
    intro same
    rw [fields.accepts_eq] at accepted
    unfold CronFields.monthOk at accepted month
    rw [same, month] at accepted
    cases accepted
  have months : monthOf ((zone.minute from_ + 1) / 1440) ≤ monthOf (zone.minute other / 1440) := by
    refine monthOf_le ?_
    unfold minute
    omega
  have early := monthOf_spec (zone.minute run / 1440)
  have late := monthOf_spec (zone.minute other / 1440)
  have between := @monthStart_le (monthOf (zone.minute run / 1440) + 1)
    (monthOf (zone.minute other / 1440)) (by omega)
  have time := candidate.1.1.time_eq zone
  have time' := whole.time_eq zone
  rw [lt_iff]
  omega

/-- **The search by fields finds the least match it comes to.** -/
lemma getNextRun_findsLeast (accepted : parseCron platform expr = .ok fields)
    (limited : fourYearsTime zone from_ ≤ maxTime) :
    FindsLeast (getNextRun zone platform expr from_) (fields.visited zone from_) := by
  obtain ⟨start, limit, made, later, time, whole, roomy, before, minute⟩ := room_of_limit limited
  have ahead := @candidates_eq fields zone from_ start limit made time
  rw [getNextRun_eq accepted, made, later]
  change FindsLeast (runOr _ (searchNextRun zone fields limit
    (limit.time - start.time).toNat (some start))) _
  by_cases overflow : fields.monthOk (zone.minute start) = false ∧
      monthLength (monthOf (zone.minute start / 1440) + 1) < dateOf (zone.minute start / 1440)
  · obtain ⟨month, long⟩ := overflow
    obtain ⟨second, target, placed, forward, turn⟩ :=
      searchNextRun_overflow whole roomy before month long
    have rest := @findsLeast_of_placed fields zone second limit
      ("No matching time found for cron: \"" ++ expr ++ "\"")
      ((limit.time - start.time).toNat - 1) placed (by rw [lt_iff] at *; omega)
    rw [turn]
    have same : fields.visited zone from_ =
        Ahead (fun t => t.Whole ∧ fields.accepts zone t = true) limit second := by
      ext t
      unfold CronFields.visited
      rw [ahead]
      constructor
      · rintro ⟨⟨good, after, early⟩, seen⟩
        refine ⟨good, ?_, early⟩
        rcases month_of_skipped month target whole placed.whole good.1 good.2 after with
          far | inMonth
        · exact far
        · rw [minute] at month long inMonth
          exact absurd ⟨month, long, inMonth⟩ seen
      · rintro ⟨good, after, early⟩
        refine ⟨⟨good, forward.le.trans after, early⟩, ?_⟩
        rintro ⟨-, -, inMonth⟩
        have place := placed.whole.time_eq zone
        have place' := good.1.time_eq zone
        have day := monthOf_spec (zone.minute t / 1440)
        rw [inMonth, ← minute, add_assoc, show (1 : Int) + 1 = 2 from rfl] at day
        rw [le_iff] at after
        omega
    rw [same]
    exact rest
  · have kept : fields.visited zone from_ = fields.candidates zone from_ := by
      refine Set.sep_eq_self_iff_mem_true.mpr fun run _ => ?_
      rintro ⟨month, long, -⟩
      rw [← minute] at month long
      exact overflow ⟨month, long⟩
    rw [kept, ahead]
    exact findsLeast_of_placed (placed_of_short whole roomy overflow) le_rfl

lemma getNextRun_unlimited (accepted : parseCron platform expr = .ok fields)
    (unlimited : ¬fourYearsTime zone from_ ≤ maxTime) :
    getNextRun zone platform expr from_ =
      .error ("No matching time found for cron: \"" ++ expr ++ "\"") := by
  have late : fourYearsLater zone from_ = none :=
    timeClip_eq_none.mpr (.inr (Int.not_le.mp unlimited))
  rw [getNextRun_eq accepted, late]
  rfl

/-- **The search by fields finds the least match** exactly if its first move skips
none and its limit is a date or there is none. -/
lemma getNextRun_findsLeast_iff (accepted : parseCron platform expr = .ok fields) :
    FindsLeast (getNextRun zone platform expr from_) (fields.candidates zone from_) ↔
      ¬SkipsMonth fields zone from_ ∧
        (fourYearsTime zone from_ ≤ maxTime ∨ fields.candidates zone from_ = ∅) := by
  rw [skipsMonth_iff]
  by_cases limited : fourYearsTime zone from_ ≤ maxTime
  · have exact_ := getNextRun_findsLeast accepted limited
    constructor
    · rintro finds
      refine ⟨?_, .inl limited⟩
      rintro ⟨run, candidate, overlooked⟩
      cases found : getNextRun zone platform expr from_ with
      | error thrown =>
        have nothing := finds.throws.mp ⟨thrown, found⟩
        rw [nothing] at candidate
        exact candidate
      | ok result =>
        have least := (finds.least result).mp found
        have visited := ((exact_.least result).mp found).1
        exact absurd (least.2 candidate) (not_le_of_gt (overlooked.lt candidate visited))
    · rintro ⟨kept, -⟩
      have same : fields.visited zone from_ = fields.candidates zone from_ :=
        Set.sep_eq_self_iff_mem_true.mpr fun run candidate overlooked =>
          kept ⟨run, candidate, overlooked⟩
      rwa [← same]
  · rw [getNextRun_unlimited accepted limited, findsLeast_iff_of_error]
    constructor
    · intro nothing
      refine ⟨?_, .inr nothing⟩
      rintro ⟨run, candidate, -⟩
      rw [nothing] at candidate
      exact candidate
    · exact fun ⟨_, exact_⟩ => exact_.resolve_left limited

end

/-! ## Agreement of the searches -/

section

variable {from_ : Instant} {first second : Instant → Bool}

lemma isLeast_iff {bound : Int} {t : Instant} (before : t.time < bound) :
    IsLeast {t | from_.Later t ∧ t.time < bound ∧ first t = true} t ↔
      from_.Later t ∧ first t = true ∧ ∀ s, from_.Later s → s < t → first s = false := by
  constructor
  · rintro ⟨⟨later, -, good⟩, least⟩
    refine ⟨later, good, fun s later' earlier => ?_⟩
    by_contra good'
    rw [Bool.not_eq_false] at good'
    exact absurd (least ⟨later', (lt_iff.mp earlier).trans before, good'⟩)
      (not_le_of_gt earlier)
  · rintro ⟨later, good, none_⟩
    refine ⟨⟨later, before, good⟩, fun s ⟨later', _, good'⟩ => ?_⟩
    by_contra earlier
    rw [none_ s later' (not_le.mp earlier)] at good'
    cases good'

/-- Two properties are alike at each later minute before two bounds that neither
holds before. -/
def AlikeFirst (from_ : Instant) (bound bound' : Int) (first second : Instant → Bool) : Prop :=
  ∀ t, from_.Later t → t.time < bound → t.time < bound' →
    (∀ s, from_.Later s → s < t → first s = false ∧ second s = false) → first t = second t

lemma AlikeFirst.symm {bound bound' : Int} (alike : AlikeFirst from_ bound bound' first second) :
    AlikeFirst from_ bound bound' second first :=
  fun t later before before' none_ =>
    (alike t later before before' fun s later' earlier => (none_ s later' earlier).symm).symm

lemma AlikeFirst.least {bound bound' : Int} (alike : AlikeFirst from_ bound bound' first second)
    {t : Instant} (before : t.time < bound) (before' : t.time < bound')
    (least : from_.Later t ∧ first t = true ∧ ∀ s, from_.Later s → s < t → first s = false) :
    from_.Later t ∧ second t = true ∧ ∀ s, from_.Later s → s < t → second s = false := by
  obtain ⟨later, good, none_⟩ := least
  have both s (later' : from_.Later s) (earlier : s < t) :
      first s = false ∧ second s = false := by
    induction s using WellFoundedLT.induction with
    | ind s ih =>
      have time := lt_iff.mp earlier
      have same := alike s later' (time.trans before) (time.trans before')
        fun r later'' less => ih r less later'' (less.trans earlier)
      exact ⟨none_ s later' earlier, same ▸ none_ s later' earlier⟩
  refine ⟨later, ?_, fun s later' earlier => (both s later' earlier).2⟩
  rw [← alike t later before before' both]
  exact good

lemma alikeFirst_iff {bound bound' : Int} : AlikeFirst from_ bound bound' first second ↔
    ∀ t : Instant, t.time < bound → t.time < bound' →
      (IsLeast {t | from_.Later t ∧ t.time < bound ∧ first t = true} t ↔
        IsLeast {t | from_.Later t ∧ t.time < bound' ∧ second t = true} t) := by
  constructor
  · intro alike t before before'
    rw [isLeast_iff before, isLeast_iff before']
    exact ⟨alike.least before before', alike.symm.least before before'⟩
  · intro agree t later before before' none_
    have same := agree t before before'
    rw [isLeast_iff before, isLeast_iff before'] at same
    rw [Bool.eq_iff_iff]
    constructor
    · exact fun good => (same.mp ⟨later, good, fun s later' earlier =>
        (none_ s later' earlier).1⟩).2.1
    · exact fun good => (same.mpr ⟨later, good, fun s later' earlier =>
        (none_ s later' earlier).2⟩).2.1

end

/-- The parts of a minute that the formatter of a zone writes match. -/
def CronFields.acceptsZoned (fields : CronFields) (zone : Zone) (t : Instant) : Bool :=
  matchesCronFields fields (readZonedParts zone t)

/-- The parts that the formatter writes are alike where the searches end: a search
that is limited by no date in UTC has no match to find. -/
def ZonedAlike (fields : CronFields) (zone : Zone) (from_ : Instant) : Prop :=
  if fourYearsTime utc from_ ≤ maxTime then
    AlikeFirst from_ (fourYearsTime zone from_) (fourYearsTime utc from_) (fields.accepts zone)
      (fields.acceptsZoned zone)
  else ∀ run ∈ fields.candidates zone from_, fourYearsTime utc from_ ≤ run.time

lemma CronFields.acceptsZoned_eq {fields : CronFields} {zone : Zone} {t : Instant}
    (modern : 100 ≤ t.getFullYear zone) :
    fields.acceptsZoned zone t = fields.accepts zone t := by
  have valid := t.valid
  have within := zone.within
  have day : dayOf (zone.clock.localTime t) = (t.time + 60000 * zone.offset) / 86400000 := rfl
  have month := monthOf_spec (dayOf (zone.clock.localTime t))
  have old : monthStart 1200 ≤ monthStart (monthOf (dayOf (zone.clock.localTime t))) := by
    refine monthStart_le ?_
    unfold getFullYear at modern
    omega
  have first : monthStart 1200 = -683003 := by decide
  have same : makeDate (makeDay (t.getFullYear zone) (t.getMonth zone + 1 - 1) (t.getDate zone)) 0 =
      86400000 * dayOf (zone.clock.localTime t) := by
    unfold makeDate makeDay getFullYear getMonth getDate dateOf
    rw [Int.add_sub_cancel, Int.mul_ediv_add_emod]
    omega
  have made : dateUTC (t.getFullYear zone) (t.getMonth zone + 1 - 1) (t.getDate zone) =
      some ⟨86400000 * dayOf (zone.clock.localTime t), by unfold maxTime at *; omega,
        by unfold maxTime at *; omega⟩ := by
    unfold dateUTC
    dsimp only
    rw [if_neg (by omega), same]
    exact timeClip_eq_some.mpr rfl
  have weekday valid :
      getDay ⟨86400000 * dayOf (zone.clock.localTime t), valid⟩ utc = t.getDay zone := by
    unfold getDay
    congr 1
    change (86400000 * dayOf (zone.clock.localTime t) + 60000 * 0) / 86400000 = _
    omega
  unfold acceptsZoned matchesCronFields readZonedParts accepts
  dsimp only
  rw [show yearOfEra (t.getFullYear zone) = t.getFullYear zone from if_pos (by omega), made]
  dsimp
  rw [weekday]

/-- From the year 100 on, a zone shows every match alike. -/
lemma zonedAlike_of_modern {fields : CronFields} {zone : Zone} {from_ : Instant}
    (modern : 100 ≤ from_.getFullYear zone) (limited : fourYearsTime utc from_ ≤ maxTime) :
    ZonedAlike fields zone from_ := by
  unfold ZonedAlike
  rw [if_pos limited]
  rintro t ⟨-, later⟩ - - -
  refine (CronFields.acceptsZoned_eq ?_).symm
  refine le_trans modern ?_
  rw [getFullYear_eq, getFullYear_eq]
  have months : monthOf (zone.minute from_ / 1440) ≤ monthOf (zone.minute t / 1440) := by
    refine monthOf_le ?_
    unfold minute
    omega
  omega

structure LeastNextRun (platform : CronPlatform) (expr : String) (fields : CronFields)
    (zone : Zone) (from_ : Instant) : Prop where
  finds : FindsLeast (getNextRun zone platform expr from_) (fields.candidates zone from_)
  agrees : ∀ run : Instant, run.time < fourYearsTime zone from_ →
    run.time < fourYearsTime utc from_ → (getNextRun zone platform expr from_ = .ok run ↔
      getNextRunInTimezone platform expr from_ zone = .ok run)

/-- What makes the next run the least match. -/
structure SearchExact (fields : CronFields) (zone : Zone) (from_ : Instant) : Prop where
  month : ¬SkipsMonth fields zone from_
  limit : fourYearsTime zone from_ ≤ maxTime ∨ fields.candidates zone from_ = ∅
  zoned : ZonedAlike fields zone from_

/-- **The next run is the least match exactly if** the first move skips none, the
limit is a date, and the zone shows the first match alike. -/
theorem next_run_least_iff {platform : CronPlatform} {expr : String} {fields : CronFields}
    (accepted : parseCron platform expr = .ok fields) (zone : Zone) (from_ : Instant) :
    LeastNextRun platform expr fields zone from_ ↔ SearchExact fields zone from_ := by
  have agreement (finds : FindsLeast (getNextRun zone platform expr from_)
      (fields.candidates zone from_)) : (∀ run : Instant, run.time < fourYearsTime zone from_ →
        run.time < fourYearsTime utc from_ → (getNextRun zone platform expr from_ = .ok run ↔
          getNextRunInTimezone platform expr from_ zone = .ok run)) ↔
      ZonedAlike fields zone from_ := by
    unfold ZonedAlike
    split_ifs with limited
    · have zoned := @getNextRunInTimezone_findsLeast platform expr fields zone from_ accepted limited
      rw [alikeFirst_iff]
      refine forall_congr' fun run => imp_congr_right fun _ => imp_congr_right fun _ => ?_
      rw [finds.least, zoned.least]
      rfl
    · have thrown run := @getNextRunInTimezone_unlimited _ _ _ zone from_ accepted limited run
      constructor
      · intro agree run candidate
        by_contra early
        obtain ⟨least, isLeast⟩ : ∃ least, IsLeast (fields.candidates zone from_) least :=
          ⟨_, WellFounded.min_mem wellFounded_lt _ ⟨run, candidate⟩,
            fun other mem => not_lt.mp (WellFounded.not_lt_min wellFounded_lt _ mem)⟩
        have before := le_iff.mp (isLeast.2 candidate)
        exact thrown least ((agree least isLeast.1.2.1 (by omega)).mp ((finds.least least).mpr isLeast))
      · intro none_ run _ before
        refine ⟨fun found => ?_, fun found => absurd found (thrown run)⟩
        have := none_ run ((finds.least run).mp found).1
        omega
  constructor
  · rintro ⟨finds, agrees⟩
    obtain ⟨month, limit⟩ := (getNextRun_findsLeast_iff accepted).mp finds
    exact ⟨month, limit, (agreement finds).mp agrees⟩
  · rintro ⟨month, limit, zoned⟩
    have finds := (getNextRun_findsLeast_iff accepted).mpr ⟨month, limit⟩
    exact ⟨finds, (agreement finds).mpr zoned⟩

def integerCron : CronPlatform := ⟨parseInt, JsNumber.add 1⟩

/-- The last of January 2024, at 10:00 UTC. -/
def endOfJanuary : Instant := ⟨1706695200000, by decide⟩

def februaryFirst : CronFields := ⟨[0], [0], [1], [2], (List.range 7).map .ofNat⟩

/-- From the middle of January, the first of February is found. -/
theorem next_run_least_january : LeastNextRun integerCron "0 0 1 2 *" februaryFirst utc
    ⟨1705312800000, by decide⟩ := by
  refine (next_run_least_iff (by decide +kernel) utc _).mpr ⟨?_, .inl (by decide), ?_⟩
  · rintro ⟨-, long, -⟩
    exact absurd long (by decide)
  · exact zonedAlike_of_modern (by decide) (by decide)

/-- From the end of January, the search leaves the February out. -/
theorem february_skipped :
    parseCron integerCron "0 0 1 2 *" = .ok februaryFirst ∧
      getNextRun utc integerCron "0 0 1 2 *" endOfJanuary = .ok ⟨1738368000000, by decide⟩ ∧
      ¬LeastNextRun integerCron "0 0 1 2 *" februaryFirst utc endOfJanuary := by
  have found : getNextRun utc integerCron "0 0 1 2 *" endOfJanuary =
      .ok ⟨1738368000000, by decide⟩ := by decide +kernel
  refine ⟨by decide +kernel, found, fun exact_ => ?_⟩
  have least := (exact_.finds.least _).mp found
  have earlier : (⟨1706745600000, by decide⟩ : Instant) ∈
      februaryFirst.candidates utc endOfJanuary :=
    ⟨⟨by unfold Instant.Whole; decide, by decide⟩, by decide, by decide⟩
  exact absurd (least.2 earlier) (by decide)

end Knowbee
