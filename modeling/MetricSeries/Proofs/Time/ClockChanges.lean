import MetricSeries.Proofs.Time.Calendar
import MetricSeries.Time.Zone

/-!
# Clock changes and midnights

Which offset holds at an instant depends on the rules of the year of that instant, and which offset
belongs to a wall time on those of the year of the wall time. This module relates the two around a
midnight: at the midnight itself, at the last second before it, and in the *stretch* before it, the
time before the midnight on standard time that is as long as the shift of the clocks.

`Daylight.Regular` keeps clock changes out of every stretch and away from the turn of the year. They
are made on Sundays between February and November, and either at midnight, where a stretch begins
or ends, or so late that daylight time ends on the day of the change.

* Around a midnight, daylight time holds by the rules of one year, whichever of the days around it
  the year is taken from (`Daylight.Regular.holdsAt_iff_around`), and it holds throughout a stretch
  or nowhere in it (`Daylight.Regular.holdsIn_iff_of_stretch`).
* A wall time that is not put forward over is looked up by whether daylight time holds, as if it
  were on standard time (`Daylight.Regular.shiftAtWall?_of_not_gap`).
* So the last second before a midnight and the midnight itself are looked up with the shift of the
  stretch, unless the midnight is put forward over (`Daylight.Regular.shiftAtWall?_before_midnight`,
  `Daylight.Regular.shiftAtWall?_midnight`).
-/

namespace MetricSeries.Time

/-! ### Regular rules -/

/-- **Regular clock changes**: they are away from the turn of a year, and no change is made within
the stretch before a midnight or at its beginning by putting clocks forward. -/
structure Daylight.Regular (d : Daylight) : Prop where
  shift : 0 < d.shift ∧ d.shift ≤ 7200
  months : d.begins.month ≠ d.ends.month
  begins_month : 2 ≤ d.begins.month ∧ d.begins.month ≤ 11
  ends_month : 2 ≤ d.ends.month ∧ d.ends.month ≤ 11
  /-- Clocks are put forward before the stretch at the end of the day begins. -/
  begins_hour : 0 ≤ d.begins.hour ∧ d.begins.hour * 3600 + d.shift < 86400
  /-- Clocks are put back where the stretch before a midnight begins, or after it has ended. -/
  ends_hour : (d.ends.hour = 0 ∨ d.shift < d.ends.hour * 3600) ∧ d.ends.hour ≤ 24
  /-- Clocks that are put forward at midnight are put forward by an hour. -/
  gap : d.begins.hour = 0 → d.shift = 3600
  /-- Clocks that are put forward at midnight are put back at midnight as well. -/
  fold : d.begins.hour = 0 → d.ends.hour = 0

/-! ### The changes of a year -/

/-- The day of a clock change. -/
def ClockChange.dayIn (c : ClockChange) (year : Int) : Int := c.sunday.dayIn year c.month

theorem ClockChange.inYear_eq (c : ClockChange) (year : Int) :
    c.inYear year = c.dayIn year * 86400 + c.hour * 3600 := rfl

/-- No clock change is near the turn of a year. -/
theorem ClockChange.dayIn_mem {c : ClockChange} (hmonth : 2 ≤ c.month ∧ c.month ≤ 11)
    (year : Int) :
    yearStart year + 31 ≤ c.dayIn year ∧ c.dayIn year + 31 ≤ yearStart (year + 1) := by
  obtain ⟨hstart, hend⟩ := c.sunday.dayIn_mem year c.month
  have hjanuary := daysBeforeMonth_add_le (isLeap year) (Nat.le_refl 1)
    (show 1 < c.month by omega) (by omega)
  have hdecember := daysBeforeMonth_add_le (isLeap year) (show 1 ≤ c.month by omega)
    (show c.month < 12 by omega) (Nat.le_refl 12)
  have hyear := daysBeforeMonth_add_le_year (isLeap year) (show 1 ≤ 12 by decide) (Nat.le_refl 12)
  -- A change between February and November is a January away from one turn and a December from
  -- the other.
  have hlong : daysBeforeMonth (isLeap year) 1 + monthLength (isLeap year) 1 = 31 ∧
      monthLength (isLeap year) 12 = 31 := ⟨rfl, rfl⟩
  rw [yearStart_succ]
  unfold ClockChange.dayIn
  omega

/-- Of two clock changes in different months, the one in the earlier month comes first. -/
theorem ClockChange.dayIn_lt {c c' : ClockChange} (hmonth : 1 ≤ c.month) (hlt : c.month < c'.month)
    (hmonth' : c'.month ≤ 12) (year : Int) : c.dayIn year < c'.dayIn year := by
  have hend := (c.sunday.dayIn_mem year c.month).2
  have hstart := (c'.sunday.dayIn_mem year c'.month).1
  have hle := daysBeforeMonth_add_le (isLeap year) hmonth hlt hmonth'
  unfold ClockChange.dayIn
  omega

namespace Daylight

/-! ### Daylight time by the rules of one year -/

/-- Whether daylight time holds by the rules of a year, at a time in seconds as clocks on standard
time show it. -/
def HoldsIn (d : Daylight) (year seconds : Int) : Prop :=
  if d.begins.month < d.ends.month then
    d.begins.inYear year ≤ seconds ∧ seconds + d.shift < d.ends.inYear year
  else
    seconds + d.shift < d.ends.inYear year ∨ d.begins.inYear year ≤ seconds

instance (d : Daylight) (year seconds : Int) : Decidable (d.HoldsIn year seconds) :=
  inferInstanceAs (Decidable (if d.begins.month < d.ends.month then
      d.begins.inYear year ≤ seconds ∧ seconds + d.shift < d.ends.inYear year
    else seconds + d.shift < d.ends.inYear year ∨ d.begins.inYear year ≤ seconds))

/-- Between two times with no change in between, daylight time goes on or stays away. -/
theorem holdsIn_congr {d : Daylight} {year seconds seconds' : Int}
    (hbegins : d.begins.inYear year ≤ seconds ↔ d.begins.inYear year ≤ seconds')
    (hends : seconds + d.shift < d.ends.inYear year ↔ seconds' + d.shift < d.ends.inYear year) :
    d.HoldsIn year seconds ↔ d.HoldsIn year seconds' := by
  unfold HoldsIn
  rw [hbegins, hends]

namespace Regular

variable {d : Daylight} (h : d.Regular)

include h

theorem begins_dayIn_lt (hmonths : d.begins.month < d.ends.month) (year : Int) :
    d.begins.dayIn year < d.ends.dayIn year := by
  have hbegins := h.begins_month
  have hends := h.ends_month
  exact ClockChange.dayIn_lt (by omega) hmonths (by omega) year

theorem ends_dayIn_lt (hmonths : d.ends.month < d.begins.month) (year : Int) :
    d.ends.dayIn year < d.begins.dayIn year := by
  have hbegins := h.begins_month
  have hends := h.ends_month
  exact ClockChange.dayIn_lt (by omega) hmonths (by omega) year

/-- In which order the two changes come in a year. -/
theorem begins_le_ends_iff (year : Int) :
    d.begins.inYear year + d.shift ≤ d.ends.inYear year ↔ d.begins.month < d.ends.month := by
  have hshift := h.shift
  have hmonths := h.months
  have hbegins := h.begins_hour
  have hends := h.ends_hour
  rw [ClockChange.inYear_eq, ClockChange.inYear_eq]
  refine ⟨fun hle => ?_, fun hlt => ?_⟩
  · -- With the months the other way round, clocks are put back on an earlier day.
    by_contra hnot
    have hdays := h.ends_dayIn_lt (by omega) year
    omega
  · have hdays := h.begins_dayIn_lt hlt year
    omega

theorem holdsAt_iff (standard seconds : Int) :
    Zone.holdsAt standard d seconds = true ↔
      d.HoldsIn (yearOfDay (seconds / 86400)) (seconds + standard) := by
  have horder := h.begins_le_ends_iff (yearOfDay (seconds / 86400))
  unfold Zone.holdsAt HoldsIn
  dsimp only
  -- Daylight time within one year is a stretch of it, and over the turn of the year it is all but a
  -- stretch.
  by_cases hmonths : d.begins.month < d.ends.month
  · have hle := horder.mpr hmonths
    rw [if_pos hmonths, if_pos (by omega), Bool.and_eq_true, decide_eq_true_eq, decide_eq_true_eq]
    omega
  · have hlt := mt horder.mp hmonths
    rw [if_neg hmonths, if_neg (by omega), Bool.not_eq_true', Bool.and_eq_false_iff,
      decide_eq_false_iff_not, decide_eq_false_iff_not]
    omega

/-! ### Around a midnight -/

/-- Near the turn of a year, the rules of the one year say the same as those of the other: both have
their changes far away. -/
theorem holdsIn_succ_iff {year seconds : Int}
    (hstart : (yearStart (year + 1) - 3) * 86400 ≤ seconds)
    (hend : seconds < (yearStart (year + 1) + 3) * 86400) :
    d.HoldsIn (year + 1) seconds ↔ d.HoldsIn year seconds := by
  obtain ⟨shift, months, begins_month, ends_month, begins_hour, ends_hour, -, -⟩ := h
  have hbegins := ClockChange.dayIn_mem begins_month year
  have hends := ClockChange.dayIn_mem ends_month year
  have hbegins' := ClockChange.dayIn_mem begins_month (year + 1)
  have hends' := ClockChange.dayIn_mem ends_month (year + 1)
  unfold HoldsIn
  simp only [ClockChange.inYear_eq]
  -- No clock changes in January or December, so within three days of the turn both years say the
  -- same.
  by_cases hmonths : d.begins.month < d.ends.month
  · rw [if_pos hmonths, if_pos hmonths]
    omega
  · rw [if_neg hmonths, if_neg hmonths]
    omega

/-- Around a midnight, daylight time holds by the rules of the year of the day or of a day next to
it, which one does not matter. -/
theorem holdsIn_yearOfDay_iff {day day' seconds : Int} (hday : day - 2 ≤ day' ∧ day' ≤ day + 2)
    (hstart : (day - 1) * 86400 ≤ seconds) (hend : seconds < (day + 1) * 86400) :
    d.HoldsIn (yearOfDay day') seconds ↔ d.HoldsIn (yearOfDay day) seconds := by
  obtain ⟨hyear, hyear'⟩ := yearOfDay_spec day
  obtain ⟨hother, hother'⟩ := yearOfDay_spec day'
  generalize yearOfDay day = year at *
  generalize yearOfDay day' = other at *
  rcases lt_trichotomy year other with hlt | rfl | hgt
  · -- The other day is of the next year, which starts between the two days.
    have hlength := yearStart_succ (year + 1)
    have hlong := yearLength_mem (isLeap (year + 1))
    have hle : other < year + 1 + 1 := yearStart_lt_iff.mp (by omega)
    obtain rfl : other = year + 1 := by omega
    exact h.holdsIn_succ_iff (by omega) (by omega)
  · rfl
  · have hlength := yearStart_succ (other + 1)
    have hlong := yearLength_mem (isLeap (other + 1))
    have hle : year < other + 1 + 1 := yearStart_lt_iff.mp (by omega)
    obtain rfl : year = other + 1 := by omega
    exact (h.holdsIn_succ_iff (by omega) (by omega)).symm

/-- Around a midnight on standard time, daylight time holds by the rules of the year of its day. -/
theorem holdsAt_iff_around {standard day seconds : Int}
    (hstandard : -64800 ≤ standard ∧ standard ≤ 64800)
    (hstart : (day - 1) * 86400 ≤ seconds + standard)
    (hend : seconds + standard < (day + 1) * 86400) :
    Zone.holdsAt standard d seconds = true ↔ d.HoldsIn (yearOfDay day) (seconds + standard) := by
  rw [h.holdsAt_iff]
  -- Universal time is on one of the days around the midnight, or on the day before them.
  exact h.holdsIn_yearOfDay_iff (by omega) hstart hend

/-- Daylight time holds throughout the stretch before a midnight or nowhere in it. -/
theorem holdsIn_iff_of_stretch {day seconds : Int} (year : Int)
    (hstart : day * 86400 - d.shift ≤ seconds) (hend : seconds < day * 86400) :
    d.HoldsIn year seconds ↔ d.HoldsIn year (day * 86400 - d.shift) := by
  obtain ⟨shift, -, -, -, begins_hour, ends_hour, -, -⟩ := h
  refine holdsIn_congr ?_ ?_
  · rw [ClockChange.inYear_eq]
    omega
  · rw [ClockChange.inYear_eq]
    omega

/-- At a midnight, daylight time holds as in the stretch before it, unless it begins then. -/
theorem holdsIn_midnight_iff {day : Int} (year : Int)
    (hbegins : d.begins.inYear year ≠ day * 86400) :
    d.HoldsIn year (day * 86400) ↔ d.HoldsIn year (day * 86400 - d.shift) := by
  obtain ⟨shift, -, -, -, begins_hour, ends_hour, -, -⟩ := h
  refine holdsIn_congr ?_ ?_
  · rw [ClockChange.inYear_eq] at *
    omega
  · rw [ClockChange.inYear_eq]
    omega

/-- Clocks that are put forward at a midnight are put forward by an hour. -/
theorem hour_of_begins {day year : Int} (hbegins : d.begins.inYear year = day * 86400) :
    d.begins.hour = 0 ∧ d.shift = 3600 := by
  obtain ⟨shift, -, -, -, begins_hour, -, gap, -⟩ := h
  rw [ClockChange.inYear_eq] at hbegins
  have hhour : d.begins.hour = 0 := by omega
  exact ⟨hhour, gap hhour⟩

/-- Where daylight time begins at a midnight, it holds from then on, and not before. -/
theorem holdsIn_of_begins {day year : Int} (hbegins : d.begins.inYear year = day * 86400) :
    (∀ seconds, day * 86400 ≤ seconds → seconds < (day + 1) * 86400 - d.shift →
      d.HoldsIn year seconds) ∧ ¬ d.HoldsIn year (day * 86400 - d.shift) := by
  have hshift := h.shift
  have hhour := h.begins_hour
  have hfold := h.ends_hour
  rw [ClockChange.inYear_eq] at hbegins
  unfold HoldsIn
  simp only [ClockChange.inYear_eq]
  by_cases hmonths : d.begins.month < d.ends.month
  · -- Daylight time ends on a later day of the year.
    have hdays := h.begins_dayIn_lt hmonths year
    simp only [if_pos hmonths]
    refine ⟨fun seconds hstart hend => ?_, ?_⟩
    · omega
    · omega
  · -- It has ended on an earlier day of the year.
    have hmonths_ne := h.months
    have hdays := h.ends_dayIn_lt (by omega) year
    simp only [if_neg hmonths]
    refine ⟨fun seconds hstart hend => ?_, ?_⟩
    · omega
    · omega

/-! ### Looking up wall times -/

/-- **The shift of a wall time** that clocks are not put forward over is that of daylight time where
this holds, as if the wall time were on standard time. -/
theorem shiftAtWall?_of_not_gap {day seconds : Int} (hday : seconds / 86400 = day)
    (hgap : seconds < d.begins.inYear (yearOfDay day) ∨
      d.begins.inYear (yearOfDay day) + d.shift ≤ seconds) :
    Zone.shiftAtWall? d seconds =
      some (if d.HoldsIn (yearOfDay day) seconds then d.shift else 0) := by
  have hshift := h.shift
  unfold Zone.shiftAtWall? HoldsIn
  dsimp only
  rw [hday]
  by_cases hmonths : d.begins.month < d.ends.month
  · -- Before the gap, or behind it and then before the fold or behind that.
    have hle := (h.begins_le_ends_iff (yearOfDay day)).mpr hmonths
    simp only [if_pos hmonths]
    rw [if_pos (show d.begins.inYear (yearOfDay day) < d.ends.inYear (yearOfDay day) by omega)]
    rcases hgap with hbefore | hbehind
    · rw [if_pos (by omega), if_neg (by omega)]
    · rw [if_neg (by omega), if_neg (by omega)]
      by_cases hfold : seconds < d.ends.inYear (yearOfDay day) - d.shift
      · rw [if_pos hfold, if_pos (by omega)]
      · rw [if_neg hfold, if_neg (by omega)]
  · -- Before the fold, or behind it and then before the gap or behind that.
    have hmonths_ne := h.months
    have hdays := h.ends_dayIn_lt (by omega) (yearOfDay day)
    have hlt : d.ends.inYear (yearOfDay day) - d.shift < d.begins.inYear (yearOfDay day) ∧
        d.ends.inYear (yearOfDay day) ≤ d.begins.inYear (yearOfDay day) := by
      obtain ⟨-, -, -, -, begins_hour, ends_hour, -, -⟩ := h
      rw [ClockChange.inYear_eq, ClockChange.inYear_eq]
      omega
    simp only [if_neg hmonths]
    rw [if_neg (show ¬ d.begins.inYear (yearOfDay day) < d.ends.inYear (yearOfDay day) by omega)]
    by_cases hfold : seconds < d.ends.inYear (yearOfDay day) - d.shift
    · rw [if_pos hfold, if_pos (by omega)]
    · rw [if_neg hfold]
      rcases hgap with hbefore | hbehind
      · rw [if_pos hbefore, if_neg (by omega)]
      · rw [if_neg (by omega), if_neg (by omega), if_pos (by omega)]

end Regular

/-- **The shift before a midnight**, that of the stretch before it. -/
def shiftBefore (d : Daylight) (day : Int) : Int :=
  if d.HoldsIn (yearOfDay day) (day * 86400 - d.shift) then d.shift else 0

namespace Regular

variable {d : Daylight} (h : d.Regular)

include h

theorem shiftBefore_mem (day : Int) : 0 ≤ d.shiftBefore day ∧ d.shiftBefore day ≤ 7200 := by
  have hshift := h.shift
  unfold shiftBefore
  split
  · omega
  · omega

/-- **The shift that a midnight is looked up with** is that of the stretch before it; and where
clocks are put forward over it, the hour after it has the shift of daylight time. -/
theorem shiftAtWall?_midnight (day : Int) :
    Zone.shiftAtWall? d (day * 86400) = some (d.shiftBefore day) ∨
      Zone.shiftAtWall? d (day * 86400) = none ∧ d.shiftBefore day = 0 ∧
        Zone.shiftAtWall? d (day * 86400 + 3600) = some 3600 := by
  have hday : day * 86400 / 86400 = day := by omega
  have hday' : (day * 86400 + 3600) / 86400 = day := by omega
  have hshift := h.shift
  have hhour := h.begins_hour
  by_cases hbegins : d.begins.inYear (yearOfDay day) = day * 86400
  · -- Clocks are put forward at the midnight.
    obtain ⟨hafter, hnot⟩ := h.holdsIn_of_begins hbegins
    obtain ⟨-, hgap⟩ := h.hour_of_begins hbegins
    have hbefore : d.shiftBefore day = 0 := if_neg hnot
    by_cases hfold : day * 86400 < d.ends.inYear (yearOfDay day)
    · left
      unfold Zone.shiftAtWall?
      dsimp only
      rw [hday, hbegins, if_pos hfold, if_pos (Int.le_refl _), hbefore]
    · right
      refine ⟨?_, hbefore, ?_⟩
      · unfold Zone.shiftAtWall?
        dsimp only
        rw [hday, hbegins, if_neg hfold, if_neg (by omega), if_neg (Int.lt_irrefl _),
          if_pos (by omega)]
      · rw [h.shiftAtWall?_of_not_gap hday' (.inr (by omega)),
          if_pos (hafter _ (by omega) (by omega)), hgap]
  · -- A gap that holds a midnight would start there.
    left
    have hgap : day * 86400 < d.begins.inYear (yearOfDay day) ∨
        d.begins.inYear (yearOfDay day) + d.shift ≤ day * 86400 := by
      rw [ClockChange.inYear_eq] at *
      omega
    rw [h.shiftAtWall?_of_not_gap hday hgap]
    unfold shiftBefore
    simp only [h.holdsIn_midnight_iff _ hbegins]

/-- The last second before a midnight is looked up with the shift of the stretch that it is in. -/
theorem shiftAtWall?_before_midnight (day : Int) :
    Zone.shiftAtWall? d (day * 86400 - 1) = some (d.shiftBefore day) := by
  have hday : (day * 86400 - 1) / 86400 = day - 1 := by omega
  have hshift := h.shift
  have hhour := h.begins_hour
  -- Clocks have been put forward before the stretch at the end of a day begins, so that its last
  -- second is in no gap.
  have hgap : day * 86400 - 1 < d.begins.inYear (yearOfDay (day - 1)) ∨
      d.begins.inYear (yearOfDay (day - 1)) + d.shift ≤ day * 86400 - 1 := by
    rw [ClockChange.inYear_eq]
    omega
  have hsame : d.HoldsIn (yearOfDay (day - 1)) (day * 86400 - 1) ↔
      d.HoldsIn (yearOfDay day) (day * 86400 - d.shift) :=
    calc
      _ ↔ d.HoldsIn (yearOfDay day) (day * 86400 - 1) :=
        h.holdsIn_yearOfDay_iff (by omega) (by omega) (by omega)
      _ ↔ d.HoldsIn (yearOfDay day) (day * 86400 - d.shift) :=
        h.holdsIn_iff_of_stretch _ (by omega) (by omega)
  rw [h.shiftAtWall?_of_not_gap hday hgap]
  unfold shiftBefore
  simp only [hsame]

/-- In the last second before a midnight, whatever the shift, daylight time holds as in the
stretch. -/
theorem holdsIn_before_midnight_iff (day : Int) :
    d.HoldsIn (yearOfDay day) (day * 86400 - 1 - d.shiftBefore day) ↔
      d.HoldsIn (yearOfDay day) (day * 86400 - d.shift) := by
  have hshift := h.shift
  unfold shiftBefore
  by_cases hholds : d.HoldsIn (yearOfDay day) (day * 86400 - d.shift)
  · -- Daylight time did not begin with the stretch, and it cannot have ended with it.
    rw [if_pos hholds]
    obtain ⟨-, -, -, -, begins_hour, ends_hour, -, -⟩ := h
    refine iff_of_true ?_ hholds
    unfold HoldsIn at *
    simp only [ClockChange.inYear_eq] at *
    by_cases hmonths : d.begins.month < d.ends.month
    · rw [if_pos hmonths] at hholds ⊢
      omega
    · rw [if_neg hmonths] at hholds ⊢
      omega
  · rw [if_neg hholds, Int.sub_zero]
    exact h.holdsIn_iff_of_stretch _ (by omega) (by omega)

/-- When clocks show a midnight, whatever the shift, daylight time holds as in the stretch, unless
it begins then. -/
theorem holdsIn_at_midnight_iff {day : Int}
    (hbegins : d.begins.inYear (yearOfDay day) ≠ day * 86400) :
    d.HoldsIn (yearOfDay day) (day * 86400 - d.shiftBefore day) ↔
      d.HoldsIn (yearOfDay day) (day * 86400 - d.shift) := by
  unfold shiftBefore
  -- The offset before midnight is one of two; in the standard case the clock is not put forward at
  -- that midnight.
  by_cases hholds : d.HoldsIn (yearOfDay day) (day * 86400 - d.shift)
  · rw [if_pos hholds]
  · rw [if_neg hholds, Int.sub_zero]
    exact h.holdsIn_midnight_iff _ hbegins

/-- Where clocks are put forward at midnight, one o'clock is looked up with the shift before the
midnight, unless they are put forward on that day. -/
theorem shiftAtWall?_one_o_clock (hhour : d.begins.hour = 0) (day : Int) :
    Zone.shiftAtWall? d (day * 86400 + 3600) =
      some (if d.begins.inYear (yearOfDay day) = day * 86400 then d.shift
        else d.shiftBefore day) := by
  have hday : (day * 86400 + 3600) / 86400 = day := by omega
  have hshift := h.gap hhour
  have hfold := h.fold hhour
  have hgap : day * 86400 + 3600 < d.begins.inYear (yearOfDay day) ∨
      d.begins.inYear (yearOfDay day) + d.shift ≤ day * 86400 + 3600 := by
    rw [ClockChange.inYear_eq]
    omega
  rw [h.shiftAtWall?_of_not_gap hday hgap]
  by_cases hbegins : d.begins.inYear (yearOfDay day) = day * 86400
  · rw [if_pos hbegins, if_pos ((h.holdsIn_of_begins hbegins).1 _ (by omega) (by omega))]
  · -- Neither change is made between the stretch and one o'clock.
    have hsame : d.HoldsIn (yearOfDay day) (day * 86400 + 3600) ↔
        d.HoldsIn (yearOfDay day) (day * 86400 - d.shift) := by
      refine holdsIn_congr ?_ ?_
      · rw [ClockChange.inYear_eq] at *
        omega
      · rw [ClockChange.inYear_eq]
        omega
    rw [if_neg hbegins]
    unfold shiftBefore
    simp only [hsame]

end Regular

end Daylight

end MetricSeries.Time
