import Mathlib.Order.Monotone.Basic
import Mathlib.Algebra.Order.Group.Int
import MetricSeries.Time.Calendar

/-!
# Days and dates

The calendar cuts the line of day numbers into years and each year into months. Both cuts are
described by where the pieces start, and the piece of a day is the one between whose start and
end the day lies.

* `yearOfDay_eq_iff` — the year of a day, by the closed form of the starts of years;
* `monthOfYearDay_eq` — the month of a day of the year, by the lengths of the months;
* `Date.ofDay_toDay`, `Date.toDay_ofDay` — **valid dates and day numbers match one to one**;
* `Sunday.dayIn_mem` — the Sunday of a rule lies in the month that the rule names.
-/

namespace MetricSeries.Time

/-! ### Years -/

def yearLength (leap : Bool) : Int := if leap then 366 else 365

theorem isLeap_iff {year : Int} :
    isLeap year = true ↔ year % 4 = 0 ∧ (year % 100 ≠ 0 ∨ year % 400 = 0) := by
  unfold isLeap
  simp

/-- A year ends where the next one starts. -/
theorem yearStart_succ (year : Int) :
    yearStart (year + 1) = yearStart year + yearLength (isLeap year) := by
  unfold yearStart daysBeforeYear yearLength
  by_cases hleap : isLeap year = true
  · -- The quotients by 4, 100 and 400 grow with the last day of a leap year.
    rw [if_pos hleap]
    obtain ⟨hfour, hrest⟩ := isLeap_iff.mp hleap
    omega
  · rw [if_neg hleap]
    have hrest := mt isLeap_iff.mpr hleap
    omega

theorem yearLength_mem (leap : Bool) : 365 ≤ yearLength leap ∧ yearLength leap ≤ 366 := by
  cases leap
  · exact ⟨by decide, by decide⟩
  · exact ⟨by decide, by decide⟩

theorem yearStart_lt_iff {year year' : Int} : yearStart year < yearStart year' ↔ year < year' := by
  have hmono : StrictMono yearStart := by
    refine strictMono_int_of_lt_succ fun year => ?_
    have hlength := (yearLength_mem (isLeap year)).1
    rw [yearStart_succ]
    omega
  exact hmono.lt_iff_lt

theorem yearStart_le_iff {year year' : Int} : yearStart year ≤ yearStart year' ↔ year ≤ year' :=
  le_iff_le_iff_lt_iff_lt.mpr yearStart_lt_iff

theorem yearOfDay_spec (day : Int) :
    yearStart (yearOfDay day) ≤ day ∧ day < yearStart (yearOfDay day + 1) := by
  unfold yearOfDay
  dsimp only
  generalize hguess : (day + epochDays) * 400 / 146097 + 1 = guess
  -- The division by the mean length of a year is off by at most one year.
  have hlow : yearStart (guess - 1) ≤ day := by
    unfold yearStart daysBeforeYear epochDays at *
    omega
  have hhigh : day < yearStart (guess + 2) := by
    unfold yearStart daysBeforeYear epochDays at *
    omega
  split
  next hbefore =>
    rw [Int.sub_add_cancel]
    exact ⟨hlow, hbefore⟩
  next hnot =>
    split
    next hafter => exact ⟨hafter, by rwa [Int.add_assoc]⟩
    next hwithin => exact ⟨Int.not_lt.mp hnot, Int.not_le.mp hwithin⟩

/-- **The year of a day** is the one between whose start and end the day lies. -/
theorem yearOfDay_eq_iff {day year : Int} :
    yearOfDay day = year ↔ yearStart year ≤ day ∧ day < yearStart (year + 1) := by
  obtain ⟨hstart, hend⟩ := yearOfDay_spec day
  refine ⟨fun h => h ▸ ⟨hstart, hend⟩, fun ⟨hstart', hend'⟩ => ?_⟩
  -- Of two years, the later one starts no sooner than the earlier one ends.
  have hle : yearOfDay day < year + 1 := yearStart_lt_iff.mp (hstart.trans_lt hend')
  have hge : year < yearOfDay day + 1 := yearStart_lt_iff.mp (hstart'.trans_lt hend)
  omega

/-! ### Months -/

/-- A month ends where the next one starts, at the latest. -/
theorem daysBeforeMonth_add_le (leap : Bool) {month later : Nat} (hmonth : 1 ≤ month)
    (hlt : month < later) (hlater : later ≤ 12) :
    daysBeforeMonth leap month + monthLength leap month ≤ daysBeforeMonth leap later := by
  have htable : ∀ leap : Bool, ∀ later < 13, ∀ month < later, 1 ≤ month →
      daysBeforeMonth leap month + monthLength leap month ≤ daysBeforeMonth leap later := by
    decide +kernel
  exact htable leap later (by omega) month hlt hmonth

/-- The months end with the year, at the latest. -/
theorem daysBeforeMonth_add_le_year (leap : Bool) {month : Nat} (hmonth : 1 ≤ month)
    (hmonth' : month ≤ 12) :
    (daysBeforeMonth leap month + monthLength leap month : Int) ≤ yearLength leap := by
  have htable : ∀ leap : Bool, ∀ month < 13, 1 ≤ month →
      (daysBeforeMonth leap month + monthLength leap month : Int) ≤ yearLength leap := by
    decide +kernel
  exact htable leap month (by omega) hmonth

theorem monthOfYearDay_spec {leap : Bool} {yearDay : Nat} (h : (yearDay : Int) < yearLength leap) :
    (1 ≤ monthOfYearDay leap yearDay ∧ monthOfYearDay leap yearDay ≤ 12) ∧
      daysBeforeMonth leap (monthOfYearDay leap yearDay) ≤ yearDay ∧
      yearDay < daysBeforeMonth leap (monthOfYearDay leap yearDay) +
        monthLength leap (monthOfYearDay leap yearDay) := by
  -- The days of a year are few enough to be gone through.
  have htable : ∀ leap : Bool, ∀ yearDay : Nat, yearDay < 366 → (yearDay : Int) < yearLength leap →
      (1 ≤ monthOfYearDay leap yearDay ∧ monthOfYearDay leap yearDay ≤ 12) ∧
        daysBeforeMonth leap (monthOfYearDay leap yearDay) ≤ yearDay ∧
        yearDay < daysBeforeMonth leap (monthOfYearDay leap yearDay) +
          monthLength leap (monthOfYearDay leap yearDay) := by
    decide +kernel
  have hlength := (yearLength_mem leap).2
  exact htable leap yearDay (by omega) h

/-- **The month of a day of the year** is the one between whose start and end the day lies. -/
theorem monthOfYearDay_eq {leap : Bool} {month yearDay : Nat} (hmonth : 1 ≤ month ∧ month ≤ 12)
    (hstart : daysBeforeMonth leap month ≤ yearDay)
    (hend : yearDay < daysBeforeMonth leap month + monthLength leap month) :
    monthOfYearDay leap yearDay = month := by
  have hyear := daysBeforeMonth_add_le_year leap hmonth.1 hmonth.2
  obtain ⟨hfound, hstart', hend'⟩ :=
    monthOfYearDay_spec (show (yearDay : Int) < yearLength leap by omega)
  generalize monthOfYearDay leap yearDay = found at *
  -- Of two months, the later one starts no sooner than the earlier one ends.
  rcases Nat.lt_trichotomy found month with hlt | heq | hgt
  · have hdisjoint := daysBeforeMonth_add_le leap hfound.1 hlt hmonth.2
    omega
  · exact heq
  · have hdisjoint := daysBeforeMonth_add_le leap hmonth.1 hgt hfound.2
    omega

/-! ### Dates -/

namespace Date

variable {d : Date} {day : Int}

theorem Valid.toDay_mem (h : d.Valid) :
    yearStart d.year ≤ d.toDay ∧ d.toDay < yearStart (d.year + 1) := by
  obtain ⟨hmonth, hmonth', hday, hday'⟩ := h
  have hyear := daysBeforeMonth_add_le_year (isLeap d.year) hmonth hmonth'
  rw [yearStart_succ]
  unfold toDay
  omega

/-- **The date of the day of a valid date** is that date. -/
theorem ofDay_toDay (h : d.Valid) : ofDay d.toDay = d := by
  have hyear : yearOfDay d.toDay = d.year := yearOfDay_eq_iff.mpr h.toDay_mem
  obtain ⟨hmonth, hmonth', hday, hday'⟩ := h
  -- The day of the year counts the months before and the days before.
  have hyearDay : (d.toDay - yearStart d.year).toNat =
      daysBeforeMonth (isLeap d.year) d.month + (d.day - 1) := by
    unfold toDay
    omega
  have hfound : monthOfYearDay (isLeap d.year)
      (daysBeforeMonth (isLeap d.year) d.month + (d.day - 1)) = d.month :=
    monthOfYearDay_eq ⟨hmonth, hmonth'⟩ (by omega) (by omega)
  unfold ofDay
  dsimp only
  have hrest : daysBeforeMonth (isLeap d.year) d.month + (d.day - 1) -
      daysBeforeMonth (isLeap d.year) d.month + 1 = d.day := by omega
  rw [hyear, hyearDay, hfound, hrest]

/-- The date of a day is valid, and the day of that date is the day. -/
theorem valid_and_toDay_ofDay (day : Int) : (ofDay day).Valid ∧ (ofDay day).toDay = day := by
  obtain ⟨hstart, hend⟩ := yearOfDay_spec day
  rw [yearStart_succ] at hend
  unfold ofDay
  dsimp only
  -- What follows holds for any year and month between whose starts and ends the day lies.
  generalize yearOfDay day = year at *
  generalize hyearDay : (day - yearStart year).toNat = yearDay
  obtain ⟨hmonth, hstart', hend'⟩ :=
    monthOfYearDay_spec (show (yearDay : Int) < yearLength (isLeap year) by omega)
  generalize monthOfYearDay (isLeap year) yearDay = month at *
  refine ⟨⟨hmonth.1, hmonth.2, Nat.le_add_left 1 _, ?_⟩, ?_⟩
  · dsimp only
    omega
  · unfold toDay
    dsimp only
    omega

theorem toDay_ofDay (day : Int) : (ofDay day).toDay = day := (valid_and_toDay_ofDay day).2

/-- A day is of a valid date when it is the day of that date. -/
theorem ofDay_eq_iff (h : d.Valid) : ofDay day = d ↔ day = d.toDay := by
  refine ⟨fun hd => ?_, fun hd => ?_⟩
  · rw [← hd, toDay_ofDay]
  · rw [hd, ofDay_toDay h]

end Date

/-! ### Sundays -/

theorem sundayFrom_mem (day : Int) : day ≤ sundayFrom day ∧ sundayFrom day ≤ day + 6 := by
  unfold sundayFrom weekday
  omega

theorem monthLength_mem (leap : Bool) (month : Nat) :
    28 ≤ monthLength leap month ∧ monthLength leap month ≤ 31 := by
  unfold monthLength
  split
  · cases leap
    · exact ⟨by decide, by decide⟩
    · exact ⟨by decide, by decide⟩
  all_goals exact ⟨by decide, by decide⟩

/-- **The Sunday of a rule lies in the month of the rule.** -/
theorem Sunday.dayIn_mem (s : Sunday) (year : Int) (month : Nat) :
    yearStart year + daysBeforeMonth (isLeap year) month ≤ s.dayIn year month ∧
      s.dayIn year month < yearStart year + daysBeforeMonth (isLeap year) month +
        monthLength (isLeap year) month := by
  have hlength := (monthLength_mem (isLeap year) month).1
  have hsunday := sundayFrom_mem (Date.toDay ⟨year, month, 1⟩)
  have hstart : Date.toDay ⟨year, month, 1⟩ =
      yearStart year + daysBeforeMonth (isLeap year) month := by
    unfold Date.toDay
    dsimp only
    omega
  -- The first Sunday is among the first seven days, and the others follow by weeks; the last one is
  -- looked for from the end of the month.
  unfold Sunday.dayIn
  cases s with
  | first => dsimp only; omega
  | second => dsimp only; omega
  | third => dsimp only; omega
  | last =>
    dsimp only
    unfold weekday
    omega

end MetricSeries.Time
