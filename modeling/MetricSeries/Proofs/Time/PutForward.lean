import MetricSeries.Proofs.Time.ClockChanges

/-!
# Putting clocks forward

By the rules of one year, the wall times that clocks are put forward over are those at which
daylight time holds if they are read as standard time, and does not hold yet if they are read as
daylight time (`Daylight.Regular.mem_gap_iff`). Nothing is looked up there, but for the first second
where daylight time begins before it ends in the year (`Daylight.Regular.shiftAtWall?_gap`), and
behind there it is daylight time (`Daylight.Regular.shiftAtWall?_behind_gap`).
-/

namespace MetricSeries.Time

/-! ### The changes of a year -/

/-- **The Sundays of rules** are Sundays. -/
theorem Sunday.weekday_dayIn (s : Sunday) (year : Int) (month : Nat) :
    weekday (s.dayIn year month) = 0 := by
  unfold Sunday.dayIn
  cases s with
  | first => dsimp only; unfold sundayFrom weekday; omega
  | second => dsimp only; unfold sundayFrom weekday; omega
  | third => dsimp only; unfold sundayFrom weekday; omega
  | last => dsimp only; unfold weekday; omega

/-- The days around a clock change are of its year. -/
theorem ClockChange.yearOfDay_near {c : ClockChange} (hmonth : 2 ≤ c.month ∧ c.month ≤ 11)
    {year day : Int} (hnear : c.dayIn year - 2 ≤ day ∧ day ≤ c.dayIn year + 2) :
    yearOfDay day = year := by
  have hday := dayIn_mem hmonth year
  exact yearOfDay_eq_iff.mpr ⟨by omega, by omega⟩

/-- **The first second of a gap**, in a year in which daylight time begins before it ends. -/
def Daylight.LooksUpFirst (d : Daylight) (year seconds : Int) : Prop :=
  d.begins.inYear year < d.ends.inYear year ∧ seconds = d.begins.inYear year

instance (d : Daylight) (year seconds : Int) : Decidable (d.LooksUpFirst year seconds) :=
  inferInstanceAs (Decidable (_ ∧ _))

namespace Daylight.Regular

variable {d : Daylight} (h : d.Regular) {year seconds : Int}

include h

/-- Daylight time lasts for days where it ends in the year in which it begins: the two changes are
made on different Sundays. -/
theorem begins_add_le_ends (hmonths : d.begins.month < d.ends.month) (year : Int) :
    d.begins.inYear year + 3 * 86400 ≤ d.ends.inYear year := by
  have hdays := h.begins_dayIn_lt hmonths year
  have hbegins := d.begins.sunday.weekday_dayIn year d.begins.month
  have hends := d.ends.sunday.weekday_dayIn year d.ends.month
  obtain ⟨shift, -, -, -, begins_hour, ends_hour, -, -⟩ := h
  rw [ClockChange.inYear_eq, ClockChange.inYear_eq]
  unfold ClockChange.dayIn weekday at *
  omega

/-- Daylight time has ended before it begins where it lasts over the turn of the year. -/
theorem ends_le_begins (hmonths : ¬ d.begins.month < d.ends.month) (year : Int) :
    d.ends.inYear year ≤ d.begins.inYear year := by
  have hmonths_ne := h.months
  have hdays := h.ends_dayIn_lt (by omega) year
  obtain ⟨-, -, -, -, begins_hour, ends_hour, -, -⟩ := h
  rw [ClockChange.inYear_eq, ClockChange.inYear_eq]
  omega

/-- For days after it begins it is daylight time. -/
theorem holdsIn_of_begins_le (hstart : d.begins.inYear year ≤ seconds)
    (hend : seconds < d.begins.inYear year + 2 * 86400) : d.HoldsIn year seconds := by
  unfold HoldsIn
  -- Within one year the period lasts longer than two days; over the turn of a year it has no end in
  -- this one.
  by_cases hmonths : d.begins.month < d.ends.month
  · have hlong := h.begins_add_le_ends hmonths year
    have hshift := h.shift
    rw [if_pos hmonths]
    omega
  · rw [if_neg hmonths]
    exact .inr hstart

/-! ### Looking up -/

/-- **Clocks are put forward over a wall time** where daylight time holds if it is read as standard
time, and does not hold if it is read as daylight time. -/
theorem mem_gap_iff (year seconds : Int) :
    (d.begins.inYear year ≤ seconds ∧ seconds < d.begins.inYear year + d.shift) ↔
      d.HoldsIn year seconds ∧ ¬ d.HoldsIn year (seconds - d.shift) := by
  -- No other change is made between the two, as daylight time lasts for days.
  have hshift := h.shift
  unfold HoldsIn
  by_cases hmonths : d.begins.month < d.ends.month
  · have hlong := h.begins_add_le_ends hmonths year
    rw [if_pos hmonths, if_pos hmonths]
    omega
  · have horder := h.ends_le_begins hmonths year
    rw [if_neg hmonths, if_neg hmonths]
    omega

/-- Clocks are put forward within one day. -/
theorem day_of_gap (hstart : d.begins.inYear year ≤ seconds)
    (hend : seconds < d.begins.inYear year + d.shift) :
    seconds / 86400 = d.begins.dayIn year := by
  have hhour := h.begins_hour
  rw [ClockChange.inYear_eq] at hstart hend
  omega

/-- **In a gap** nothing is looked up but its first second, if that. -/
theorem shiftAtWall?_gap (hstart : d.begins.inYear year ≤ seconds)
    (hend : seconds < d.begins.inYear year + d.shift) :
    Zone.shiftAtWall? d seconds = if d.LooksUpFirst year seconds then some 0 else none := by
  have hyear : yearOfDay (seconds / 86400) = year := by
    rw [h.day_of_gap hstart hend]
    exact ClockChange.yearOfDay_near h.begins_month (by omega)
  unfold Zone.shiftAtWall?
  dsimp only
  rw [hyear]
  -- The lookup has a case for each order of the two changes, and only in the first does it let the
  -- second at which the gap starts through.
  by_cases horder : d.begins.inYear year < d.ends.inYear year
  · rw [if_pos horder]
    by_cases hfirst : seconds = d.begins.inYear year
    · rw [if_pos (by omega), if_pos ⟨horder, hfirst⟩]
    · rw [if_neg (by omega), if_pos (by omega), if_neg fun hboth => hfirst hboth.2]
  · have hshift := h.shift
    rw [if_neg horder, if_neg (by omega), if_neg (by omega), if_pos (by omega),
      if_neg fun hboth => horder hboth.1]

/-- **Behind a gap** it is daylight time. -/
theorem shiftAtWall?_behind_gap (hstart : d.begins.inYear year + d.shift ≤ seconds)
    (hend : seconds < d.begins.inYear year + d.shift + 3600) :
    Zone.shiftAtWall? d seconds = some d.shift := by
  have hshift := h.shift
  have hyear : yearOfDay (seconds / 86400) = year := by
    refine ClockChange.yearOfDay_near h.begins_month ?_
    have hhour := h.begins_hour
    rw [ClockChange.inYear_eq] at hstart hend
    omega
  rw [h.shiftAtWall?_of_not_gap rfl (.inr (by rw [hyear]; exact hstart)), hyear,
    if_pos (h.holdsIn_of_begins_le (by omega) (by omega))]

/-- So what is looked up in a gap has the shift of standard time, and what clocks are put to then is
on daylight time. -/
theorem shiftAtWall?_of_gap {shift : Int}
    (hgap : d.begins.inYear (yearOfDay (seconds / 86400)) ≤ seconds ∧
      seconds < d.begins.inYear (yearOfDay (seconds / 86400)) + d.shift)
    (hfound : Zone.shiftAtWall? d seconds = some shift) :
    shift = 0 ∧ Zone.shiftAtWall? d (seconds + d.shift) = some d.shift := by
  rw [h.shiftAtWall?_gap hgap.1 hgap.2, Option.ite_none_right_eq_some] at hfound
  obtain ⟨⟨-, hfirst⟩, hzero⟩ := hfound
  refine ⟨(Option.some.inj hzero).symm, ?_⟩
  exact h.shiftAtWall?_behind_gap (Int.add_le_add_right hgap.1 _) (by omega)

/-- The shift that is found for a wall time is that of standard or of daylight time. -/
theorem shiftAtWall?_eq_or {seconds shift : Int}
    (hfound : Zone.shiftAtWall? d seconds = some shift) : shift = 0 ∨ shift = d.shift := by
  -- In a gap the standard offset is taken; outside it the rule decides between the two.
  by_cases hgap : d.begins.inYear (yearOfDay (seconds / 86400)) ≤ seconds ∧
      seconds < d.begins.inYear (yearOfDay (seconds / 86400)) + d.shift
  · exact .inl (h.shiftAtWall?_of_gap hgap hfound).1
  · rw [h.shiftAtWall?_of_not_gap rfl (by omega)] at hfound
    obtain rfl := Option.some.inj hfound
    split
    · exact .inr rfl
    · exact .inl rfl

end Daylight.Regular

end MetricSeries.Time
