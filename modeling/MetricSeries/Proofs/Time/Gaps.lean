import MetricSeries.Proofs.Time.LocalTime

/-!
# Gaps

Where clocks are put forward, the wall times that they are put forward over make a gap. A wall time
in a gap ought to be read on standard time, as if clocks had not been changed yet. It is looked up
an hour later instead, and this comes to the same where clocks are put forward by an hour, and only
there (`Zone.toInstant_gap_spec`, `Zone.not_toInstant_gap`):

* where they are put forward by less, an hour later is too late;
* where they are put forward by more, an hour later is too early, or in the gap still. Then the wall
  time has no instant.

The first second of a gap is looked up on standard time at once where daylight time ends in the year
in which it begins.
-/

namespace MetricSeries.Time

/-! ### The years in range -/

/-- The years of what clocks show in range. -/
theorem year_mem_of_inRange {w : Wall} (hrange : inRange w = true) :
    -262143 ≤ yearOfDay (w / 1000 / 86400) ∧ yearOfDay (w / 1000 / 86400) ≤ 262142 := by
  obtain ⟨hlow, hhigh⟩ := inRange_iff.mp hrange
  obtain ⟨hstart, hend⟩ := yearOfDay_spec (w / 1000 / 86400)
  have hends : yearStart (-262143) * dayMillis = earliest ∧
      yearStart 262143 * dayMillis = latest + 1 := by decide
  unfold Wall dayMillis at *
  have hfirst : -262143 < yearOfDay (w / 1000 / 86400) + 1 :=
    yearStart_lt_iff.mp (by omega)
  have hlast : yearOfDay (w / 1000 / 86400) < 262143 := yearStart_lt_iff.mp (by omega)
  omega

/-- The days of a year in range are in range, but for those at the turn of the year. -/
theorem dayInRange_of_year {year day : Int} (hyear : -262143 ≤ year ∧ year ≤ 262142)
    (hstart : yearStart year + 2 ≤ day) (hend : day + 3 ≤ yearStart (year + 1)) :
    DayInRange day := by
  have hfirst : yearStart (-262143) ≤ yearStart year := yearStart_le_iff.mpr hyear.1
  have hlast : yearStart (year + 1) ≤ yearStart 262143 := yearStart_le_iff.mpr (by omega)
  have hends : yearStart (-262143) * dayMillis = earliest ∧
      yearStart 262143 * dayMillis = latest + 1 := by decide
  unfold dayMillis at hends
  -- The range begins and ends with a year, and the day is two days and more from both ends of its
  -- own.
  constructor
  · unfold dayMillis
    omega
  · unfold dayMillis
    omega

/-! ### Reading a wall time in a gap -/

namespace Zone

variable {z : Zone} {d : Daylight} {w : Wall} {year : Int}

/-- **The gap of a year**: the wall times that clocks are put forward over. -/
structure GapOf (z : Zone) (d : Daylight) (year : Int) (w : Wall) : Prop where
  daylight : z.daylight = some d
  start_le : d.begins.inYear year * 1000 ≤ w
  lt_end : w < (d.begins.inYear year + d.shift) * 1000

/-- A wall time is in a gap when it is in that of a year. -/
def InGap (z : Zone) (w : Wall) : Prop := ∃ d year, z.GapOf d year w

theorem GapOf.seconds (hgap : z.GapOf d year w) :
    d.begins.inYear year ≤ w / 1000 ∧ w / 1000 < d.begins.inYear year + d.shift := by
  obtain ⟨-, hstart, hend⟩ := hgap
  unfold Wall at *
  omega

namespace Regular

variable (h : z.Regular) (hgap : z.GapOf d year w)

include h hgap

/-- A gap is in the year that the clocks show. -/
theorem yearOfDay_of_gapOf : yearOfDay (w / 1000 / 86400) = year := by
  have hregular := h.daylight d hgap.daylight
  rw [hregular.day_of_gap hgap.seconds.1 hgap.seconds.2]
  exact ClockChange.yearOfDay_near hregular.begins_month (by omega)

variable (hrange : inRange w = true)

include hrange

/-- The day of a gap is in range, and the next one too. -/
theorem dayInRange_of_gapOf :
    DayInRange (w / 1000 / 86400) ∧ DayInRange (w / 1000 / 86400 + 1) := by
  have hregular := h.daylight d hgap.daylight
  have hyear := year_mem_of_inRange hrange
  rw [h.yearOfDay_of_gapOf hgap] at hyear
  have hday := ClockChange.dayIn_mem hregular.begins_month year
  rw [hregular.day_of_gap hgap.seconds.1 hgap.seconds.2]
  exact ⟨dayInRange_of_year hyear (by omega) (by omega),
    dayInRange_of_year hyear (by omega) (by omega)⟩

/-- Up to two hours behind a wall time in a gap, all wall times and their instants are in range. -/
theorem inRange_of_gapOf {w' : Wall} {offset : Int} (hnear : w ≤ w' ∧ w' ≤ w + 2 * hourMillis)
    (hoffset : z.IsOffset offset) : inRange w' = true ∧ inRange (w' - offset * 1000) = true := by
  refine h.inRange_around (h.dayInRange_of_gapOf hgap hrange).2 ?_ (h.mem_of_isOffset hoffset)
  unfold Wall hourMillis dayMillis at *
  omega

/-- **The instant of standard time** shows a wall time in a gap put forward. -/
theorem toWall_of_gapOf : z.toWall (w - z.standard * 1000) = .ok (w + d.shift * 1000) := by
  have hregular := h.daylight d hgap.daylight
  have hholds : d.HoldsIn (yearOfDay (w / 1000 / 86400)) (w / 1000) := by
    rw [h.yearOfDay_of_gapOf hgap]
    exact ((hregular.mem_gap_iff _ _).mp hgap.seconds).1
  -- As daylight time holds then, the offset is not that of standard time.
  have hoffset : z.offsetAt (w - z.standard * 1000) = z.standard + d.shift := by
    have hnot := mt (h.offsetAt_standard_iff hgap.daylight w).mp (not_not_intro hholds)
    obtain ⟨d', hdaylight, hoffset⟩ := (z.isOffset_offsetAt _).resolve_left hnot
    obtain rfl := Option.some.inj (hgap.daylight.symm.trans hdaylight)
    exact hoffset
  have hshift := hregular.shift
  have hinstant : inRange (w - z.standard * 1000) = true := by
    refine (h.inRange_of_gapOf hgap hrange ?_ (.inl rfl)).2
    unfold Wall hourMillis
    omega
  have hwall : inRange (w + d.shift * 1000) = true := by
    refine (h.inRange_of_gapOf hgap hrange ?_ (.inl rfl)).1
    unfold Wall hourMillis
    omega
  have heq : w - z.standard * 1000 + (z.standard + d.shift) * 1000 = w + d.shift * 1000 := by
    unfold Wall
    omega
  refine toWall_eq_ok_iff.mpr ⟨hinstant, ?_, ?_⟩
  · rw [hoffset, heq]
    exact hwall
  · rw [hoffset, heq]

theorem toInstant_of_first (hfirst : d.LooksUpFirst year (w / 1000)) :
    z.toInstant w = .ok (w - z.standard * 1000) := by
  refine toInstant_of_some ?_ (h.inRange_of_gapOf hgap hrange (by unfold Wall hourMillis; omega)
    (.inl rfl)).2
  rw [offsetAtWall?_of_some hgap.daylight, (h.daylight d hgap.daylight).shiftAtWall?_gap
    hgap.seconds.1 hgap.seconds.2, if_pos hfirst, Option.map_some, Int.add_zero]

variable (hlater : ¬ d.LooksUpFirst year (w / 1000))

include hlater

omit hrange in
theorem offsetAtWall?_of_gapOf : z.offsetAtWall? w = none := by
  rw [offsetAtWall?_of_some hgap.daylight, (h.daylight d hgap.daylight).shiftAtWall?_gap
    hgap.seconds.1 hgap.seconds.2, if_neg hlater, Option.map_none]

/-- **An hour later in the gap still**, a wall time has no instant. -/
theorem toInstant_of_in_gap (hinside : w + hourMillis < (d.begins.inYear year + d.shift) * 1000) :
    z.toInstant w = .error (.invalidDateTime (Wall.fullText w)) := by
  have hgap' : z.GapOf d year (w + hourMillis) :=
    ⟨hgap.daylight, by have := hgap.start_le; unfold Wall hourMillis at *; omega, hinside⟩
  -- An hour after the start of the gap is not its first second.
  have hlater' : ¬ d.LooksUpFirst year ((w + hourMillis) / 1000) := by
    rintro ⟨-, hseconds⟩
    have hstart := hgap.seconds.1
    unfold Wall hourMillis at *
    omega
  have hwall : inRange (w + hourMillis) = true := by
    refine (h.inRange_of_gapOf hgap hrange ?_ (.inl rfl)).1
    unfold Wall hourMillis
    omega
  unfold toInstant instantOf?
  rw [h.offsetAtWall?_of_gapOf hgap hlater, h.offsetAtWall?_of_gapOf hgap' hlater']
  exact if_pos hwall

/-- **An hour later behind the gap**, a wall time has the instant of that hour. -/
theorem toInstant_of_behind_gap
    (hbehind : (d.begins.inYear year + d.shift) * 1000 ≤ w + hourMillis) :
    z.toInstant w = .ok (w + hourMillis - (z.standard + d.shift) * 1000) ∧
      z.toWall (w + hourMillis - (z.standard + d.shift) * 1000) = .ok (w + hourMillis) := by
  have hregular := h.daylight d hgap.daylight
  have hshift := hregular.shift
  have hseconds : d.begins.inYear year + d.shift ≤ (w + hourMillis) / 1000 ∧
      (w + hourMillis) / 1000 < d.begins.inYear year + d.shift + 3600 := by
    have hend := hgap.lt_end
    unfold Wall hourMillis at *
    omega
  have hhour := hregular.begins_hour
  have hfound : z.offsetAtWall? (w + hourMillis) = some (z.standard + d.shift) := by
    rw [offsetAtWall?_of_some hgap.daylight,
      hregular.shiftAtWall?_behind_gap hseconds.1 hseconds.2, Option.map_some]
  have hoffset : z.IsOffset (z.standard + d.shift) := .inr ⟨d, hgap.daylight, rfl⟩
  have hnear : w ≤ w + hourMillis ∧ w + hourMillis ≤ w + 2 * hourMillis := by
    unfold Wall hourMillis
    omega
  obtain ⟨hwall, hinstant⟩ := h.inRange_of_gapOf hgap hrange hnear hoffset
  refine ⟨toInstant_of_none (h.offsetAtWall?_of_gapOf hgap hlater) hwall hfound hinstant, ?_⟩
  -- Daylight time has begun then.
  have hshown : z.offsetAt (w + hourMillis - (z.standard + d.shift) * 1000) =
      z.standard + d.shift := by
    have hyear : yearOfDay ((w + hourMillis) / 1000 / 86400) = year := by
      refine ClockChange.yearOfDay_near hregular.begins_month ?_
      obtain ⟨hstart, hend⟩ := hseconds
      rw [ClockChange.inYear_eq] at hstart hend
      unfold Wall at *
      omega
    refine (h.offsetAt_daylight_iff hgap.daylight (w + hourMillis)).mpr ?_
    rw [hyear]
    unfold Wall at *
    exact hregular.holdsIn_of_begins_le (by omega) (by omega)
  exact toWall_sub hshown hwall hinstant

/-- So a wall time that is not looked up is resolved only if an hour later is behind the gap. -/
theorem behind_of_toInstant {t : Instant} (ht : z.toInstant w = .ok t) :
    (d.begins.inYear year + d.shift) * 1000 ≤ w + hourMillis ∧
      t = w + hourMillis - (z.standard + d.shift) * 1000 := by
  -- An hour later is still inside the gap only if the shift is longer than an hour, and that is
  -- refused.
  by_cases hinside : w + hourMillis < (d.begins.inYear year + d.shift) * 1000
  · rw [h.toInstant_of_in_gap hgap hrange hlater hinside] at ht
    cases ht
  · have hbehind := Int.not_lt.mp hinside
    rw [(h.toInstant_of_behind_gap hgap hrange hlater hbehind).1] at ht
    exact ⟨hbehind, (Except.ok.inj ht).symm⟩

end Regular

/-- **Reading a wall time in a gap.** In every known zone, the instant at which clocks show a wall
time in a gap put forward is that of standard time. The wall time is read as this instant where
clocks are put forward by an hour, or where its second is looked up. Else it is read as what clocks
show an hour later, and has no instant where that is in the gap still. -/
theorem toInstant_gap_spec (z : Zone) (d : Daylight) (year : Int) (w : Wall)
    (hzone : z ∈ Zone.all) (hgap : z.GapOf d year w) (hrange : inRange w = true) :
    z.toWall (w - z.standard * 1000) = .ok (w + d.shift * 1000) ∧
    (z.toInstant w = .ok (w - z.standard * 1000) ↔
      d.shift = 3600 ∨ d.LooksUpFirst year (w / 1000)) ∧
    (¬ d.LooksUpFirst year (w / 1000) →
      (w + hourMillis < (d.begins.inYear year + d.shift) * 1000 →
        z.toInstant w = .error (.invalidDateTime (Wall.fullText w))) ∧
      ((d.begins.inYear year + d.shift) * 1000 ≤ w + hourMillis →
        z.toInstant w = .ok (w + hourMillis - (z.standard + d.shift) * 1000) ∧
          z.toWall (w + hourMillis - (z.standard + d.shift) * 1000) = .ok (w + hourMillis))) := by
  have hz := regular_of_mem_all hzone
  refine ⟨hz.toWall_of_gapOf hgap hrange, ?_, fun hlater =>
    ⟨hz.toInstant_of_in_gap hgap hrange hlater, hz.toInstant_of_behind_gap hgap hrange hlater⟩⟩
  by_cases hfirst : d.LooksUpFirst year (w / 1000)
  · exact iff_of_true (hz.toInstant_of_first hgap hrange hfirst) (.inr hfirst)
  · -- Taking back an hour comes to the same as taking back the shift if they are equal.
    rw [or_iff_left hfirst]
    have hstart := hgap.start_le
    by_cases hinside : w + hourMillis < (d.begins.inYear year + d.shift) * 1000
    · rw [hz.toInstant_of_in_gap hgap hrange hfirst hinside]
      refine iff_of_false nofun fun hshift => ?_
      unfold Wall hourMillis at *
      omega
    · rw [(hz.toInstant_of_behind_gap hgap hrange hfirst (Int.not_lt.mp hinside)).1,
        Except.ok.injEq]
      unfold Instant Wall hourMillis
      omega

/-- A zone whose clocks are put forward by half an hour. -/
def halfHour : Zone :=
  ⟨"<+1030>-10:30<+11>-11,M10.1.0,M4.1.0", 37800,
    some ⟨1800, ⟨10, .first, 2⟩, ⟨4, .first, 2⟩⟩⟩

theorem gapOf_halfHour : halfHour.GapOf ⟨1800, ⟨10, .first, 2⟩, ⟨4, .first, 2⟩⟩ 2024
    (Wall.ofDate ⟨2024, 10, 6⟩ 2 15) :=
  ⟨rfl, by decide +kernel, by decide +kernel⟩

/-- Where clocks are put from two o'clock to half past two, a quarter past two is read as a quarter
past three. -/
theorem toInstant_gap_spec_halfHour :
    halfHour.toInstant (Wall.ofDate ⟨2024, 10, 6⟩ 2 15) = .ok 1728144900000 ∧
      halfHour.toWall 1728144900000 = .ok (Wall.ofDate ⟨2024, 10, 6⟩ 3 15) ∧
      halfHour.toWall 1728143100000 = .ok (Wall.ofDate ⟨2024, 10, 6⟩ 2 45) := by
  obtain ⟨hshown, -, hlater⟩ := toInstant_gap_spec halfHour _ 2024 _ (by decide) gapOf_halfHour
    (by decide +kernel)
  obtain ⟨hread, hwall⟩ := (hlater (by decide +kernel)).2 (by decide +kernel)
  exact ⟨hread, hwall, hshown⟩

/-- **Not every wall time in a gap is read on standard time.** -/
theorem not_toInstant_gap : ¬ ∀ (z : Zone) (d : Daylight) (year : Int) (w : Wall),
    z ∈ Zone.all → z.GapOf d year w → inRange w = true →
      z.toInstant w = .ok (w - z.standard * 1000) := by
  intro hall
  have hread := hall halfHour _ 2024 _ (by decide) gapOf_halfHour (by decide +kernel)
  have hread' : halfHour.toInstant (Wall.ofDate ⟨2024, 10, 6⟩ 2 15) = .ok 1728144900000 := by
    decide +kernel
  rw [hread'] at hread
  exact absurd hread (by decide +kernel)

end Zone

end MetricSeries.Time
