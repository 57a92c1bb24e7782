import Mathlib.Order.Bounds.Basic
import MetricSeries.Proofs.Time.OutsideGaps

/-!
# Wall times and instants as inverses

Clocks show every wall time that is not in the gap of its year, and what is read for it is the
latest instant at which they do (`Zone.Regular.exists_latest`). The other way round, what clocks
show at an instant is read as this instant again, unless they are put back afterwards and show it
once more.

Where clocks are put back, an interval of wall times is repeated: it ends where they are changed and
is as long as the shift. Its first pass is on daylight time, its second one on standard time
(`Zone.Regular.exists_firstPassOf_iff`), and a wall time in it is read in the second pass. So an
instant in the first pass comes back later by the shift
(`Zone.Regular.toInstant_of_firstPassOf`), and every other instant comes back as it is
(`Zone.Regular.toInstant_of_not_firstPassOf`). The first passes are said by the rules of a year; in
range they hold exactly the instants that are shown again (`Zone.Regular.shownAgain_iff`).

All this holds as long as a wall time and its instant are both in range. The two differ by hours, so
that at either end of the line one of them may be in range and the other one not.
-/

namespace MetricSeries.Time

/-! ### Putting clocks back -/

namespace Daylight.Regular

variable {d : Daylight} (h : d.Regular) {year seconds : Int}

include h

/-- **Clocks are put back over a wall time** where daylight time does not hold if it is read as
standard time, and holds still if it is read as daylight time. -/
theorem mem_repeated_iff (year seconds : Int) :
    (d.ends.inYear year - d.shift ≤ seconds ∧ seconds < d.ends.inYear year) ↔
      ¬ d.HoldsIn year seconds ∧ d.HoldsIn year (seconds - d.shift) := by
  -- No other change is made between the two, as daylight time lasts for days.
  have hshift := h.shift
  unfold HoldsIn
  by_cases hmonths : d.begins.month < d.ends.month
  · have hlong := h.begins_add_le_ends hmonths year
    rw [if_pos hmonths, if_pos hmonths]
    omega
  · have horder := h.ends_le_begins hmonths year
    rw [if_neg hmonths, if_neg hmonths]
    omega

/-- Clocks are put back over wall times of one day, or of that and the one before it. -/
theorem day_of_repeated
    (hrepeated : d.ends.inYear year - d.shift ≤ seconds ∧ seconds < d.ends.inYear year) :
    d.ends.dayIn year - 1 ≤ seconds / 86400 ∧ seconds / 86400 ≤ d.ends.dayIn year := by
  have hshift := h.shift
  have hhour := h.ends_hour
  rw [ClockChange.inYear_eq] at hrepeated
  omega

/-- These are days of the year in which clocks are put back. -/
theorem yearOfDay_of_repeated
    (hrepeated : d.ends.inYear year - d.shift ≤ seconds ∧ seconds < d.ends.inYear year) :
    yearOfDay (seconds / 86400) = year := by
  have hday := h.day_of_repeated hrepeated
  exact ClockChange.yearOfDay_near h.ends_month (by omega)

end Daylight.Regular

namespace Zone

variable {z : Zone} {d : Daylight} {w : Wall} {t : Instant} {year : Int}

/-- **The first pass of the interval that is repeated in a year**: the instants at which clocks on
daylight time show what they are put back over. -/
structure FirstPassOf (z : Zone) (d : Daylight) (year : Int) (t : Instant) : Prop where
  daylight : z.daylight = some d
  start_le : (d.ends.inYear year - d.shift) * 1000 ≤ t + (z.standard + d.shift) * 1000
  lt_end : t + (z.standard + d.shift) * 1000 < d.ends.inYear year * 1000

theorem FirstPassOf.seconds (hpass : z.FirstPassOf d year t)
    (hw : t + (z.standard + d.shift) * 1000 = w) :
    d.ends.inYear year - d.shift ≤ w / 1000 ∧ w / 1000 < d.ends.inYear year := by
  obtain ⟨-, hstart, hend⟩ := hpass
  rw [hw] at hstart hend
  unfold Instant Wall at *
  omega

namespace Regular

variable (h : z.Regular)

include h

/-- **A first pass** is where clocks are on daylight time, and on standard time as long after that
as they are put back by. -/
theorem exists_firstPassOf_iff (hdaylight : z.daylight = some d) :
    (∃ year, z.FirstPassOf d year t) ↔
      z.offsetAt t = z.standard + d.shift ∧ z.offsetAt (t + d.shift * 1000) = z.standard := by
  have hregular := h.daylight d hdaylight
  obtain ⟨w, hw⟩ : ∃ w : Wall, t + (z.standard + d.shift) * 1000 = w := ⟨_, rfl⟩
  have hinstant : t = w - (z.standard + d.shift) * 1000 := by
    unfold Instant Wall at *
    omega
  have hlater : t + d.shift * 1000 = w - z.standard * 1000 := by
    unfold Instant Wall at *
    omega
  -- In terms of the wall time, both sides say that it is in the stretch that is shown twice.
  rw [hlater, hinstant, h.offsetAt_daylight_iff hdaylight, h.offsetAt_standard_iff hdaylight,
    and_comm, ← hregular.mem_repeated_iff, ← hinstant]
  refine ⟨?_, fun hrepeated => ⟨yearOfDay (w / 1000 / 86400), hdaylight, ?_, ?_⟩⟩
  · rintro ⟨year, hpass⟩
    have hrepeated := hpass.seconds hw
    rw [hregular.yearOfDay_of_repeated hrepeated]
    exact hrepeated
  · rw [hw]
    unfold Instant Wall at *
    omega
  · rw [hw]
    unfold Instant Wall at *
    omega

/-- Clocks are put back far from the ends of the line, so that the second pass is in range where
they show a time in range. -/
theorem inRange_of_firstPassOf (hpass : z.FirstPassOf d year t)
    (hw : t + (z.standard + d.shift) * 1000 = w) (hrange : inRange w = true) :
    inRange (t + d.shift * 1000) = true := by
  have hregular := h.daylight d hpass.daylight
  have hrepeated := hpass.seconds hw
  have hyear := year_mem_of_inRange hrange
  rw [hregular.yearOfDay_of_repeated hrepeated] at hyear
  have hday := hregular.day_of_repeated hrepeated
  have hends := ClockChange.dayIn_mem hregular.ends_month year
  -- The repeated stretch is far from the turn of its year, and so from the ends of the range.
  have hdays : DayInRange (w / 1000 / 86400) :=
    dayInRange_of_year hyear (by omega) (by omega)
  have hlater : t + d.shift * 1000 = w - z.standard * 1000 := by
    unfold Instant Wall at *
    omega
  rw [hlater]
  refine (h.inRange_around hdays ?_ (h.mem_of_isOffset (.inl rfl))).2
  unfold Wall dayMillis at *
  omega

/-! ### From instants to wall times and back -/

/-- In a first pass clocks show what they show again after the shift. -/
theorem wallAt_of_firstPassOf (hpass : z.FirstPassOf d year t) :
    z.wallAt t = t + (z.standard + d.shift) * 1000 ∧
      z.wallAt (t + d.shift * 1000) = z.wallAt t := by
  obtain ⟨hshifted, hstandard⟩ := (h.exists_firstPassOf_iff hpass.daylight).mp ⟨year, hpass⟩
  unfold wallAt
  rw [hshifted, hstandard]
  unfold Instant Wall
  omega

/-- **In a first pass** what clocks show is read as the instant at which they show it again. -/
theorem toInstant_of_firstPassOf (hpass : z.FirstPassOf d year t)
    (hrange : inRange (z.wallAt t) = true) :
    z.toInstant (z.wallAt t) = .ok (t + d.shift * 1000) := by
  obtain ⟨-, hstandard⟩ := (h.exists_firstPassOf_iff hpass.daylight).mp ⟨year, hpass⟩
  obtain ⟨hwall, hagain⟩ := h.wallAt_of_firstPassOf hpass
  rw [← hagain]
  refine toInstant_wallAt ?_ (h.inRange_of_firstPassOf hpass hwall.symm hrange)
  rw [hstandard]
  exact h.offsetAtWall?_wallAt_of_standard hstandard

/-- **Out of every first pass** an instant is read again from what clocks show at it. -/
theorem toInstant_of_not_firstPassOf (hnot : ∀ d year, ¬ z.FirstPassOf d year t)
    (hrange : inRange t = true) : z.toInstant (z.wallAt t) = .ok t := by
  refine toInstant_wallAt ?_ hrange
  rcases z.isOffset_offsetAt t with hoffset | ⟨d, hdaylight, hoffset⟩
  · rw [hoffset]
    exact h.offsetAtWall?_wallAt_of_standard hoffset
  · -- On daylight time clocks do not show the same later.
    have hlater : z.wallAt t - z.standard * 1000 = t + d.shift * 1000 := by
      unfold wallAt
      rw [hoffset]
      unfold Instant Wall
      omega
    rw [hoffset]
    refine h.offsetAtWall?_of_daylight hdaylight ?_ ?_
    · rw [hlater]
      intro hstandard
      obtain ⟨year, hpass⟩ := (h.exists_firstPassOf_iff hdaylight).mpr ⟨hoffset, hstandard⟩
      exact hnot d year hpass
    · rw [← hoffset, wallAt_sub_offsetAt]

/-- **Instants that are shown again** are those in a first pass. -/
theorem shownAgain_iff (hinstant : inRange t = true) (hrange : inRange (z.wallAt t) = true) :
    z.ShownAgain t ↔ ∃ d year, z.FirstPassOf d year t := by
  have hwall : z.toWall t = .ok (z.wallAt t) := toWall_eq_ok_iff.mpr ⟨hinstant, hrange, rfl⟩
  refine ⟨fun hagain => ?_, ?_⟩
  · -- Outside a first pass the lookup returns the instant itself, which is not later.
    by_contra hnot
    have hnot' : ∀ d year, ¬ z.FirstPassOf d year t := fun d year hpass => hnot ⟨d, year, hpass⟩
    obtain ⟨d, hdaylight, hlater, -⟩ := h.toInstant_of_shownAgain hwall hagain
    have hsame := Except.ok.inj (hlater.symm.trans (h.toInstant_of_not_firstPassOf hnot' hinstant))
    have hshift := (h.daylight d hdaylight).shift
    unfold Instant at *
    omega
  · rintro ⟨d, year, hpass⟩
    have hshift := (h.daylight d hpass.daylight).shift
    obtain ⟨hshown, hagain⟩ := h.wallAt_of_firstPassOf hpass
    have hlater := h.inRange_of_firstPassOf hpass hshown.symm hrange
    have hrange' : inRange (z.wallAt (t + d.shift * 1000)) = true := by rwa [hagain]
    refine ⟨t + d.shift * 1000, _, ?_, hwall, toWall_eq_ok_iff.mpr ⟨hlater, hrange', hagain.symm⟩⟩
    unfold Instant
    omega

/-! ### From wall times to instants and back -/

/-- A wall time is in a gap when it is in that of the year that it shows. -/
theorem inGap_iff_date : z.InGap w ↔ ∃ d, z.GapOf d (Wall.date w).year w := by
  refine ⟨?_, fun ⟨d, hgap⟩ => ⟨d, _, hgap⟩⟩
  rintro ⟨d, year, hgap⟩
  -- The gap lies inside its year, so the date of the wall time names that year.
  have hdate : (Wall.date w).year = year := by
    have hday : w / dayMillis = w / 1000 / 86400 := by
      unfold Wall dayMillis
      omega
    calc
      (Wall.date w).year = yearOfDay (w / 1000 / 86400) := congrArg yearOfDay hday
      _ = year := h.yearOfDay_of_gapOf hgap
  exact ⟨d, hdate ▸ hgap⟩

/-- **Outside gaps** clocks show a wall time, and what is read for it is the latest instant at which
they do. -/
theorem exists_latest (hgap : ¬ z.InGap w) :
    ∃ t, IsGreatest {t' | z.wallAt t' = w} t ∧
      (inRange w = true → inRange t = true → z.toInstant w = .ok t ∧ z.toWall t = .ok w) := by
  obtain ⟨offset, hfound, hoffset⟩ := h.exists_offset_of_not_inGap hgap
  refine ⟨w - offset * 1000, ⟨wallAt_sub hoffset, fun t' => h.le_of_offsetAtWall? hfound⟩, ?_⟩
  exact fun hrange hinstant =>
    ⟨toInstant_of_some hfound hinstant, toWall_sub hoffset hrange hinstant⟩

end Regular

/-- **Wall times and instants are inverse** to each other away from clock changes. In every known
zone, where the wall time and the instant are in range:

* a wall time that is not in the gap of its year is read as the latest instant at which clocks show
  it, and they show it then;
* what clocks show at an instant is read as this instant, unless this is in the first pass of a
  repeated interval, and then as the one that is later by the shift of the clocks. -/
theorem toInstant_toWall_inverse (z : Zone) (hzone : z ∈ Zone.all) :
    (∀ w, (∀ d, ¬ z.GapOf d (Wall.date w).year w) →
      ∃ t, IsGreatest {t' | z.wallAt t' = w} t ∧
        (inRange w = true → inRange t = true → z.toInstant w = .ok t ∧ z.toWall t = .ok w)) ∧
    ∀ t, inRange t = true → inRange (z.wallAt t) = true →
      z.toWall t = .ok (z.wallAt t) ∧
      ((∀ d year, ¬ z.FirstPassOf d year t) → z.toInstant (z.wallAt t) = .ok t) ∧
      ∀ d year, z.FirstPassOf d year t → z.toInstant (z.wallAt t) = .ok (t + d.shift * 1000) := by
  have hz := regular_of_mem_all hzone
  -- One way goes from wall times outside gaps, the other from instants, in the first pass or not.
  refine ⟨fun w hgap => hz.exists_latest ?_, fun t hinstant hrange => ⟨?_, ?_, ?_⟩⟩
  · exact fun hin => not_exists.mpr hgap (hz.inGap_iff_date.mp hin)
  · exact toWall_eq_ok_iff.mpr ⟨hinstant, hrange, rfl⟩
  · exact fun hnot => hz.toInstant_of_not_firstPassOf hnot hinstant
  · exact fun d year hpass => hz.toInstant_of_firstPassOf hpass hrange

/-- Where clocks are put from two o'clock back to half past one, a quarter to two comes twice. Half
an hour after the first time is the second one, and that comes back as it is. -/
theorem toInstant_toWall_inverse_halfHour :
    IsGreatest {t | halfHour.wallAt t = Wall.ofDate ⟨2024, 4, 7⟩ 1 45 + 123} 1712416500123 ∧
      halfHour.toInstant (Wall.ofDate ⟨2024, 4, 7⟩ 1 45 + 123) = .ok 1712416500123 ∧
      halfHour.toWall 1712416500123 = .ok (Wall.ofDate ⟨2024, 4, 7⟩ 1 45 + 123) ∧
      halfHour.toInstant (halfHour.wallAt 1712416500123) = .ok 1712416500123 ∧
      halfHour.toInstant (halfHour.wallAt 1712414700123) = .ok 1712416500123 := by
  have hzone : halfHour ∈ Zone.all := by decide
  obtain ⟨hwalls, hinstants⟩ := toInstant_toWall_inverse halfHour hzone
  obtain ⟨t, hlatest, hread⟩ := hwalls (Wall.ofDate ⟨2024, 4, 7⟩ 1 45 + 123) fun d hgap => by
    obtain rfl := Option.some.inj hgap.daylight
    exact absurd hgap.start_le (by decide +kernel)
  -- On standard time clocks show it the second time, and no later.
  have hsecond : t = 1712416500123 := by
    have hge : 1712416500123 ≤ t := hlatest.2 (by decide +kernel)
    have hshown : t + halfHour.offsetAt t * 1000 = 1712454300123 := hlatest.1.trans (by decide)
    have hoffset : 37800 ≤ halfHour.offsetAt t := ((regular_of_mem_all hzone).offsetAt_mem t).1
    unfold Instant at *
    omega
  subst hsecond
  obtain ⟨htoInstant, htoWall⟩ := hread (by decide) (by decide)
  refine ⟨hlatest, htoInstant, htoWall, ?_, ?_⟩
  · refine (hinstants 1712416500123 (by decide) (by decide +kernel)).2.1 fun d year hpass => ?_
    obtain ⟨hshifted, -⟩ :=
      ((regular_of_mem_all hzone).exists_firstPassOf_iff hpass.daylight).mp ⟨year, hpass⟩
    obtain rfl := Option.some.inj hpass.daylight
    exact absurd hshifted (by decide +kernel)
  · exact (hinstants 1712414700123 (by decide) (by decide +kernel)).2.2 _ 2024
      ⟨rfl, by decide +kernel, by decide +kernel⟩

end Zone

end MetricSeries.Time
