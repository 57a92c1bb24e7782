import MetricSeries.Proofs.Time.DayEnds
import MetricSeries.Proofs.Time.MarkedTexts

/-!
# Shifting a date

A date with a marker behind it, and the date that the marker leads to: both are resolved to spans,
the first by shifting the two ends of a day on the clocks of the zone, the second directly. The
calendar is shifted in `Date.shift?`, which is what the shifts of wall times come to
(`Adjustment.apply_of_toWall`).

The two spans are the same but for one case (`Span.parseAdjusted_date_spec`). The last millisecond
of a day is never skipped, so it is carried to the last millisecond of the other day. The midnight
of a day may be skipped, and then clocks show one o'clock at its first instant. This hour is carried
to the other day, where nothing takes it back, unless the midnight of that day is skipped as well:
the shifted span starts an hour after its day (`Span.not_parseAdjusted_eq_parse`).
-/

namespace MetricSeries.Time

open Fallible

variable {z : Zone} {d d' : Date} {period : Period} {amount : Int64}

/-! ### Shifting the calendar -/

/-- **The date that a shift leads to**: so many days or weeks later, or so many months with the day
of the month kept where the month is long enough. Hours do not lead from date to date. -/
def Date.shift? (d : Date) (period : Period) (amount : Int) : Option Date :=
  match period with
  | .hour => none
  | .day => some (ofDay (d.toDay + amount))
  | .week => some (ofDay (d.toDay + amount * 7))
  | .month => some (d.addMonths amount)

theorem Date.valid_addMonths (hvalid : d.Valid) (months : Int) : (d.addMonths months).Valid := by
  obtain ⟨-, -, hday, -⟩ := hvalid
  unfold addMonths
  dsimp only
  generalize d.year * 12 + (d.month - 1) + months = total
  have hlength := (monthLength_mem (isLeap (total / 12)) ((total % 12).toNat + 1)).1
  -- The day is capped at the length of the month it lands in, which has at least 28 days.
  refine ⟨?_, ?_, ?_, ?_⟩
  · exact Nat.le_add_left 1 _
  · dsimp only
    omega
  · exact Nat.le_min.mpr ⟨hday, by omega⟩
  · exact Nat.min_le_right _ _

theorem Date.addMonths_zero (hvalid : d.Valid) : d.addMonths 0 = d := by
  obtain ⟨hmonth, hmonth', -, hday⟩ := hvalid
  have hyear : (d.year * 12 + (d.month - 1) + 0) / 12 = d.year := by omega
  have hrest : ((d.year * 12 + (d.month - 1) + 0) % 12).toNat + 1 = d.month := by omega
  unfold addMonths
  dsimp only
  rw [hyear, hrest, Nat.min_eq_left hday]

theorem Date.valid_of_shift? {n : Int} (hvalid : d.Valid) (h : d.shift? period n = some d') :
    d'.Valid := by
  -- A day number always has a valid date, and months are cut off at the last day of theirs.
  cases period with
  | hour => cases h
  | day =>
    obtain rfl := Option.some.inj h
    exact (valid_and_toDay_ofDay _).1
  | week =>
    obtain rfl := Option.some.inj h
    exact (valid_and_toDay_ofDay _).1
  | month =>
    obtain rfl := Option.some.inj h
    exact valid_addMonths hvalid n

theorem Date.shift?_zero (hvalid : d.Valid) (h : d.shift? period 0 = some d') : d' = d := by
  cases period with
  | hour => cases h
  | day =>
    obtain rfl := Option.some.inj h
    rw [Int.add_zero, ofDay_toDay hvalid]
  | week =>
    obtain rfl := Option.some.inj h
    rw [Int.zero_mul, Int.add_zero, ofDay_toDay hvalid]
  | month =>
    obtain rfl := Option.some.inj h
    exact addMonths_zero hvalid

/-! ### Shifting wall times -/

/-- A time of day on a date between the years 0 and 9999 is in range. -/
theorem inRange_toDay (hvalid : d.Valid) (hyear : 0 ≤ d.year ∧ d.year ≤ 9999) {time : Int}
    (htime : 0 ≤ time ∧ time < dayMillis) : inRange (d.toDay * dayMillis + time) = true := by
  obtain ⟨hlow, hhigh⟩ := toDay_bounds hvalid hyear
  rw [inRange_iff]
  unfold earliest latest dayMillis at *
  omega

theorem Wall.addDays?_toDay {n : Int} {time : Int}
    (hrange : inRange ((d.toDay + n) * dayMillis + time) = true) :
    Wall.addDays? (d.toDay * dayMillis + time) n = some ((d.toDay + n) * dayMillis + time) := by
  have heq : d.toDay * dayMillis + time + n * dayMillis = (d.toDay + n) * dayMillis + time := by
    unfold dayMillis
    omega
  unfold Wall.addDays?
  dsimp only
  rw [heq, if_pos hrange]

theorem Wall.addMonths?_toDay (hvalid : d.Valid) {n : Int} {time : Int}
    (htime : 0 ≤ time ∧ time < dayMillis) (hn : n.natAbs ≤ 2147483647)
    (hrange : inRange ((d.addMonths n).toDay * dayMillis + time) = true) :
    Wall.addMonths? (d.toDay * dayMillis + time) n =
      some ((d.addMonths n).toDay * dayMillis + time) := by
  -- The wall time is taken apart into the date and the time of day that it was given by.
  have hdate : Wall.date (d.toDay * dayMillis + time) = d := by
    rw [Wall.date_eq_iff hvalid]
    unfold Wall dayMillis at *
    omega
  have hmod : (d.toDay * dayMillis + time) % dayMillis = time := by
    unfold dayMillis at *
    omega
  have hmillis : (Wall.millisOfDay (d.toDay * dayMillis + time) : Int) = time := by
    unfold Wall.millisOfDay
    rw [hmod]
    exact Int.toNat_of_nonneg htime.1
  unfold Wall.addMonths?
  dsimp only
  rw [if_pos hn, hdate, hmillis, if_pos hrange]

theorem Adjustment.moveWall_eq {move : Wall → Option Wall} {t : Instant} {w w' : Wall}
    {outOfRange : Error} (hwall : z.toWall t = .ok w) (hmove : move w = some w') :
    moveWall z outOfRange move t = z.toInstant w' := by
  unfold moveWall
  rw [hwall, ok_bind, hmove]

/-- **Shifting an instant** shifts the date that clocks show and keeps the time of day. -/
theorem Adjustment.apply_of_toWall {t : Instant} {time : Int} (hvalid : d.Valid)
    (hyear : 0 ≤ d.year ∧ d.year ≤ 9999) (hyear' : 0 ≤ d'.year ∧ d'.year ≤ 9999)
    (hshift : d.shift? period amount.toInt = some d') (hne : amount.toInt ≠ 0)
    (htime : 0 ≤ time ∧ time < dayMillis) (hwall : z.toWall t = .ok (d.toDay * dayMillis + time)) :
    Adjustment.apply z (.offset period amount) t = z.toInstant (d'.toDay * dayMillis + time) := by
  have hvalid' := Date.valid_of_shift? hvalid hshift
  have hrange := inRange_toDay hvalid' hyear' htime
  unfold Adjustment.apply
  dsimp only
  rw [if_neg hne]
  cases period with
  | hour => cases hshift
  | day =>
    obtain rfl := Option.some.inj hshift
    rw [Date.toDay_ofDay] at hrange ⊢
    exact moveWall_eq hwall (Wall.addDays?_toDay hrange)
  | week =>
    obtain rfl := Option.some.inj hshift
    obtain ⟨hlow, hhigh⟩ := toDay_bounds hvalid hyear
    obtain ⟨hlow', hhigh'⟩ := toDay_bounds hvalid' hyear'
    rw [Date.toDay_ofDay] at hrange hlow' hhigh' ⊢
    -- Both dates are within ten thousand years, and so are the weeks between them.
    have hfits : (Text.fitInt64? (amount.toInt * 7)).isSome = true := by
      unfold Text.fitInt64? Text.int64Bound
      rw [if_pos (by omega)]
      rfl
    refine moveWall_eq hwall ?_
    unfold addWeeks?
    rw [if_pos hfits, Wall.addDays?_toDay hrange]
  | month =>
    obtain rfl := Option.some.inj hshift
    -- So are the months between them.
    have hn : amount.toInt.natAbs ≤ 2147483647 := by
      unfold Date.addMonths at hyear'
      dsimp only at hyear'
      obtain ⟨hmonth, hmonth', -⟩ := hvalid
      omega
    exact moveWall_eq hwall (Wall.addMonths?_toDay hvalid htime hn hrange)

/-! ### Shifting a day -/

section Day

variable (hz : z.Regular) (hvalid : d.Valid) (hyear : 0 ≤ d.year ∧ d.year ≤ 9999)
  (hyear' : 0 ≤ d'.year ∧ d'.year ≤ 9999)
  (hshift : d.shift? period amount.toInt = some d')

include hz hvalid hyear hyear' hshift

/-- The last instant of a day is shifted to the last instant of the other day. -/
theorem Adjustment.apply_last :
    Adjustment.apply z (.offset period amount) (z.midnight (d.toDay + 1) - 1) =
      .ok (z.midnight (d'.toDay + 1) - 1) := by
  by_cases hne : amount.toInt = 0
  · rw [hne] at hshift
    rw [Date.shift?_zero hvalid hshift]
    unfold Adjustment.apply
    dsimp only
    rw [if_pos hne]
  · -- The last millisecond of a day is a time of day on its date.
    have hlast : ∀ day : Int, (day + 1) * dayMillis - 1 = day * dayMillis + (dayMillis - 1) := by
      intro day
      rw [Int.add_mul, Int.one_mul, Int.add_sub_assoc]
    have hwall := hz.toWall_midnight_sub_one (dayInRange hvalid hyear).2
    rw [hlast] at hwall
    rw [Adjustment.apply_of_toWall hvalid hyear hyear' hshift hne (by decide) hwall, ← hlast]
    exact hz.toInstant_midnight_sub_one
      (dayInRange (Date.valid_of_shift? hvalid hshift) hyear').2

/-- **The first instant of a day** is shifted to the first instant of the other day, or to an hour
after it where the midnight of the day is skipped and that of the other day is not. -/
theorem Adjustment.apply_first :
    (amount.toInt = 0 ∨ ¬ z.Skips (d.toDay * dayMillis) ∨ z.Skips (d'.toDay * dayMillis) →
      Adjustment.apply z (.offset period amount) (z.midnight d.toDay) =
        .ok (z.midnight d'.toDay)) ∧
    (amount.toInt ≠ 0 → z.Skips (d.toDay * dayMillis) → ¬ z.Skips (d'.toDay * dayMillis) →
      Adjustment.apply z (.offset period amount) (z.midnight d.toDay) =
        .ok (z.midnight d'.toDay + hourMillis)) := by
  obtain ⟨hday, -⟩ := dayInRange hvalid hyear
  obtain ⟨hday', -⟩ := dayInRange (Date.valid_of_shift? hvalid hshift) hyear'
  by_cases hzero : amount.toInt = 0
  · refine ⟨fun _ => ?_, fun hne => absurd hzero hne⟩
    rw [hzero] at hshift
    rw [Date.shift?_zero hvalid hshift]
    unfold Adjustment.apply
    dsimp only
    rw [if_pos hzero]
  by_cases hskips : z.Skips (d.toDay * dayMillis)
  · -- One o'clock is carried to the other day.
    have happly := Adjustment.apply_of_toWall hvalid hyear hyear' hshift hzero (by decide)
      (hz.toWall_midnight_of_skips hday hskips)
    obtain ⟨hboth, hone⟩ := hz.toInstant_one_o_clock hday hskips hday'
    refine ⟨fun hcases => ?_, fun _ _ hshown => ?_⟩
    · rw [happly]
      exact hboth ((hcases.resolve_left hzero).resolve_left (not_not_intro hskips))
    · rw [happly]
      exact hone hshown
  · refine ⟨fun _ => ?_, fun _ h => absurd h hskips⟩
    have hwall := hz.toWall_midnight_of_not_skips hday hskips
    rw [← Int.add_zero (d.toDay * dayMillis)] at hwall
    rw [Adjustment.apply_of_toWall hvalid hyear hyear' hshift hzero (by decide) hwall, Int.add_zero]
    exact hz.toInstant_midnight hday'

end Day

/-! ### Texts -/

/-- The text of a date is resolved to the span between two midnights. -/
theorem Span.parse_chars {clock : Clock} (hz : clock.zone.Regular) (hvalid : d.Valid)
    (hyear : 0 ≤ d.year ∧ d.year ≤ 9999) :
    Span.parse clock (String.ofList d.chars) = .ok ⟨none, String.ofList d.chars,
      clock.zone.midnight d.toDay, clock.zone.midnight (d.toDay + 1) - 1, .day⟩ := by
  rw [Span.parse_of_date, Span.ofDay_eq hz hvalid hyear]
  rw [String.toList_ofList, (Date.trimmed_chars hyear).trim_eq]
  exact Date.ofChars?_chars hvalid hyear

/-- A date with a marker is resolved to the shifted ends of its day, which are those of the other
day where the first one is within it. -/
theorem Span.parseAdjusted_chars {clock : Clock} {marker : List Char} {first : Instant}
    (hz : clock.zone.Regular) (hvalid : d.Valid) (hyear : 0 ≤ d.year ∧ d.year ≤ 9999)
    (hyear' : 0 ≤ d'.year ∧ d'.year ≤ 9999)
    (hmarker : Adjustment.ofMarker? marker = some (.offset period amount))
    (hshift : d.shift? period amount.toInt = some d')
    (hfirst : Adjustment.apply clock.zone (.offset period amount)
      (clock.zone.midnight d.toDay) = .ok first)
    (hwithin : clock.zone.midnight d'.toDay ≤ first ∧
      first ≤ clock.zone.midnight (d'.toDay + 1) - 1) :
    Span.parseAdjusted clock (String.ofList (d.chars ++ marker)) =
      .ok ⟨none, String.ofList d'.chars, first, clock.zone.midnight (d'.toDay + 1) - 1, .day⟩ := by
  have hvalid' := Date.valid_of_shift? hvalid hshift
  -- The text of the shifted date is read off the clocks at the shifted first instant.
  obtain ⟨w, hw, hdate⟩ := (hz.mem_day_iff hvalid' hyear' first).mp hwithin
  have htext : Granularity.day.fixedText w = String.ofList d'.chars := by
    rw [← hdate]
    rfl
  unfold Span.parseAdjusted
  rw [Adjustment.strip_append hmarker (Date.trimmed_chars hyear), Span.parse_chars hz hvalid hyear,
    ok_bind, Adjustment.parse_append hmarker]
  dsimp only
  unfold Span.adjusted
  dsimp only
  rw [hfirst, ok_bind, Adjustment.apply_last hz hvalid hyear hyear' hshift, ok_bind, hw, ok_bind,
    htext]
  rfl

/-- **Shifting a date by days, weeks or months** yields the span of the date that the shift leads
to, whatever the clocks do on either day, except that it starts an hour late where the shift is not
by nothing, the midnight of the date is skipped and the midnight of the other date is not. -/
theorem Span.parseAdjusted_date_spec (clock : Clock) (d d' : Date) (marker : List Char)
    (period : Period) (amount : Int64) (hzone : clock.zone ∈ Zone.all) (hvalid : d.Valid)
    (hyear : 0 ≤ d.year ∧ d.year ≤ 9999)
    (hmarker : Adjustment.ofMarker? marker = some (.offset period amount))
    (hshift : d.shift? period amount.toInt = some d') (hyear' : 0 ≤ d'.year ∧ d'.year ≤ 9999) :
    ∃ s s', Span.parseAdjusted clock (String.ofList (d.chars ++ marker)) = .ok s ∧
      Span.parse clock (String.ofList d'.chars) = .ok s' ∧
      s = { s' with first := s.first } ∧
      (amount.toInt = 0 ∨ ¬ clock.zone.Skips (Wall.ofDate d 0 0) ∨
        clock.zone.Skips (Wall.ofDate d' 0 0) → s.first = s'.first) ∧
      (amount.toInt ≠ 0 → clock.zone.Skips (Wall.ofDate d 0 0) →
        ¬ clock.zone.Skips (Wall.ofDate d' 0 0) → s.first = s'.first + hourMillis) := by
  have hz := Zone.regular_of_mem_all hzone
  have hvalid' := Date.valid_of_shift? hvalid hshift
  have hlong := hz.midnight_succ d'.toDay
  obtain ⟨hsame, hlate⟩ := Adjustment.apply_first hz hvalid hyear hyear' hshift
  have hparse' := Span.parse_chars hz hvalid' hyear'
  rw [Wall.ofDate_midnight, Wall.ofDate_midnight]
  by_cases hcase : amount.toInt = 0 ∨ ¬ clock.zone.Skips (d.toDay * dayMillis) ∨
      clock.zone.Skips (d'.toDay * dayMillis)
  · have hparse := Span.parseAdjusted_chars hz hvalid hyear hyear' hmarker hshift (hsame hcase) (by
      unfold Instant hourMillis at *
      omega)
    refine ⟨_, _, hparse, hparse', rfl, fun _ => rfl, fun hne hskips hshown => ?_⟩
    exact absurd hcase (by simp [hne, hskips, hshown])
  · -- An hour after its midnight the other day is still the same.
    have hcase' : amount.toInt ≠ 0 ∧ clock.zone.Skips (d.toDay * dayMillis) ∧
        ¬ clock.zone.Skips (d'.toDay * dayMillis) := by
      rw [not_or, not_or, not_not] at hcase
      exact hcase
    have hparse := Span.parseAdjusted_chars hz hvalid hyear hyear' hmarker hshift
      (hlate hcase'.1 hcase'.2.1 hcase'.2.2) (by
        unfold Instant hourMillis at *
        omega)
    exact ⟨_, _, hparse, hparse', rfl, fun h => absurd h hcase, fun _ _ _ => rfl⟩

/-- From the day whose midnight is skipped, the next day is reached an hour late. -/
theorem Span.parseAdjusted_date_spec_midnight :
    ∃ s s', Span.parseAdjusted midnightClock "2024-10-20\x7b+1D\x7d" = .ok s ∧
      Span.parse midnightClock "2024-10-21" = .ok s' ∧ s = { s' with first := s.first } ∧
      s.first = s'.first + hourMillis := by
  have hzone : midnightClock.zone ∈ Zone.all := by decide +kernel
  have hz := Zone.regular_of_mem_all hzone
  have hvalid : Date.Valid ⟨2024, 10, 20⟩ := by decide
  have hvalid' : Date.Valid ⟨2024, 10, 21⟩ := by decide
  -- The first date has no midnight of its own, and the second one has.
  have hskips : midnightClock.zone.Skips (Wall.ofDate ⟨2024, 10, 20⟩ 0 0) := by
    rw [Wall.ofDate_midnight, hz.skips_midnight_iff (dayInRange hvalid (by decide)).1]
    exact ⟨_, rfl, by decide +kernel⟩
  have hshown : ¬ midnightClock.zone.Skips (Wall.ofDate ⟨2024, 10, 21⟩ 0 0) := by
    rw [Wall.ofDate_midnight, hz.skips_midnight_iff (dayInRange hvalid' (by decide)).1]
    rintro ⟨d, hd, hbegins⟩
    obtain rfl := Option.some.inj hd
    exact absurd hbegins (by decide +kernel)
  obtain ⟨s, s', hs, hs', heq, -, hlate⟩ := Span.parseAdjusted_date_spec midnightClock
    ⟨2024, 10, 20⟩ ⟨2024, 10, 21⟩ "\x7b+1D\x7d".toList .day 1 hzone hvalid (by decide)
    (by decide +kernel) (by decide +kernel) (by decide)
  have htext : String.ofList (Date.chars ⟨2024, 10, 20⟩ ++ "\x7b+1D\x7d".toList) =
      "2024-10-20\x7b+1D\x7d" := by decide +kernel
  have htext' : String.ofList (Date.chars ⟨2024, 10, 21⟩) = "2024-10-21" := by decide +kernel
  rw [htext] at hs
  rw [htext'] at hs'
  exact ⟨s, s', hs, hs', heq, hlate (by decide) hskips hshown⟩

/-- **Shifting a date does not always yield the span of the date that the shift leads to.** -/
theorem Span.not_parseAdjusted_eq_parse :
    ¬ ∀ (clock : Clock) (d d' : Date) (marker : List Char) (period : Period) (amount : Int64),
      clock.zone ∈ Zone.all → d.Valid → 0 ≤ d.year ∧ d.year ≤ 9999 →
      Adjustment.ofMarker? marker = some (.offset period amount) →
      d.shift? period amount.toInt = some d' → 0 ≤ d'.year ∧ d'.year ≤ 9999 →
      ∃ s s', Span.parseAdjusted clock (String.ofList (d.chars ++ marker)) = .ok s ∧
        Span.parse clock (String.ofList d'.chars) = .ok s' ∧ s.first = s'.first ∧
        s.last = s'.last ∧ s.fixed = s'.fixed ∧ s.granularity = s'.granularity := by
  intro h
  obtain ⟨s, s', hs, hs', hfirst, -⟩ := h midnightClock ⟨2024, 10, 20⟩ ⟨2024, 10, 21⟩
    "\x7b+1D\x7d".toList .day 1 (by decide +kernel) (by decide) (by decide) (by decide +kernel)
    (by decide +kernel) (by decide)
  -- The first date starts at one, and so does the span after the shift; the second date starts at
  -- midnight.
  have hshifted : Span.parseAdjusted midnightClock
      (String.ofList (Date.chars ⟨2024, 10, 20⟩ ++ "\x7b+1D\x7d".toList)) =
        .ok ⟨none, "2024-10-21", 1729479600000, 1729562399999, .day⟩ := by decide +kernel
  have hnext : Span.parse midnightClock (String.ofList (Date.chars ⟨2024, 10, 21⟩)) =
      .ok ⟨none, "2024-10-21", 1729476000000, 1729562399999, .day⟩ := by decide +kernel
  obtain rfl := Except.ok.inj (hshifted.symm.trans hs)
  obtain rfl := Except.ok.inj (hnext.symm.trans hs')
  exact absurd hfirst (by decide)

end MetricSeries.Time
