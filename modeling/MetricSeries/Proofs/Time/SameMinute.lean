import MetricSeries.Proofs.Time.WallShifts

/-!
# Within a minute

In the known zones clocks are changed at whole minutes and by whole minutes. So the instants of a
minute are shown as the wall times of a minute, and shifted alike by every adjustment
(`Adjustment.apply_add`).

What could tear a minute apart is the first second of a gap, which is looked up on its own. It is
read as it is in those zones only where clocks are put forward by an hour or more: the rest of its
minute is then read to the same effect, or not at all (`Zone.toInstant_add_of_gapOf`).
-/

namespace MetricSeries.Time

variable {z : Zone} {d : Daylight} {t t' : Instant} {w w' : Wall} {year ms : Int}

/-- The range consists of whole minutes. -/
theorem inRange_add {n : Int} (hn : n % minuteMillis = 0) (hms : 0 ≤ ms ∧ ms < minuteMillis) :
    inRange (n + ms) = inRange n := by
  rw [Bool.eq_iff_iff, inRange_iff, inRange_iff]
  unfold earliest latest minuteMillis at *
  omega

/-- Within a minute daylight time goes on or stays away. -/
theorem Daylight.holdsIn_minute_iff {seconds seconds' : Int} (hshift : d.shift % 60 = 0)
    (hwhole : seconds % 60 = 0) (hsame : seconds ≤ seconds' ∧ seconds' < seconds + 60) :
    d.HoldsIn year seconds' ↔ d.HoldsIn year seconds := by
  -- Both changes are made at whole minutes, so neither of them within this one.
  refine holdsIn_congr ?_ ?_
  · rw [ClockChange.inYear_eq]
    omega
  · rw [ClockChange.inYear_eq]
    omega

namespace Zone

/-! ### From instants to wall times -/

/-- Where daylight time ends in the year in which it begins, the known zones put their clocks
forward by an hour or more. -/
theorem hour_le_shift (hzone : z ∈ Zone.all) (hdaylight : z.daylight = some d)
    (hmonths : d.begins.month < d.ends.month) : 3600 ≤ d.shift := by
  have hall : ∀ z ∈ Zone.all, ∀ d ∈ z.daylight, d.begins.month < d.ends.month → 3600 ≤ d.shift := by
    decide
  exact hall z hzone d hdaylight hmonths

variable (hzone : z ∈ Zone.all) (hms : 0 ≤ ms ∧ ms < minuteMillis)

include hzone hms

/-- The offset is the same throughout a minute. -/
theorem offsetAt_add (ht : t % minuteMillis = 0) : z.offsetAt (t + ms) = z.offsetAt t := by
  have hz := regular_of_mem_all hzone
  cases hdaylight : z.daylight with
  | none => rw [offsetAt_of_none hdaylight, offsetAt_of_none hdaylight]
  | some d =>
    obtain ⟨hstandard, hwhole_shift⟩ := minutes_of_mem_all hzone
    unfold Instant minuteMillis at *
    have hwhole : (t / 1000 + z.standard) % 60 = 0 := by omega
    have hsame : t / 1000 + z.standard ≤ (t + ms) / 1000 + z.standard ∧
        (t + ms) / 1000 + z.standard < t / 1000 + z.standard + 60 := by omega
    -- Both instants are on the same day of standard time.
    rw [hz.offsetAt_around hdaylight ((t / 1000 + z.standard) / 86400) rfl (by omega) (by omega),
      hz.offsetAt_around hdaylight ((t / 1000 + z.standard) / 86400) rfl (by omega) (by omega)]
    simp only [Daylight.holdsIn_minute_iff (hwhole_shift d hdaylight) hwhole hsame]

/-- **A minute is shown as a minute.** -/
theorem toWall_add (ht : t % minuteMillis = 0) (hw : z.toWall t = .ok w) :
    z.toWall (t + ms) = .ok (w + ms) := by
  have hmod := mod_of_toWall hzone hw
  obtain ⟨hrange, hrange', hwall⟩ := toWall_eq_ok_iff.mp hw
  have heq : t + ms + z.offsetAt t * 1000 = w + ms := by
    unfold Instant Wall at *
    omega
  rw [← hwall] at hrange'
  -- The minute of the instant and that of the wall time are in range as wholes.
  refine toWall_eq_ok_iff.mpr ⟨?_, ?_, ?_⟩
  · rw [inRange_add ht hms]
    exact hrange
  · rw [offsetAt_add hzone hms ht, heq, inRange_add (hmod.trans ht) hms]
    exact hrange'
  · rw [offsetAt_add hzone hms ht, heq]

/-! ### From wall times to instants -/

/-- A gap consists of whole minutes. -/
theorem gapOf_add_iff (hw : w % minuteMillis = 0) : z.GapOf d year (w + ms) ↔ z.GapOf d year w := by
  -- Gaps begin and end on full minutes, and so they contain all of a minute or nothing of it.
  have hbounds : z.daylight = some d →
      ((d.begins.inYear year * 1000 ≤ w + ms ↔ d.begins.inYear year * 1000 ≤ w) ∧
        (w + ms < (d.begins.inYear year + d.shift) * 1000 ↔
          w < (d.begins.inYear year + d.shift) * 1000)) := by
    intro hdaylight
    have hshift := (minutes_of_mem_all hzone).2 d hdaylight
    rw [ClockChange.inYear_eq]
    unfold Wall minuteMillis at *
    omega
  refine ⟨fun hgap => ?_, fun hgap => ?_⟩
  · obtain ⟨hstart, hend⟩ := hbounds hgap.daylight
    exact ⟨hgap.daylight, hstart.mp hgap.start_le, hend.mp hgap.lt_end⟩
  · obtain ⟨hstart, hend⟩ := hbounds hgap.daylight
    exact ⟨hgap.daylight, hstart.mpr hgap.start_le, hend.mpr hgap.lt_end⟩

theorem inGap_add_iff (hw : w % minuteMillis = 0) : z.InGap (w + ms) ↔ z.InGap w :=
  exists_congr fun _ => exists_congr fun _ => gapOf_add_iff hzone hms hw

/-- Outside gaps a minute is looked up with one offset. -/
theorem offsetAtWall?_add (hw : w % minuteMillis = 0) (hgap : ¬ z.InGap w) :
    z.offsetAtWall? (w + ms) = z.offsetAtWall? w := by
  have hz := regular_of_mem_all hzone
  cases hdaylight : z.daylight with
  | none => rw [offsetAtWall?_of_none hdaylight, offsetAtWall?_of_none hdaylight]
  | some d =>
    have hregular := hz.daylight d hdaylight
    have hday : (w + ms) / 1000 / 86400 = w / 1000 / 86400 := by
      unfold Wall minuteMillis at *
      omega
    have hwhole : w / 1000 % 60 = 0 ∧ w / 1000 ≤ (w + ms) / 1000 ∧
        (w + ms) / 1000 < w / 1000 + 60 := by
      unfold Wall minuteMillis at *
      omega
    -- Neither wall time is in the gap of its year.
    have hout : ∀ w', ¬ z.InGap w' →
        w' / 1000 < d.begins.inYear (yearOfDay (w' / 1000 / 86400)) ∨
          d.begins.inYear (yearOfDay (w' / 1000 / 86400)) + d.shift ≤ w' / 1000 := by
      intro w' hgap'
      by_contra hnot
      rw [not_or, Int.not_lt, Int.not_le] at hnot
      exact hgap' (hz.inGap_iff.mpr ⟨d, hdaylight, hnot⟩)
    rw [offsetAtWall?_of_some hdaylight, offsetAtWall?_of_some hdaylight,
      hregular.shiftAtWall?_of_not_gap rfl (hout w hgap),
      hregular.shiftAtWall?_of_not_gap rfl (hout _ (mt (inGap_add_iff hzone hms hw).mp hgap)), hday]
    simp only [Daylight.holdsIn_minute_iff ((minutes_of_mem_all hzone).2 d hdaylight) hwhole.1
      hwhole.2]

/-- What is looked up in one minute is looked up with one offset, also in a gap. -/
theorem eq_of_offsetAtWall?_add {offset offset' : Int} (hw : w % minuteMillis = 0)
    (h : z.offsetAtWall? w = some offset) (h' : z.offsetAtWall? (w + ms) = some offset') :
    offset' = offset := by
  have hz := regular_of_mem_all hzone
  by_cases hgap : z.InGap w
  · -- In a gap only a first second is looked up, on standard time.
    obtain ⟨d, year, hgap⟩ := hgap
    have hstandard : ∀ {w' : Wall} {offset' : Int}, z.GapOf d year w' →
        z.offsetAtWall? w' = some offset' → offset' = z.standard := by
      intro w' offset' hgap' hfound
      by_cases hfirst : d.LooksUpFirst year (w' / 1000)
      · rw [offsetAtWall?_of_some hgap'.daylight, (hz.daylight d hgap'.daylight).shiftAtWall?_gap
          hgap'.seconds.1 hgap'.seconds.2, if_pos hfirst, Option.map_some, Int.add_zero] at hfound
        exact (Option.some.inj hfound).symm
      · rw [hz.offsetAtWall?_of_gapOf hgap' hfirst] at hfound
        cases hfound
    rw [hstandard hgap h, hstandard ((gapOf_add_iff hzone hms hw).mpr hgap) h']
  · rw [offsetAtWall?_add hzone hms hw hgap, h] at h'
    exact (Option.some.inj h').symm

theorem instantOf?_add (hw : w % minuteMillis = 0) (h : z.instantOf? w = some t)
    (h' : z.instantOf? (w + ms) = some t') : t' = t + ms := by
  obtain ⟨offset, hfound, -, rfl⟩ := instantOf?_eq_some_iff.mp h
  obtain ⟨offset', hfound', -, rfl⟩ := instantOf?_eq_some_iff.mp h'
  rw [eq_of_offsetAtWall?_add hzone hms hw hfound hfound']
  unfold Instant Wall
  omega

/-- Outside gaps a minute is looked up as a minute, or not at all. -/
theorem instantOf?_add_of_not_inGap (hw : w % minuteMillis = 0) (hgap : ¬ z.InGap w) :
    z.instantOf? (w + ms) = (z.instantOf? w).map (· + ms) := by
  unfold instantOf?
  rw [offsetAtWall?_add hzone hms hw hgap]
  cases hfound : z.offsetAtWall? w with
  | none => rfl
  | some offset =>
    have hoffset := ((regular_of_mem_all hzone).isOffset_of_offsetAtWall? hfound).minutes hzone
    have hwhole : (w - offset * 1000) % minuteMillis = 0 := by
      unfold Wall minuteMillis at *
      omega
    have heq : w + ms - offset * 1000 = w - offset * 1000 + ms := by
      unfold Wall
      omega
    -- The instants of the minute are in range together.
    simp only [Option.bind_some, heq, inRange_add hwhole hms]
    split
    · rfl
    · rfl

/-- **A minute in a gap** is resolved to a minute, as far as it is resolved. -/
theorem toInstant_add_of_gapOf (hw : w % minuteMillis = 0) (hgap : z.GapOf d year w)
    (hrange : inRange w = true) (ht : z.toInstant w = .ok t)
    (ht' : z.toInstant (w + ms) = .ok t') : t' = t + ms := by
  have hz := regular_of_mem_all hzone
  have hgap' : z.GapOf d year (w + ms) := (gapOf_add_iff hzone hms hw).mpr hgap
  have hrange' : inRange (w + ms) = true := (inRange_add hw hms).trans hrange
  have hstart := hgap.start_le
  by_cases hfirst : d.LooksUpFirst year (w / 1000)
  · rw [hz.toInstant_of_first hgap hrange hfirst] at ht
    obtain rfl := Except.ok.inj ht
    by_cases hfirst' : d.LooksUpFirst year ((w + ms) / 1000)
    · rw [hz.toInstant_of_first hgap' hrange' hfirst'] at ht'
      obtain rfl := Except.ok.inj ht'
      unfold Instant Wall
      omega
    · -- The rest of the minute is resolved only where clocks are put forward by an hour.
      obtain ⟨hle, rfl⟩ := hz.behind_of_toInstant hgap' hrange' hfirst' ht'
      have hmonths : d.begins.month < d.ends.month := by
        by_contra hnot
        have hends := (hz.daylight d hgap.daylight).ends_le_begins hnot year
        have hbegins := hfirst.1
        omega
      have hwhole := (minutes_of_mem_all hzone).2 d hgap.daylight
      have hhour := hour_le_shift hzone hgap.daylight hmonths
      have hseconds := hfirst.2
      unfold Instant Wall hourMillis minuteMillis at *
      omega
  · -- The first second of the gap is that of a whole minute, so it is not in the rest of one.
    have hfirst' : ¬ d.LooksUpFirst year ((w + ms) / 1000) := by
      rintro ⟨horder, hseconds⟩
      refine hfirst ⟨horder, ?_⟩
      unfold Wall minuteMillis at *
      omega
    obtain ⟨-, rfl⟩ := hz.behind_of_toInstant hgap hrange hfirst ht
    obtain ⟨-, rfl⟩ := hz.behind_of_toInstant hgap' hrange' hfirst' ht'
    unfold Instant Wall
    omega

/-- **A minute is resolved to a minute**, as far as it is resolved. -/
theorem toInstant_add (hw : w % minuteMillis = 0) (hrange : inRange w = true)
    (ht : z.toInstant w = .ok t) (ht' : z.toInstant (w + ms) = .ok t') : t' = t + ms := by
  by_cases hgap : z.InGap w
  · obtain ⟨d, year, hgap⟩ := hgap
    exact toInstant_add_of_gapOf hzone hms hw hgap hrange ht ht'
  · have hadd := instantOf?_add_of_not_inGap hzone hms hw hgap
    rcases toInstant_eq_ok_iff.mp ht with hfound | ⟨hnone, -, hlater⟩
    · rw [hfound, Option.map_some] at hadd
      exact Except.ok.inj (ht'.symm.trans (toInstant_eq_ok_iff.mpr (.inl hadd)))
    · -- The retry may be in a gap, but is looked up twice with one offset.
      rw [hnone, Option.map_none] at hadd
      rcases toInstant_eq_ok_iff.mp ht' with hfound' | ⟨-, -, hlater'⟩
      · rw [hadd] at hfound'
        cases hfound'
      · have hw' : (w + hourMillis) % minuteMillis = 0 := by
          unfold Wall hourMillis minuteMillis at *
          omega
        rw [Int.add_right_comm] at hlater'
        exact instantOf?_add hzone hms hw' hlater hlater'

end Zone

/-! ### Shifts -/

variable {period : Period} {n : Int}

/-- **Wall times of one date** are moved alike. -/
theorem Wall.move?_sub {w₁ w₂ w₁' w₂' : Wall} (hdate : date w₁ = date w₂)
    (h₁ : move? period n w₁ = some w₁') (h₂ : move? period n w₂ = some w₂') :
    w₂' - w₁' = w₂ - w₁ := by
  have hmoved := (shifted_of_move? h₁).1
  have hmoved' := (shifted_of_move? h₂).1
  unfold Shifted at hmoved hmoved'
  -- Days and weeks add the same to both. Months go by the date, which is the same for both.
  cases period with
  | hour => cases hmoved
  | day =>
    unfold Wall at *
    omega
  | week =>
    unfold Wall at *
    omega
  | month =>
    obtain ⟨-, -, rfl⟩ := addMonths?_eq_some_iff.mp h₁
    obtain ⟨-, -, rfl⟩ := addMonths?_eq_some_iff.mp h₂
    have hday : day w₁ = day w₂ := by
      rw [← Date.toDay_ofDay (day w₁), ← Date.toDay_ofDay (day w₂)]
      exact congrArg Date.toDay hdate
    rw [hdate]
    unfold day Wall dayMillis at *
    omega

/-- A wall time is moved by whole minutes. -/
theorem Wall.mod_of_move? (h : move? period n w = some w') :
    w' % minuteMillis = w % minuteMillis := by
  have hmoved := (shifted_of_move? h).1
  unfold Shifted at hmoved
  -- Whole days are added, and months keep the time of day.
  cases period with
  | hour => cases hmoved
  | day =>
    unfold Wall dayMillis minuteMillis at *
    omega
  | week =>
    unfold Wall dayMillis minuteMillis at *
    omega
  | month =>
    have htime := hmoved.1
    unfold Wall dayMillis minuteMillis at *
    omega

namespace Adjustment

/-- **An adjustment is a length of time or a shift of the wall clock**, whatever it is applied
to. -/
theorem elapses_or_moves (z : Zone) (a : Adjustment) :
    (∃ hours : Int, ∀ t t', a.apply z t = .ok t' → t' = t + hours * hourMillis) ∨
      ∃ period n, ∀ t t', a.apply z t = .ok t' → ∃ w w',
        z.toWall t = .ok w ∧ Wall.move? period n w = some w' ∧ z.toInstant w' = .ok t' := by
  cases a with
  | none =>
    refine .inl ⟨0, fun t t' h => ?_⟩
    rw [Int.zero_mul, Int.add_zero]
    exact (Except.ok.inj h).symm
  | offset period amount =>
    by_cases hperiod : period = .hour
    · subst hperiod
      exact .inl ⟨amount.toInt, fun t t' h => eq_of_apply_hour h⟩
    by_cases hzero : amount.toInt = 0
    · -- A shift by nothing leaves the instant as it is, also where clocks show it twice.
      refine .inl ⟨0, fun t t' h => ?_⟩
      obtain ⟨-, rfl⟩ := ((apply_eq_ok_iff hperiod).mp h).resolve_right fun hne => hne.1 hzero
      rw [Int.zero_mul, Int.add_zero]
    · refine .inr ⟨period, amount.toInt, fun t t' h => ?_⟩
      exact (((apply_eq_ok_iff hperiod).mp h).resolve_left fun heq => hzero heq.1).2

variable {a : Adjustment} (hzone : z ∈ Zone.all)

include hzone

/-- **Every adjustment is by whole minutes.** -/
theorem mod_of_apply (h : a.apply z t = .ok t') : t' % minuteMillis = t % minuteMillis := by
  rcases elapses_or_moves z a with ⟨hours, elapses⟩ | ⟨period, n, moves⟩
  · rw [elapses t t' h]
    unfold Instant hourMillis minuteMillis
    omega
  · obtain ⟨w, w', hw, hmove, ht'⟩ := moves t t' h
    -- Seconds survive the clocks, the shift, and the way back.
    calc t' % minuteMillis
        = w' % minuteMillis := Zone.mod_of_toInstant hzone ht'
      _ = w % minuteMillis := Wall.mod_of_move? hmove
      _ = t % minuteMillis := Zone.mod_of_toWall hzone hw

/-- **A minute is shifted to a minute**, as far as it is shifted. -/
theorem apply_add (hms : 0 ≤ ms ∧ ms < minuteMillis) (ht : t % minuteMillis = 0)
    {t'' : Instant} (h : a.apply z t = .ok t') (h' : a.apply z (t + ms) = .ok t'') :
    t'' = t' + ms := by
  rcases elapses_or_moves z a with ⟨hours, elapses⟩ | ⟨period, n, moves⟩
  · rw [elapses _ _ h, elapses _ _ h']
    exact Int.add_right_comm t ms _
  · obtain ⟨w, w', hw, hmove, hfirst⟩ := moves _ _ h
    obtain ⟨w₂, w₂', hw₂, hmove', hlast⟩ := moves _ _ h'
    -- Clocks show the whole minute on one date, and so it is moved as one.
    obtain rfl := Except.ok.inj (hw₂.symm.trans (Zone.toWall_add hzone hms ht hw))
    have hminutes : w % minuteMillis = 0 := (Zone.mod_of_toWall hzone hw).trans ht
    have hdate : Wall.date w = Wall.date (w + ms) := by
      unfold Wall.date Wall.day Wall minuteMillis dayMillis at *
      congr 1
      omega
    obtain rfl : w₂' = w' + ms := by
      have hsub := Wall.move?_sub hdate hmove hmove'
      unfold Wall at *
      omega
    exact Zone.toInstant_add hzone hms ((Wall.mod_of_move? hmove).trans hminutes)
      (Wall.shifted_of_move? hmove).2 hfirst hlast

end Adjustment

end MetricSeries.Time
