import MetricSeries.Proofs.Time.DayEnds
import MetricSeries.Proofs.Time.PutForward

/-!
# Wall times and the instants that show them

Clocks show one wall time at each instant, `Zone.wallAt`. The other way round, a wall time is shown
by no instant, by one, or by two, of which the earlier one is on daylight time and the later one on
standard time. Looking it up decides between them by the rules of a year; here the outcome is said
without these, by the offset at the two instants:

* `offsetAtWall?_of_standard` — a wall time that is shown on standard time is looked up so;
* `offsetAtWall?_of_daylight` — one that is shown on daylight time only is looked up so;
* `offsetAtWall?_of_gap` — one that is not shown is not found, but for the first second that clocks
  are put forward over, which is found like the second that they are put to.

So **what clocks show at the instant of a wall time stands for this instant again**
(`Zone.Regular.toInstant_wallAt_of_toInstant`). What they show at any instant stands for it if they
do not show the same at a later one (`Zone.Regular.toInstant_of_not_shownAgain`), and for the later
one if they do (`Zone.Regular.toInstant_of_shownAgain`). A wall time is what clocks show at its
instant unless it is skipped (`Zone.Regular.eq_of_not_skips`), that is, unless clocks are put
forward over it (`Zone.Regular.skips_iff`).
-/

namespace MetricSeries.Time

theorem Wall.valid_date (w : Wall) : (date w).Valid := (Date.valid_and_toDay_ofDay _).1

namespace Zone

variable {z : Zone} {w : Wall} {t : Instant} {offset : Int}

/-- What clocks show at an instant, also where that is out of range. -/
def wallAt (z : Zone) (t : Instant) : Wall := t + z.offsetAt t * 1000

theorem wallAt_sub_offsetAt (z : Zone) (t : Instant) : z.wallAt t - z.offsetAt t * 1000 = t :=
  Int.add_sub_cancel t _

theorem wallAt_sub (hoffset : z.offsetAt (w - offset * 1000) = offset) :
    z.wallAt (w - offset * 1000) = w := by
  unfold wallAt
  rw [hoffset]
  exact Int.sub_add_cancel w _

/-- **What clocks show at an instant** is told if it is in range. An instant out of range is
refused, and one in range with a wall time out of range stops the program. -/
theorem toWall_cases (z : Zone) (t : Instant) :
    z.toWall t = .ok (z.wallAt t) ∨
      (z.toWall t = .error (.invalidDateTime (String.ofList (Text.decimalInt t))) ∧
        ¬ inRange t = true) ∨
      (z.toWall t = .error .aborted ∧ inRange t = true ∧ ¬ inRange (z.wallAt t) = true) := by
  unfold toWall
  dsimp only
  -- The instant is checked first, and only one in range can stop the program.
  by_cases hrange : inRange t = true
  · rw [if_pos hrange]
    by_cases hwall : inRange (z.wallAt t) = true
    · exact .inl (if_pos hwall)
    · exact .inr (.inr ⟨if_neg hwall, hrange, hwall⟩)
  · rw [if_neg hrange]
    exact .inr (.inl ⟨rfl, hrange⟩)

/-- **Clocks show something at an instant** when it is in range and so is what they show. -/
def ShowsAt (z : Zone) (t : Instant) : Prop := inRange t = true ∧ inRange (z.wallAt t) = true

theorem exists_toWall_iff : (∃ w, z.toWall t = .ok w) ↔ z.ShowsAt t := by
  simp only [Zone.toWall_eq_ok_iff]
  exact ⟨fun ⟨_, hrange, hwall, _⟩ => ⟨hrange, hwall⟩,
    fun ⟨hrange, hwall⟩ => ⟨_, hrange, hwall, rfl⟩⟩

/-- An instant shows a wall time if its offset leads there and both are in range. -/
theorem toWall_sub (hoffset : z.offsetAt (w - offset * 1000) = offset) (hrange : inRange w = true)
    (hinstant : inRange (w - offset * 1000) = true) : z.toWall (w - offset * 1000) = .ok w := by
  refine Zone.toWall_eq_ok_iff.mpr ⟨hinstant, ?_, (wallAt_sub hoffset).symm⟩
  rw [hoffset, Int.sub_add_cancel]
  exact hrange

/-- **An offset of a zone** is that of standard time or that of daylight time. -/
def IsOffset (z : Zone) (offset : Int) : Prop :=
  offset = z.standard ∨ ∃ d, z.daylight = some d ∧ offset = z.standard + d.shift

theorem isOffset_offsetAt (z : Zone) (t : Instant) : z.IsOffset (z.offsetAt t) := by
  cases hdaylight : z.daylight with
  | none => exact .inl (offsetAt_of_none hdaylight t)
  | some d =>
    rw [offsetAt_of_some hdaylight]
    split
    · exact .inr ⟨d, hdaylight, rfl⟩
    · exact .inl rfl

/-- The known zones are ahead of universal time, and put their clocks forward, by whole minutes. -/
theorem minutes_of_mem_all (hzone : z ∈ Zone.all) :
    z.standard % 60 = 0 ∧ ∀ d ∈ z.daylight, d.shift % 60 = 0 := by
  have hall : ∀ z ∈ Zone.all, z.standard % 60 = 0 ∧ ∀ d ∈ z.daylight, d.shift % 60 = 0 := by
    decide
  exact hall z hzone

/-- Their offsets are whole minutes. -/
theorem IsOffset.minutes (hzone : z ∈ Zone.all) (hoffset : z.IsOffset offset) :
    offset % 60 = 0 := by
  obtain ⟨hstandard, hshift⟩ := minutes_of_mem_all hzone
  rcases hoffset with rfl | ⟨d, hdaylight, rfl⟩
  · exact hstandard
  · have hwhole := hshift d hdaylight
    omega

namespace Regular

variable (h : z.Regular)

include h

/-- Between its offsets a zone changes by two hours at most. -/
theorem mem_of_isOffset (hoffset : z.IsOffset offset) :
    z.standard ≤ offset ∧ offset ≤ z.standard + 7200 := by
  rcases hoffset with rfl | ⟨d, hdaylight, rfl⟩
  · omega
  · have hshift := (h.daylight d hdaylight).shift
    omega

/-! ### Looking up -/

/-- A wall time is shown on standard time where daylight time does not hold then. -/
theorem offsetAt_standard_iff {d : Daylight} (hdaylight : z.daylight = some d) (w : Wall) :
    z.offsetAt (w - z.standard * 1000) = z.standard ↔
      ¬ d.HoldsIn (yearOfDay (w / 1000 / 86400)) (w / 1000) := by
  have hshift := (h.daylight d hdaylight).shift
  have hseconds : (w - z.standard * 1000) / 1000 + z.standard = w / 1000 := by
    unfold Wall at *
    omega
  rw [h.offsetAt_around hdaylight (w / 1000 / 86400) hseconds (by omega) (by omega)]
  -- The shift is positive, so the offset is the standard one exactly where daylight time does not
  -- hold.
  split
  next hholds => exact iff_of_false (by omega) (not_not_intro hholds)
  next hnot => exact iff_of_true (Int.add_zero _) hnot

/-- A wall time is shown on daylight time where this holds then. -/
theorem offsetAt_daylight_iff {d : Daylight} (hdaylight : z.daylight = some d) (w : Wall) :
    z.offsetAt (w - (z.standard + d.shift) * 1000) = z.standard + d.shift ↔
      d.HoldsIn (yearOfDay (w / 1000 / 86400)) (w / 1000 - d.shift) := by
  have hshift := (h.daylight d hdaylight).shift
  have hseconds : (w - (z.standard + d.shift) * 1000) / 1000 + z.standard =
      w / 1000 - d.shift := by
    unfold Wall at *
    omega
  rw [h.offsetAt_around hdaylight (w / 1000 / 86400) hseconds (by omega) (by omega)]
  split
  next hholds => exact iff_of_true rfl hholds
  next hnot => exact iff_of_false (by omega) hnot

/-- **A wall time that is shown on standard time** is looked up so, and when it is shown on daylight
time as well, that was earlier. -/
theorem offsetAtWall?_of_standard (hstandard : z.offsetAt (w - z.standard * 1000) = z.standard) :
    z.offsetAtWall? w = some z.standard := by
  cases hdaylight : z.daylight with
  | none => exact offsetAtWall?_of_none hdaylight w
  | some d =>
    have hregular := h.daylight d hdaylight
    have hnot := (h.offsetAt_standard_iff hdaylight w).mp hstandard
    -- A gap needs daylight time to hold at the wall time, and it does not.
    have hgap := mt (hregular.mem_gap_iff _ _).mp fun hboth => hnot hboth.1
    rw [offsetAtWall?_of_some hdaylight, hregular.shiftAtWall?_of_not_gap rfl (by omega),
      if_neg hnot, Option.map_some, Int.add_zero]

/-- **A wall time that is shown on daylight time only** is looked up so. -/
theorem offsetAtWall?_of_daylight {d : Daylight} (hdaylight : z.daylight = some d)
    (hstandard : z.offsetAt (w - z.standard * 1000) ≠ z.standard)
    (hshifted : z.offsetAt (w - (z.standard + d.shift) * 1000) = z.standard + d.shift) :
    z.offsetAtWall? w = some (z.standard + d.shift) := by
  have hregular := h.daylight d hdaylight
  have hholds := not_not.mp (mt (h.offsetAt_standard_iff hdaylight w).mpr hstandard)
  have hholds' := (h.offsetAt_daylight_iff hdaylight w).mp hshifted
  have hgap := mt (hregular.mem_gap_iff _ _).mp fun hboth => hboth.2 hholds'
  rw [offsetAtWall?_of_some hdaylight, hregular.shiftAtWall?_of_not_gap rfl (by omega),
    if_pos hholds, Option.map_some]

/-- **A wall time that is not shown** is looked up, if at all, like the one that clocks are put to
then. -/
theorem offsetAtWall?_of_gap {d : Daylight} (hdaylight : z.daylight = some d)
    (hstandard : z.offsetAt (w - z.standard * 1000) ≠ z.standard)
    (hshifted : z.offsetAt (w - (z.standard + d.shift) * 1000) ≠ z.standard + d.shift)
    (hfound : z.offsetAtWall? w = some offset) :
    offset = z.standard ∧ z.offsetAtWall? (w + d.shift * 1000) = some (z.standard + d.shift) := by
  have hregular := h.daylight d hdaylight
  have hholds := not_not.mp (mt (h.offsetAt_standard_iff hdaylight w).mpr hstandard)
  have hnot := mt (h.offsetAt_daylight_iff hdaylight w).mpr hshifted
  have hlater : (w + d.shift * 1000) / 1000 = w / 1000 + d.shift := by
    unfold Wall at *
    omega
  -- In a gap the lookup finds something at the first second only, and there it is standard time.
  rw [offsetAtWall?_of_some hdaylight] at hfound ⊢
  obtain ⟨shift, hshift, rfl⟩ := Option.map_eq_some_iff.mp hfound
  obtain ⟨rfl, hnext⟩ :=
    hregular.shiftAtWall?_of_gap ((hregular.mem_gap_iff _ _).mpr ⟨hholds, hnot⟩) hshift
  rw [hlater, hnext, Option.map_some, Int.add_zero]
  exact ⟨rfl, rfl⟩

theorem isOffset_of_offsetAtWall? (hfound : z.offsetAtWall? w = some offset) :
    z.IsOffset offset := by
  cases hdaylight : z.daylight with
  | none =>
    rw [offsetAtWall?_of_none hdaylight] at hfound
    exact .inl (Option.some.inj hfound).symm
  | some d =>
    rw [offsetAtWall?_of_some hdaylight] at hfound
    obtain ⟨shift, hshift, rfl⟩ := Option.map_eq_some_iff.mp hfound
    rcases (h.daylight d hdaylight).shiftAtWall?_eq_or hshift with rfl | rfl
    · exact .inl (Int.add_zero _)
    · exact .inr ⟨d, hdaylight, rfl⟩

/-- A wall time that clocks show is looked up as an instant that shows it. -/
theorem exists_offsetAtWall? (t : Instant) : ∃ offset,
    z.offsetAtWall? (z.wallAt t) = some offset ∧
      z.offsetAt (z.wallAt t - offset * 1000) = offset := by
  -- An instant is on standard time or on daylight time. If its wall time is shown on standard time
  -- too, the lookup prefers that.
  by_cases hstandard : z.offsetAt (z.wallAt t - z.standard * 1000) = z.standard
  · exact ⟨_, h.offsetAtWall?_of_standard hstandard, hstandard⟩
  have hinstant := z.wallAt_sub_offsetAt t
  rcases z.isOffset_offsetAt t with hoffset | ⟨d, hdaylight, hoffset⟩
  · rw [hoffset] at hinstant
    rw [hinstant] at hstandard
    exact absurd hoffset hstandard
  · have hshifted : z.offsetAt (z.wallAt t - (z.standard + d.shift) * 1000) =
        z.standard + d.shift := by
      rw [← hoffset, hinstant]
    exact ⟨_, h.offsetAtWall?_of_daylight hdaylight hstandard hshifted, hshifted⟩

/-! ### Through the clocks and back -/

/-- **What clocks show on standard time** is looked up so. -/
theorem offsetAtWall?_wallAt_of_standard (hstandard : z.offsetAt t = z.standard) :
    z.offsetAtWall? (z.wallAt t) = some z.standard := by
  refine h.offsetAtWall?_of_standard ?_
  have hinstant := z.wallAt_sub_offsetAt t
  rw [hstandard] at hinstant
  rw [hinstant, hstandard]

/-- **What clocks show at the instant of a wall time** is looked up as that instant again. -/
theorem offsetAtWall?_wallAt (hfound : z.offsetAtWall? w = some offset) :
    z.offsetAtWall? (z.wallAt (w - offset * 1000)) = some (z.offsetAt (w - offset * 1000)) := by
  by_cases hstandard : z.offsetAt (w - z.standard * 1000) = z.standard
  · -- The wall time is shown on standard time.
    obtain rfl := Option.some.inj (hfound.symm.trans (h.offsetAtWall?_of_standard hstandard))
    rw [wallAt_sub hstandard, hstandard]
    exact hfound
  obtain ⟨d, hdaylight, hoffset⟩ :=
    (z.isOffset_offsetAt (w - z.standard * 1000)).resolve_left hstandard
  by_cases hshifted : z.offsetAt (w - (z.standard + d.shift) * 1000) = z.standard + d.shift
  · -- It is shown on daylight time only.
    obtain rfl := Option.some.inj
      (hfound.symm.trans (h.offsetAtWall?_of_daylight hdaylight hstandard hshifted))
    rw [wallAt_sub hshifted, hshifted]
    exact hfound
  · -- It is not shown, and clocks show the time that they are put to instead.
    obtain ⟨rfl, hnext⟩ := h.offsetAtWall?_of_gap hdaylight hstandard hshifted hfound
    have hwall : z.wallAt (w - z.standard * 1000) = w + d.shift * 1000 := by
      unfold wallAt
      rw [hoffset]
      unfold Wall at *
      omega
    rw [hwall, hoffset]
    exact hnext

end Regular

theorem instantOf?_eq_some_iff : z.instantOf? w = some t ↔
    ∃ offset, z.offsetAtWall? w = some offset ∧ inRange (w - offset * 1000) = true ∧
      w - offset * 1000 = t := by
  unfold instantOf?
  rw [Option.bind_eq_some_iff]
  simp only [Option.ite_none_right_eq_some, Option.some.injEq]

theorem toInstant_eq_ok_iff : z.toInstant w = .ok t ↔
    z.instantOf? w = some t ∨ z.instantOf? w = none ∧ inRange (w + hourMillis) = true ∧
      z.instantOf? (w + hourMillis) = some t := by
  unfold toInstant
  cases z.instantOf? w with
  | some t' => simp
  | none =>
    by_cases hlater : inRange (w + hourMillis) = true
    · cases z.instantOf? (w + hourMillis) with
      | some t' => simp [hlater]
      | none => simp [hlater]
    · simp [hlater]

/-! ### Minutes -/

/-- **In the known zones** clocks show the seconds of an instant: the offsets are whole minutes. -/
theorem mod_of_toWall (hzone : z ∈ Zone.all) (hw : z.toWall t = .ok w) :
    w % minuteMillis = t % minuteMillis := by
  obtain ⟨-, -, rfl⟩ := Zone.toWall_eq_ok_iff.mp hw
  have hoffset := (z.isOffset_offsetAt t).minutes hzone
  unfold Instant Wall minuteMillis at *
  omega

/-- The instant of a wall time has its seconds, whether clocks show it or not. -/
theorem mod_of_toInstant (hzone : z ∈ Zone.all) (ht : z.toInstant w = .ok t) :
    t % minuteMillis = w % minuteMillis := by
  -- All offsets are whole minutes, and so is the hour of the retry.
  have hfound : ∀ w', z.instantOf? w' = some t → t % minuteMillis = w' % minuteMillis := by
    intro w' hsome
    obtain ⟨offset, hoffset, -, rfl⟩ := instantOf?_eq_some_iff.mp hsome
    have hwhole :=
      ((regular_of_mem_all hzone).isOffset_of_offsetAtWall? hoffset).minutes hzone
    unfold Instant Wall minuteMillis at *
    omega
  rcases toInstant_eq_ok_iff.mp ht with hsome | ⟨-, -, hsome⟩
  · exact hfound w hsome
  · rw [hfound (w + hourMillis) hsome]
    unfold Instant Wall minuteMillis hourMillis
    omega

/-- What clocks show is a wall time with which the instant comes back. -/
theorem toInstant_wallAt (hfound : z.offsetAtWall? (z.wallAt t) = some (z.offsetAt t))
    (hrange : inRange t = true) : z.toInstant (z.wallAt t) = .ok t := by
  rw [toInstant_of_some hfound (by rwa [wallAt_sub_offsetAt]), wallAt_sub_offsetAt]

/-- **An instant is shown again** when clocks show the same at a later one. -/
def ShownAgain (z : Zone) (t : Instant) : Prop :=
  ∃ t' w, t < t' ∧ z.toWall t = .ok w ∧ z.toWall t' = .ok w

namespace Regular

variable (h : z.Regular)

include h

/-- **The instant of a wall time** comes back from what clocks show at it. -/
theorem toInstant_wallAt_of_toInstant (ht : z.toInstant w = .ok t) :
    z.toInstant (z.wallAt t) = .ok t := by
  -- An instant that is found for any wall time is found again from the wall time it shows.
  have hback : ∀ w', z.instantOf? w' = some t → z.toInstant (z.wallAt t) = .ok t := by
    intro w' hfound
    obtain ⟨offset, hoffset, hrange, rfl⟩ := instantOf?_eq_some_iff.mp hfound
    exact toInstant_wallAt (h.offsetAtWall?_wallAt hoffset) hrange
  rcases toInstant_eq_ok_iff.mp ht with hfound | ⟨-, -, hfound⟩
  · exact hback w hfound
  · exact hback (w + hourMillis) hfound

/-- **An instant that is shown again** is followed by the other one after the shift of the clocks,
and what clocks show stands for that one. -/
theorem toInstant_of_shownAgain (ht : z.toWall t = .ok w) (hagain : z.ShownAgain t) :
    ∃ d, z.daylight = some d ∧ z.toInstant w = .ok (t + d.shift * 1000) ∧
      z.toWall (t + d.shift * 1000) = .ok w := by
  obtain ⟨t', w', hlt, hw', ht'⟩ := hagain
  obtain rfl := Except.ok.inj (ht.symm.trans hw')
  obtain ⟨-, -, hwall⟩ := Zone.toWall_eq_ok_iff.mp ht
  obtain ⟨hrange', -, hwall'⟩ := Zone.toWall_eq_ok_iff.mp ht'
  have hmem := h.mem_of_isOffset (z.isOffset_offsetAt t')
  -- The later instant has the smaller one of the two offsets.
  have hsmaller : z.offsetAt t' < z.offsetAt t := by
    unfold Instant Wall at *
    omega
  obtain ⟨d, hdaylight, hoffset⟩ := (z.isOffset_offsetAt t).resolve_left (by omega)
  have hoffset' : z.offsetAt t' = z.standard := by
    rcases z.isOffset_offsetAt t' with hstandard | ⟨d', hdaylight', hshifted⟩
    · exact hstandard
    · obtain rfl := Option.some.inj (hdaylight.symm.trans hdaylight')
      omega
  have hinstant : t + d.shift * 1000 = t' := by
    rw [hoffset] at hwall
    rw [hoffset'] at hwall'
    unfold Instant Wall at *
    omega
  refine ⟨d, hdaylight, ?_, ?_⟩
  · rw [hinstant, hwall']
    refine toInstant_wallAt ?_ hrange'
    rw [hoffset']
    exact h.offsetAtWall?_wallAt_of_standard hoffset'
  · rw [hinstant]
    exact ht'

/-! ### In years of four digits -/

variable (hyear : 0 ≤ (Wall.date w).year ∧ (Wall.date w).year ≤ 9999)

include hyear

/-- Within a day of a wall time in a year of four digits, all wall times and their instants are in
range. -/
theorem inRange_near {w' : Wall} (hnear : w - dayMillis ≤ w' ∧ w' ≤ w + dayMillis)
    (hoffset : z.IsOffset offset) :
    inRange w' = true ∧ inRange (w' - offset * 1000) = true := by
  obtain ⟨hday, hnext⟩ := dayInRange (Wall.valid_date w) hyear
  have hw := (Wall.date_eq_iff (Wall.valid_date w)).mp rfl
  generalize (Wall.date w).toDay = day at *
  -- What is within a day of a wall time is within a day of its date or of the next one.
  by_cases hbefore : w' ≤ (day + 1) * dayMillis
  · refine h.inRange_around hday ⟨?_, hbefore⟩ (h.mem_of_isOffset hoffset)
    unfold Wall dayMillis at *
    omega
  · refine h.inRange_around hnext ⟨?_, ?_⟩ (h.mem_of_isOffset hoffset)
    · unfold Wall dayMillis at *
      omega
    · unfold Wall dayMillis at *
      omega

/-- A wall time is shown at an instant where the offset is the one that takes it there. -/
theorem toWall_of_offsetAt (hoffset : z.offsetAt (w - offset * 1000) = offset) :
    z.toWall (w - offset * 1000) = .ok w := by
  have hmem := z.isOffset_offsetAt (w - offset * 1000)
  rw [hoffset] at hmem
  have hday : (0 : Int) ≤ dayMillis := by decide
  obtain ⟨hwall, hinstant⟩ :=
    h.inRange_near hyear ⟨Int.sub_le_self w hday, Int.le_add_of_nonneg_right hday⟩ hmem
  exact toWall_sub hoffset hwall hinstant

/-- **The skipped wall times** are those that clocks are put forward over. -/
theorem skips_iff : z.Skips w ↔ ∃ d, z.daylight = some d ∧
    d.begins.inYear (yearOfDay (w / 1000 / 86400)) ≤ w / 1000 ∧
    w / 1000 < d.begins.inYear (yearOfDay (w / 1000 / 86400)) + d.shift := by
  refine ⟨fun hskips => ?_, ?_⟩
  · -- Neither of the two instants that could show the wall time does.
    have hnot : ∀ offset, z.offsetAt (w - offset * 1000) ≠ offset :=
      fun offset hoffset => hskips _ (h.toWall_of_offsetAt hyear hoffset)
    obtain ⟨d, hdaylight, -⟩ := (z.isOffset_offsetAt _).resolve_left (hnot z.standard)
    refine ⟨d, hdaylight, ((h.daylight d hdaylight).mem_gap_iff _ _).mpr ⟨?_, ?_⟩⟩
    · exact not_not.mp (mt (h.offsetAt_standard_iff hdaylight w).mpr (hnot _))
    · exact mt (h.offsetAt_daylight_iff hdaylight w).mpr (hnot _)
  · rintro ⟨d, hdaylight, hgap⟩ t ht
    obtain ⟨hholds, hnot⟩ := ((h.daylight d hdaylight).mem_gap_iff _ _).mp hgap
    obtain ⟨-, -, hwall⟩ := Zone.toWall_eq_ok_iff.mp ht
    have hinstant : w - z.offsetAt t * 1000 = t := by
      rw [hwall]
      exact Int.add_sub_cancel t _
    rcases z.isOffset_offsetAt t with hoffset | ⟨d', hdaylight', hoffset⟩
    · rw [hoffset] at hinstant
      refine (h.offsetAt_standard_iff hdaylight w).mp ?_ hholds
      rw [hinstant, hoffset]
    · obtain rfl := Option.some.inj (hdaylight.symm.trans hdaylight')
      rw [hoffset] at hinstant
      refine hnot ((h.offsetAt_daylight_iff hdaylight w).mp ?_)
      rw [hinstant, hoffset]

/-- **An instant that is not shown again** comes back from what clocks show at it. -/
theorem toInstant_of_not_shownAgain (ht : z.toWall t = .ok w) (hnot : ¬ z.ShownAgain t) :
    z.toInstant w = .ok t := by
  obtain ⟨hrange, -, rfl⟩ := Zone.toWall_eq_ok_iff.mp ht
  refine toInstant_wallAt ?_ hrange
  rcases z.isOffset_offsetAt t with hoffset | ⟨d, hdaylight, hoffset⟩
  · rw [hoffset]
    exact h.offsetAtWall?_wallAt_of_standard hoffset
  · -- On daylight time, the instant on standard time would be a later one.
    have hshift := (h.daylight d hdaylight).shift
    obtain ⟨offset, hfound, hshown⟩ := h.exists_offsetAtWall? t
    rcases h.isOffset_of_offsetAtWall? hfound with rfl | ⟨d', hdaylight', rfl⟩
    · refine absurd ⟨_, _, ?_, ht, h.toWall_of_offsetAt hyear hshown⟩ hnot
      unfold wallAt Instant at *
      omega
    · obtain rfl := Option.some.inj (hdaylight.symm.trans hdaylight')
      rw [hoffset]
      exact hfound

/-- **A wall time that is not skipped** is what clocks show at its instant. -/
theorem eq_of_not_skips {typed : Wall} (hinstant : z.toInstant typed = .ok t)
    (ht : z.toWall t = .ok w) (hshown : ¬ z.Skips typed) : w = typed := by
  obtain ⟨t₀, ht₀⟩ : ∃ t₀, z.toWall t₀ = .ok typed := not_forall_not.mp hshown
  obtain ⟨-, -, htyped⟩ := Zone.toWall_eq_ok_iff.mp ht₀
  obtain ⟨-, -, hwall⟩ := Zone.toWall_eq_ok_iff.mp ht
  obtain ⟨offset, hfound, hoffset⟩ := h.exists_offsetAtWall? t₀
  rw [wallAt, ← htyped] at hfound hoffset
  rcases toInstant_eq_ok_iff.mp hinstant with hsome | ⟨hnone, -, hsome⟩
  · obtain ⟨offset', hfound', -, rfl⟩ := instantOf?_eq_some_iff.mp hsome
    obtain rfl := Option.some.inj (hfound.symm.trans hfound')
    exact hwall.trans (wallAt_sub hoffset)
  · -- The wall time is near the one that is shown in the end, so that its instant is in range.
    obtain ⟨offset', hfound', -, rfl⟩ := instantOf?_eq_some_iff.mp hsome
    have hmem := h.mem_of_isOffset (h.isOffset_of_offsetAtWall? hfound')
    have hmem' := h.mem_of_isOffset (z.isOffset_offsetAt (typed + hourMillis - offset' * 1000))
    have hnear : w - dayMillis ≤ typed ∧ typed ≤ w + dayMillis := by
      unfold Wall dayMillis hourMillis at *
      omega
    have hrange := (h.inRange_near hyear hnear (h.isOffset_of_offsetAtWall? hfound)).2
    rw [instantOf?_eq_some_iff.mpr ⟨offset, hfound, hrange, rfl⟩] at hnone
    cases hnone

end Regular

end Zone

end MetricSeries.Time
