import MetricSeries.Proofs.Time.Gaps

/-!
# Outside gaps

A wall time that is not in a gap is looked up as an instant that shows it, and as the latest one of
two. It is resolved to this instant unless that is out of range, though the wall time is not. This
can only be within a day of the ends of the line of instants, at the turn of a year, where clocks
are not changed and the offset is the same throughout (`Zone.turnOffset`). There the wall time is
resolved an hour later, if at all.

* `Zone.Regular.toInstant_of_shown` — a wall time outside gaps that clocks show in range stands for
  the latest instant that shows it;
* `Zone.Regular.toWall_of_skips` — one that they do not show in range is resolved to an instant
  that shows an hour more.
-/

namespace MetricSeries.Time

/-! ### The turn of a year -/

/-- **Near the turn of a year**: less than three days before or after it. -/
structure NearTurn (year w : Int) : Prop where
  low : (yearStart year - 3) * dayMillis ≤ w
  high : w < (yearStart year + 3) * dayMillis

/-- A wall time in range is on a day in range, or near the turn of a year with the hours around
it. -/
theorem dayInRange_or_nearTurn {w : Int} (hrange : inRange w = true) :
    DayInRange (w / 1000 / 86400) ∨
      ∃ year, ∀ w', w - 2 * hourMillis ≤ w' → w' ≤ w + 2 * hourMillis → NearTurn year w' := by
  by_cases hday : DayInRange (w / 1000 / 86400)
  · exact .inl hday
  obtain ⟨hlow, hhigh⟩ := inRange_iff.mp hrange
  have hends : yearStart (-262143) * dayMillis = earliest ∧
      yearStart 262143 * dayMillis = latest + 1 := by decide
  -- A day that is not well in range is one of the two at either end of it.
  have hedge : w / 1000 / 86400 * dayMillis < earliest + 2 * dayMillis ∨
      latest < w / 1000 / 86400 * dayMillis + 2 * dayMillis := by
    by_contra hnot
    rw [not_or, Int.not_lt, Int.not_lt] at hnot
    exact hday ⟨hnot.1, hnot.2⟩
  right
  unfold dayMillis hourMillis at *
  rcases hedge with hearly | hlate
  · refine ⟨-262143, fun w' hle hge => ⟨?_, ?_⟩⟩
    · unfold dayMillis
      omega
    · unfold dayMillis
      omega
  · refine ⟨262143, fun w' hle hge => ⟨?_, ?_⟩⟩
    · unfold dayMillis
      omega
    · unfold dayMillis
      omega

theorem NearTurn.seconds {year w : Int} (h : NearTurn year w) :
    (yearStart year - 3) * 86400 ≤ w / 1000 ∧ w / 1000 < (yearStart year + 3) * 86400 := by
  obtain ⟨hlow, hhigh⟩ := h
  unfold dayMillis at hlow hhigh
  omega

/-- The days near the turn of a year are of the year that starts or of the one that ends. -/
theorem yearOfDay_of_turn {year day : Int}
    (hnear : yearStart year - 3 ≤ day ∧ day < yearStart year + 3) :
    yearOfDay day = year ∨ yearOfDay day = year - 1 := by
  have hlong := yearStart_succ year
  have hlong' := yearStart_succ (year - 1)
  have hlength := (yearLength_mem (isLeap year)).1
  have hlength' := (yearLength_mem (isLeap (year - 1))).1
  rw [Int.sub_add_cancel] at hlong'
  -- Three days around the turn lie in the new year or at the end of the old one.
  by_cases hday : yearStart year ≤ day
  · exact .inl (yearOfDay_eq_iff.mpr ⟨hday, by omega⟩)
  · exact .inr (yearOfDay_eq_iff.mpr ⟨by omega, by rw [Int.sub_add_cancel]; omega⟩)

namespace Daylight.Regular

variable {d : Daylight} (h : d.Regular) {year seconds : Int}
  (hnear : (yearStart year - 3) * 86400 ≤ seconds ∧ seconds < (yearStart year + 3) * 86400)

include h hnear

/-- Near the turn of a year it is daylight time where this lasts over the turn, by the rules of
either year. -/
theorem holdsIn_of_turn :
    d.HoldsIn (yearOfDay (seconds / 86400)) seconds ↔ ¬ d.begins.month < d.ends.month := by
  have hnew : d.HoldsIn year seconds ↔ ¬ d.begins.month < d.ends.month := by
    have hbegins := ClockChange.dayIn_mem h.begins_month year
    have hends := ClockChange.dayIn_mem h.ends_month year
    obtain ⟨shift, -, -, -, begins_hour, ends_hour, -, -⟩ := h
    unfold HoldsIn
    simp only [ClockChange.inYear_eq]
    by_cases hmonths : d.begins.month < d.ends.month
    · rw [if_pos hmonths]
      exact iff_of_false (by omega) (not_not_intro hmonths)
    · rw [if_neg hmonths]
      exact iff_of_true (.inl (by omega)) hmonths
  rw [← hnew]
  have hday : yearOfDay (seconds / 86400) = year ∨ yearOfDay (seconds / 86400) = year - 1 :=
    yearOfDay_of_turn (by omega)
  rcases hday with hyear | hyear
  · rw [hyear]
  · -- The rules of the year that ends say the same.
    rw [hyear]
    have hturn : yearStart (year - 1 + 1) = yearStart year := by rw [Int.sub_add_cancel]
    have hsame := h.holdsIn_succ_iff (hturn ▸ hnear.1) (hturn ▸ hnear.2)
    rw [Int.sub_add_cancel] at hsame
    exact hsame.symm

/-- Near the turn of a year no clocks are put forward. -/
theorem shiftAtWall?_of_turn :
    Zone.shiftAtWall? d seconds =
      some (if d.begins.month < d.ends.month then 0 else d.shift) := by
  -- Near the turn of a year the wall time is of the one year or of the other.
  have hday : yearOfDay (seconds / 86400) = year ∨ yearOfDay (seconds / 86400) = year - 1 :=
    yearOfDay_of_turn (by omega)
  have hgap : seconds < d.begins.inYear (yearOfDay (seconds / 86400)) ∨
      d.begins.inYear (yearOfDay (seconds / 86400)) + d.shift ≤ seconds := by
    have hbegins := ClockChange.dayIn_mem h.begins_month (yearOfDay (seconds / 86400))
    have hhour := h.begins_hour
    have hshift := h.shift
    rw [ClockChange.inYear_eq]
    rcases hday with hyear | hyear
    · rw [hyear] at hbegins ⊢
      omega
    · rw [hyear] at hbegins ⊢
      rw [Int.sub_add_cancel] at hbegins
      omega
  rw [h.shiftAtWall?_of_not_gap rfl hgap]
  simp only [h.holdsIn_of_turn hnear, ite_not]

end Daylight.Regular

namespace Zone

variable {z : Zone} {w : Wall} {t : Instant} {year : Int}

/-- **The offset at the turn of a year**, that of daylight time where this lasts over it. -/
def turnOffset (z : Zone) : Int :=
  match z.daylight with
  | none => z.standard
  | some d => if d.begins.month < d.ends.month then z.standard else z.standard + d.shift

theorem turnOffset_of_none (hdaylight : z.daylight = none) : z.turnOffset = z.standard := by
  unfold turnOffset
  rw [hdaylight]

theorem turnOffset_of_some {d : Daylight} (hdaylight : z.daylight = some d) :
    z.turnOffset =
      if d.begins.month < d.ends.month then z.standard else z.standard + d.shift := by
  unfold turnOffset
  rw [hdaylight]

theorem isOffset_turnOffset (z : Zone) : z.IsOffset z.turnOffset := by
  cases hdaylight : z.daylight with
  | none => exact .inl (turnOffset_of_none hdaylight)
  | some d =>
    rw [turnOffset_of_some hdaylight]
    split
    · exact .inl rfl
    · exact .inr ⟨d, hdaylight, rfl⟩

namespace Regular

variable (h : z.Regular)

include h

/-- **Near the turn of a year** clocks have the offset of the turn. -/
theorem offsetAt_of_turn (hnear : NearTurn year (t + z.standard * 1000)) :
    z.offsetAt t = z.turnOffset := by
  -- Near the turn of a year no clock changes, so the offset is the same before it and behind it.
  cases hdaylight : z.daylight with
  | none => rw [offsetAt_of_none hdaylight, turnOffset_of_none hdaylight]
  | some d =>
    have hseconds : t / 1000 + z.standard = (t + z.standard * 1000) / 1000 := by
      unfold Instant at *
      omega
    rw [h.offsetAt_around hdaylight ((t + z.standard * 1000) / 1000 / 86400) hseconds (by omega)
      (by omega), turnOffset_of_some hdaylight]
    simp only [(h.daylight d hdaylight).holdsIn_of_turn hnear.seconds, ite_not]
    split
    · exact Int.add_zero _
    · rfl

/-- Near the turn of a year wall times are looked up with the offset of the turn. -/
theorem offsetAtWall?_of_turn (hnear : NearTurn year w) :
    z.offsetAtWall? w = some z.turnOffset := by
  cases hdaylight : z.daylight with
  | none => rw [offsetAtWall?_of_none hdaylight, turnOffset_of_none hdaylight]
  | some d =>
    rw [offsetAtWall?_of_some hdaylight,
      (h.daylight d hdaylight).shiftAtWall?_of_turn hnear.seconds, turnOffset_of_some hdaylight,
      Option.map_some]
    split
    · rw [Int.add_zero]
    · rfl

/-! ### Wall times outside gaps -/

/-- A wall time is in a gap where clocks are put forward over it by the rules of its year. -/
theorem inGap_iff : z.InGap w ↔ ∃ d, z.daylight = some d ∧
    d.begins.inYear (yearOfDay (w / 1000 / 86400)) ≤ w / 1000 ∧
    w / 1000 < d.begins.inYear (yearOfDay (w / 1000 / 86400)) + d.shift := by
  refine ⟨?_, ?_⟩
  · -- The year of a gap is the year of the wall times in it.
    rintro ⟨d, year, hgap⟩
    refine ⟨d, hgap.daylight, ?_⟩
    rw [h.yearOfDay_of_gapOf hgap]
    exact hgap.seconds
  · rintro ⟨d, hdaylight, hstart, hend⟩
    refine ⟨d, yearOfDay (w / 1000 / 86400), hdaylight, ?_, ?_⟩
    · unfold Wall at *
      omega
    · unfold Wall at *
      omega

/-- **Outside gaps** a wall time is looked up as an instant that shows it. -/
theorem exists_offset_of_not_inGap (hgap : ¬ z.InGap w) : ∃ offset,
    z.offsetAtWall? w = some offset ∧ z.offsetAt (w - offset * 1000) = offset := by
  by_cases hstandard : z.offsetAt (w - z.standard * 1000) = z.standard
  · exact ⟨_, h.offsetAtWall?_of_standard hstandard, hstandard⟩
  obtain ⟨d, hdaylight, -⟩ := (z.isOffset_offsetAt _).resolve_left hstandard
  by_cases hshifted : z.offsetAt (w - (z.standard + d.shift) * 1000) = z.standard + d.shift
  · exact ⟨_, h.offsetAtWall?_of_daylight hdaylight hstandard hshifted, hshifted⟩
  · -- A wall time that is shown by neither of the two offsets is in a gap.
    refine absurd (h.inGap_iff.mpr ⟨d, hdaylight, ?_⟩) hgap
    refine ((h.daylight d hdaylight).mem_gap_iff _ _).mpr ⟨?_, ?_⟩
    · exact not_not.mp (mt (h.offsetAt_standard_iff hdaylight w).mpr hstandard)
    · exact mt (h.offsetAt_daylight_iff hdaylight w).mpr hshifted

/-- What a wall time is looked up as is the latest instant that shows it, in range or not. -/
theorem le_of_offsetAtWall? {offset : Int} (hfound : z.offsetAtWall? w = some offset)
    (hwall : z.wallAt t = w) : t ≤ w - offset * 1000 := by
  have hinstant : w - z.offsetAt t * 1000 = t := by
    rw [← hwall]
    exact z.wallAt_sub_offsetAt t
  have hle : offset ≤ z.offsetAt t := by
    rcases z.isOffset_offsetAt t with hoffset | ⟨d, hdaylight, hoffset⟩
    · -- On standard time the wall time is looked up so.
      rw [hoffset] at hinstant ⊢
      have hstandard : z.offsetAt (w - z.standard * 1000) = z.standard := by
        rw [hinstant, hoffset]
      exact (Option.some.inj (hfound.symm.trans (h.offsetAtWall?_of_standard hstandard))).le
    · have hshift := (h.daylight d hdaylight).shift
      rw [hoffset]
      rcases h.isOffset_of_offsetAtWall? hfound with rfl | ⟨d', hdaylight', rfl⟩
      · omega
      · obtain rfl := Option.some.inj (hdaylight.symm.trans hdaylight')
        exact Int.le_refl _
  unfold Instant Wall at *
  omega

/-- **A wall time that clocks show** outside gaps stands for the latest instant that shows it. -/
theorem toInstant_of_shown (hgap : ¬ z.InGap w) (hshown : ¬ z.Skips w) :
    ∃ t, z.toInstant w = .ok t ∧ z.toWall t = .ok w ∧ ∀ t', z.toWall t' = .ok w → t' ≤ t := by
  obtain ⟨t₀, ht₀⟩ : ∃ t₀, z.toWall t₀ = .ok w := not_forall_not.mp hshown
  obtain ⟨hrange₀, hrange, hwall⟩ := toWall_eq_ok_iff.mp ht₀
  rw [← hwall] at hrange
  obtain ⟨offset, hfound, hoffset⟩ := h.exists_offset_of_not_inGap hgap
  have hinstant : inRange (w - offset * 1000) = true := by
    rcases dayInRange_or_nearTurn hrange with hday | ⟨year, hnear⟩
    · refine (h.inRange_around hday ?_ (h.mem_of_isOffset (h.isOffset_of_offsetAtWall? hfound))).2
      unfold Wall dayMillis at *
      omega
    · -- Near the turn of a year only one instant could show the wall time.
      have hmem := h.offsetAt_mem t₀
      have hturn : z.offsetAt t₀ = z.turnOffset := by
        refine h.offsetAt_of_turn (hnear _ ?_ ?_)
        · unfold Instant Wall hourMillis at *
          omega
        · unfold Instant Wall hourMillis at *
          omega
      have hfound' := h.offsetAtWall?_of_turn (hnear w (by unfold hourMillis; omega)
        (by unfold hourMillis; omega))
      obtain rfl := Option.some.inj (hfound.symm.trans hfound')
      rw [hwall, hturn, Int.add_sub_cancel]
      exact hrange₀
  exact ⟨_, toInstant_of_some hfound hinstant, toWall_sub hoffset hrange hinstant,
    fun t' ht' => h.le_of_offsetAtWall? hfound (toWall_eq_ok_iff.mp ht').2.2.symm⟩

/-- **A wall time that clocks never show** though it is not in a gap, as its instant is out of
range, is resolved to an instant that shows an hour more, if to any. -/
theorem toWall_of_skips (hrange : inRange w = true) (hgap : ¬ z.InGap w) (hskips : z.Skips w)
    (ht : z.toInstant w = .ok t) : z.toWall t = .ok (w + hourMillis) := by
  obtain ⟨offset, hfound, hoffset⟩ := h.exists_offset_of_not_inGap hgap
  have hout : ¬ inRange (w - offset * 1000) = true :=
    fun hinstant => hskips _ (toWall_sub hoffset hrange hinstant)
  rcases dayInRange_or_nearTurn hrange with hday | ⟨year, hnear⟩
  · refine absurd (h.inRange_around hday ?_
      (h.mem_of_isOffset (h.isOffset_of_offsetAtWall? hfound))).2 hout
    unfold Wall dayMillis at *
    omega
  · have hturn := h.offsetAtWall?_of_turn (hnear w (by unfold hourMillis; omega)
      (by unfold hourMillis; omega))
    have hlater := h.offsetAtWall?_of_turn (hnear (w + hourMillis) (by unfold hourMillis; omega)
      (by unfold hourMillis; omega))
    obtain rfl := Option.some.inj (hfound.symm.trans hturn)
    -- The wall time was not resolved, so what clocks show an hour later was.
    obtain ⟨offset', hfound', hinstant, rfl⟩ :
        ∃ offset', z.offsetAtWall? (w + hourMillis) = some offset' ∧
          inRange (w + hourMillis - offset' * 1000) = true ∧
          w + hourMillis - offset' * 1000 = t := by
      rcases toInstant_eq_ok_iff.mp ht with hsome | ⟨-, -, hsome⟩
      · obtain ⟨offset', hfound', hinstant, -⟩ := instantOf?_eq_some_iff.mp hsome
        obtain rfl := Option.some.inj (hfound.symm.trans hfound')
        exact absurd hinstant hout
      · exact instantOf?_eq_some_iff.mp hsome
    obtain rfl := Option.some.inj (hlater.symm.trans hfound')
    have hmem := h.mem_of_isOffset z.isOffset_turnOffset
    have hshown : z.offsetAt (w + hourMillis - z.turnOffset * 1000) = z.turnOffset := by
      refine h.offsetAt_of_turn (hnear _ ?_ ?_)
      · unfold Wall hourMillis at *
        omega
      · unfold Wall hourMillis at *
        omega
    refine toWall_sub hshown ?_ hinstant
    -- The hour was the one before the first instant.
    have hstandard := h.standard
    rw [inRange_iff] at *
    unfold Wall hourMillis earliest latest at *
    omega

end Regular

end Zone

end MetricSeries.Time
