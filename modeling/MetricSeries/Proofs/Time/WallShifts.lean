import MetricSeries.Proofs.Time.FixedText
import MetricSeries.Proofs.Time.OutsideGaps

/-!
# Shifts of the wall clock

An adjustment by hours is a length of time. One by days, weeks or months moves the wall clock: the
wall time of an instant is shifted (`Wall.Shifted`), and the result is the latest instant that shows
the shifted one, unless that is in a gap (`Adjustment.apply_wall_clock`). Weeks are seven days each.

At the beginning of the line of instants a wall time in range may belong to no instant in range. It
is not refused then, as it should be, but taken for what clocks show an hour later
(`Adjustment.not_apply_shows_shifted`).
-/

namespace MetricSeries.Time

open Fallible

variable {z : Zone} {t t' : Instant} {w w' : Wall} {period : Period} {n : Int} {amount : Int64}

/-! ### Shifting wall times -/

/-- **The shift of a wall time** by days, weeks or months. One by months keeps the time of day,
leads to the month that is so many later, and keeps the day of the month where that is long enough,
or else takes its last day. -/
def Wall.Shifted (period : Period) (n : Int) (w w' : Wall) : Prop :=
  match period with
  | .hour => False
  | .day => w' = w + n * dayMillis
  | .week => w' = w + 7 * n * dayMillis
  | .month =>
    w' % dayMillis = w % dayMillis ∧
      (date w').year * 12 + (date w').month = (date w).year * 12 + (date w).month + n ∧
      (date w').day = min (date w).day (monthLength (isLeap (date w').year) (date w').month)

/-- The wall time that a shift leads to; none out of range. -/
def Wall.move? (period : Period) (n : Int) (w : Wall) : Option Wall :=
  match period with
  | .hour => none
  | .day => addDays? w n
  | .week => Adjustment.addWeeks? w n
  | .month => addMonths? w n

theorem Wall.addDays?_eq_some_iff :
    addDays? w n = some w' ↔ inRange w' = true ∧ w' = w + n * dayMillis := by
  unfold addDays?
  dsimp only
  rw [Option.ite_none_right_eq_some, Option.some.injEq]
  refine ⟨?_, ?_⟩
  · rintro ⟨hrange, rfl⟩
    exact ⟨hrange, rfl⟩
  · rintro ⟨hrange, rfl⟩
    exact ⟨hrange, rfl⟩

/-- A shift by months shifts the date and keeps the time of day. -/
theorem Wall.addMonths?_eq_some_iff : addMonths? w n = some w' ↔ n.natAbs ≤ 2147483647 ∧
    inRange w' = true ∧ w' = ((date w).addMonths n).toDay * dayMillis + w % dayMillis := by
  have htime : (millisOfDay w : Int) = w % dayMillis := by
    unfold millisOfDay dayMillis
    omega
  unfold addMonths?
  dsimp only
  rw [Option.ite_none_right_eq_some, Option.ite_none_right_eq_some, Option.some.injEq, htime]
  -- There are two guards, the one on the amount and the one on the result.
  refine and_congr_right fun _ => ⟨?_, ?_⟩
  · rintro ⟨hrange, rfl⟩
    exact ⟨hrange, rfl⟩
  · rintro ⟨hrange, rfl⟩
    exact ⟨hrange, rfl⟩

/-- **A wall time that is moved** is shifted and stays in range. -/
theorem Wall.shifted_of_move? (h : move? period n w = some w') :
    Shifted period n w w' ∧ inRange w' = true := by
  unfold move? at h
  unfold Shifted
  cases period with
  | hour => cases h
  | day =>
    obtain ⟨hrange, hw'⟩ := addDays?_eq_some_iff.mp h
    exact ⟨hw', hrange⟩
  | week =>
    unfold Adjustment.addWeeks? at h
    dsimp only at h
    rw [Option.ite_none_right_eq_some] at h
    obtain ⟨hrange, hw'⟩ := addDays?_eq_some_iff.mp h.2
    rw [Int.mul_comm 7 n]
    exact ⟨hw', hrange⟩
  | month =>
    obtain ⟨-, hrange, rfl⟩ := addMonths?_eq_some_iff.mp h
    have hvalid : ((date w).addMonths n).Valid := Date.valid_addMonths (valid_date w) n
    -- The moved wall time is of the moved date.
    have hdate : date (((date w).addMonths n).toDay * dayMillis + w % dayMillis) =
        (date w).addMonths n := by
      rw [date_eq_iff hvalid]
      unfold Wall dayMillis at *
      omega
    refine ⟨⟨?_, ?_, ?_⟩, hrange⟩
    · unfold Wall dayMillis
      omega
    · rw [hdate]
      obtain ⟨hmonth, -⟩ := valid_date w
      unfold Date.addMonths
      dsimp only
      omega
    · rw [hdate]
      rfl

theorem Wall.shifted_zero (hperiod : period ≠ .hour) (w : Wall) : Shifted period 0 w w := by
  unfold Shifted
  cases period with
  | hour => exact absurd rfl hperiod
  | day => exact (Int.add_zero w).symm
  | week => exact (Int.add_zero w).symm
  | month =>
    -- Moving by no months still caps the day, but the day of a date fits its month already.
    obtain ⟨-, -, -, hday⟩ := valid_date w
    exact ⟨rfl, (Int.add_zero _).symm, (Nat.min_eq_left hday).symm⟩

/-! ### Shifting instants -/

namespace Adjustment

theorem moveWall_eq_ok_iff {move : Wall → Option Wall} {outOfRange : Error} :
    moveWall z outOfRange move t = .ok t' ↔
      ∃ w w', z.toWall t = .ok w ∧ move w = some w' ∧ z.toInstant w' = .ok t' := by
  unfold moveWall
  rw [bind_eq_ok_iff]
  refine exists_congr fun w => ?_
  cases move w with
  | none => simp
  | some w' => simp

/-- An offset by hours leads to the instant so many hours later. -/
theorem eq_of_apply_hour (h : apply z (.offset .hour amount) t = .ok t') :
    t' = t + amount.toInt * hourMillis := by
  unfold apply at h
  dsimp only at h
  -- Nothing is done for an amount of zero; any other is added to the instant itself.
  split at h
  next hzero =>
    rw [hzero, Int.zero_mul, Int.add_zero]
    exact (Except.ok.inj h).symm
  next =>
    split at h
    next later hlater =>
      unfold addHours? at hlater
      dsimp only at hlater
      rw [Option.ite_none_right_eq_some] at hlater
      rw [← Except.ok.inj h]
      exact (Option.some.inj hlater.2).symm
    next => cases h

/-- **Other offsets than by hours** move the wall clock, but for those by nothing. -/
theorem apply_eq_ok_iff (hperiod : period ≠ .hour) :
    apply z (.offset period amount) t = .ok t' ↔
      (amount.toInt = 0 ∧ t = t') ∨ (amount.toInt ≠ 0 ∧ ∃ w w', z.toWall t = .ok w ∧
        Wall.move? period amount.toInt w = some w' ∧ z.toInstant w' = .ok t') := by
  unfold apply
  dsimp only
  -- An amount of zero is no move at all, so that not even the wall time is looked up.
  by_cases hzero : amount.toInt = 0
  · rw [if_pos hzero]
    simp [hzero]
  · rw [if_neg hzero]
    simp only [hzero, false_and, false_or, ne_eq, not_false_eq_true, true_and]
    cases period with
    | hour => exact absurd rfl hperiod
    | day => exact moveWall_eq_ok_iff
    | week => exact moveWall_eq_ok_iff
    | month => exact moveWall_eq_ok_iff

/-- **Weeks are seven days**: an offset by weeks leads where the one by days does. -/
theorem apply_week_eq_ok_iff {days : Int64} (hdays : days.toInt = 7 * amount.toInt) :
    apply z (.offset .week amount) t = .ok t' ↔ apply z (.offset .day days) t = .ok t' := by
  have hmove : Wall.move? .week amount.toInt = Wall.move? .day days.toInt := by
    have hseven : amount.toInt * 7 = days.toInt := by rw [hdays, Int.mul_comm]
    funext w
    unfold Wall.move? addWeeks?
    dsimp only
    rw [hseven, Text.fitInt64?_toInt]
    rfl
  have hzero : amount.toInt = 0 ↔ days.toInt = 0 := by omega
  rw [apply_eq_ok_iff (by decide), apply_eq_ok_iff (by decide), hmove, ne_eq, hzero]

/-- **An offset by days, weeks or months** that succeeds leads to the latest instant that shows the
shifted wall time, unless this is in a gap. -/
theorem apply_wall (hz : z.Regular) (hperiod : period ≠ .hour)
    (h : apply z (.offset period amount) t = .ok t') (hw : z.toWall t = .ok w) :
    ∃ w', Wall.Shifted period amount.toInt w w' ∧ (¬ z.InGap w' →
      (¬ z.Skips w' → z.toWall t' = .ok w' ∧
        (amount.toInt ≠ 0 → ∀ t₀, z.toWall t₀ = .ok w' → t₀ ≤ t')) ∧
      (z.Skips w' → z.toWall t' = .ok (w' + hourMillis))) := by
  rcases (apply_eq_ok_iff hperiod).mp h with ⟨hzero, rfl⟩ | ⟨hne, w₀, w', hw₀, hmove, ht'⟩
  · -- Nothing was shifted, so that clocks show the wall time.
    rw [hzero]
    refine ⟨w, Wall.shifted_zero hperiod w, fun _ => ⟨fun _ => ⟨hw, fun hne => ?_⟩, ?_⟩⟩
    · exact absurd rfl hne
    · exact fun hskips => absurd hw (hskips t)
  · obtain rfl := Except.ok.inj (hw.symm.trans hw₀)
    obtain ⟨hshifted, hrange⟩ := Wall.shifted_of_move? hmove
    refine ⟨w', hshifted, fun hgap => ⟨fun hshown => ?_, fun hskips => ?_⟩⟩
    · obtain ⟨t₁, ht₁, hshows, hlatest⟩ := hz.toInstant_of_shown hgap hshown
      obtain rfl := Except.ok.inj (ht'.symm.trans ht₁)
      exact ⟨hshows, fun _ => hlatest⟩
    · exact hz.toWall_of_skips hrange hgap hskips ht'

/-- **Offsets act on the wall clock.** In every known zone, an adjustment that
succeeds leads from an instant

* by hours, to the instant so many hours later;
* by days, weeks or months, where the shifted wall time is not in a gap, to an instant that shows
  it, the latest one if the offset is not by nothing. Where clocks never show it, as the instant
  that would is out of range, they show an hour more instead.

An offset by weeks leads where the offset by seven times as many days does. -/
theorem apply_wall_clock (z : Zone) (hzone : z ∈ Zone.all) :
    (∀ (a : Adjustment) (t t' : Instant), a.apply z t = .ok t' →
      match a with
      | .none => t' = t
      | .offset .hour amount => t' = t + amount.toInt * hourMillis
      | .offset period amount => ∀ w, z.toWall t = .ok w →
        ∃ w', Wall.Shifted period amount.toInt w w' ∧ (¬ z.InGap w' →
          (¬ z.Skips w' → z.toWall t' = .ok w' ∧
            (amount.toInt ≠ 0 → ∀ t₀, z.toWall t₀ = .ok w' → t₀ ≤ t')) ∧
          (z.Skips w' → z.toWall t' = .ok (w' + hourMillis)))) ∧
    ∀ (weeks days : Int64), days.toInt = 7 * weeks.toInt → ∀ t t' : Instant,
      apply z (.offset .week weeks) t = .ok t' ↔ apply z (.offset .day days) t = .ok t' := by
  have hz := Zone.regular_of_mem_all hzone
  refine ⟨fun a t t' h => ?_, fun weeks days hdays t t' => apply_week_eq_ok_iff hdays⟩
  cases a with
  | none => exact (Except.ok.inj h).symm
  | offset period amount =>
    -- Hours move the instant, and all other periods move the wall time.
    cases period with
    | hour => exact eq_of_apply_hour h
    | day => exact fun w => apply_wall hz (by decide) h
    | week => exact fun w => apply_wall hz (by decide) h
    | month => exact fun w => apply_wall hz (by decide) h

/-- From half past two on the day before clocks are put back, a day later is half past two for the
second time. -/
theorem apply_wall_clock_central :
    apply (Span.centralClock 0).zone (.offset .day 1) 1729902600000 = .ok 1729992600000 ∧
      (Span.centralClock 0).zone.toWall 1729992600000 = .ok (Wall.ofDate ⟨2024, 10, 27⟩ 2 30) ∧
      ∀ t, (Span.centralClock 0).zone.toWall t = .ok (Wall.ofDate ⟨2024, 10, 27⟩ 2 30) →
        t ≤ 1729992600000 := by
  have hzone : (Span.centralClock 0).zone ∈ Zone.all := by decide
  have happly : apply (Span.centralClock 0).zone (.offset .day 1) 1729902600000 =
      .ok 1729992600000 := by decide +kernel
  obtain ⟨w, hshifted, hshows⟩ := (apply_wall_clock _ hzone).1 _ _ _ happly
    (Wall.ofDate ⟨2024, 10, 26⟩ 2 30) (by decide +kernel)
  have hw : w = Wall.ofDate ⟨2024, 10, 27⟩ 2 30 := hshifted.trans (by decide +kernel)
  subst hw
  -- The wall time is shown twice in October, far from the gap in March.
  have hgap : ¬ (Span.centralClock 0).zone.InGap (Wall.ofDate ⟨2024, 10, 27⟩ 2 30) := by
    rw [(Zone.regular_of_mem_all hzone).inGap_iff]
    rintro ⟨d, hd, hstart, hend⟩
    obtain rfl := Option.some.inj hd
    exact absurd hend (by decide +kernel)
  obtain ⟨hshown, hlatest⟩ := (hshows hgap).1 fun hskips =>
    hskips 1729992600000 (by decide +kernel)
  exact ⟨happly, hshown, hlatest (by decide +kernel)⟩

/-- **An offset does not always lead to an instant that shows the shifted wall time**, though it
succeeds and that is not in a gap: from half past midnight on the second day of all, a day earlier
is taken for half past one. -/
theorem not_apply_shows_shifted :
    ¬ ∀ (z : Zone) (period : Period) (amount : Int64) (t t' : Instant) (w w' : Wall),
      z ∈ Zone.all → inRange t = true → apply z (.offset period amount) t = .ok t' →
      z.toWall t = .ok w → Wall.Shifted period amount.toInt w w' → ¬ z.InGap w' →
      z.toWall t' = .ok w' := by
  intro hall
  have hzone : (Span.centralClock 0).zone ∈ Zone.all := by decide
  -- The shifted wall time is on the first day in range, in January.
  have hgap : ¬ (Span.centralClock 0).zone.InGap (-8334601227000000) := by
    rw [(Zone.regular_of_mem_all hzone).inGap_iff]
    rintro ⟨d, hd, hstart, hend⟩
    obtain rfl := Option.some.inj hd
    exact absurd hstart (by decide +kernel)
  have hshifted : Wall.Shifted .day (Int64.toInt (-1)) (-8334601140600000) (-8334601227000000) := by
    unfold Wall.Shifted
    decide +kernel
  have hshows := hall (Span.centralClock 0).zone .day (-1) (-8334601144200000) (-8334601227000000)
    (-8334601140600000) (-8334601227000000) hzone (by decide +kernel) (by decide +kernel)
    (by decide +kernel) hshifted hgap
  exact absurd hshows (by decide +kernel)

end Adjustment

end MetricSeries.Time
