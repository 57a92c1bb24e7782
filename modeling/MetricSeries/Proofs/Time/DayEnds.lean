import MetricSeries.Proofs.Time.Day

/-!
# The two ends of a day

At the last instant of a day clocks show its last millisecond, and at the first instant they show
its midnight, unless that is skipped: then they show one o'clock. The other way round, the last
millisecond of a day belongs to its last instant; and in the zones that skip midnights, one o'clock
belongs to the first instant of a day whose midnight is skipped, and to the instant an hour later on
any other day.
-/

namespace MetricSeries.Time

namespace Zone

variable {z : Zone} {day : Int}

/-- **A wall time is skipped** when clocks never show it. -/
def Skips (z : Zone) (w : Wall) : Prop := ∀ t, z.toWall t ≠ .ok w

theorem midnight_of_some {d : Daylight} (hdaylight : z.daylight = some d) (day : Int) :
    z.midnight day = (day * 86400 - d.shiftBefore day - z.standard) * 1000 := by
  unfold midnight
  rw [offsetBefore_of_some hdaylight]
  unfold Instant dayMillis
  omega

namespace Regular

variable (h : z.Regular)

include h

/-! ### The last instant -/

theorem offsetAt_midnight_sub_one (day : Int) :
    z.offsetAt (z.midnight day - 1) = z.offsetBefore day := by
  cases hdaylight : z.daylight with
  | none => rw [offsetAt_of_none hdaylight, offsetBefore_of_none hdaylight]
  | some d =>
    have hregular := h.daylight d hdaylight
    have hshift := hregular.shiftBefore_mem day
    -- Read on standard time, the second before midnight is earlier by the shift that is in force
    -- there.
    have hseconds : (z.midnight day - 1) / 1000 + z.standard =
        day * 86400 - 1 - d.shiftBefore day := by
      rw [midnight_of_some hdaylight]
      unfold Instant
      omega
    rw [h.offsetAt_around hdaylight day hseconds (by omega) (by omega),
      offsetBefore_of_some hdaylight]
    simp only [hregular.holdsIn_before_midnight_iff day]
    rfl

/-- **At the last instant before a midnight** clocks show the last millisecond before it. -/
theorem toWall_midnight_sub_one (hday : DayInRange day) :
    z.toWall (z.midnight day - 1) = .ok (day * dayMillis - 1) := by
  refine h.toWall_around hday ?_ ?_
  · rw [h.offsetAt_midnight_sub_one]
    unfold midnight Instant Wall
    omega
  · unfold Wall dayMillis
    omega

/-- **The last millisecond before a midnight** belongs to the last instant before it. -/
theorem toInstant_midnight_sub_one (hday : DayInRange day) :
    z.toInstant (day * dayMillis - 1) = .ok (z.midnight day - 1) := by
  have heq : day * dayMillis - 1 - z.offsetBefore day * 1000 = z.midnight day - 1 := by
    unfold midnight Instant
    omega
  have hrange : inRange (day * dayMillis - 1 - z.offsetBefore day * 1000) = true := by
    refine (h.inRange_around hday ?_ (h.offsetBefore_mem day)).2
    unfold Wall dayMillis
    omega
  -- The last second of a day is in no gap, so it is found at the first lookup.
  have hoffset : z.offsetAtWall? (day * dayMillis - 1) = some (z.offsetBefore day) := by
    cases hdaylight : z.daylight with
    | none => rw [offsetAtWall?_of_none hdaylight, offsetBefore_of_none hdaylight]
    | some d =>
      have hseconds : (day * dayMillis - 1) / 1000 = day * 86400 - 1 := by
        unfold dayMillis
        omega
      rw [offsetAtWall?_of_some hdaylight, hseconds,
        (h.daylight d hdaylight).shiftAtWall?_before_midnight, offsetBefore_of_some hdaylight,
        Option.map_some]
  rw [← heq]
  exact toInstant_of_some hoffset hrange

/-! ### The first instant -/

/-- What clocks show at the instant of a midnight, where daylight time does not begin then. -/
theorem toWall_midnight_of_ne (hday : DayInRange day)
    (hbegins : ∀ d ∈ z.daylight, d.begins.inYear (yearOfDay day) ≠ day * 86400) :
    z.toWall (z.midnight day) = .ok (day * dayMillis) := by
  -- Only where daylight time begins at midnight does the offset change with it.
  have hoffset : z.offsetAt (z.midnight day) = z.offsetBefore day := by
    cases hdaylight : z.daylight with
    | none => rw [offsetAt_of_none hdaylight, offsetBefore_of_none hdaylight]
    | some d =>
      have hregular := h.daylight d hdaylight
      have hshift := hregular.shiftBefore_mem day
      have hseconds : z.midnight day / 1000 + z.standard = day * 86400 - d.shiftBefore day := by
        rw [midnight_of_some hdaylight]
        unfold Instant
        omega
      rw [h.offsetAt_around hdaylight day hseconds (by omega) (by omega),
        offsetBefore_of_some hdaylight]
      simp only [hregular.holdsIn_at_midnight_iff (hbegins d hdaylight)]
      rfl
  refine h.toWall_around hday ?_ ?_
  · rw [hoffset]
    unfold midnight
    exact Int.sub_add_cancel _ _
  · unfold Wall dayMillis
    omega

/-- Where daylight time begins at a midnight, clocks show one o'clock instead. -/
theorem toWall_midnight_of_eq (hday : DayInRange day) {d : Daylight}
    (hdaylight : z.daylight = some d) (hbegins : d.begins.inYear (yearOfDay day) = day * 86400) :
    z.Skips (day * dayMillis) ∧ z.toWall (z.midnight day) = .ok (day * dayMillis + hourMillis) := by
  have hregular := h.daylight d hdaylight
  obtain ⟨hafter, hnot⟩ := hregular.holdsIn_of_begins hbegins
  obtain ⟨-, hshift⟩ := hregular.hour_of_begins hbegins
  have hbefore : d.shiftBefore day = 0 := if_neg hnot
  refine ⟨?_, ?_⟩
  · -- Clocks would show the midnight on standard time, when daylight time holds already, or on
    -- daylight time, when it does not hold yet.
    intro t ht
    obtain ⟨-, -, hwall⟩ := Zone.toWall_eq_ok_iff.mp ht
    have hmem := h.offsetAt_mem t
    have hseconds : t / 1000 + z.standard = day * 86400 - (z.offsetAt t - z.standard) := by
      unfold Instant Wall dayMillis at *
      omega
    have hoffset := h.offsetAt_around hdaylight day hseconds (by omega) (by omega)
    by_cases hholds : d.HoldsIn (yearOfDay day) (day * 86400 - (z.offsetAt t - z.standard))
    · rw [if_pos hholds] at hoffset
      have heq : day * 86400 - (z.offsetAt t - z.standard) = day * 86400 - d.shift := by omega
      rw [heq] at hholds
      exact hnot hholds
    · rw [if_neg hholds] at hoffset
      exact hholds (hafter _ (by omega) (by omega))
  · have hseconds : z.midnight day / 1000 + z.standard = day * 86400 := by
      rw [midnight_of_some hdaylight, hbefore]
      unfold Instant
      omega
    refine h.toWall_around hday ?_ ?_
    · rw [h.offsetAt_around hdaylight day hseconds (by omega) (by omega),
        if_pos (hafter _ (by omega) (by omega)), midnight_of_some hdaylight, hbefore]
      unfold Instant dayMillis hourMillis
      omega
    · unfold Wall dayMillis hourMillis
      omega

/-- A midnight is skipped where daylight time begins then, and shown anywhere else. -/
theorem skips_midnight_iff (hday : DayInRange day) :
    z.Skips (day * dayMillis) ↔
      ∃ d, z.daylight = some d ∧ d.begins.inYear (yearOfDay day) = day * 86400 := by
  refine ⟨fun hskips => ?_, ?_⟩
  · -- A midnight that daylight time does not begin at is shown by the instant that it belongs to.
    by_contra hnot
    refine hskips _ (h.toWall_midnight_of_ne hday fun d hd hbegins => ?_)
    exact hnot ⟨d, hd, hbegins⟩
  · rintro ⟨d, hdaylight, hbegins⟩
    exact (h.toWall_midnight_of_eq hday hdaylight hbegins).1

/-- **At the first instant of a day** clocks show its midnight. -/
theorem toWall_midnight_of_not_skips (hday : DayInRange day)
    (hshown : ¬ z.Skips (day * dayMillis)) :
    z.toWall (z.midnight day) = .ok (day * dayMillis) := by
  refine h.toWall_midnight_of_ne hday fun d hd hbegins => hshown ?_
  exact (h.skips_midnight_iff hday).mpr ⟨d, hd, hbegins⟩

/-- At the first instant of a day whose midnight is skipped, clocks show one o'clock. -/
theorem toWall_midnight_of_skips (hday : DayInRange day) (hskips : z.Skips (day * dayMillis)) :
    z.toWall (z.midnight day) = .ok (day * dayMillis + hourMillis) := by
  obtain ⟨d, hdaylight, hbegins⟩ := (h.skips_midnight_iff hday).mp hskips
  exact (h.toWall_midnight_of_eq hday hdaylight hbegins).2

/-- **One o'clock in a zone that skips midnights** belongs to the first instant of a day whose
midnight is skipped, and to the instant an hour after the midnight of any other day. -/
theorem toInstant_one_o_clock {skipped : Int} (hskipped : DayInRange skipped)
    (hskips : z.Skips (skipped * dayMillis)) (hday : DayInRange day) :
    (z.Skips (day * dayMillis) →
      z.toInstant (day * dayMillis + hourMillis) = .ok (z.midnight day)) ∧
    (¬ z.Skips (day * dayMillis) →
      z.toInstant (day * dayMillis + hourMillis) = .ok (z.midnight day + hourMillis)) := by
  obtain ⟨d, hdaylight, hbegins⟩ := (h.skips_midnight_iff hskipped).mp hskips
  have hregular := h.daylight d hdaylight
  obtain ⟨hhour, hshift⟩ := hregular.hour_of_begins hbegins
  have hseconds : (day * dayMillis + hourMillis) / 1000 = day * 86400 + 3600 := by
    unfold dayMillis hourMillis
    omega
  have hfound := hregular.shiftAtWall?_one_o_clock hhour day
  have hinRange : ∀ shift : Int, 0 ≤ shift → shift ≤ 7200 →
      inRange (day * dayMillis + hourMillis - (z.standard + shift) * 1000) = true := by
    intro shift hlow hhigh
    refine (h.inRange_around hday ?_ ⟨by omega, by omega⟩).2
    unfold Wall dayMillis hourMillis
    omega
  have hiff : z.Skips (day * dayMillis) ↔ d.begins.inYear (yearOfDay day) = day * 86400 := by
    rw [h.skips_midnight_iff hday, hdaylight]
    simp
  have hoffset : ∀ shift, shiftAtWall? d (day * 86400 + 3600) = some shift →
      z.offsetAtWall? (day * dayMillis + hourMillis) = some (z.standard + shift) := by
    intro shift hsome
    rw [offsetAtWall?_of_some hdaylight, hseconds, hsome, Option.map_some]
  -- One o'clock is looked up with the shift of daylight time on the one kind of day, and with that
  -- before the midnight on the other.
  refine ⟨fun hskipsDay => ?_, fun hshown => ?_⟩
  · -- Daylight time has begun, so that the hour is taken back.
    have hbegins' := hiff.mp hskipsDay
    have hbefore : d.shiftBefore day = 0 := if_neg (hregular.holdsIn_of_begins hbegins').2
    rw [if_pos hbegins'] at hfound
    rw [toInstant_of_some (hoffset _ hfound) (hinRange _ (by omega) (by omega)),
      midnight_of_some hdaylight, hbefore]
    congr 1
    unfold Instant dayMillis hourMillis
    omega
  · have hshift' := hregular.shiftBefore_mem day
    rw [if_neg fun hbegins' => hshown (hiff.mpr hbegins')] at hfound
    rw [toInstant_of_some (hoffset _ hfound) (hinRange _ hshift'.1 hshift'.2),
      midnight_of_some hdaylight]
    congr 1
    unfold Instant dayMillis hourMillis
    omega

end Regular

end Zone

end MetricSeries.Time
