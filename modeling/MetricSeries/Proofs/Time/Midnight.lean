import MetricSeries.Proofs.Time.ClockChanges

/-!
# The instant of a midnight

What a day needs is an instant before which clocks show earlier days and from which on they show
this day and later ones. `Zone.midnight` is a formula for it. In every zone whose clock changes are
regular, and all known zones are of that kind, it is the instant that is found for the midnight
(`Zone.Regular.toInstant_midnight`), and it separates what clocks show
(`Zone.Regular.midnight_le_iff`).

Where daylight time holds in the stretch before a midnight, the midnight is shown at the beginning
of the stretch (`le_iff_of_holds`); where it does not, the midnight is shown at the end, or clocks
are put forward over it then (`le_iff_of_not_holds`).
-/

namespace MetricSeries.Time

/-! ### Regular zones -/

/-- **A regular zone**: its offsets are less than a day, and its clock changes are regular. -/
structure Zone.Regular (z : Zone) : Prop where
  standard : -64800 ≤ z.standard ∧ z.standard ≤ 64800
  daylight : ∀ d ∈ z.daylight, d.Regular

/-- The known zones are regular. -/
theorem Zone.regular_of_mem_all {z : Zone} (h : z ∈ Zone.all) : z.Regular := by
  simp only [Zone.all, List.mem_cons, List.not_mem_nil, or_false] at h
  rcases h with rfl | rfl | rfl | rfl | rfl | rfl | rfl | rfl
  all_goals refine ⟨by decide, ?_⟩
  all_goals rintro d ⟨⟩
  all_goals constructor <;> decide

/-! ### The instant of a midnight -/

theorem inRange_iff {t : Int} : inRange t = true ↔ earliest ≤ t ∧ t ≤ latest := by
  unfold inRange
  simp

/-- **A day in range**: its midnight is two days and more away from the ends of the line of
instants. -/
structure DayInRange (day : Int) : Prop where
  low : earliest + 2 * dayMillis ≤ day * dayMillis
  high : day * dayMillis + 2 * dayMillis ≤ latest

namespace Zone

variable {z : Zone}

theorem toInstant_of_some {w : Wall} {offset : Int} (hoffset : z.offsetAtWall? w = some offset)
    (hrange : inRange (w - offset * 1000) = true) :
    z.toInstant w = .ok (w - offset * 1000) := by
  unfold toInstant instantOf?
  rw [hoffset, Option.bind_some, if_pos hrange]

theorem toInstant_of_none {w : Wall} {offset : Int} (hnone : z.offsetAtWall? w = none)
    (hwall : inRange (w + hourMillis) = true)
    (hoffset : z.offsetAtWall? (w + hourMillis) = some offset)
    (hrange : inRange (w + hourMillis - offset * 1000) = true) :
    z.toInstant w = .ok (w + hourMillis - offset * 1000) := by
  unfold toInstant instantOf?
  rw [hnone, Option.bind_none]
  dsimp only
  rw [if_pos hwall, hoffset, Option.bind_some, if_pos hrange]

theorem offsetAt_of_none (hdaylight : z.daylight = none) (t : Instant) :
    z.offsetAt t = z.standard := by
  unfold offsetAt
  rw [hdaylight]

theorem offsetAt_of_some {d : Daylight} (hdaylight : z.daylight = some d) (t : Instant) :
    z.offsetAt t =
      if holdsAt z.standard d (t / 1000) then z.standard + d.shift else z.standard := by
  unfold offsetAt
  rw [hdaylight]

theorem offsetAtWall?_of_none (hdaylight : z.daylight = none) (w : Wall) :
    z.offsetAtWall? w = some z.standard := by
  unfold offsetAtWall?
  rw [hdaylight]

theorem offsetAtWall?_of_some {d : Daylight} (hdaylight : z.daylight = some d) (w : Wall) :
    z.offsetAtWall? w = (shiftAtWall? d (w / 1000)).map (z.standard + ·) := by
  unfold offsetAtWall?
  rw [hdaylight]

/-- **The offset before a midnight**, that of the stretch before it. -/
def offsetBefore (z : Zone) (day : Int) : Int :=
  match z.daylight with
  | none => z.standard
  | some d => z.standard + d.shiftBefore day

theorem offsetBefore_of_none (hdaylight : z.daylight = none) (day : Int) :
    z.offsetBefore day = z.standard := by
  unfold offsetBefore
  rw [hdaylight]

theorem offsetBefore_of_some {d : Daylight} (hdaylight : z.daylight = some d) (day : Int) :
    z.offsetBefore day = z.standard + d.shiftBefore day := by
  unfold offsetBefore
  rw [hdaylight]

/-- **The instant of a midnight.** -/
def midnight (z : Zone) (day : Int) : Instant := day * dayMillis - z.offsetBefore day * 1000

/-- Where daylight time holds throughout the stretch before a midnight, clocks show the midnight at
the beginning of the stretch. -/
theorem le_iff_of_holds {d : Daylight} {day : Int} (hdaylight : z.daylight = some d)
    (hshift : 0 < d.shift)
    (hstretch : ∀ seconds, day * 86400 - d.shift ≤ seconds + z.standard →
      seconds + z.standard < day * 86400 → holdsAt z.standard d seconds = true) (t : Instant) :
    day * dayMillis - (z.standard + d.shift) * 1000 ≤ t ↔
      day * dayMillis ≤ t + z.offsetAt t * 1000 := by
  rw [offsetAt_of_some hdaylight]
  unfold Instant dayMillis at *
  by_cases hholds : holdsAt z.standard d (t / 1000) = true
  · rw [if_pos hholds]
    omega
  · rw [if_neg hholds]
    refine ⟨fun hle => ?_, fun hle => by omega⟩
    -- On standard time the instant is not before the midnight, or else it is in the stretch.
    by_contra hnot
    exact hholds (hstretch (t / 1000) (by omega) (by omega))

/-- Where daylight time holds nowhere in the stretch before a midnight, the midnight is not shown
before the end of the stretch. -/
theorem le_iff_of_not_holds {d : Daylight} {day : Int} (hdaylight : z.daylight = some d)
    (hshift : 0 < d.shift)
    (hstretch : ∀ seconds, day * 86400 - d.shift ≤ seconds + z.standard →
      seconds + z.standard < day * 86400 → ¬ holdsAt z.standard d seconds = true) (t : Instant) :
    day * dayMillis - z.standard * 1000 ≤ t ↔ day * dayMillis ≤ t + z.offsetAt t * 1000 := by
  rw [offsetAt_of_some hdaylight]
  unfold Instant dayMillis at *
  by_cases hholds : holdsAt z.standard d (t / 1000) = true
  · rw [if_pos hholds]
    refine ⟨fun hle => by omega, fun hle => ?_⟩
    -- On daylight time the instant is not before the end of the stretch, or else it is in it.
    by_contra hnot
    exact hstretch (t / 1000) (by omega) (by omega) hholds
  · rw [if_neg hholds]
    omega

namespace Regular

variable (h : z.Regular) {day : Int}

include h

/-- The offset of a zone at an instant is that of standard time or up to two hours ahead of it. -/
theorem offsetAt_mem (t : Instant) :
    z.standard ≤ z.offsetAt t ∧ z.offsetAt t ≤ z.standard + 7200 := by
  cases hdaylight : z.daylight with
  | none =>
    rw [offsetAt_of_none hdaylight]
    omega
  | some d =>
    have hshift := (h.daylight d hdaylight).shift
    rw [offsetAt_of_some hdaylight]
    split
    · omega
    · omega

theorem offsetBefore_mem (day : Int) :
    z.standard ≤ z.offsetBefore day ∧ z.offsetBefore day ≤ z.standard + 7200 := by
  cases hdaylight : z.daylight with
  | none =>
    rw [offsetBefore_of_none hdaylight]
    omega
  | some d =>
    have hshift := (h.daylight d hdaylight).shiftBefore_mem day
    rw [offsetBefore_of_some hdaylight]
    omega

/-- Whatever the offset, the instants of wall times around a midnight are in range with it. -/
theorem inRange_around (hday : DayInRange day) {w : Wall} {offset : Int}
    (hw : (day - 1) * dayMillis ≤ w ∧ w ≤ (day + 1) * dayMillis)
    (hoffset : z.standard ≤ offset ∧ offset ≤ z.standard + 7200) :
    inRange w = true ∧ inRange (w - offset * 1000) = true := by
  have hstandard := h.standard
  obtain ⟨hlow, hhigh⟩ := hday
  rw [inRange_iff, inRange_iff]
  unfold Wall dayMillis at *
  omega

/-- Around a midnight on standard time, the offset is that of daylight time where this holds by the
rules of the year of its day. -/
theorem offsetAt_around {d : Daylight} (hdaylight : z.daylight = some d) (day : Int) {t : Instant}
    {seconds : Int} (hseconds : t / 1000 + z.standard = seconds)
    (hstart : (day - 1) * 86400 ≤ seconds) (hend : seconds < (day + 1) * 86400) :
    z.offsetAt t = z.standard + if d.HoldsIn (yearOfDay day) seconds then d.shift else 0 := by
  subst hseconds
  rw [offsetAt_of_some hdaylight]
  simp only [(h.daylight d hdaylight).holdsAt_iff_around h.standard hstart hend]
  split
  · rfl
  · rw [Int.add_zero]

/-- **The instant of a midnight** is found with the offset before it. Where clocks are put forward
over the midnight, an hour later it is daylight time, and the instant is the same as if the midnight
had been shown on standard time. -/
theorem toInstant_midnight (hday : DayInRange day) :
    z.toInstant (day * dayMillis) = .ok (z.midnight day) := by
  unfold midnight
  have hrange : inRange (day * dayMillis - z.offsetBefore day * 1000) = true := by
    refine (h.inRange_around hday ⟨?_, ?_⟩ (h.offsetBefore_mem day)).2
    · exact Int.mul_le_mul_of_nonneg_right (by omega) (by decide)
    · exact Int.mul_le_mul_of_nonneg_right (by omega) (by decide)
  cases hdaylight : z.daylight with
  | none =>
    rw [offsetBefore_of_none hdaylight] at hrange ⊢
    exact toInstant_of_some (offsetAtWall?_of_none hdaylight _) hrange
  | some d =>
    -- Midnight is looked up at its own second, and if that is in a gap, an hour later.
    have hseconds : day * dayMillis / 1000 = day * 86400 := by
      unfold dayMillis
      omega
    have hlater : (day * dayMillis + hourMillis) / 1000 = day * 86400 + 3600 := by
      unfold dayMillis hourMillis
      omega
    rw [offsetBefore_of_some hdaylight] at hrange ⊢
    rcases (h.daylight d hdaylight).shiftAtWall?_midnight day with hfound | ⟨hfound, hzero, hnext⟩
    · refine toInstant_of_some ?_ hrange
      rw [offsetAtWall?_of_some hdaylight, hseconds, hfound, Option.map_some]
    · -- An hour later is on daylight time, an hour ahead of standard time, so the instant is that
      -- of midnight on standard time.
      have hnone : z.offsetAtWall? (day * dayMillis) = none := by
        rw [offsetAtWall?_of_some hdaylight, hseconds, hfound, Option.map_none]
      have hoffset : z.offsetAtWall? (day * dayMillis + hourMillis) =
          some (z.standard + 3600) := by
        rw [offsetAtWall?_of_some hdaylight, hlater, hnext, Option.map_some]
      have heq : day * dayMillis + hourMillis - (z.standard + 3600) * 1000 =
          day * dayMillis - (z.standard + d.shiftBefore day) * 1000 := by
        unfold hourMillis
        omega
      rw [← heq] at hrange ⊢
      have hwall : inRange (day * dayMillis + hourMillis) = true := by
        refine (h.inRange_around hday ?_ (h.offsetBefore_mem day)).1
        unfold Wall dayMillis hourMillis
        omega
      exact toInstant_of_none hnone hwall hoffset hrange

/-- **A midnight separates instants**: clocks show earlier days before its instant, and this day or
later ones from then on. -/
theorem midnight_le_iff (day : Int) (t : Instant) :
    z.midnight day ≤ t ↔ day * dayMillis ≤ t + z.offsetAt t * 1000 := by
  unfold midnight
  cases hdaylight : z.daylight with
  | none =>
    rw [offsetBefore_of_none hdaylight, offsetAt_of_none hdaylight]
    unfold Instant
    omega
  | some d =>
    have hregular := h.daylight d hdaylight
    have hshift := hregular.shift
    -- Daylight time holds throughout the stretch or nowhere in it.
    have hstretch : ∀ seconds, day * 86400 - d.shift ≤ seconds + z.standard →
        seconds + z.standard < day * 86400 → (holdsAt z.standard d seconds = true ↔
          d.HoldsIn (yearOfDay day) (day * 86400 - d.shift)) := by
      intro seconds hstart hend
      rw [hregular.holdsAt_iff_around h.standard
          (show (day - 1) * 86400 ≤ seconds + z.standard by omega) (by omega),
        hregular.holdsIn_iff_of_stretch _ hstart hend]
    rw [offsetBefore_of_some hdaylight]
    unfold Daylight.shiftBefore
    by_cases hholds : d.HoldsIn (yearOfDay day) (day * 86400 - d.shift)
    · rw [if_pos hholds]
      exact le_iff_of_holds hdaylight hshift.1
        (fun seconds hstart hend => (hstretch seconds hstart hend).mpr hholds) t
    · rw [if_neg hholds, Int.add_zero]
      exact le_iff_of_not_holds hdaylight hshift.1
        (fun seconds hstart hend hat => hholds ((hstretch seconds hstart hend).mp hat)) t

/-- The offsets before two midnights differ by two hours at most, so that a day has at least 22. -/
theorem midnight_succ (day : Int) : z.midnight day + 22 * hourMillis ≤ z.midnight (day + 1) := by
  have hoffset := h.offsetBefore_mem day
  have hoffset' := h.offsetBefore_mem (day + 1)
  unfold midnight Instant dayMillis hourMillis
  omega

end Regular

end Zone

end MetricSeries.Time
