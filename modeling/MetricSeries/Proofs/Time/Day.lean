import MetricSeries.Proofs.Fallible
import MetricSeries.Proofs.Time.Midnight
import MetricSeries.Proofs.Time.Readings
import MetricSeries.Time.Span

/-!
# The span of a day

A text that names a date is resolved to the instants at which the clocks of the zone show that date,
all of them and no others (`Span.parse_date_spec`). The span runs from the instant of the day's
midnight to the last one before the instant of the next midnight, and each of the two instants
separates what clocks show before and after it (`Zone.Regular.midnight_le_iff`); so days
of 23 and 25 hours and days that start at one o'clock need no case of their own.

As the span of a day ends where that of the next one starts, the spans of consecutive dates cover
the line of instants without gaps and overlaps.
-/

namespace MetricSeries.Time

open Fallible

variable {z : Zone} {d : Date} {cs : List Char}

/-! ### The instants of a day -/

/-- The days of the years of four digits are far from the ends of the line of instants. -/
theorem toDay_bounds (hvalid : d.Valid) (hyear : 0 ≤ d.year ∧ d.year ≤ 9999) :
    -719528 ≤ d.toDay ∧ d.toDay < 2932897 := by
  obtain ⟨hstart, hend⟩ := hvalid.toDay_mem
  have hfirst : yearStart 0 ≤ yearStart d.year :=
    yearStart_le_iff.mpr hyear.1
  have hlast : yearStart (d.year + 1) ≤ yearStart 10000 :=
    yearStart_le_iff.mpr (by omega)
  have hvalues : yearStart 0 = -719528 ∧ yearStart 10000 = 2932897 := by decide
  omega

theorem dayInRange (hvalid : d.Valid) (hyear : 0 ≤ d.year ∧ d.year ≤ 9999) :
    DayInRange d.toDay ∧ DayInRange (d.toDay + 1) := by
  obtain ⟨hlow, hhigh⟩ := toDay_bounds hvalid hyear
  have hrange : ∀ day : Int, -719528 ≤ day → day ≤ 2932897 → DayInRange day := by
    intro day hle hge
    constructor
    · unfold earliest dayMillis
      omega
    · unfold latest dayMillis
      omega
  exact ⟨hrange _ (by omega) (by omega), hrange _ (by omega) (by omega)⟩

theorem Wall.ofDate_midnight (d : Date) : Wall.ofDate d 0 0 = d.toDay * dayMillis := by
  unfold Wall.ofDate
  simp

/-- Clocks show a date when what they show is of its day. -/
theorem Wall.date_eq_iff {w : Wall} (hvalid : d.Valid) :
    Wall.date w = d ↔ d.toDay * dayMillis ≤ w ∧ w < (d.toDay + 1) * dayMillis := by
  unfold Wall.date Wall.day
  rw [Date.ofDay_eq_iff hvalid]
  unfold dayMillis Wall at *
  omega

/-- What clocks show at an instant, where both are in range. -/
theorem Zone.toWall_eq_ok_iff {t : Instant} {w : Wall} : z.toWall t = .ok w ↔
    inRange t = true ∧ inRange (t + z.offsetAt t * 1000) = true ∧
      w = t + z.offsetAt t * 1000 := by
  unfold Zone.toWall
  dsimp only
  -- The instant is checked before what clocks show at it.
  by_cases hrange : inRange t = true
  · rw [if_pos hrange]
    by_cases hwall : inRange (t + z.offsetAt t * 1000) = true
    · rw [if_pos hwall]
      simp [hrange, hwall, eq_comm]
    · rw [if_neg hwall]
      simp [hwall]
  · rw [if_neg hrange]
    simp [hrange]

/-- What clocks show around a midnight is in range, and the instant with it. -/
theorem Zone.Regular.toWall_around (hz : z.Regular) {day : Int} (hday : DayInRange day)
    {t : Instant} {w : Wall} (hshown : t + z.offsetAt t * 1000 = w)
    (hw : (day - 1) * dayMillis ≤ w ∧ w ≤ (day + 1) * dayMillis) : z.toWall t = .ok w := by
  obtain ⟨hwall, hinstant⟩ := hz.inRange_around hday hw (hz.offsetAt_mem t)
  subst hshown
  rw [Int.add_sub_cancel] at hinstant
  exact Zone.toWall_eq_ok_iff.mpr ⟨hinstant, hwall, rfl⟩

/-- **Clocks show a date from its midnight until the next one**, and at no other instant. -/
theorem Zone.Regular.mem_day_iff (hz : z.Regular) (hvalid : d.Valid)
    (hyear : 0 ≤ d.year ∧ d.year ≤ 9999) (t : Instant) :
    (z.midnight d.toDay ≤ t ∧ t ≤ z.midnight (d.toDay + 1) - 1) ↔
      ∃ w, z.toWall t = .ok w ∧ Wall.date w = d := by
  obtain ⟨hday, -⟩ := dayInRange hvalid hyear
  have hwithin : (z.midnight d.toDay ≤ t ∧ t ≤ z.midnight (d.toDay + 1) - 1) ↔
      d.toDay * dayMillis ≤ t + z.offsetAt t * 1000 ∧
        t + z.offsetAt t * 1000 < (d.toDay + 1) * dayMillis := by
    have hnext : t ≤ z.midnight (d.toDay + 1) - 1 ↔ ¬ z.midnight (d.toDay + 1) ≤ t := by
      unfold Instant at *
      omega
    rw [hz.midnight_le_iff, hnext, hz.midnight_le_iff, Int.not_le]
  rw [hwithin]
  refine ⟨fun hwall => ?_, ?_⟩
  · -- What clocks show is on the day, so that it is in range, and the instant with it.
    have hbefore : (d.toDay - 1) * dayMillis ≤ d.toDay * dayMillis :=
      Int.mul_le_mul_of_nonneg_right (by omega) (by decide)
    obtain ⟨hshown, hrange⟩ := hz.inRange_around hday
      ⟨hbefore.trans hwall.1, hwall.2.le⟩ (hz.offsetAt_mem t)
    rw [Int.add_sub_cancel] at hrange
    exact ⟨_, Zone.toWall_eq_ok_iff.mpr ⟨hrange, hshown, rfl⟩,
      (Wall.date_eq_iff hvalid).mpr hwall⟩
  · rintro ⟨w, hw, hdate⟩
    obtain ⟨-, -, rfl⟩ := Zone.toWall_eq_ok_iff.mp hw
    exact (Wall.date_eq_iff hvalid).mp hdate

/-- A day is resolved to the span between two midnights. -/
theorem Span.ofDay_eq (hz : z.Regular) (hvalid : d.Valid) (hyear : 0 ≤ d.year ∧ d.year ≤ 9999) :
    Span.ofDay z d = .ok ⟨none, String.ofList d.chars, z.midnight d.toDay,
      z.midnight (d.toDay + 1) - 1, .day⟩ := by
  obtain ⟨hday, hnext⟩ := dayInRange hvalid hyear
  have hmidnight : d.toDay * dayMillis + dayMillis = (d.toDay + 1) * dayMillis := by
    rw [Int.add_mul, Int.one_mul]
  unfold Span.ofDay
  rw [Wall.ofDate_midnight, hz.toInstant_midnight hday, ok_bind, hmidnight,
    hz.toInstant_midnight hnext]
  rfl

/-- **A day is the span between two midnights**, and clocks show its date in that span only. -/
theorem Span.exists_ofDay (hz : z.Regular) (hvalid : d.Valid)
    (hyear : 0 ≤ d.year ∧ d.year ≤ 9999) :
    ∃ s, Span.ofDay z d = .ok s ∧ s.granularity = .day ∧
      z.toInstant (d.toDay * dayMillis) = .ok s.first ∧
      z.toInstant ((d.toDay + 1) * dayMillis) = .ok (s.last + 1) ∧ s.first ≤ s.last ∧
      ∀ t, (s.first ≤ t ∧ t ≤ s.last) ↔ ∃ w, z.toWall t = .ok w ∧ Wall.date w = d := by
  obtain ⟨hday, hnext⟩ := dayInRange hvalid hyear
  refine ⟨_, Span.ofDay_eq hz hvalid hyear, rfl, hz.toInstant_midnight hday, ?_, ?_,
    hz.mem_day_iff hvalid hyear⟩
  · rw [hz.toInstant_midnight hnext]
    show _ = Except.ok (z.midnight (d.toDay + 1) - 1 + 1)
    rw [Int.sub_add_cancel]
  · -- A day is never shorter than some hours, so that it is not empty.
    have hlong := hz.midnight_succ d.toDay
    show z.midnight d.toDay ≤ z.midnight (d.toDay + 1) - 1
    unfold Instant hourMillis at *
    omega

/-! ### The span of a text -/

/-- A text is resolved by what it says. -/
theorem Span.parse_of_reading {clock : Clock} {text : String} {reading : Reading}
    (h : Reading.ofChars? (Text.trim text.toList) = some reading) :
    Span.parse clock text = Span.resolve clock (Text.trimmed text) reading := by
  have hne : (Text.trim text.toList).isEmpty = false := by
    rw [List.isEmpty_eq_false_iff]
    intro hnil
    rw [hnil] at h
    cases h
  unfold Span.parse
  dsimp only
  rw [hne, h]
  rfl

/-- A text of a date is resolved to the span of the day. -/
theorem Span.parse_of_date {clock : Clock} {text : String}
    (h : Date.ofChars? (Text.trim text.toList) = some d) :
    Span.parse clock text = Span.ofDay clock.zone d :=
  Span.parse_of_reading (Reading.ofChars?_of_date h)

/-- **The meaning of a date.** In every zone, a text that names a date is resolved to a span, which
is not empty, and in which an instant lies exactly when the clocks of the zone show the date then.
The span of the next date starts right behind it. -/
theorem Span.parse_date_spec (clock : Clock) (text : String) (d : Date)
    (hzone : clock.zone ∈ Zone.all) (htext : Date.ofChars? (Text.trim text.toList) = some d) :
    ∃ s, Span.parse clock text = .ok s ∧ s.granularity = .day ∧ s.first ≤ s.last ∧
      (∀ t, (s.first ≤ t ∧ t ≤ s.last) ↔
        ∃ w, clock.zone.toWall t = .ok w ∧ Wall.date w = d) ∧
      ∀ text' d', Date.ofChars? (Text.trim text'.toList) = some d' → d'.toDay = d.toDay + 1 →
        ∃ s', Span.parse clock text' = .ok s' ∧ s'.first = s.last + 1 := by
  have hz := Zone.regular_of_mem_all hzone
  obtain ⟨hvalid, hyear⟩ := Date.bounds_of_ofChars? htext
  obtain ⟨s, hs, hgranularity, -, hnext, hordered, hdate⟩ := Span.exists_ofDay hz hvalid hyear
  rw [← Span.parse_of_date htext] at hs
  refine ⟨s, hs, hgranularity, hordered, hdate, fun text' d' htext' hsucc => ?_⟩
  -- The next day starts with the instant of the midnight that ends this one.
  obtain ⟨hvalid', hyear'⟩ := Date.bounds_of_ofChars? htext'
  obtain ⟨s', hs', -, hfirst', -⟩ := Span.exists_ofDay hz hvalid' hyear'
  rw [← Span.parse_of_date htext'] at hs'
  rw [hsucc] at hfirst'
  exact ⟨s', hs', Except.ok.inj (hfirst'.symm.trans hnext)⟩

/-- A clock in the zone that changes its clocks at midnight. -/
def midnightClock : Clock where
  zone := ⟨"<-03>3<-02>,M10.3.0/0,M2.3.0/0", -10800,
    some ⟨3600, ⟨10, .third, 0⟩, ⟨2, .third, 0⟩⟩⟩
  now := 0

/-- The day on which clocks are put forward over its own midnight has 23 hours. -/
theorem Span.parse_date_spec_midnight :
    (∃ s, Span.parse midnightClock " 2024-10-20" = .ok s ∧ s.last + 1 - s.first = 23 * hourMillis ∧
      ∀ t, (s.first ≤ t ∧ t ≤ s.last) ↔
        ∃ w, midnightClock.zone.toWall t = .ok w ∧ Wall.date w = ⟨2024, 10, 20⟩) ∧
    ∃ s', Span.parse midnightClock "2024-10-21" = .ok s' ∧ s'.first = 1729476000000 := by
  have hspan : Span.parse midnightClock " 2024-10-20" =
      .ok ⟨none, "2024-10-20", 1729393200000, 1729475999999, .day⟩ := by decide +kernel
  obtain ⟨s, hs, -, -, hdate, hnext⟩ := Span.parse_date_spec midnightClock " 2024-10-20"
    ⟨2024, 10, 20⟩ (by decide +kernel) (by decide +kernel)
  obtain rfl := Except.ok.inj (hspan.symm.trans hs)
  refine ⟨⟨_, hs, by decide, hdate⟩, ?_⟩
  exact hnext "2024-10-21" ⟨2024, 10, 21⟩ (by decide +kernel) (by decide)

end MetricSeries.Time
