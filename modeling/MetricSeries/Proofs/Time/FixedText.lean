import MetricSeries.Proofs.Time.LocalTime
import MetricSeries.Proofs.Time.Shifting
import MetricSeries.Proofs.Time.Spelling

/-!
# Fixed texts

The fixed text of a span is what clocks show at its first instant, to the minute or to the day. It
is resolved to the same span again at whatever time (`Span.parse_fixed`): the span starts where a
wall time stands for, and what clocks show then stands for the same instant
(`Zone.Regular.toInstant_wallAt_of_toInstant`).

Only a text that moves the clock can lead to an instant that no wall time stands for, the first one
of two at which clocks show the same. Its fixed text is resolved to the second one.
-/

namespace MetricSeries.Time

open Fallible

variable {z : Zone} {d : Date} {t : TimeOfDay} {w : Wall}

/-! ### Whole minutes -/

theorem Wall.ofDate_minutes (d : Date) (hour minute : Nat) :
    Wall.ofDate d hour minute % minuteMillis = 0 := by
  unfold ofDate minuteMillis dayMillis hourMillis Wall
  omega

/-- A wall time in whole minutes is made up of its date, its hour and its minute. -/
theorem Wall.ofDate_date (hminutes : w % minuteMillis = 0) :
    Wall.ofDate (date w) (hour w) (minute w) = w := by
  unfold ofDate date hour minute millisOfDay
  rw [Date.toDay_ofDay]
  unfold day minuteMillis hourMillis dayMillis Wall at *
  omega

/-- The time of day of a wall time. -/
def Wall.timeOfDay (w : Wall) : TimeOfDay := ⟨hour w, minute w⟩

theorem Wall.valid_timeOfDay (w : Wall) : (timeOfDay w).Valid := by
  unfold TimeOfDay.Valid timeOfDay hour minute millisOfDay dayMillis
  dsimp only
  omega

theorem Wall.minuteText_eq (w : Wall) :
    minuteText w = String.ofList ((date w).charsAt (timeOfDay w)) := rfl

/-- The text of a date with a time of day is that of its wall time. -/
theorem Wall.minuteText_ofDate (hvalid : d.Valid) (ht : t.Valid) :
    minuteText (ofDate d t.hour t.minute) = String.ofList (d.charsAt t) := by
  obtain ⟨hhour, hminute⟩ := ht
  -- The text is written from the date and the time of day, which are those that the wall time was
  -- made of.
  have hdate : date (ofDate d t.hour t.minute) = d := by
    rw [date_eq_iff hvalid]
    unfold ofDate dayMillis hourMillis minuteMillis Wall
    omega
  have htime : timeOfDay (ofDate d t.hour t.minute) = t := by
    unfold timeOfDay hour minute millisOfDay ofDate dayMillis hourMillis minuteMillis
    cases t
    dsimp only at *
    congr 1
    · omega
    · omega
  rw [minuteText_eq, hdate, htime]

namespace Span

variable {clock clock' : Clock} {text : String} {reading : Reading} {s : Span} {first : Instant}
  {relative : Option String}

/-! ### Resolving -/

theorem ofMinute_eq_ok_iff : ofMinute z first relative = .ok s ↔
    ∃ w, z.toWall first = .ok w ∧
      ⟨relative, Wall.minuteText w, first, first + minuteMillis - 1, .minute⟩ = s := by
  unfold ofMinute
  rw [bind_eq_ok_iff]
  simp only [pure_eq_ok, Except.ok.injEq]

/-- **The text of a minute** is resolved to the minute at the instant that it stands for. -/
theorem parse_minuteText (hminutes : w % minuteMillis = 0)
    (hyear : 0 ≤ (Wall.date w).year ∧ (Wall.date w).year ≤ 9999)
    (hfirst : clock.zone.toInstant w = .ok first) (hw : clock.zone.toWall first = .ok w) :
    parse clock (Wall.minuteText w) =
      .ok ⟨none, Wall.minuteText w, first, first + minuteMillis - 1, .minute⟩ := by
  -- The written text is a date and a time, and it has no blank space to lose.
  have hreading : Reading.ofChars? (Text.trim (Wall.minuteText w).toList) =
      some (.dateTime (Wall.date w) (Wall.timeOfDay w)) := by
    rw [Wall.minuteText_eq, String.toList_ofList, (Date.trimmed_charsAt hyear _).trim_eq]
    exact Reading.ofChars?_charsAt (Wall.valid_date w) hyear (Wall.valid_timeOfDay w)
  rw [parse_of_reading hreading]
  unfold resolve
  dsimp only [Wall.timeOfDay]
  rw [Wall.ofDate_date hminutes, hfirst, ok_bind]
  exact ofMinute_eq_ok_iff.mpr ⟨w, hw, rfl⟩

/-- **The minute that a typed wall time stands for** is what its fixed text is resolved to, and
unless the typed wall time is skipped, it is what the fixed text shows. -/
theorem parse_fixed_of_typed {typed : Wall} (hzone : clock.zone ∈ Zone.all)
    (hsame : clock'.zone = clock.zone) (htyped : typed % minuteMillis = 0)
    (hinstant : clock.zone.toInstant typed = .ok first)
    (hs : ofMinute clock.zone first relative = .ok s) (hw : clock.zone.toWall s.first = .ok w)
    (hyear : 0 ≤ (Wall.date w).year ∧ (Wall.date w).year ≤ 9999) :
    parse clock' s.fixed = .ok { s with relative := none } ∧
      (¬ clock.zone.Skips typed → s.fixed = Wall.minuteText typed) := by
  have hz := Zone.regular_of_mem_all hzone
  obtain ⟨w', hw', rfl⟩ := ofMinute_eq_ok_iff.mp hs
  obtain rfl := Except.ok.inj (hw.symm.trans hw')
  have hminutes : w % minuteMillis = 0 :=
    (Zone.mod_of_toWall hzone hw).trans ((Zone.mod_of_toInstant hzone hinstant).trans htyped)
  refine ⟨?_, fun hshown => ?_⟩
  · obtain ⟨-, -, hwall⟩ := Zone.toWall_eq_ok_iff.mp hw
    -- The fixed text names what clocks show at the instant, and the same instant is found for it.
    refine parse_minuteText hminutes hyear ?_ ?_
    · rw [hsame, hwall]
      exact hz.toInstant_wallAt_of_toInstant hinstant
    · rw [hsame]
      exact hw
  · exact congrArg Wall.minuteText (hz.eq_of_not_skips hyear hinstant hw hshown)

/-- **The minute to which the clock is moved** is what its fixed text is resolved to, unless clocks
show the same again after it: then that is what the fixed text is resolved to. -/
theorem parse_fixed_of_now (hzone : clock.zone ∈ Zone.all) (hsame : clock'.zone = clock.zone)
    (hfirst : first % minuteMillis = 0) (hs : ofMinute clock.zone first relative = .ok s)
    (hw : clock.zone.toWall s.first = .ok w)
    (hyear : 0 ≤ (Wall.date w).year ∧ (Wall.date w).year ≤ 9999) :
    (¬ clock.zone.ShownAgain s.first → parse clock' s.fixed = .ok { s with relative := none }) ∧
    (clock.zone.ShownAgain s.first → ∃ d, clock.zone.daylight = some d ∧ 0 < d.shift ∧
      parse clock' s.fixed = .ok { s with
        relative := none
        first := s.first + d.shift * 1000
        last := s.last + d.shift * 1000 }) := by
  have hz := Zone.regular_of_mem_all hzone
  obtain ⟨w', hw', rfl⟩ := ofMinute_eq_ok_iff.mp hs
  obtain rfl := Except.ok.inj (hw.symm.trans hw')
  have hminutes : w % minuteMillis = 0 := (Zone.mod_of_toWall hzone hw).trans hfirst
  refine ⟨fun hnot => ?_, fun hagain => ?_⟩
  · -- Shown once, the wall time leads back to the instant.
    refine parse_minuteText hminutes hyear ?_ ?_
    · rw [hsame]
      exact hz.toInstant_of_not_shownAgain hyear hw hnot
    · rw [hsame]
      exact hw
  · -- Shown again, it leads to the later instant, on standard time.
    obtain ⟨d, hdaylight, hlater, hshown⟩ := hz.toInstant_of_shownAgain hw hagain
    refine ⟨d, hdaylight, (hz.daylight d hdaylight).shift.1, ?_⟩
    rw [← hsame] at hlater hshown
    rw [parse_minuteText hminutes hyear hlater hshown]
    dsimp only
    congr 2
    unfold Instant minuteMillis
    omega

theorem minutes_of_startOfNow? {now : Instant} {offset : Int} (hoffset : offset % minuteMillis = 0)
    (h : startOfNow? now offset = some first) : first % minuteMillis = 0 := by
  unfold startOfNow? at h
  rw [Option.ite_none_right_eq_some] at h
  obtain ⟨-, hstart⟩ := h
  obtain rfl := Option.some.inj hstart
  unfold truncateToMinute minuteMillis Instant at *
  omega

/-! ### The fixed text of a span -/

/-- **The fixed text means the same at any time.** In every known zone, let a text be resolved to a
span whose start is shown in a year of four digits.

* The fixed text of a date is the text of this date, and that of a time of day or of a date with a
  time of day shows the typed wall time, of today for a time alone, unless clocks are put forward
  over it (`Zone.Regular.skips_iff`). Whatever the clock, each of them is resolved to the same span,
  which is not relative.
* So is the fixed text of a text that moves the clock, unless clocks show the same again after the
  start of the span: then it is resolved to the span that is later by the shift of the clocks. -/
theorem parse_fixed (clock clock' : Clock) (text : String) (reading : Reading) (s : Span) (w : Wall)
    (hzone : clock.zone ∈ Zone.all) (hsame : clock'.zone = clock.zone)
    (hreading : Reading.ofChars? (Text.trim text.toList) = some reading)
    (hs : parse clock text = .ok s) (hw : clock.zone.toWall s.first = .ok w)
    (hyear : 0 ≤ (Wall.date w).year ∧ (Wall.date w).year ≤ 9999) :
    match reading with
    | .now _ =>
      (¬ clock.zone.ShownAgain s.first → parse clock' s.fixed = .ok { s with relative := none }) ∧
      (clock.zone.ShownAgain s.first → ∃ d, clock.zone.daylight = some d ∧ 0 < d.shift ∧
        parse clock' s.fixed = .ok { s with
          relative := none
          first := s.first + d.shift * 1000
          last := s.last + d.shift * 1000 })
    | .time t =>
      parse clock' s.fixed = .ok { s with relative := none } ∧
      ∃ today, clock.zone.toWall clock.now = .ok today ∧
        (¬ clock.zone.Skips (Wall.ofDate (Wall.date today) t.hour t.minute) →
          s.fixed = String.ofList ((Wall.date today).charsAt t))
    | .date d =>
      parse clock' s.fixed = .ok { s with relative := none } ∧ s.fixed = String.ofList d.chars
    | .dateTime d t =>
      parse clock' s.fixed = .ok { s with relative := none } ∧
      (¬ clock.zone.Skips (Wall.ofDate d t.hour t.minute) →
        s.fixed = String.ofList (d.charsAt t)) := by
  have hvalid := Reading.valid_of_ofChars? hreading
  rw [parse_of_reading hreading] at hs
  -- The readings differ in where the span starts. Only an instant that is given, by the clock, can
  -- be one that its wall time does not lead back to; what was typed was looked up already.
  cases reading with
  | now offset =>
    unfold resolve at hs
    dsimp only at hs
    -- The start is on a full minute, so that the text leaves nothing out.
    cases hfirst : startOfNow? clock.now offset with
    | none =>
      rw [hfirst] at hs
      cases hs
    | some first =>
      rw [hfirst] at hs
      exact parse_fixed_of_now hzone hsame (minutes_of_startOfNow? hvalid hfirst) hs hw hyear
  | time t =>
    -- A time of day is a wall time of today, and its fixed text names the date as well.
    obtain ⟨today, htoday, hs⟩ := bind_eq_ok_iff.mp hs
    obtain ⟨first, hfirst, hs⟩ := bind_eq_ok_iff.mp hs
    obtain ⟨hsame', hshown⟩ :=
      parse_fixed_of_typed hzone hsame (Wall.ofDate_minutes _ _ _) hfirst hs hw hyear
    refine ⟨hsame', today, htoday, fun hnot => ?_⟩
    rw [← Wall.minuteText_ofDate (Wall.valid_date today) hvalid]
    exact hshown hnot
  | date d =>
    -- A date is its own fixed text, and both of its ends are found again.
    obtain ⟨hdate, hyear'⟩ := hvalid
    have hz := Zone.regular_of_mem_all hzone
    obtain rfl := Except.ok.inj (hs.symm.trans (ofDay_eq hz hdate hyear'))
    rw [← hsame] at hz ⊢
    exact ⟨parse_chars hz hdate hyear', rfl⟩
  | dateTime d t =>
    obtain ⟨⟨hdate, -⟩, htime⟩ := hvalid
    obtain ⟨first, hfirst, hs⟩ := bind_eq_ok_iff.mp hs
    obtain ⟨hsame', hshown⟩ :=
      parse_fixed_of_typed hzone hsame (Wall.ofDate_minutes _ _ _) hfirst hs hw hyear
    refine ⟨hsame', fun hnot => ?_⟩
    rw [← Wall.minuteText_ofDate hdate htime]
    exact hshown hnot

/-- A clock of central Europe, where clocks are changed by an hour. -/
def centralClock (now : Instant) : Clock :=
  ⟨⟨"CET-1CEST,M3.5.0,M10.5.0/3", 3600, some ⟨3600, ⟨3, .last, 2⟩, ⟨10, .last, 3⟩⟩⟩, now⟩

/-- A time that is skipped in spring is resolved once and for all; the first one of two hours in
autumn is written down like the second one. -/
theorem parse_fixed_central :
    (∃ s, parse (centralClock 0) "2024-03-31T2:30" = .ok s ∧ s.fixed = "2024-03-31T03:30" ∧
      parse (centralClock 1729989000000) s.fixed = .ok s) ∧
    ∃ s, parse (centralClock 1729989000000) "now" = .ok s ∧ s.fixed = "2024-10-27T02:30" ∧
      parse (centralClock 0) s.fixed = .ok { s with
        relative := none
        first := s.first + hourMillis
        last := s.last + hourMillis } := by
  refine ⟨⟨⟨none, "2024-03-31T03:30", 1711848600000, 1711848659999, .minute⟩, ?_, rfl, ?_⟩,
    ⟨some "now", "2024-10-27T02:30", 1729989000000, 1729989059999, .minute⟩, ?_, rfl, ?_⟩
  · decide +kernel
  · exact (parse_fixed (centralClock 0) (centralClock 1729989000000) "2024-03-31T2:30"
      (.dateTime ⟨2024, 3, 31⟩ ⟨2, 30⟩) _ 1711855800000 (by decide) rfl (by decide +kernel)
      (by decide +kernel) (by decide +kernel) (by decide +kernel)).1
  · decide +kernel
  · -- The clock stands in the hour that is shown twice, on daylight time.
    have hagain : (centralClock 1729989000000).zone.ShownAgain 1729989000000 :=
      ⟨1729992600000, 1729996200000, by decide, by decide +kernel, by decide +kernel⟩
    obtain ⟨d, hdaylight, -, hlater⟩ := (parse_fixed (centralClock 1729989000000) (centralClock 0)
      "now" (.now 0) ⟨some "now", "2024-10-27T02:30", 1729989000000, 1729989059999, .minute⟩
      1729996200000 (by decide) rfl (by decide +kernel) (by decide +kernel) (by decide +kernel)
      (by decide +kernel)).2 hagain
    obtain rfl := Option.some.inj hdaylight
    exact hlater

end Span

end MetricSeries.Time
