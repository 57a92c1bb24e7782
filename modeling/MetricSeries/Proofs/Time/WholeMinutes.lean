import MetricSeries.Proofs.Time.SameMinute

/-!
# Spans of whole minutes

A span that a text is resolved to starts with the first millisecond of a minute and ends with the
last millisecond of one, and a span of a minute is one minute long (`Span.Whole`). Both ends are
shifted on their own, through what clocks show. This tears no minute apart
(`Adjustment.apply_add`), so a span of a minute stays one through any run of adjustments. The ends
of a day are too far apart to be brought out of order by one adjustment (`Adjustment.apply_lt`).

The main result is `Span.parseAdjusted_whole`.
-/

namespace MetricSeries.Time

open Fallible

variable {z : Zone} {w : Wall} {t : Instant} {a : Adjustment}

/-! ### Order -/

/-- The instant of a wall time is within an hour of those that could show it. -/
theorem Zone.Regular.toInstant_mem (h : z.Regular) (ht : z.toInstant w = .ok t) :
    w - (z.standard + 7200) * 1000 ≤ t ∧ t ≤ w + hourMillis - z.standard * 1000 := by
  -- The offset is between those of standard and of daylight time, also an hour later.
  rcases toInstant_eq_ok_iff.mp ht with hfound | ⟨-, -, hfound⟩
  all_goals
    obtain ⟨offset, hoffset, -, rfl⟩ := instantOf?_eq_some_iff.mp hfound
    have hmem := h.mem_of_isOffset (h.isOffset_of_offsetAtWall? hoffset)
    unfold Instant Wall hourMillis at *
    omega

/-- **Instants of one date that are hours apart** stay in order: clocks tell them apart to two
hours, the wall times are shifted alike, and looking these up loses three hours more. -/
theorem Adjustment.apply_lt {t₁ t₂ t₁' t₂' : Instant} {w₁ w₂ : Wall} (hz : z.Regular)
    (hw₁ : z.toWall t₁ = .ok w₁) (hw₂ : z.toWall t₂ = .ok w₂)
    (hdate : Wall.date w₁ = Wall.date w₂) (hapart : t₁ + 6 * hourMillis ≤ t₂)
    (h₁ : a.apply z t₁ = .ok t₁') (h₂ : a.apply z t₂ = .ok t₂') : t₁' < t₂' := by
  rcases elapses_or_moves z a with ⟨hours, elapses⟩ | ⟨period, n, moves⟩
  · rw [elapses _ _ h₁, elapses _ _ h₂]
    unfold Instant hourMillis at *
    omega
  · obtain ⟨v₁, w₁', hv₁, hmove₁, ht₁⟩ := moves _ _ h₁
    obtain ⟨v₂, w₂', hv₂, hmove₂, ht₂⟩ := moves _ _ h₂
    obtain rfl := Except.ok.inj (hw₁.symm.trans hv₁)
    obtain rfl := Except.ok.inj (hw₂.symm.trans hv₂)
    obtain ⟨-, -, hwall₁⟩ := Zone.toWall_eq_ok_iff.mp hw₁
    obtain ⟨-, -, hwall₂⟩ := Zone.toWall_eq_ok_iff.mp hw₂
    have hoffset₁ := hz.offsetAt_mem t₁
    have hoffset₂ := hz.offsetAt_mem t₂
    have hmem₁ := hz.toInstant_mem ht₁
    have hmem₂ := hz.toInstant_mem ht₂
    have hsub := Wall.move?_sub hdate hmove₁ hmove₂
    -- Two hours of six are lost to the clocks, and three to looking up what they show.
    have hshown : w₁ + 4 * hourMillis ≤ w₂ := by
      unfold Instant Wall hourMillis at *
      omega
    have hmoved : w₁' + 4 * hourMillis ≤ w₂' := by
      unfold Wall at *
      omega
    unfold Instant Wall hourMillis at *
    omega

namespace Span

variable {s s' : Span} {first : Instant} {relative : Option String} {clock : Clock} {text : String}

/-! ### Whole spans -/

/-- **A span of whole minutes**: from the first millisecond of a minute to the last millisecond of
the same or of a later one, and of the same if it is the span of a minute. -/
structure Whole (s : Span) : Prop where
  first : s.first % minuteMillis = 0
  last : s.last % minuteMillis = minuteMillis - 1
  ordered : s.first < s.last
  single : s.granularity = .minute → s.last = s.first + minuteMillis - 1

/-- One minute is a span of whole minutes. -/
theorem whole_of_single (hfirst : s.first % minuteMillis = 0)
    (hlast : s.last = s.first + minuteMillis - 1) : s.Whole := by
  refine ⟨hfirst, ?_, ?_, fun _ => hlast⟩
  · unfold Instant minuteMillis at *
    omega
  · unfold Instant minuteMillis at *
    omega

/-- The instant of a midnight is the start of a minute. -/
theorem mod_midnight {day : Int} (hzone : z ∈ Zone.all) (hday : DayInRange day) :
    z.midnight day % minuteMillis = 0 := by
  rw [Zone.mod_of_toInstant hzone ((Zone.regular_of_mem_all hzone).toInstant_midnight hday),
    ← Wall.ofDate_minutes (Date.ofDay day) 0 0, Wall.ofDate_midnight, Date.toDay_ofDay]

/-- **What a text is resolved to** is one minute or a day. -/
theorem minute_or_day_of_parse (hzone : clock.zone ∈ Zone.all) (hs : parse clock text = .ok s) :
    (s.granularity = .minute ∧ s.first % minuteMillis = 0 ∧
      s.last = s.first + minuteMillis - 1) ∨
    ∃ d : Date, (d.Valid ∧ 0 ≤ d.year ∧ d.year ≤ 9999) ∧ s.granularity = .day ∧
      s.first = clock.zone.midnight d.toDay ∧
      s.last = clock.zone.midnight (d.toDay + 1) - 1 := by
  -- Whatever a minute is resolved from, its start is what was looked up.
  have hminute : ∀ {first : Instant} {relative : Option String}, first % minuteMillis = 0 →
      ofMinute clock.zone first relative = .ok s →
      s.granularity = .minute ∧ s.first % minuteMillis = 0 ∧
        s.last = s.first + minuteMillis - 1 := by
    intro first relative hfirst hs
    obtain ⟨w, -, rfl⟩ := ofMinute_eq_ok_iff.mp hs
    exact ⟨rfl, hfirst, rfl⟩
  unfold parse at hs
  dsimp only at hs
  split at hs
  next => cases hs
  next =>
    split at hs
    next reading hreading =>
      have hvalid := Reading.valid_of_ofChars? hreading
      cases reading with
      | now offset =>
        unfold resolve at hs
        dsimp only at hs
        split at hs
        next first hfirst => exact .inl (hminute (minutes_of_startOfNow? hvalid hfirst) hs)
        next => cases hs
      | time t =>
        obtain ⟨today, -, hs⟩ := bind_eq_ok_iff.mp hs
        obtain ⟨first, hfirst, hs⟩ := bind_eq_ok_iff.mp hs
        exact .inl (hminute
          ((Zone.mod_of_toInstant hzone hfirst).trans (Wall.ofDate_minutes _ _ _)) hs)
      | date d =>
        obtain ⟨hdate, hyear⟩ := hvalid
        obtain rfl := Except.ok.inj
          (hs.symm.trans (ofDay_eq (Zone.regular_of_mem_all hzone) hdate hyear))
        exact .inr ⟨d, ⟨hdate, hyear⟩, rfl, rfl, rfl⟩
      | dateTime d t =>
        obtain ⟨first, hfirst, hs⟩ := bind_eq_ok_iff.mp hs
        exact .inl (hminute
          ((Zone.mod_of_toInstant hzone hfirst).trans (Wall.ofDate_minutes _ _ _)) hs)
    next => cases hs

/-! ### Adjusting -/

theorem adjusted_eq_ok_iff : adjusted z a s = .ok s' ↔
    ∃ first last w, a.apply z s.first = .ok first ∧ a.apply z s.last = .ok last ∧
      z.toWall first = .ok w ∧
      { s with fixed := s.granularity.fixedText w, first := first, last := last } = s' := by
  unfold adjusted
  simp only [bind_eq_ok_iff, pure_eq_ok, Except.ok.injEq]
  refine ⟨?_, ?_⟩
  · rintro ⟨first, hfirst, last, hlast, w, hw, rfl⟩
    exact ⟨first, last, w, hfirst, hlast, hw, rfl⟩
  · rintro ⟨first, last, w, hfirst, hlast, hw, rfl⟩
    exact ⟨first, hfirst, last, hlast, w, hw, rfl⟩

/-- **One adjustment of a minute** leads to a minute. -/
theorem Whole.adjusted (hzone : z ∈ Zone.all) (h : s.Whole) (hminute : s.granularity = .minute)
    (hs' : s.adjusted z a = .ok s') : s'.Whole ∧ s'.granularity = .minute := by
  obtain ⟨first, last, w, hfirst, hlast, -, rfl⟩ := adjusted_eq_ok_iff.mp hs'
  -- The last millisecond is one of the minute that starts with the first.
  have hsingle : s.last = s.first + (minuteMillis - 1) := by
    rw [h.single hminute, Int.add_sub_assoc]
  rw [hsingle] at hlast
  refine ⟨whole_of_single ?_ ?_, hminute⟩
  · exact (Adjustment.mod_of_apply hzone hfirst).trans h.first
  · have hadd := Adjustment.apply_add hzone (by decide) h.first hfirst hlast
    rw [Int.add_sub_assoc]
    exact hadd

/-- A day is a span of whole minutes, and hours long. -/
theorem whole_of_day {d : Date} (hzone : z ∈ Zone.all) (hvalid : d.Valid)
    (hyear : 0 ≤ d.year ∧ d.year ≤ 9999) (hday : s.granularity = .day)
    (hfirst : s.first = z.midnight d.toDay) (hlast : s.last = z.midnight (d.toDay + 1) - 1) :
    s.Whole ∧ s.first + 6 * hourMillis ≤ s.last := by
  obtain ⟨hrange, hrange'⟩ := dayInRange hvalid hyear
  have hlong := (Zone.regular_of_mem_all hzone).midnight_succ d.toDay
  have hminutes := mod_midnight hzone hrange
  have hminutes' := mod_midnight hzone hrange'
  rw [← hfirst] at hlong hminutes
  -- Both midnights are on full minutes, and there are hours between them.
  refine ⟨⟨hminutes, ?_, ?_, fun hminute => ?_⟩, ?_⟩
  · rw [hlast]
    unfold Instant minuteMillis at *
    omega
  · unfold Instant hourMillis at *
    omega
  · cases hday.symm.trans hminute
  · unfold Instant hourMillis at *
    omega

/-- One adjustment of a day leads to whole minutes. -/
theorem whole_of_adjusted_day {d : Date} (hzone : z ∈ Zone.all) (hvalid : d.Valid)
    (hyear : 0 ≤ d.year ∧ d.year ≤ 9999) (hday : s.granularity = .day)
    (hfirst : s.first = z.midnight d.toDay) (hlast : s.last = z.midnight (d.toDay + 1) - 1)
    (hs' : s.adjusted z a = .ok s') : s'.Whole := by
  have hz := Zone.regular_of_mem_all hzone
  obtain ⟨first, last, w, hfirst', hlast', -, rfl⟩ := adjusted_eq_ok_iff.mp hs'
  obtain ⟨hwhole, hapart⟩ := whole_of_day hzone hvalid hyear hday hfirst hlast
  -- Clocks show the date at both ends.
  have hmem : ∀ t, s.first ≤ t ∧ t ≤ s.last ↔ ∃ w, z.toWall t = .ok w ∧ Wall.date w = d := by
    rw [hfirst, hlast]
    exact hz.mem_day_iff hvalid hyear
  have hordered : s.first ≤ s.last := Int.le_of_lt hwhole.ordered
  obtain ⟨w₁, hw₁, hdate₁⟩ := (hmem s.first).mp ⟨Int.le_refl _, hordered⟩
  obtain ⟨w₂, hw₂, hdate₂⟩ := (hmem s.last).mp ⟨hordered, Int.le_refl _⟩
  refine ⟨?_, ?_, ?_, fun hminute => ?_⟩
  · exact (Adjustment.mod_of_apply hzone hfirst').trans hwhole.first
  · exact (Adjustment.mod_of_apply hzone hlast').trans hwhole.last
  · exact Adjustment.apply_lt hz hw₁ hw₂ (hdate₁.trans hdate₂.symm) hapart hfirst' hlast'
  · cases hday.symm.trans hminute

/-- A run of adjustments, one after the other. -/
def adjustAll (zone : Zone) (adjustments : List Adjustment) (s : Span) : Except Error Span :=
  adjustments.foldlM (fun s a => s.adjusted zone a) s

/-- **A run of adjustments of a minute** leads to a minute. -/
theorem Whole.adjustAll (hzone : z ∈ Zone.all) (adjustments : List Adjustment) (h : s.Whole)
    (hminute : s.granularity = .minute) (hs' : s.adjustAll z adjustments = .ok s') :
    s'.Whole ∧ s'.granularity = .minute := by
  -- Each adjustment of the run starts from the minute that the one before has led to.
  induction adjustments generalizing s with
  | nil =>
    obtain rfl := Except.ok.inj hs'
    exact ⟨h, hminute⟩
  | cons a rest ih =>
    unfold Span.adjustAll at hs' ih
    rw [List.foldlM_cons] at hs'
    obtain ⟨s₁, hs₁, hs'⟩ := bind_eq_ok_iff.mp hs'
    obtain ⟨h₁, hminute₁⟩ := h.adjusted hzone hminute hs₁
    exact ih h₁ hminute₁ hs'

/-! ### Texts with a marker -/

/-- What a text with a marker is resolved to has the ends of the span of the text before the marker,
as they are or adjusted. -/
theorem base_of_parseAdjusted (hs : parseAdjusted clock text = .ok s) :
    ∃ base, parse clock (Adjustment.strip text) = .ok base ∧
      (s = base ∨ ∃ a shifted relative, base.adjusted clock.zone a = .ok shifted ∧
        s = { shifted with relative := relative }) := by
  unfold parseAdjusted at hs
  obtain ⟨base, hbase, hs⟩ := bind_eq_ok_iff.mp hs
  refine ⟨base, hbase, ?_⟩
  -- Without a marker, or with one that names no amount, nothing is shifted.
  split at hs
  next period amount heq =>
    obtain ⟨shifted, hshifted, hs⟩ := bind_eq_ok_iff.mp hs
    exact .inr ⟨_, shifted, _, hshifted, (Except.ok.inj hs).symm⟩
  next => exact .inl (Except.ok.inj hs).symm

/-- A span keeps its ends under another relative text. -/
theorem Whole.withRelative (h : s.Whole) (relative : Option String) :
    Whole { s with relative := relative } :=
  ⟨h.first, h.last, h.ordered, h.single⟩

/-- What a text is resolved to is a span of whole minutes. -/
theorem whole_of_parseAdjusted (hzone : clock.zone ∈ Zone.all)
    (hs : parseAdjusted clock text = .ok s) : s.Whole := by
  obtain ⟨base, hbase, hcases⟩ := base_of_parseAdjusted hs
  rcases minute_or_day_of_parse hzone hbase with
    ⟨hminute, hfirst, hlast⟩ | ⟨d, ⟨hvalid, hyear⟩, hday, hfirst, hlast⟩
  · have hbase := whole_of_single hfirst hlast
    -- The base is a minute or a day, and it is taken as it is or with both of its ends moved.
    rcases hcases with rfl | ⟨a, shifted, relative, hshifted, rfl⟩
    · exact hbase
    · exact (hbase.adjusted hzone hminute hshifted).1.withRelative relative
  · rcases hcases with rfl | ⟨a, shifted, relative, hshifted, rfl⟩
    · exact (whole_of_day hzone hvalid hyear hday hfirst hlast).1
    · exact (whole_of_adjusted_day hzone hvalid hyear hday hfirst hlast hshifted).withRelative
        relative

/-- **Every text is resolved to whole minutes.** In every known zone, whatever the clock, what a
text with or without a marker is resolved to is a span of whole minutes: it starts with the first
millisecond of a minute, ends later, with the last millisecond of one, and is one minute long if the
text does not name a day. Such a minute stays one through any further run of adjustments, as far as
they succeed. -/
theorem parseAdjusted_whole (clock : Clock) (text : String) (s : Span)
    (hzone : clock.zone ∈ Zone.all) (hs : parseAdjusted clock text = .ok s) :
    s.Whole ∧ (s.granularity = .minute → ∀ adjustments s',
      s.adjustAll clock.zone adjustments = .ok s' → s'.Whole ∧ s'.granularity = .minute) := by
  have hwhole := whole_of_parseAdjusted hzone hs
  exact ⟨hwhole, fun hminute adjustments s' hs' => hwhole.adjustAll hzone adjustments hminute hs'⟩

/-- A minute that is shifted into a gap, on to the day when clocks are put back, back into the hour
that they show twice, and out of it, is one minute still. -/
theorem parseAdjusted_whole_central :
    ∃ s s', parseAdjusted (centralClock 0) "2024-03-30T2:30\x7b+1D\x7d" = .ok s ∧
      s.fixed = "2024-03-31T03:30" ∧ s.Whole ∧
      s.adjustAll (centralClock 0).zone
        [.offset .week 30, .offset .hour (-1), .offset .month (-2)] = .ok s' ∧
      s'.fixed = "2024-08-27T02:30" ∧ s'.Whole := by
  have hs : parseAdjusted (centralClock 0) "2024-03-30T2:30\x7b+1D\x7d" =
      .ok ⟨none, "2024-03-31T03:30", 1711848600000, 1711848659999, .minute⟩ := by decide +kernel
  -- The typed time is in a gap, and the run of adjustments crosses both changes of the clock.
  obtain ⟨hwhole, hrun⟩ := parseAdjusted_whole (centralClock 0) _ _ (by decide) hs
  refine ⟨_, ⟨none, "2024-08-27T02:30", 1724718600000, 1724718659999, .minute⟩, hs, rfl, hwhole, ?_,
    rfl, (hrun rfl [.offset .week 30, .offset .hour (-1), .offset .month (-2)] _ ?_).1⟩
  · decide +kernel
  · decide +kernel

end Span

end MetricSeries.Time
