import MetricSeries.Proofs.Time.Spelling
import MetricSeries.Proofs.Time.WallShifts

/-!
# Which texts are resolved

A text of the grammar (`Reading.Spells`) is resolved to a span (`Span.Says`), or there is a reason
why it has none (`Reading.Fails`). An instant is out of range, be it the one that the text names or
the clock that says which day is today, or a wall time is in a gap, and an hour later is in the gap
still. A date is always resolved. At the very ends of the range, where clocks show what is out of
range, the program is stopped (`Reading.Aborts`). A text that is not of the grammar is not resolved,
and the error of a blank text is one of its own (`Span.parse_spells`).
-/

namespace MetricSeries.Time

open Fallible

/-! ### Wall times without instant -/

namespace Zone

variable {z : Zone} {w : Wall}

/-- **Why a wall time has no instant**: the one that would show it is out of range, or clocks are
put forward over it, and over what they show an hour later too. -/
inductive NoInstant (z : Zone) (w : Wall) : Prop where
  | outOfRange {t : Instant} (shown : z.wallAt t = w) (out : ¬ inRange t = true)
  | gap (inside : z.InGap w) (still : z.InGap (w + hourMillis))

/-- What cannot be resolved is named in full, unless an hour more is out of range. -/
theorem toInstant_error_cases {e : Error} (h : z.toInstant w = .error e) :
    e = .invalidDateTime (Wall.fullText w) ∨
      (e = .aborted ∧ ¬ inRange (w + hourMillis) = true) := by
  -- There are two ways to end without an instant, both behind the first lookup: the hour more
  -- cannot be added, or the second lookup finds nothing either.
  unfold toInstant at h
  split at h
  next => cases h
  next =>
    split at h
    next =>
      split at h
      next => cases h
      next => exact .inl (Except.error.inj h).symm
    next hlater => exact .inr ⟨(Except.error.inj h).symm, hlater⟩

/-- **A wall time is resolved** to an instant at which clocks show something, or there is a reason
why it has none. Then it is refused, or stops the program where an hour more is out of range. -/
theorem Regular.toInstant_cases (h : z.Regular) (hrange : inRange w = true) :
    (∃ t w', z.toInstant w = .ok t ∧ z.toWall t = .ok w') ∨
      (z.NoInstant w ∧ (z.toInstant w = .error (.invalidDateTime (Wall.fullText w)) ∨
        (z.toInstant w = .error .aborted ∧ ¬ inRange (w + hourMillis) = true))) := by
  by_cases hgap : z.InGap w
  · obtain ⟨d, year, hgap⟩ := hgap
    by_cases hfirst : d.LooksUpFirst year (w / 1000)
    · -- The first second of a gap is resolved without the retry.
      exact .inl ⟨_, _, h.toInstant_of_first hgap hrange hfirst, h.toWall_of_gapOf hgap hrange⟩
    · by_cases hinside : w + hourMillis < (d.begins.inYear year + d.shift) * 1000
      · refine .inr ⟨.gap ⟨d, year, hgap⟩ ⟨d, year, ?_⟩,
          .inl (h.toInstant_of_in_gap hgap hrange hfirst hinside)⟩
        exact ⟨hgap.daylight, hgap.start_le.trans (Int.le_add_of_nonneg_right (by decide)), hinside⟩
      · have hbehind := h.toInstant_of_behind_gap hgap hrange hfirst (Int.not_lt.mp hinside)
        exact .inl ⟨_, _, hbehind.1, hbehind.2⟩
  · -- Outside gaps nothing but the range can be in the way.
    by_cases hskips : z.Skips w
    · cases ht : z.toInstant w with
      | ok t => exact .inl ⟨t, _, rfl, h.toWall_of_skips hrange hgap hskips ht⟩
      | error e =>
        obtain ⟨offset, -, hoffset⟩ := h.exists_offset_of_not_inGap hgap
        refine .inr ⟨.outOfRange (wallAt_sub hoffset) fun hinstant => ?_, ?_⟩
        · exact hskips _ (toWall_sub hoffset hrange hinstant)
        · rcases toInstant_error_cases ht with rfl | ⟨rfl, hlater⟩
          · exact .inl rfl
          · exact .inr ⟨rfl, hlater⟩
    · obtain ⟨t, ht, hw, -⟩ := h.toInstant_of_shown hgap hskips
      exact .inl ⟨t, w, ht, hw⟩

end Zone

/-! ### Resolving -/

variable {clock : Clock} {text : String} {reading : Reading} {s : Span} {first : Instant}
  {relative : Option String} {d : Date} {t : TimeOfDay}

/-- The instant so many milliseconds after the start of the current minute. -/
def Clock.fromMinute (clock : Clock) (offset : Int) : Instant :=
  clock.now / minuteMillis * minuteMillis + offset

/-- **Where the span of a reading starts.** -/
def Reading.StartsAt (clock : Clock) (reading : Reading) (first : Instant) : Prop :=
  match reading with
  | .now offset => first = clock.fromMinute offset
  | .time t => ∃ today, clock.zone.toWall clock.now = .ok today ∧
      clock.zone.toInstant (Wall.ofDate (Wall.date today) t.hour t.minute) = .ok first
  | .date d => clock.zone.toInstant (Wall.ofDate d 0 0) = .ok first
  | .dateTime d t => clock.zone.toInstant (Wall.ofDate d t.hour t.minute) = .ok first

/-- **The span of a reading**: the text is kept where it looks at the clock, and a date is a day. -/
structure Span.Says (clock : Clock) (text : String) (reading : Reading) (s : Span) : Prop where
  relative : s.relative =
    match reading with
    | .now _ | .time _ => some text
    | .date _ | .dateTime .. => none
  granularity : s.granularity = .day ↔ ∃ d, reading = .date d
  first : reading.StartsAt clock s.first

/-- **Why a reading is refused**: the instant that it names is out of range, or the clock itself is,
and so there is no today, or a wall time is in a gap and an hour later still. -/
inductive Reading.Fails (clock : Clock) : Reading → Prop where
  | now {offset : Int} (out : ¬ inRange (clock.fromMinute offset) = true) :
      Fails clock (.now offset)
  | today {t : TimeOfDay} (out : ¬ inRange clock.now = true) : Fails clock (.time t)
  | time {t : TimeOfDay} {today : Wall} (shown : clock.zone.toWall clock.now = .ok today)
      (none : clock.zone.NoInstant (Wall.ofDate (Wall.date today) t.hour t.minute)) :
      Fails clock (.time t)
  | dateTime {d : Date} {t : TimeOfDay} (inside : clock.zone.InGap (Wall.ofDate d t.hour t.minute))
      (still : clock.zone.InGap (Wall.ofDate d t.hour t.minute + hourMillis)) :
      Fails clock (.dateTime d t)

/-- **Why a reading stops the program**: an instant is in range, but what clocks show at it is not,
or a wall time has no instant and an hour more is out of range. -/
inductive Reading.Aborts (clock : Clock) : Reading → Prop where
  | now {offset : Int} (inside : inRange (clock.fromMinute offset) = true)
      (out : ¬ inRange (clock.zone.wallAt (clock.fromMinute offset)) = true) :
      Aborts clock (.now offset)
  | today {t : TimeOfDay} (inside : inRange clock.now = true)
      (out : ¬ inRange (clock.zone.wallAt clock.now) = true) : Aborts clock (.time t)
  | time {t : TimeOfDay} {today : Wall} (shown : clock.zone.toWall clock.now = .ok today)
      (none : clock.zone.NoInstant (Wall.ofDate (Wall.date today) t.hour t.minute))
      (out : ¬ inRange (Wall.ofDate (Wall.date today) t.hour t.minute + hourMillis) = true) :
      Aborts clock (.time t)

/-- **What comes of a reading**: a span, an error with a reason, or a stop of the program with a
reason. -/
inductive Span.Resolves (clock : Clock) (text : String) (reading : Reading) :
    Except Error Span → Prop where
  | span {s : Span} (meaning : s.Says clock text reading) : Resolves clock text reading (.ok s)
  | refused {m : String} (fails : reading.Fails clock) :
      Resolves clock text reading (.error (.invalidDateTime m))
  | stopped (aborts : reading.Aborts clock) : Resolves clock text reading (.error .aborted)

/-- The times of day of a date in range are in range. -/
theorem inRange_ofDate_of_date {w : Wall} (hrange : inRange w = true) (ht : t.Valid) :
    inRange (Wall.ofDate (Wall.date w) t.hour t.minute) = true := by
  obtain ⟨hhour, hminute⟩ := ht
  unfold Wall.ofDate Wall.date
  rw [Date.toDay_ofDay]
  rw [inRange_iff] at *
  unfold Wall.day Wall earliest latest dayMillis hourMillis minuteMillis at *
  omega

/-- So are those of the dates in years of four digits. -/
theorem inRange_ofDate (hvalid : d.Valid) (hyear : 0 ≤ d.year ∧ d.year ≤ 9999) (ht : t.Valid) :
    inRange (Wall.ofDate d t.hour t.minute) = true := by
  obtain ⟨hhour, hminute⟩ := ht
  unfold Wall.ofDate
  rw [add_assoc]
  refine inRange_toDay hvalid hyear ?_
  unfold hourMillis minuteMillis dayMillis
  omega

/-- In years of four digits, an hour more is in range too. -/
theorem inRange_ofDate_add_hour (hvalid : d.Valid) (hyear : 0 ≤ d.year ∧ d.year ≤ 9999)
    (ht : t.Valid) : inRange (Wall.ofDate d t.hour t.minute + hourMillis) = true := by
  obtain ⟨hhour, hminute⟩ := ht
  obtain ⟨hlow, hhigh⟩ := (dayInRange hvalid hyear).1
  rw [inRange_iff]
  unfold Wall.ofDate Wall earliest latest hourMillis minuteMillis dayMillis at *
  omega

/-- In years of four digits, no instant that would show a wall time is out of range. -/
theorem Zone.NoInstant.inGap {z : Zone} (hz : z.Regular) (hvalid : d.Valid)
    (hyear : 0 ≤ d.year ∧ d.year ≤ 9999) (ht : t.Valid)
    (h : z.NoInstant (Wall.ofDate d t.hour t.minute)) :
    z.InGap (Wall.ofDate d t.hour t.minute) ∧
      z.InGap (Wall.ofDate d t.hour t.minute + hourMillis) := by
  cases h with
  | @outOfRange t₀ shown out =>
    have hnear : (d.toDay - 1) * dayMillis ≤ Wall.ofDate d t.hour t.minute ∧
        Wall.ofDate d t.hour t.minute ≤ (d.toDay + 1) * dayMillis := by
      obtain ⟨hhour, hminute⟩ := ht
      unfold Wall.ofDate Wall dayMillis hourMillis minuteMillis
      omega
    -- Such an instant is within a day or two of the date, whatever the offset.
    have hrange := (hz.inRange_around (dayInRange hvalid hyear).1 hnear (hz.offsetAt_mem t₀)).2
    rw [← shown, Zone.wallAt_sub_offsetAt] at hrange
    exact absurd hrange out
  | gap inside still => exact ⟨inside, still⟩

namespace Span

/-- A minute is resolved where clocks show something at its start. -/
theorem ofMinute_of_toWall {z : Zone} {w : Wall} (hw : z.toWall first = .ok w) :
    ofMinute z first relative =
      .ok ⟨relative, Wall.minuteText w, first, first + minuteMillis - 1, .minute⟩ :=
  ofMinute_eq_ok_iff.mpr ⟨w, hw, rfl⟩

/-- The start of a minute is looked up among the 64-bit integers. -/
theorem startOfNow?_cases (clock : Clock) (offset : Int) :
    startOfNow? clock.now offset = some (clock.fromMinute offset) ∨
      (startOfNow? clock.now offset = none ∧ ¬ inRange (clock.fromMinute offset) = true) := by
  have hstart : truncateToMinute clock.now + offset = clock.fromMinute offset := by
    unfold truncateToMinute Clock.fromMinute Instant minuteMillis
    omega
  unfold startOfNow?
  dsimp only
  rw [hstart]
  by_cases hfits : (Text.fitInt64? (clock.fromMinute offset)).isSome = true
  · exact .inl (if_pos hfits)
  · -- What does not fit 64 bits is far out of range.
    refine .inr ⟨if_neg hfits, fun hrange => hfits ?_⟩
    rw [inRange_iff] at hrange
    unfold Text.fitInt64? Text.int64Bound earliest latest at *
    rw [if_pos (by unfold Instant at *; omega)]
    rfl

/-- **What a text says is resolved**, or there is a reason why it is not. -/
theorem resolves_resolve (text : String) (hzone : clock.zone ∈ Zone.all)
    (hvalid : reading.Valid) : Resolves clock text reading (resolve clock text reading) := by
  have hz := Zone.regular_of_mem_all hzone
  cases reading with
  | now offset =>
    unfold resolve
    dsimp only
    rcases startOfNow?_cases clock offset with hstart | ⟨hstart, hout⟩
    · rw [hstart]
      dsimp only
      rcases clock.zone.toWall_cases (clock.fromMinute offset) with
        hw | ⟨hfailed, hout⟩ | ⟨hstopped, hinside, hout⟩
      · rw [ofMinute_of_toWall hw]
        exact .span ⟨rfl, by simp, rfl⟩
      · unfold ofMinute
        rw [hfailed, error_bind]
        exact .refused (.now hout)
      · unfold ofMinute
        rw [hstopped, error_bind]
        exact .stopped (.now hinside hout)
    · rw [hstart]
      exact .refused (.now hout)
  | time t =>
    unfold resolve
    dsimp only
    rcases clock.zone.toWall_cases clock.now with
      htoday | ⟨hfailed, hout⟩ | ⟨hstopped, hinside, hout⟩
    · -- Today is in range with all its times of day.
      have hrange : inRange (clock.zone.wallAt clock.now) = true :=
        (Zone.toWall_eq_ok_iff.mp htoday).2.1
      rw [htoday, ok_bind]
      rcases hz.toInstant_cases (inRange_ofDate_of_date hrange hvalid) with
        ⟨first, w, hfirst, hw⟩ | ⟨hnone, hfailed | ⟨hstopped, hlater⟩⟩
      · rw [hfirst, ok_bind, ofMinute_of_toWall hw]
        exact .span ⟨rfl, by simp, _, htoday, hfirst⟩
      · rw [hfailed, error_bind]
        exact .refused (.time htoday hnone)
      · rw [hstopped, error_bind]
        exact .stopped (.time htoday hnone hlater)
    · rw [hfailed, error_bind]
      exact .refused (.today hout)
    · rw [hstopped, error_bind]
      exact .stopped (.today hinside hout)
  | date d =>
    -- The midnights of a date and of the next one are always found.
    obtain ⟨hdate, hyear⟩ := hvalid
    have hday : resolve clock text (.date d) = _ := ofDay_eq hz hdate hyear
    rw [hday]
    refine .span ⟨rfl, by simp, ?_⟩
    show clock.zone.toInstant (Wall.ofDate d 0 0) = .ok (clock.zone.midnight d.toDay)
    rw [Wall.ofDate_midnight]
    exact hz.toInstant_midnight (dayInRange hdate hyear).1
  | dateTime d t =>
    obtain ⟨⟨hdate, hyear⟩, htime⟩ := hvalid
    unfold resolve
    dsimp only
    rcases hz.toInstant_cases (inRange_ofDate hdate hyear htime) with
      ⟨first, w, hfirst, hw⟩ | ⟨hnone, hfailed | ⟨-, hlater⟩⟩
    · rw [hfirst, ok_bind, ofMinute_of_toWall hw]
      exact .span ⟨rfl, by simp, hfirst⟩
    · obtain ⟨inside, still⟩ := hnone.inGap hz hdate hyear htime
      rw [hfailed, error_bind]
      exact .refused (.dateTime inside still)
    · exact absurd (inRange_ofDate_add_hour hdate hyear htime) hlater

/-! ### Texts -/

/-- **There are three kinds of text**: blank ones, those that say nothing, and those that say
something, which is resolved unless there is a reason against. -/
theorem parse_cases (clock : Clock) (text : String) (hzone : clock.zone ∈ Zone.all) :
    (Text.trim text.toList = [] ∧ parse clock text = .error .emptyDateTime) ∨
    (Text.trim text.toList ≠ [] ∧ (∀ r, ¬ Reading.Spells (Text.trim text.toList) r) ∧
      parse clock text = .error (.invalidDateTime (Text.trimmed text))) ∨
    ∃ r, Reading.Spells (Text.trim text.toList) r ∧
      Resolves clock (Text.trimmed text) r (parse clock text) := by
  -- The reading decides. Without one, the blank text is told from the others by its own error.
  cases hreading : Reading.ofChars? (Text.trim text.toList) with
  | some r =>
    refine .inr (.inr ⟨r, Reading.ofChars?_eq_some_iff.mp hreading, ?_⟩)
    rw [parse_of_reading hreading]
    exact resolves_resolve _ hzone (Reading.valid_of_ofChars? hreading)
  | none =>
    by_cases hblank : Text.trim text.toList = []
    · refine .inl ⟨hblank, ?_⟩
      unfold parse
      dsimp only
      rw [hblank]
      rfl
    · refine .inr (.inl ⟨hblank, fun r hr => ?_, ?_⟩)
      · rw [Reading.ofChars?_eq_some_iff.mpr hr] at hreading
        cases hreading
      · unfold parse
        dsimp only
        rw [List.isEmpty_eq_false_iff.mpr hblank, hreading]
        rfl

/-- What comes of a reading is no error of a text that is missing. -/
theorem Resolves.kind_ne {result : Except Error Span} {e : Error}
    (h : Resolves clock text reading result) (he : result = .error e) :
    e.kind ≠ .missingDefinition := by
  cases h with
  | span meaning => cases he
  | refused fails =>
    obtain rfl := Except.error.inj he
    exact Error.Kind.noConfusion
  | stopped aborts =>
    obtain rfl := Except.error.inj he
    exact Error.Kind.noConfusion

/-- **Texts are accepted by their grammar.** In every known zone, whatever the clock, let a text be
rid of the blank space around it.

* It is refused as missing exactly if nothing is left.
* What is left says one thing at most, and is refused as no date or time if it says nothing.
* What it says is resolved to a span, or there is a reason why it is not. It is refused because the
  instant that it names is out of range, because the clock is out of range and it names a time of
  today, or because a wall time is in a gap and an hour later is still. The program is stopped over
  it only where what clocks show is out of range at an instant that is not, or where an hour more
  is. -/
theorem parse_spells (clock : Clock) (text : String) (hzone : clock.zone ∈ Zone.all) :
    ((∃ e, parse clock text = .error e ∧ e.kind = .missingDefinition) ↔
      Text.trim text.toList = []) ∧
    (∀ r r', Reading.Spells (Text.trim text.toList) r →
      Reading.Spells (Text.trim text.toList) r' → r = r') ∧
    (Text.trim text.toList ≠ [] → (∀ r, ¬ Reading.Spells (Text.trim text.toList) r) →
      parse clock text = .error (.invalidDateTime (Text.trimmed text))) ∧
    ∀ r, Reading.Spells (Text.trim text.toList) r →
      Resolves clock (Text.trimmed text) r (parse clock text) := by
  -- A text of the grammar is not blank.
  have hne : ∀ r, Reading.Spells (Text.trim text.toList) r → Text.trim text.toList ≠ [] := by
    intro r hr hblank
    rw [hblank] at hr
    cases Reading.ofChars?_eq_some_iff.mpr hr
  refine ⟨?_, fun r r' hr hr' => hr.unique hr', fun hblank hnot => ?_, fun r hr => ?_⟩
  · rcases parse_cases clock text hzone with ⟨hblank, he⟩ | ⟨hblank, -, he⟩ | ⟨r, hr, hresolves⟩
    · exact iff_of_true ⟨_, he, rfl⟩ hblank
    · refine iff_of_false ?_ hblank
      rintro ⟨e, he', hkind⟩
      obtain rfl := Except.error.inj (he.symm.trans he')
      cases hkind
    · refine iff_of_false ?_ (hne r hr)
      rintro ⟨e, he, hkind⟩
      exact hresolves.kind_ne he hkind
  · rcases parse_cases clock text hzone with ⟨hblank', -⟩ | ⟨-, -, he⟩ | ⟨r, hr, -⟩
    · exact absurd hblank' hblank
    · exact he
    · exact absurd hr (hnot r)
  · rcases parse_cases clock text hzone with ⟨hblank, -⟩ | ⟨-, hnot, -⟩ | ⟨r', hr', hresolves⟩
    · exact absurd hblank (hne r hr)
    · exact absurd hr (hnot r)
    · rw [hr.unique hr']
      exact hresolves

/-- A clock of a zone where clocks are put forward by two hours. -/
def twoHoursClock : Clock :=
  ⟨⟨"<+00>0<+02>-2,M3.5.0/1,M10.5.0/3", 0, some ⟨7200, ⟨3, .last, 1⟩, ⟨10, .last, 3⟩⟩⟩, 0⟩

/-- A clock that is ahead of universal time by an hour. -/
def aheadClock : Clock :=
  ⟨⟨"CET-1CEST,M3.5.0,M10.5.0/3", 3600, some ⟨3600, ⟨3, .last, 2⟩, ⟨10, .last, 3⟩⟩⟩, 0⟩

/-- A text that moves the clock, one that names no day of the calendar, one that names a minute in
the first half of a gap of two hours, and one that names the last hour but one in range, at which
clocks show what is out of range. -/
theorem parse_spells_edges :
    (∃ s, parse twoHoursClock " Now+2H" = .ok s ∧ s.relative = some "Now+2H" ∧
      s.first = 2 * hourMillis) ∧
    parse twoHoursClock "2023-02-29" = .error (.invalidDateTime "2023-02-29") ∧
    (∃ m, parse twoHoursClock "2024-03-31T1:30" = .error (.invalidDateTime m) ∧
      twoHoursClock.zone.InGap (Wall.ofDate ⟨2024, 3, 31⟩ 1 30)) ∧
    parse aheadClock "now+2280629687h" = .error .aborted := by
  have hzone : twoHoursClock.zone ∈ Zone.all := by decide
  refine ⟨?_, ?_, ?_, ?_⟩
  · -- The hours are added to the clock, which stands at the start of a minute.
    have hspells : Reading.Spells (Text.trim " Now+2H".toList) (.now (2 * hourMillis)) :=
      Reading.ofChars?_eq_some_iff.mp (by decide +kernel)
    have hresolves := (parse_spells twoHoursClock " Now+2H" hzone).2.2.2 _ hspells
    generalize parse twoHoursClock " Now+2H" = result at hresolves
    cases hresolves with
    | @span s meaning => exact ⟨s, rfl, meaning.relative, meaning.first⟩
    | refused fails =>
      obtain ⟨out⟩ := fails
      exact absurd (by decide +kernel) out
    | stopped aborts =>
      obtain ⟨-, out⟩ := aborts
      exact absurd (by decide +kernel) out
  · refine (parse_spells twoHoursClock "2023-02-29" hzone).2.2.1 (by decide +kernel) fun r hr => ?_
    have hnone : Reading.ofChars? (Text.trim "2023-02-29".toList) = none := by decide +kernel
    rw [Reading.ofChars?_eq_some_iff.mpr hr] at hnone
    cases hnone
  · -- The gap is of two hours, so that an hour later is in it still.
    have hspells : Reading.Spells (Text.trim "2024-03-31T1:30".toList)
        (.dateTime ⟨2024, 3, 31⟩ ⟨1, 30⟩) :=
      Reading.ofChars?_eq_some_iff.mp (by decide +kernel)
    have hresolves := (parse_spells twoHoursClock "2024-03-31T1:30" hzone).2.2.2 _ hspells
    generalize parse twoHoursClock "2024-03-31T1:30" = result at hresolves
    cases hresolves with
    | @span s meaning =>
      have hfirst : twoHoursClock.zone.toInstant (Wall.ofDate ⟨2024, 3, 31⟩ 1 30) = .ok s.first :=
        meaning.first
      have hnone :
          (twoHoursClock.zone.toInstant (Wall.ofDate ⟨2024, 3, 31⟩ 1 30)).isOk = false := by
        decide +kernel
      rw [hfirst] at hnone
      cases hnone
    | @refused m fails =>
      obtain - | - | - | ⟨inside, -⟩ := fails
      exact ⟨m, rfl, inside⟩
    | stopped aborts => cases aborts
  · -- The instant is less than an hour from the end of the range, and clocks are ahead by one.
    have hspells : Reading.Spells (Text.trim "now+2280629687h".toList)
        (.now (2280629687 * hourMillis)) :=
      Reading.ofChars?_eq_some_iff.mp (by decide +kernel)
    have hresolves := (parse_spells aheadClock "now+2280629687h" (by decide)).2.2.2 _ hspells
    have hnone : (parse aheadClock "now+2280629687h").isOk = false := by decide +kernel
    generalize parse aheadClock "now+2280629687h" = result at hresolves hnone
    cases hresolves with
    | span => cases hnone
    | refused fails =>
      obtain ⟨out⟩ := fails
      exact absurd (by decide +kernel) out
    | stopped => rfl

end Span

/-! ### A clock out of range -/

/-- The wall time that a reading names, the time of day being one of the date that clocks would show
if the range had no end. -/
def Reading.wall (clock : Clock) : Reading → Wall
  | .now offset => clock.zone.wallAt (clock.fromMinute offset)
  | .time t => Wall.ofDate (Wall.date (clock.zone.wallAt clock.now)) t.hour t.minute
  | .date d => Wall.ofDate d 0 0
  | .dateTime d t => Wall.ofDate d t.hour t.minute

/-- **A clock out of range shows no date.** At the first instant out of range, clocks behind
universal time would still show the last day. The times of this day are in range and in no gap, and
are refused all the same, for want of a today. -/
theorem Span.not_refused_only : ¬ ∀ (clock : Clock) (text : String) (r : Reading),
    clock.zone ∈ Zone.all → Reading.Spells (Text.trim text.toList) r →
      (∀ s, parse clock text ≠ .ok s) →
        (∃ t, clock.zone.wallAt t = r.wall clock ∧ ¬ inRange t = true) ∨
          (clock.zone.InGap (r.wall clock) ∧ clock.zone.InGap (r.wall clock + hourMillis)) := by
  intro h
  let clock : Clock :=
    ⟨⟨"EST5EDT,M3.2.0,M11.1.0", -18000, some ⟨3600, ⟨3, .second, 2⟩, ⟨11, .first, 2⟩⟩⟩, latest + 1⟩
  have hzone : clock.zone ∈ Zone.all := by decide
  have hspells : Reading.Spells (Text.trim "12:34".toList) (.time ⟨12, 34⟩) :=
    Reading.ofChars?_eq_some_iff.mp (by decide +kernel)
  have hfails : ∀ s, parse clock "12:34" ≠ .ok s := by
    intro s hs
    have hnone : (parse clock "12:34").isOk = false := by decide +kernel
    rw [hs] at hnone
    cases hnone
  have hwall : Reading.wall clock (.time ⟨12, 34⟩) = 8210266835640000 := by decide +kernel
  rcases h clock "12:34" _ hzone hspells hfails with ⟨t, ht, hout⟩ | ⟨⟨d, year, hgap⟩, -⟩
  · -- On standard time and on daylight time, an instant that shows the wall time is in range.
    refine hout (inRange_iff.mpr ?_)
    rw [hwall] at ht
    have hoffset : clock.zone.offsetAt t = -18000 ∨ clock.zone.offsetAt t = -14400 := by
      rcases clock.zone.isOffset_offsetAt t with hstandard | ⟨d, hdaylight, hshifted⟩
      · exact .inl hstandard
      · obtain rfl := Option.some.inj hdaylight
        exact .inr hshifted
    unfold Zone.wallAt at ht
    unfold Instant Wall earliest latest at *
    omega
  · -- The only gap of the year is in March.
    rw [hwall] at hgap
    obtain rfl := Option.some.inj hgap.daylight
    have hyear := (Zone.regular_of_mem_all hzone).yearOfDay_of_gapOf hgap
    rw [← hyear] at hgap
    exact absurd hgap.lt_end (by decide +kernel)

end MetricSeries.Time
