import MetricSeries.Proofs.Time.WholeMinutes
import MetricSeries.Proofs.Time.MarkedTexts

/-!
# Relative texts

A text that looks at the clock is kept with the span that it is resolved to, as the span's relative
text. What is kept is not the text as it was written: the blank space around it is gone, and so is a
marker that asks for no shift, but a marker that asks for one stays.

The main result is `Span.parseAdjusted_relative`. The text that is kept stands for the text as it
was written at every clock, and it is there exactly if the text without its marker moves the clock
or names a time of today. There are two reasons, one for each way in which the text is kept: blank
space around a text does not count, whether the text is marked or not
(`Span.parseAdjusted_trimmed`), and the text of a date or time holds no marker
(`Adjustment.parse_of_spells`).
-/

namespace MetricSeries.Time

open Fallible

variable {cs : List Char} {text text' : String} {reading : Reading}

/-! ### Texts of dates and times -/

section Plain

open Adjustment

/-- The characters of a numeral are plain. -/
theorem Numeral.plain {n : Nat} (h : Numeral cs n) : ∀ c ∈ cs, Plain c :=
  fun c hc => plain_of_isDigit (h.digits c hc)

theorem TimeOfDay.Spells.plain {t : TimeOfDay} (h : TimeOfDay.Spells cs t) :
    ∀ c ∈ cs, Plain c := by
  obtain ⟨-, -, hourValue, minuteValue, -⟩ := h
  rw [List.forall_mem_append, List.forall_mem_cons]
  exact ⟨hourValue.plain, by decide, minuteValue.plain⟩

theorem Date.Spells.plain {d : Date} (h : Date.Spells cs d) : ∀ c ∈ cs, Plain c := by
  obtain ⟨-, -, -, yearValue, monthValue, dayValue, -, -⟩ := h
  rw [List.forall_mem_append, List.forall_mem_cons, List.forall_mem_append, List.forall_mem_cons]
  exact ⟨yearValue.plain, by decide, monthValue.plain, by decide, dayValue.plain⟩

theorem SpellsOffset.plain {offset : Int} (h : SpellsOffset cs offset) : ∀ c ∈ cs, Plain c := by
  -- A sign, digits, and a letter or nothing: all of them plain.
  cases h with
  | nothing => exact List.forall_mem_nil _
  | shift sign_mem numeral bound unit_mem =>
    rw [List.forall_mem_cons, List.forall_mem_append]
    refine ⟨?_, numeral.plain, ?_⟩
    · simp only [List.mem_cons, List.not_mem_nil, or_false, Prod.mk.injEq] at sign_mem
      rcases sign_mem with ⟨rfl, -⟩ | ⟨rfl, -⟩
      · decide
      · decide
    · simp only [offsetUnits, List.mem_cons, List.not_mem_nil, or_false, Prod.mk.injEq] at unit_mem
      rcases unit_mem with ⟨rfl, -⟩ | ⟨rfl, -⟩ | ⟨rfl, -⟩
      · exact List.forall_mem_nil _
      all_goals
        rw [List.forall_mem_singleton]
        decide

/-- **The text of a date or time is plain** throughout. -/
theorem Reading.Spells.plain (h : Reading.Spells cs reading) : ∀ c ∈ cs, Plain c := by
  -- Each form is made of letters, digits and separators that are plain.
  cases h with
  | now hn ho hw behind =>
    simp only [List.forall_mem_cons]
    refine ⟨?_, ?_, ?_, behind.plain⟩
    · rcases hn with rfl | rfl <;> decide
    · rcases ho with rfl | rfl <;> decide
    · rcases hw with rfl | rfl <;> decide
  | time ht => exact ht.plain
  | date hd => exact hd.plain
  | dateTime hd ht =>
    rw [List.forall_mem_append, List.forall_mem_cons]
    exact ⟨hd.plain, by decide, ht.plain⟩

end Plain

/-! ### Blank space around a marked text -/

namespace Adjustment

theorem OpensOnce.trimmed (h : OpensOnce cs) : Text.Trimmed cs where
  head c hc := by
    obtain ⟨c', rest, rfl, hopens, -⟩ := h.head
    obtain rfl := Option.some.inj hc
    rcases hopens with rfl | rfl <;> decide
  last := h.last

theorem OpensOnce.ne_nil (h : OpensOnce cs) : cs ≠ [] := by
  obtain ⟨c, rest, rfl, -⟩ := h.head
  exact List.cons_ne_nil c rest

variable {p : Parts} {a : Adjustment}

/-- **A marked text without the blank space around it** has the same marker. -/
theorem Parts.Of.trim (h : p.Of cs a) :
    Parts.Of ⟨Text.trimStart p.front, p.marker, []⟩ (Text.trim cs) a where
  eq := by
    have hopens := h.marker.opensOnce
    rw [h.eq, ← List.append_assoc, Text.trim_append_blank h.blank,
      Text.trim_append_of_trimmed hopens.trimmed hopens.ne_nil, List.append_nil]
  marker := h.marker
  blank := by simp

/-- Blank space around a marked text makes it one with the same marker. -/
theorem Parts.Of.of_trim (h : p.Of (Text.trim cs) a) : ∃ p' : Parts, p'.Of cs a := by
  obtain ⟨lead, tail, hcs, -, htail⟩ := Text.exists_blank_trim cs
  refine ⟨⟨lead ++ p.front, p.marker, p.blank ++ tail⟩, ?_, h.marker, ?_⟩
  · rw [hcs, h.eq]
    simp only [List.append_assoc]
  · exact List.forall_mem_append.mpr ⟨h.blank, htail⟩

/-- **Blank space around a text** has no part in what its marker asks for. -/
theorem parse_trimmed (text : String) : parse (Text.trimmed text) = parse text := by
  refine Option.ext fun a => ?_
  rw [parse_eq_some_iff, parse_eq_some_iff, Text.toList_trimmed]
  exact ⟨fun ⟨p, hp⟩ => hp.of_trim, fun ⟨p, hp⟩ => ⟨_, hp.trim⟩⟩

/-- What is left of a text without its marker is the same up to blank space. -/
theorem trim_strip_trimmed (text : String) :
    Text.trim (strip (Text.trimmed text)).toList = Text.trim (strip text).toList := by
  -- With a marker the cut pieces differ by outer blanks only; without one the text stays whole.
  cases hparse : parse text with
  | some a =>
    obtain ⟨p, hp⟩ := parse_eq_some_iff.mp hparse
    have htrim := hp.trim
    rw [← Text.toList_trimmed] at htrim
    rw [hp.strip_eq, htrim.strip_eq, String.toList_ofList, String.toList_ofList,
      Text.trim_trimEnd, Text.trim_trimEnd, Text.trim_trimStart]
  | none =>
    rw [strip_of_parse_eq_none hparse, strip_of_parse_eq_none ((parse_trimmed text).trans hparse),
      Text.toList_trimmed, (Text.trimmed_trim _).trim_eq]

/-- **The text of a date or time holds no marker.** -/
theorem parse_of_spells (h : Reading.Spells (Text.trim text.toList) reading) :
    parse text = Option.none := by
  refine Option.eq_none_iff_forall_ne_some.mpr fun a ha => ?_
  obtain ⟨p, hp⟩ := parse_eq_some_iff.mp ha
  -- The character that the marker opens with would be one of the text.
  obtain ⟨c, rest, hmarker, hopens, -⟩ := hp.marker.opensOnce.head
  have hmem : c ∈ Text.trim text.toList := by
    rw [hp.trim.eq]
    dsimp only
    rw [hmarker, List.cons_append]
    exact List.mem_append_right _ List.mem_cons_self
  exact (h.plain c hmem).opens hopens

end Adjustment

/-! ### Keeping a text -/

namespace Span

variable {clock : Clock} {s : Span}

/-- A text is resolved by what it is without the blank space around it. -/
theorem parse_congr (h : Text.trim text.toList = Text.trim text'.toList) :
    parse clock text = parse clock text' := by
  unfold parse
  rw [h]

/-- **Blank space around a text does not count**, whether the text is marked or not. -/
theorem parseAdjusted_trimmed (clock : Clock) (text : String) :
    parseAdjusted clock (Text.trimmed text) = parseAdjusted clock text := by
  unfold parseAdjusted
  rw [parse_congr (Adjustment.trim_strip_trimmed text), Adjustment.parse_trimmed,
    Text.trimmed_trimmed]

/-- A text without a marker, or with one that asks for no shift, is resolved by what stands in front
of the marker. -/
theorem parseAdjusted_of_no_shift
    (h : ∀ period amount, Adjustment.parse text ≠ some (.offset period amount)) :
    parseAdjusted clock text = parse clock (Adjustment.strip text) := by
  unfold parseAdjusted
  split
  next period amount heq => exact absurd heq (h period amount)
  next => exact bind_pure _

/-- The text of a date or time that holds no marker is resolved as it is. -/
theorem parseAdjusted_of_spells (h : Reading.Spells (Text.trim text.toList) reading) :
    parseAdjusted clock text = parse clock text := by
  have hparse := Adjustment.parse_of_spells h
  rw [parseAdjusted_of_no_shift (by simp [hparse]), Adjustment.strip_of_parse_eq_none hparse]

/-- **A text that is kept** is one that moves the clock or names a time of today, and it is kept
without the blank space around it. -/
theorem relative_of_parse (hs : parse clock text = .ok s) :
    ∃ reading, Reading.Spells (Text.trim text.toList) reading ∧
      s.relative = if reading.isRelative then some (Text.trimmed text) else none := by
  unfold parse at hs
  dsimp only at hs
  split at hs
  next => cases hs
  next =>
    split at hs
    next reading hreading =>
      refine ⟨reading, Reading.ofChars?_eq_some_iff.mp hreading, ?_⟩
      -- The text is handed on by the readings that look at the clock, and dropped by the others.
      cases reading with
      | now offset =>
        unfold resolve at hs
        dsimp only at hs
        split at hs
        next first _ =>
          obtain ⟨w, -, rfl⟩ := ofMinute_eq_ok_iff.mp hs
          rfl
        next => cases hs
      | time t =>
        obtain ⟨today, -, hs⟩ := bind_eq_ok_iff.mp hs
        obtain ⟨first, -, hs⟩ := bind_eq_ok_iff.mp hs
        obtain ⟨w, -, rfl⟩ := ofMinute_eq_ok_iff.mp hs
        rfl
      | date d =>
        obtain ⟨first, -, hs⟩ := bind_eq_ok_iff.mp hs
        obtain ⟨next, -, hs⟩ := bind_eq_ok_iff.mp hs
        obtain rfl := Except.ok.inj hs
        rfl
      | dateTime d t =>
        obtain ⟨first, -, hs⟩ := bind_eq_ok_iff.mp hs
        obtain ⟨w, -, rfl⟩ := ofMinute_eq_ok_iff.mp hs
        rfl
    next => cases hs

/-- **What is kept of a text with a marker**: the whole text if the marker asks for a shift, and the
text in front of the marker otherwise. -/
theorem relative_of_parseAdjusted (hs : parseAdjusted clock text = .ok s) :
    ∃ reading, Reading.Spells (Text.trim (Adjustment.strip text).toList) reading ∧
      (reading.isRelative = false → s.relative = none) ∧
      (reading.isRelative = true →
        s.relative = some (Text.trimmed text) ∨
        s.relative = some (Text.trimmed (Adjustment.strip text)) ∧
          ∀ period amount, Adjustment.parse text ≠ some (.offset period amount)) := by
  by_cases hshift : ∃ period amount, Adjustment.parse text = some (.offset period amount)
  · -- The shift leaves it as it is whether a text is kept, and puts the whole text in its place.
    obtain ⟨period, amount, hparse⟩ := hshift
    unfold parseAdjusted at hs
    obtain ⟨base, hbase, hs⟩ := bind_eq_ok_iff.mp hs
    rw [hparse] at hs
    obtain ⟨shifted, hshifted, hs⟩ := bind_eq_ok_iff.mp hs
    obtain rfl := Except.ok.inj hs
    obtain ⟨first, last, w, -, -, -, rfl⟩ := adjusted_eq_ok_iff.mp hshifted
    obtain ⟨reading, hreading, hrelative⟩ := relative_of_parse hbase
    refine ⟨reading, hreading, fun hfixed => ?_, fun hmoving => .inl ?_⟩
    · dsimp only
      rw [hrelative, hfixed]
      rfl
    · dsimp only
      rw [hrelative, hmoving]
      rfl
  · have hnot : ∀ period amount, Adjustment.parse text ≠ some (.offset period amount) :=
      fun period amount heq => hshift ⟨period, amount, heq⟩
    rw [parseAdjusted_of_no_shift hnot] at hs
    obtain ⟨reading, hreading, hrelative⟩ := relative_of_parse hs
    refine ⟨reading, hreading, fun hfixed => ?_, fun hmoving => .inr ⟨?_, hnot⟩⟩
    · rw [hrelative, hfixed]
      rfl
    · rw [hrelative, hmoving]
      rfl

/-- **The text that is kept stands for the text as it was written.** Let a text, with or without a
marker, be resolved to a span at some clock.

* The span keeps a text exactly if what is written in front of the marker moves the clock or names a
  time of today.
* At every clock, the text that is kept and the text as it was written are resolved alike: to the
  same span, which keeps the same text again, or to the same error. -/
theorem parseAdjusted_relative (clock : Clock) (text : String) (s : Span)
    (hs : parseAdjusted clock text = .ok s) :
    (s.isRelative = true ↔
      ∃ reading, Reading.Spells (Text.trim (Adjustment.strip text).toList) reading ∧
        reading.isRelative = true) ∧
    ∀ kept, s.relative = some kept →
      ∀ clock' : Clock, parseAdjusted clock' kept = parseAdjusted clock' text := by
  obtain ⟨reading, hreading, hfixed, hmoving⟩ := relative_of_parseAdjusted hs
  cases hrelative : reading.isRelative with
  | false =>
    have hnone := hfixed hrelative
    refine ⟨iff_of_false ?_ ?_, fun kept hkept => ?_⟩
    · unfold isRelative
      rw [hnone]
      exact Bool.false_ne_true
    · rintro ⟨reading', hreading', hrelative'⟩
      rw [← hreading.unique hreading', hrelative] at hrelative'
      cases hrelative'
    · rw [hnone] at hkept
      cases hkept
  | true =>
    refine ⟨iff_of_true ?_ ⟨reading, hreading, hrelative⟩, fun kept hkept clock' => ?_⟩
    · unfold isRelative
      rcases hmoving hrelative with hsome | ⟨hsome, -⟩
      · rw [hsome]
        rfl
      · rw [hsome]
        rfl
    · rcases hmoving hrelative with hsome | ⟨hsome, hnot⟩
      · -- The text is kept with its marker.
        obtain rfl := Option.some.inj (hsome.symm.trans hkept)
        exact parseAdjusted_trimmed clock' text
      · -- What is kept is without a marker, and cannot be taken for a text with one.
        obtain rfl := Option.some.inj (hsome.symm.trans hkept)
        rw [parseAdjusted_trimmed, parseAdjusted_of_spells hreading,
          parseAdjusted_of_no_shift hnot]

/-- A time of today that is shifted by two weeks keeps its marker, and the clock that is moved by an
hour loses one that asks for no shift. -/
theorem parseAdjusted_relative_central :
    (∃ s, parseAdjusted (centralClock 0) " 9:30 ~ADJ-2W " = .ok s ∧
      s.relative = some "9:30 ~ADJ-2W" ∧
      ∀ clock', parseAdjusted clock' "9:30 ~ADJ-2W" = parseAdjusted clock' " 9:30 ~ADJ-2W ") ∧
    ∃ s, parseAdjusted (centralClock 0) " Now+1H \x7b\x7d\t" = .ok s ∧ s.isRelative = true ∧
      s.relative = some "Now+1H" ∧
      ∀ clock', parseAdjusted clock' "Now+1H" = parseAdjusted clock' " Now+1H \x7b\x7d\t" := by
  -- One text keeps its marker, and the other has an empty one, which is not kept.
  have hshifted : parseAdjusted (centralClock 0) " 9:30 ~ADJ-2W " =
      .ok ⟨some "9:30 ~ADJ-2W", "1969-12-18T09:30", -1179000000, -1178940001, .minute⟩ := by
    decide +kernel
  have hplain : parseAdjusted (centralClock 0) " Now+1H \x7b\x7d\t" =
      .ok ⟨some "Now+1H", "1970-01-01T02:00", 3600000, 3659999, .minute⟩ := by
    decide +kernel
  obtain ⟨-, hkept⟩ := parseAdjusted_relative (centralClock 0) " 9:30 ~ADJ-2W " _ hshifted
  obtain ⟨-, hkept'⟩ := parseAdjusted_relative (centralClock 0) " Now+1H \x7b\x7d\t" _ hplain
  exact ⟨⟨_, hshifted, rfl, hkept _ rfl⟩, ⟨_, hplain, rfl, rfl, hkept' _ rfl⟩⟩

end Span

end MetricSeries.Time
