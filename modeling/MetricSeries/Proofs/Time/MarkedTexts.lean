import MetricSeries.Proofs.Time.Markers

/-!
# Texts with a marker

A marker is searched from the front of a text, and the search may come across tildes and braces that
start none. Still there is only one place for a marker. The tilde or the brace that it starts with
is the only one in it (`Adjustment.OpensOnce`), so it is the last one of the whole text, and nothing
but blank space stands behind the marker (`OpensOnce.unique`). The search finds that place whatever
stands in front of it (`splitMarker?_eq_some_iff`).

`Adjustment.Parts.Of` says that a text is marked, and what its parts are. The main result is
`Adjustment.parse_strip_spec`: writing a marker, reading it and taking it off agree.
-/

namespace MetricSeries.Time.Adjustment

variable {cs front marker blank body number : List Char} {a : Adjustment} {period : Period}

/-! ### The place of a marker -/

/-- The characters that a marker can start with. -/
def Opens (c : Char) : Prop := c = '~' ∨ c = '\x7b'

/-- **A plain character** neither opens a marker nor is blank. -/
structure Plain (c : Char) : Prop where
  opens : ¬ Opens c
  blank : Text.isBlank c = false

instance : DecidablePred Opens := fun c => inferInstanceAs (Decidable (c = '~' ∨ c = '\x7b'))

instance : DecidablePred Plain := fun c =>
  decidable_of_iff (¬ Opens c ∧ Text.isBlank c = false) ⟨fun ⟨o, b⟩ => ⟨o, b⟩, fun ⟨o, b⟩ => ⟨o, b⟩⟩

theorem plain_of_isDigit {c : Char} (h : c.isDigit = true) : Plain c := by
  refine ⟨?_, Text.isBlank_of_isDigit h⟩
  rintro (rfl | rfl)
  · exact absurd h (by decide)
  · exact absurd h (by decide)

/-- Signs, units and what else is plain between them make a text of plain characters. -/
theorem plain_of_parts {sign digits unit : List Char} {factor : Int}
    (sign_mem : (sign, factor) ∈ signs) (unit_mem : (unit, period) ∈ units)
    (hdigits : ∀ c ∈ digits, Plain c) : ∀ c ∈ (sign ++ digits) ++ unit, Plain c := by
  intro c hc
  -- The sign is one of three, and the unit is a letter or nothing.
  rcases List.mem_append.mp hc with hc | hunit
  · rcases List.mem_append.mp hc with hsign | hdigit
    · simp only [signs, List.mem_cons, List.not_mem_nil, or_false, Prod.mk.injEq] at sign_mem
      rcases sign_mem with ⟨rfl, -⟩ | ⟨rfl, -⟩ | ⟨rfl, -⟩
      · cases hsign
      all_goals
        obtain rfl := List.mem_singleton.mp hsign
        decide
    · exact hdigits c hdigit
  · rcases eq_of_mem_units unit_mem with ⟨rfl, -⟩ | rfl
    · cases hunit
    · obtain rfl := List.mem_singleton.mp hunit
      cases period <;> decide

/-- What can stand in a marker is made of plain characters. -/
theorem SpellsBody.plain (h : SpellsBody body a) : ∀ c ∈ body, Plain c := by
  cases h with
  | nothing => simp
  | shift number_spells unit_mem =>
    obtain ⟨sign_mem, numeral, -⟩ := number_spells
    exact plain_of_parts sign_mem unit_mem fun c hc => plain_of_isDigit (numeral.digits c hc)

/-- **A text that opens once** starts with an opening character, has no other one in it, and does
not end in a blank character. -/
structure OpensOnce (cs : List Char) : Prop where
  head : ∃ c rest, cs = c :: rest ∧ Opens c ∧ ∀ c' ∈ rest, ¬ Opens c'
  last : ∀ c ∈ cs.getLast?, Text.isBlank c = false

/-- What plain characters are enclosed to opens once. -/
theorem Encloses.opensOnce (h : Encloses marker body) (hbody : ∀ c ∈ body, Plain c) :
    OpensOnce marker := by
  -- Behind its first character, neither kind of marker has one that could open another.
  cases h with
  | braces =>
    refine ⟨⟨_, _, rfl, .inr rfl, fun c hc => ?_⟩, fun c hc => ?_⟩
    · rcases List.mem_append.mp hc with hc | hc
      · exact (hbody c hc).opens
      · obtain rfl := List.mem_singleton.mp hc
        decide
    · rw [← List.cons_append, List.getLast?_concat] at hc
      obtain rfl := Option.some.inj hc
      rfl
  | tilde =>
    have hrest : ∀ c ∈ 'A' :: 'D' :: 'J' :: body, Plain c := by
      simp only [List.forall_mem_cons]
      exact ⟨by decide, by decide, by decide, hbody⟩
    refine ⟨⟨_, _, rfl, .inl rfl, fun c hc => (hrest c hc).opens⟩, fun c hc => ?_⟩
    rw [List.getLast?_cons_of_ne_nil (List.cons_ne_nil _ _)] at hc
    exact (hrest c (List.mem_of_getLast? hc)).blank

theorem Spells.opensOnce (h : Spells marker a) : OpensOnce marker := by
  obtain ⟨body, hencloses, hbody⟩ := h
  exact hencloses.opensOnce hbody.plain

/-- A text with something in it in front of an opening character does not open once. -/
theorem OpensOnce.eq_nil {c : Char} {rest : List Char} (h : OpensOnce marker)
    (hblank : ∀ c ∈ blank, Text.isBlank c = true) (hc : Opens c)
    (heq : marker ++ blank = front ++ c :: rest) : front = [] := by
  obtain ⟨⟨c₀, tail, rfl, -, honce⟩, -⟩ := h
  cases front with
  | nil => rfl
  | cons c₁ front =>
    -- The opening character would have to be in the marker behind its first one, or blank.
    rw [List.cons_append, List.cons_append] at heq
    have hmem : c ∈ tail ++ blank := by
      rw [(List.cons.inj heq).2]
      exact List.mem_append_right _ List.mem_cons_self
    rcases List.mem_append.mp hmem with hmem | hmem
    · exact absurd hc (honce c hmem)
    · have hb := hblank c hmem
      rcases hc with rfl | rfl
      · exact absurd hb (by decide)
      · exact absurd hb (by decide)

/-- **There is one place for a marker**: a text has a text that opens once behind it, and nothing
but blank space behind that, in one way at most. -/
theorem OpensOnce.unique {front' marker' blank' : List Char} (h : OpensOnce marker)
    (h' : OpensOnce marker') (hblank : ∀ c ∈ blank, Text.isBlank c = true)
    (hblank' : ∀ c ∈ blank', Text.isBlank c = true)
    (heq : front ++ (marker ++ blank) = front' ++ (marker' ++ blank')) :
    front = front' ∧ marker = marker' ∧ blank = blank' := by
  -- Neither text starts within the other one, so both have the same front.
  have hfront : front = front' := by
    obtain ⟨c, rest, hmarker, hc, -⟩ := h.head
    obtain ⟨c', rest', hmarker', hc', -⟩ := h'.head
    rcases List.append_eq_append_iff.mp heq with ⟨between, rfl, hrest⟩ | ⟨between, rfl, hrest⟩
    · rw [hmarker', List.cons_append] at hrest
      rw [h.eq_nil hblank hc' hrest, List.append_nil]
    · rw [hmarker, List.cons_append] at hrest
      rw [h'.eq_nil hblank' hc hrest, List.append_nil]
  subst hfront
  have hrest := List.append_cancel_left heq
  -- What is left without the blank space at its end is the marker.
  have hmarker : marker = marker' := by
    rw [← Text.trimEnd_append h.last hblank, hrest, Text.trimEnd_append h'.last hblank']
  subst hmarker
  exact ⟨rfl, rfl, List.append_cancel_left hrest⟩

/-! ### The search -/

theorem splitMarker?_of_marker (h : ofMarker? marker = some a) :
    splitMarker? marker = some ([], a) := by
  cases marker with
  | nil => cases h
  | cons c cs =>
    unfold splitMarker?
    dsimp only
    rw [h]

theorem splitMarker?_cons {c : Char} (h : ofMarker? (c :: cs) = Option.none) :
    splitMarker? (c :: cs) = (splitMarker? cs).map fun (front, a) => (c :: front, a) := by
  rw [splitMarker?.eq_2]
  rw [h]

/-- **The search finds a marker** at the end of a text whatever stands in front of it, and finds
nothing else. -/
theorem splitMarker?_eq_some_iff : splitMarker? cs = some (front, a) ↔
    ∃ marker, cs = front ++ marker ∧ Spells marker a := by
  refine ⟨fun h => ?_, ?_⟩
  · induction cs generalizing front with
    | nil => cases h
    | cons c cs ih =>
      unfold splitMarker? at h
      split at h
      next hmarker =>
        cases h
        exact ⟨c :: cs, rfl, ofMarker?_eq_some_iff.mp hmarker⟩
      next =>
        obtain ⟨⟨front', a'⟩, hsplit, heq⟩ := Option.map_eq_some_iff.mp h
        cases heq
        obtain ⟨marker, rfl, hmarker⟩ := ih hsplit
        exact ⟨marker, rfl, hmarker⟩
  · rintro ⟨marker, rfl, hmarker⟩
    obtain ⟨c, rest, rfl, hc, -⟩ := hmarker.opensOnce.head
    induction front with
    | nil => exact splitMarker?_of_marker (ofMarker?_eq_some_iff.mpr hmarker)
    | cons c' front ih =>
      -- A marker that starts earlier would have to have the opening character in it.
      have hnone : ofMarker? (c' :: (front ++ c :: rest)) = Option.none := by
        refine Option.eq_none_iff_forall_ne_some.mpr fun a' ha' => ?_
        have hearlier := (ofMarker?_eq_some_iff.mp ha').opensOnce
        have hnil : c' :: front = [] := hearlier.eq_nil (by simp) hc (List.append_nil _)
        cases hnil
      rw [List.cons_append, splitMarker?_cons hnone, ih]
      rfl

/-! ### Marked texts -/

/-- The parts of a text with a marker: what stands in front of the marker, the marker, and the blank
space behind it. -/
@[ext] structure Parts where
  front : List Char
  marker : List Char
  blank : List Char

/-- **A marked text**, with its parts and what its marker asks for. -/
structure Parts.Of (p : Parts) (cs : List Char) (a : Adjustment) : Prop where
  eq : cs = p.front ++ (p.marker ++ p.blank)
  marker : Spells p.marker a
  blank : ∀ c ∈ p.blank, Text.isBlank c = true

variable {p p' : Parts} {a' : Adjustment} {text : String}

/-- **A text is marked in one way** at most. -/
theorem Parts.Of.unique (h : p.Of cs a) (h' : p'.Of cs a') : p = p' := by
  obtain ⟨hfront, hmarker, hblank⟩ := h.marker.opensOnce.unique h'.marker.opensOnce h.blank h'.blank
    (h.eq.symm.trans h'.eq)
  exact Parts.ext hfront hmarker hblank

/-- A marked text is split in front of its marker, and blank space behind the marker is dropped. -/
theorem Parts.Of.split?_eq (h : p.Of cs a) : split? cs = some (p.front, a) := by
  unfold split?
  refine splitMarker?_eq_some_iff.mpr ⟨p.marker, ?_, h.marker⟩
  rw [h.eq, ← List.append_assoc]
  refine Text.trimEnd_append (fun c hc => ?_) h.blank
  obtain ⟨c₀, rest, hmarker, -⟩ := h.marker.opensOnce.head
  rw [List.getLast?_append_of_ne_nil _ (by simp [hmarker])] at hc
  exact h.marker.opensOnce.last c hc

/-- A text that is split is marked. -/
theorem exists_parts_of_split? (h : split? cs = some (front, a)) :
    ∃ p : Parts, p.Of cs a ∧ p.front = front := by
  obtain ⟨marker, heq, hmarker⟩ := splitMarker?_eq_some_iff.mp h
  obtain ⟨blank, hcs, hblank⟩ := Text.exists_blank_trimEnd cs
  rw [heq, List.append_assoc] at hcs
  exact ⟨⟨front, marker, blank⟩, ⟨hcs, hmarker, hblank⟩, rfl⟩

/-- **A text is read by its marker.** -/
theorem parse_eq_some_iff : parse text = some a ↔ ∃ p : Parts, p.Of text.toList a := by
  unfold parse
  refine ⟨fun h => ?_, ?_⟩
  · obtain ⟨⟨front, a'⟩, hsplit, rfl⟩ := Option.map_eq_some_iff.mp h
    obtain ⟨p, hp, -⟩ := exists_parts_of_split? hsplit
    exact ⟨p, hp⟩
  · rintro ⟨p, hp⟩
    rw [hp.split?_eq, Option.map_some]

/-- What is left of a marked text is the text in front of the marker, without the blank space at its
end. -/
theorem Parts.Of.strip_eq (h : p.Of text.toList a) :
    strip text = String.ofList (Text.trimEnd p.front) := by
  unfold strip
  rw [h.split?_eq]

/-- A marker behind a text marks it. -/
theorem Spells.of_append (h : Spells marker a) (front : List Char) :
    Parts.Of ⟨front, marker, []⟩ (front ++ marker) a :=
  ⟨by rw [List.append_nil], h, by simp⟩

theorem parse_append (hmarker : ofMarker? marker = some a) :
    parse (String.ofList (front ++ marker)) = some a := by
  refine parse_eq_some_iff.mpr ⟨⟨front, marker, []⟩, ?_⟩
  rw [String.toList_ofList]
  exact (ofMarker?_eq_some_iff.mp hmarker).of_append front

/-- **The text without the marker** is the text in front of it. -/
theorem strip_append (hmarker : ofMarker? marker = some a) (htrimmed : Text.Trimmed front) :
    strip (String.ofList (front ++ marker)) = String.ofList front := by
  have hmarked : Parts.Of ⟨front, marker, []⟩ (String.ofList (front ++ marker)).toList a := by
    rw [String.toList_ofList]
    exact (ofMarker?_eq_some_iff.mp hmarker).of_append front
  rw [hmarked.strip_eq, Text.trimEnd_eq_self htrimmed.last]

/-- A text that is not marked stays as it is. -/
theorem strip_of_parse_eq_none (h : parse text = Option.none) : strip text = text := by
  unfold strip
  rw [Option.map_eq_none_iff.mp h]

/-- **The shape of a marker** with an amount: an optional sign, one or more characters in the place
of the digits, and an optional unit, in one of the two forms. Digits of every script can be in this
place, as they are no opening characters, no blank ones and no units. -/
inductive Shaped : List Char → List Char → Prop where
  | intro {sign digits unit marker : List Char} {factor : Int} {period : Period}
      (sign_mem : (sign, factor) ∈ signs) (ne_nil : digits ≠ [])
      (plain : ∀ c ∈ digits, Plain c ∧ Period.ofLetter? c = Option.none)
      (unit_mem : (unit, period) ∈ units) (encloses : Encloses marker ((sign ++ digits) ++ unit)) :
      Shaped marker (sign ++ digits)

/-- **A text of the shape of a marker** whose amount is none is not marked. -/
theorem Shaped.parse_eq_none (h : Shaped marker number)
    (hnone : ¬ ∃ amount, SpellsAmount number amount) (hblank : ∀ c ∈ blank, Text.isBlank c = true) :
    parse (String.ofList (front ++ (marker ++ blank))) = Option.none := by
  refine Option.eq_none_iff_forall_ne_some.mpr fun a ha => hnone ?_
  obtain ⟨p, hp⟩ := parse_eq_some_iff.mp ha
  obtain @⟨sign, digits, unit, marker, factor, period, sign_mem, ne_nil, plain, unit_mem,
    encloses⟩ := h
  -- The marker that is read is the text of this shape, which stands in the only place for one.
  have hopens : OpensOnce marker :=
    encloses.opensOnce (plain_of_parts sign_mem unit_mem fun c hc => (plain c hc).1)
  obtain ⟨-, hmarker, -⟩ := hopens.unique hp.marker.opensOnce hblank hp.blank
    ((String.toList_ofList).symm.trans hp.eq)
  obtain ⟨body, hencloses, hbody⟩ := hp.marker
  rw [← hmarker] at hencloses
  obtain rfl := encloses.unique hencloses
  -- Its amount is read from what is in front of the unit.
  have hne : sign ++ digits ≠ [] := List.append_ne_nil_of_right_ne_nil _ ne_nil
  rw [← ofBody?_eq_some_iff, ofBody?_append hne ?_ unit_mem] at hbody
  · obtain ⟨amount, hamount, -⟩ := Option.map_eq_some_iff.mp hbody
    exact ⟨amount, readInt64?_eq_some_iff.mp hamount⟩
  · intro c hc
    rw [List.getLast?_append_of_ne_nil _ ne_nil] at hc
    exact (plain c (List.mem_of_getLast? hc)).2

/-- **Writing a marker, reading it and taking it off agree.** Let any text and any adjustment be
given.

* With the marker of the adjustment behind it, the text is read as this adjustment. Without the
  marker again, it is the text up to the blank space at its end.
* The text is read as the adjustment exactly when it is marked with it, which it is in one way. What
  is left of it is what stands in front of its marker, up to the blank space at the end of that.
* A text that is read as no adjustment stays as it is. This is so of a text of the shape of a marker
  if its amount does not fit 64 bits or is not written in ASCII digits. -/
theorem parse_strip_spec (text : String) (a : Adjustment) :
    (parse (text ++ a.text) = some a ∧
      strip (text ++ a.text) = String.ofList (Text.trimEnd text.toList)) ∧
    (parse text = some a ↔ ∃! p : Parts, p.Of text.toList a) ∧
    (∀ p : Parts, p.Of text.toList a → strip text = String.ofList (Text.trimEnd p.front)) ∧
    (parse text = Option.none → strip text = text) ∧
    ∀ marker number blank, Shaped marker number → (∀ c ∈ blank, Text.isBlank c = true) →
      (¬ ∃ amount, SpellsAmount number amount) →
      parse (text ++ String.ofList (marker ++ blank)) = Option.none ∧
        strip (text ++ String.ofList (marker ++ blank)) =
          text ++ String.ofList (marker ++ blank) := by
  -- A written adjustment behind a text is a marker with nothing behind it.
  have hwritten : Parts.Of ⟨text.toList, a.chars, []⟩ (text ++ a.text).toList a := by
    rw [String.toList_append, Adjustment.text, String.toList_ofList]
    exact (spells_chars a).of_append text.toList
  refine ⟨⟨?_, ?_⟩, ⟨fun h => ?_, fun h => ?_⟩, fun p hp => hp.strip_eq, ?_, ?_⟩
  · exact parse_eq_some_iff.mpr ⟨_, hwritten⟩
  · exact hwritten.strip_eq
  · obtain ⟨p, hp⟩ := parse_eq_some_iff.mp h
    exact ⟨p, hp, fun p' hp' => hp'.unique hp⟩
  · exact parse_eq_some_iff.mpr h.exists
  · exact strip_of_parse_eq_none
  · intro marker number blank hshaped hblank hnone
    have hparse : parse (text ++ String.ofList (marker ++ blank)) = Option.none := by
      have htext : String.ofList (text.toList ++ (marker ++ blank)) =
          text ++ String.ofList (marker ++ blank) := by
        rw [String.ofList_append, String.ofList_toList]
      rw [← htext]
      exact hshaped.parse_eq_none hnone hblank
    exact ⟨hparse, strip_of_parse_eq_none hparse⟩

/-- Only the last one of two markers is read and taken off, an unknown unit makes none, and neither
do an amount of 64 bits and one more nor a digit three that is not an ASCII one, also behind a
marker. -/
theorem parse_strip_spec_repeated :
    (∃! p : Parts, p.Of "now\x7b-1D\x7d~ADJ+2H ".toList (.offset .hour 2)) ∧
    strip "now\x7b-1D\x7d~ADJ+2H " = "now\x7b-1D\x7d" ∧
    strip "now\x7b-2X\x7d" = "now\x7b-2X\x7d" ∧
    strip "now\x7b1D\x7d~ADJ9223372036854775808" = "now\x7b1D\x7d~ADJ9223372036854775808" ∧
    strip "now\x7b1D\x7d\x7b-\u0663W\x7d " = "now\x7b1D\x7d\x7b-\u0663W\x7d " := by
  obtain ⟨-, hmarked, hstrip, -⟩ := parse_strip_spec "now\x7b-1D\x7d~ADJ+2H " (.offset .hour 2)
  obtain ⟨p, hp, hunique⟩ := hmarked.mp (by decide +kernel)
  have hfront : p.front = "now\x7b-1D\x7d".toList := by
    have hsplit := hp.split?_eq
    have heq : split? "now\x7b-1D\x7d~ADJ+2H ".toList =
        some ("now\x7b-1D\x7d".toList, .offset .hour 2) := by decide +kernel
    exact (Prod.mk.inj (Option.some.inj (hsplit.symm.trans heq))).1
  have hunknown := (parse_strip_spec "now\x7b-2X\x7d" .none).2.2.2.1 (by decide +kernel)
  -- The amounts have the shape of one, and are none.
  have hlarge : Shaped "~ADJ9223372036854775808".toList "9223372036854775808".toList := by
    have hdigits : ∀ c ∈ "9223372036854775808".toList, c.isDigit = true :=
      List.all_eq_true.mp (by decide +kernel)
    have hmarker : "~ADJ9223372036854775808".toList =
        '~' :: 'A' :: 'D' :: 'J' :: (([] ++ "9223372036854775808".toList) ++ []) := by
      decide +kernel
    rw [hmarker]
    exact .intro (show ([], 1) ∈ signs by decide) (by decide)
      (fun c hc => ⟨plain_of_isDigit (hdigits c hc), Period.ofLetter?_of_isDigit (hdigits c hc)⟩)
      (show ([], .day) ∈ units by decide) (.tilde _)
  have hforeign : Shaped ['\x7b', '-', '\u0663', 'W', '\x7d'] ['-', '\u0663'] := by
    refine .intro (show (['-'], -1) ∈ signs by decide) (show ['\u0663'] ≠ [] by decide)
      (fun c hc => ?_) (show (['W'], .week) ∈ units by decide) (.braces ['-', '\u0663', 'W'])
    obtain rfl := List.mem_singleton.mp hc
    exact ⟨by decide, by decide⟩
  have hnone : ∀ {number}, Text.readInt64? number = Option.none →
      ¬ ∃ amount, SpellsAmount number amount := by
    rintro number h ⟨amount, hamount⟩
    rw [readInt64?_eq_some_iff.mpr hamount] at h
    cases h
  obtain ⟨-, -, -, -, hshaped⟩ := parse_strip_spec "now\x7b1D\x7d" .none
  have hlarge' := (hshaped _ _ [] hlarge (by simp) (hnone (by decide +kernel))).2
  have hforeign' := (hshaped _ _ [' '] hforeign (by simp [Text.isBlank])
    (hnone (by decide +kernel))).2
  refine ⟨⟨p, hp, hunique⟩, ?_, hunknown, ?_, ?_⟩
  · rw [hstrip p hp, hfront]
    decide +kernel
  · exact hlarge'
  · exact hforeign'

end MetricSeries.Time.Adjustment
