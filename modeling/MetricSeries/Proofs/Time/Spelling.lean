import Mathlib.Data.List.Basic
import MetricSeries.Proofs.Text.Numerals
import MetricSeries.Time.Reading

/-!
# The grammar of date and time texts

Which texts say what is stated here by a grammar, without reference to how a text is read
(`Reading.Spells`):

* the word `now` in any case, alone or with a sign, a numeral and, for hours, an `h` behind it;
* a time of day, `Date.Spells` and `TimeOfDay.Spells` put together by a `T`, and each of them alone.

Reading agrees with the grammar (`Reading.ofChars?_eq_some_iff`). As the forms exclude each other,
by their first character and by their length, it does not matter in which order they are tried, and
no text says two things (`Reading.Spells.unique`).
-/

namespace MetricSeries.Time

variable {cs : List Char} {d : Date} {t : TimeOfDay} {offset : Int} {reading : Reading}

/-! ### The grammar -/

/-- **A numeral**: one or more ASCII digits, and their value. -/
structure Numeral (cs : List Char) (n : Nat) : Prop where
  ne_nil : cs ≠ []
  digits : ∀ c ∈ cs, c.isDigit = true
  value : Text.digitsValue cs = n

/-- **A valid time of day** is before 24 o'clock. -/
def TimeOfDay.Valid (t : TimeOfDay) : Prop := t.hour ≤ 23 ∧ t.minute ≤ 59

/-- **A time of day**: one or two digits for the hour, a colon, two digits for the minute. -/
inductive TimeOfDay.Spells : List Char → TimeOfDay → Prop where
  | intro {hour minute : List Char} {t : TimeOfDay} (hourWidth : hour.length = 1 ∨ hour.length = 2)
      (minuteWidth : minute.length = 2) (hourValue : Numeral hour t.hour)
      (minuteValue : Numeral minute t.minute) (valid : t.Valid) :
      Spells (hour ++ ':' :: minute) t

/-- **A date**: four digits, two and two, with hyphens between them, which name a day of the
calendar. -/
inductive Date.Spells : List Char → Date → Prop where
  | intro {year month day : List Char} {d : Date} {y : Nat} (yearWidth : year.length = 4)
      (monthWidth : month.length = 2) (dayWidth : day.length = 2) (yearValue : Numeral year y)
      (monthValue : Numeral month d.month) (dayValue : Numeral day d.day) (hyear : d.year = y)
      (valid : d.Valid) : Spells (year ++ '-' :: (month ++ '-' :: day)) d

/-- The units of an offset, in milliseconds. No unit means minutes. -/
def offsetUnits : List (List Char × Int) :=
  [([], minuteMillis), (['h'], hourMillis), (['H'], hourMillis)]

/-- **What may stand behind `now`**: nothing, or a sign, a numeral below `2 ^ 32` and a unit. -/
inductive SpellsOffset : List Char → Int → Prop where
  | nothing : SpellsOffset [] 0
  | shift {sign : Char} {factor : Int} {digits unit : List Char} {n : Nat} {millis : Int}
      (sign_mem : (sign, factor) ∈ [('+', (1 : Int)), ('-', -1)]) (numeral : Numeral digits n)
      (bound : n < 2 ^ 32) (unit_mem : (unit, millis) ∈ offsetUnits) :
      SpellsOffset (sign :: (digits ++ unit)) (factor * (n * millis))

/-- **The texts of dates and times**, without blank space around them, and what they say. -/
inductive Reading.Spells : List Char → Reading → Prop where
  | now {n o w : Char} {rest : List Char} {offset : Int} (hn : n = 'n' ∨ n = 'N')
      (ho : o = 'o' ∨ o = 'O') (hw : w = 'w' ∨ w = 'W') (behind : SpellsOffset rest offset) :
      Spells (n :: o :: w :: rest) (.now offset)
  | time {cs : List Char} {t : TimeOfDay} (h : TimeOfDay.Spells cs t) : Spells cs (.time t)
  | date {cs : List Char} {d : Date} (h : Date.Spells cs d) : Spells cs (.date d)
  | dateTime {front back : List Char} {d : Date} {t : TimeOfDay} (hd : Date.Spells front d)
      (ht : TimeOfDay.Spells back t) : Spells (front ++ 'T' :: back) (.dateTime d t)

/-! ### Numerals -/

theorem readNat?_iff_numeral {n : Nat} : Text.readNat? cs = some n ↔ Numeral cs n := by
  rw [Text.readNat?_eq_some_iff]
  exact ⟨fun ⟨ne_nil, digits, value⟩ => ⟨ne_nil, digits, value⟩,
    fun ⟨ne_nil, digits, value⟩ => ⟨ne_nil, digits, value⟩⟩

/-- A text that starts with a digit does not name the clock. -/
theorem Reading.now?_of_isDigit {c : Char} (hdigit : c.isDigit = true) : now? (c :: cs) = none := by
  -- The word must start with its first letter, in one case or the other, which is no digit.
  have hletter : isLetter 'n' c = false := by
    unfold isLetter
    rw [Bool.or_eq_false_iff, decide_eq_false_iff_not, decide_eq_false_iff_not]
    refine ⟨?_, ?_⟩
    · rintro rfl
      exact absurd hdigit (by decide)
    · rintro rfl
      exact absurd hdigit (by decide)
  unfold now?
  split
  next heq =>
    obtain ⟨rfl, -⟩ := List.cons.inj heq
    rw [hletter]
    rfl
  next => rfl

/-- A text that starts with a numeral does not name the clock. -/
theorem Reading.now?_of_numeral {rest : List Char} {n : Nat} (h : Numeral cs n) :
    now? (cs ++ rest) = none := by
  obtain ⟨c, tail, rfl⟩ := List.exists_cons_of_ne_nil h.ne_nil
  exact now?_of_isDigit (h.digits c List.mem_cons_self)

/-! ### Times of day and dates -/

/-- The two numerals of a time of day are put into bounds. -/
theorem TimeOfDay.eq_some_iff_of_read {hs ms : List Char} :
    (do
      let hour ← Text.readNat? hs
      let minute ← Text.readNat? ms
      if hour ≤ 23 ∧ minute ≤ 59 then some (⟨hour, minute⟩ : TimeOfDay) else none) = some t ↔
    Text.readNat? hs = some t.hour ∧ Text.readNat? ms = some t.minute ∧ t.Valid := by
  simp only [Option.bind_eq_bind, Option.bind_eq_some_iff, Option.ite_none_right_eq_some,
    Option.some.injEq]
  refine ⟨?_, ?_⟩
  · rintro ⟨hour, hhour, minute, hminute, hbounds, rfl⟩
    exact ⟨hhour, hminute, hbounds⟩
  · rintro ⟨hhour, hminute, hbounds⟩
    exact ⟨_, hhour, _, hminute, hbounds, rfl⟩

/-- **Times of day are read by the grammar.** -/
theorem TimeOfDay.ofChars?_eq_some_iff :
    TimeOfDay.ofChars? cs = some t ↔ TimeOfDay.Spells cs t := by
  refine ⟨fun h => ?_, ?_⟩
  · unfold TimeOfDay.ofChars? at h
    dsimp only at h
    split at h
    next h₁ m₁ m₂ =>
      obtain ⟨hhour, hminute, hvalid⟩ := eq_some_iff_of_read.mp h
      show TimeOfDay.Spells ([h₁] ++ ':' :: [m₁, m₂]) t
      exact .intro (.inl rfl) rfl (readNat?_iff_numeral.mp hhour)
        (readNat?_iff_numeral.mp hminute) hvalid
    next h₁ h₂ m₁ m₂ =>
      obtain ⟨hhour, hminute, hvalid⟩ := eq_some_iff_of_read.mp h
      show TimeOfDay.Spells ([h₁, h₂] ++ ':' :: [m₁, m₂]) t
      exact .intro (.inr rfl) rfl (readNat?_iff_numeral.mp hhour)
        (readNat?_iff_numeral.mp hminute) hvalid
    next => cases h
  · rintro ⟨hourWidth, minuteWidth, hourValue, minuteValue, hvalid⟩
    obtain ⟨m₁, m₂, rfl⟩ := List.length_eq_two.mp minuteWidth
    have hread := readNat?_iff_numeral.mpr hourValue
    rcases hourWidth with hone | htwo
    · obtain ⟨h₁, rfl⟩ := List.length_eq_one_iff.mp hone
      exact eq_some_iff_of_read.mpr ⟨hread, readNat?_iff_numeral.mpr minuteValue, hvalid⟩
    · -- The two patterns start alike, so the match is taken apart.
      obtain ⟨h₁, h₂, rfl⟩ := List.length_eq_two.mp htwo
      unfold ofChars?
      dsimp only [List.cons_append, List.nil_append]
      split
      next heq => cases heq
      next heq =>
        cases heq
        exact eq_some_iff_of_read.mpr ⟨hread, readNat?_iff_numeral.mpr minuteValue, hvalid⟩
      next hne => exact absurd rfl (hne h₁ h₂ m₁ m₂)

/-- The three numerals of a date are put together to a day of the calendar. -/
theorem Date.eq_some_iff_of_read {ys ms ds : List Char} :
    (do
      let year ← Text.readNat? ys
      let month ← Text.readNat? ms
      let day ← Text.readNat? ds
      let date : Date := ⟨year, month, day⟩
      if date.Valid then some date else none) = some d ↔
    ∃ y : Nat, Text.readNat? ys = some y ∧ Text.readNat? ms = some d.month ∧
      Text.readNat? ds = some d.day ∧ d.year = y ∧ d.Valid := by
  simp only [Option.bind_eq_bind, Option.bind_eq_some_iff, Option.ite_none_right_eq_some,
    Option.some.injEq]
  refine ⟨?_, ?_⟩
  · rintro ⟨year, hyear, month, hmonth, day, hday, hvalid, rfl⟩
    exact ⟨year, hyear, hmonth, hday, rfl, hvalid⟩
  · rintro ⟨year, hyear, hmonth, hday, heq, hvalid⟩
    have hd : (⟨year, d.month, d.day⟩ : Date) = d := by rw [← heq]
    exact ⟨year, hyear, _, hmonth, _, hday, by rwa [hd], hd⟩

/-- **Dates are read by the grammar.** -/
theorem Date.ofChars?_eq_some_iff : Date.ofChars? cs = some d ↔ Date.Spells cs d := by
  refine ⟨fun h => ?_, ?_⟩
  · -- The program matches ten characters at their places, and the grammar speaks of the widths of
    -- the three numbers.
    unfold Date.ofChars? at h
    split at h
    next y₁ y₂ y₃ y₄ m₁ m₂ d₁ d₂ =>
      obtain ⟨y, hyear, hmonth, hday, heq, hvalid⟩ := eq_some_iff_of_read.mp h
      show Date.Spells ([y₁, y₂, y₃, y₄] ++ '-' :: ([m₁, m₂] ++ '-' :: [d₁, d₂])) d
      exact .intro rfl rfl rfl (readNat?_iff_numeral.mp hyear) (readNat?_iff_numeral.mp hmonth)
        (readNat?_iff_numeral.mp hday) heq hvalid
    next => cases h
  · rintro ⟨yearWidth, monthWidth, dayWidth, yearValue, monthValue, dayValue, heq, hvalid⟩
    obtain ⟨y₁, y₂, y₃, y₄, rfl⟩ := List.length_eq_four.mp yearWidth
    obtain ⟨m₁, m₂, rfl⟩ := List.length_eq_two.mp monthWidth
    obtain ⟨d₁, d₂, rfl⟩ := List.length_eq_two.mp dayWidth
    exact eq_some_iff_of_read.mpr ⟨_, readNat?_iff_numeral.mpr yearValue,
      readNat?_iff_numeral.mpr monthValue, readNat?_iff_numeral.mpr dayValue, heq, hvalid⟩

/-! ### The clock -/

/-- What is read as an offset is of the grammar. -/
theorem spellsOffset_of_nowOffset? (h : nowOffset? cs = some offset) : SpellsOffset cs offset := by
  unfold nowOffset? at h
  split at h
  next =>
    obtain rfl := Option.some.inj h
    exact .nothing
  next sign body =>
    split at h
    next digits millis hsplit =>
    -- The last character decides on the unit, and belongs to it if there is one.
    obtain ⟨unit, rfl, unit_mem⟩ :
        ∃ unit, body = digits ++ unit ∧ (unit, millis) ∈ offsetUnits := by
      split at hsplit
      next hlast =>
        cases hsplit
        exact ⟨['h'], (List.dropLast_append_getLast? _ hlast).symm, by simp [offsetUnits]⟩
      next hlast =>
        cases hsplit
        exact ⟨['H'], (List.dropLast_append_getLast? _ hlast).symm, by simp [offsetUnits]⟩
      next =>
        cases hsplit
        exact ⟨[], (List.append_nil body).symm, by simp [offsetUnits]⟩
    split at h
    next => cases h
    next n hn =>
      obtain ⟨hread, hbound⟩ := Option.filter_eq_some_iff.mp hn
      have numeral := readNat?_iff_numeral.mp hread
      have bound : n < 2 ^ 32 := of_decide_eq_true hbound
      split at h
      next hsign =>
        obtain rfl := Option.some.inj h
        rw [← Int.one_mul (n * millis)]
        exact .shift (by simp [hsign]) numeral bound unit_mem
      next =>
        rw [Option.ite_none_right_eq_some] at h
        obtain ⟨hsign, hoffset⟩ := h
        obtain rfl := Option.some.inj hoffset
        rw [← Int.neg_one_mul]
        exact .shift (by simp [hsign]) numeral bound unit_mem

/-- What is an offset by the grammar is read as it. -/
theorem SpellsOffset.nowOffset?_eq (h : SpellsOffset cs offset) : nowOffset? cs = some offset := by
  obtain _ | @⟨sign, factor, digits, unit, n, millis, sign_mem, numeral, bound, unit_mem⟩ := h
  · rfl
  have hread : (Text.readNat? digits).filter (· < UInt32.size) = some n :=
    Option.filter_eq_some_iff.mpr ⟨readNat?_iff_numeral.mpr numeral, decide_eq_true bound⟩
  unfold nowOffset?
  split
  next heq => cases heq
  next sign' body heq =>
    obtain ⟨rfl, rfl⟩ := List.cons.inj heq
    split
    next digits' millis' hsplit =>
    -- What was put behind the digits is split off them again.
    obtain ⟨rfl, rfl⟩ : digits = digits' ∧ millis = millis' := by
      simp only [offsetUnits, List.mem_cons, List.not_mem_nil, or_false, Prod.mk.injEq] at unit_mem
      rcases unit_mem with ⟨rfl, rfl⟩ | ⟨rfl, rfl⟩ | ⟨rfl, rfl⟩
      · -- Without a unit the last character is a digit.
        rw [List.append_nil] at hsplit
        split at hsplit
        next hlast => exact absurd (numeral.digits _ (List.mem_of_getLast? hlast)) (by decide)
        next hlast => exact absurd (numeral.digits _ (List.mem_of_getLast? hlast)) (by decide)
        next => exact Prod.mk.inj hsplit
      · rw [List.getLast?_concat, List.dropLast_concat] at hsplit
        exact Prod.mk.inj hsplit
      · rw [List.getLast?_concat, List.dropLast_concat] at hsplit
        exact Prod.mk.inj hsplit
    simp only [List.mem_cons, List.not_mem_nil, or_false, Prod.mk.injEq] at sign_mem
    rw [hread]
    dsimp only
    rcases sign_mem with ⟨rfl, rfl⟩ | ⟨rfl, rfl⟩
    · rw [if_pos rfl, Int.one_mul]
    · rw [if_neg (by decide), if_pos rfl, Int.neg_one_mul]

theorem isLetter_iff {lower upper c : Char} (h : lower.toUpper = upper) :
    isLetter lower c = true ↔ c = lower ∨ c = upper := by
  unfold isLetter
  rw [Bool.or_eq_true, decide_eq_true_eq, decide_eq_true_eq, h]

/-- **Texts that move the clock are read by the grammar.** -/
theorem Reading.now?_eq_some_iff : now? cs = some offset ↔ Spells cs (.now offset) := by
  refine ⟨fun h => ?_, ?_⟩
  · -- Letter by letter in either case, and an offset behind them.
    unfold now? at h
    split at h
    next n o w rest =>
      rw [Option.ite_none_right_eq_some, Bool.and_eq_true, Bool.and_eq_true, isLetter_iff rfl,
        isLetter_iff rfl, isLetter_iff rfl] at h
      obtain ⟨⟨⟨hn, ho⟩, hw⟩, hrest⟩ := h
      exact .now hn ho hw (spellsOffset_of_nowOffset? hrest)
    next => cases h
  · rintro ⟨hn, ho, hw, behind⟩
    unfold now?
    dsimp only
    rw [if_pos]
    · exact behind.nowOffset?_eq
    · rw [Bool.and_eq_true, Bool.and_eq_true, isLetter_iff rfl, isLetter_iff rfl, isLetter_iff rfl]
      exact ⟨⟨hn, ho⟩, hw⟩

/-! ### All forms -/

theorem TimeOfDay.Spells.length (h : TimeOfDay.Spells cs t) : cs.length = 4 ∨ cs.length = 5 := by
  obtain ⟨hourWidth, minuteWidth, -⟩ := h
  rw [List.length_append, List.length_cons, minuteWidth]
  omega

theorem Date.Spells.length (h : Date.Spells cs d) : cs.length = 10 := by
  obtain ⟨yearWidth, monthWidth, dayWidth, -⟩ := h
  rw [List.length_append, List.length_cons, List.length_append, List.length_cons, yearWidth,
    monthWidth, dayWidth]

/-- A text that starts with a date does not name the clock. -/
theorem Date.Spells.now?_append (h : Date.Spells cs d) (rest : List Char) :
    Reading.now? (cs ++ rest) = none := by
  obtain ⟨-, -, -, yearValue, -⟩ := h
  rw [List.append_assoc]
  exact Reading.now?_of_numeral yearValue

/-- A text that is longer than that of a time of day is of none. -/
theorem TimeOfDay.ofChars?_of_length (h : 5 < cs.length) : TimeOfDay.ofChars? cs = none := by
  refine Option.eq_none_iff_forall_ne_some.mpr fun t ht => ?_
  have hlength := (ofChars?_eq_some_iff.mp ht).length
  omega

/-- A text that is longer than that of a date is of none. -/
theorem Date.ofChars?_of_length (h : 10 < cs.length) : Date.ofChars? cs = none := by
  refine Option.eq_none_iff_forall_ne_some.mpr fun d hd => ?_
  have hlength := (ofChars?_eq_some_iff.mp hd).length
  omega

/-- A date with a time of day has the date in front of its eleventh character, a `T`. -/
theorem Reading.dateTime?_eq_some_iff {reading : Reading} : dateTime? cs = some reading ↔
    ∃ rest d t, cs.drop 10 = 'T' :: rest ∧ Date.ofChars? (cs.take 10) = some d ∧
      TimeOfDay.ofChars? rest = some t ∧ .dateTime d t = reading := by
  unfold dateTime?
  -- The letter between the date and the time stands at a fixed place.
  split
  next rest heq =>
    simp only [Option.bind_eq_bind, Option.bind_eq_some_iff, Option.pure_def, Option.some.injEq]
    refine ⟨?_, ?_⟩
    · rintro ⟨d, hd, t, ht, rfl⟩
      exact ⟨rest, d, t, heq, hd, ht, rfl⟩
    · rintro ⟨rest', d, t, heq', hd, ht, rfl⟩
      obtain rfl := (List.cons.inj (heq.symm.trans heq')).2
      exact ⟨d, hd, t, ht, rfl⟩
  next hne =>
    refine iff_of_false nofun ?_
    rintro ⟨rest, -, -, heq, -⟩
    exact hne rest heq

/-- **A text says what the grammar has it say**, and nothing else. -/
theorem Reading.ofChars?_eq_some_iff : ofChars? cs = some reading ↔ Spells cs reading := by
  refine ⟨fun h => ?_, fun h => ?_⟩
  · unfold ofChars? at h
    simp only [Option.orElse_eq_orElse, Option.orElse_eq_or, Option.or_eq_some_iff,
      Option.map_eq_some_iff] at h
    rcases h with ⟨offset, hnow, rfl⟩ | ⟨-, ⟨t, ht, rfl⟩ | ⟨-, ⟨d, hd, rfl⟩ | ⟨-, h⟩⟩⟩
    · exact now?_eq_some_iff.mp hnow
    · exact .time (TimeOfDay.ofChars?_eq_some_iff.mp ht)
    · exact .date (Date.ofChars?_eq_some_iff.mp hd)
    · obtain ⟨rest, d, t, hrest, hd, ht, rfl⟩ := dateTime?_eq_some_iff.mp h
      have hsplit : cs.take 10 ++ 'T' :: rest = cs := by
        rw [← hrest, List.take_append_drop]
      rw [← hsplit]
      exact .dateTime (Date.ofChars?_eq_some_iff.mp hd) (TimeOfDay.ofChars?_eq_some_iff.mp ht)
  · unfold ofChars?
    cases h with
    | now hn ho hw behind =>
      rw [now?_eq_some_iff.mpr (.now hn ho hw behind)]
      rfl
    | time h =>
      -- The first form is ruled out by the digit in front, the later ones are not tried.
      have hnow : now? cs = none := by
        obtain ⟨-, -, hourValue, -⟩ := h
        exact now?_of_numeral hourValue
      rw [hnow, TimeOfDay.ofChars?_eq_some_iff.mpr h]
      rfl
    | date h =>
      -- A date starts with a digit as well, and is too long for a time of day.
      have hnow : now? cs = none := by
        rw [← List.append_nil cs]
        exact h.now?_append []
      have hlong : 5 < cs.length := by
        rw [h.length]
        decide
      rw [hnow, TimeOfDay.ofChars?_of_length hlong, Date.ofChars?_eq_some_iff.mpr h]
      rfl
    | @dateTime front back d t hd ht =>
      -- A date with a time behind it is too long for either of the two alone.
      have hlength : (front ++ 'T' :: back).length = 11 + back.length := by
        rw [List.length_append, List.length_cons, hd.length]
        omega
      rw [hd.now?_append, TimeOfDay.ofChars?_of_length (by omega),
        Date.ofChars?_of_length (by omega)]
      refine dateTime?_eq_some_iff.mpr ⟨back, d, t, ?_, ?_, TimeOfDay.ofChars?_eq_some_iff.mpr ht,
        rfl⟩
      · exact List.drop_left' hd.length
      · rw [List.take_left' hd.length]
        exact Date.ofChars?_eq_some_iff.mpr hd

/-- **No text says two things.** -/
theorem Reading.Spells.unique {reading' : Reading} (h : Spells cs reading)
    (h' : Spells cs reading') : reading = reading' :=
  Option.some.inj ((ofChars?_eq_some_iff.mpr h).symm.trans (ofChars?_eq_some_iff.mpr h'))

end MetricSeries.Time
