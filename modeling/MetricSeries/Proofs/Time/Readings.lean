import MetricSeries.Proofs.Text.Pieces
import MetricSeries.Proofs.Time.Calendar
import MetricSeries.Proofs.Time.Spelling

/-!
# Readings and their texts

What a text says is in bounds: dates are valid and in a year of four digits, times of day are below
24 hours, and the clock is moved by whole minutes (`Reading.valid_of_ofChars?`). The other way
round, a date and a date with a time of day have texts of fixed widths, and these are read as what
they were written from (`Date.ofChars?_chars`, `Reading.ofChars?_charsAt`).
-/

namespace MetricSeries.Time

variable {d : Date} {t : TimeOfDay} {cs : List Char} {offset : Int} {reading : Reading}

/-! ### Bounds -/

/-- A text of a date names a valid date, in a year of four digits. -/
theorem Date.Spells.bounds (h : Date.Spells cs d) : d.Valid ∧ 0 ≤ d.year ∧ d.year ≤ 9999 := by
  obtain @⟨year, month, day, d, y, yearWidth, -, -, yearValue, -, -, heq, hvalid⟩ := h
  have hbound := Text.lt_of_readNat? (readNat?_iff_numeral.mpr yearValue)
  rw [yearWidth] at hbound
  exact ⟨hvalid, by omega, by omega⟩

theorem Date.bounds_of_ofChars? (h : Date.ofChars? cs = some d) :
    d.Valid ∧ 0 ≤ d.year ∧ d.year ≤ 9999 :=
  (Date.ofChars?_eq_some_iff.mp h).bounds

theorem TimeOfDay.Spells.valid (h : TimeOfDay.Spells cs t) : t.Valid := by
  obtain ⟨-, -, -, -, hvalid⟩ := h
  exact hvalid

/-- **A valid reading** moves the clock by whole minutes, or is of a valid date in a year of four
digits, a valid time of day or both. -/
def Reading.Valid : Reading → Prop
  | .now offset => offset % minuteMillis = 0
  | .time t => t.Valid
  | .date d => d.Valid ∧ 0 ≤ d.year ∧ d.year ≤ 9999
  | .dateTime d t => (d.Valid ∧ 0 ≤ d.year ∧ d.year ≤ 9999) ∧ t.Valid

/-- The clock is moved by a number of minutes or of hours. -/
theorem SpellsOffset.minutes (h : SpellsOffset cs offset) : offset % minuteMillis = 0 := by
  obtain _ | @⟨sign, factor, digits, unit, n, millis, sign_mem, numeral, bound, unit_mem⟩ := h
  · rfl
  have hmillis : millis % minuteMillis = 0 := by
    have hall : ∀ entry ∈ offsetUnits, entry.2 % minuteMillis = 0 := by decide
    exact hall _ unit_mem
  rw [← mul_assoc, Int.mul_emod, hmillis, Int.mul_zero, Int.zero_emod]

/-- **What a text says is valid.** -/
theorem Reading.valid_of_ofChars? (h : ofChars? cs = some reading) : reading.Valid := by
  cases ofChars?_eq_some_iff.mp h with
  | now hn ho hw behind => exact behind.minutes
  | time ht => exact ht.valid
  | date hd => exact hd.bounds
  | dateTime hd ht => exact ⟨hd.bounds, ht.valid⟩

/-- A text of a date is of no other form. -/
theorem Reading.ofChars?_of_date (h : Date.ofChars? cs = some d) :
    Reading.ofChars? cs = some (.date d) :=
  ofChars?_eq_some_iff.mpr (.date (Date.ofChars?_eq_some_iff.mp h))

/-! ### Dates -/

theorem Date.chars_eq (hyear : 0 ≤ d.year ∧ d.year ≤ 9999) :
    d.chars = Text.padded 4 d.year.toNat ++ '-' ::
      (Text.padded 2 d.month ++ '-' :: Text.padded 2 d.day) := by
  unfold Date.chars Date.yearText
  rw [if_pos hyear]

/-- What a number is written as with zeros in front is a numeral. -/
theorem numeral_padded (width n : Nat) : Numeral (Text.padded width n) n :=
  readNat?_iff_numeral.mp (Text.readNat?_padded width n)

/-- **The text of a date reads back** as the date. -/
theorem Date.ofChars?_chars (hvalid : d.Valid) (hyear : 0 ≤ d.year ∧ d.year ≤ 9999) :
    Date.ofChars? d.chars = some d := by
  have hmonth := hvalid.2.1
  have hday := hvalid.2.2.2.trans (monthLength_mem _ _).2
  rw [Date.chars_eq hyear]
  -- Years have four digits, months and days two.
  refine Date.ofChars?_eq_some_iff.mpr (.intro ?_ ?_ ?_ (numeral_padded 4 _) (numeral_padded 2 _)
    (numeral_padded 2 _) (Int.toNat_of_nonneg hyear.1).symm hvalid)
  · exact Text.length_padded (by decide) (by omega)
  · exact Text.length_padded (by decide) (by omega)
  · exact Text.length_padded (by decide) (by omega)

theorem Date.isDigit_or_hyphen_of_mem_chars (hyear : 0 ≤ d.year ∧ d.year ≤ 9999) {c : Char}
    (h : c ∈ d.chars) : c.isDigit = true ∨ c = '-' := by
  rw [Date.chars_eq hyear] at h
  simp only [List.mem_append, List.mem_cons] at h
  rcases h with h | rfl | h | rfl | h
  · exact .inl (Text.isDigit_of_mem_padded h)
  · exact .inr rfl
  · exact .inl (Text.isDigit_of_mem_padded h)
  · exact .inr rfl
  · exact .inl (Text.isDigit_of_mem_padded h)

theorem Date.trimmed_chars (hyear : 0 ≤ d.year ∧ d.year ≤ 9999) : Text.Trimmed d.chars := by
  refine Text.trimmed_of_forall fun c hc => ?_
  rcases Date.isDigit_or_hyphen_of_mem_chars hyear hc with hdigit | rfl
  · exact Text.isBlank_of_isDigit hdigit
  · rfl

/-! ### Times of day -/

/-- The text of a time of day, with two digits for the hour. -/
def TimeOfDay.chars (t : TimeOfDay) : List Char :=
  Text.padded 2 t.hour ++ ':' :: Text.padded 2 t.minute

/-- **The text of a time of day reads back** as the time of day. -/
theorem TimeOfDay.ofChars?_chars (hvalid : t.Valid) : TimeOfDay.ofChars? t.chars = some t := by
  obtain ⟨hhour, hminute⟩ := hvalid
  refine TimeOfDay.ofChars?_eq_some_iff.mpr (.intro (.inr ?_) ?_ (numeral_padded 2 _)
    (numeral_padded 2 _) ⟨hhour, hminute⟩)
  · exact Text.length_padded (by decide) (by omega)
  · exact Text.length_padded (by decide) (by omega)

/-! ### Dates with a time of day -/

/-- The text of a date with a time of day. -/
def Date.charsAt (d : Date) (t : TimeOfDay) : List Char := d.chars ++ 'T' :: t.chars

theorem Date.trimmed_charsAt (hyear : 0 ≤ d.year ∧ d.year ≤ 9999) (t : TimeOfDay) :
    Text.Trimmed (d.charsAt t) := by
  refine Text.trimmed_of_forall fun c hc => ?_
  unfold charsAt TimeOfDay.chars at hc
  simp only [List.mem_append, List.mem_cons] at hc
  -- Every character is a digit or one of the separators.
  rcases hc with hc | rfl | hc | rfl | hc
  · rcases isDigit_or_hyphen_of_mem_chars hyear hc with hdigit | rfl
    · exact Text.isBlank_of_isDigit hdigit
    · rfl
  · rfl
  · exact Text.isBlank_of_isDigit (Text.isDigit_of_mem_padded hc)
  · rfl
  · exact Text.isBlank_of_isDigit (Text.isDigit_of_mem_padded hc)

/-- **The text of a date with a time of day** reads back. -/
theorem Reading.ofChars?_charsAt (hvalid : d.Valid) (hyear : 0 ≤ d.year ∧ d.year ≤ 9999)
    (ht : t.Valid) : ofChars? (d.charsAt t) = some (.dateTime d t) :=
  ofChars?_eq_some_iff.mpr (.dateTime
    (Date.ofChars?_eq_some_iff.mp (Date.ofChars?_chars hvalid hyear))
    (TimeOfDay.ofChars?_eq_some_iff.mp (TimeOfDay.ofChars?_chars ht)))

end MetricSeries.Time
