import Mathlib.Data.List.Basic
import MetricSeries.Json.Printer
import MetricSeries.Json.Reader
import MetricSeries.Proofs.Text.Numerals

/-!
# Written numbers are read back

A number literal is made of a sign, a whole part, a fraction and an exponent, and each reader takes
the part it is for, as far as that goes. So a literal whose parts are well formed is read back as it
was written (`numeral?_text`), if what follows does not make the number longer (`EndsNumeral`).
The literals that are written for natural numbers are well formed (`Numeral.wellFormed_ofNat`).
-/

namespace MetricSeries.Json

variable {ds rest : List Char} {n : Numeral}

/-! ### Well-formed literals -/

/-- A run of digits. -/
def IsDigits (ds : List Char) : Prop := ds ≠ [] ∧ ∀ d ∈ ds, Text.isDigit d = true

/-- **A literal is well formed**: the whole part is a lone zero or does not start with zero, and an
exponent has digits. -/
structure Numeral.WellFormed (n : Numeral) : Prop where
  whole : n.whole = ['0'] ∨ IsDigits n.whole ∧ n.whole.head? ≠ some '0'
  fraction : ∀ d ∈ n.fraction, Text.isDigit d = true
  exponent : ∀ e ∈ n.exponent, IsDigits e.digits

/-- The characters of the fraction, with the decimal point. -/
def fractionText (ds : List Char) : List Char := if ds.isEmpty then [] else '.' :: ds

def exponentText : Option Exponent → List Char
  | none => []
  | some e => 'e' :: ((if e.negative then ['-'] else []) ++ e.digits)

theorem Numeral.text_eq (n : Numeral) :
    n.text = (if n.negative then ['-'] else []) ++
      (n.whole ++ (fractionText n.fraction ++ exponentText n.exponent)) :=
  (List.append_assoc _ _ _).trans (List.append_assoc _ _ _)

/-- What follows does not start with a digit. -/
def EndsDigits (rest : List Char) : Prop := ∀ c ∈ rest.head?, Text.isDigit c = false

/-- What follows does not make a number longer. -/
def EndsNumeral (rest : List Char) : Prop :=
  ∀ c ∈ rest.head?, Text.isDigit c = false ∧ c ≠ '.' ∧ c ≠ 'e' ∧ c ≠ 'E'

theorem EndsNumeral.endsDigits (h : EndsNumeral rest) : EndsDigits rest :=
  fun c hc => (h c hc).1

theorem IsDigits.head (h : IsDigits ds) : ∃ d ds', ds = d :: ds' ∧ Text.isDigit d = true := by
  obtain ⟨d, ds, rfl⟩ := List.exists_cons_of_ne_nil h.1
  exact ⟨d, ds, rfl, h.2 d List.mem_cons_self⟩

theorem ne_of_isDigit {c d : Char} (h : Text.isDigit c = true) (hd : Text.isDigit d = false) :
    c ≠ d := by
  rintro rfl
  rw [h] at hd
  cases hd

/-! ### Natural numbers -/

theorem Numeral.wellFormed_ofNat (n : Nat) : (ofNat n).WellFormed where
  whole := by
    rcases Nat.eq_zero_or_pos n with rfl | hpos
    · exact .inl rfl
    · exact .inr ⟨⟨Text.decimal_ne_nil n, fun d => Text.isDigit_of_mem_decimal⟩,
        Text.head?_decimal hpos⟩
  fraction := by simp [ofNat]
  exponent := by simp [ofNat]

theorem Numeral.int?_ofNat (n : Nat) : (ofNat n).int? = some (n : Int) := by
  unfold int? ofNat
  simp

/-! ### Reading the parts -/

theorem digits?_append (h : IsDigits ds) (hrest : EndsDigits rest) :
    digits? (ds ++ rest) = some (ds, rest) := by
  -- Reading takes digits as long as there are any: all of these, and none of the rest.
  have htake : rest.takeWhile Text.isDigit = [] := by
    cases rest with
    | nil => rfl
    | cons c rest => exact List.takeWhile_cons_of_neg (by simp [hrest c rfl])
  have hdrop : rest.dropWhile Text.isDigit = rest := by
    cases rest with
    | nil => rfl
    | cons c rest => exact List.dropWhile_cons_of_neg (by simp [hrest c rfl])
  unfold digits?
  rw [List.takeWhile_append_of_pos h.2, List.dropWhile_append_of_pos h.2, htake, hdrop,
    List.append_nil]
  obtain ⟨d, ds, rfl, -⟩ := h.head
  rfl

theorem whole?_append (h : ds = ['0'] ∨ IsDigits ds ∧ ds.head? ≠ some '0')
    (hrest : EndsDigits rest) : whole? (ds ++ rest) = some (ds, rest) := by
  rcases h with rfl | ⟨hdigits, hzero⟩
  · rfl
  · -- Digits that do not start with a zero are read to their end; the zero alone is the other
    -- reading.
    rw [whole?.eq_2, digits?_append hdigits hrest]
    obtain ⟨d, ds, rfl, -⟩ := hdigits.head
    rintro rest' heq
    obtain ⟨rfl, -⟩ := List.cons.inj heq
    exact hzero rfl

theorem fraction?_append (h : ∀ d ∈ ds, Text.isDigit d = true) (hdigits : EndsDigits rest)
    (hpoint : rest.head? ≠ some '.') : fraction? (fractionText ds ++ rest) = some (ds, rest) := by
  cases ds with
  | nil =>
    refine fraction?.eq_2 rest ?_
    rintro rest' rfl
    exact hpoint rfl
  | cons d ds => exact digits?_append ⟨List.cons_ne_nil d ds, h⟩ hdigits

theorem exponentBody?_append {e : Exponent} (h : IsDigits e.digits) (hrest : EndsDigits rest) :
    exponentBody? ((if e.negative then ['-'] else []) ++ e.digits ++ rest) = some (e, rest) := by
  obtain ⟨negative, digits⟩ := e
  replace h : IsDigits digits := h
  cases negative with
  | true =>
    change exponentBody? ('-' :: (digits ++ rest)) = _
    rw [exponentBody?, digits?_append h hrest]
    rfl
  | false =>
    obtain ⟨d, ds, rfl, hdigit⟩ := h.head
    -- Without a sign the digits are read as they stand.
    have hplus : d ≠ '+' := ne_of_isDigit hdigit rfl
    have hminus : d ≠ '-' := ne_of_isDigit hdigit rfl
    have hread : exponentBody? (d :: ds ++ rest) =
        (digits? (d :: ds ++ rest)).map fun r => (⟨false, r.1⟩, r.2) :=
      exponentBody?.eq_3 _ (fun _ heq => hplus (List.cons.inj heq).1) fun _ heq =>
        hminus (List.cons.inj heq).1
    rw [digits?_append h hrest] at hread
    exact hread

theorem exponent?_append {e : Option Exponent} (h : ∀ e' ∈ e, IsDigits e'.digits)
    (hrest : EndsNumeral rest) : exponent? (exponentText e ++ rest) = some (e, rest) := by
  -- Without an exponent, the rest must not look like one, and so does not start with its letter.
  cases e with
  | none =>
    refine exponent?.eq_3 rest ?_ ?_
    · rintro rest' rfl
      exact (hrest 'e' rfl).2.2.1 rfl
    · rintro rest' rfl
      exact (hrest 'E' rfl).2.2.2 rfl
  | some e =>
    change exponent? ('e' :: ((if e.negative then ['-'] else []) ++ e.digits ++ rest)) = _
    rw [exponent?, exponentBody?_append (h e rfl) hrest.endsDigits]
    rfl

/-! ### Reading literals -/

theorem endsDigits_exponentText (e : Option Exponent) (hrest : EndsNumeral rest) :
    EndsDigits (exponentText e ++ rest) ∧ (exponentText e ++ rest).head? ≠ some '.' := by
  cases e with
  | none => exact ⟨hrest.endsDigits, fun h => (hrest '.' h).2.1 rfl⟩
  | some e => exact ⟨by rintro c ⟨⟩; rfl, by rintro ⟨⟩⟩

theorem endsDigits_fractionText (ds : List Char) (h : EndsDigits rest) :
    EndsDigits (fractionText ds ++ rest) := by
  cases ds with
  | nil => exact h
  | cons d ds => rintro c ⟨⟩; rfl

theorem unsigned?_append (h : n.WellFormed) (hrest : EndsNumeral rest) :
    unsigned? n.negative
        (n.whole ++ (fractionText n.fraction ++ (exponentText n.exponent ++ rest))) =
      some (n, rest) := by
  obtain ⟨hdigits, hpoint⟩ := endsDigits_exponentText n.exponent hrest
  unfold unsigned?
  rw [whole?_append h.whole (endsDigits_fractionText n.fraction hdigits)]
  dsimp only [bind, Option.bind]
  rw [fraction?_append h.fraction hdigits hpoint]
  dsimp only
  rw [exponent?_append h.exponent hrest]
  rfl

theorem Numeral.WellFormed.whole_head (h : n.WellFormed) :
    ∃ d ds, n.whole = d :: ds ∧ Text.isDigit d = true := by
  rcases h.whole with hzero | ⟨hdigits, -⟩
  · exact ⟨'0', [], hzero, rfl⟩
  · exact hdigits.head

/-- **Number literals are read back**, if what follows is not part of the number. -/
theorem numeral?_text (h : n.WellFormed) (hrest : EndsNumeral rest) :
    numeral? (n.text ++ rest) = some (n, rest) := by
  have hread := unsigned?_append h hrest
  obtain ⟨d, ds, hwhole, hdigit⟩ := h.whole_head
  rw [n.text_eq]
  -- A sign is looked for first. Where none was written, the first digit is not taken for one.
  cases hnegative : n.negative with
  | true =>
    rw [hnegative] at hread
    simpa [numeral?] using hread
  | false =>
    rw [hnegative] at hread
    have hminus : d ≠ '-' := ne_of_isDigit hdigit rfl
    simp only [Bool.false_eq_true, if_false, List.nil_append, List.append_assoc]
    rw [numeral?.eq_2, hread]
    intro rest' heq
    rw [hwhole] at heq
    exact hminus (List.cons.inj heq).1

/-- What a literal starts with. -/
theorem Numeral.WellFormed.text_head (h : n.WellFormed) :
    ∃ c cs, n.text = c :: cs ∧ (c = '-' ∨ Text.isDigit c = true) := by
  obtain ⟨d, ds, hwhole, hdigit⟩ := h.whole_head
  rw [n.text_eq, hwhole]
  cases n.negative with
  | true => exact ⟨'-', _, rfl, .inl rfl⟩
  | false => exact ⟨d, _, rfl, .inr hdigit⟩

end MetricSeries.Json
