import Mathlib.Algebra.Group.Nat.Defs
import Mathlib.Data.List.Basic
import MetricSeries.Text.Blank
import MetricSeries.Text.Numeral

/-!
# Numerals and their values

What `decimal` writes are digits, and `readNat?` reads them back (`readNat?_decimal`), also where
`padded` fills them up to a fixed width (`readNat?_padded`). The other way round, what `readNat?`
reads is bounded by the number of digits (`lt_of_readNat?`), which is how the fixed widths of years,
months and days become bounds on their values.

The numbers of identifiers and settings have any width, and a bound of their own. `NumeralBelow`
says what spells such a number, without reference to how it is read (`readNatBelow?_eq_some_iff`).
-/

namespace MetricSeries.Text

variable {cs : List Char} {n bound : Nat}

/-- **A numeral below a bound**: one or more ASCII digits, and their value, which is less. -/
structure NumeralBelow (bound : Nat) (cs : List Char) (n : Nat) : Prop where
  ne_nil : cs ≠ []
  digits : ∀ c ∈ cs, c.isDigit = true
  value : digitsValue cs = n
  lt : n < bound

/-! ### Writing and reading -/

theorem isDigit_of_mem_decimal {c : Char} (h : c ∈ decimal n) : c.isDigit = true :=
  Nat.isDigit_of_mem_toDigits (by decide) (by decide) h

theorem decimal_ne_nil (n : Nat) : decimal n ≠ [] := Nat.toDigits_ne_nil

theorem readNat?_eq_some_iff :
    readNat? cs = some n ↔ cs ≠ [] ∧ (∀ c ∈ cs, c.isDigit = true) ∧ digitsValue cs = n := by
  unfold readNat?
  rw [Option.ite_none_right_eq_some, Option.some.injEq, Bool.and_eq_true, Bool.not_eq_true',
    List.isEmpty_eq_false_iff, List.all_eq_true, and_assoc]
  rfl

/-- What a number is written as reads back as the number. -/
@[simp] theorem readNat?_decimal (n : Nat) : readNat? (decimal n) = some n :=
  readNat?_eq_some_iff.mpr
    ⟨decimal_ne_nil n, fun _ hc => isDigit_of_mem_decimal hc, digitsValue_decimal n⟩

/-- No zero is written in front of a number. -/
theorem head?_decimal (h : 0 < n) : (decimal n).head? ≠ some '0' := by
  unfold decimal
  induction n using Nat.strongRecOn with
  | ind n ih =>
    rw [Nat.toDigits_eq_if (by decide)]
    split
    next => simpa using Nat.ne_of_gt h
    next =>
      -- The first digits are those of the tenth part, which is not zero either.
      rw [List.head?_append_of_ne_nil _ Nat.toDigits_ne_nil]
      exact ih (n / 10) (by omega) (by omega)

/-! ### Bounded numerals -/

theorem numeralBelow_iff : NumeralBelow bound cs n ↔ readNat? cs = some n ∧ n < bound := by
  rw [readNat?_eq_some_iff]
  refine ⟨?_, ?_⟩
  · rintro ⟨ne_nil, digits, value, lt⟩
    exact ⟨⟨ne_nil, digits, value⟩, lt⟩
  · rintro ⟨⟨ne_nil, digits, value⟩, lt⟩
    exact ⟨ne_nil, digits, value, lt⟩

theorem numeralBelow_decimal (h : n < bound) : NumeralBelow bound (decimal n) n :=
  numeralBelow_iff.mpr ⟨readNat?_decimal n, h⟩

/-- A plus sign in front of a bounded numeral does not count. -/
theorem readNatBelow?_eq_some_iff : readNatBelow? bound cs = some n ↔
    NumeralBelow bound cs n ∨ ∃ digits, cs = '+' :: digits ∧ NumeralBelow bound digits n := by
  -- A plus sign in front is no digit, so the two forms exclude each other.
  have hsign : ∀ digits, ¬ NumeralBelow bound ('+' :: digits) n := by
    rintro digits ⟨-, hdigits, -, -⟩
    exact absurd (hdigits '+' List.mem_cons_self) (by decide)
  unfold readNatBelow?
  rw [Option.filter_eq_some_iff, decide_eq_true_eq, ← numeralBelow_iff]
  split
  next rest =>
    rw [or_iff_right (hsign rest)]
    refine ⟨fun h => ⟨rest, rfl, h⟩, ?_⟩
    rintro ⟨digits, heq, h⟩
    obtain ⟨-, rfl⟩ := List.cons.inj heq
    exact h
  next hplus =>
    refine (or_iff_left ?_).symm
    rintro ⟨digits, heq, -⟩
    exact hplus digits heq

/-! ### Fixed widths -/

variable {width : Nat}

theorem length_padded (hwidth : 0 < width) (h : n < 10 ^ width) :
    (padded width n).length = width := by
  have hlength : (decimal n).length ≤ width :=
    (Nat.length_toDigits_le_iff (by decide) hwidth).mpr h
  unfold padded
  rw [List.length_append, List.length_replicate]
  omega

theorem isDigit_of_mem_padded {c : Char} (h : c ∈ padded width n) : c.isDigit = true := by
  unfold padded at h
  rcases List.mem_append.mp h with hzero | hdigit
  · rw [List.eq_of_mem_replicate hzero]
    rfl
  · exact isDigit_of_mem_decimal hdigit

/-- Zeros on the left do not change what is read. -/
theorem readNat?_padded (width n : Nat) : readNat? (padded width n) = some n := by
  refine readNat?_eq_some_iff.mpr ⟨?_, fun _ hc => isDigit_of_mem_padded hc, ?_⟩
  · exact List.append_ne_nil_of_right_ne_nil _ (decimal_ne_nil n)
  · unfold digitsValue padded
    rw [Nat.ofDigitChars_append, Nat.ofDigitChars_replicate_zero, Nat.mul_zero]
    exact digitsValue_decimal n

/-! ### Bounds -/

theorem toNat_of_isDigit {c : Char} (h : c.isDigit = true) : 48 ≤ c.toNat ∧ c.toNat ≤ 57 := by
  simp only [Char.isDigit, Bool.and_eq_true, decide_eq_true_eq, UInt32.le_iff_toNat_le] at h
  exact h

theorem isBlank_of_isDigit {c : Char} (h : c.isDigit = true) : isBlank c = false := by
  have hn := toNat_of_isDigit h
  simp only [isBlank, Bool.or_eq_false_iff, Bool.and_eq_false_iff, decide_eq_false_iff_not,
    beq_eq_false_iff_ne]
  omega

theorem digitsValue_lt (h : ∀ c ∈ cs, c.isDigit = true) : digitsValue cs < 10 ^ cs.length := by
  unfold digitsValue
  induction cs with
  | nil => decide
  | cons c cs ih =>
    obtain ⟨hc, hcs⟩ := List.forall_mem_cons.mp h
    -- The first digit is at most nine, and has as many digits behind it as the power says.
    have hdigit := toNat_of_isDigit hc
    have hrest := ih hcs
    have hvalue : 10 * 0 + (c.toNat - '0'.toNat) ≤ 9 := by
      have hzero : '0'.toNat = 48 := rfl
      omega
    rw [Nat.ofDigitChars_cons, Nat.ofDigitChars_eq_ofDigitChars_zero, List.length_cons]
    calc
      10 ^ cs.length * (10 * 0 + (c.toNat - '0'.toNat)) + Nat.ofDigitChars 10 cs 0
          < 10 ^ cs.length * 9 + 10 ^ cs.length :=
        Nat.add_lt_add_of_le_of_lt (Nat.mul_le_mul_left _ hvalue) hrest
      _ = 10 ^ (cs.length + 1) := by
        rw [Nat.pow_succ]
        omega

/-- **A numeral is bounded by its width.** -/
theorem lt_of_readNat? (h : readNat? cs = some n) : n < 10 ^ cs.length := by
  obtain ⟨-, hdigits, rfl⟩ := readNat?_eq_some_iff.mp h
  exact digitsValue_lt hdigits

end MetricSeries.Text
