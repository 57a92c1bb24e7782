import Mathlib.Data.Rat.Floor
import MetricSeries.Aggregate.Cell

/-!
# Doubles as integers

A double stands for a rational number, unless it is infinite or no number at all. Read as an
integer, it is this number without its fraction, or the bound of 64 bits that is nearest
(`doubleView`). This is said with rational numbers, without a look at how a double is converted.

Converting goes by shifting the mantissa by the exponent, to the left or to the right
(`roundToInt_eq`). To the left it is multiplied by a power of two, and to the right it is divided by
one, the remainder being the fraction (`truncate_mul_zpow`). So **a cell is read as its integer
view** (`Cell.toInt64_eq_view`).
-/

namespace MetricSeries

open Float.Model UnpackedFloat

/-! ### The view -/

/-- A number without its fraction. -/
def truncate (x : ℚ) : ℤ := if 0 ≤ x then ⌊x⌋ else ⌈x⌉

/-- The integer of 64 bits that is nearest to an integer. -/
def nearestInt64 (n : ℤ) : Int64 :=
  Int64.ofInt (max (-Text.int64Bound) (min n (Text.int64Bound - 1)))

/-- **The integer view of a double**: zero if it is no number, a bound of 64 bits if it is infinite,
and otherwise the integer of 64 bits that is nearest to its number without the fraction. -/
def doubleView : UnpackedFloat → Int64
  | .notANumber => 0
  | .infinity .negative => Int64.minValue
  | .infinity .positive => Int64.maxValue
  | .zero _ => 0
  | .finite sign mantissa exponent _ =>
    nearestInt64 (truncate (sign.apply mantissa * (2 : ℚ) ^ exponent))

/-- **The integer view of a cell.** -/
def Cell.view : Cell → Int64
  | int n => n
  | float f => doubleView f.toModel.unpack

/-! ### Shifting -/

/-- The mantissa that is left of a mantissa and an exponent when the exponent is brought to zero. -/
def shifted (mantissa : Nat) (exponent : Int) : Nat :=
  mantissa * 2 ^ exponent.toNat / 2 ^ (-exponent).toNat

theorem repeat_shiftRightOne_mantissa (n : Nat) (m : ExtendedMantissa) :
    (Nat.repeat ExtendedMantissa.shiftRightOne n m).mantissa = m.mantissa / 2 ^ n := by
  induction n with
  | zero => exact (Nat.div_one _).symm
  | succ n ih =>
    -- The last shift halves what the ones before it have left.
    calc (Nat.repeat ExtendedMantissa.shiftRightOne (n + 1) m).mantissa
        = (Nat.repeat ExtendedMantissa.shiftRightOne n m).mantissa / 2 := rfl
      _ = m.mantissa / 2 ^ n / 2 := by rw [ih]
      _ = m.mantissa / 2 ^ (n + 1) := by rw [Nat.div_div_eq_div_mul, ← Nat.pow_succ]

/-- A double is converted by shifting its mantissa. -/
theorem roundToInt_eq (sign : Sign) (mantissa : Nat) (exponent : Int) :
    roundToInt sign mantissa exponent = sign.apply (shifted mantissa exponent) := by
  unfold roundToInt decreaseExponent shiftToExponent
  dsimp only
  show sign.apply (Nat.repeat ExtendedMantissa.shiftRightOne _ _).mantissa = _
  rw [repeat_shiftRightOne_mantissa]
  -- Only one of the two shifts is by more than nothing.
  have hright : (0 - (exponent - (exponent - 0).toNat)).toNat = (-exponent).toNat := by omega
  rw [hright, Int.sub_zero, Nat.shiftLeft_eq]
  rfl

/-! ### Truncating -/

theorem truncate_natCast_mul_zpow (mantissa : Nat) (exponent : Int) :
    ⌊(mantissa : ℚ) * 2 ^ exponent⌋ = shifted mantissa exponent := by
  unfold shifted
  -- A number with an exponent that is not negative is an integer already; with a negative one it is
  -- a quotient of integers, the floor of which is their division.
  cases exponent with
  | ofNat k =>
    have hcast : (mantissa : ℚ) * 2 ^ (Int.ofNat k) = ((mantissa * 2 ^ k : Nat) : ℚ) := by
      push_cast
      rfl
    rw [hcast, Int.floor_natCast]
    simp
  | negSucc k =>
    have hcast : (mantissa : ℚ) * 2 ^ (Int.negSucc k) =
        (mantissa : ℚ) / ((2 ^ (k + 1) : Nat) : ℚ) := by
      rw [zpow_negSucc, ← div_eq_mul_inv]
      push_cast
      rfl
    rw [hcast, Rat.floor_natCast_div_natCast]
    simp

/-- **Shifting the mantissa cuts off the fraction.** -/
theorem truncate_mul_zpow (sign : Sign) {mantissa : Nat} (hpos : 0 < mantissa) (exponent : Int) :
    truncate (sign.apply mantissa * (2 : ℚ) ^ exponent) =
      sign.apply (shifted mantissa exponent) := by
  have hnumber : 0 < (mantissa : ℚ) * 2 ^ exponent :=
    mul_pos (Nat.cast_pos.mpr hpos) (zpow_pos (by decide) exponent)
  unfold truncate
  -- Truncating goes towards zero: to the floor above it, and to the ceiling below it.
  cases sign with
  | positive =>
    show (if 0 ≤ ((mantissa : ℤ) : ℚ) * 2 ^ exponent then _ else _) = _
    rw [Int.cast_natCast, if_pos hnumber.le]
    exact truncate_natCast_mul_zpow mantissa exponent
  | negative =>
    show (if 0 ≤ ((-(mantissa : ℤ) : ℤ) : ℚ) * 2 ^ exponent then _ else _) = _
    rw [Int.cast_neg, Int.cast_natCast, neg_mul, if_neg (not_le.mpr (neg_lt_zero.mpr hnumber))]
    show ⌈((-(mantissa : ℤ) : ℤ) : ℚ) * 2 ^ exponent⌉ = _
    rw [Int.cast_neg, Int.cast_natCast, neg_mul, Int.ceil_neg, truncate_natCast_mul_zpow]
    rfl

/-! ### Cells -/

theorem ofIntClamp_eq_nearestInt64 (n : ℤ) : Int64.ofIntClamp n = nearestInt64 n := by
  have hmin : Int64.minValue.toInt = -Text.int64Bound := rfl
  have hmax : Int64.maxValue.toInt = Text.int64Bound - 1 := rfl
  unfold Int64.ofIntClamp nearestInt64
  rw [← hmin, ← hmax]
  -- There are three places for an integer: within 64 bits, above them and below them.
  by_cases hlow : Int64.minValue.toInt ≤ n
  · by_cases hhigh : n ≤ Int64.maxValue.toInt
    · rw [dif_pos hlow, dif_pos hhigh, min_eq_left hhigh, max_eq_right hlow]
      exact Int64.toBitVec.inj (Int64.toBitVec_ofIntLE _ _ _)
    · rw [dif_pos hlow, dif_neg hhigh, min_eq_right (Int.le_of_not_le hhigh)]
      decide
  · rw [dif_neg hlow, max_eq_left ((min_le_left _ _).trans (Int.le_of_not_le hlow))]
    decide

/-- **A cell is read as its integer view.** -/
theorem Cell.toInt64_eq_view (c : Cell) : c.toInt64 = c.view := by
  cases c with
  | int n => rfl
  | float f =>
    show f.toModel.unpack.toInt64 = doubleView f.toModel.unpack
    generalize f.toModel.unpack = u
    unfold UnpackedFloat.toInt64
    -- Only a finite double is shifted; what the others convert to is fixed.
    cases u with
    | notANumber => rfl
    | infinity sign =>
      cases sign with
      | negative => decide
      | positive => decide
    | zero sign => rfl
    | finite sign mantissa exponent hpos =>
      show Int64.ofIntClamp (roundToInt sign mantissa exponent) = nearestInt64 _
      rw [ofIntClamp_eq_nearestInt64, roundToInt_eq, truncate_mul_zpow sign hpos]

end MetricSeries
