/-!
# Numerals

Numbers in identifiers, dates, adjustment markers and settings are written in ASCII decimal
digits. `readNat?` reads such a numeral, leading zeros included, and refuses everything else: the
empty text, a sign, and the digits of other scripts. `decimal` writes a number without leading
zeros, and `decimalInt` puts a `-` before the negative ones.

Three readers bound the value: `readNatBelow?` for the unsigned settings, `readInt64?` for
identifiers and offsets, `fitInt64?` for the results of arithmetic that must stay in 64 bits.
-/

namespace MetricSeries.Text

def isDigit (c : Char) : Bool := c.isDigit

/-- The value of a run of digits, most significant first. -/
def digitsValue (cs : List Char) : Nat := Nat.ofDigitChars 10 cs 0

/-- The number that a non-empty run of ASCII digits writes. -/
def readNat? (cs : List Char) : Option Nat :=
  if !cs.isEmpty && cs.all isDigit then some (digitsValue cs) else none

/-- A numeral with an optional `+`, whose value is below `bound`. -/
def readNatBelow? (bound : Nat) (cs : List Char) : Option Nat :=
  let digits := match cs with
    | '+' :: rest => rest
    | _ => cs
  (readNat? digits).filter (· < bound)

/-- Two to the power of 63: the integers from its negative up to it, exclusive, fit 64 bits. -/
def int64Bound : Int := 9223372036854775808

/-- An integer as a 64-bit word, when it is in range. -/
def fitInt64? (n : Int) : Option Int64 :=
  if -int64Bound ≤ n ∧ n < int64Bound then some (Int64.ofInt n) else none

/-- A numeral with an optional sign, whose value fits 64 bits. -/
def readInt64? (cs : List Char) : Option Int64 :=
  match cs with
  | '-' :: rest => (readNat? rest).bind fun n => fitInt64? (-n)
  | '+' :: rest => (readNat? rest).bind fun n => fitInt64? n
  | _ => (readNat? cs).bind fun n => fitInt64? n

def decimal (n : Nat) : List Char := Nat.toDigits 10 n

def decimalInt : Int → List Char
  | .ofNat n => decimal n
  | .negSucc n => '-' :: decimal (n + 1)

/-- A number in decimal digits, filled up with zeros on the left to at least `width` digits. -/
def padded (width n : Nat) : List Char :=
  let digits := decimal n
  List.replicate (width - digits.length) '0' ++ digits

@[simp] theorem digitsValue_decimal (n : Nat) : digitsValue (decimal n) = n :=
  Nat.ofDigitChars_toDigits (by decide) (by decide)

theorem toInt_of_fitInt64? {n : Int} {w : Int64} (h : fitInt64? n = some w) : w.toInt = n := by
  unfold fitInt64? at h
  split at h
  · next hb =>
    obtain rfl := Option.some.inj h
    exact Int64.toInt_ofInt_of_le hb.1 hb.2
  · cases h

@[simp] theorem fitInt64?_toInt (w : Int64) : fitInt64? w.toInt = some w := by
  unfold fitInt64?
  rw [if_pos ⟨w.le_toInt, w.toInt_lt⟩]
  simp

end MetricSeries.Text
