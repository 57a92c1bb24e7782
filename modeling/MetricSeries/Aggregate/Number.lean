import MetricSeries.Aggregate.Cell

/-!
# Computed numbers

The value of a point is a 64-bit integer or a double. `Number.rounded` brings a double to a number
of decimal places, halves away from zero, and leaves integers alone.
-/

namespace MetricSeries

inductive Number where
  | int (n : Int64)
  | float (f : Float)

namespace Number

def toFloat : Number → Float
  | int n => Float.ofInt n.toInt
  | float f => f

/-- The number as an integer: rounded, halves away from zero, with values beyond 64 bits brought
to the nearest bound and zero for what is not a number. -/
def toInt64 : Number → Int64
  | int n => n
  | float f => f.round.toInt64

/-- `base` to the power `exponent` times `acc`, by repeated squaring. -/
def powerBySquaring (base acc : Float) (exponent : Nat) : Float :=
  let acc := if exponent % 2 = 1 then acc * base else acc
  let half := exponent / 2
  if half = 0 then acc else powerBySquaring (base * base) acc half
termination_by exponent
decreasing_by omega

/-- Ten to a power; a negative power is the inverse of the positive one. -/
def powerOfTen (exponent : Int) : Float :=
  let power := powerBySquaring 10.0 1.0 exponent.natAbs
  if exponent < 0 then 1.0 / power else power

/-- The number to `places` decimal places, which are read as a signed 32-bit count. A double that
is too large to be scaled stays as it is. -/
def rounded (n : Number) (places : Nat) : Number :=
  match n with
  | int n => int n
  | float f =>
    let scale := powerOfTen ((places : Int).bmod UInt32.size)
    -- Scaling may leave the finite range.
    let r := (f * scale).round / scale
    float (if r.isFinite then r else f)

end Number

end MetricSeries
