import MetricSeries.Aggregate.Number

/-!
# Wide sums

Sums of 64-bit integers are kept exactly, in an integer of 128 bits. The first floating-point
value, or a sum that leaves the 128 bits, turns the total into a double.
-/

namespace MetricSeries

/-- Whether a column is summed and compared as integers or as doubles. -/
inductive NumericKind where
  | integer
  | float
  deriving DecidableEq, Repr

def NumericKind.name : NumericKind → String
  | integer => "integer"
  | float => "float"

def NumericKind.ofName? : String → Option NumericKind
  | "integer" => some integer
  | "float" => some float
  | _ => none

def Cell.coerce (kind : NumericKind) (cell : Cell) : Cell :=
  match kind with
  | .integer => .int cell.toInt64
  | .float => .float cell.toFloat

/-- A running total. -/
inductive WideSum where
  | int (total : Int)
  | float (total : Float)

namespace WideSum

def zero : WideSum := int 0

/-- Two to the power of 127: the totals from its negative up to it, exclusive, fit 128 bits. -/
def bound : Int := 170141183460469231731687303715884105728

def isWide (total : Int) : Bool := -bound ≤ total && total < bound

def add (sum : WideSum) (cell : Cell) : WideSum :=
  match sum, cell with
  | int total, .int n =>
    if isWide (total + n.toInt) then int (total + n.toInt)
    else float (Float.ofInt total + Float.ofInt n.toInt)
  | int total, .float f => float (Float.ofInt total + f)
  | float total, cell => float (total + cell.toFloat)

def toFloat : WideSum → Float
  | int total => Float.ofInt total
  | float total => total

/-- Whether the total is zero, of either sign. -/
def isZero : WideSum → Bool
  | int total => total == 0
  | float total => total == 0.0

/-- The total as a number of the given kind. An integer total beyond 64 bits becomes a double. -/
def toNumber (kind : NumericKind) (sum : WideSum) : Number :=
  match sum, kind with
  | int total, .integer =>
    match Text.fitInt64? total with
    | some n => .int n
    | none => .float (Float.ofInt total)
  -- Doubles are meant, or the total has become one.
  | sum, _ => .float sum.toFloat

end WideSum

end MetricSeries
