import MetricSeries.Text.Numeral

/-!
# JSON values

A JSON text is read into a `Json` tree that keeps what the readers of settings and catalogs need
to tell apart: the members of an object in their written order, repeated keys included, and
numbers as written, because `2` is an integer where `2.0` is not.

The text of a string literal may be missing. An escape such as `\ud800` is well formed, yet it
names half of a surrogate pair, which no character has. Such a literal may stand where nothing
reads it; it is `none` here, and whoever needs its text refuses it.
-/

namespace MetricSeries

structure Json.Exponent where
  negative : Bool
  digits : List Char
  deriving DecidableEq, Repr

/-- A number literal as written. The fraction is empty when there is no decimal point. -/
structure Json.Numeral where
  negative : Bool
  whole : List Char
  fraction : List Char
  exponent : Option Json.Exponent
  deriving DecidableEq, Repr

/-- A JSON value. Strings and keys are `none` when their literal names half of a surrogate pair. -/
inductive Json where
  | null
  | bool (b : Bool)
  | number (n : Json.Numeral)
  | string (s : Option String)
  | array (items : List Json)
  | object (members : List (Option String × Json))
  deriving Repr

namespace Json

instance : Inhabited Json := ⟨.null⟩

/-! ### The value of a number literal -/

namespace Numeral

def ofNat (n : Nat) : Numeral := ⟨false, Text.decimal n, [], none⟩

def ofInt : Int → Numeral
  | .ofNat n => ofNat n
  | .negSucc n => ⟨true, Text.decimal (n + 1), [], none⟩

/-- The integer that the literal writes. A literal with a fraction or an exponent is not an
integer, and neither is `-0`, which is the negative zero of the floating-point numbers. -/
def int? (n : Numeral) : Option Int :=
  let magnitude := Text.digitsValue n.whole
  if !n.fraction.isEmpty || n.exponent.isSome then none
  else if n.negative then
    if magnitude = 0 then none else some (-(magnitude : Int))
  else some (magnitude : Int)

/-- Takes digits into a running value for as long as it stays below 2^64; the digits left over
are returned with it. -/
def absorb : Nat → List Char → Nat × List Char
  | value, [] => (value, [])
  | value, d :: rest =>
    let next := value * 10 + Text.digitsValue [d]
    if next < UInt64.size then absorb next rest else (value, d :: rest)

/-- Divides by a power of ten, in steps of at most 10^308, until the value has vanished. -/
def scaleDown (f : Float) (places : Nat) : Float :=
  if places ≤ 308 then f / Float.ofScientific 1 false places
  else if f == 0.0 then f
  else scaleDown (f / Float.ofScientific 1 false 308) (places - 308)
termination_by places
decreasing_by omega

/-- `f` times ten to the `exponent`, when that is finite. -/
def scale? (f : Float) (exponent : Int) : Option Float :=
  match exponent with
  | .negSucc n => some (scaleDown f (n + 1))
  | .ofNat n =>
    if n ≤ 308 then
      let scaled := f * Float.ofScientific 1 false n
      if scaled.isInf then none else some scaled
    else if f == 0.0 then some f
    else none

/-- The magnitude of the literal as a floating-point number. The leading digits whose value stays
below 2^64 make an integer; it is rounded to a float first and then multiplied or divided by the
power of ten that the decimal point, the dropped digits and the exponent leave. An exponent of
2^31 or more is taken for endless. A result that is not finite has no value. -/
def magnitude? (n : Numeral) : Option Float :=
  let (head, droppedWhole) := absorb 0 n.whole
  let (significand, droppedFraction) := absorb head n.fraction
  let shift : Int := droppedWhole.length - (n.fraction.length - droppedFraction.length : Nat)
  match n.exponent with
  | none => scale? (Float.ofNat significand) shift
  | some e =>
    let power := Text.digitsValue e.digits
    if power < 2147483648 then
      scale? (Float.ofNat significand) (if e.negative then shift - power else shift + power)
    else if significand ≠ 0 && !e.negative then none
    else some 0.0

/-- The floating-point number that the literal writes; literals beyond the finite range have
none. -/
def float? (n : Numeral) : Option Float :=
  n.magnitude?.map fun f => if n.negative then -f else f

end Numeral

def ofNat (n : Nat) : Json := .number (.ofNat n)

def ofInt (n : Int) : Json := .number (.ofInt n)

def ofString (s : String) : Json := .string (some s)

/-- A JSON object whose keys are given as strings. -/
def record (members : List (String × Json)) : Json :=
  .object (members.map fun m => (some m.1, m.2))

end Json

end MetricSeries
