import MetricSeries.Text.Blank
import MetricSeries.Time.Zone

/-!
# Adjustments

A date or time may end in a marker that shifts it: `{-2D}` is two days earlier, `~ADJ+1W` a week
later. The units are hours, days, weeks and months, and days where none is given; the marker
without an amount, `{}` or `~ADJ`, asks for no shift. Blank space may follow the marker.

* `Adjustment.split?` finds the marker at the end of a text, `Adjustment.parse` is the adjustment
  it denotes, `Adjustment.strip` the text without it, and `Adjustment.text` writes a marker.
* `Adjustment.apply` shifts an instant. Hours are a length of time; days, weeks and months move
  the wall clock.

An amount that does not fit 64 bits, or is not written in ASCII digits, makes no marker.
-/

namespace MetricSeries.Time

inductive Period where
  | hour
  | day
  | week
  | month
  deriving DecidableEq, Repr

def Period.letter : Period → Char
  | hour => 'H'
  | day => 'D'
  | week => 'W'
  | month => 'M'

def Period.ofLetter? : Char → Option Period
  | 'H' => some hour
  | 'D' => some day
  | 'W' => some week
  | 'M' => some month
  | _ => none

def Period.name : Period → String
  | hour => "hour"
  | day => "day"
  | week => "week"
  | month => "month"

/-- What a marker asks for. -/
inductive Adjustment where
  | none
  | offset (period : Period) (amount : Int64)
  deriving DecidableEq, Repr

namespace Adjustment

/-! ### Markers -/

/-- Reads an amount with its sign and unit, or their absence. -/
def ofBody? (body : List Char) : Option Adjustment :=
  match body with
  | [] => some none
  | _ =>
    match body.getLast?.bind Period.ofLetter? with
    | some period => (Text.readInt64? body.dropLast).map (offset period)
    -- Days where there is no unit.
    | Option.none => (Text.readInt64? body).map (offset .day)

/-- Reads a marker and nothing else. -/
def ofMarker? : List Char → Option Adjustment
  | '~' :: 'A' :: 'D' :: 'J' :: body => ofBody? body
  | '\x7b' :: body =>
    if body.getLast? = some '\x7d' then ofBody? body.dropLast else Option.none
  | _ => Option.none

/-- Splits the marker off the end of a text. -/
def splitMarker? : List Char → Option (List Char × Adjustment)
  | [] => Option.none
  | c :: cs =>
    -- The marker starts at the first place from which the rest of the text is one.
    match ofMarker? (c :: cs) with
    | some a => some ([], a)
    | Option.none => (splitMarker? cs).map fun (front, a) => (c :: front, a)

/-- Splits the marker off the end of a text that may have blank space behind it. -/
def split? (cs : List Char) : Option (List Char × Adjustment) := splitMarker? (Text.trimEnd cs)

def parse (text : String) : Option Adjustment := (split? text.toList).map (·.2)

/-- The text without the marker at its end and the blank space before it; a text without marker
as it is. -/
def strip (text : String) : String :=
  match split? text.toList with
  | some (front, _) => String.ofList (Text.trimEnd front)
  | Option.none => text

/-- The characters of an adjustment's marker; an amount always has a sign. -/
def chars : Adjustment → List Char
  | none => ['\x7b', '\x7d']
  | offset period amount =>
    let sign := if amount.toInt < 0 then [] else ['+']
    '\x7b' :: (sign ++ Text.decimalInt amount.toInt ++ [period.letter, '\x7d'])

def text (a : Adjustment) : String := String.ofList a.chars

/-! ### Shifting -/

/-- The instant as many hours later, or earlier when negative; none beyond 64 bits. -/
def addHours? (t : Instant) (hours : Int) : Option Instant :=
  let span := hours * hourMillis
  if (Text.fitInt64? span).isSome && (Text.fitInt64? (t + span)).isSome then some (t + span)
  else Option.none

/-- The wall time as many weeks later, or earlier when negative; none out of range. -/
def addWeeks? (w : Wall) (weeks : Int) : Option Wall :=
  if (Text.fitInt64? (weeks * 7)).isSome then Wall.addDays? w (weeks * 7) else Option.none

/-- The instant at which the clocks of a zone show what `move` makes of the wall time at `t`. -/
def moveWall (zone : Zone) (outOfRange : Error) (move : Wall → Option Wall) (t : Instant) :
    Except Error Instant := do
  match move (← zone.toWall t) with
  | some w => zone.toInstant w
  | Option.none => .error outOfRange

def apply (zone : Zone) (a : Adjustment) (t : Instant) : Except Error Instant :=
  match a with
  | none => .ok t
  | offset period amount =>
    let outOfRange : Error := .invalidDateTime a.text
    let n := amount.toInt
    -- Moving the wall clock by nothing could end at another instant: a wall time may occur twice.
    if n = 0 then .ok t
    else match period with
      | .hour =>
        match addHours? t n with
        | some t => .ok t
        | Option.none => .error outOfRange
      | .day => moveWall zone outOfRange (Wall.addDays? · n) t
      | .week => moveWall zone outOfRange (addWeeks? · n) t
      | .month => moveWall zone outOfRange (Wall.addMonths? · n) t

end Adjustment

end MetricSeries.Time
