import MetricSeries.Time.Adjustment
import MetricSeries.Time.Reading

/-!
# Spans of time

A date or time in a request is resolved to a span: the minute or the day that it names, from its
first to its last millisecond. `Span.parse` resolves a text against a clock. `Span.parseAdjusted`
takes a marker off the text first and shifts both ends by it.

Texts that look at the clock are *relative*: they mean something else at another time. Their text
is kept with the span, next to the fixed text that means the same at any time.
-/

namespace MetricSeries.Time

/-- The clock that a text is resolved against, and the zone that it stands in. -/
structure Clock where
  zone : Zone
  now : Instant

inductive Granularity where
  | minute
  | day
  deriving DecidableEq, Repr

def Granularity.name : Granularity → String
  | minute => "minute"
  | day => "day"

def Granularity.fixedText : Granularity → Wall → String
  | minute, w => Wall.minuteText w
  | day, w => Wall.dateText w

/-- A span of time: the minute or the day that a text names. -/
structure Span where
  /-- The text, when it is relative to the clock. -/
  relative : Option String
  /-- The text that means the same at any time. -/
  fixed : String
  first : Instant
  last : Instant
  granularity : Granularity
  deriving DecidableEq, Repr

/-! ### Resolving -/

namespace Span

def isRelative (s : Span) : Bool := s.relative.isSome

def ofMinute (zone : Zone) (first : Instant) (relative : Option String) :
    Except Error Span := do
  let w ← zone.toWall first
  return ⟨relative, Wall.minuteText w, first, first + minuteMillis - 1, .minute⟩

/-- A whole day, from its first midnight to the millisecond before the next. -/
def ofDay (zone : Zone) (d : Date) : Except Error Span := do
  let first ← zone.toInstant (Wall.ofDate d 0 0)
  -- A day need not have 24 hours, so its end is looked up as well.
  let next ← zone.toInstant (Wall.ofDate d 0 0 + dayMillis)
  return ⟨none, String.ofList d.chars, first, next - 1, .day⟩

/-- The instant at which a minute starts that lies `offset` milliseconds after the current one;
none beyond 64 bits. -/
def startOfNow? (now : Instant) (offset : Int) : Option Instant :=
  let start := truncateToMinute now + offset
  if (Text.fitInt64? start).isSome then some start else none

/-- Resolves what a text says; `text` is the text itself. -/
def resolve (clock : Clock) (text : String) : Reading → Except Error Span
  | .now offset =>
    match startOfNow? clock.now offset with
    | some first => ofMinute clock.zone first (some text)
    | none => .error (.invalidDateTime text)
  | .time t => do
    -- Today is the date that the clocks of the zone show.
    let today := Wall.date (← clock.zone.toWall clock.now)
    let first ← clock.zone.toInstant (Wall.ofDate today t.hour t.minute)
    ofMinute clock.zone first (some text)
  | .date d => ofDay clock.zone d
  | .dateTime d t => do
    let first ← clock.zone.toInstant (Wall.ofDate d t.hour t.minute)
    ofMinute clock.zone first none

/-- Resolves a text without marker; blank space around it does not count. -/
def parse (clock : Clock) (text : String) : Except Error Span :=
  let cs := Text.trim text.toList
  if cs.isEmpty then .error .emptyDateTime
  else match Reading.ofChars? cs with
    | some reading => resolve clock (String.ofList cs) reading
    | none => .error (.invalidDateTime (String.ofList cs))

def adjusted (zone : Zone) (a : Adjustment) (s : Span) : Except Error Span := do
  let first ← a.apply zone s.first
  let last ← a.apply zone s.last
  let w ← zone.toWall first
  -- The fixed text is that of the shifted start.
  return { s with fixed := s.granularity.fixedText w, first, last }

/-- Resolves a text that may end in a marker, and shifts what it names by the marker. The relative
text of the result keeps the marker. -/
def parseAdjusted (clock : Clock) (text : String) : Except Error Span := do
  let base ← parse clock (Adjustment.strip text)
  match Adjustment.parse text with
  | some (.offset period amount) =>
    let shifted ← base.adjusted clock.zone (.offset period amount)
    return { shifted with relative := shifted.relative.map fun _ => Text.trimmed text }
  -- A marker without an amount asks for no shift.
  | _ => return base

end Span

end MetricSeries.Time
