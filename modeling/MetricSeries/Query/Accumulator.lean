import MetricSeries.Aggregate.Aggregator
import MetricSeries.Query.Buckets
import MetricSeries.Registry

/-!
# Accumulating rows into series

An accumulator holds one aggregator for each output series and bucket that a row has reached. It
takes rows one at a time, sends each to the aggregator of its series and of the bucket that its
time lies in, and renders the points of every series in the end. Buckets without rows have no
value.

A row outside the window, or without a time, is passed over; a row that lacks a column is an
error, and the accumulator stays as it was.
-/

namespace MetricSeries

open Time

structure SeriesPoint where
  timestamp : Instant
  value : Option Number

structure SeriesResult where
  name : String
  category : String
  field : String
  method : Method
  systems : List String
  points : List SeriesPoint

/-- The answer to a query: the start of every bucket in local time, and the series. -/
structure QueryResult where
  dateTimes : List String
  series : List SeriesResult

/-- A series that is being accumulated. -/
structure SeriesSlot where
  name : String
  field : SeriesField
  systems : List SystemId
  /-- The aggregators of the buckets that rows have reached. -/
  filled : SortedMap Nat Aggregator := .empty

namespace SeriesSlot

def feed (s : SeriesSlot) (bucket : Nat) (row : Row) : Except Error SeriesSlot := do
  -- The first row of a bucket starts its aggregator.
  let aggregator := (s.filled.get? bucket).getD (.start s.field.aggregation)
  return { s with filled := s.filled.insert bucket (← aggregator.feed row) }

def valueAt (s : SeriesSlot) (precision bucket : Nat) : Option Number :=
  ((s.filled.get? bucket).bind Aggregator.result).map (·.rounded precision)

def points (s : SeriesSlot) (buckets : Buckets) (precision : Nat) : List SeriesPoint :=
  (List.range buckets.count).map fun i => ⟨buckets.start i, s.valueAt precision i⟩

def render (s : SeriesSlot) (buckets : Buckets) (precision : Nat) : SeriesResult where
  name := s.name
  category := s.field.category.name
  field := s.field.field.name
  method := s.field.method
  systems := s.systems.map SystemId.text
  points := s.points buckets precision

end SeriesSlot

/-- The series of a query while rows come in. -/
structure Accumulator where
  buckets : Buckets
  timeColumn : String := defaultEndTimeColumn
  slots : List SeriesSlot := []

namespace Accumulator

/-- An accumulator without series for the window from the first millisecond of one span to the
last of another. -/
def new (first last : Span) (maxPoints : Nat) : Except Error Accumulator :=
  if last.last < first.first then .error (.endBeforeStart last.fixed first.fixed)
  else .ok { buckets := .ofWindow first.first last.last maxPoints }

def withTimeColumn (a : Accumulator) (column : String) : Accumulator :=
  { a with timeColumn := column }

/-- The accumulator with a further series, and the number of that series. -/
def addSeries (a : Accumulator) (name : String) (field : SeriesField) (systems : List SystemId) :
    Accumulator × Nat :=
  ({ a with slots := a.slots ++ [{ name, field, systems }] }, a.slots.length)

/-- The accumulator after a row for a series, and whether the row was in the window. -/
def accumulate (a : Accumulator) (series : Nat) (row : Row) :
    Except Error (Accumulator × Bool) := do
  let time ← row.long a.timeColumn
  match time.bind fun t => a.buckets.indexOf? t.toInt with
  -- The series is only looked up for a row that is in the window.
  | none => return (a, false)
  | some bucket =>
    match a.slots[series]? with
    | none => .error (.noSeries series)
    | some slot =>
      let slot ← slot.feed bucket row
      return ({ a with slots := a.slots.set series slot }, true)

/-- The accumulator after a list of rows for a series, up to the first that is an error. -/
def accumulateAll (a : Accumulator) (series : Nat) (rows : List Row) : Except Error Accumulator :=
  rows.foldlM (fun a row => return (← a.accumulate series row).1) a

/-- The start of every bucket as clocks in a zone show it. -/
def dateTimes (a : Accumulator) (zone : Zone) : Except Error (List String) :=
  a.buckets.starts.mapM fun t => return Wall.minuteText (← zone.toWall t)

def render (a : Accumulator) (zone : Zone) (precision : Nat) : Except Error QueryResult :=
  return ⟨← a.dateTimes zone, a.slots.map (·.render a.buckets precision)⟩

end Accumulator

end MetricSeries
