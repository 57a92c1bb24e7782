import MetricSeries.Aggregate.InPlace
import MetricSeries.Query.Accumulator

/-!
# Accumulating in place

`Accumulator.accumulate` yields the accumulator after a row, or an error and nothing else. An
accumulator that rows are sent to one by one is changed where it stands, and goes on after a row
that is an error. What such a row leaves behind is not always what it has found: the aggregator of
its bucket is started before the row is read, and stays there.

`Accumulator.accumulateInPlace` is the accumulator that a row leaves behind, with or without an
error.
-/

namespace MetricSeries

namespace SeriesSlot

/-- The aggregator of a bucket. A bucket that no row has reached stands for a new one. -/
def aggregatorAt (s : SeriesSlot) (bucket : Nat) : Aggregator :=
  (s.filled.get? bucket).getD (.start s.field.aggregation)

/-- The outcome of feeding a row to a bucket, and the slot that is left behind. The aggregator of
the bucket is in the slot then, also if it was started for the row and the row is an error. -/
def feedInPlace (s : SeriesSlot) (bucket : Nat) (row : Row) : Except Error Unit × SeriesSlot :=
  let (outcome, aggregator) := (s.aggregatorAt bucket).feedInPlace row
  (outcome, { s with filled := s.filled.insert bucket aggregator })

end SeriesSlot

namespace Accumulator

/-- Whether a row for a series was in the window, or the error that it is, and the accumulator that
is left behind. -/
def accumulateInPlace (a : Accumulator) (series : Nat) (row : Row) :
    Except Error Bool × Accumulator :=
  match row.long a.timeColumn with
  | .error e => (.error e, a)
  | .ok time =>
    match time.bind fun t => a.buckets.indexOf? t.toInt with
    | none => (.ok false, a)
    | some bucket =>
      match a.slots[series]? with
      | none => (.error (.noSeries series), a)
      | some slot =>
        let (outcome, slot) := slot.feedInPlace bucket row
        (outcome.map fun _ => true, { a with slots := a.slots.set series slot })

/-- The accumulator that rows for several series leave behind, whether or not some of them are
errors. -/
def accumulateAllInPlace (a : Accumulator) (rows : List (Nat × Row)) : Accumulator :=
  rows.foldl (fun a r => (a.accumulateInPlace r.1 r.2).2) a

end Accumulator

end MetricSeries
