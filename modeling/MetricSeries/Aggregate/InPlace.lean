import MetricSeries.Aggregate.Aggregator

/-!
# Feeding in place

`Aggregator.feed` yields the aggregator after a row, or an error and nothing else. An aggregator
that is held in a place of its own is changed there, by one step of reading or writing after the
other, and when a step fails, whatever has been written before it stays written.

`Aggregation.update` lists these steps for each kind, and `Aggregator.feedInPlace` is the aggregator
that they leave behind, with or without an error.
-/

namespace MetricSeries

/-- Steps that read and write a state, any of which may fail. A failure ends them and keeps what has
been written. -/
abbrev Update (σ α : Type) : Type := ExceptT Error (StateM σ) α

namespace Update

variable {σ α : Type}

/-- A step that reads something, and not the state. -/
def reading (x : Except Error α) : Update σ α := ExceptT.mk fun s => (x, s)

/-- A step that changes the state. -/
def writing (f : σ → σ) : Update σ Unit := ExceptT.mk fun s => (.ok (), f s)

/-- The outcome of the steps and the state that they leave behind. -/
def runOn (u : Update σ α) (s : σ) : Except Error α × σ := u.run.run s

end Update

namespace Aggregation

open Update

/-- The steps by which a row is taken: its cells are read in the order of the columns, and then what
is gathered is changed. -/
def update (row : Row) : (a : Aggregation) → Update a.State Unit
  | sum column kind => do
    let cell ← reading (row.value column)
    writing fun total => WideSum.addTo total kind cell
  | average column => do
    let cell ← reading (row.value column)
    writing fun mean => Mean.add mean cell
  | naturalAverage numerator denominator => do
    let n ← reading (row.value numerator)
    let d ← reading (row.value denominator)
    writing fun q => Quotient.add q n d
  | naturalPerMinute counter startTime endTime system => do
    let count ← reading (row.value counter)
    let first ← reading (row.long startTime)
    let last ← reading (row.long endTime)
    let system ← reading (row.long system)
    writing fun r => Rate.add r count first last system
  | percent numerator denominator => do
    let n ← reading (row.value numerator)
    let d ← reading (row.value denominator)
    writing fun q => Quotient.add q n d
  | min column kind => do
    let cell ← reading (row.value column)
    writing fun kept => Keep.smallest.add kind kept cell
  | max column kind => do
    let cell ← reading (row.value column)
    writing fun kept => Keep.largest.add kind kept cell

end Aggregation

namespace Aggregator

/-- The outcome of feeding a row to an aggregator in its place, and the aggregator that is left
there. -/
def feedInPlace (a : Aggregator) (row : Row) : Except Error Unit × Aggregator :=
  let (outcome, state) := (a.aggregation.update row).runOn a.state
  (outcome, ⟨a.aggregation, state⟩)

/-- The aggregator that rows leave behind, whether or not some of them are errors. -/
def feedAllInPlace (a : Aggregator) (rows : List Row) : Aggregator :=
  rows.foldl (fun a row => (a.feedInPlace row).2) a

end Aggregator

end MetricSeries
