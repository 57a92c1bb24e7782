import MetricSeries.Aggregate.Aggregation

/-!
# Aggregators

An aggregator is the running state of one aggregation: it is fed row by row and can be asked for
its result at any time. A row with NULL in one of the columns contributes nothing; a row that
lacks one of the columns is an error and leaves the state as it was.

All columns of a row are read before the state changes, so that the two cannot interfere.
-/

namespace MetricSeries

/-- The counter of one system and the milliseconds that its rows span. -/
structure SystemTotal where
  counter : WideSum := .zero
  /-- At most the largest 64-bit integer. -/
  elapsed : Int := 0

/-- The nearest 64-bit integer. -/
def clampInt64 (n : Int) : Int := max (-Text.int64Bound) (min n (Text.int64Bound - 1))

namespace SystemTotal

/-- The total with one more row. A span that ends before it starts counts as empty. -/
def add (t : SystemTotal) (count : Cell) (first last : Int64) : SystemTotal where
  counter := t.counter.add count
  elapsed := clampInt64 (t.elapsed + max 0 (clampInt64 (last.toInt - first.toInt)))

def perMinute (t : SystemTotal) : Float :=
  t.counter.toFloat / (Float.ofInt t.elapsed / 60000.0)

end SystemTotal

/-- Which end of the range an extremum keeps. -/
inductive Keep where
  | smallest
  | largest
  deriving DecidableEq, Repr

namespace Keep

/-- Whether a cell takes the place of the kept one. Only a strictly better cell does, so a kept
cell that is not a number stays. -/
def replaces : Keep → (candidate kept : Cell) → Bool
  | smallest, .int a, .int b => a < b
  | largest, .int a, .int b => b < a
  | smallest, .float a, .float b => a < b
  | largest, .float a, .float b => b < a
  -- Cells of two kinds do not compare, and the later one is taken.
  | _, _, _ => true

def pick (keep : Keep) (kept : Option Cell) (candidate : Cell) : Cell :=
  match kept with
  | none => candidate
  | some c => if keep.replaces candidate c then candidate else c

end Keep

/-- Two totals and the number of rows that contributed to both. -/
structure Quotient where
  numerator : WideSum := .zero
  denominator : WideSum := .zero
  rows : Nat := 0

namespace Quotient

/-- The totals with the two cells of a row; both must be there. -/
def add (q : Quotient) (n d : Option Cell) : Quotient :=
  match n, d with
  | some n, some d => ⟨q.numerator.add n, q.denominator.add d, q.rows + 1⟩
  | _, _ => q

/-- The quotient times `scale`; none without rows or when the denominator is zero. -/
def result (q : Quotient) (scale : Float) : Option Number :=
  if q.rows = 0 || q.denominator.isZero then none
  else some (.float (q.numerator.toFloat / q.denominator.toFloat * scale))

end Quotient

/-- The totals of the systems that contributed to a rate. -/
abbrev Rate := SortedMap Int64 SystemTotal

namespace Rate

def add (r : Rate) (count : Option Cell) (first last system : Option Int64) : Rate :=
  match count, first, last, system with
  | some count, some first, some last, some system =>
    r.insert system (((r.get? system).getD {}).add count first last)
  | _, _, _, _ => r

/-- The rates of the systems whose rows span some time, added up in the order of the systems. -/
def result (r : Rate) : Option Number :=
  match r.values.filter fun t => 0 < t.elapsed with
  | [] => none
  | timed => some (.float (timed.foldl (fun acc t => acc + t.perMinute) 0.0))

end Rate

structure Mean where
  total : WideSum := .zero
  rows : Nat := 0

namespace Mean

def add (m : Mean) : Option Cell → Mean
  | some c => ⟨m.total.add c, m.rows + 1⟩
  | none => m

def result (m : Mean) : Option Number :=
  if m.rows = 0 then none else some (.float (m.total.toFloat / Float.ofNat m.rows))

end Mean

namespace WideSum

/-- The total with the cell of a row, which starts it. -/
def addTo (total : Option WideSum) (kind : NumericKind) : Option Cell → Option WideSum
  | some c => some ((total.getD .zero).add (c.coerce kind))
  | none => total

end WideSum

namespace Keep

def add (keep : Keep) (kind : NumericKind) (kept : Option Cell) : Option Cell → Option Cell
  | some c => some (keep.pick kept (c.coerce kind))
  | none => kept

end Keep

def Cell.toNumber : Cell → Number
  | int n => .int n
  | float f => .float f

namespace Aggregation

/-- What an aggregation gathers. -/
def State : Aggregation → Type
  | sum .. => Option WideSum
  | average _ => Mean
  | naturalAverage .. => Quotient
  | naturalPerMinute .. => Rate
  | percent .. => Quotient
  | min .. => Option Cell
  | max .. => Option Cell

def initial : (a : Aggregation) → a.State
  | sum .. => (none : Option WideSum)
  | average _ => ({} : Mean)
  | naturalAverage .. => ({} : Quotient)
  | naturalPerMinute .. => (SortedMap.empty : Rate)
  | percent .. => ({} : Quotient)
  | min .. => (none : Option Cell)
  | max .. => (none : Option Cell)

def feed (row : Row) : (a : Aggregation) → a.State → Except Error a.State
  | sum column kind, total => return WideSum.addTo total kind (← row.value column)
  | average column, mean => return Mean.add mean (← row.value column)
  | naturalAverage numerator denominator, q => do
    let n ← row.value numerator
    let d ← row.value denominator
    return Quotient.add q n d
  | naturalPerMinute counter startTime endTime system, r => do
    let count ← row.value counter
    let first ← row.long startTime
    let last ← row.long endTime
    let system ← row.long system
    return Rate.add r count first last system
  | percent numerator denominator, q => do
    let n ← row.value numerator
    let d ← row.value denominator
    return Quotient.add q n d
  | min column kind, kept => return Keep.smallest.add kind kept (← row.value column)
  | max column kind, kept => return Keep.largest.add kind kept (← row.value column)

/-- The result of what has been gathered; none when no row has contributed, or when the result is
not defined. -/
def result : (a : Aggregation) → a.State → Option Number
  | sum _ kind, total => Option.map (WideSum.toNumber kind) total
  | average _, mean => Mean.result mean
  | naturalAverage .., q => Quotient.result q 1.0
  | naturalPerMinute .., r => Rate.result r
  | percent .., q => Quotient.result q 100.0
  | min .., kept => Option.map Cell.toNumber kept
  | max .., kept => Option.map Cell.toNumber kept

end Aggregation

/-- An aggregation with what it has gathered so far. -/
structure Aggregator where
  aggregation : Aggregation
  state : aggregation.State

namespace Aggregator

def start (a : Aggregation) : Aggregator := ⟨a, a.initial⟩

def feed (a : Aggregator) (row : Row) : Except Error Aggregator :=
  return ⟨a.aggregation, ← a.aggregation.feed row a.state⟩

/-- The aggregator after a list of rows, up to the first that lacks a column. -/
def feedAll (a : Aggregator) (rows : List Row) : Except Error Aggregator := rows.foldlM feed a

def result (a : Aggregator) : Option Number := a.aggregation.result a.state

end Aggregator

end MetricSeries
