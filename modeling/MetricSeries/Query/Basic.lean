import MetricSeries.Config
import MetricSeries.Query.Accumulator
import MetricSeries.Sources

/-!
# Queries

A query names series, a window and possibly aliases. Against the sources, the database, the groups
and the settings of an `Environment` it is answered in steps:

* `Environment.plan` reads the definition text and resolves every clause to a field, a name and
  the columns to fetch;
* `Environment.window` resolves the start and the end;
* `Environment.evaluate` fetches the rows of every planned series and accumulates them.

Aliases are positional: the n-th of them names the n-th clause that is not blank, and a clause
without alias, or with a blank one, goes by its own text.
-/

namespace MetricSeries

open Time

/-- A resolved series before any row is read. -/
structure SeriesPlan where
  name : String
  definition : Definition
  series : SeriesField
  columns : List String
  deriving DecidableEq

structure QueryWindow where
  first : Span
  last : Span
  deriving DecidableEq, Repr

/-- What queries are answered against. -/
structure Environment where
  sources : Sources
  database : Database
  membership : Membership
  config : Config
  zone : Zone

namespace Environment

/-- The clock that dates are resolved against: the one of the database. -/
def clock (env : Environment) : Clock := ⟨env.zone, env.database.now⟩

/-- The aliases of a query, one for each part of the text. -/
def aliasList : Option String → List (List Char)
  | some text => Text.parts clauseSeparator text.toList
  | none => []

/-- The name of a series: its alias unless that is missing or blank. -/
def seriesName (alias? : Option (List Char)) (d : Definition) : String :=
  match alias? with
  | some (c :: cs) => String.ofList (c :: cs)
  | _ => d.text

def planSeries (env : Environment) (alias? : Option (List Char)) (d : Definition) :
    Except Error SeriesPlan := do
  let series := (← env.sources.registry.resolve env.database d).withRowColumns
    env.config.startTimeColumn env.config.timeColumn env.config.systemColumn
  -- What is fetched is what the aggregation reads once the settings have named its columns.
  return ⟨seriesName alias? d, d, series, series.columns⟩

/-- The plans of a list of definitions with what is left of the aliases. -/
def planAll (env : Environment) : List (List Char) → List Definition →
    Except Error (List SeriesPlan)
  | _, [] => .ok []
  | aliases, d :: ds => do
    let plan ← env.planSeries aliases.head? d
    let plans ← env.planAll aliases.tail ds
    return plan :: plans

def plan (env : Environment) (text : String) (aliases : Option String) :
    Except Error (List SeriesPlan) := do
  let definitions ← Definition.parse env.database env.membership text
  env.planAll (aliasList aliases) definitions

/-- The window between two texts, each with its own marker. -/
def window (env : Environment) (first last : String) : Except Error QueryWindow := do
  let first ← Span.parseAdjusted env.clock first
  let last ← Span.parseAdjusted env.clock last
  return ⟨first, last⟩

def request (env : Environment) (window : QueryWindow) (p : SeriesPlan) : FetchRequest where
  category := p.series.category.name
  systems := p.definition.systems
  first := window.first.first
  last := window.last.last
  timeColumn := env.config.timeColumn
  systemColumn := env.config.systemColumn

/-- The accumulator after the rows of one planned series. -/
def accumulateSeries (env : Environment) (window : QueryWindow) (a : Accumulator)
    (p : SeriesPlan) : Except Error Accumulator := do
  let provider ← env.sources.providerFor p.series.category.template
  -- The number of the series is its place among the slots, so that its rows reach no other.
  let (a, index) := a.addSeries p.name p.series p.definition.systems
  let rows ← provider.fetch (env.request window p)
  a.accumulateAll index rows

/-- The answer to planned series over a window. -/
def answer (env : Environment) (plans : List SeriesPlan) (window : QueryWindow) :
    Except Error QueryResult := do
  let a ← Accumulator.new window.first window.last env.config.maxPoints.toNat
  let a ← plans.foldlM (env.accumulateSeries window) (a.withTimeColumn env.config.timeColumn)
  a.render env.zone env.config.precision.toNat

def evaluate (env : Environment) (text first last : String) (aliases : Option String) :
    Except Error QueryResult := do
  let plans ← env.plan text aliases
  let window ← env.window first last
  env.answer plans window

end Environment

end MetricSeries
