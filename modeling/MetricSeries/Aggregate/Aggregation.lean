import MetricSeries.Aggregate.WideSum

/-!
# Aggregations

An aggregation is the recipe for one number out of many rows, bound to the columns that it reads.
There are seven kinds: sum, smallest and largest value of a column; its average; the quotient of
two sums, as such or in per cent; and a rate per minute.

`Aggregation.columns` lists what a recipe reads, `Aggregation.toJson` and `Aggregation.ofJson?`
are its form in a catalog.
-/

namespace MetricSeries

def defaultStartTimeColumn : String := "StartTime"

/-- The column that ends a row's time span and dates the row, unless configured otherwise. -/
def defaultEndTimeColumn : String := "EndTime"

def defaultSystemColumn : String := "SystemID"

/-- A recipe for one number out of many rows. -/
inductive Aggregation where
  | sum (column : String) (kind : NumericKind)
  /-- The sum of the column over the number of rows. -/
  | average (column : String)
  /-- The sum of one column over the sum of another. -/
  | naturalAverage (numerator denominator : String)
  /-- The counter of each system over the minutes that its rows span, added up over the
  systems. -/
  | naturalPerMinute (counter startTime endTime system : String)
  /-- A hundred times the sum of one column over the sum of another. -/
  | percent (numerator denominator : String)
  | min (column : String) (kind : NumericKind)
  | max (column : String) (kind : NumericKind)
  deriving DecidableEq, Repr

namespace Aggregation

/-- A rate per minute that reads the usual time and system columns. -/
def perMinute (counter : String) : Aggregation :=
  naturalPerMinute counter defaultStartTimeColumn defaultEndTimeColumn defaultSystemColumn

/-- The recipe with a rate's time and system columns replaced; the other kinds read none. -/
def withRowColumns (startTime endTime system : String) : Aggregation → Aggregation
  | naturalPerMinute counter .. => naturalPerMinute counter startTime endTime system
  | other => other

def kindName : Aggregation → String
  | sum .. => "sum"
  | average .. => "average"
  | naturalAverage .. => "natural_average"
  | naturalPerMinute .. => "natural_per_minute"
  | percent .. => "percent"
  | min .. => "min"
  | max .. => "max"

/-- The columns that a recipe reads, in a fixed order. -/
def columns : Aggregation → List String
  | sum column _ | average column | min column _ | max column _ => [column]
  | naturalAverage numerator denominator | percent numerator denominator =>
    [numerator, denominator]
  | naturalPerMinute counter startTime endTime system => [counter, startTime, endTime, system]

/-! ### Recipes in JSON -/

/-- The members that describe a recipe in a catalog. -/
def members : Aggregation → List (String × String)
  | sum column kind | min column kind | max column kind =>
    [("column", column), ("numeric", kind.name)]
  | average column => [("column", column)]
  | naturalAverage numerator denominator | percent numerator denominator =>
    [("numerator", numerator), ("denominator", denominator)]
  | naturalPerMinute counter startTime endTime system =>
    [("counter", counter), ("start_time", startTime), ("end_time", endTime), ("system", system)]

/-- The form of a recipe in a catalog: its kind and its columns, and whether integers or doubles
are meant where that matters. -/
def toJson (a : Aggregation) : Json :=
  .record (("kind", .ofString a.kindName) :: a.members.map fun m => (m.1, .ofString m.2))

/-- Reads a numeric kind: its name, or an object that maps the name to null or to nothing. -/
def numericOfJson? : Json → Option NumericKind
  | .string (some name) => NumericKind.ofName? name
  | .object [(some name, .null)] => NumericKind.ofName? name
  | .object [(some name, .object [])] => NumericKind.ofName? name
  | _ => none

/-- Reads a recipe of the kind with this name; the rest of its members, or of its array, is
`body`. -/
def ofBody? (kindName : String) (body : Json) : Option Aggregation :=
  let column := Json.required? Json.asString?
  let numeric := Json.withDefault? numericOfJson? .integer
  let simple (recipe : String → NumericKind → Aggregation) : Option Aggregation := do
    match ← body.fields? ["column", "numeric"] with
    | [c, n] => return recipe (← column c) (← numeric n)
    | _ => none
  let quotient (recipe : String → String → Aggregation) : Option Aggregation := do
    match ← body.fields? ["numerator", "denominator"] with
    | [n, d] => return recipe (← column n) (← column d)
    | _ => none
  match kindName with
  | "sum" => simple sum
  | "min" => simple min
  | "max" => simple max
  | "average" => do
    match ← body.fields? ["column"] with
    | [c] => return average (← column c)
    | _ => none
  | "natural_average" => quotient naturalAverage
  | "percent" => quotient percent
  | "natural_per_minute" => do
    match ← body.fields? ["counter", "start_time", "end_time", "system"] with
    | [c, s, e, y] =>
      return naturalPerMinute (← column c) (← column s) (← column e) (← column y)
    | _ => none
  | _ => none

/-- Splits the kind off the members of a recipe. It is given exactly once. -/
def splitKind? (members : List (Option String × Json)) :
    Option (String × List (Option String × Json)) :=
  match members.partition fun m => m.1 = some "kind" with
  | ([(_, .string (some kindName))], rest) => some (kindName, rest)
  | _ => none

/-- Reads a recipe: an object with its kind, or an array that starts with it. The other members
or items are read whole before the kind says what they mean, so they must be readable to the last
one, with no more than `depth` arrays and objects in each other. -/
def ofJson? (depth : Nat) : Json → Option Aggregation
  | .object members => do
    let (kindName, rest) ← splitKind? members
    if Json.readableMembers depth rest then ofBody? kindName (.object rest) else none
  | .array (.string (some kindName) :: items) =>
    if Json.readableItems depth items then ofBody? kindName (.array items) else none
  | _ => none

end Aggregation

end MetricSeries
