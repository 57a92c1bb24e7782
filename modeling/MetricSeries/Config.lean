import MetricSeries.Aggregate.Aggregation
import MetricSeries.Json.Printer
import MetricSeries.Json.Reader
import MetricSeries.Json.Record
import MetricSeries.Text.Blank

/-!
# Settings of a data source

The settings limit the points of a series, name the columns that every row carries, and give the
schema and the decimal places of results. They come in layers: defaults, then a JSON text, whose
missing keys keep the defaults, then overrides from the environment.

Whatever a layer yields is validated, so that `Config.read` and `Config.override` return valid
settings only.
-/

namespace MetricSeries

/-- The settings of a data source. -/
structure Config where
  /-- The most points that an output series may have. -/
  maxPoints : UInt64 := 1440
  /-- The column that dates a row and ends its time span. -/
  timeColumn : String := defaultEndTimeColumn
  startTimeColumn : String := defaultStartTimeColumn
  systemColumn : String := defaultSystemColumn
  schema : Option String := none
  precision : UInt32 := 3
  deriving DecidableEq, Repr

namespace Config

def maxPointsVariable : String := "PERFSERIES_MAX_POINTS"

def schemaVariable : String := "PERFSERIES_SCHEMA"

def precisionVariable : String := "PERFSERIES_PRECISION"

/-- The columns that settings name, with their keys. -/
def columns (c : Config) : List (String × String) :=
  [("time_column", c.timeColumn), ("start_time_column", c.startTimeColumn),
    ("system_column", c.systemColumn)]

/-- Refuses settings without points, with a blank column, or with too many decimal places. -/
def validate (c : Config) : Except Error Unit :=
  if c.maxPoints = 0 then .error .noPoints
  else match c.columns.find? fun column => Text.allBlank column.2 with
    | some (key, _) => .error (.blankColumn key)
    | none => if 15 < c.precision then .error .precisionTooHigh else .ok ()

def validated (c : Config) : Except Error Config := do
  c.validate
  return c

/-! ### JSON -/

def keys : List String :=
  ["max_points_per_series", "time_column", "start_time_column", "system_column", "schema",
    "precision"]

def toJson (c : Config) : Json :=
  .record
    [ ("max_points_per_series", .ofNat c.maxPoints.toNat), ("time_column", .ofString c.timeColumn),
      ("start_time_column", .ofString c.startTimeColumn),
      ("system_column", .ofString c.systemColumn),
      ("schema", match c.schema with
        | some s => .ofString s
        | none => .null),
      ("precision", .ofNat c.precision.toNat) ]

def write (c : Config) : String := c.toJson.render

def maxPointsOfJson? (j : Json) : Option UInt64 := (j.asNatBelow? UInt64.size).map UInt64.ofNat

def precisionOfJson? (j : Json) : Option UInt32 := (j.asNatBelow? UInt32.size).map UInt32.ofNat

/-- Reads settings from a record, whose missing fields have their defaults. -/
def ofJson? (j : Json) : Option Config := do
  let base : Config := {}
  match ← j.fields? keys with
  | [maxPoints, timeColumn, startTimeColumn, systemColumn, schema, precision] =>
    let maxPoints ← Json.withDefault? maxPointsOfJson? base.maxPoints maxPoints
    let timeColumn ← Json.withDefault? Json.asString? base.timeColumn timeColumn
    let startTimeColumn ← Json.withDefault? Json.asString? base.startTimeColumn startTimeColumn
    let systemColumn ← Json.withDefault? Json.asString? base.systemColumn systemColumn
    -- The schema alone may be null.
    let schema ← Json.optional? Json.asString? schema
    let precision ← Json.withDefault? precisionOfJson? base.precision precision
    return { maxPoints, timeColumn, startTimeColumn, systemColumn, schema, precision }
  | _ => none

def read (text : String) : Except Error Config :=
  match (Json.read? text).bind ofJson? with
  | some c => c.validated
  | none => .error .invalidConfig

/-! ### Overrides -/

def overrideMaxPoints (c : Config) : Option String → Except Error Config
  | none => .ok c
  | some text =>
    match Text.readNatBelow? UInt64.size (Text.trim text.toList) with
    | some n => .ok { c with maxPoints := .ofNat n }
    | none => .error (.invalidMaxPoints maxPointsVariable text)

/-- The settings with the schema from the environment; a blank one stands for no schema. -/
def overrideSchema (c : Config) : Option String → Config
  | none => c
  | some text =>
    { c with schema := if Text.allBlank text then none else some (Text.trimmed text) }

def overridePrecision (c : Config) : Option String → Except Error Config
  | none => .ok c
  | some text =>
    match Text.readNatBelow? UInt32.size (Text.trim text.toList) with
    | some n => .ok { c with precision := .ofNat n }
    | none => .error (.invalidPrecision precisionVariable text)

/-- The settings with what the environment overrides. -/
def override (c : Config) (lookup : String → Option String) : Except Error Config := do
  let c ← c.overrideMaxPoints (lookup maxPointsVariable)
  let c := c.overrideSchema (lookup schemaVariable)
  let c ← c.overridePrecision (lookup precisionVariable)
  c.validated

end Config

end MetricSeries
