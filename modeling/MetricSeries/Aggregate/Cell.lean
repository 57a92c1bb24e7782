import MetricSeries.Error
import MetricSeries.Json.Reader
import MetricSeries.Json.Record
import MetricSeries.SortedMap

/-!
# Cells and rows

A cell is a number that a database returned, a 64-bit integer or a double; points in time are
integers, in milliseconds since the epoch. A row maps column names to cells, where an empty cell
is the NULL of the database. A column that the row does not carry is an error, and NULL is not.
-/

namespace MetricSeries

inductive Cell where
  | int (n : Int64)
  | float (f : Float)

namespace Cell

def toFloat : Cell → Float
  | int n => Float.ofInt n.toInt
  | float f => f

/-- The cell as an integer: a fraction is cut off, values beyond 64 bits become the nearest
bound, and what is not a number reads as zero. -/
def toInt64 : Cell → Int64
  | int n => n
  -- The conversion of `Float` itself has no definition to reason about, and that of its model has.
  | float f => f.toModel.toInt64

end Cell

/-- A row of a query result: the cells of its columns, empty for NULL. -/
abbrev Row := SortedMap String (Option Cell)

namespace Row

def value (row : Row) (column : String) : Except Error (Option Cell) :=
  match row.get? column with
  | some cell => .ok cell
  | none => .error (.missingColumn column)

def long (row : Row) (column : String) : Except Error (Option Int64) :=
  return (← row.value column).map Cell.toInt64

def double (row : Row) (column : String) : Except Error (Option Float) :=
  return (← row.value column).map Cell.toFloat

end Row

/-! ### Rows in JSON -/

/-- The cell that a number literal writes: an integer where it is one and fits 64 bits, a double
where it is finite. -/
def Json.Numeral.cell? (n : Json.Numeral) : Option Cell :=
  match n.int?.bind Text.fitInt64? with
  | some i => some (.int i)
  | none => n.float?.map .float

/-- Reads a cell, which may be null. -/
def Cell.ofJson? : Json → Option (Option Cell)
  | .null => some none
  | .number n => n.cell?.map some
  | _ => none

/-- Reads a row: a record whose only field maps column names to cells. -/
def Row.ofJson? (j : Json) : Option Row := do
  match ← j.fields? ["columns"] with
  | [columns] =>
    let entries ← Json.required? (Json.asEntries? some Cell.ofJson?) columns
    return SortedMap.ofList entries
  | _ => none

def Row.read? (text : String) : Option Row := (Json.read? text).bind Row.ofJson?

end MetricSeries
