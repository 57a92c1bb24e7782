import MetricSeries.Text.Blank
import MetricSeries.Text.Quoted
import MetricSeries.SortedMap

/-!
# Databases

Metrics live in databases. A database has an identity, which every identifier in a definition
must share, an optional schema that qualifies its tables, the changesets that have been applied
to it, which decide what fields it can offer, and a clock.
-/

namespace MetricSeries

/-- A database handle. -/
structure Database where
  /-- The identity that identifiers refer to. -/
  id : String
  /-- The schema that qualifies table names. -/
  schema : Option String := none
  changesets : List String := []
  /-- What the clock shows, in milliseconds since the epoch. -/
  now : Int := 0

namespace Database

/-- The database under a schema; blank space around the name does not count, and a blank name
stands for no schema. -/
def withSchema (db : Database) (name : String) : Database :=
  { db with schema := if Text.allBlank name then none else some (Text.trimmed name) }

def withChangesets (db : Database) (changesets : List String) : Database :=
  { db with changesets := db.changesets ++ changesets }

def schemaPrefix (db : Database) : String :=
  match db.schema with
  | some name => name ++ "."
  | none => ""

def hasChangeset (db : Database) (changeset : String) : Bool := db.changesets.contains changeset

/-- The handle as a developer sees it: identity, schema, and the changesets in order. -/
def inspected (db : Database) : String :=
  let schema := match db.schema with
    | some name => "Some(" ++ Text.inspected name ++ ")"
    | none => "None"
  let changesets := (SortedMap.ofList (db.changesets.map fun c => (c, ()))).keys
  "Database \x7b id: " ++ Text.inspected db.id ++ ", schema: " ++ schema ++ ", changesets: \x7b" ++
    ", ".intercalate (changesets.map Text.inspected) ++ "\x7d \x7d"

end Database

end MetricSeries
