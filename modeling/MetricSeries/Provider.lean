import MetricSeries.Aggregate.Cell
import MetricSeries.Ident

/-!
# Providers

A provider holds the rows of one template's categories. Asked for a series, it returns, in the
order in which they were recorded, the rows of the series' category that belong to one of its
systems and lie in the window. A row that lacks the system column or, once it belongs to a wanted
system, the time column makes the whole request fail.
-/

namespace MetricSeries

/-- A row of a category. -/
structure Record where
  category : String
  row : Row

/-- The rows of a template's categories, in the order in which they were recorded. -/
structure Provider where
  template : String
  records : List Record

/-- What is asked of a provider. -/
structure FetchRequest where
  category : String
  systems : List SystemId
  /-- The first and the last millisecond of the window. -/
  first : Int
  last : Int
  timeColumn : String
  systemColumn : String

namespace FetchRequest

def wantsSystem (q : FetchRequest) (system : Option Int64) : Bool :=
  match system with
  | some n => q.systems.any fun s => s.number = n
  | none => false

def wantsTime (q : FetchRequest) (time : Option Int64) : Bool :=
  match time with
  | some t => q.first ≤ t.toInt && t.toInt ≤ q.last
  | none => false

def matchesRecord (q : FetchRequest) (record : Record) : Except Error Bool := do
  if record.category = q.category then
    let system ← record.row.long q.systemColumn
    if q.wantsSystem system then
      -- The time of a row is only read where its system is wanted.
      return q.wantsTime (← record.row.long q.timeColumn)
    else return false
  else return false

end FetchRequest

/-- The rows of the records that answer a request. -/
def FetchRequest.rows (q : FetchRequest) : List Record → Except Error (List Row)
  | [] => .ok []
  | r :: rs => do
    let wanted ← q.matchesRecord r
    let rows ← q.rows rs
    return if wanted then r.row :: rows else rows

def Provider.fetch (p : Provider) (q : FetchRequest) : Except Error (List Row) := q.rows p.records

end MetricSeries
