import MetricSeries.Error
import MetricSeries.Text.Split

/-!
# Categories

A clause names its category with dots between segments, as in `Interval.WebRequest.search`. The
first segment is the name of a template, and the whole name tells the rows of the category apart.
-/

namespace MetricSeries

/-- A category of metrics within a template. -/
structure Category where
  /-- The first segment of the name. -/
  template : String
  name : String
  deriving DecidableEq, Repr

/-- Reads a category name; blank space around it does not count. No segment may be blank. -/
def Category.parse (text : String) : Except Error Category :=
  let name := Text.trim text.toList
  let segments := name.splitOn '.'
  if segments.any fun s => s.all Text.isBlank then
    .error (.invalidCategory (String.ofList name))
  else .ok ⟨String.ofList (segments.headD []), String.ofList name⟩

end MetricSeries
