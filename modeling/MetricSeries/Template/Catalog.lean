import MetricSeries.Json.Printer
import MetricSeries.Json.Reader
import MetricSeries.Template.Basic

/-!
# Catalogs

Templates are kept in catalogs, JSON texts that list them. A field's methods are the keys of its
`aggregators`; `primary` is true and `required_changeset` is absent unless they are given.

`Catalog.read?` reads a catalog and `Catalog.write` writes one.
-/

namespace MetricSeries

/-! ### Writing -/

def Field.aggregationsJson (f : Field) : Json :=
  .record (f.aggregations.toList.map fun e => (e.1.name, e.2.toJson))

def Field.toJson (f : Field) : Json :=
  .record <|
    [ ("name", .ofString f.name), ("column", .ofString f.column),
      ("default_method", .ofString f.defaultMethod.name),
      ("aggregators", f.aggregationsJson), ("primary", .bool f.primary) ] ++
    (f.requiredChangeset.map fun c => ("required_changeset", Json.ofString c)).toList

def Template.toJson (t : Template) : Json :=
  .record [("name", .ofString t.name), ("fields", .array (t.fields.map Field.toJson))]

/-! ### Reading -/

/-- Reads a method: its name, or an object that maps the name to null. -/
def Method.ofJson? (j : Json) : Option Method := j.asName?.bind ofName?

/-- Reads a field, in whose aggregations no more than `depth` arrays and objects lie in each
other. -/
def Field.ofJson? (depth : Nat) (j : Json) : Option Field := do
  let fields ← j.fields?
    ["name", "column", "default_method", "aggregators", "primary", "required_changeset"]
  match fields with
  | [name, column, method, aggregators, primary, changeset] =>
    let name ← Json.required? Json.asString? name
    let column ← Json.required? Json.asString? column
    let method ← Json.required? Method.ofJson? method
    let entries ←
      Json.required? (Json.asEntries? Method.ofName? (Aggregation.ofJson? depth)) aggregators
    let primary ← Json.withDefault? Json.asBool? true primary
    let changeset ← Json.optional? Json.asString? changeset
    return ⟨name, column, method, SortedMap.ofList entries, primary, changeset⟩
  | _ => none

def Template.ofJson? (depth : Nat) (j : Json) : Option Template := do
  match ← j.fields? ["name", "fields"] with
  | [name, fields] =>
    let name ← Json.required? Json.asString? name
    let fields ← Json.required? (Json.asList? (Field.ofJson? depth)) fields
    return ⟨name, fields⟩
  | _ => none

namespace Catalog

/-- The number of arrays and objects that may lie in each other inside an aggregation of a
template that stands alone. A text nests no deeper than 127 where it is read whole, and an
aggregation is the fifth level of a template. -/
def templateDepth : Nat := 122

/-- The same inside a catalog, which is one more level. -/
def catalogDepth : Nat := templateDepth - 1

def readTemplate? (text : String) : Option Template :=
  (Json.read? text).bind (Template.ofJson? templateDepth)

def read? (text : String) : Option (List Template) :=
  (Json.read? text).bind (Json.asList? (Template.ofJson? catalogDepth))

def toJson (templates : List Template) : Json := .array (templates.map Template.toJson)

def write (templates : List Template) : String := (toJson templates).render

end Catalog

end MetricSeries
