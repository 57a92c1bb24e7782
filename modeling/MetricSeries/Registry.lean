import MetricSeries.Category
import MetricSeries.Definition
import MetricSeries.Template.Builtin
import MetricSeries.Template.Catalog

/-!
# The registry of templates

The registry keeps templates by name. `Registry.register` adds one that is valid, in place of any
template of its name; `Registry.load` adds the templates of a catalog one by one, and those before
an invalid one stay. `Registry.resolve` finds the aggregation that a definition asks for: its
category names the template, its field the field, and the method is the one of the definition or
else the field's default.

A field whose changeset a database lacks is treated as one that does not exist.
-/

namespace MetricSeries

/-- A definition's field with the method and the aggregation that apply. -/
structure SeriesField where
  method : Method
  category : Category
  field : Field
  aggregation : Aggregation
  deriving DecidableEq

namespace SeriesField

/-- The field with a method that it must offer. -/
def select (m : Method) (category : Category) (field : Field) : Except Error SeriesField :=
  match field.aggregation? m with
  | some a => .ok ⟨m, category, field, a⟩
  | none => .error (.unsupportedMethod m.name field.name)

def withRowColumns (s : SeriesField) (startTime endTime system : String) : SeriesField :=
  { s with aggregation := s.aggregation.withRowColumns startTime endTime system }

/-- The columns to ask a provider for: those that the aggregation reads, and the field's own in
front unless it is among them. -/
def columns (s : SeriesField) : List String :=
  let read := s.aggregation.columns
  if s.field.column ∈ read then read else s.field.column :: read

end SeriesField

structure Registry where
  templates : SortedMap String Template
  deriving DecidableEq

namespace Registry

def empty : Registry := ⟨.empty⟩

/-- Adds a template, in place of any of its name. -/
def register (r : Registry) (t : Template) : Except Error Registry := do
  t.validate
  return ⟨r.templates.insert t.name t⟩

/-- Adds templates one by one up to the first that is not valid. The registry is what was reached,
whether or not that is all. -/
def registerAll (r : Registry) : List Template → Registry × Except Error Unit
  | [] => (r, .ok ())
  | t :: ts =>
    match r.register t with
    | .ok r => r.registerAll ts
    | .error e => (r, .error e)

def builtin : Registry := (empty.registerAll Template.Builtin.templates).1

/-- Adds the templates of a catalog, and counts them. The registry is what was reached, whether or
not that is all. -/
def load (r : Registry) (text : String) : Registry × Except Error Nat :=
  match Catalog.read? text with
  | none => (r, .error .invalidCatalog)
  | some templates =>
    let (r, outcome) := r.registerAll templates
    -- A template that replaced another one counts as well.
    (r, outcome.map fun _ => templates.length)

def names (r : Registry) : List String := r.templates.keys

def lookup (r : Registry) (name : String) : Except Error Template :=
  match r.templates.get? name with
  | some t => .ok t
  | none => .error (.templateNotFound name)

/-- The fields of a template that exist in a database, primary or all of them. -/
def listFields (r : Registry) (template : String) (db : Database) (includeInternal : Bool) :
    Except Error (List Field) :=
  return (← r.lookup template).visibleFields db includeInternal

/-- What a category, a field and a possible method select in a database. -/
def select (r : Registry) (db : Database) (method : Option Method) (categoryName field : String) :
    Except Error SeriesField := do
  let category ← Category.parse categoryName
  let template ← r.lookup category.template
  -- A field that the database lacks does not exist.
  match (template.field? field).filter (·.isAvailable db) with
  | some f => SeriesField.select (method.getD f.defaultMethod) category f
  | none => .error (.fieldNotFound field template.name)

def resolve (r : Registry) (db : Database) (d : Definition) : Except Error SeriesField :=
  r.select db d.method d.category d.field

end Registry

end MetricSeries
