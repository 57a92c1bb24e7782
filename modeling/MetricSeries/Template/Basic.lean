import MetricSeries.Aggregate.Aggregation
import MetricSeries.Database
import MetricSeries.Method

/-!
# Templates

A template describes a category of metrics: its fields, and for each field the aggregations that
it offers and the one it uses by default. A field may be internal, which keeps it off listings,
and it may require a changeset of the database.

`Template.validate` says which templates can be registered: the name is not blank and has no dot,
and the fields have names of their own, none blank, and offer their default method.
-/

namespace MetricSeries

structure Field where
  name : String
  column : String
  defaultMethod : Method
  /-- The aggregation of each method that the field offers. -/
  aggregations : SortedMap Method Aggregation
  /-- Internal fields are not primary. -/
  primary : Bool := true
  /-- The changeset without which the field does not exist. -/
  requiredChangeset : Option String := none
  deriving DecidableEq

namespace Field

def new (name column : String) (defaultMethod : Method) : Field :=
  ⟨name, column, defaultMethod, .empty, true, none⟩

def offer (f : Field) (m : Method) (a : Aggregation) : Field :=
  { f with aggregations := f.aggregations.insert m a }

def internal (f : Field) : Field := { f with primary := false }

def requires (f : Field) (changeset : String) : Field :=
  { f with requiredChangeset := some changeset }

def aggregation? (f : Field) (m : Method) : Option Aggregation := f.aggregations.get? m

def supports (f : Field) (m : Method) : Bool := f.aggregations.contains m

def methods (f : Field) : List Method := f.aggregations.keys

def isAvailable (f : Field) (db : Database) : Bool :=
  match f.requiredChangeset with
  | some changeset => db.hasChangeset changeset
  | none => true

/-- Whether a field shows in a listing. -/
def isVisible (f : Field) (db : Database) (includeInternal : Bool) : Bool :=
  (includeInternal || f.primary) && f.isAvailable db

/-- Refuses a field that has no name, no method, or a default that it does not offer. -/
def validate (f : Field) (template : String) : Except Error Unit :=
  if Text.allBlank f.name then .error (.unnamedField template)
  else if f.aggregations.isEmpty then .error (.noMethod f.name template)
  else if !f.supports f.defaultMethod then
    .error (.unsupportedDefault f.defaultMethod.name f.name)
  else .ok ()

end Field

/-- A category of metrics. -/
structure Template where
  name : String
  fields : List Field
  deriving DecidableEq

namespace Template

def field? (t : Template) (name : String) : Option Field := t.fields.find? fun f => f.name = name

/-- The fields that show in a listing, in their order. -/
def visibleFields (t : Template) (db : Database) (includeInternal : Bool) : List Field :=
  t.fields.filter fun f => f.isVisible db includeInternal

/-- Refuses the first field that is not valid or repeats one of the names `seen`. -/
def validateFields (template : String) : (seen : List String) → List Field → Except Error Unit
  | _, [] => .ok ()
  | seen, f :: fs => do
    -- A field is looked at before its name is compared with those before it.
    f.validate template
    if f.name ∈ seen then .error (.duplicateField f.name template)
    else validateFields template (f.name :: seen) fs

def validate (t : Template) : Except Error Unit :=
  if Text.allBlank t.name || t.name.toList.contains '.' then .error (.invalidTemplateName t.name)
  else validateFields t.name [] t.fields

end Template

end MetricSeries
