import MetricSeries.Json.Basic

/-!
# Records in JSON

Settings, templates, fields and rows are records with named fields. A record is written as an
object, whose unknown members are ignored and whose known members may not be repeated, or as an
array of its fields in their declared order, where trailing fields may be left out.
`Json.fields?` reads both forms into the list of the fields' values, `none` standing for a field
that is not given; a reader then asks for each field with `required?`, `withDefault?` or
`optional?`.

The leaf readers accept one kind of value each and no other.
-/

namespace MetricSeries.Json

/-- The members with readable keys; none when a key's text is missing. -/
def readableKeys? (members : List (Option String × Json)) : Option (List (String × Json)) :=
  members.mapM fun m => m.1.map fun key => (key, m.2)

/-- The value of a field among the members of an object: none when it occurs twice, `some none`
when it does not occur. -/
def field? (members : List (String × Json)) (name : String) : Option (Option Json) :=
  match members.filter fun m => m.1 = name with
  | [] => some none
  | [m] => some (some m.2)
  | _ => none

/-- The fields of a record by position; an array longer than the record is refused. -/
def positional? : List String → List Json → Option (List (Option Json))
  | [], [] => some []
  | [], _ :: _ => none
  | _ :: names, [] => (positional? names []).map (none :: ·)
  | _ :: names, v :: vs => (positional? names vs).map (some v :: ·)

/-- The values of a record's fields, in the order of `names`. -/
def fields? (names : List String) : Json → Option (List (Option Json))
  | .object members => do
    let members ← readableKeys? members
    names.mapM (field? members)
  | .array items => positional? names items
  | _ => none

/-! ### Fields of a record -/

section

variable {α : Type} (read : Json → Option α)

def required? (field : Option Json) : Option α := field.bind read

def withDefault? (default : α) : Option Json → Option α
  | none => some default
  | some v => read v

/-- A field that may be left out or be null. -/
def optional? : Option Json → Option (Option α)
  | none => some none
  | some .null => some none
  | some v => (read v).map some

end

/-! ### Leaves -/

def asString? : Json → Option String
  | .string s => s
  | _ => none

def asBool? : Json → Option Bool
  | .bool b => some b
  | _ => none

/-- A natural number below `bound`, written without fraction and exponent. -/
def asNatBelow? (bound : Nat) : Json → Option Nat
  | .number n =>
    match n.int? with
    | some (.ofNat m) => if m < bound then some m else none
    | _ => none
  | _ => none

def asList? {α : Type} (read : Json → Option α) : Json → Option (List α)
  | .array items => items.mapM read
  | _ => none

/-- The members of an object that is used as a map: each key and each value is read. -/
def asEntries? {κ α : Type} (key? : String → Option κ) (read : Json → Option α) :
    Json → Option (List (κ × α))
  | .object members => do
    let members ← readableKeys? members
    members.mapM fun m => return (← key? m.1, ← read m.2)
  | _ => none

/-- One of the values of an enumeration: its name as a string, or an object whose only member
is that name with the value null. -/
def asName? : Json → Option String
  | .string s => s
  | .object [(some name, .null)] => some name
  | _ => none

/-! ### Values that are kept whole -/

mutual

/-- Whether a value can be read whole: every string has a text, every number is finite, and no
more than `depth` arrays and objects lie in each other. -/
def readable (depth : Nat) : Json → Bool
  | .null => true
  | .bool _ => true
  | .number n => n.float?.isSome
  | .string s => s.isSome
  | .array items => 0 < depth && readableItems (depth - 1) items
  | .object members => 0 < depth && readableMembers (depth - 1) members

def readableItems (depth : Nat) : List Json → Bool
  | [] => true
  | v :: vs => readable depth v && readableItems depth vs

def readableMembers (depth : Nat) : List (Option String × Json) → Bool
  | [] => true
  | (key, v) :: ms => key.isSome && readable depth v && readableMembers depth ms

end

end MetricSeries.Json
