import MetricSeries.Query.Basic

/-!
# The command line

The program explains a definition: it resolves the definition against the built-in templates, and
those of a catalog if one is given, and prints as JSON what each series computes and reads. With
the texts of a start and an end it also prints the window that they resolve to.

`CommandLine.run` is the whole program as a function of its arguments, its environment variables,
the files that it may read and the clock. The outcome is an exit status with the texts for
standard output and standard error.
-/

namespace MetricSeries.CommandLine

open Time

/-! ### Arguments -/

/-- What the arguments ask for. -/
structure Options where
  positional : List String := []
  database : Option String := none
  changesets : List String := []
  templates : Option String := none
  config : Option String := none
  aliases : Option String := none

/-- Why the arguments are not followed. -/
inductive Refusal where
  | help
  | unrecognized (argument : String)
  | missingValue (flag : String)

/-- Sets the option of a flag to a value; none for a text that is no such flag. -/
def Options.set? (o : Options) (flag value : String) : Option Options :=
  match flag with
  | "--database" => some { o with database := some value }
  | "--templates" => some { o with templates := some value }
  | "--config" => some { o with config := some value }
  | "--alias" => some { o with aliases := some value }
  | "--changeset" => some { o with changesets := o.changesets ++ [value] }
  | _ => none

def takesValue (flag : String) : Bool := ((({} : Options).set? flag "")).isSome

/-- Reads the arguments from left to right. The argument behind a flag is its value, whatever it
looks like. -/
def Options.read (o : Options) : List String → Except Refusal Options
  | [] => .ok o
  | [flag] =>
    if takesValue flag then .error (.missingValue flag)
    else if flag = "-h" || flag = "--help" then .error .help
    else if flag.startsWith "--" then .error (.unrecognized flag)
    else .ok { o with positional := o.positional ++ [flag] }
  | flag :: value :: rest =>
    match o.set? flag value with
    | some o => o.read rest
    | none =>
      if flag = "-h" || flag = "--help" then .error .help
      else if flag.startsWith "--" then .error (.unrecognized flag)
      else Options.read { o with positional := o.positional ++ [flag] } (value :: rest)

/-! ### Output -/

structure Outcome where
  exitStatus : Nat
  output : String := ""
  errors : String := ""

def usage (program : String) : String :=
  "Usage:\n  " ++ program ++
  " <definition> [<start> <end>] [--database <DBID>] [--changeset <id>]... " ++
  "[--templates <file.json>] [--config <file.json>] [--alias <a_b_...>]\n\nExamples:\n  " ++
  program ++ " \"MAX~ABCD-EFGH.1~Interval.WebRequest~maxDuration\"\n  " ++
  program ++ " \"ABCD-EFGH.1~ABCD-EFGH.2~JVM~heapMemUsedPercent\" \"now-60\" \"now\"\n  " ++
  program ++ " \"ABCD-EFGH.1~Interval.Sql~avgSQLDuration\" 2015-04-26 \"2015-04-26\x7b+1D\x7d\"" ++
  " --changeset 0002.0\n\nIf --database is omitted the database of the first identifier is used."

def failure (message : String) : Outcome := ⟨1, "", "Error: " ++ message ++ "\n"⟩

/-- How a run ends with an error. What is written of a program that is stopped is not its own, and
is left out. -/
def Outcome.ofError : Error → Outcome
  | .aborted => ⟨101, "", ""⟩
  | e => failure e.message

def usageOutcome (program : String) (exitStatus : Nat) : Outcome :=
  ⟨exitStatus, "", usage program ++ "\n"⟩

def Refusal.outcome (program : String) : Refusal → Outcome
  | help => usageOutcome program 0
  | unrecognized argument =>
    ⟨2, "", "Unrecognized argument: " ++ argument ++ "\n" ++ usage program ++ "\n"⟩
  | missingValue flag => failure (flag ++ " requires a value")

/-! ### The explanation -/

def textJson : Option String → Json
  | some s => .ofString s
  | none => .null

def systemJson (s : SystemId) : Json :=
  .record [("database_id", .ofString s.database), ("id", .ofInt s.number.toInt)]

def definitionJson (d : Definition) : Json :=
  .record
    [ ("aggregation_method", textJson (d.method.map Method.name)),
      ("category_name", .ofString d.category),
      ("field_name", .ofString d.field),
      ("systems", .array (d.systems.map systemJson)) ]

def seriesJson (s : SeriesField) : Json :=
  .record
    [ ("aggregation_method", .ofString s.method.name),
      ("category", .record
        [("name", .ofString s.category.name), ("template_name", .ofString s.category.template)]),
      ("field", s.field.toJson) ]

def planJson (p : SeriesPlan) : Json :=
  .record
    [ ("columns", .array (p.columns.map .ofString)),
      ("definition", definitionJson p.definition),
      ("name", .ofString p.name),
      ("series", seriesJson p.series) ]

def spanJson (s : Span) : Json :=
  .record
    [ ("fixed_date_time", .ofString s.fixed),
      ("granularity", .ofString s.granularity.name),
      ("relative_date_time", textJson s.relative),
      ("time_for_end", .ofInt s.last),
      ("time_for_start", .ofInt s.first) ]

def windowJson : Option QueryWindow → Json
  | some w => .record [("end", spanJson w.last), ("start", spanJson w.first)]
  | none => .null

/-- The explanation of a definition. -/
def explanation (env : Environment) (plans : List SeriesPlan) (window : Option QueryWindow) :
    Json :=
  .record
    [ ("database", .ofString env.database.id),
      ("max_points_per_series", .ofNat env.config.maxPoints.toNat),
      ("schema_prefix", .ofString env.database.schemaPrefix),
      ("series", .array (plans.map planJson)),
      ("window", windowJson window) ]

/-! ### Running -/

/-- The world that a run may look at. -/
structure World where
  program : String
  setting : String → Option String
  /-- The text of a file, or why it cannot be read. -/
  file : String → Except String String
  clock : Clock

namespace World

def read (w : World) (source : Error.Source) (path : String) : Except Error String :=
  match w.file path with
  | .ok text => .ok text
  | .error reason => .error (.unreadableFile source path reason)

/-- The built-in templates and those of a catalog. -/
def registry (w : World) : Option String → Except Error Registry
  | none => .ok .builtin
  | some path => do
    let text ← w.read .catalog path
    let (r, outcome) := Registry.builtin.load text
    let _ ← outcome
    return r

/-- The settings of a file, or the defaults, with what the environment overrides. -/
def config (w : World) (path : Option String) : Except Error Config := do
  let base ← match path with
    | none => .ok {}
    | some path => Config.read (← w.read .config path)
  base.override w.setting

end World

/-- The database that the options name, under the schema of the settings. -/
def Options.databaseWith (o : Options) (id : String) (config : Config) (now : Instant) : Database :=
  let db : Database := { id, now, changesets := o.changesets }
  match config.schema with
  | some name => db.withSchema name
  | none => db

/-- Plans a definition and, where its texts are given, resolves the window. -/
def explain (env : Environment) (definition : String) (window : Option (String × String))
    (aliases : Option String) : Except Error Json := do
  let plans ← env.plan definition aliases
  let window ← match window with
    | some (first, last) => some <$> env.window first last
    | none => pure none
  return explanation env plans window

/-- What the positional arguments mean: a definition, alone or with a start and an end. -/
def positional? : List String → Option (String × Option (String × String))
  | [definition] => some (definition, none)
  | [definition, first, last] => some (definition, some (first, last))
  | _ => none

def follow (w : World) (o : Options) (definition : String)
    (window : Option (String × String)) : Outcome :=
  -- Templates are read before settings, and both before the database is determined.
  let prepared : Except Error (Registry × Config) := do
    let registry ← w.registry o.templates
    let config ← w.config o.config
    return (registry, config)
  match prepared with
  | .error e => .ofError e
  | .ok (registry, config) =>
    match o.database <|> Definition.inferDatabase definition with
    | none => failure "cannot determine database; pass --database"
    | some id =>
      let env : Environment :=
        { sources := .ofRegistry registry, membership := .empty, config, zone := w.clock.zone,
          database := o.databaseWith id config w.clock.now }
      match explain env definition window o.aliases with
      | .error e => .ofError e
      | .ok j => ⟨0, j.withSortedKeys.pretty ++ "\n", ""⟩

def run (w : World) (arguments : List String) : Outcome :=
  match Options.read {} arguments with
  | .error refusal => refusal.outcome w.program
  | .ok o =>
    match positional? o.positional with
    | none => usageOutcome w.program 2
    | some (definition, window) => follow w o definition window

end MetricSeries.CommandLine
