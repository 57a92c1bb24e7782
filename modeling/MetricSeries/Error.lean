/-!
# What can go wrong

Every failure of this library is an `Error`, and each constructor is a cause, carrying what its
message names. `Error.message` is the one place where wording is decided.

Causes fall into eleven kinds. The kind gives the code that is shown to a client, the tag under
which an error is stored, and the HTTP status; `Kind.isRequest` tells the failures of a request
from those of the server.

One cause is no error that a caller ever sees. `Error.aborted` is the outcome of a program that is
stopped where it stands, for want of a value that it takes for granted. Like an error it ends all
that is under way, but nothing is returned and nobody is told.
-/

namespace MetricSeries

inductive Error.Kind where
  | missingDefinition
  | malformedDefinition
  | invalidMethod
  | invalidIdentifier
  | templateNotFound
  | fieldNotFound
  | unsupportedMethod
  | scopeMismatch
  | invalidDateTime
  | config
  | internal
  deriving DecidableEq, Repr

namespace Error.Kind

/-- The code that a client sees. -/
def code : Kind → String
  | missingDefinition => "empty_definition"
  | malformedDefinition => "malformed_definition"
  | invalidMethod => "invalid_aggregation_method"
  | invalidIdentifier => "invalid_identifier"
  | templateNotFound => "template_not_found"
  | fieldNotFound => "field_not_found"
  | unsupportedMethod => "unsupported_aggregation_method"
  | scopeMismatch => "scope_mismatch"
  | invalidDateTime => "invalid_date_time"
  | config => "config_error"
  | internal => "internal_error"

/-- The tag of a stored error. -/
def tag : Kind → String
  | missingDefinition => "empty_or_missing_definition"
  | malformedDefinition => "malformed_definition"
  | invalidMethod => "invalid_aggregation_method"
  | invalidIdentifier => "invalid_identifier"
  | templateNotFound => "template_not_found"
  | fieldNotFound => "field_not_found"
  | unsupportedMethod => "unsupported_aggregation_method"
  | scopeMismatch => "scope_mismatch"
  | invalidDateTime => "invalid_date_time"
  | config => "config"
  | internal => "internal"

/-- Whether the request is at fault, and not the server. -/
def isRequest : Kind → Bool
  | config | internal => false
  | _ => true

/-- The HTTP status: 404 for what is not there, 500 for the server, 400 for the rest. -/
def httpStatus : Kind → Nat
  | templateNotFound | fieldNotFound => 404
  | config | internal => 500
  | _ => 400

end Error.Kind

inductive Error.Source where
  | config
  | catalog
  deriving DecidableEq, Repr

def Error.Source.name : Error.Source → String
  | config => "config"
  | catalog => "template catalog"

inductive Error where
  | emptyDefinition
  | emptyDateTime
  /-- A clause lacks systems, category or field. -/
  | insufficientFields (clause : String)
  /-- The identifiers of a clause expand to no system. -/
  | noSystem (clause : String)
  /-- A category name is empty or has a blank segment. -/
  | invalidCategory (name : String)
  | invalidMethod (token : String)
  | invalidIdentifier (token : String)
  /-- No template, or no provider, goes by this name. -/
  | templateNotFound (name : String)
  /-- A template has no such field, or not for this database. -/
  | fieldNotFound (field template : String)
  | unsupportedMethod (method field : String)
  /-- An identifier belongs to another database. -/
  | scopeMismatch (ident database : String)
  /-- A text is no date or time, or names none in range. -/
  | invalidDateTime (text : String)
  | endBeforeStart (last first : String)
  | unreadableFile (source : Error.Source) (path reason : String)
  | invalidConfig
  | invalidCatalog
  | invalidTemplate
  /-- The settings allow no point at all. -/
  | noPoints
  /-- A column of the settings has a blank name. -/
  | blankColumn (key : String)
  | precisionTooHigh
  | invalidMaxPoints (variableName text : String)
  | invalidPrecision (variableName text : String)
  /-- A template's name is blank or has a dot. -/
  | invalidTemplateName (name : String)
  | unnamedField (template : String)
  | noMethod (field template : String)
  /-- A field does not offer its own default method. -/
  | unsupportedDefault (method field : String)
  | duplicateField (field template : String)
  | missingColumn (column : String)
  /-- A row was fed to a series that does not exist. -/
  | noSeries (index : Nat)
  /-- Nothing is returned: the program is stopped. -/
  | aborted
  deriving DecidableEq, Repr

namespace Error

def kind : Error → Kind
  | emptyDefinition | emptyDateTime => .missingDefinition
  | insufficientFields _ | noSystem _ | invalidCategory _ => .malformedDefinition
  | invalidMethod _ => .invalidMethod
  | invalidIdentifier _ => .invalidIdentifier
  | templateNotFound _ => .templateNotFound
  | fieldNotFound .. => .fieldNotFound
  | unsupportedMethod .. => .unsupportedMethod
  | scopeMismatch .. => .scopeMismatch
  | invalidDateTime _ | endBeforeStart .. => .invalidDateTime
  | unreadableFile .. | invalidConfig | invalidCatalog | invalidTemplate | noPoints
  | blankColumn _ | precisionTooHigh | invalidMaxPoints .. | invalidPrecision ..
  | invalidTemplateName _ | unnamedField _ | noMethod .. | unsupportedDefault ..
  | duplicateField .. => .config
  -- Nobody is there to ask for the kind of an abort, or for its message.
  | missingColumn _ | noSeries _ | aborted => .internal

def message : Error → String
  | emptyDefinition => "must provide a series definition"
  | emptyDateTime => "must provide a date/time"
  | insufficientFields clause =>
    s!"series definition \"{clause}\" must include at least one system, a category and a field"
  | noSystem clause => s!"series definition \"{clause}\" does not resolve to any system"
  | invalidCategory name => s!"invalid category name \"{name}\""
  | invalidMethod token => s!"invalid aggregation method \"{token}\""
  | invalidIdentifier token => s!"invalid system or group identifier \"{token}\""
  | templateNotFound name => s!"category template \"{name}\" not found"
  | fieldNotFound field template =>
    s!"field \"{field}\" not found in category template \"{template}\""
  | unsupportedMethod method field =>
    s!"aggregation method {method} is not supported for field \"{field}\""
  | scopeMismatch ident database => s!"identifier {ident} does not belong to database {database}"
  | invalidDateTime text => s!"invalid date/time \"{text}\""
  | endBeforeStart last first => s!"end \"{last}\" is before start \"{first}\""
  | unreadableFile source path reason => s!"reading {source.name} {path}: {reason}"
  | invalidConfig => "invalid data source config"
  | invalidCatalog => "invalid template catalog"
  | invalidTemplate => "template text is not a template"
  | noPoints => "max_points_per_series must be at least 1"
  | blankColumn key => s!"{key} must be set"
  | precisionTooHigh => "precision must be at most 15"
  | invalidMaxPoints variableName text =>
    s!"{variableName} must be a positive integer, got '{text}'"
  | invalidPrecision variableName text =>
    s!"{variableName} must be a non-negative integer, got '{text}'"
  | invalidTemplateName name => s!"invalid category template name \"{name}\""
  | unnamedField template => s!"template \"{template}\" has a field without a name"
  | noMethod field template =>
    s!"field \"{field}\" of template \"{template}\" supports no aggregation method"
  | unsupportedDefault method field =>
    s!"default aggregation method {method} of field \"{field}\" is not in its supported set"
  | duplicateField field template => s!"duplicate field \"{field}\" in template \"{template}\""
  | missingColumn column => s!"column \"{column}\" not present in result row"
  | noSeries index => s!"no output series #{index}"
  | aborted => "aborted"

end Error

end MetricSeries
