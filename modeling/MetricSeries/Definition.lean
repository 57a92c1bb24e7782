import MetricSeries.Membership
import MetricSeries.Method
import MetricSeries.Text.Split

/-!
# Series definitions

A definition text names the series of a query, one clause each, with `_` between the clauses. A
clause is a row of tokens with `~` between them:

    [METHOD~]SYSTEM[~SYSTEM...]~CATEGORY~FIELD

The systems are system or group identifiers. A first token with neither `-` nor `.` is an
aggregation method that overrides the field's own. Blank space around clauses and tokens does not
count, and blank clauses are skipped.

`Definition.parse` reads a text into the definitions of its clauses, with all groups expanded;
`Definition.text` writes one definition back as a clause, naming each system.
-/

namespace MetricSeries

/-- The separator between clauses, and between aliases. -/
def clauseSeparator : Char := '_'

def tokenSeparator : Char := '~'

/-- One series as a definition text asks for it. -/
structure Definition where
  /-- The method that overrides the field's default. -/
  method : Option Method
  /-- The distinct systems whose values are combined. -/
  systems : List SystemId
  category : String
  field : String
  deriving DecidableEq, Repr

namespace Definition

/-- The tokens that write a definition. -/
def tokens (d : Definition) : List (List Char) :=
  (d.method.map fun m => m.name.toList).toList ++ d.systems.map SystemId.chars ++
    [d.category.toList, d.field.toList]

def chars (d : Definition) : List Char := Text.joined tokenSeparator d.tokens

def text (d : Definition) : String := String.ofList d.chars

/-- Whether a clause's first token is taken for a method: no identifier lacks both `-` and `.`. -/
def isMethodToken (token : List Char) : Bool := !token.contains '-' && !token.contains '.'

def splitMethod : List (List Char) → Except Error (Option Method × List (List Char))
  | [] => .ok (none, [])
  | first :: rest =>
    if isMethodToken first then do
      let m ← Method.parse (String.ofList first)
      return (some m, rest)
    else .ok (none, first :: rest)

/-- Splits the last two tokens, category and field, off the tokens behind the method. At least
one token must be left for a system, and neither of the two may be empty. -/
def splitNames? (tokens : List (List Char)) :
    Option (List (List Char) × List Char × List Char) :=
  match tokens.reverse with
  | field :: category :: last :: rest =>
    if field.isEmpty || category.isEmpty then none
    else some ((last :: rest).reverse, category, field)
  | _ => none

def parseClause (db : Database) (m : Membership) (clause : List Char) :
    Except Error Definition := do
  let (method, tokens) ← splitMethod (Text.parts tokenSeparator clause)
  match splitNames? tokens with
  | none => .error (.insufficientFields (String.ofList clause))
  | some (systemTokens, category, field) =>
    -- All tokens are read before the first of them is looked up.
    let idents ← systemTokens.mapM Ident.parseChars
    let systems ← resolveSystems db m idents
    if systems.isEmpty then .error (.noSystem (String.ofList clause))
    else return ⟨method, systems, String.ofList category, String.ofList field⟩

/-- The clauses of a definition text: the parts that are not blank, trimmed. -/
def clauses (text : List Char) : List (List Char) :=
  (Text.parts clauseSeparator text).filter (!·.isEmpty)

def parse (db : Database) (m : Membership) (text : String) : Except Error (List Definition) :=
  match clauses text.toList with
  | [] => .error .emptyDefinition
  | cs => cs.mapM (parseClause db m)

/-- Reads a definition text that may be missing. -/
def parseOptional (db : Database) (m : Membership) :
    Option String → Except Error (List Definition)
  | some text => parse db m text
  | none => .error .emptyDefinition

/-- The database of the first token, clause by clause, that reads as an identifier. -/
def inferDatabase (text : String) : Option String :=
  ((text.toList.splitOn clauseSeparator).flatMap fun clause =>
    clause.splitOn tokenSeparator).findSome? fun token =>
      (Ident.ofChars? (Text.trim token)).map Ident.database

end Definition

end MetricSeries
