import MetricSeries.Database
import MetricSeries.Error
import MetricSeries.Text.Numeral

/-!
# Identifiers

A definition names systems as `DBID.n` and groups of systems as `DBID.GROUP.n`, where `DBID` is
the identity of the database they live in: four capital letters or digits, a hyphen, and four
more. The number fits 64 bits.

`Ident.parse` reads such a token and `Ident.text` writes it. Writing is canonical: leading zeros
and blank space around the token are not kept.
-/

namespace MetricSeries

structure SystemId where
  database : String
  number : Int64
  deriving DecidableEq, Repr

structure GroupId where
  database : String
  number : Int64
  deriving DecidableEq, Repr

/-- What a token of a definition can name. -/
inductive Ident where
  | system (id : SystemId)
  | group (id : GroupId)
  deriving DecidableEq, Repr

/-- The characters of a system's token. -/
def SystemId.chars (s : SystemId) : List Char :=
  s.database.toList ++ '.' :: Text.decimalInt s.number.toInt

def SystemId.text (s : SystemId) : String := String.ofList s.chars

def GroupId.chars (g : GroupId) : List Char :=
  g.database.toList ++ '.' :: 'G' :: 'R' :: 'O' :: 'U' :: 'P' :: '.' ::
    Text.decimalInt g.number.toInt

def GroupId.text (g : GroupId) : String := String.ofList g.chars

namespace Ident

def chars : Ident → List Char
  | system s => s.chars
  | group g => g.chars

def text (i : Ident) : String := String.ofList i.chars

def database : Ident → String
  | system s => s.database
  | group g => g.database

/-- The characters of a database identity: capital letters and digits. -/
def isIdentityChar (c : Char) : Bool := c.isUpper || c.isDigit

/-- Whether a text is a database identity: four characters, a hyphen, four characters. -/
def isIdentity : List Char → Bool
  | [a, b, c, d, '-', e, f, g, h] => [a, b, c, d, e, f, g, h].all isIdentityChar
  | _ => false

/-- The number of an identifier: ASCII digits whose value fits 64 bits. -/
def number? (cs : List Char) : Option Int64 := (Text.readNat? cs).bind fun n => Text.fitInt64? n

/-- Reads an identifier that has no blank space around it. The identity is the first nine
characters, and a dot follows it. -/
def ofChars? (cs : List Char) : Option Ident :=
  let identity := cs.take 9
  if isIdentity identity then
    match cs.drop 9 with
    | '.' :: 'G' :: 'R' :: 'O' :: 'U' :: 'P' :: '.' :: digits =>
      (number? digits).map fun n => group ⟨String.ofList identity, n⟩
    | '.' :: digits => (number? digits).map fun n => system ⟨String.ofList identity, n⟩
    | _ => none
  else none

/-- Reads an identifier; blank space around it does not count. -/
def parseChars (token : List Char) : Except Error Ident :=
  match ofChars? (Text.trim token) with
  | some i => .ok i
  | none => .error (.invalidIdentifier (String.ofList (Text.trim token)))

def parse (token : String) : Except Error Ident := parseChars token.toList

/-- Refuses an identifier of another database. -/
def ensureScope (i : Ident) (db : Database) : Except Error Unit :=
  if i.database = db.id then .ok () else .error (.scopeMismatch i.text db.id)

end Ident

end MetricSeries
