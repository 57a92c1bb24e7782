import MetricSeries.Json.Basic
import MetricSeries.SortedMap

/-!
# Writing JSON text

`Json.render` writes a value on one line, members in their given order. `Json.pretty` writes one
member or item per line, indented by two blanks a level; `Json.withSortedKeys` brings the members
of every object into the order of their keys beforehand.

In strings the quote, the backslash and the control characters are escaped, everything else stands
for itself.
-/

namespace MetricSeries.Json

def hexDigit (n : Nat) : Char := Nat.digitChar n

def escape (c : Char) : List Char :=
  if c = '"' then ['\\', '"']
  else if c = '\\' then ['\\', '\\']
  else if c = '\x08' then ['\\', 'b']
  else if c = '\x0C' then ['\\', 'f']
  else if c = '\n' then ['\\', 'n']
  else if c = '\r' then ['\\', 'r']
  else if c = '\t' then ['\\', 't']
  else if c.toNat < 0x20 then
    ['\\', 'u', '0', '0', hexDigit (c.toNat / 16), hexDigit (c.toNat % 16)]
  else [c]

def quoted (cs : List Char) : List Char := '"' :: (cs.flatMap escape ++ ['"'])

/-- A string or key as written. A literal whose text is missing is written as half of a surrogate
pair. -/
def stringText : Option String → List Char
  | some s => quoted s.toList
  | none => ['"', '\\', 'u', 'd', '8', '0', '0', '"']

def Numeral.text (n : Numeral) : List Char :=
  (if n.negative then ['-'] else []) ++ n.whole ++
    (if n.fraction.isEmpty then [] else '.' :: n.fraction) ++
    match n.exponent with
    | none => []
    | some e => 'e' :: ((if e.negative then ['-'] else []) ++ e.digits)

mutual

/-- A value on one line. -/
def renderChars : Json → List Char
  | .null => ['n', 'u', 'l', 'l']
  | .bool true => ['t', 'r', 'u', 'e']
  | .bool false => ['f', 'a', 'l', 's', 'e']
  | .number n => n.text
  | .string s => stringText s
  | .array [] => ['[', ']']
  | .array (v :: vs) => '[' :: (renderChars v ++ renderItems vs)
  | .object [] => ['\x7b', '\x7d']
  | .object (m :: ms) => '\x7b' :: (renderMember m ++ renderMembers ms)

/-- The items after the first, each behind a comma, and the closing bracket. -/
def renderItems : List Json → List Char
  | [] => [']']
  | v :: vs => ',' :: (renderChars v ++ renderItems vs)

def renderMember : Option String × Json → List Char
  | (key, v) => stringText key ++ ':' :: renderChars v

def renderMembers : List (Option String × Json) → List Char
  | [] => ['\x7d']
  | m :: ms => ',' :: (renderMember m ++ renderMembers ms)

end

def render (j : Json) : String := String.ofList (renderChars j)

/-! ### Indented text -/

/-- A new line at a level of indentation. -/
def newLine (level : Nat) : List Char := '\n' :: List.replicate (2 * level) ' '

mutual

/-- A value at a level of indentation. -/
def prettyChars (level : Nat) : Json → List Char
  | .array (v :: vs) =>
    '[' :: (newLine (level + 1) ++ prettyChars (level + 1) v ++ prettyItems level vs)
  | .object (m :: ms) =>
    '\x7b' :: (newLine (level + 1) ++ prettyMember (level + 1) m ++ prettyMembers level ms)
  | .array [] => ['[', ']']
  | .object [] => ['\x7b', '\x7d']
  | .null => renderChars .null
  | .bool b => renderChars (.bool b)
  | .number n => renderChars (.number n)
  | .string s => renderChars (.string s)

def prettyItems (level : Nat) : List Json → List Char
  | [] => newLine level ++ [']']
  | v :: vs => ',' :: (newLine (level + 1) ++ prettyChars (level + 1) v ++ prettyItems level vs)

def prettyMember (level : Nat) : Option String × Json → List Char
  | (key, v) => stringText key ++ ':' :: ' ' :: prettyChars level v

def prettyMembers (level : Nat) : List (Option String × Json) → List Char
  | [] => newLine level ++ ['\x7d']
  | m :: ms => ',' :: (newLine (level + 1) ++ prettyMember (level + 1) m ++ prettyMembers level ms)

end

def pretty (j : Json) : String := String.ofList (prettyChars 0 j)

mutual

/-- The value with the members of every object in the order of their keys. -/
def withSortedKeys : Json → Json
  | .array vs => .array (itemsSorted vs)
  | .object ms => .object (SortedMap.ofList (membersSorted ms)).toList
  | .null => .null
  | .bool b => .bool b
  | .number n => .number n
  | .string s => .string s

def itemsSorted : List Json → List Json
  | [] => []
  | v :: vs => withSortedKeys v :: itemsSorted vs

def membersSorted : List (Option String × Json) → List (Option String × Json)
  | [] => []
  | (key, v) :: ms => (key, withSortedKeys v) :: membersSorted ms

end

end MetricSeries.Json
