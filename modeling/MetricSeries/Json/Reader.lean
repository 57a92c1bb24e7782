import MetricSeries.Json.Basic

/-!
# Reading JSON text

A strict reader: no comments, no trailing commas, no byte-order mark, no leading `+` or zeros, no
raw control characters in strings, and nothing but white space after the value. `Json.read?` is
`none` on every text that is not exactly one JSON value.

Each reader takes the characters ahead and returns what it read with the characters that follow.
A string literal is first cut into pieces, one for each character or escape, and the pieces are
then put together: `\u` escapes that make a surrogate pair become one character.

Values nest, so the reader of values is given a bound on its depth. Every level and every item
takes at least one character, hence the length of the text is bound enough.
-/

namespace MetricSeries.Json

/-- JSON white space: blank, tab, line feed and carriage return. -/
def isSpace (c : Char) : Bool := c == ' ' || c == '\t' || c == '\n' || c == '\r'

def skipSpace (cs : List Char) : List Char := cs.dropWhile isSpace

/-! ### Strings -/

/-- A piece of a string literal: a character, or the number of a `\u` escape. -/
inductive Piece where
  | char (c : Char)
  | code (n : Nat)
  deriving DecidableEq, Repr

def hexValue? (c : Char) : Option Nat :=
  if c.isDigit then some (c.toNat - '0'.toNat)
  else if 'a' ≤ c ∧ c ≤ 'f' then some (c.toNat - 'a'.toNat + 10)
  else if 'A' ≤ c ∧ c ≤ 'F' then some (c.toNat - 'A'.toNat + 10)
  else none

def hexCode? (a b c d : Char) : Option Nat := do
  let a ← hexValue? a
  let b ← hexValue? b
  let c ← hexValue? c
  let d ← hexValue? d
  return ((a * 16 + b) * 16 + c) * 16 + d

/-- The character that a one-letter escape stands for. -/
def escaped? : Char → Option Char
  | '"' => some '"'
  | '\\' => some '\\'
  | '/' => some '/'
  | 'b' => some '\x08'
  | 'f' => some '\x0C'
  | 'n' => some '\n'
  | 'r' => some '\r'
  | 't' => some '\t'
  | _ => none

/-- The pieces of a string literal, from behind its opening quote to its closing quote. -/
def pieces? : List Char → Option (List Piece × List Char)
  | [] => none
  | '"' :: rest => some ([], rest)
  | '\\' :: 'u' :: a :: b :: c :: d :: rest => do
    let n ← hexCode? a b c d
    let (ps, rest) ← pieces? rest
    return (.code n :: ps, rest)
  | '\\' :: e :: rest => do
    let c ← escaped? e
    let (ps, rest) ← pieces? rest
    return (.char c :: ps, rest)
  | c :: rest =>
    -- An escape that is cut short, or a control character.
    if c == '\\' || c.toNat < 0x20 then none
    else do
      let (ps, rest) ← pieces? rest
      return (.char c :: ps, rest)

/-- Whether a number is the first half of a surrogate pair. -/
def isLeading (n : Nat) : Bool := 0xD800 ≤ n && n ≤ 0xDBFF

/-- Whether a number is the second half of a surrogate pair. -/
def isTrailing (n : Nat) : Bool := 0xDC00 ≤ n && n ≤ 0xDFFF

/-- The characters of the pieces; none when half of a surrogate pair stands alone. -/
def assemble? : List Piece → Option (List Char)
  | [] => some []
  | .char c :: rest => (assemble? rest).map (c :: ·)
  | .code m :: .code n :: rest =>
    -- The two halves of a pair make one character; no half may stand without the other.
    if isLeading m then
      if isTrailing n then
        (assemble? rest).map (Char.ofNat (0x10000 + (m - 0xD800) * 0x400 + (n - 0xDC00)) :: ·)
      else none
    else if isTrailing m then none
    else (assemble? (.code n :: rest)).map (Char.ofNat m :: ·)
  | .code m :: rest =>
    if isLeading m || isTrailing m then none
    else (assemble? rest).map (Char.ofNat m :: ·)

def string? (cs : List Char) : Option (Option String × List Char) := do
  let (ps, rest) ← pieces? cs
  return ((assemble? ps).map String.ofList, rest)

/-! ### Numbers -/

def digits? (cs : List Char) : Option (List Char × List Char) :=
  match cs.takeWhile Text.isDigit with
  | [] => none
  | ds => some (ds, cs.dropWhile Text.isDigit)

/-- The whole part of a number: a lone zero, or digits that do not start with zero. -/
def whole? : List Char → Option (List Char × List Char)
  | '0' :: rest => some (['0'], rest)
  | cs => digits? cs

def fraction? : List Char → Option (List Char × List Char)
  | '.' :: rest => digits? rest
  | cs => some ([], cs)

/-- The exponent of a number, from behind its `e`. -/
def exponentBody? : List Char → Option (Exponent × List Char)
  | '+' :: rest => (digits? rest).map fun (ds, rest) => (⟨false, ds⟩, rest)
  | '-' :: rest => (digits? rest).map fun (ds, rest) => (⟨true, ds⟩, rest)
  | cs => (digits? cs).map fun (ds, rest) => (⟨false, ds⟩, rest)

def exponent? : List Char → Option (Option Exponent × List Char)
  | 'e' :: rest => (exponentBody? rest).map fun (e, rest) => (some e, rest)
  | 'E' :: rest => (exponentBody? rest).map fun (e, rest) => (some e, rest)
  | cs => some (none, cs)

def unsigned? (negative : Bool) (cs : List Char) : Option (Numeral × List Char) := do
  let (whole, cs) ← whole? cs
  let (fraction, cs) ← fraction? cs
  let (exponent, cs) ← exponent? cs
  return (⟨negative, whole, fraction, exponent⟩, cs)

def numeral? : List Char → Option (Numeral × List Char)
  | '-' :: rest => unsigned? true rest
  | cs => unsigned? false cs

/-! ### Values -/

/-- The items of an array whose items `item` reads, from behind the opening bracket or a comma to
the closing bracket. -/
def items? (item : List Char → Option (Json × List Char)) :
    Nat → List Char → Option (List Json × List Char)
  | 0, _ => none
  | bound + 1, cs => do
    let (v, cs) ← item cs
    match skipSpace cs with
    | ',' :: cs =>
      let (vs, cs) ← items? item bound cs
      return (v :: vs, cs)
    | ']' :: cs => return ([v], cs)
    | _ => none

def member? (item : List Char → Option (Json × List Char)) (cs : List Char) :
    Option ((Option String × Json) × List Char) :=
  match skipSpace cs with
  | '"' :: cs => do
    let (key, cs) ← string? cs
    match skipSpace cs with
    | ':' :: cs =>
      let (v, cs) ← item cs
      return ((key, v), cs)
    | _ => none
  | _ => none

def members? (item : List Char → Option (Json × List Char)) :
    Nat → List Char → Option (List (Option String × Json) × List Char)
  | 0, _ => none
  | bound + 1, cs => do
    let (m, cs) ← member? item cs
    match skipSpace cs with
    | ',' :: cs =>
      let (ms, cs) ← members? item bound cs
      return (m :: ms, cs)
    | '\x7d' :: cs => return ([m], cs)
    | _ => none

/-- A value after any leading white space; `bound` limits the depth and the number of items. -/
def value? : Nat → List Char → Option (Json × List Char)
  | 0, _ => none
  | bound + 1, cs =>
    match skipSpace cs with
    | 'n' :: 'u' :: 'l' :: 'l' :: rest => some (.null, rest)
    | 't' :: 'r' :: 'u' :: 'e' :: rest => some (.bool true, rest)
    | 'f' :: 'a' :: 'l' :: 's' :: 'e' :: rest => some (.bool false, rest)
    | '"' :: rest => do
      let (s, rest) ← string? rest
      return (.string s, rest)
    | '[' :: rest =>
      match skipSpace rest with
      | ']' :: rest => some (.array [], rest)
      | _ => do
        let (vs, rest) ← items? (value? bound) bound rest
        return (.array vs, rest)
    | '\x7b' :: rest =>
      match skipSpace rest with
      | '\x7d' :: rest => some (.object [], rest)
      | _ => do
        let (ms, rest) ← members? (value? bound) bound rest
        return (.object ms, rest)
    | rest => do
      let (n, rest) ← numeral? rest
      return (.number n, rest)

def readChars? (cs : List Char) : Option Json := do
  let (v, rest) ← value? (cs.length + 1) cs
  if (skipSpace rest).isEmpty then some v else none

def read? (text : String) : Option Json := readChars? text.toList

end MetricSeries.Json
