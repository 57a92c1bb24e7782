/-!
# Blank characters

Everything this library reads may carry blank space around it: clauses, tokens, dates, names,
environment values. *Blank* means the Unicode property `White_Space`, and `trim` takes the blank
characters off both ends of a text.

Texts are worked on as lists of characters, where each operation is a recursion on the data;
`String` appears in the types that callers see.
-/

namespace MetricSeries.Text

/-- The code points with the Unicode property `White_Space`. -/
def isBlank (c : Char) : Bool :=
  let n := c.toNat
  (0x09 ≤ n && n ≤ 0x0D) || n == 0x20 || n == 0x85 || n == 0xA0 || n == 0x1680 ||
    (0x2000 ≤ n && n ≤ 0x200A) || n == 0x2028 || n == 0x2029 || n == 0x202F || n == 0x205F ||
    n == 0x3000

def trimStart (cs : List Char) : List Char := cs.dropWhile isBlank

def trimEnd (cs : List Char) : List Char := (cs.reverse.dropWhile isBlank).reverse

/-- The text without the blank characters at either end. -/
def trim (cs : List Char) : List Char := trimEnd (trimStart cs)

def trimmed (s : String) : String := String.ofList (trim s.toList)

/-- A text of blank characters only, the empty one included. -/
def allBlank (s : String) : Bool := s.toList.all isBlank

@[simp] theorem trim_nil : trim [] = [] := rfl

end MetricSeries.Text
