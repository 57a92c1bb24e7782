import MetricSeries.Text.Blank

/-!
# Cutting a text at a separator

The mini-languages of this library are built from one-character separators: `_` between the
clauses of a definition and between aliases, `~` between the tokens of a clause, `.` between the
segments of a category. `parts` cuts at every occurrence of the separator and trims each piece;
`joined` puts pieces back together.
-/

namespace MetricSeries.Text

/-- The pieces between the occurrences of `sep`, each trimmed. A text without `sep` is one piece. -/
def parts (sep : Char) (cs : List Char) : List (List Char) := (cs.splitOn sep).map trim

/-- The pieces with `sep` between each two neighbours. -/
def joined (sep : Char) (pieces : List (List Char)) : List Char := [sep].intercalate pieces

@[simp] theorem parts_nil (sep : Char) : parts sep [] = [[]] := rfl

end MetricSeries.Text
