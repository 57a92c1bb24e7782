import MetricSeries.Text.Invisible

/-!
# Quoted text for inspection

Database handles and provider registries can be shown to a developer. Texts in such a view stand
in double quotes. The quote, the backslash and four control characters are escaped by a letter or
a digit, any other character that shows nothing of its own by its code point, and everything else
stands for itself.
-/

namespace MetricSeries.Text

/-- How a character stands in a quoted text. -/
def inspectedChar (c : Char) : List Char :=
  if c = '"' then ['\\', '"']
  else if c = '\\' then ['\\', '\\']
  else if c = '\n' then ['\\', 'n']
  else if c = '\r' then ['\\', 'r']
  else if c = '\t' then ['\\', 't']
  else if c = '\x00' then ['\\', '0']
  else if isInvisible c then
    '\\' :: 'u' :: '\x7b' :: (Nat.toDigits 16 c.toNat ++ ['\x7d'])
  else [c]

/-- A text in double quotes, as an inspection shows it. -/
def inspected (s : String) : String :=
  String.ofList ('"' :: (s.toList.flatMap inspectedChar ++ ['"']))

end MetricSeries.Text
