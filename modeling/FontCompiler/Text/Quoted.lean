import FontCompiler.Text.Hex
import FontCompiler.Text.Invisible

/-!
# Quoted text for messages

A text between double quotes in which quotes, backslashes and the usual control
characters are escaped by a letter, and every other invisible character by its
code point.
-/

namespace FontCompiler.Text

/-- One character as it stands between the quotes. -/
def quoteChar (char : Char) : String :=
  if char = '\"' then "\\\""
  else if char = '\\' then "\\\\"
  else if char = '\n' then "\\n"
  else if char = '\r' then "\\r"
  else if char = '\t' then "\\t"
  else if char.toNat = 0 then "\\0"
  else if isInvisible char then "\\u\x7b" ++ lowerHex 1 char.toNat ++ "\x7d"
  else char.toString

/-- The text between quotes. -/
def quoted (text : String) : String :=
  "\"" ++ String.join (text.toList.map quoteChar) ++ "\""

end FontCompiler.Text
