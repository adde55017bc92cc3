/-!
# Searching texts

Whether a text occurs in another, and the parts of a text between the places
where another occurs.
-/

namespace FontCompiler.Text

/-- Whether a text occurs in another. -/
def occurs (wanted : List Char) : List Char → Bool
  | [] => wanted.isEmpty
  | char :: chars => wanted.isPrefixOf (char :: chars) || occurs wanted chars

/-- The parts of a text between the places where a separator stands; the characters of the
current part are given, the latest first. -/
def splitFrom (separator : List Char) : (fuel : Nat) → (part : List Char) → List Char →
    List (List Char)
  | 0, part, _ => [part.reverse]
  | _, part, [] => [part.reverse]
  | fuel + 1, part, char :: chars =>
    if separator.isPrefixOf (char :: chars) then
      part.reverse :: splitFrom separator fuel [] ((char :: chars).drop separator.length)
    else splitFrom separator fuel (char :: part) chars

/-- The parts of a text between its separators; an empty separator stands between any two
characters, and an empty text has no parts. -/
def split (text separator : String) : List String :=
  if text = "" then []
  else if separator = "" then text.toList.map Char.toString
  else (splitFrom separator.toList (text.length + 1) [] text.toList).map String.ofList

end FontCompiler.Text
