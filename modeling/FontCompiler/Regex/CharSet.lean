import FontCompiler.Regex.Property
import FontCompiler.Text.Folding

/-!
# Sets of characters

The meaning of a class: a set that is built from ranges and properties by the
operations on sets, and by adding the variants in case.
-/

namespace FontCompiler.Regex

/-- A set of characters. -/
inductive CharSet
  | nothing
  | range (first last : Char)
  | property (property : Property)
  | complement (set : CharSet)
  | union (left right : CharSet)
  | intersection (left right : CharSet)
  /-- The characters that a set holds up to their case. -/
  | caseless (set : CharSet)
  /-- The characters that a set holds up to the case of ASCII letters. -/
  | asciiCaseless (set : CharSet)
  deriving DecidableEq, Repr

namespace CharSet

/-- Whether a set holds a character. -/
def contains : CharSet → Char → Bool
  | .nothing, _ => false
  | .range first last, char => first ≤ char && char ≤ last
  | .property kind, char => kind.holds char
  | .complement set, char => !set.contains char
  | .union left right, char => left.contains char || right.contains char
  | .intersection left right, char => left.contains char && right.contains char
  | .caseless set, char => (Text.caseVariants char).any set.contains
  | .asciiCaseless set, char => (Text.asciiCaseVariants char).any set.contains

/-- The set of a single character. -/
def single (char : Char) : CharSet :=
  .range char char

/-- The characters of one set that are not in another. -/
def difference (left right : CharSet) : CharSet :=
  .intersection left (.complement right)

/-- The characters that are in exactly one of two sets. -/
def symmetricDifference (left right : CharSet) : CharSet :=
  .union (difference left right) (difference right left)

/-- The set with the characters of some ranges. -/
def ofRanges (ranges : List (Char × Char)) : CharSet :=
  ranges.foldr (fun (first, last) set => .union (.range first last) set) .nothing

/-- A set or its complement. -/
def negatedIf (negated : Bool) (set : CharSet) : CharSet :=
  if negated then .complement set else set

end CharSet

end FontCompiler.Regex
