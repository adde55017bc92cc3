/-!
# Patterns

A regular expression as it is written.  Letters for modes are still in their
places, and the parts that may turn out to have no meaning know where they stand
in the text.
-/

namespace FontCompiler.Regex

/-- A place in a text: a line and a column, both counted from one. -/
structure Place where
  line : Nat
  column : Nat
  deriving DecidableEq, Repr

namespace Place

/-- The first place of a text. -/
def origin : Place :=
  ⟨1, 1⟩

/-- The place behind a character that stands at a place. -/
def after (place : Place) (char : Char) : Place :=
  if char = '\n' then ⟨place.line + 1, 1⟩ else ⟨place.line, place.column + 1⟩

/-- Whether a place is in front of another or the same. -/
def reaches (left right : Place) : Bool :=
  left.line < right.line || (left.line = right.line && left.column ≤ right.column)

end Place

/-- The part of a text from one place up to another. -/
structure Span where
  start : Place
  stop : Place
  deriving DecidableEq, Repr

/-- The modes that a pattern can switch. -/
inductive Mode
  /-- Letters match in either case. -/
  | caseless
  /-- The anchors match at the ends of lines. -/
  | multiline
  /-- The dot matches the ends of lines. -/
  | dotAll
  /-- Repetitions prefer to be short; this has no bearing on whether a text matches. -/
  | swapGreed
  /-- Classes and cases are those of Unicode and not of ASCII. -/
  | unicode
  /-- A line may end with a carriage return. -/
  | carriageReturn
  /-- Blanks and comments in the pattern are skipped. -/
  | verbose
  deriving DecidableEq, Repr

/-- What switches modes: those to switch on, and those to switch off. -/
structure Switches where
  on : List Mode
  off : List Mode
  deriving DecidableEq, Repr

namespace Switches

/-- No switch at all. -/
def nothing : Switches :=
  ⟨[], []⟩

/-- A mode after the switches have been used. -/
def apply (switches : Switches) (mode : Mode) (current : Bool) : Bool :=
  if switches.on.contains mode then true
  else if switches.off.contains mode then false
  else current

end Switches

/-- A character that stands for itself or is named by an escape. -/
structure Literal where
  char : Char
  span : Span
  /-- Whether the character is given as a byte with two hexadecimal digits. -/
  isByte : Bool
  deriving DecidableEq, Repr

/-- The classes that are a single letter behind a backslash. -/
inductive LetterClass
  | digit
  | space
  | word
  deriving DecidableEq, Repr

/-- The classes of ASCII characters that are a name between colons. -/
inductive NamedClass
  | alnum
  | alpha
  | ascii
  | blank
  | cntrl
  | digit
  | graph
  | lower
  | print
  | punct
  | space
  | upper
  | word
  | xdigit
  deriving DecidableEq, Repr

/-- The name of a Unicode property, with a value unless the name alone says it all. -/
structure PropertyName where
  name : String
  value : Option String
  deriving DecidableEq, Repr

/-- How two classes are combined. -/
inductive Combination
  | intersection
  | difference
  | symmetricDifference
  deriving DecidableEq, Repr

/-- A class of characters. -/
inductive ClassPattern
  | nothing
  | literal (literal : Literal)
  | range (first last : Literal)
  | letter (kind : LetterClass) (negated : Bool) (span : Span)
  | named (kind : NamedClass) (negated : Bool) (span : Span)
  | property (name : PropertyName) (negated : Bool) (span : Span)
  | bracketed (inner : ClassPattern) (negated : Bool) (span : Span)
  | union (left right : ClassPattern)
  | combined (how : Combination) (left right : ClassPattern)
  deriving DecidableEq, Repr

/-- What is demanded of a place without reading a character. -/
inductive Anchor
  | caret
  | dollar
  | textStart
  | textEnd
  | boundary
  | notBoundary
  | wordStart
  | wordEnd
  /-- No part of a word stands in front. -/
  | wordStartHalf
  /-- No part of a word follows. -/
  | wordEndHalf
  deriving DecidableEq, Repr

/-- A regular expression. -/
inductive Pattern
  | empty
  /-- Switches modes up to the end of the group around it. -/
  | directive (switches : Switches)
  | literal (literal : Literal)
  | dot (span : Span)
  | anchor (anchor : Anchor)
  | set (set : ClassPattern)
  | group (switches : Switches) (body : Pattern)
  | repetition (least : Nat) (most : Option Nat) (body : Pattern)
  | sequence (first second : Pattern)
  | choice (first second : Pattern)
  deriving DecidableEq, Repr

namespace Pattern

/-- Patterns one behind the other; the latest comes first in the list. -/
def ofLatest : List Pattern → Pattern
  | [] => .empty
  | [single] => single
  | last :: others => .sequence (ofLatest others) last

/-- Patterns of which one has to match; the latest comes first in the list. -/
def ofChoices (last : Pattern) : List Pattern → Pattern
  | [] => last
  | next :: others => .choice (ofChoices next others) last

/-- Whether a pattern can be repeated. -/
def isRepeatable : Pattern → Bool
  | .empty => false
  | .directive _ => false
  | _ => true

end Pattern

end FontCompiler.Regex
