import FontCompiler.Regex.Fault
import FontCompiler.Text.Blank

/-!
# Readers

A text is read from left to right, and the first thing that cannot be part of a
pattern is the fault that is reported.  Where the verbose mode is on, blanks and
comments are skipped between the characters of most constructs.
-/

namespace FontCompiler.Regex

/-- What is left of a text, and what has been learnt from the text in front. -/
structure Remainder where
  chars : List Char
  place : Place
  /-- Whether blanks and comments are skipped. -/
  verbose : Bool
  /-- The names of the groups so far. -/
  names : List (String × Span)

/-- Skips blanks and, if they are allowed, comments; `inside` tells whether a comment has begun. -/
def skipBlanks (comments : Bool) : (inside : Bool) → List Char → Place → List Char × Place
  | _, [], place => ([], place)
  | inside, char :: chars, place =>
    if inside || Text.isBlank char then
      skipBlanks comments (inside && char ≠ '\n') chars (place.after char)
    else if comments && char = '#' then skipBlanks comments true chars (place.after char)
    else (char :: chars, place)

/-- The character that follows blanks and the sign of a comment; without one, the character at
hand. -/
def beyondBlanks? (chars : List Char) : Option Char :=
  let rest :=
    match chars.dropWhile Text.isBlank with
    | '#' :: rest => rest.dropWhile Text.isBlank
    | rest => rest
  rest.head? <|> chars.head?

namespace Remainder

/-- What is left behind the next character. -/
def next (rest : Remainder) : Remainder :=
  match rest.chars with
  | [] => rest
  | char :: chars => { rest with chars, place := rest.place.after char }

/-- What is left behind some characters. -/
def skip : Nat → Remainder → Remainder
  | 0, rest => rest
  | count + 1, rest => skip count rest.next

/-- What is left behind blanks. -/
def afterBlanks (rest : Remainder) (comments : Bool) : Remainder :=
  let (chars, place) := skipBlanks comments false rest.chars rest.place
  { rest with chars, place }

/-- What is left behind all that the verbose mode skips. -/
def afterSpace (rest : Remainder) : Remainder :=
  if rest.verbose then rest.afterBlanks true else rest

/-- The empty span in front of the next character. -/
def point (rest : Remainder) : Span :=
  ⟨rest.place, rest.place⟩

/-- The span of the next character. -/
def charSpan (rest : Remainder) : Span :=
  ⟨rest.place, rest.next.place⟩

/-- The span from a place up to the next character. -/
def since (rest : Remainder) (start : Place) : Span :=
  ⟨start, rest.place⟩

/-- The character behind the next one, or behind what the verbose mode skips. -/
def second? (rest : Remainder) : Option Char :=
  if rest.verbose then beyondBlanks? rest.chars.tail else rest.chars.tail.head?

end Remainder

/-- A computation that reads from a text. -/
abbrev Reader := StateT Remainder (Except Fault)

/-- Ends the reading with a fault. -/
def fail {α : Type} (kind : FaultKind) (span : Span) : Reader α :=
  throw ⟨kind, span, none⟩

/-- Skips the next character. -/
def advance : Reader Unit :=
  modify Remainder.next

/-- Skips what the verbose mode skips. -/
def skipSpace : Reader Unit :=
  modify Remainder.afterSpace

/-- Skips the next character and what the verbose mode skips behind it. -/
def advanceSpaced : Reader Unit :=
  modify fun rest => rest.next.afterSpace

/-- Skips blanks in every mode. -/
def skipWhite : Reader Unit :=
  modify (·.afterBlanks false)

/-- The next character. -/
def current? : Reader (Option Char) :=
  return (← get).chars.head?

/-- The place in front of the next character. -/
def here : Reader Place :=
  return (← get).place

/-- Skips given characters if the text goes on with them. -/
def accept (wanted : List Char) : Reader Bool := do
  let rest ← get
  if wanted.isPrefixOf rest.chars then
    set (rest.skip wanted.length)
    return true
  else return false

/-- Skips the first of some texts that the text goes on with. -/
def acceptOne : List (List Char) → Reader Bool
  | [] => return false
  | wanted :: others => do
    if ← accept wanted then return true else acceptOne others

/-- Reads characters with spaces between them as long as a test holds. -/
def readSpaced (test : Char → Bool) : (fuel : Nat) → Reader (List Char)
  | 0 => return []
  | fuel + 1 => do
    match (← get).chars with
    | [] => return []
    | char :: _ =>
      if test char then
        advanceSpaced
        return char :: (← readSpaced test fuel)
      else return []

end FontCompiler.Regex
