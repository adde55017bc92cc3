import FontCompiler.Regex.Reader
import FontCompiler.Text.Hex
import FontCompiler.Text.Utf16

/-!
# Reading escapes

Behind a backslash stands a character that means itself, a letter for a control
character, a class or an anchor, the number of a character, or the name of a
property.
-/

namespace FontCompiler.Regex

/-- What a single escape or character can stand for. -/
inductive Primitive
  | literal (literal : Literal)
  | anchor (anchor : Anchor) (span : Span)
  | set (set : ClassPattern) (span : Span)

namespace Primitive

/-- The part of the text that is read. -/
def span : Primitive → Span
  | .literal written => written.span
  | .anchor _ place => place
  | .set _ place => place

/-- The pattern that is read. -/
def pattern : Primitive → Pattern
  | .literal written => .literal written
  | .anchor kind _ => .anchor kind
  | .set members _ => .set members

/-- The member of a class that is read. -/
def member : Primitive → Reader ClassPattern
  | .literal written => return .literal written
  | .anchor _ place => fail .classEscape place
  | .set members _ => return members

/-- The bound of a range that is read. -/
def bound : Primitive → Reader Literal
  | .literal written => return written
  | primitive => fail .classRangeBound primitive.span

end Primitive

/-- Reads a fixed number of hexadecimal digits; the digits read are given, the latest first. -/
def readHexDigits : (count : Nat) → (read : List Nat) → Reader (List Nat)
  | 0, read => return read.reverse
  | count + 1, read => do
    if !read.isEmpty then advanceSpaced
    let rest ← get
    match rest.chars with
    | [] => fail .escapeCut rest.point
    | char :: _ =>
      match Text.hexDigit? char with
      | some digit => readHexDigits count (digit :: read)
      | none => fail .hexDigit rest.charSpan

/-- Reads hexadecimal digits up to a brace or the end, from the opening brace on. -/
def readHexBraced : (fuel : Nat) → Reader (List Nat)
  | 0 => return []
  | fuel + 1 => do
    advanceSpaced
    let rest ← get
    match rest.chars with
    | [] => return []
    | '}' :: _ => return []
    | char :: _ =>
      match Text.hexDigit? char with
      | some digit => return digit :: (← readHexBraced fuel)
      | none => fail .hexDigit rest.charSpan

/-- The character of some hexadecimal digits. -/
def charOfDigits (digits : List Nat) (span : Span) : Reader Char :=
  let value := Text.ofDigits 16 digits
  if Text.isScalar value then return Char.ofNat value else fail .hexNoCharacter span

/-- Reads a character by its number, from the letter behind the backslash on; `count` is the
number of digits without braces. -/
def readHex (start : Place) (count : Nat) : Reader Literal := do
  advanceSpaced
  let rest ← get
  match rest.chars with
  | [] => fail .escapeCut rest.point
  | '{' :: _ =>
    let digits ← readHexBraced rest.chars.length
    let behind ← get
    if behind.chars.isEmpty then fail .escapeCut (behind.since rest.place)
    else
      advanceSpaced
      if digits.isEmpty then fail .hexEmpty ((← get).since rest.place)
      else
        let char ← charOfDigits digits (behind.since rest.charSpan.stop)
        return ⟨char, (← get).since start, false⟩
  | _ =>
    let digits ← readHexDigits count []
    advanceSpaced
    let char ← charOfDigits digits ((← get).since rest.place)
    return ⟨char, (← get).since start, count = 2⟩

/-- Reads characters up to a brace or the end, from the opening brace on. -/
def readBraced : (fuel : Nat) → Reader (List Char)
  | 0 => return []
  | fuel + 1 => do
    advanceSpaced
    match (← get).chars with
    | [] => return []
    | '}' :: _ => return []
    | char :: _ => return char :: (← readBraced fuel)

/-- The parts of a text in front of and behind the first place where another stands. -/
def splitFirst? (wanted : List Char) : List Char → Option (List Char × List Char)
  | [] => none
  | char :: chars =>
    if wanted.isPrefixOf (char :: chars) then some ([], (char :: chars).drop wanted.length)
    else (splitFirst? wanted chars).map fun (front, back) => (char :: front, back)

/-- The property that a text between braces names, and whether it is ruled out. -/
def propertyOfText (chars : List Char) : PropertyName × Bool :=
  let valued (parts : List Char × List Char) : PropertyName :=
    ⟨String.ofList parts.1, some (String.ofList parts.2)⟩
  match splitFirst? ['!', '='] chars with
  | some parts => (valued parts, true)
  | none =>
    match splitFirst? [':'] chars <|> splitFirst? ['='] chars with
    | some parts => (valued parts, false)
    | none => (⟨String.ofList chars, none⟩, false)

/-- Reads a class of Unicode, from the letter behind the backslash on. -/
def readProperty (start : Place) (negated : Bool) : Reader Primitive := do
  advanceSpaced
  let rest ← get
  match rest.chars with
  | [] => fail .escapeCut rest.point
  | '{' :: _ =>
    let text ← readBraced rest.chars.length
    let behind ← get
    if behind.chars.isEmpty then fail .escapeCut behind.point
    else
      advance
      let (name, ruledOut) := propertyOfText text
      let span := (← get).since start
      return .set (.property name (negated != ruledOut) span) span
  | '\\' :: _ => fail .propertySyntax rest.charSpan
  | char :: _ =>
    advanceSpaced
    let span := (← get).since start
    return .set (.property ⟨char.toString, none⟩ negated span) span

/-- Whether a character may stand in the name of an anchor in braces. -/
def isAnchorLetter (char : Char) : Bool :=
  char.isAlpha || char = '-'

/-- Reads the name in braces behind the anchor of a word, if it is one; braces that hold something
else are left for a repetition. -/
def readWordAnchor (start : Place) : Reader Anchor := do
  let rest ← get
  if rest.chars.head? ≠ some '{' then return .boundary
  else
    advanceSpaced
    let inner ← get
    match inner.chars with
    | [] => fail .wordAnchorCut (inner.since start)
    | char :: _ =>
      if !isAnchorLetter char then
        set rest
        return .boundary
      else
        let name ← readSpaced isAnchorLetter inner.chars.length
        let behind ← get
        if behind.chars.head? ≠ some '}' then
          fail .wordAnchorUnclosed (behind.since rest.place)
        else
          advance
          match String.ofList name with
          | "start" => return .wordStart
          | "end" => return .wordEnd
          | "start-half" => return .wordStartHalf
          | "end-half" => return .wordEndHalf
          | _ => fail .wordAnchorUnknown (behind.since inner.place)

/-- Whether a character stands for itself behind a backslash. -/
def isEscapable (char : Char) : Bool :=
  char.toNat < 0x80 && !char.isAlphanum && char ≠ '<' && char ≠ '>'

/-- The control character that a letter behind a backslash stands for. -/
def controlOf? : Char → Option Char
  | 'a' => some (Char.ofNat 7)
  | 'f' => some (Char.ofNat 12)
  | 'n' => some '\n'
  | 'r' => some '\r'
  | 't' => some '\t'
  | 'v' => some (Char.ofNat 11)
  | _ => none

/-- The anchor that a letter behind a backslash stands for. -/
def anchorOf? : Char → Option Anchor
  | 'A' => some .textStart
  | 'z' => some .textEnd
  | 'B' => some .notBoundary
  | '<' => some .wordStart
  | '>' => some .wordEnd
  | _ => none

/-- The class that a letter behind a backslash stands for, and whether it is negated. -/
def letterClassOf? : Char → Option (LetterClass × Bool)
  | 'd' => some (.digit, false)
  | 'D' => some (.digit, true)
  | 's' => some (.space, false)
  | 'S' => some (.space, true)
  | 'w' => some (.word, false)
  | 'W' => some (.word, true)
  | _ => none

/-- Reads an escape that is a single character behind the backslash. -/
def readShortEscape (start : Place) (char : Char) : Reader Primitive := do
  advance
  let span := (← get).since start
  match letterClassOf? char, controlOf? char, anchorOf? char with
  | some (kind, negated), _, _ => return .set (.letter kind negated span) span
  | none, some control, _ => return .literal ⟨control, span, false⟩
  | none, none, some anchor => return .anchor anchor span
  | none, none, none =>
    if isEscapable char then return .literal ⟨char, span, false⟩
    else if char = 'b' then
      let anchor ← readWordAnchor start
      return .anchor anchor ((← get).since start)
    else fail .escapeUnknown span

/-- Reads an escape, from its backslash on. -/
def readEscape : Reader Primitive := do
  let start ← here
  advance
  let rest ← get
  match rest.chars with
  | [] => fail .escapeCut (rest.since start)
  | 'x' :: _ => return .literal (← readHex start 2)
  | 'u' :: _ => return .literal (← readHex start 4)
  | 'U' :: _ => return .literal (← readHex start 8)
  | 'p' :: _ => readProperty start false
  | 'P' :: _ => readProperty start true
  | char :: _ =>
    if char.isDigit then fail .backreference ⟨start, rest.charSpan.stop⟩
    else readShortEscape start char

end FontCompiler.Regex
