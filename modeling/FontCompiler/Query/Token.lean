import FontCompiler.Text.Blank
import FontCompiler.Text.Hex
import FontCompiler.Text.Utf16

/-!
# Tokens of the query language

The text of a filter is cut into tokens.  A bracket with everything up to its
partner is a single token that holds the tokens inside, and so is an insertion
in a text.  Of several operators that the text could start with, the longest is
taken, and a minus sign behind it is a token of its own.  A comment reaches from
a number sign to the end of its line, or further if the line ends with an odd
number of backslashes.
-/

namespace FontCompiler.Query

/-- The kinds of brackets. -/
inductive Bracket
  | round
  | square
  | curly
  deriving DecidableEq, Repr

namespace Bracket

/-- The bracket that a character opens. -/
def opened? : Char → Option Bracket
  | '(' => some .round
  | '[' => some .square
  | '{' => some .curly
  | _ => none

/-- The character that closes a bracket. -/
def closing : Bracket → Char
  | .round => ')'
  | .square => ']'
  | .curly => '}'

end Bracket

mutual

/-- A token of a filter. -/
inductive Token
  | word (name : String)
  | variable (name : String)
  | numeral (text : String)
  /-- An operator, a separator, or a dot with the name behind it. -/
  | symbol (text : String)
  | text (pieces : List TextToken)
  | block (bracket : Bracket) (tokens : List Token)

/-- A piece of a text in quotes. -/
inductive TextToken
  | chars (text : String)
  | insertion (tokens : List Token)

end

instance : Inhabited Token := ⟨.symbol ""⟩

namespace Token

/-- Whether a character may start a name. -/
def startsName (char : Char) : Bool :=
  char.isAlpha || char = '_'

/-- Whether a character may stand inside a name. -/
def continuesName (char : Char) : Bool :=
  char.isAlphanum || char = '_'

/-- The longest operator at the start of some characters, and what follows it. -/
def readOperator? : List Char → Option (String × List Char)
  | '/' :: '/' :: '=' :: rest => some ("//=", rest)
  | '/' :: '/' :: rest => some ("//", rest)
  | '!' :: '=' :: rest => some ("!=", rest)
  | char :: '=' :: rest =>
    if "|=<>+-*/%".toList.contains char then some (String.ofList [char, '='], rest) else none
  | char :: rest =>
    if "|=<>+-*/%".toList.contains char then some (char.toString, rest) else none
  | [] => none

/-- Skips a comment, from behind its number sign on; `odd` tells whether an odd number of
backslashes stands directly in front. -/
def skipComment : (odd : Bool) → List Char → List Char
  | _, [] => []
  | odd, '\n' :: chars => if odd then skipComment false chars else chars
  | odd, '\r' :: '\n' :: chars => if odd then skipComment false chars else chars
  | odd, char :: chars => skipComment (char = '\\' && !odd) chars

/-- Skips blanks and comments. -/
def skipSpace : (fuel : Nat) → List Char → List Char
  | 0, chars => chars
  | fuel + 1, chars =>
    match Text.trimStart chars with
    | '#' :: rest => skipSpace fuel (skipComment false rest)
    | rest => rest

/-- Reads the exponent of a numeral, from behind its letter on: its text and what follows. -/
def readExponent? (chars : List Char) : Option (List Char × List Char) :=
  let (sign, chars) :=
    match chars with
    | '+' :: chars => (['+'], chars)
    | '-' :: chars => (['-'], chars)
    | chars => ([], chars)
  match chars.span Char.isDigit with
  | ([], _) => none
  | (digits, rest) => some (sign ++ digits, rest)

/-- Reads a numeral: its text and what follows. -/
def readNumeral? (chars : List Char) : Option (List Char × List Char) := do
  let (whole, rest) := chars.span Char.isDigit
  let (fraction, rest) ←
    match rest with
    | '.' :: rest =>
      match rest.span Char.isDigit with
      | ([], _) => none
      | (digits, rest) => some ('.' :: digits, rest)
    | rest => some ([], rest)
  match rest with
  | 'e' :: rest =>
    let (exponent, rest) ← readExponent? rest
    return (whole ++ fraction ++ 'e' :: exponent, rest)
  | 'E' :: rest =>
    let (exponent, rest) ← readExponent? rest
    return (whole ++ fraction ++ 'E' :: exponent, rest)
  | rest => return (whole ++ fraction, rest)

/-- Reads the code point of an escape. -/
def readCodepoint? (chars : List Char) : Option (Char × List Char) := do
  let digits := chars.take 4
  if digits.length < 4 then none
  else
    let value ← Text.hexValue? digits
    if Text.isScalar value then some (Char.ofNat value, chars.drop 4) else none

/-- The character that a letter behind a backslash stands for. -/
def escaped? : Char → Option Char
  | '\"' => some '\"'
  | '\\' => some '\\'
  | '/' => some '/'
  | 'b' => some (Char.ofNat 8)
  | 'f' => some (Char.ofNat 12)
  | 'n' => some '\n'
  | 'r' => some '\r'
  | 't' => some '\t'
  | _ => none

mutual

/-- Reads tokens up to the first character that starts none. -/
def readAll : (fuel : Nat) → List Char → Option (List Token × List Char)
  | 0, _ => none
  | fuel + 1, chars =>
    let chars := skipSpace (chars.length + 1) chars
    let proceed (token : Token) (rest : List Char) : Option (List Token × List Char) := do
      let (tokens, rest) ← readAll fuel rest
      return (token :: tokens, rest)
    match chars with
    | [] => some ([], [])
    | '.' :: '.' :: rest => proceed (.symbol "..") rest
    | '.' :: char :: rest =>
      if startsName char then
        let (name, rest) := (char :: rest).span continuesName
        proceed (.symbol (String.ofList ('.' :: name))) rest
      else proceed (.symbol ".") (char :: rest)
    | ['.'] => proceed (.symbol ".") []
    | '$' :: char :: rest =>
      if startsName char then
        let (name, rest) := (char :: rest).span continuesName
        proceed (.variable (String.ofList name)) rest
      else none
    | '\"' :: rest =>
      match readText fuel [] rest with
      | some (pieces, rest) => proceed (.text pieces) rest
      | none => none
    | char :: rest =>
      if startsName char then
        let (name, rest) := (char :: rest).span continuesName
        proceed (.word (String.ofList name)) rest
      else if char.isDigit then
        match readNumeral? (char :: rest) with
        | some (digits, rest) => proceed (.numeral (String.ofList digits)) rest
        | none => none
      else if ":;,?".toList.contains char then proceed (.symbol char.toString) rest
      else
        match readOperator? (char :: rest), Bracket.opened? char with
        | some (sign, rest), _ => proceed (.symbol sign) rest
        | none, none => some ([], char :: rest)
        | none, some bracket =>
          match readAll fuel rest with
          | some (tokens, close :: rest) =>
            if close = bracket.closing then proceed (.block bracket tokens) rest else none
          | _ => none

/-- Reads a text up to its closing quote; the characters of the current piece are given, the
latest first. -/
def readText : (fuel : Nat) → (read : List Char) → List Char →
    Option (List TextToken × List Char)
  | 0, _, _ => none
  | fuel + 1, read, chars =>
    let piece : List TextToken := if read.isEmpty then [] else [.chars (String.ofList read.reverse)]
    match chars with
    | [] => none
    | '\"' :: rest => some (piece, rest)
    | '\\' :: '(' :: rest =>
      match readAll fuel rest with
      | some (tokens, ')' :: rest) => do
        let (pieces, rest) ← readText fuel [] rest
        return (piece ++ .insertion tokens :: pieces, rest)
      | _ => none
    | '\\' :: 'u' :: rest =>
      match readCodepoint? rest with
      | some (char, rest) => readText fuel (char :: read) rest
      | none => none
    | '\\' :: char :: rest =>
      match escaped? char with
      | some char => readText fuel (char :: read) rest
      | none => none
    | char :: rest => readText fuel (char :: read) rest

end

/-- The tokens of a whole text. -/
def ofText? (text : String) : Option (List Token) :=
  match readAll (text.length + 2) text.toList with
  | some (tokens, []) => some tokens
  | _ => none

end Token

end FontCompiler.Query
