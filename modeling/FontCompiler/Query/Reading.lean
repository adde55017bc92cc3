import FontCompiler.Ordered
import FontCompiler.Query.Value
import FontCompiler.Text.Utf16

/-!
# Reading query values

A filter can read a text as a value.  The text holds one value between blanks;
numbers keep their text, and of several entries with one key the last one
counts, in the place of the first.
-/

namespace FontCompiler.Query

/-- Why a text is no value. -/
inductive TextFault
  | value
  | valueOrEnd
  | commaOrEnd
  | string
  | colon
  | textEnd
  | digit
  | control
  | unclosed
  | unfinishedEscape
  | unknownEscape
  | notHexadecimal
  | notCharacter (codepoint : Nat)
  | lowSurrogate
  deriving DecidableEq, Repr

/-- The wording of a fault. -/
def TextFault.message : TextFault → String
  | .value => "value expected"
  | .valueOrEnd => "value or end of sequence expected"
  | .commaOrEnd => "comma or end of sequence expected"
  | .string => "string expected"
  | .colon => "colon expected"
  | .textEnd => "end of file expected"
  | .digit => "expected digit"
  | .control => "invalid control character"
  | .unclosed => "unclosed string"
  | .unfinishedEscape => "unterminated escape sequence"
  | .unknownEscape => "unknown escape sequence type"
  | .notHexadecimal => "invalid hexadecimal sequence"
  | .notCharacter codepoint =>
    "invalid character with index " ++ Numeric.decimalDigits codepoint
  | .lowSurrogate => "expected low surrogate"

namespace Value

/-- Skips blanks. -/
def skipBlanks (chars : List Char) : List Char :=
  chars.dropWhile fun char => char = ' ' || char = '\t' || char = '\n' || char = '\r'

/-- Reads digits, of which there has to be one. -/
def readDigits (chars : List Char) : Except TextFault (List Char × List Char) :=
  match chars.span Char.isDigit with
  | ([], _) => .error .digit
  | result => .ok result

/-- Reads the digits in front of the point; nothing follows a zero. -/
def readWhole : List Char → Except TextFault (List Char × List Char)
  | '0' :: rest => .ok (['0'], rest)
  | chars => readDigits chars

/-- Reads the point and the digits behind it, if there is a point. -/
def readFraction : List Char → Except TextFault (List Char × List Char)
  | '.' :: rest => do
    let (digits, rest) ← readDigits rest
    return ('.' :: digits, rest)
  | chars => .ok ([], chars)

/-- Reads an exponent, from behind its letter on. -/
def readSigned : List Char → Except TextFault (List Char × List Char)
  | '+' :: rest => do
    let (digits, rest) ← readDigits rest
    return ('+' :: digits, rest)
  | '-' :: rest => do
    let (digits, rest) ← readDigits rest
    return ('-' :: digits, rest)
  | chars => readDigits chars

/-- Reads an exponent, if there is one. -/
def readExponent : List Char → Except TextFault (List Char × List Char)
  | 'e' :: rest => do
    let (exponent, rest) ← readSigned rest
    return ('e' :: exponent, rest)
  | 'E' :: rest => do
    let (exponent, rest) ← readSigned rest
    return ('E' :: exponent, rest)
  | chars => .ok ([], chars)

/-- Reads a number. -/
def readNumber (chars : List Char) : Except TextFault (Value × List Char) := do
  let (sign, chars) : List Char × List Char :=
    match chars with
    | '-' :: rest => (['-'], rest)
    | chars => ([], chars)
  let (whole, rest) ← readWhole chars
  let (fraction, rest) ← readFraction rest
  let (exponent, rest) ← readExponent rest
  return (.ofNumeral (String.ofList (sign ++ whole ++ fraction ++ exponent)), rest)

/-- Reads the four digits of an escaped UTF-16 unit. -/
def readUnit (chars : List Char) : Except TextFault (Nat × List Char) :=
  let digits := chars.take 4
  if digits.length < 4 then .error .unfinishedEscape
  else
    match Text.hexValue? digits with
    | some value => .ok (value, chars.drop 4)
    | none => .error .notHexadecimal

/-- Reads an escaped character by its UTF-16 units, from behind the letter on. -/
def readCodepoint (chars : List Char) : Except TextFault (Char × List Char) := do
  let (unit, rest) ← readUnit chars
  if 0xD800 ≤ unit ∧ unit < 0xDC00 then
    match rest with
    | '\\' :: 'u' :: rest =>
      let (low, rest) ← readUnit rest
      if 0xDC00 ≤ low ∧ low < 0xE000 then
        return (Char.ofNat (0x10000 + (unit - 0xD800) * 0x400 + (low - 0xDC00)), rest)
      else throw .lowSurrogate
    | _ => throw .lowSurrogate
  else if Text.isScalar unit then return (Char.ofNat unit, rest)
  else throw (.notCharacter unit)

/-- Reads an escape, from behind the backslash on. -/
def readEscape : List Char → Except TextFault (Char × List Char)
  | [] => .error .unfinishedEscape
  | '\"' :: rest => .ok ('\"', rest)
  | '\\' :: rest => .ok ('\\', rest)
  | '/' :: rest => .ok ('/', rest)
  | 'b' :: rest => .ok (Char.ofNat 8, rest)
  | 'f' :: rest => .ok (Char.ofNat 12, rest)
  | 'n' :: rest => .ok ('\n', rest)
  | 'r' :: rest => .ok ('\r', rest)
  | 't' :: rest => .ok ('\t', rest)
  | 'u' :: rest => readCodepoint rest
  | _ :: _ => .error .unknownEscape

/-- Reads a string, from behind its first quote on; what is read is given, the latest first. -/
def readString : (fuel : Nat) → (read : List Char) → List Char →
    Except TextFault (String × List Char)
  | 0, _, _ => .error .unclosed
  | _, _, [] => .error .unclosed
  | _, read, '\"' :: rest => .ok (String.ofList read.reverse, rest)
  | fuel + 1, read, '\\' :: rest => do
    let (char, rest) ← readEscape rest
    readString fuel (char :: read) rest
  | fuel + 1, read, char :: rest =>
    if char.toNat < 0x20 then .error .control else readString fuel (char :: read) rest

mutual

/-- Reads a value. -/
def readValue : (fuel : Nat) → List Char → Except TextFault (Value × List Char)
  | 0, _ => .error .value
  | _, 'n' :: 'u' :: 'l' :: 'l' :: rest => .ok (.null, rest)
  | _, 't' :: 'r' :: 'u' :: 'e' :: rest => .ok (.bool true, rest)
  | _, 'f' :: 'a' :: 'l' :: 's' :: 'e' :: rest => .ok (.bool false, rest)
  | fuel + 1, '\"' :: rest => do
    let (text, rest) ← readString fuel [] rest
    return (.string text, rest)
  | fuel + 1, '[' :: rest =>
    match skipBlanks rest with
    | [] => .error .valueOrEnd
    | ']' :: rest => .ok (.array [], rest)
    | chars => do
      let (items, rest) ← readItems fuel chars
      return (.array items, rest)
  | fuel + 1, '\x7b' :: rest =>
    match skipBlanks rest with
    | [] => .error .valueOrEnd
    | '\x7d' :: rest => .ok (.object [], rest)
    | chars => do
      let (entries, rest) ← readEntries fuel [] chars
      return (.object entries, rest)
  | _, char :: rest =>
    if char = '-' || char.isDigit then readNumber (char :: rest) else .error .value
  | _, [] => .error .value

/-- Reads the items of an array. -/
def readItems : (fuel : Nat) → List Char → Except TextFault (List Value × List Char)
  | 0, _ => .error .value
  | fuel + 1, chars => do
    let (item, rest) ← readValue fuel chars
    match skipBlanks rest with
    | ']' :: rest => return ([item], rest)
    | ',' :: rest =>
      let (items, rest) ← readItems fuel (skipBlanks rest)
      return (item :: items, rest)
    | _ => throw .commaOrEnd

/-- Reads the entries of an object behind those that are given. -/
def readEntries : (fuel : Nat) → List (String × Value) → List Char →
    Except TextFault (List (String × Value) × List Char)
  | fuel + 1, entries, '\"' :: rest => do
    let (key, rest) ← readString fuel [] rest
    match skipBlanks rest with
    | ':' :: rest =>
      let (value, rest) ← readValue fuel (skipBlanks rest)
      let entries := Ordered.insert key value entries
      match skipBlanks rest with
      | '\x7d' :: rest => return (entries, rest)
      | ',' :: rest =>
        match skipBlanks rest with
        | [] => throw .value
        | chars => readEntries fuel entries chars
      | _ => throw .commaOrEnd
    | _ => throw .colon
  | _, _, _ => .error .string

end

/-- The value that a text holds. -/
def ofText (text : String) : Except TextFault Value := do
  let (value, rest) ← readValue (text.length + 1) (skipBlanks text.toList)
  if (skipBlanks rest).isEmpty then return value else throw .textEnd

end Value

end FontCompiler.Query
