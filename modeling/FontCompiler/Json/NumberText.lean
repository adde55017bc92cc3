import FontCompiler.Json.Syntax
import FontCompiler.Json.Value

/-!
# Reading JSON numbers

Digits are gathered into a significand of at most sixty-four bits; those that
do not fit only count towards the exponent.  Without a fraction, an exponent or
an overflow the number is an integer, minus zero excepted.  Otherwise the
significand is rounded to a double first and then scaled by a rounded power of
ten, so that the result can be one step away from the nearest double.
-/

namespace FontCompiler.Json.NumberText

open Numeric

/-- The largest significand. -/
def significandLimit : Nat := UInt64.size - 1

/-- The largest exponent that is read digit by digit. -/
def exponentLimit : Nat := 0x7FFFFFFF

/-- The leading digits of a text and what follows them. -/
def spanDigits : List Char → List Nat × List Char
  | [] => ([], [])
  | char :: chars =>
    match Text.decimalDigit? char with
    | some digit =>
      let (digits, rest) := spanDigits chars
      (digit :: digits, rest)
    | none => ([], char :: chars)

/-- Appends digits to a significand while they fit; also counts those left over. -/
def absorb (limit significand : Nat) : List Nat → Nat × Nat
  | [] => (significand, 0)
  | digit :: digits =>
    let next := significand * 10 + digit
    if limit < next then (significand, digits.length + 1) else absorb limit next digits

/-- The double nearest to a power of ten, for exponents up to 308. -/
def powerOfTen (exponent : Nat) : FloatValue :=
  FloatFormat.binary64.ofRatio false (Nat.pow 10 exponent) 1

/-- Scales a double by a power of ten, in steps of at most 308. -/
def scale : (fuel : Nat) → FloatValue → Int → Except SyntaxFault FloatValue
  | 0, value, _ => .ok value
  | fuel + 1, value, exponent =>
    if exponent.natAbs ≤ 308 then
      if 0 ≤ exponent then
        let scaled := FloatValue.mul .binary64 value (powerOfTen exponent.natAbs)
        if scaled.isFinite then .ok scaled else .error .numberOutOfRange
      else .ok (FloatValue.div .binary64 value (powerOfTen exponent.natAbs))
    else if value = .finite false 0 then .ok value
    else if 0 ≤ exponent then .error .numberOutOfRange
    else scale fuel (FloatValue.div .binary64 value (powerOfTen 308)) (exponent + 308)

/-- The double of a significand and an exponent. -/
def ofParts (negative : Bool) (significand : Nat) (exponent : Int) :
    Except SyntaxFault Number := do
  let magnitude := FloatFormat.binary64.ofRatio false significand 1
  let scaled ← scale (exponent.natAbs / 308 + 1) magnitude exponent
  return .float (.ofValue (if negative then scaled.neg else scaled))

/-- What is read of a number: its value and the text behind it. -/
abbrev Reading := Except SyntaxFault (Number × List Char)

/-- Whether an exponent points downwards, and what stands behind its sign. -/
def exponentSign : List Char → Bool × List Char
  | '+' :: chars => (false, chars)
  | '-' :: chars => (true, chars)
  | chars => (false, chars)

/-- Reads the digits of an exponent. -/
def readExponentDigits (negative : Bool) (significand : Nat) (start : Int) (downwards : Bool)
    (chars : List Char) : Reading :=
  match spanDigits chars with
  | ([], []) => .error .unfinishedValue
  | ([], _ :: _) => .error .invalidNumber
  | (digits, rest) =>
    match absorb exponentLimit 0 digits with
    | (exponent, 0) => do
      let number ← ofParts negative significand
        (if downwards then start - exponent else start + exponent)
      return (number, rest)
    | (_, _ + 1) =>
      if significand ≠ 0 ∧ !downwards then .error .numberOutOfRange
      else .ok (.float (.ofValue (.finite negative 0)), rest)

/-- Reads an exponent, from behind its letter on. -/
def readExponent (negative : Bool) (significand : Nat) (start : Int) (chars : List Char) :
    Reading :=
  let (downwards, chars) := exponentSign chars
  readExponentDigits negative significand start downwards chars

/-- Reads what may follow the digits of a number that is a double already. -/
def readScaled (negative : Bool) (significand : Nat) (exponent : Int) : List Char → Reading
  | 'e' :: chars => readExponent negative significand exponent chars
  | 'E' :: chars => readExponent negative significand exponent chars
  | chars => do return (← ofParts negative significand exponent, chars)

/-- Reads a fraction, from behind the point on. -/
def readFraction (negative : Bool) (significand : Nat) (start : Int) (chars : List Char) :
    Reading :=
  match spanDigits chars with
  | ([], []) => .error .unfinishedValue
  | ([], _ :: _) => .error .invalidNumber
  | (digits, rest) =>
    let (significand, ignored) := absorb significandLimit significand digits
    readScaled negative significand (start - (digits.length - ignored : Nat)) rest

/-- An integer; minus zero and integers below the signed range are doubles. -/
def ofInteger (negative : Bool) (significand : Nat) : Number :=
  if negative then
    if significand = 0 ∨ 0x8000000000000000 < significand then
      .float (.ofValue (FloatFormat.binary64.ofRatio true significand 1))
    else .int (-(significand : Int))
  else .int significand

/-- Reads what may follow the digits in front of the point. -/
def readTail (negative : Bool) (digits : List Nat) (chars : List Char) : Reading :=
  let (significand, ignored) := absorb significandLimit 0 digits
  match chars with
  | '.' :: chars => readFraction negative significand ignored chars
  | 'e' :: chars => readExponent negative significand ignored chars
  | 'E' :: chars => readExponent negative significand ignored chars
  | chars =>
    if ignored = 0 then .ok (ofInteger negative significand, chars)
    else do return (← ofParts negative significand ignored, chars)

/-- Reads a number, from behind its sign on. -/
def readUnsigned (negative : Bool) (chars : List Char) : Reading :=
  match spanDigits chars with
  | ([], []) => .error .unfinishedValue
  | ([], _ :: _) => .error .invalidNumber
  | (0 :: _ :: _, _) => .error .invalidNumber
  | (digits, rest) => readTail negative digits rest

/-- Reads a number. -/
def read : List Char → Reading
  | '-' :: chars => readUnsigned true chars
  | chars => readUnsigned false chars

end FontCompiler.Json.NumberText
