import FontCompiler.Json.Value
import FontCompiler.Text.Utf16

/-!
# Code points in manifests

A code point is written as an integer or as a text.  A text is either `U+` or
`0x` in front of one to six hexadecimal digits, or a decimal number that may
carry a plus sign.  Only Unicode scalar values are code points of a manifest.
-/

namespace FontCompiler.Manifest

open Json

/-- Why a value denotes no code point. -/
inductive CodepointFault
  | unreadable (text : String)
  | notScalar (number : Nat)
  | wrongForm
  deriving DecidableEq, Repr

/-- The wording of a fault. -/
def CodepointFault.message : CodepointFault → String
  | .unreadable text => "invalid codepoint `" ++ text ++ "`, expected U+XXXX"
  | .notScalar number => "U+" ++ Text.upperHex 4 number ++ " is not a Unicode scalar value"
  | .wrongForm => "data did not match any variant of untagged enum CodepointRepr"

namespace Codepoint

/-- The numbers from which on nothing is a number of thirty-two bits. -/
def wordLimit : Nat := UInt32.size

/-- The value of one to six hexadecimal digits. -/
def hexadecimal? (digits : List Char) : Option Nat :=
  if 1 ≤ digits.length ∧ digits.length ≤ 6 then Text.hexValue? digits else none

/-- The value of decimal digits that fits into thirty-two bits. -/
def decimal? (digits : List Char) : Option Nat :=
  if digits.isEmpty then none
  else
    match Text.decimalValue? digits with
    | some value => if value < wordLimit then some value else none
    | none => none

/-- The number that a text denotes. -/
def ofText? (text : String) : Option Nat :=
  match text.toList with
  | 'U' :: '+' :: digits => hexadecimal? digits
  | '0' :: 'x' :: digits => hexadecimal? digits
  | '+' :: digits => decimal? digits
  | digits => decimal? digits

/-- A number, if it is a Unicode scalar value. -/
def ofNumber (number : Nat) : Except CodepointFault Nat :=
  if Text.isScalar number then .ok number else .error (.notScalar number)

/-- The code point that a value denotes. -/
def ofValue : Value → Except CodepointFault Nat
  | .number (.int number) =>
    if 0 ≤ number ∧ number < wordLimit then ofNumber number.toNat else .error .wrongForm
  | .string text =>
    match ofText? text with
    | some number => ofNumber number
    | none => .error (.unreadable text)
  | _ => .error .wrongForm

end Codepoint

end FontCompiler.Manifest
