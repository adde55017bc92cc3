import FontCompiler.Numeric.Decimal
import FontCompiler.Ordered
import FontCompiler.Text.Hex

/-!
# JSON values

Objects keep their keys in the order of the document.  A number is an integer
where it is written as one and fits into sixty-four bits, signed or unsigned,
and a double otherwise.

Values are written as compact text: no blanks, the shortest form of doubles,
and escapes only where JSON demands them.
-/

namespace FontCompiler.Json

open Numeric

/-- A JSON number. -/
inductive Number
  | int (value : Int)
  | float (value : Binary64)
  deriving DecidableEq, Repr

/-- A JSON document. -/
inductive Value
  | null
  | bool (value : Bool)
  | number (value : Number)
  | string (text : String)
  | array (items : List Value)
  | object (entries : List (String × Value))
  deriving Repr, Inhabited

/-- Doubles are positional from `1e-5` up to below `1e16`, and exponents carry a sign. -/
def floatStyle : DecimalStyle :=
  ⟨16, -5, "+"⟩

/-- The text of a double; one that is not finite has no JSON text and reads as null. -/
def floatText (number : Binary64) : String :=
  match number.value with
  | .finite negative units => floatStyle.finite .binary64 negative units
  | _ => "null"

/-- The text of a number. -/
def Number.text : Number → String
  | .int value => decimalInt value
  | .float value => floatText value

/-- One character as it stands inside a JSON string. -/
def escapeChar (char : Char) : List Char :=
  if char = '\"' then ['\\', '\"']
  else if char = '\\' then ['\\', '\\']
  else if char = '\n' then ['\\', 'n']
  else if char = '\r' then ['\\', 'r']
  else if char = '\t' then ['\\', 't']
  else if char.toNat = 8 then ['\\', 'b']
  else if char.toNat = 12 then ['\\', 'f']
  else if char.toNat < 0x20 then '\\' :: 'u' :: Text.padZeros 4 (Nat.toDigits 16 char.toNat)
  else [char]

/-- A text as a JSON string. -/
def stringChars (text : String) : List Char :=
  '\"' :: text.toList.flatMap escapeChar ++ ['\"']

namespace Value

mutual

/-- The compact text of a value. -/
def chars : Value → List Char
  | .null => "null".toList
  | .bool true => "true".toList
  | .bool false => "false".toList
  | .number numeral => numeral.text.toList
  | .string text => stringChars text
  | .array items => '[' :: itemChars items ++ [']']
  | .object entries => '{' :: entryChars entries ++ ['}']

/-- The items of an array with commas between them. -/
def itemChars : List Value → List Char
  | [] => []
  | [item] => item.chars
  | item :: items => item.chars ++ ',' :: itemChars items

/-- The entries of an object with commas between them. -/
def entryChars : List (String × Value) → List Char
  | [] => []
  | [(key, value)] => stringChars key ++ ':' :: value.chars
  | (key, value) :: entries =>
    stringChars key ++ ':' :: value.chars ++ ',' :: entryChars entries

end

/-- The compact text of a value. -/
def text (value : Value) : String :=
  String.ofList value.chars

end Value

end FontCompiler.Json
