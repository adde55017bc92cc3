import FontCompiler.Json.NumberText

/-!
# Query values

The values that filters work on.  A number is an integer of sixty-four bits, a
double, or the text of a number that was written down and not touched since:
such a number is only rounded to a double when something is computed with it.

Every JSON document is a value.  Every value has a text, which is that of a
document unless it holds a number that no document can hold.
-/

namespace FontCompiler.Query

open Numeric

/-- A value of the query language. -/
inductive Value
  | null
  | bool (truth : Bool)
  | int (value : Int)
  | float (value : Binary64)
  /-- A number by its text. -/
  | numeral (text : String)
  | string (text : String)
  | array (items : List Value)
  | object (entries : List (String × Value))
  deriving Repr, Inhabited

/-- Whether an integer is in the range of integer values. -/
def fitsInteger (value : Int) : Bool :=
  Int64.minValue.toInt ≤ value && value ≤ Int64.maxValue.toInt

/-- The number that digits denote. -/
def digitsValue (digits : List Nat) : Nat :=
  digits.foldl (fun value digit => value * 10 + digit) 0

/-- The exponent that the end of a numeral denotes. -/
def numeralExponent : List Char → Int
  | [] => 0
  | _ :: '-' :: chars => -(digitsValue (Json.NumberText.spanDigits chars).1 : Int)
  | _ :: '+' :: chars => digitsValue (Json.NumberText.spanDigits chars).1
  | _ :: chars => digitsValue (Json.NumberText.spanDigits chars).1

/-- The double nearest to a numeral without a sign. -/
def unsignedNumeral (negative : Bool) (chars : List Char) : Binary64 :=
  let (whole, rest) := Json.NumberText.spanDigits chars
  let (fraction, rest) :=
    match rest with
    | '.' :: rest => Json.NumberText.spanDigits rest
    | rest => ([], rest)
  Binary64.ofDecimal negative (digitsValue (whole ++ fraction))
    (numeralExponent rest - fraction.length)

/-- The double nearest to a numeral. -/
def numeralFloat (text : String) : Binary64 :=
  match text.toList with
  | '-' :: chars => unsignedNumeral true chars
  | chars => unsignedNumeral false chars

/-- Doubles in texts are positional from `1e-4` up to below `1e16`. -/
def floatStyle : DecimalStyle :=
  ⟨16, -4, ""⟩

/-- The text of a double; one that is not finite reads as null. -/
def floatText (number : Binary64) : String :=
  match number.value with
  | .finite negative units => floatStyle.finite .binary64 negative units
  | _ => "null"

/-- One character as it stands inside a string; control characters are written by their code
point, unless they end a line or move to a column. -/
def escapeChar (char : Char) : List Char :=
  if char.toNat = 8 ∨ char.toNat = 12 then
    '\\' :: 'u' :: Text.padZeros 4 (Nat.toDigits 16 char.toNat)
  else Json.escapeChar char

/-- The text of a string. -/
def stringChars (text : String) : List Char :=
  '\"' :: text.toList.flatMap escapeChar ++ ['\"']

namespace Value

/-- The integer that a text of digits denotes, which may stand behind a minus sign. -/
def integer? (text : String) : Option Int :=
  match text.toList with
  | '-' :: digits => (Text.decimalValue? digits).map fun value => -(value : Int)
  | digits => (Text.decimalValue? digits).map fun value => (value : Int)

/-- The value that a numeral denotes: an integer if it has only digits and fits. -/
def ofNumeral (text : String) : Value :=
  match integer? text with
  | some value => if fitsInteger value then .int value else .numeral text
  | none => .numeral text

/-- The value of a number of a document. -/
def ofNumber : Json.Number → Value
  | .int value => if fitsInteger value then .int value else .numeral (decimalInt value)
  | .float value => .numeral (Json.floatText value)

mutual

/-- The value of a document. -/
def ofJson : Json.Value → Value
  | .null => .null
  | .bool truth => .bool truth
  | .number number => ofNumber number
  | .string text => .string text
  | .array items => .array (ofJsonItems items)
  | .object entries => .object (ofJsonEntries entries)

/-- The values of the items of an array. -/
def ofJsonItems : List Json.Value → List Value
  | [] => []
  | item :: items => ofJson item :: ofJsonItems items

/-- The values of the entries of an object. -/
def ofJsonEntries : List (String × Json.Value) → List (String × Value)
  | [] => []
  | (key, value) :: entries => (key, ofJson value) :: ofJsonEntries entries

end

mutual

/-- The characters of the text of a value. -/
def chars : Value → List Char
  | .null => "null".toList
  | .bool true => "true".toList
  | .bool false => "false".toList
  | .int value => (decimalInt value).toList
  | .float value => (floatText value).toList
  | .numeral text => text.toList
  | .string text => stringChars text
  | .array items => '[' :: itemChars items ++ [']']
  | .object entries => '{' :: entryChars entries ++ ['}']

/-- The items of an array with commas between them. -/
def itemChars : List Value → List Char
  | [] => []
  | [item] => item.chars
  | item :: items => item.chars ++ ',' :: itemChars items

/-- The entries of an object with commas between them. -/
def entryChars : List (String × Value) → List Char
  | [] => []
  | [(key, value)] => stringChars key ++ ':' :: value.chars
  | (key, value) :: entries =>
    stringChars key ++ ':' :: value.chars ++ ',' :: entryChars entries

end

/-- The text of a value. -/
def text (value : Value) : String :=
  String.ofList value.chars

/-- The text of a value, that of a string being the string itself. -/
def plainText : Value → String
  | .string text => text
  | value => value.text

/-- What a condition makes of a value: only null and false do not hold. -/
def truth : Value → Bool
  | .null => false
  | .bool truth => truth
  | _ => true

/-- The name of the type of a value. -/
def typeName : Value → String
  | .null => "null"
  | .bool _ => "boolean"
  | .int _ => "number"
  | .float _ => "number"
  | .numeral _ => "number"
  | .string _ => "string"
  | .array _ => "array"
  | .object _ => "object"

/-- The number that a value is; a numeral is rounded. -/
def number? : Value → Option Json.Number
  | .int value => some (.int value)
  | .float value => some (.float value)
  | .numeral text => some (.float (numeralFloat text))
  | _ => none

mutual

/-- A value and all values in it, each in front of those that it holds. -/
def descendants : Value → List Value
  | .array items => .array items :: itemDescendants items
  | .object entries => .object entries :: entryDescendants entries
  | value => [value]

/-- The descendants of the items of an array. -/
def itemDescendants : List Value → List Value
  | [] => []
  | item :: items => item.descendants ++ itemDescendants items

/-- The descendants of the entries of an object. -/
def entryDescendants : List (String × Value) → List Value
  | [] => []
  | (_, value) :: entries => value.descendants ++ entryDescendants entries

end

mutual

/-- How deep arrays and objects are nested in a value. -/
def depth : Value → Nat
  | .array items => depthOfItems items + 1
  | .object entries => depthOfEntries entries + 1
  | _ => 0

/-- How deep arrays and objects are nested in some item. -/
def depthOfItems : List Value → Nat
  | [] => 0
  | item :: items => max (depth item) (depthOfItems items)

/-- How deep arrays and objects are nested in some entry. -/
def depthOfEntries : List (String × Value) → Nat
  | [] => 0
  | (_, value) :: entries => max (depth value) (depthOfEntries entries)

end

end Value

end FontCompiler.Query
