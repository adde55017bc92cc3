import FontCompiler.Json.Location
import FontCompiler.Json.Syntax
import FontCompiler.Manifest.Codepoint
import FontCompiler.Text.Quoted

/-!
# Faults of manifest documents

A document that is no manifest is rejected at its first fault: a cause, and the
location where it was met.
-/

namespace FontCompiler.Manifest

open Json

/-- What a part of a manifest has to be. -/
inductive Shape
  | text
  | word32
  | size
  | sequence
  | map
  | record (name : String)
  deriving DecidableEq, Repr

/-- The wording of a shape. -/
def Shape.words : Shape → String
  | .text => "a string"
  | .word32 => "u32"
  | .size => "usize"
  | .sequence => "a sequence"
  | .map => "a map"
  | .record name => "struct " ++ name

/-- What a part of a document turns out to be. -/
inductive Found
  | null
  | bool (value : Bool)
  | number (value : Number)
  | string (text : String)
  | sequence
  | map
  deriving DecidableEq, Repr

/-- The wording of what is found. -/
def Found.words : Found → String
  | .null => "null"
  | .bool value => "boolean `" ++ (if value then "true" else "false") ++ "`"
  | .number (.int value) => "integer `" ++ Numeric.decimalInt value ++ "`"
  | .number (.float value) => "floating point `" ++ floatText value ++ "`"
  | .string text => "string " ++ Text.quoted text
  | .sequence => "sequence"
  | .map => "map"

/-- Why a document is no manifest. -/
inductive Cause
  | syntaxFault (fault : SyntaxFault)
  | wrongType (found : Found) (expected : Shape)
  | outOfRange (value : Int) (expected : Shape)
  | missingItem (index : Nat) (name : String) (count : Nat)
  | surplusItems (count : Nat)
  | unknownField (name : String) (known : List String)
  | duplicateField (name : String)
  | missingField (name : String)
  | keyNotNumeric
  | codepoint (fault : CodepointFault)
  deriving DecidableEq, Repr

/-- A row of alternatives between backquotes. -/
def alternatives : List String → String
  | [one] => "`" ++ one ++ "`"
  | [one, other] => "`" ++ one ++ "` or `" ++ other ++ "`"
  | names => "one of " ++ String.intercalate ", " (names.map fun name => "`" ++ name ++ "`")

/-- The wording of a cause. -/
def Cause.message : Cause → String
  | .syntaxFault fault => fault.message
  | .wrongType found expected =>
    "invalid type: " ++ found.words ++ ", expected " ++ expected.words
  | .outOfRange value expected =>
    "invalid value: integer `" ++ Numeric.decimalInt value ++ "`, expected " ++ expected.words
  | .missingItem index name count =>
    "invalid length " ++ Numeric.decimalDigits index ++ ", expected struct " ++ name ++
      " with " ++ Numeric.decimalDigits count ++ " elements"
  | .surplusItems count =>
    "invalid length " ++ Numeric.decimalDigits count ++ ", expected fewer elements in array"
  | .unknownField name known =>
    "unknown field `" ++ name ++ "`, expected " ++ alternatives known
  | .duplicateField name => "duplicate field `" ++ name ++ "`"
  | .missingField name => "missing field `" ++ name ++ "`"
  | .keyNotNumeric => "invalid value: expected key to be a number in quotes"
  | .codepoint fault => fault.message

/-- A cause and where it was met. -/
structure Fault where
  location : Location
  cause : Cause
  deriving DecidableEq, Repr

/-- The wording of a fault. -/
def Fault.message (fault : Fault) : String :=
  "at JSON path " ++ fault.location.text ++ " → " ++ fault.cause.message

end FontCompiler.Manifest
