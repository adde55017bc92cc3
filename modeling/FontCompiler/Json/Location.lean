import FontCompiler.Numeric.Decimal

/-!
# Locations in JSON documents

A location is the row of steps from the root of a document to one of its parts.
A step that could not be named stands as a question mark in its text.
-/

namespace FontCompiler.Json

/-- A step from a value into it. -/
inductive Step
  | field (name : String)
  | item (index : Nat)
  | unnamed
  deriving DecidableEq, Repr

/-- The steps from the root, in order. -/
abbrev Location := List Step

namespace Location

/-- The text of steps behind the first one; only items need no point in front of them. -/
def tailText : Location → String
  | [] => ""
  | .field name :: steps => "." ++ name ++ tailText steps
  | .item index :: steps => "[" ++ Numeric.decimalDigits index ++ "]" ++ tailText steps
  | .unnamed :: steps => ".?" ++ tailText steps

/-- The text of a location; the root is a point. -/
def text : Location → String
  | [] => "."
  | .field name :: steps => name ++ tailText steps
  | .item index :: steps => "[" ++ Numeric.decimalDigits index ++ "]" ++ tailText steps
  | .unnamed :: steps => "?" ++ tailText steps

end Location

end FontCompiler.Json
