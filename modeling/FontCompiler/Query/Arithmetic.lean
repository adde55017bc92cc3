import FontCompiler.Query.Interrupt
import FontCompiler.Query.Order
import FontCompiler.Ordered
import FontCompiler.Text.Search

/-!
# Arithmetic on query values

Integers are computed exactly; a result out of their range becomes a double,
and so does every quotient.  Beyond numbers, texts and arrays are appended and
split, objects are merged, and null is neutral in sums.
-/

namespace FontCompiler.Query

open Numeric

/-- The double of a number. -/
def toFloat : Json.Number → Binary64
  | .int value => .ofInt value
  | .float value => value

/-- Computes with doubles. -/
def onFloats (apply : FloatValue → FloatValue → FloatValue) (left right : Json.Number) :
    Value :=
  .float (.ofValue (apply (toFloat left).value (toFloat right).value))

/-- Computes with integers while the result fits, and with doubles otherwise. -/
def onNumbers (exact : Int → Int → Int) (rounded : FloatValue → FloatValue → FloatValue)
    (left right : Json.Number) : Value :=
  match left, right with
  | .int x, .int y =>
    if fitsInteger (exact x y) then .int (exact x y) else onFloats rounded left right
  | _, _ => onFloats rounded left right

/-- A text a number of times. -/
def repeatText (text : String) (count : Nat) : String :=
  String.join (List.replicate count text)

mutual

/-- Merges the second object into the first, objects under the same key being merged in turn. -/
def mergeEntries (entries : List (String × Value)) :
    List (String × Value) → List (String × Value)
  | [] => entries
  | (key, value) :: others =>
    mergeEntries (Ordered.insert key (mergeInto (Ordered.get? key entries) value) entries) others

/-- What stands under a key after a value was merged into it. -/
def mergeInto : Option Value → Value → Value
  | some (.object entries), .object others => .object (mergeEntries entries others)
  | _, value => value

end

/-- The operators of arithmetic. -/
inductive Arithmetic
  | add
  | subtract
  | multiply
  | divide
  | remainder
  deriving DecidableEq, Repr

namespace Arithmetic

/-- How an operator is written. -/
def symbol : Arithmetic → String
  | .add => "+"
  | .subtract => "-"
  | .multiply => "*"
  | .divide => "/"
  | .remainder => "%"

/-- The numeric result of an operator. -/
def onNumbers? (operator : Arithmetic) (left right : Json.Number) : Option Value :=
  match operator with
  | .add => some (onNumbers (· + ·) (FloatValue.add .binary64) left right)
  | .subtract => some (onNumbers (· - ·) (FloatValue.sub .binary64) left right)
  | .multiply => some (onNumbers (· * ·) (FloatValue.mul .binary64) left right)
  | .divide => some (onFloats (FloatValue.div .binary64) left right)
  | .remainder =>
    match left, right with
    | .int x, .int y => if y = 0 then none else some (.int (x.tmod y))
    | _, _ => some (onFloats FloatValue.rem left right)

/-- The result of an operator on values that are not both numbers. -/
def onOthers? : Arithmetic → Value → Value → Option Value
  | .add, .null, value => some value
  | .add, value, .null => some value
  | .add, .string left, .string right => some (.string (left ++ right))
  | .add, .array lefts, .array rights => some (.array (lefts ++ rights))
  | .add, .object lefts, .object rights => some (.object (Ordered.insertAll rights lefts))
  | .subtract, .array lefts, .array rights =>
    some (.array (lefts.filter fun left => !rights.any left.equals))
  | .multiply, .string text, .int count => some (repeated text count)
  | .multiply, .int count, .string text => some (repeated text count)
  | .multiply, .object lefts, .object rights => some (.object (mergeEntries lefts rights))
  | .divide, .string text, .string separator =>
    some (.array ((Text.split text separator).map .string))
  | _, _, _ => none
where
  /-- A text a number of times, or null if that is no positive number. -/
  repeated (text : String) (count : Int) : Value :=
    if 0 < count then .string (repeatText text count.toNat) else .null

/-- A value as a failed computation shows it: a numeral is rounded. -/
def settled : Value → Value
  | .numeral text => .float (numeralFloat text)
  | value => value

/-- The result of an operator. -/
def apply (operator : Arithmetic) (left right : Value) : Result :=
  let result :=
    match left.number?, right.number? with
    | some x, some y => operator.onNumbers? x y
    | _, _ => operator.onOthers? left right
  match result with
  | some value => .ok value
  | none => fail (.notComputable (settled left) operator.symbol (settled right))

end Arithmetic

namespace Value

/-- The value with the opposite sign. -/
def negate (value : Value) : Result :=
  match value.number? with
  | some (.int number) =>
    if fitsInteger (-number) then .ok (.int (-number))
    else .ok (.float (.ofValue (Binary64.ofInt number).value.neg))
  | some (.float number) => .ok (.float (.ofValue number.value.neg))
  | none => fail (.unusable value "number")

end Value

/-- How a number is rounded to an integer. -/
inductive Rounding
  | down
  | up
  | nearest
  deriving DecidableEq, Repr

namespace Rounding

/-- The integer that a magnitude of the given units is rounded to; a half goes away from zero. -/
def integer (rounding : Rounding) (negative : Bool) (units : Nat) : Int :=
  let one := FloatFormat.binary64.one
  let exact := FloatValue.signedUnits negative units
  match rounding with
  | .down => exact.fdiv one
  | .up => -(-exact).fdiv one
  | .nearest => FloatValue.signedUnits negative ((2 * units + one) / (2 * one))

/-- A number rounded to an integer; doubles out of the range of integers give its bounds. -/
def apply (rounding : Rounding) (value : Value) : Result :=
  match value.number? with
  | some (.int number) => .ok (.int number)
  | some (.float number) =>
    match number.value with
    | .finite negative units =>
      let integer := rounding.integer negative units
      .ok (.int (max Int64.minValue.toInt (min Int64.maxValue.toInt integer)))
    | _ => .ok (.float number)
  | none => fail (.unusable value "number")

end Rounding

end FontCompiler.Query
