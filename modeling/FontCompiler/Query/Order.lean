import FontCompiler.Query.Value

/-!
# The order of query values

Values of different types are ordered by type: null, booleans, numbers, texts,
arrays, objects.  Arrays are compared item by item.  Objects are compared by
their keys in ascending order first and then by the values under these keys.

A double that is not a number is less than every number, itself included, so it
equals nothing.
-/

namespace FontCompiler.Query

open Numeric

/-- The order of two doubles. -/
def compareFloats (left right : Binary64) : Ordering :=
  match left.value.compare? right.value with
  | some order => order
  | none => if left.value.isNan then .lt else .gt

/-- The order of two numbers; an integer beside a double counts as a double. -/
def compareNumbers : Json.Number → Json.Number → Ordering
  | .int left, .int right => compare left right
  | .int left, .float right => compareFloats (.ofInt left) right
  | .float left, .int right => compareFloats left (.ofInt right)
  | .float left, .float right => compareFloats left right

/-- The order of two texts, by code points. -/
def compareTexts (left right : String) : Ordering :=
  if left < right then .lt else if right < left then .gt else .eq

/-- Entries in ascending order of their keys. -/
def sortEntries {α : Type} (entries : List (String × α)) : List (String × α) :=
  entries.mergeSort fun left right => !decide (right.1 < left.1)

namespace Value

mutual

/-- The value with the keys of every object in ascending order. -/
def withSortedKeys : Value → Value
  | .array items => .array (sortKeysOfItems items)
  | .object entries => .object (sortEntries (sortKeysOfEntries entries))
  | value => value

/-- The items with the keys of every object in ascending order. -/
def sortKeysOfItems : List Value → List Value
  | [] => []
  | item :: items => item.withSortedKeys :: sortKeysOfItems items

/-- The entries with the keys of every object in their values in ascending order. -/
def sortKeysOfEntries : List (String × Value) → List (String × Value)
  | [] => []
  | (key, value) :: entries => (key, value.withSortedKeys) :: sortKeysOfEntries entries

end

/-- The position of the type of a value in the order of types. -/
def typeRank : Value → Nat
  | .null => 0
  | .bool _ => 1
  | .int _ => 2
  | .float _ => 2
  | .numeral _ => 2
  | .string _ => 3
  | .array _ => 4
  | .object _ => 5

/-- The order of two values that are neither arrays nor objects. -/
def compareScalars (left right : Value) : Ordering :=
  match left.number?, right.number?, left, right with
  | some left, some right, _, _ => compareNumbers left right
  | _, _, .bool left, .bool right => compare left.toNat right.toNat
  | _, _, .string left, .string right => compareTexts left right
  | _, _, left, right => compare left.typeRank right.typeRank

/-- The order of two lists of keys, the shorter one being less if it is the start of the
longer one. -/
def compareKeys : List (String × Value) → List (String × Value) → Ordering
  | [], [] => .eq
  | [], _ :: _ => .lt
  | _ :: _, [] => .gt
  | (left, _) :: lefts, (right, _) :: rights =>
    (compareTexts left right).then (compareKeys lefts rights)

mutual

/-- The order of two values whose objects have sorted keys. -/
def compareSorted : Value → Value → Ordering
  | .array lefts, .array rights => compareItems lefts rights
  | .object lefts, .object rights =>
    (compareKeys lefts rights).then (compareEntries lefts rights)
  | left, right => compareScalars left right

/-- The order of two lists of items. -/
def compareItems : List Value → List Value → Ordering
  | [], [] => .eq
  | [], _ :: _ => .lt
  | _ :: _, [] => .gt
  | left :: lefts, right :: rights =>
    (compareSorted left right).then (compareItems lefts rights)

/-- The order of the values under equal keys. -/
def compareEntries : List (String × Value) → List (String × Value) → Ordering
  | (_, left) :: lefts, (_, right) :: rights =>
    (compareSorted left right).then (compareEntries lefts rights)
  | _, _ => .eq

end

/-- The order of two values. -/
def order (left right : Value) : Ordering :=
  compareSorted left.withSortedKeys right.withSortedKeys

/-- Whether two values are equal; the order of keys does not matter. -/
def equals (left right : Value) : Bool :=
  left.order right == .eq

/-- Whether a value is not greater than another. -/
def notAbove (left right : Value) : Bool :=
  left.order right != .gt

/-- Items in ascending order, equal ones in the order in which they stand. -/
def sortItems (items : List Value) : List Value :=
  items.mergeSort notAbove

end Value

end FontCompiler.Query
