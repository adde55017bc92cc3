import FontCompiler.Query.Arithmetic

/-!
# Parts of query values

What is inside a value: the items of arrays and the entries of objects, single
parts under an index or key, and slices.  Every way to look at a part comes
with a way to update it, where a part without a new value disappears.
-/

namespace FontCompiler.Query

namespace Value

/-- The items of an array or the values of an object. -/
def items : Value → Except Interrupt (List Value)
  | .array items => .ok items
  | .object entries => .ok (entries.map Prod.snd)
  | value => fail (.unusable value "iterable (array or object)")

/-- The position in a list that an index means; negative ones count from the end. -/
def position? (index : Int) (length : Nat) : Option Nat :=
  let position := if 0 ≤ index then index else index + length
  if 0 ≤ position ∧ position < length then some position.toNat else none

/-- The part of a value under a key or index. -/
def part (value key : Value) : Result :=
  match value, key with
  | .array items, .int index =>
    .ok (((position? index items.length).bind (items[·]?)).getD .null)
  | .object entries, .string name => .ok ((Ordered.get? name entries).getD .null)
  | .array _, _ => fail (.notIndexable value key)
  | .object _, _ => fail (.notIndexable value key)
  | _, _ => fail (.unusable value "iterable (array or object)")

/-- The integer that a bound of a slice is. -/
def bound (value : Value) : Except Interrupt Int :=
  match value with
  | .int bound => .ok bound
  | _ => fail (.unusable value "integer")

/-- A bound of a slice as a position in a list. -/
def clip (bound : Int) (length : Nat) : Nat :=
  if 0 ≤ bound then min bound.toNat length else (bound + length).toNat

/-- The start and the length of a slice of a list. -/
def sliceSpan (first last : Option Value) (length : Nat) : Except Interrupt (Nat × Nat) := do
  let first ← (first.getD (.int 0)).bound
  let last ← (last.getD (.int length)).bound
  let start := clip first length
  return (start, clip last length - start)

/-- The slice of an array or a text. -/
def slice (value : Value) (first last : Option Value) : Result :=
  match value with
  | .array items => do
    let (start, count) ← sliceSpan first last items.length
    return .array ((items.drop start).take count)
  | .string text => do
    let (start, count) ← sliceSpan first last text.length
    return .string (String.ofList ((text.toList.drop start).take count))
  | _ => fail (.unusable value "rangeable (array or string)")

/-- The first new value of a part. -/
def firstOf (results : Results) : Except Interrupt (Option Value) :=
  match results.head? with
  | none => .ok none
  | some (.ok value) => .ok (some value)
  | some (.error cause) => .error cause

/-- The value itself where the failure of an update is forgiven. -/
def unlessOptional (optional : Bool) (value : Value) (mistake : Mistake) : Result :=
  if optional then .ok value else fail mistake

/-- The entries whose values are updated; those without a new value disappear. -/
def updateEntries (update : Value → Results) :
    List (String × Value) → Except Interrupt (List (String × Value))
  | [] => .ok []
  | (key, value) :: entries => do
    match ← firstOf (update value) with
    | some value => return (key, value) :: (← updateEntries update entries)
    | none => updateEntries update entries

/-- Updates every item of an array or every value of an object; an item is replaced by all
its new values. -/
def updateItems (optional : Bool) (update : Value → Results) (value : Value) : Result :=
  match value with
  | .array items => do return .array (← ((Outputs.ofList items).bind update).gather)
  | .object entries => do return .object (← updateEntries update entries)
  | _ => unlessOptional optional value (.unusable value "iterable (array or object)")

/-- Updates the part under a key or index; a missing key has the value null. -/
def updatePart (optional : Bool) (key : Value) (update : Value → Results) (value : Value) :
    Result :=
  match value, key with
  | .object entries, .string name => do
    let old := Ordered.get? name entries
    match ← firstOf (update (old.getD .null)) with
    | some new => return .object (Ordered.insert name new entries)
    | none => return .object (Ordered.swapErase name entries)
  | .object _, _ => unlessOptional optional value (.notIndexable value key)
  | .array items, .int index =>
    match position? index items.length with
    | some position => do
      match ← firstOf (update ((items[position]?).getD .null)) with
      | some new => return .array (items.set position new)
      | none => return .array (items.eraseIdx position)
    | none => unlessOptional optional value (.outOfBounds key)
  | .array _, _ => unlessOptional optional value (.unusable key "integer")
  | _, _ => unlessOptional optional value (.unusable value "iterable (array or object)")

/-- The items that replace a slice. -/
def replacement (results : Results) : Except Interrupt (List Value) := do
  match ← firstOf results with
  | none => return []
  | some (.array items) => return items
  | some value => fail (.unusable value "array")

/-- Updates a slice of an array. -/
def updateSlice (optional : Bool) (first last : Option Value) (update : Value → Results)
    (value : Value) : Result :=
  match value with
  | .array items =>
    match sliceSpan first last items.length with
    | .error cause => if optional then .ok value else .error cause
    | .ok (start, count) => do
      let middle ← replacement (update (.array ((items.drop start).take count)))
      return .array (items.take start ++ middle ++ items.drop (start + count))
  | _ => unlessOptional optional value (.unusable value "array")

mutual

/-- Updates all descendants of a value and then the value itself; what has no parts stays
as it is in its place. -/
def updateDescendants (update : Value → Results) : Value → Results
  | .array items =>
    match updateItemTrees update items with
    | .ok items => update (.array items)
    | .error cause => .interrupt cause
  | .object entries =>
    match updateEntryTrees update entries with
    | .ok entries => update (.object entries)
    | .error cause => .interrupt cause
  | value => update value

/-- Updates the descendants of the items of an array. -/
def updateItemTrees (update : Value → Results) : List Value → Except Interrupt (List Value)
  | [] => .ok []
  | item :: items => do
    let new ← (updateDescendants update item).gather
    return new ++ (← updateItemTrees update items)

/-- Updates the descendants of the entries of an object. -/
def updateEntryTrees (update : Value → Results) :
    List (String × Value) → Except Interrupt (List (String × Value))
  | [] => .ok []
  | (key, value) :: entries => do
    match ← firstOf (updateDescendants update value) with
    | some new => return (key, new) :: (← updateEntryTrees update entries)
    | none => updateEntryTrees update entries

end

end Value

/-- A step from a value to its parts. -/
inductive Step
  | items
  | part (key : Value)
  | slice (first last : Option Value)

/-- A step that is taken, and whether its failures are dropped. -/
structure PathStep where
  step : Step
  optional : Bool

namespace PathStep

/-- The parts that a step leads to. -/
def follow (path : PathStep) (value : Value) : Results :=
  let results : Results :=
    match path.step with
    | .items =>
      match value.items with
      | .ok items => (Outputs.ofList items).map .ok
      | .error cause => .interrupt cause
    | .part key => .one (value.part key)
    | .slice first last => .one (value.slice first last)
  if path.optional then results.filter fun result => result.toOption.isSome else results

/-- Updates the parts that a step leads to. -/
def update (path : PathStep) (apply : Value → Results) (value : Value) : Result :=
  match path.step with
  | .items => value.updateItems path.optional apply
  | .part key => Value.updatePart path.optional key apply value
  | .slice first last => value.updateSlice path.optional first last apply

/-- The parts that steps lead to one after the other. -/
def followAll : List PathStep → Value → Results
  | [], value => .value value
  | path :: paths, value => (path.follow value).bindOk (followAll paths)

/-- Updates the parts that steps lead to one after the other. -/
def updateAll (apply : Value → Results) : List PathStep → Value → Results
  | [], value => apply value
  | path :: paths, value => .one (path.update (updateAll apply paths) value)

end PathStep

end FontCompiler.Query
