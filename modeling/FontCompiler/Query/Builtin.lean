import FontCompiler.Query.Access
import FontCompiler.Text.Blank

/-!
# Builtin filters

The filters that cannot be defined in the query language itself.  They are
sorted by what they need besides their input: nothing, the value of an
argument, the keys that an argument gives for the items of an array, or the
outputs of an argument.

Not every filter of the language is here.  Those that ask for the time, for the
environment or for further inputs, those that end the program, and those that
match regular expressions are left out, so their names are undefined.
-/

namespace FontCompiler.Query

/-- An item of an array with the key that decides about its place. -/
abbrev Keyed := List Value × Value

/-- The builtin filters. -/
inductive Builtin
  | plain (apply : Value → Result)
  | withValue (apply : Value → Value → Result)
  | byKeys (apply : List Keyed → Value)
  | range
  | first
  | last
  | limit
  | raise

namespace Builtin

/-- The text that a value is. -/
def textOf (value : Value) : Except Interrupt String :=
  match value with
  | .string text => .ok text
  | _ => fail (.unusable value "string")

/-- A function of texts as a filter. -/
def onText (apply : String → Value) : Builtin :=
  .plain fun input => do return apply (← textOf input)

/-- A function of two texts, the input and the argument, as a filter. -/
def onTexts (apply : String → String → Value) : Builtin :=
  .withValue fun argument input => do return apply (← textOf input) (← textOf argument)

/-- The size of a value; that of a number is its magnitude. -/
def length (value : Value) : Result :=
  match value with
  | .null => .ok (.int 0)
  | .string text => .ok (.int text.length)
  | .array items => .ok (.int items.length)
  | .object entries => .ok (.int entries.length)
  | .bool _ => fail (.lengthless value)
  | .int number => if number < 0 then value.negate else .ok value
  | .float number => .ok (magnitude number)
  | .numeral text => .ok (magnitude (numeralFloat text))
where
  /-- A double without its sign. -/
  magnitude (number : Numeric.Binary64) : Value :=
    match number.value with
    | .infinite _ => .float (.ofValue (.infinite false))
    | .finite _ units => .float (.ofValue (.finite false units))
    | .nan => .float number

/-- The keys of an object in their order, or the indices of an array. -/
def keys (value : Value) : Except Interrupt (List Value) :=
  match value with
  | .array items => .ok ((List.range items.length).map fun index : Nat => Value.int index)
  | .object entries => .ok (entries.map fun entry => .string entry.1)
  | _ => fail (.unusable value "iterable (array or object)")

/-- Whether a value has a part under a key or index. -/
def has (key value : Value) : Result :=
  match value, key with
  | .array items, .int index =>
    if 0 ≤ index then .ok (.bool (index < items.length)) else fail (.notIndexable value key)
  | .object entries, .string name => .ok (.bool (Ordered.contains name entries))
  | _, _ => fail (.notIndexable value key)

/-- Whether a value contains another: texts contain their parts, arrays whatever some item
contains, and objects what their values contain under the same keys. -/
def contains : (fuel : Nat) → Value → Value → Bool
  | 0, _, _ => false
  | fuel + 1, outer, inner =>
    match outer, inner with
    | .string outer, .string inner => Text.occurs inner.toList outer.toList
    | .array outer, .array inner =>
      inner.all fun wanted => outer.any fun item => contains fuel item wanted
    | .object outer, .object inner =>
      inner.all fun (key, wanted) =>
        match Ordered.get? key outer with
        | some value => contains fuel value wanted
        | none => false
    | outer, inner => outer.equals inner

/-- The value that a text holds. -/
def parse (text : String) : Result :=
  match Value.ofText text with
  | .ok value => .ok value
  | .error fault => fail (.unreadable text fault)

/-- A number as it is, or the value that a text holds. -/
def number (value : Value) : Result :=
  if value.number?.isSome then .ok value else do parse (← textOf value)

/-- The pieces of a text between separators. -/
def split (separator value : Value) : Result :=
  match value, separator with
  | .string text, .string separator => .ok (.array ((Text.split text separator).map .string))
  | _, _ => fail .unsplittable

/-- The code points of a text. -/
def codepoints (text : String) : Value :=
  .array (text.toList.map fun char => .int char.toNat)

/-- The character of a code point. -/
def character (value : Value) : Except Interrupt Char :=
  match value with
  | .int number =>
    if 0 ≤ number ∧ number.toNat.isValidChar then .ok (Char.ofNat number.toNat)
    else fail (.unusable value "character")
  | _ => fail (.unusable value "integer")

/-- The items of an array. -/
def itemsOf (value : Value) : Except Interrupt (List Value) :=
  match value with
  | .array items => .ok items
  | _ => fail (.unusable value "array")

/-- The text without another at its start. -/
def withoutStart (text start : String) : Value :=
  .string (if start.toList.isPrefixOf text.toList then
    String.ofList (text.toList.drop start.length) else text)

/-- The text without another at its end. -/
def withoutEnd (text tail : String) : Value :=
  .string (if tail.toList.isSuffixOf text.toList then
    String.ofList (text.toList.take (text.length - tail.length)) else text)

/-- Applies a function to the characters of a text. -/
def onChars (apply : List Char → List Char) : Builtin :=
  onText fun text => .string (String.ofList (apply text.toList))

/-- The order of two keys. -/
def compareKeys (left right : Keyed) : Ordering :=
  (Value.array left.1).order (.array right.1)

/-- Items in ascending order of their keys. -/
def sortKeyed (items : List Keyed) : List Keyed :=
  items.mergeSort fun left right => compareKeys left right != .gt

/-- Runs of items whose keys equal that of the first one; the last run is given in reverse
order, with its first item apart. -/
def groupsFrom (first : Keyed) (group : List Keyed) : List Keyed → List (List Keyed)
  | [] => [group.reverse]
  | item :: items =>
    if compareKeys first item == .eq then groupsFrom first (item :: group) items
    else group.reverse :: groupsFrom item [item] items

/-- Runs of items whose keys equal that of the first one. -/
def groups : List Keyed → List (List Keyed)
  | [] => []
  | item :: items => groupsFrom item [item] items

/-- The item with the least key, the first one of several, or null. -/
def least (items : List Keyed) : Value :=
  match items with
  | [] => .null
  | item :: items =>
    (items.foldl (fun best item => if compareKeys item best == .lt then item else best) item).2

/-- The item with the greatest key, the last one of several, or null. -/
def greatest (items : List Keyed) : Value :=
  match items with
  | [] => .null
  | item :: items =>
    (items.foldl (fun best item => if compareKeys item best == .lt then best else item) item).2

/-- The values from one on in equal steps, as long as they lie in front of a bound.  Their
number is limited. -/
def steps (bound step : Value) (inside : Ordering → Bool) : (fuel : Nat) → Value → Results
  | 0, _ => .interrupt .exhausted
  | fuel + 1, value =>
    if inside (value.order bound) then
      .next (.ok value) fun _ =>
        match Arithmetic.add.apply value step with
        | .ok value => steps bound step inside fuel value
        | .error cause => .interrupt cause
    else .done

/-- The values from `first` on in steps of `step` up to a bound. -/
def rangeOf (first bound step : Value) : Results :=
  let inside : Ordering → Bool :=
    match step.order (.int 0) with
    | .gt => (· == .lt)
    | .lt => (· == .gt)
    | .eq => (· != .eq)
  steps bound step inside 0x100000000 first

/-- The first outputs, as many as a number says. -/
def limited (count : Value) (results : Unit → Results) : Results :=
  match count with
  | .int count => if 0 < count then (results ()).take count.toNat else .done
  | _ => .interrupt (Mistake.interrupt (.unusable count "integer"))

/-- The last output; an interrupt takes the place of all. -/
def lastOf (results : Results) : Results :=
  match results.gather with
  | .error cause => .interrupt cause
  | .ok values =>
    match values.getLast? with
    | some value => .value value
    | none => .done

/-- The builtin filter of a name with a number of arguments. -/
def named? (name : String) (arity : Nat) : Option Builtin :=
  match arity, name with
  | 0, "null" => some (.plain fun _ => .ok .null)
  | 0, "true" => some (.plain fun _ => .ok (.bool true))
  | 0, "false" => some (.plain fun _ => .ok (.bool false))
  | 0, "not" => some (.plain fun input => .ok (.bool !input.truth))
  | 0, "error" => some .raise
  | 0, "type" => some (.plain fun input => .ok (.string input.typeName))
  | 0, "length" => some (.plain length)
  | 0, "utf8bytelength" => some (onText fun text => .int text.utf8ByteSize)
  | 0, "keys" => some (.plain fun input => do return .array (Value.sortItems (← keys input)))
  | 0, "keys_unsorted" => some (.plain fun input => do return .array (← keys input))
  | 0, "tostring" => some (.plain fun input => .ok (.string input.plainText))
  | 0, "tojson" => some (.plain fun input => .ok (.string input.text))
  | 0, "fromjson" => some (.plain fun input => do parse (← textOf input))
  | 0, "tonumber" => some (.plain number)
  | 0, "floor" => some (.plain Rounding.down.apply)
  | 0, "ceil" => some (.plain Rounding.up.apply)
  | 0, "round" => some (.plain Rounding.nearest.apply)
  | 0, "ascii_downcase" => some (onChars (·.map Char.toLower))
  | 0, "ascii_upcase" => some (onChars (·.map Char.toUpper))
  | 0, "trim" => some (onChars fun chars => Text.trimEnd (Text.trimStart chars))
  | 0, "ltrim" => some (onChars Text.trimStart)
  | 0, "rtrim" => some (onChars Text.trimEnd)
  | 0, "explode" => some (onText codepoints)
  | 0, "implode" => some (.plain fun input => do
    return .string (String.ofList (← (← itemsOf input).mapM character)))
  | 0, "reverse" => some (.plain fun input => do return .array (← itemsOf input).reverse)
  | 0, "sort" => some (.plain fun input => do return .array (Value.sortItems (← itemsOf input)))
  | 1, "has" => some (.withValue has)
  | 1, "contains" => some (.withValue fun inner outer =>
    .ok (.bool (contains (outer.depth + 1) outer inner)))
  | 1, "split" => some (.withValue split)
  | 1, "startswith" => some (onTexts fun text start =>
    .bool (start.toList.isPrefixOf text.toList))
  | 1, "endswith" => some (onTexts fun text tail => .bool (tail.toList.isSuffixOf text.toList))
  | 1, "ltrimstr" => some (onTexts withoutStart)
  | 1, "rtrimstr" => some (onTexts withoutEnd)
  | 1, "sort_by" => some (.byKeys fun items => .array ((sortKeyed items).map Prod.snd))
  | 1, "group_by" => some (.byKeys fun items =>
    .array ((groups (sortKeyed items)).map fun group => .array (group.map Prod.snd)))
  | 1, "min_by" => some (.byKeys least)
  | 1, "max_by" => some (.byKeys greatest)
  | 1, "error" => some .raise
  | 1, "first" => some .first
  | 1, "last" => some .last
  | 2, "limit" => some .limit
  | 3, "range" => some .range
  | _, _ => none

end Builtin

end FontCompiler.Query
