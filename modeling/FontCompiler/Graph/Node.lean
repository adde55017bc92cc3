import FontCompiler.Numeric.FloatFormat
import FontCompiler.Ordered

/-!
# Object graphs

The objects of an embedded font: dictionaries with ordered keys, arrays,
streams, which are dictionaries with a payload, and scalars.

Two nodes are equivalent if they hold the same objects.  The order of keys in
a dictionary does not matter, the order of items in an array does; all NaNs are
one value, and so are the two zeros.
-/

namespace FontCompiler.Graph

open Numeric

/-- An object of a font. -/
inductive Node
  | dictionary (entries : List (String × Node))
  | array (items : List Node)
  | stream (entries : List (String × Node)) (payload : List UInt8)
  | float (value : Binary32)
  | integer (value : Int64)
  | name (text : String)
  | string (text : String)
  | boolean (value : Bool)
  | null
  deriving Repr, Inhabited

/-- The entries of a dictionary, in order. -/
abbrev Dictionary := List (String × Node)

namespace Node

/-- What kind of object a node is. -/
inductive Kind
  | dictionary
  | array
  | stream
  | float
  | integer
  | name
  | string
  | boolean
  | null
  deriving DecidableEq, Repr

/-- The kind of a node. -/
def kind : Node → Kind
  | .dictionary _ => .dictionary
  | .array _ => .array
  | .stream _ _ => .stream
  | .float _ => .float
  | .integer _ => .integer
  | .name _ => .name
  | .string _ => .string
  | .boolean _ => .boolean
  | .null => .null

/-- The word for a kind. -/
def Kind.word : Kind → String
  | .dictionary => "dictionary"
  | .array => "array"
  | .stream => "stream"
  | .float => "float"
  | .integer => "integer"
  | .name => "name"
  | .string => "string"
  | .boolean => "boolean"
  | .null => "null"

mutual

/-- Whether two nodes hold the same objects. -/
def equivalent : Node → Node → Bool
  | .dictionary left, .dictionary right =>
    left.length == right.length && entriesWithin left right
  | .array left, .array right => itemsEquivalent left right
  | .stream left leftPayload, .stream right rightPayload =>
    left.length == right.length && entriesWithin left right && leftPayload == rightPayload
  | .float left, .float right => left.equivalent right
  | .integer left, .integer right => left == right
  | .name left, .name right => left == right
  | .string left, .string right => left == right
  | .boolean left, .boolean right => left == right
  | .null, .null => true
  | _, _ => false

/-- Whether two rows of items agree place by place. -/
def itemsEquivalent : List Node → List Node → Bool
  | [], [] => true
  | left :: lefts, right :: rights => left.equivalent right && itemsEquivalent lefts rights
  | _, _ => false

/-- Whether every entry has an equivalent one under the same key on the right. -/
def entriesWithin : List (String × Node) → List (String × Node) → Bool
  | [], _ => true
  | (key, value) :: entries, right =>
    (match Ordered.get? key right with
      | some other => value.equivalent other
      | none => false) && entriesWithin entries right

end

end Node

end FontCompiler.Graph
