import FontCompiler.Json.Draft
import FontCompiler.Json.Location

/-!
# Complete documents

A draft that does not break off is a value, and every value has a draft.  Of a
draft that does break off, the fault is reported with its location: a fault in
the place of a key has no name, and one in front of a value counts as the
object's own.
-/

namespace FontCompiler.Json

/-- The fault at which a draft breaks off, and its location. -/
structure Break where
  location : Location
  fault : SyntaxFault
  deriving DecidableEq, Repr

/-- Whether the items or entries of a draft are closed. -/
def closed (location : Location) : Option SyntaxFault → Except Break Unit
  | none => .ok ()
  | some fault => .error ⟨location, fault⟩

/-- The text of a key. -/
def DraftKey.read (location : Location) (key : DraftKey) : Except Break String :=
  match key.text with
  | .ok text => .ok text
  | .error fault => .error ⟨location ++ [.unnamed], fault⟩

namespace Draft

/-- The location of a value under a key; a value that is not reached counts as its parent. -/
def locationUnder (location : Location) (key : String) : Draft → Location
  | .unreached _ => location
  | _ => location ++ [.field key]

mutual

/-- The value of a draft. -/
def complete (location : Location) : Draft → Except Break Value
  | .fault cause => .error ⟨location, cause⟩
  | .unreached cause => .error ⟨location, cause⟩
  | .null => .ok .null
  | .bool truth => .ok (.bool truth)
  | .number numeral => .ok (.number numeral)
  | .string text => .ok (.string text)
  | .array items cut => do
    let items ← completeItems location 0 items
    closed location cut
    return .array items
  | .object entries cut => do
    let entries ← completeEntries location entries
    closed (location ++ [.unnamed]) cut
    return .object (Ordered.ofList entries)

/-- The values of the items of an array, from an index on. -/
def completeItems (location : Location) (index : Nat) :
    List Draft → Except Break (List Value)
  | [] => .ok []
  | item :: items => do
    let value ← complete (location ++ [.item index]) item
    let values ← completeItems location (index + 1) items
    return value :: values

/-- The entries of an object, as they are written. -/
def completeEntries (location : Location) :
    List (DraftKey × Draft) → Except Break (List (String × Value))
  | [] => .ok []
  | (key, draft) :: entries => do
    let key ← key.read location
    let value ← complete (draft.locationUnder location key) draft
    let others ← completeEntries location entries
    return (key, value) :: others

end

/-- The entries of an object, a later value replacing an earlier one under the same key. -/
def completeObject (location : Location) (entries : List (DraftKey × Draft))
    (cut : Option SyntaxFault) : Except Break (List (String × Value)) := do
  let entries ← completeEntries location entries
  closed (location ++ [.unnamed]) cut
  return Ordered.ofList entries

mutual

/-- The draft of a value. -/
def ofValue : Value → Draft
  | .null => .null
  | .bool truth => .bool truth
  | .number numeral => .number numeral
  | .string text => .string text
  | .array items => .array (ofItems items) none
  | .object entries => .object (ofEntries entries) none

/-- The drafts of the items of an array. -/
def ofItems : List Value → List Draft
  | [] => []
  | item :: items => ofValue item :: ofItems items

/-- The drafts of the entries of an object. -/
def ofEntries : List (String × Value) → List (DraftKey × Draft)
  | [] => []
  | (key, value) :: entries => (⟨.ok key, key.toList⟩, ofValue value) :: ofEntries entries

end

end Draft

/-- The value that a text is, if it is nothing else. -/
def Value.ofText (text : String) : Except SyntaxFault Value :=
  match Draft.read text with
  | (draft, rest) =>
    match draft.complete [] with
    | .error broken => .error broken.fault
    | .ok value =>
      match rest.map Draft.skipBlanks with
      | some [] => .ok value
      | _ => .error .trailingCharacters

end FontCompiler.Json
