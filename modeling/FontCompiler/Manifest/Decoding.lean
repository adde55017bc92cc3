import FontCompiler.Json.Reading
import FontCompiler.Manifest.Fault

/-!
# Decoding drafts

Parts of a manifest are decoded from a draft in document order, so the first
fault of the text and the first part of a wrong shape compete, and the earlier
one is reported.

A draft comes from a text or from a value.  The two routes differ in what they
say about surplus items and in how they read the numeric keys of a map: in a
text such a key is read up to its closing quote.
-/

namespace FontCompiler.Manifest

open Json

/-- Where a draft comes from. -/
inductive Route
  | text
  | value
  deriving DecidableEq, Repr

/-- What a decoder gives for a draft at a location. -/
abbrev Decoder (α : Type) := Location → Json.Draft → Except Fault α

/-- The fault of a draft that does not have the expected shape. -/
def mismatch (expected : Shape) (location : Location) : Json.Draft → Fault
  | .fault fault => ⟨location, .syntaxFault fault⟩
  | .unreached fault => ⟨location, .syntaxFault fault⟩
  | .null => ⟨location, .wrongType .null expected⟩
  | .bool value => ⟨location, .wrongType (.bool value) expected⟩
  | .number value => ⟨location, .wrongType (.number value) expected⟩
  | .string text => ⟨location, .wrongType (.string text) expected⟩
  | .array _ _ => ⟨location, .wrongType .sequence expected⟩
  | .object _ _ => ⟨location, .wrongType .map expected⟩

/-- The fault of a draft that breaks off. -/
def Fault.ofBreak (broken : Break) : Fault :=
  ⟨broken.location, .syntaxFault broken.fault⟩

/-- Passes on what was read of a draft, or the fault at which it breaks off. -/
def orBreak {α : Type} (reading : Except Break α) : Except Fault α :=
  reading.mapError .ofBreak

/-- Any value. -/
def decodeValue : Decoder Value
  | location, draft => orBreak (draft.complete location)

/-- A text. -/
def decodeText : Decoder String
  | _, .string text => .ok text
  | location, draft => .error (mismatch .text location draft)

/-- A natural number below a limit. -/
def decodeNat (limit : Nat) (shape : Shape) : Decoder Nat
  | location, .number (.int value) =>
    if 0 ≤ value ∧ value < limit then .ok value.toNat
    else .error ⟨location, .outOfRange value shape⟩
  | location, draft => .error (mismatch shape location draft)

/-- A code point, in any of its notations. -/
def decodeCodepoint : Decoder Nat
  | location, draft => do
    let value ← decodeValue location draft
    match Codepoint.ofValue value with
    | .ok codepoint => .ok codepoint
    | .error fault => .error ⟨location, .codepoint fault⟩

/-- The items of a sequence, from an index on. -/
def decodeSequenceItems {α : Type} (decode : Decoder α) (location : Location) :
    (index : Nat) → List Json.Draft → Except Fault (List α)
  | _, [] => .ok []
  | index, item :: items => do
    let value ← decode (location ++ [.item index]) item
    let values ← decodeSequenceItems decode location (index + 1) items
    return value :: values

/-- A sequence. -/
def decodeSequence {α : Type} (decode : Decoder α) : Decoder (List α)
  | location, .array items cut => do
    let values ← decodeSequenceItems decode location 0 items
    orBreak (closed location cut)
    return values
  | location, draft => .error (mismatch .sequence location draft)

/-- A key of a map: its value, and its text in locations. -/
abbrev KeyDecoder (κ : Type) := Location → DraftKey → Except Fault (κ × String)

/-- The entries of a map, as they are written. -/
def decodeMapEntries {κ α : Type} (decodeKey : KeyDecoder κ) (decode : Decoder α)
    (location : Location) : List (DraftKey × Json.Draft) → Except Fault (List (κ × α))
  | [] => .ok []
  | (key, draft) :: entries => do
    let (key, name) ← decodeKey location key
    let value ← decode (draft.locationUnder location name) draft
    let others ← decodeMapEntries decodeKey decode location entries
    return (key, value) :: others

/-- A map, in which a later value replaces an earlier one under the same key. -/
def decodeMap {κ α : Type} [BEq κ] (decodeKey : KeyDecoder κ) (decode : Decoder α) :
    Decoder (List (κ × α))
  | location, .object entries cut => do
    let entries ← decodeMapEntries decodeKey decode location entries
    orBreak (closed (location ++ [.unnamed]) cut)
    return Ordered.ofList entries
  | location, draft => .error (mismatch .map location draft)

/-- A key that is a code point. -/
def decodeCodepointKey : KeyDecoder Nat
  | location, key => do
    let text ← orBreak (key.read location)
    match Codepoint.ofValue (.string text) with
    | .ok codepoint => .ok (codepoint, text)
    | .error fault => .error ⟨location ++ [.field text], .codepoint fault⟩

/-- A key that is a natural number below a limit. -/
def decodeNatKey (route : Route) (limit : Nat) (shape : Shape) : KeyDecoder Nat
  | location, key =>
    let unnamed (cause : Cause) : Except Fault (Nat × String) :=
      .error ⟨location ++ [.unnamed], cause⟩
    let opensNumber :=
      match key.source with
      | [] => false
      | char :: _ => char = '-' || (Text.decimalDigit? char).isSome
    if !opensNumber then unnamed .keyNotNumeric
    else
      match NumberText.read key.source with
      | .error fault => unnamed (.syntaxFault fault)
      | .ok (.float value, _) => unnamed (.wrongType (.number (.float value)) shape)
      | .ok (.int value, rest) =>
        let name := Numeric.decimalInt value
        let named (cause : Cause) : Except Fault (Nat × String) :=
          .error ⟨location ++ [.field name], cause⟩
        if ¬ (0 ≤ value ∧ value < limit) then named (.outOfRange value shape)
        else
          match route, rest with
          | .text, '\"' :: _ => .ok (value.toNat, name)
          | .text, _ => named (.syntaxFault .expectedQuote)
          | .value, [] => .ok (value.toNat, name)
          | .value, _ :: _ => named .keyNotNumeric

/-- The fields of a record that is written as an object, folded into a state. -/
def decodeFields {σ : Type} (names : List String)
    (decode : String → Location → Json.Draft → σ → Except Fault σ) (location : Location)
    (cut : Option SyntaxFault) :
    (seen : List String) → List (DraftKey × Draft) → σ → Except Fault σ
  | _, [], state => do
    orBreak (closed (location ++ [.unnamed]) cut)
    return state
  | seen, (key, draft) :: entries, state => do
    let name ← orBreak (key.read location)
    if !names.contains name then
      .error ⟨location ++ [.field name], .unknownField name names⟩
    else if seen.contains name then .error ⟨location, .duplicateField name⟩
    else
      let state ← decode name (draft.locationUnder location name) draft state
      decodeFields names decode location cut (name :: seen) entries state

/-- A field that has to be there. -/
def requireField {α : Type} (location : Location) (name : String) : Option α → Except Fault α
  | some value => .ok value
  | none => .error ⟨location, .missingField name⟩

/-- An item of a record that is written as an array, if it is there. -/
def decodeItem? {α : Type} (decode : Decoder α) (location : Location) (items : List Json.Draft)
    (cut : Option SyntaxFault) (index : Nat) : Except Fault (Option α) :=
  match items[index]? with
  | some item => do return some (← decode (location ++ [.item index]) item)
  | none => do
    orBreak (closed location cut)
    return none

/-- An item that has to be there, of a record with a given number of items. -/
def decodeItem {α : Type} (decode : Decoder α) (location : Location) (items : List Json.Draft)
    (cut : Option SyntaxFault) (record : String) (count index : Nat) : Except Fault α := do
  match ← decodeItem? decode location items cut index with
  | some value => return value
  | none => .error ⟨location, .missingItem index record count⟩

/-- Whether an array ends behind the items of a record. -/
def endItems (route : Route) (location : Location) (items : List Json.Draft)
    (cut : Option SyntaxFault) (count : Nat) : Except Fault Unit :=
  if count < items.length then
    match route with
    | .text => .error ⟨location, .syntaxFault .trailingCharacters⟩
    | .value => .error ⟨location, .surplusItems items.length⟩
  else
    match cut with
    | none => .ok ()
    | some .unfinishedArray => .error ⟨location, .syntaxFault .unfinishedArray⟩
    | some .trailingComma => .error ⟨location, .syntaxFault .trailingComma⟩
    | some _ => .error ⟨location, .syntaxFault .trailingCharacters⟩

end FontCompiler.Manifest
