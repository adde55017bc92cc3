import FontCompiler.Font.Service
import FontCompiler.Manifest.Decoding

/-!
# Manifest documents

The document that describes one font: its label, its character map, the glyph
substitutions, the width of its encoding, the ranges to embed, and its object
graph in JSON notation.

A manifest is written as an object with these fields or as the array of the
fields in order.  A character range is written as an object with two fields or
as the array of both.
-/

namespace FontCompiler.Manifest

open Json Font

/-- An interval of code points to embed. -/
structure CharacterRange where
  first : Nat
  last : Nat
  deriving DecidableEq, Repr

/-- A font description. -/
structure Document where
  label : String
  /-- The number of bytes of an encoded glyph. -/
  encodingWidth : Nat
  cmap : List (Nat × GlyphId)
  substitutions : List (GlyphId × List GlyphId)
  ranges : List CharacterRange
  graph : List (String × Value)

/-- The number of bytes of an encoded glyph where a manifest does not say. -/
def defaultEncodingWidth : Nat := 2

/-- The names of the fields of a range. -/
def rangeFields : List String := ["first", "last"]

/-- The names of the fields of a manifest. -/
def documentFields : List String :=
  ["label", "encoding_width", "cmap", "substitutions", "ranges", "graph"]

/-- The bounds of a range, as far as they are known. -/
structure PartialRange where
  first : Option Nat
  last : Option Nat

/-- A bound of a range. -/
def decodeRangeField (name : String) (location : Location) (draft : Json.Draft)
    (range : PartialRange) : Except Fault PartialRange := do
  let codepoint ← decodeCodepoint location draft
  if name = "first" then return { range with first := some codepoint }
  else return { range with last := some codepoint }

/-- A character range. -/
def decodeRange (route : Route) : Decoder CharacterRange
  | location, .array items cut => do
    let first ← decodeItem decodeCodepoint location items cut "CharacterRange" 2 0
    let last ← decodeItem decodeCodepoint location items cut "CharacterRange" 2 1
    endItems route location items cut 2
    return ⟨first, last⟩
  | location, .object entries cut => do
    let range ← decodeFields rangeFields decodeRangeField location cut [] entries ⟨none, none⟩
    let first ← requireField location "first" range.first
    let last ← requireField location "last" range.last
    return ⟨first, last⟩
  | location, draft => .error (mismatch (.record "CharacterRange") location draft)

/-- The number of a glyph. -/
def decodeGlyph : Decoder GlyphId
  | location, draft => do
    return UInt32.ofNat (← decodeNat Codepoint.wordLimit .word32 location draft)

/-- The number of a glyph as a key. -/
def decodeGlyphKey (route : Route) : KeyDecoder GlyphId
  | location, key => do
    let (glyph, name) ← decodeNatKey route Codepoint.wordLimit .word32 location key
    return (UInt32.ofNat glyph, name)

/-- The width of an encoding. -/
def decodeWidth : Decoder Nat :=
  decodeNat UInt64.size .size

/-- A character map. -/
def decodeCmap : Decoder (List (Nat × GlyphId)) :=
  decodeMap decodeCodepointKey decodeGlyph

/-- A map of substitutions. -/
def decodeSubstitutions (route : Route) : Decoder (List (GlyphId × List GlyphId)) :=
  decodeMap (decodeGlyphKey route) (decodeSequence decodeGlyph)

/-- The ranges of a manifest. -/
def decodeRanges (route : Route) : Decoder (List CharacterRange) :=
  decodeSequence (decodeRange route)

/-- A graph in JSON notation. -/
def decodeGraph : Decoder (List (String × Value))
  | location, .object entries cut => orBreak (Json.Draft.completeObject location entries cut)
  | location, draft => .error (mismatch .map location draft)

/-- The fields of a manifest, as far as they are known. -/
structure PartialDocument where
  label : Option String
  encodingWidth : Option Nat
  cmap : Option (List (Nat × GlyphId))
  substitutions : Option (List (GlyphId × List GlyphId))
  ranges : Option (List CharacterRange)
  graph : Option (List (String × Value))

/-- Nothing known. -/
def PartialDocument.empty : PartialDocument :=
  ⟨none, none, none, none, none, none⟩

/-- A field of a manifest. -/
def decodeDocumentField (route : Route) (name : String) (location : Location)
    (draft : Json.Draft) (document : PartialDocument) : Except Fault PartialDocument := do
  if name = "label" then
    return { document with label := some (← decodeText location draft) }
  else if name = "encoding_width" then
    return { document with encodingWidth := some (← decodeWidth location draft) }
  else if name = "cmap" then
    return { document with cmap := some (← decodeCmap location draft) }
  else if name = "substitutions" then
    return { document with substitutions := some (← decodeSubstitutions route location draft) }
  else if name = "ranges" then
    return { document with ranges := some (← decodeRanges route location draft) }
  else
    return { document with graph := some (← decodeGraph location draft) }

/-- A manifest. -/
def decodeDocument (route : Route) : Decoder Document
  | location, .array items cut => do
    let required {α : Type} (decode : Decoder α) (index : Nat) : Except Fault α :=
      decodeItem decode location items cut "Manifest" 6 index
    let optional {α : Type} (decode : Decoder α) (index : Nat) : Except Fault (Option α) :=
      decodeItem? decode location items cut index
    let label ← required decodeText 0
    let encodingWidth ← optional decodeWidth 1
    let cmap ← required decodeCmap 2
    let substitutions ← optional (decodeSubstitutions route) 3
    let ranges ← optional (decodeRanges route) 4
    let graph ← required decodeGraph 5
    endItems route location items cut 6
    return ⟨label, encodingWidth.getD defaultEncodingWidth, cmap, substitutions.getD [],
      ranges.getD [], graph⟩
  | location, .object entries cut => do
    let document ←
      decodeFields documentFields (decodeDocumentField route) location cut [] entries .empty
    let label ← requireField location "label" document.label
    let cmap ← requireField location "cmap" document.cmap
    let graph ← requireField location "graph" document.graph
    return ⟨label, document.encodingWidth.getD defaultEncodingWidth, cmap,
      document.substitutions.getD [], document.ranges.getD [], graph⟩
  | location, draft => .error (mismatch (.record "Manifest") location draft)

/-- The manifest that a text begins with. -/
def Document.ofText (text : String) : Except Fault Document :=
  decodeDocument .text [] (Json.Draft.read text).1

/-- The manifest that a value denotes. -/
def Document.ofValue (value : Value) : Except Fault Document :=
  decodeDocument .value [] (Json.Draft.ofValue value)

/-- The code point that a value denotes. -/
def codepointOfValue (value : Value) : Except Fault Nat :=
  decodeCodepoint [] (Json.Draft.ofValue value)

/-- The character range that a value denotes. -/
def CharacterRange.ofValue (value : Value) : Except Fault CharacterRange :=
  decodeRange .value [] (Json.Draft.ofValue value)

end FontCompiler.Manifest
