import FontCompiler.Text.Hex
import FontCompiler.Text.Utf16

/-!
# Glyph ranges

A glyph range maps contiguous code points to glyphs, one glyph each.  A list of
ranges encodes text: every sixteen-bit unit is looked up in the first range
that contains it, and its glyph is written as two bytes, the high one first.

Surrogates are units like any other.  Nothing is written for a text in which
some unit has no glyph.
-/

namespace FontCompiler.Encoder

/-- Contiguous code points and their glyphs, in order. -/
structure GlyphRange where
  first : Nat
  last : Nat
  glyphs : List UInt16
  deriving DecidableEq, Repr

namespace GlyphRange

/-- Whether the bounds are in order and there is exactly one glyph per code point. -/
def isExact (range : GlyphRange) : Bool :=
  range.first ≤ range.last && range.glyphs.length == range.last - range.first + 1

/-- The range of given bounds and glyphs, if there is exactly one glyph per code point. -/
def ofGlyphs? (first last : Nat) (glyphs : List UInt16) : Option GlyphRange :=
  let range : GlyphRange := ⟨first, last, glyphs⟩
  if range.isExact then some range else none

/-- Whether a code point lies between the bounds. -/
def contains (range : GlyphRange) (codepoint : Nat) : Bool :=
  range.first ≤ codepoint && codepoint ≤ range.last

/-- The glyph of a code point. -/
def glyph? (range : GlyphRange) (codepoint : Nat) : Option UInt16 :=
  if range.contains codepoint then range.glyphs[codepoint - range.first]? else none

/-- The name of the generated table of the range. -/
def tableName (label : String) (range : GlyphRange) : String :=
  "GlyphIndexes" ++ label ++ "_" ++ Text.lowerHex 4 range.first ++ "_" ++
    Text.lowerHex 4 range.last

end GlyphRange

/-- The glyph of a code point in the first range that contains it. -/
def lookup (ranges : List GlyphRange) (codepoint : Nat) : Option UInt16 :=
  match ranges.find? (·.contains codepoint) with
  | some range => range.glyph? codepoint
  | none => none

/-- A unit without a glyph, and its position among the units of the text. -/
structure UnmappedUnit where
  codepoint : Nat
  position : Nat
  font : String
  deriving DecidableEq, Repr

/-- The wording of an unmapped unit. -/
def UnmappedUnit.message (unmapped : UnmappedUnit) : String :=
  "Character U+" ++ Text.upperHex 4 unmapped.codepoint ++ " at position " ++
    String.ofList (Nat.toDigits 10 unmapped.position) ++ " is not part of the font " ++
    unmapped.font

/-- The two bytes of a glyph, the high one first. -/
def glyphBytes (glyph : UInt16) : List UInt8 :=
  [(glyph >>> 8).toUInt8, glyph.toUInt8]

/-- The bytes of a row of units, the first of which has a given position. -/
def encodeUnits (label : String) (ranges : List GlyphRange) :
    (position : Nat) → List Nat → Except UnmappedUnit (List UInt8)
  | _, [] => .ok []
  | position, unit :: units =>
    match lookup ranges unit with
    | none => .error ⟨unit, position, label⟩
    | some glyph => do
      let bytes ← encodeUnits label ranges (position + 1) units
      return glyphBytes glyph ++ bytes

/-- The bytes of a text. -/
def encodeText (label : String) (ranges : List GlyphRange) (text : String) :
    Except UnmappedUnit (List UInt8) :=
  encodeUnits label ranges 0 (Text.utf16 text)

end FontCompiler.Encoder
