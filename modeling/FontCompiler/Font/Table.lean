import FontCompiler.Font.Service
import FontCompiler.Ordered

/-!
# Table fonts

A font that is given by tables: code points are mapped by intervals, glyphs are
replaced by lists, and chosen glyphs have byte sequences of their own.  It
records what it is asked to select and how often it is reduced.
-/

namespace FontCompiler.Font

open FontCompiler.Graph

/-- An interval of code points, mapped to consecutive glyphs. -/
structure MappedInterval where
  first : Nat
  last : Nat
  glyph : GlyphId
  deriving DecidableEq, Repr

/-- A font given by tables. -/
structure TableFont where
  cmap : List MappedInterval
  substitutions : List (GlyphId × List GlyphId)
  encodings : List (GlyphId × List UInt8)
  failure : Option SubsetFailure
  graph : Dictionary
  /-- The selected glyphs with their code points, the latest first. -/
  selected : List (GlyphId × Nat)
  /-- How often the font was reduced. -/
  reductions : Nat
  deriving Repr

namespace TableFont

/-- The two low bytes of a glyph, the high one first. -/
def defaultBytes (glyph : GlyphId) : List UInt8 :=
  [(glyph >>> 8).toUInt8, glyph.toUInt8]

instance : Service TableFont where
  glyphId font codepoint :=
    (font.cmap.find? fun interval =>
      interval.first ≤ codepoint && codepoint ≤ interval.last).map fun interval =>
        interval.glyph + UInt32.ofNat (codepoint - interval.first)
  substitute font glyphs :=
    glyphs.flatMap fun glyph => (Ordered.get? glyph font.substitutions).getD [glyph]
  encodeGlyphId font glyph := (Ordered.get? glyph font.encodings).getD (defaultBytes glyph)
  addToSubset font glyph codepoint :=
    { font with selected := (glyph, codepoint) :: font.selected }
  reduce font := ⟨{ font with reductions := font.reductions + 1 }, font.failure, []⟩
  objectGraph font := font.graph

end TableFont

end FontCompiler.Font
