import FontCompiler.Graph.Node
import FontCompiler.Log

/-!
# Font services

The compiler sees a font through a service: the glyph of a code point, the
substitution of glyphs, the bytes of a glyph in a content stream, and the
selection of a subset, after which the object graph of the font can be read.
-/

namespace FontCompiler.Font

open FontCompiler.Graph

/-- The number of a glyph in a font. -/
abbrev GlyphId := UInt32

/-- A font that cannot be reduced to its selected glyphs. -/
structure SubsetFailure where
  font : String
  reason : String
  deriving DecidableEq, Repr

/-- The wording of a failure. -/
def SubsetFailure.message (failure : SubsetFailure) : String :=
  "subsetting " ++ failure.font ++ " failed: " ++ failure.reason

/-- The outcome of the reduction of a font to its selected glyphs. -/
structure Reduction (F : Type) where
  font : F
  failure : Option SubsetFailure
  records : List Log.Record

/-- What a font answers to the compiler. -/
class Service (F : Type) where
  /-- The glyph of a code point. -/
  glyphId : F → Nat → Option GlyphId
  /-- The run of glyphs that a run of glyphs is replaced by. -/
  substitute : F → List GlyphId → List GlyphId
  /-- The bytes of a glyph in a content stream. -/
  encodeGlyphId : F → GlyphId → List UInt8
  /-- Adds a glyph and the code point it stands for to the selection. -/
  addToSubset : F → GlyphId → Nat → F
  /-- Reduces the font to the selection. -/
  reduce : F → Reduction F
  /-- The root dictionary of the font. -/
  objectGraph : F → Dictionary

end FontCompiler.Font
