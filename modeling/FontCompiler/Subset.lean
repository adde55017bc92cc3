import FontCompiler.Encoder.Source
import FontCompiler.Factory
import FontCompiler.Font.Service

/-!
# Subsets of fonts

A subset is a font together with the glyph ranges that were requested of it.  A
request maps every code point of an interval through the font; it fails at the
first code point that does not get exactly one glyph of two bytes, and then no
range is added.  The code points before the failing one stay selected.

A subset is compiled into the factory of its object graph followed by the
encoder of its ranges.
-/

namespace FontCompiler

open Font Encoder

/-- Why the code points of a request cannot be encoded, two bytes to a glyph. -/
inductive RequestFault
  | invalidRange (first last : Nat)
  | outsideBasicPlane (first last : Nat)
  | unmappedCodepoint (codepoint : Nat)
  | multipleGlyphs (codepoint count : Nat)
  | glyphEncodingWidth (codepoint : Nat) (glyph : GlyphId) (width : Nat)
  | glyphOutOfRange (codepoint : Nat) (glyph : GlyphId)
  deriving DecidableEq, Repr

namespace RequestFault

/-- The notation of a code point. -/
def codepointText (codepoint : Nat) : String :=
  "U+" ++ Text.upperHex 4 codepoint

/-- The wording of a fault. -/
def message : RequestFault → String
  | .invalidRange first last =>
    "invalid character range " ++ codepointText first ++ ".." ++ codepointText last
  | .outsideBasicPlane first last =>
    "Unsupported range " ++ codepointText first ++ ".." ++ codepointText last ++
      ": the encoder works on UTF-16 code units up to U+FFFF"
  | .unmappedCodepoint codepoint =>
    "character " ++ codepointText codepoint ++ " is not mapped by the font"
  | .multipleGlyphs codepoint count =>
    "Unsupported font: it requires " ++ Numeric.decimalDigits count ++
      " glyphs for character " ++ codepointText codepoint
  | .glyphEncodingWidth codepoint glyph width =>
    "Unsupported font: glyph " ++ Numeric.decimalDigits glyph.toNat ++ " is encoded into " ++
      Numeric.decimalDigits width ++ " bytes (character " ++ codepointText codepoint ++ ")"
  | .glyphOutOfRange codepoint glyph =>
    "Unsupported font: glyph " ++ Numeric.decimalDigits glyph.toNat ++
      " does not fit into 16 bits (character " ++ codepointText codepoint ++ ")"

end RequestFault

/-- A font and the ranges that were requested of it, in order. -/
structure Subset (F : Type) where
  font : F
  ranges : List GlyphRange

/-- Why a subset has no generated code. -/
inductive CompileFault
  | font (failure : SubsetFailure)
  | factory (refusal : Factory.Refusal)
  deriving DecidableEq, Repr

/-- The wording of a fault. -/
def CompileFault.message : CompileFault → String
  | .font failure => failure.message
  | .factory refusal => refusal.message

/-- The generated code of a font. -/
structure CompiledFont where
  label : String
  source : String
  sidecars : List Factory.Sidecar
  deriving DecidableEq, Repr

namespace Subset

variable {F : Type} [Service F]

/-- The subset of a font of which nothing was requested. -/
def ofFont (font : F) : Subset F := ⟨font, []⟩

/-- The only glyph of a code point and its number in sixteen bits. -/
def soleGlyph (font : F) (codepoint : Nat) : Except RequestFault (GlyphId × UInt16) :=
  match Service.glyphId font codepoint with
  | none => .error (.unmappedCodepoint codepoint)
  | some glyph =>
    match Service.substitute font [glyph] with
    | [glyph] =>
      let width := (Service.encodeGlyphId font glyph).length
      if width ≠ 2 then .error (.glyphEncodingWidth codepoint glyph width)
      else if glyph.toNat < UInt16.size then .ok (glyph, UInt16.ofNat glyph.toNat)
      else .error (.glyphOutOfRange codepoint glyph)
    | glyphs => .error (.multipleGlyphs codepoint glyphs.length)

/-- Selects the glyphs of `count` code points from one on, up to the first fault; the
glyphs before them are given, the latest first. -/
def selectGlyphs : (count : Nat) → (codepoint : Nat) → (selected : List UInt16) → F →
    F × Except RequestFault (List UInt16)
  | 0, _, selected, font => (font, .ok selected.reverse)
  | count + 1, codepoint, selected, font =>
    match soleGlyph font codepoint with
    | .error fault => (font, .error fault)
    | .ok (glyph, id) =>
      selectGlyphs count (codepoint + 1) (id :: selected)
        (Service.addToSubset font glyph codepoint)

/-- The outcome of a request: the subset after it, the fault if it failed, and its records. -/
structure Request (F : Type) where
  subset : Subset F
  fault : Option RequestFault
  records : List Log.Record

/-- Requests the code points from `first` to `last`. -/
def request (subset : Subset F) (first last : Nat) : Request F :=
  if last < first then ⟨subset, some (.invalidRange first last), []⟩
  else if 0xFFFF < last then ⟨subset, some (.outsideBasicPlane first last), []⟩
  else
    match selectGlyphs (last - first + 1) first [] subset.font with
    | (font, .error fault) => ⟨{ subset with font := font }, some fault, []⟩
    | (font, .ok glyphs) =>
      ⟨⟨font, subset.ranges ++ [⟨first, last, glyphs⟩]⟩, none,
        [⟨.debug, .subset,
          "added " ++ RequestFault.codepointText first ++ ".." ++ RequestFault.codepointText last ++
            " (" ++ Numeric.decimalDigits glyphs.length ++ " glyphs)"⟩]⟩

/-- The outcome of a compilation: the subset after it, its result, and its records. -/
structure Compilation (F α : Type) where
  subset : Subset F
  result : Except CompileFault α
  records : List Log.Record

/-- The factory of the reduced font. -/
def compileFactory (subset : Subset F) (label : String) :
    Compilation F (String × List Factory.Sidecar) :=
  let reduction := Service.reduce subset.font
  let subset := { subset with font := reduction.font }
  match reduction.failure with
  | some failure => ⟨subset, .error (.font failure), reduction.records⟩
  | none =>
    match Factory.compile (Service.objectGraph reduction.font) label with
    | .error stop =>
      ⟨subset, .error (.factory stop.refusal), reduction.records ++ stop.records⟩
    | .ok product =>
      ⟨subset, .ok (product.source, product.sidecars), reduction.records ++ product.records⟩

/-- The generated code of the font: its factory, then its encoder. -/
def compile (subset : Subset F) (label : String) : Compilation F CompiledFont :=
  let compilation := subset.compileFactory label
  match compilation.result with
  | .error fault => ⟨compilation.subset, .error fault, compilation.records⟩
  | .ok (source, sidecars) =>
    ⟨compilation.subset,
      .ok ⟨label, source ++ Encoder.source label subset.ranges, sidecars⟩,
      compilation.records ++
        [tablesRecord label subset.ranges,
          ⟨.info, .subset,
            "compiled " ++ label ++ ": " ++ Numeric.decimalDigits subset.ranges.length ++
              " ranges, " ++ Numeric.decimalDigits sidecars.length ++ " sidecars"⟩]⟩

end Subset

end FontCompiler
