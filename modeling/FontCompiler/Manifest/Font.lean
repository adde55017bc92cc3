import FontCompiler.Manifest.Document
import FontCompiler.Manifest.Lowering
import FontCompiler.Code

/-!
# Manifest fonts

A font that answers from its manifest.  The graph of a manifest belongs to the
reduced font already, so reducing the font only reports what is selected.
-/

namespace FontCompiler.Manifest

open Font FontCompiler.Graph Json

/-- Why a font cannot be loaded. -/
inductive LoadFault
  | unreadable (path : String) (failure : Files.Failure)
  | document (fault : Fault)
  | invalidLabel (label : String)
  | graph (pointer : Pointer) (violation : Violation)

/-- The wording of a fault. -/
def LoadFault.message : LoadFault → String
  | .unreadable path failure => "failed to read " ++ path ++ ": " ++ failure.message
  | .document fault => fault.message
  | .invalidLabel label => "font label `" ++ label ++ "` is not a valid identifier"
  | .graph pointer violation =>
    "graph node at " ++ pointerText pointer ++ ": " ++ violation.message

/-- The same fault as a fault of loading. -/
def LoadFault.ofLowering : LoweringFault → LoadFault
  | .violation pointer violation => .graph pointer violation
  | .unreadable path failure => .unreadable path failure

/-- A font that answers from its manifest. -/
structure ManifestFont where
  label : String
  encodingWidth : Nat
  cmap : List (Nat × GlyphId)
  substitutions : List (GlyphId × List GlyphId)
  ranges : List CharacterRange
  graph : Dictionary
  /-- The selected glyphs with their code points, the latest first. -/
  selected : List (GlyphId × Nat)

/-- Drops every item that equals the one in front of it. -/
def dropRepeated {α : Type} [BEq α] : List α → List α
  | [] => []
  | [item] => [item]
  | item :: next :: items =>
    if item == next then dropRepeated (next :: items) else item :: dropRepeated (next :: items)

/-- The members of a list in ascending order, without repetition. -/
def ascending (items : List Nat) : List Nat :=
  dropRepeated (items.mergeSort fun left right => left ≤ right)

/-- The bytes of a glyph, the highest first. -/
def glyphBytes (glyph : GlyphId) : List UInt8 :=
  [(glyph >>> 24).toUInt8, (glyph >>> 16).toUInt8, (glyph >>> 8).toUInt8, glyph.toUInt8]

/-- The bytes of a glyph in a given width: the lowest bytes, or zeros in front of all. -/
def encodeGlyph (width : Nat) (glyph : GlyphId) : List UInt8 :=
  if width ≤ 4 then (glyphBytes glyph).drop (4 - width)
  else List.replicate (width - 4) 0 ++ glyphBytes glyph

namespace ManifestFont

/-- The selected glyphs in ascending order. -/
def selectedGlyphs (font : ManifestFont) : List Nat :=
  ascending (font.selected.map fun pair => pair.1.toNat)

/-- The selected code points in ascending order. -/
def selectedCodepoints (font : ManifestFont) : List Nat :=
  ascending (font.selected.map Prod.snd)

/-- The record of a reduction. -/
def reductionRecord (font : ManifestFont) : Log.Record :=
  ⟨.info, .manifest,
    "subset " ++ font.label ++ ": " ++ Numeric.decimalDigits font.selectedGlyphs.length ++
      " glyphs for " ++ Numeric.decimalDigits font.selectedCodepoints.length ++ " codepoints"⟩

instance : Service ManifestFont where
  glyphId font codepoint := Ordered.get? codepoint font.cmap
  substitute font glyphs :=
    glyphs.flatMap fun glyph => (Ordered.get? glyph font.substitutions).getD [glyph]
  encodeGlyphId font glyph := encodeGlyph font.encodingWidth glyph
  addToSubset font glyph codepoint :=
    { font with selected := (glyph, codepoint) :: font.selected }
  reduce font := ⟨font, none, [font.reductionRecord]⟩
  objectGraph font := font.graph

/-- The record of a loaded font. -/
def loadedRecord (font : ManifestFont) : Log.Record :=
  ⟨.debug, .manifest,
    "loaded manifest " ++ font.label ++ " (" ++ Numeric.decimalDigits font.cmap.length ++
      " cmap entries, " ++ Numeric.decimalDigits font.ranges.length ++ " ranges)"⟩

section

variable {m : Type → Type} [Monad m]

/-- The font of a manifest, whose files are relative to a directory. -/
def ofDocument (read : Reader m) (base : String) (document : Document) :
    m (Except LoadFault ManifestFont) := do
  if !Code.isIdentifier document.label then return .error (.invalidLabel document.label)
  match ← (lowerEntries read base ["graph"] document.graph).run with
  | .error fault => return .error (.ofLowering fault)
  | .ok graph =>
    return .ok ⟨document.label, document.encodingWidth, document.cmap, document.substitutions,
      document.ranges, graph, []⟩

/-- The font of the manifest that a value denotes. -/
def ofValue (read : Reader m) (base : String) (value : Value) :
    m (Except LoadFault ManifestFont) :=
  match Document.ofValue value with
  | .error fault => return .error (.document fault)
  | .ok document => ofDocument read base document

/-- The font of the manifest that a text begins with. -/
def ofText (read : Reader m) (base : String) (text : String) :
    m (Except LoadFault ManifestFont) :=
  match Document.ofText text with
  | .error fault => return .error (.document fault)
  | .ok document => ofDocument read base document

/-- The font of the manifest in a file, whose own files are relative to its directory. -/
def load (system : Files.System m) (path : String) : m (Except LoadFault ManifestFont) := do
  match ← system.readText path with
  | .error failure => return .error (.unreadable path failure)
  | .ok text => ofText system.readBytes (Files.directoryOf path) text

end

end ManifestFont

end FontCompiler.Manifest
