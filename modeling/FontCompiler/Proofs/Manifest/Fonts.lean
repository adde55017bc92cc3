import FontCompiler.Encoder.GlyphRange
import FontCompiler.Manifest.Font

/-!
# Laws of manifest fonts

A font has the fields of its manifest, and at first nothing is selected of it.
Its selected glyphs are listed without regard to the order of the selection.
The bytes of a glyph are as many as the width of the encoding says; two of them
are those that an encoder writes for a number of sixteen bits.
-/

namespace FontCompiler.Manifest

/-! ## Acceptance -/

/-- A font is that of a manifest whose label is an identifier, with nothing selected. -/
structure Accepts (document : Document) (font : ManifestFont) : Prop where
  identifier : Code.isIdentifier document.label = true
  fields : ∃ graph, font =
    ⟨document.label, document.encodingWidth, document.cmap,
      document.substitutions, document.ranges, graph, []⟩

theorem accepts_of_ofDocument {σ : Type} {read : Reader (StateM σ)}
    {base : String} {document : Document} {state : σ} {font : ManifestFont}
    (accepted :
      ((ManifestFont.ofDocument read base document).run state).1 = .ok font) :
    Accepts document font := by
  rw [ManifestFont.ofDocument] at accepted
  split at accepted
  · cases accepted
  · rename_i identifier
    rw [StateT.run_bind] at accepted
    rcases ran :
        (lowerEntries read base ["graph"] document.graph).run.run state with
      ⟨lowered, after⟩
    rw [ran] at accepted
    cases lowered with
    | error fault => cases accepted
    | ok graph =>
        cases accepted
        exact ⟨by simpa using identifier, graph, rfl⟩

theorem run_ofDocument_of_empty {σ : Type} (read : Reader (StateM σ))
    (base : String) {document : Document} (state : σ)
    (identifier : Code.isIdentifier document.label = true)
    (empty : document.graph = []) :
    (ManifestFont.ofDocument read base document).run state =
      (.ok ⟨document.label, document.encodingWidth, document.cmap,
        document.substitutions, document.ranges, [], []⟩, state) := by
  rw [ManifestFont.ofDocument, identifier, empty]
  rfl

/-! ## Selected glyphs -/

@[simp]
theorem mem_dropRepeated (item : Nat) :
    ∀ items : List Nat, item ∈ dropRepeated items ↔ item ∈ items
  | [] => Iff.rfl
  | [_] => Iff.rfl
  | first :: next :: items => by
      have others := mem_dropRepeated item (next :: items)
      rw [dropRepeated]
      by_cases repeated : first = next
      · subst repeated
        rw [if_pos (beq_self_eq_true first), others]
        simp
      · rw [if_neg (by simpa using repeated), List.mem_cons, others,
          ← List.mem_cons]

@[simp]
theorem mem_ascending {item : Nat} (items : List Nat) :
    item ∈ ascending items ↔ item ∈ items := by
  rw [ascending, mem_dropRepeated, List.mem_mergeSort]

@[simp]
theorem mem_selectedGlyphs {font : ManifestFont} {number : Nat} :
    number ∈ font.selectedGlyphs ↔
      ∃ glyph codepoint, (glyph, codepoint) ∈ font.selected ∧
        glyph.toNat = number := by
  rw [ManifestFont.selectedGlyphs, mem_ascending, List.mem_map, Prod.exists]

/-! ## Bytes of glyphs -/

@[simp]
theorem length_encodeGlyph (width : Nat) (glyph : Font.GlyphId) :
    (encodeGlyph width glyph).length = width := by
  rw [encodeGlyph]
  split
  · rename_i narrow
    rw [List.length_drop, glyphBytes]
    exact Nat.sub_sub_self narrow
  · rename_i wide
    rw [List.length_append, List.length_replicate, glyphBytes]
    exact Nat.sub_add_cancel (Nat.le_of_not_le wide)

theorem encodeGlyph_two {glyph : Font.GlyphId} {id : UInt16}
    (number : glyph.toNat = id.toNat) :
    encodeGlyph 2 glyph = Encoder.glyphBytes id := by
  -- the bytes that stay are the lower two, and they depend on the number only
  have high : (glyph >>> 8).toUInt8 = (id >>> 8).toUInt8 := by
    apply UInt8.toNat.inj
    simp [number]
  have low : glyph.toUInt8 = id.toUInt8 := by
    apply UInt8.toNat.inj
    simp [number]
  rw [Encoder.glyphBytes, ← high, ← low]
  rfl

end FontCompiler.Manifest
