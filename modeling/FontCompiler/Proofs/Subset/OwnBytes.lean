import FontCompiler.Proofs.Manifest.Fonts
import FontCompiler.Proofs.Subset.Selection
import FontCompiler.Proofs.Text.Utf16

/-!
# The bytes of a font

A font writes a glyph in as many bytes as the width of its encoding says, and an
encoder writes the number of a glyph in two.  No range is added unless each of
its glyphs takes two bytes and has a number of sixteen bits, so that an encoder
writes what the font itself would write, and one of a font of any other width
writes nothing at all.
-/

namespace FontCompiler.Subset

open Font Encoder Manifest

/-- The bytes that a font itself gives for a unit, if it substitutes only one glyph for it. -/
def ownBytes {F : Type} [Service F] (font : F) (unit : Nat) :
    Option (List UInt8) :=
  match substituted font unit with
  | [sole] => some (Service.encodeGlyphId font sole)
  | _ => none

variable {font : ManifestFont}

theorem Chooses.encodingWidth {codepoint : Nat} {sole : GlyphId} {id : UInt16}
    (chooses : Chooses font codepoint sole id) : font.encodingWidth = 2 := by
  rw [← length_encodeGlyph font.encodingWidth sole]
  exact chooses.width

theorem Chooses.ownBytes {codepoint : Nat} {sole : GlyphId} {id : UInt16}
    (chooses : Chooses font codepoint sole id) :
    Subset.ownBytes font codepoint = some (Encoder.glyphBytes id) := by
  have written : encodeGlyph font.encodingWidth sole = Encoder.glyphBytes id := by
    rw [chooses.encodingWidth]
    exact encodeGlyph_two chooses.number
  rw [Subset.ownBytes, chooses.only, ← written]
  rfl

theorem mapM_ownBytes {units : List Nat} {glyphs : List UInt16}
    (own : List.Forall₂
      (fun unit glyph => ownBytes font unit = some (Encoder.glyphBytes glyph))
      units glyphs) :
    units.mapM (ownBytes font) = some (glyphs.map Encoder.glyphBytes) := by
  induction own with
  | nil => rfl
  | cons first others ih =>
      rw [List.mapM_cons, first, ih]
      rfl

/-- Every range has a glyph, so that the encoding is two bytes wide if there is any. -/
theorem encodingWidth_of_mem_ranges {requests : List (Nat × Nat)}
    {range : GlyphRange}
    (member : range ∈ ((ofFont font).requestAll requests).ranges) :
    font.encodingWidth = 2 := by
  have faithful := (faithful_run steady_manifestFont font requests).1
  have ordered := (GlyphRange.isExact_iff.mp (faithful.exact range member)).1
  have contained : range.contains range.first = true :=
    GlyphRange.contains_iff.mpr ⟨Nat.le_refl _, ordered⟩
  rcases (exists_lookup_iff faithful.exact).mpr ⟨range, member, contained⟩ with
    ⟨id, found⟩
  rcases faithful.exists_chooses_of_lookup found with ⟨sole, chooses⟩
  exact chooses.encodingWidth

theorem fault_isSome_of_answers (width : font.encodingWidth ≠ 2)
    {requests : List (Nat × Nat)} {answer : (Nat × Nat) × Option RequestFault}
    (answered : answer ∈ (ofFont font).answers requests) :
    answer.2.isSome = true := by
  rcases answer with ⟨request, fault | fault⟩
  · have member := (mem_successes_iff requests _).mpr answered
    rw [← (faithful_run steady_manifestFont font requests).2, List.mem_map]
      at member
    rcases member with ⟨range, member, -⟩
    exact absurd (encodingWidth_of_mem_ranges member) width
  · rfl

/--
An encoder writes what the font itself would write.  Whatever was requested of a
manifest font, the bytes of a text are those that the font gives for the units
one after the other, each unit through its only substituted glyph.  Where the
width of the encoding is not two bytes, every request fails, and every text but
the empty one is refused for its first unit.
-/
theorem encodeText_eq_ownBytes (font : ManifestFont)
    (requests : List (Nat × Nat)) :
    (∀ label text bytes,
      encodeText label ((ofFont font).requestAll requests).ranges text =
          .ok bytes →
        ((Text.utf16 text).mapM (ownBytes font)).map List.flatten =
          some bytes) ∧
      (font.encodingWidth ≠ 2 →
        (∀ answer ∈ (ofFont font).answers requests, answer.2.isSome = true) ∧
          ∀ label text, text ≠ "" →
            ∃ unit units, Text.utf16 text = unit :: units ∧
              encodeText label ((ofFont font).requestAll requests).ranges
                  text =
                .error ⟨unit, 0, label⟩) := by
  constructor
  · intro label text bytes encoded
    rcases exists_found_of_encodeText encoded with ⟨glyphs, found, rfl⟩
    have faithful := (faithful_run steady_manifestFont font requests).1
    have own :
        (Text.utf16 text).mapM (ownBytes font) =
          some (glyphs.map Encoder.glyphBytes) := by
      refine mapM_ownBytes (found.imp ?_)
      intro unit glyph mapped
      rcases faithful.exists_chooses_of_lookup mapped with ⟨sole, chooses⟩
      exact chooses.ownBytes
    rw [own, List.flatMap_def]
    rfl
  · intro width
    refine ⟨fun answer => fault_isSome_of_answers width, ?_⟩
    intro label text nonempty
    have noRange : ((ofFont font).requestAll requests).ranges = [] := by
      apply List.eq_nil_iff_forall_not_mem.mpr
      intro range member
      exact width (encodingWidth_of_mem_ranges member)
    rcases Text.exists_utf16_of_ne_empty nonempty with ⟨unit, units, row⟩
    refine ⟨unit, units, row, ?_⟩
    rw [encodeText, row, noRange]
    rfl

/-- A font that replaces the glyph of `F`, with a given number of bytes to a glyph. -/
def fractionFont (width : Nat) : ManifestFont :=
  ⟨"Fraction", width, [(0x45, 36), (0x46, 70)], [(70, [0x125])], [], [], []⟩

/-- The encoder of the font writes the two bytes of the font, and none of one byte only. -/
theorem encodeText_eq_ownBytes_fractionFont :
    (encodeText "Fraction"
          ((ofFont (fractionFont 2)).requestAll [(0x45, 0x46)]).ranges "FE" =
        .ok [1, 0x25, 0, 36] ∧
      ((Text.utf16 "FE").mapM (ownBytes (fractionFont 2))).map List.flatten =
        some [1, 0x25, 0, 36]) ∧
      (fractionFont 1).encodingWidth ≠ 2 ∧ "FE" ≠ "" ∧
      ∃ unit units, Text.utf16 "FE" = unit :: units ∧
        encodeText "Fraction"
            ((ofFont (fractionFont 1)).requestAll [(0x45, 0x46)]).ranges "FE" =
          .error ⟨unit, 0, "Fraction"⟩ := by
  have encoded :
      encodeText "Fraction"
          ((ofFont (fractionFont 2)).requestAll [(0x45, 0x46)]).ranges "FE" =
        .ok [1, 0x25, 0, 36] := by
    decide +kernel
  have narrow : (fractionFont 1).encodingWidth ≠ 2 := by decide
  have nonempty : "FE" ≠ "" := by decide
  have own := (encodeText_eq_ownBytes (fractionFont 2) [(0x45, 0x46)]).1
  have refused := (encodeText_eq_ownBytes (fractionFont 1) [(0x45, 0x46)]).2
  refine ⟨⟨encoded, own _ _ _ encoded⟩, narrow, nonempty, ?_⟩
  exact (refused narrow).2 "Fraction" "FE" nonempty

end FontCompiler.Subset
