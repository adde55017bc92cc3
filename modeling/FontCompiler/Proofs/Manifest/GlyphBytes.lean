import FontCompiler.Proofs.Manifest.Fonts
import Mathlib.Data.Nat.Digits.Defs

/-!
# The number in the bytes of a glyph

A glyph has four bytes of its own, and an encoding of any width asks for as many
bytes as it is wide.  A narrow one drops bytes in front and a wide one puts zeros
there, and both obey one law: the bytes are the number of the glyph modulo the
numbers of that width, the highest byte first.
-/

namespace FontCompiler.Manifest

open Font

/-- The number that a row of bytes stands for, the highest byte first. -/
def bigEndian (bytes : List UInt8) : Nat :=
  Nat.ofDigits 256 (bytes.reverse.map UInt8.toNat)

theorem lt_of_mem_map_toNat {bytes : List UInt8} :
    ∀ digit ∈ bytes.map UInt8.toNat, digit < 256 := by
  rw [List.forall_mem_map]
  exact fun byte _ => byte.toNat_lt

/-- Rows of one length are told apart by their numbers. -/
theorem eq_of_bigEndian {bytes others : List UInt8} (length : bytes.length = others.length)
    (same : bigEndian bytes = bigEndian others) : bytes = others := by
  have digits : bytes.reverse.map UInt8.toNat = others.reverse.map UInt8.toNat :=
    Nat.ofDigits_inj_of_len_eq (by decide) (by simpa using length) lt_of_mem_map_toNat
      lt_of_mem_map_toNat same
  exact List.reverse_inj.mp ((List.map_inj_right fun _ _ => UInt8.toNat.inj).mp digits)

theorem bigEndian_drop (bytes : List UInt8) (count : Nat) :
    bigEndian (bytes.drop count) = bigEndian bytes % 256 ^ (bytes.length - count) := by
  rw [bigEndian, bigEndian, Nat.ofDigits_mod_pow_eq_ofDigits_take _ (by decide) _
    lt_of_mem_map_toNat, List.reverse_drop, List.map_take]

theorem bigEndian_replicate_append (count : Nat) (bytes : List UInt8) :
    bigEndian (List.replicate count 0 ++ bytes) = bigEndian bytes := by
  rw [bigEndian, List.reverse_append, List.reverse_replicate, List.map_append,
    List.map_replicate, bigEndian]
  exact Nat.ofDigits_append_replicate_zero _

theorem bigEndian_glyphBytes (glyph : GlyphId) : bigEndian (glyphBytes glyph) = glyph.toNat := by
  have small := glyph.toNat_lt
  have digits :
      (glyphBytes glyph).reverse.map UInt8.toNat =
        [glyph.toNat % 256, glyph.toNat / 256 % 256, glyph.toNat / 65536 % 256,
          glyph.toNat / 16777216 % 256] := by
    simp [glyphBytes, Nat.shiftRight_eq_div_pow]
  rw [bigEndian, digits]
  simp only [Nat.ofDigits_cons, Nat.ofDigits_nil]
  omega

/-- A glyph has no more than four bytes. -/
theorem glyph_lt_pow {width : Nat} (wide : 4 ≤ width) (glyph : GlyphId) :
    glyph.toNat < 256 ^ width :=
  Nat.lt_of_lt_of_le glyph.toNat_lt (Nat.pow_le_pow_right (by decide : 0 < 256) wide)

/-- In every width the bytes are the number of the glyph, as far as it fits. -/
theorem bigEndian_encodeGlyph (width : Nat) (glyph : GlyphId) :
    bigEndian (encodeGlyph width glyph) = glyph.toNat % 256 ^ width := by
  rw [encodeGlyph]
  split
  · rename_i narrow
    rw [bigEndian_drop, bigEndian_glyphBytes]
    congr 2
    exact Nat.sub_sub_self narrow
  · rename_i wide
    rw [bigEndian_replicate_append, bigEndian_glyphBytes,
      Nat.mod_eq_of_lt (glyph_lt_pow (Nat.le_of_not_le wide) glyph)]

theorem encodeGlyph_eq_iff {width : Nat} {glyph other : GlyphId} :
    encodeGlyph width glyph = encodeGlyph width other ↔
      glyph.toNat % 256 ^ width = other.toNat % 256 ^ width := by
  rw [← bigEndian_encodeGlyph, ← bigEndian_encodeGlyph]
  constructor
  · exact congrArg bigEndian
  · exact eq_of_bigEndian (by rw [length_encodeGlyph, length_encodeGlyph])

theorem encodeGlyph_injective {width : Nat} (wide : 4 ≤ width) :
    Function.Injective (encodeGlyph width) := by
  intro glyph other same
  rw [encodeGlyph_eq_iff, Nat.mod_eq_of_lt (glyph_lt_pow wide glyph),
    Nat.mod_eq_of_lt (glyph_lt_pow wide other)] at same
  exact UInt32.toNat.inj same

/--
A font writes a glyph in exactly as many bytes as its encoding is wide, and they
are the number of the glyph modulo the numbers of that width, the highest byte
first.  Two glyphs have the same bytes if and only if they agree in that; where
the encoding has four bytes or more, no two glyphs do.
-/
theorem encodeGlyphId_bigEndian (font : ManifestFont) :
    (∀ glyph : GlyphId,
        (Service.encodeGlyphId font glyph).length = font.encodingWidth ∧
          bigEndian (Service.encodeGlyphId font glyph) =
            glyph.toNat % 256 ^ font.encodingWidth) ∧
      (∀ glyph other : GlyphId,
        Service.encodeGlyphId font glyph = Service.encodeGlyphId font other ↔
          glyph.toNat % 256 ^ font.encodingWidth = other.toNat % 256 ^ font.encodingWidth) ∧
      (4 ≤ font.encodingWidth → Function.Injective (Service.encodeGlyphId font)) := by
  refine ⟨fun glyph => ⟨length_encodeGlyph _ glyph, bigEndian_encodeGlyph _ glyph⟩, ?_, ?_⟩
  · exact fun glyph other => encodeGlyph_eq_iff
  · exact fun wide => encodeGlyph_injective wide

/-- A font with an encoding that is wider than its glyphs. -/
def wideFont : ManifestFont :=
  ⟨"Wide", 5, [], [], [], [], []⟩

theorem encodeGlyphId_bigEndian_wideFont :
    4 ≤ wideFont.encodingWidth ∧
      Function.Injective (Service.encodeGlyphId wideFont) ∧
      Service.encodeGlyphId wideFont 0x0125 = [0, 0, 0, 1, 0x25] ∧
      bigEndian [0, 0, 0, 1, 0x25] = 0x0125 := by
  have wide : 4 ≤ wideFont.encodingWidth := by decide
  rcases encodeGlyphId_bigEndian wideFont with ⟨numbers, -, injective⟩
  have bytes : Service.encodeGlyphId wideFont 0x0125 = [0, 0, 0, 1, 0x25] := by decide
  refine ⟨wide, injective wide, bytes, ?_⟩
  rw [← bytes]
  exact (numbers 0x0125).2

end FontCompiler.Manifest
