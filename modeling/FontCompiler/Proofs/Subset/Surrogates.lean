import FontCompiler.Proofs.Manifest.Codepoints
import FontCompiler.Proofs.Manifest.Fonts
import FontCompiler.Proofs.Subset.Requests
import FontCompiler.Proofs.Text.Utf16

/-!
# Surrogates and the ranges of manifest fonts

Neither a request nor an encoding looks for surrogates.  They are kept out of the
ranges by the character map: its keys are scalar values, a request fails at a
code point that is no key, and so no range reaches over a surrogate, whatever
its bounds were asked to be.  A text with a character beyond the basic plane is
then refused at its high surrogate, or before.
-/

namespace FontCompiler.Subset

open Font Encoder Manifest

/-- A font of a manifest that was decoded maps scalar values only. -/
theorem isScalar_of_glyphId {document : Document} {font : ManifestFont}
    (decoded : Decoded document) (accepts : Accepts document font)
    {codepoint : Nat} {glyph : GlyphId}
    (mapped : Service.glyphId font codepoint = some glyph) :
    IsScalar codepoint := by
  rcases accepts.fields with ⟨graph, rfl⟩
  exact decoded.isScalar codepoint (Ordered.mem_keys_of_get? mapped)

theorem Image.exists_glyphId {F : Type} [Service F] {font : F}
    {range : GlyphRange} (image : Image font range) {codepoint : Nat}
    (low : range.first ≤ codepoint) (high : codepoint ≤ range.last) :
    ∃ glyph, Service.glyphId font codepoint = some glyph := by
  have contained := GlyphRange.contains_iff.mpr ⟨low, high⟩
  rcases GlyphRange.exists_glyph image.exact contained with
    ⟨-, -, id, -, found⟩
  rcases (image.maps codepoint id found).substitute with
    ⟨glyph, sole, mapped, -, -⟩
  exact ⟨glyph, mapped⟩

/--
Surrogates never match a range.  Let a manifest be decoded and accepted, and any
row of requests be made of its font, whatever their bounds.  Every range that is
kept lies in the basic plane and reaches over no surrogate.  Hence a text with a
character beyond the basic plane is refused, at the position of its high
surrogate among the units of the text or before.
-/
theorem surrogates_never_match {σ : Type} {read : Reader (StateM σ)}
    {base : String} {document : Document} {state : σ} {font : ManifestFont}
    (decoded : Decoded document)
    (accepted :
      ((ManifestFont.ofDocument read base document).run state).1 = .ok font)
    (requests : List (Nat × Nat)) :
    (∀ range ∈ ((ofFont font).requestAll requests).ranges,
      range.first ≤ range.last ∧ range.last ≤ 0xFFFF ∧
        ∀ codepoint, range.first ≤ codepoint → codepoint ≤ range.last →
          ¬Text.IsSurrogate codepoint) ∧
      ∀ label text front char back,
        text.toList = front ++ char :: back → 0xFFFF < char.toNat →
          ∃ unit position,
            encodeText label ((ofFont font).requestAll requests).ranges text =
                .error ⟨unit, position, label⟩ ∧
              position ≤ (Text.utf16 (String.ofList front)).length := by
  have accepts := accepts_of_ofDocument accepted
  have faithful := (faithful_run steady_manifestFont font requests).1
  have apart (range : GlyphRange)
      (member : range ∈ ((ofFont font).requestAll requests).ranges)
      (codepoint : Nat) (low : range.first ≤ codepoint)
      (high : codepoint ≤ range.last) : ¬Text.IsSurrogate codepoint := by
    rcases (faithful.images range member).exists_glyphId low high with
      ⟨glyph, mapped⟩
    apply Text.not_isSurrogate_of_isScalar
    exact isScalar_of_glyphId decoded accepts mapped
  constructor
  · intro range member
    have image := faithful.images range member
    have ordered := (GlyphRange.isExact_iff.mp image.exact).1
    exact ⟨ordered, image.inside, apart range member⟩
  · intro label text front char back row beyond
    rcases Text.exists_utf16_eq_append row beyond with
      ⟨high, units, spelled, surrogate⟩
    -- no range contains the high surrogate, so the text stops there at the latest
    have missing :
        lookup ((ofFont font).requestAll requests).ranges high = none := by
      rw [Option.eq_none_iff_forall_ne_some]
      intro glyph found
      rcases exists_range_of_lookup found with ⟨range, member, contained, -⟩
      have bounds := GlyphRange.contains_iff.mp contained
      exact apart range member high bounds.1 bounds.2 surrogate
    rcases exists_error_of_missing label missing _ units 0 with
      ⟨unit, position, stopped, bound⟩
    refine ⟨unit, position, ?_, ?_⟩
    · rw [encodeText, spelled]
      exact stopped
    · rwa [Nat.zero_add] at bound

/-- A manifest whose character map has both neighbours of the surrogates. -/
def borderValue : Json.Value :=
  .object
    [("label", .string "Border"),
      ("cmap",
        .object
          [("U+D7FF", .number (.int 1)), ("0xE000", .number (.int 2))]),
      ("graph", .object [])]

/-- The document of that manifest. -/
def borderDocument : Document :=
  ⟨"Border", 2, [(0xD7FF, 1), (0xE000, 2)], [], [], []⟩

/-- The font of that manifest. -/
def borderFont : ManifestFont :=
  ⟨"Border", 2, [(0xD7FF, 1), (0xE000, 2)], [], [], [], []⟩

/-- A request across the surrogates keeps nothing, and a text is refused behind its first unit. -/
theorem surrogates_never_match_borderFont :
    Decoded borderDocument ∧
      ((ManifestFont.ofDocument (m := StateM Unit) (fun _ => pure (.ok [])) ""
        borderDocument).run ()).1 = .ok borderFont ∧
      ((ofFont borderFont).requestAll
          [(0xD7FF, 0xE000), (0xE000, 0xE000)]).ranges =
        [⟨0xE000, 0xE000, [2]⟩] ∧
      ∃ unit position,
        encodeText "Border"
            ((ofFont borderFont).requestAll
              [(0xD7FF, 0xE000), (0xE000, 0xE000)]).ranges
            (String.ofList [Char.ofNat 0xE000, Char.ofNat 0x1F600]) =
          .error ⟨unit, position, "Border"⟩ ∧
        position ≤ (Text.utf16 (String.ofList [Char.ofNat 0xE000])).length := by
  have decoded : Decoded borderDocument := .ofValue borderValue rfl
  have accepted :
      ((ManifestFont.ofDocument (m := StateM Unit) (fun _ => pure (.ok [])) ""
        borderDocument).run ()).1 = .ok borderFont := by
    rw [run_ofDocument_of_empty _ _ _ (by decide) rfl]
    rfl
  have kept :
      ((ofFont borderFont).requestAll
          [(0xD7FF, 0xE000), (0xE000, 0xE000)]).ranges =
        [⟨0xE000, 0xE000, [2]⟩] := by
    decide +kernel
  have refused :=
    (surrogates_never_match decoded accepted
      [(0xD7FF, 0xE000), (0xE000, 0xE000)]).2
  exact
    ⟨decoded, accepted, kept,
      refused "Border" _ [Char.ofNat 0xE000] (Char.ofNat 0x1F600) []
        String.toList_ofList (by decide)⟩

end FontCompiler.Subset
