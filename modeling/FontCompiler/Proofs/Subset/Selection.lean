import FontCompiler.Proofs.Manifest.Fonts
import FontCompiler.Proofs.Subset.Requests

/-!
# The selection of a subset

The encoder of a subset writes glyphs of its ranges, and the font keeps the
glyphs of its selection.  The two change at different moments: a glyph is
selected with its code point, a range is added at the end of its request, and a
request that fails on the way leaves the one and not the other.

What a request selects is decided by its answer, and the ranges are those of the
requests that succeeded.  Every glyph that is written has therefore been
selected, and for the very unit that it is written for.
-/

namespace FontCompiler

/-- The code point that a request fails at, if its bounds are not refused. -/
def RequestFault.codepoint? : RequestFault → Option Nat
  | .invalidRange _ _ => none
  | .outsideBasicPlane _ _ => none
  | .unmappedCodepoint codepoint => some codepoint
  | .multipleGlyphs codepoint _ => some codepoint
  | .glyphEncodingWidth codepoint _ _ => some codepoint
  | .glyphOutOfRange codepoint _ => some codepoint

namespace Subset

open Font Encoder Manifest

section

variable {F : Type} [Service F]

theorem codepoint?_of_soleGlyph {font : F} {codepoint : Nat}
    {fault : RequestFault} (fails : soleGlyph font codepoint = .error fault) :
    fault.codepoint? = some codepoint := by
  rw [soleGlyph] at fails
  split at fails
  · cases fails
    rfl
  · split at fails
    · simp only at fails
      split at fails
      · cases fails
        rfl
      · split at fails
        · cases fails
        · cases fails
          rfl
    · cases fails
      rfl

/-! ## Answers -/

/-- The requests of a row with the fault of each, in order. -/
def answers (subset : Subset F) :
    List (Nat × Nat) → List ((Nat × Nat) × Option RequestFault)
  | [] => []
  | (first, last) :: requests =>
    ((first, last), (subset.request first last).fault) ::
      answers (subset.request first last).subset requests

theorem mem_successes_iff {request : Nat × Nat} (requests : List (Nat × Nat)) :
    ∀ subset : Subset F,
      request ∈ subset.successes requests ↔
        (request, none) ∈ subset.answers requests := by
  induction requests with
  | nil =>
      intro subset
      simp [successes, answers]
  | cons asked requests ih =>
      intro subset
      rcases asked with ⟨first, last⟩
      rw [successes, answers, List.mem_cons, ← ih]
      cases (subset.request first last).fault with
      | none => simp
      | some fault => simp

/-- A request selects all code points between its bounds, or those in front of the failing one. -/
inductive Selects (request : Nat × Nat) : Option RequestFault → Nat → Prop
  | all {codepoint : Nat} (low : request.1 ≤ codepoint)
      (high : codepoint ≤ request.2) :
      Selects request none codepoint
  | front {fault : RequestFault} {failing codepoint : Nat}
      (fails : fault.codepoint? = some failing) (low : request.1 ≤ codepoint)
      (before : codepoint < failing) :
      Selects request (some fault) codepoint

@[simp]
theorem selects_none_iff {request : Nat × Nat} {codepoint : Nat} :
    Selects request none codepoint ↔
      request.1 ≤ codepoint ∧ codepoint ≤ request.2 := by
  constructor
  · rintro ⟨low, high⟩
    exact ⟨low, high⟩
  · rintro ⟨low, high⟩
    exact .all low high

theorem selects_some_iff {request : Nat × Nat} {fault : RequestFault}
    {failing codepoint : Nat} (fails : fault.codepoint? = some failing) :
    Selects request (some fault) codepoint ↔
      request.1 ≤ codepoint ∧ codepoint < failing := by
  constructor
  · intro selects
    cases selects with
    | front fails' low before =>
        rw [fails] at fails'
        cases fails'
        exact ⟨low, before⟩
  · rintro ⟨low, before⟩
    exact .front fails low before

theorem not_selects_of_refused {request : Nat × Nat} {fault : RequestFault}
    {codepoint : Nat} (refused : fault.codepoint? = none) :
    ¬Selects request (some fault) codepoint := by
  rintro (_ | ⟨fails, _, _⟩)
  rw [refused] at fails
  cases fails

theorem SoleRow.exists_getElem?_iff {font : F} {first codepoint : Nat}
    {glyph : GlyphId} {row : List (GlyphId × UInt16)}
    (sole : SoleRow font first row) :
    (∃ index, (row.map Prod.fst)[index]? = some glyph ∧
        codepoint = first + index) ↔
      (first ≤ codepoint ∧ codepoint < first + row.length) ∧
        glyph ∈ substituted font codepoint := by
  constructor
  · rintro ⟨index, listed, rfl⟩
    rw [List.getElem?_map, Option.map_eq_some_iff] at listed
    rcases listed with ⟨⟨own, id⟩, listed, rfl⟩
    have inside := (List.getElem?_eq_some_iff.mp listed).1
    have chooses := chooses_of_soleGlyph (sole index _ listed)
    rw [chooses.only]
    exact ⟨⟨by omega, by omega⟩, List.mem_singleton_self own⟩
  · rintro ⟨⟨low, high⟩, member⟩
    have inside : codepoint - first < row.length := by omega
    have listed := List.getElem?_eq_getElem inside
    have chooses := chooses_of_soleGlyph (sole _ _ listed)
    rw [Nat.add_sub_of_le low] at chooses
    rw [chooses.only, List.mem_singleton] at member
    refine ⟨codepoint - first, ?_, (Nat.add_sub_of_le low).symm⟩
    rw [List.getElem?_map, listed, member]
    rfl

end

/-! ## What is selected -/

theorem mem_selected_selectRow {glyph : GlyphId} {codepoint : Nat}
    (glyphs : List GlyphId) :
    ∀ (first : Nat) (font : ManifestFont),
      (glyph, codepoint) ∈ (selectRow first glyphs font).selected ↔
        (glyph, codepoint) ∈ font.selected ∨
          ∃ index, glyphs[index]? = some glyph ∧ codepoint = first + index := by
  induction glyphs with
  | nil =>
      intro first font
      simp [selectRow]
  | cons own glyphs ih =>
      intro first font
      have here :
          (glyph, codepoint) ∈ (Service.addToSubset font own first).selected ↔
            (glyph = own ∧ codepoint = first) ∨
              (glyph, codepoint) ∈ font.selected := by
        rw [← Prod.mk.injEq]
        exact List.mem_cons
      -- the glyph selected first is at index zero, and all others move up by one
      rw [selectRow, ih, here]
      constructor
      · rintro ((⟨rfl, rfl⟩ | before) | ⟨index, listed, rfl⟩)
        · exact .inr ⟨0, rfl, rfl⟩
        · exact .inl before
        · exact .inr ⟨index + 1, listed, by omega⟩
      · rintro (before | ⟨index, listed, rfl⟩)
        · exact .inl (.inr before)
        · cases index with
          | zero =>
              cases listed
              exact .inl (.inl ⟨rfl, rfl⟩)
          | succ index => exact .inr ⟨index, listed, by omega⟩

/-- One request selects the substituted glyphs of the code points in front of its fault. -/
theorem mem_selected_request (subset : Subset ManifestFont) (first last : Nat)
    (glyph : GlyphId) (codepoint : Nat) :
    (glyph, codepoint) ∈ (subset.request first last).subset.font.selected ↔
      (glyph, codepoint) ∈ subset.font.selected ∨
        (Selects (first, last) (subset.request first last).fault codepoint ∧
          glyph ∈ substituted subset.font codepoint) := by
  have requests := requesting steady_manifestFont subset first last
  generalize (subset.request first last).fault = fault at requests ⊢
  generalize (subset.request first last).subset = after at requests ⊢
  cases requests with
  | reversed reversed =>
      have refused :
          ¬Selects (first, last) (some (.invalidRange first last)) codepoint :=
        not_selects_of_refused rfl
      simp [refused]
  | outside ordered outside =>
      have refused :
          ¬Selects (first, last) (some (.outsideBasicPlane first last))
            codepoint :=
        not_selects_of_refused rfl
      simp [refused]
  | stopped row inside short sole fails =>
      rw [mem_selected_selectRow, sole.exists_getElem?_iff,
        selects_some_iff (codepoint?_of_soleGlyph fails)]
  | added row ordered inside full sole =>
      have behind : codepoint < first + row.length ↔ codepoint ≤ last := by omega
      rw [mem_selected_selectRow, sole.exists_getElem?_iff, selects_none_iff,
        behind]

/-- A row of requests selects what its answers say, and nothing else. -/
theorem mem_selected_requestAll {glyph : GlyphId} {codepoint : Nat}
    (requests : List (Nat × Nat)) :
    ∀ subset : Subset ManifestFont,
      (glyph, codepoint) ∈ (subset.requestAll requests).font.selected ↔
        (glyph, codepoint) ∈ subset.font.selected ∨
          ∃ answer ∈ subset.answers requests,
            Selects answer.1 answer.2 codepoint ∧
              glyph ∈ substituted subset.font codepoint := by
  induction requests with
  | nil =>
      intro subset
      simp [requestAll, answers]
  | cons asked requests ih =>
      intro subset
      rcases asked with ⟨first, last⟩
      -- the other requests are made of another font, which substitutes the same glyphs
      have same :=
        (requesting steady_manifestFont subset first last).sameAnswers
          steady_manifestFont
      rw [requestAll, answers, ih, mem_selected_request,
        ← same.substituted codepoint, List.exists_mem_cons_iff,
        or_assoc]

/-! ## What is written -/

/-- A glyph that is found in the ranges was selected for the unit that it is found for. -/
theorem exists_selected_of_lookup {font : ManifestFont}
    {requests : List (Nat × Nat)} {unit : Nat} {id : UInt16}
    (found : lookup ((ofFont font).requestAll requests).ranges unit = some id) :
    ∃ glyph,
      (glyph, unit) ∈ ((ofFont font).requestAll requests).font.selected ∧
        glyph.toNat = id.toNat := by
  rcases faithful_run steady_manifestFont font requests with ⟨faithful, shape⟩
  -- the range is that of a request that succeeded, so it was selected as a whole
  have covered : Covers ((ofFont font).successes requests) unit := by
    rw [← shape, covers_bounds_iff]
    exact (exists_lookup_iff faithful.exact).mp ⟨id, found⟩
  rcases covered with ⟨request, member, low, high⟩
  rcases faithful.exists_chooses_of_lookup found with ⟨glyph, chooses⟩
  refine ⟨glyph, ?_, chooses.number⟩
  rw [mem_selected_requestAll]
  refine
    .inr
      ⟨(request, none), (mem_successes_iff requests _).mp member,
        .all low high, ?_⟩
  exact chooses.only ▸ List.mem_singleton_self glyph

/--
What an encoder writes is selected.  Let a manifest be accepted and any row of
requests be made of its font, failed ones among them.  In the bytes of a text
each pair is the number of a selected glyph, one for each unit of the text, and
that glyph was selected together with this unit.  The selected glyphs are just
those that the font substitutes for the code points that the requests select by
their answers: those of a request that succeeded, and those in front of the code
point that a request failed at.
-/
theorem encoded_glyphs_selected {σ : Type} {read : Reader (StateM σ)}
    {base : String} {document : Document} {state : σ} {font : ManifestFont}
    (accepted :
      ((ManifestFont.ofDocument read base document).run state).1 = .ok font)
    (requests : List (Nat × Nat)) :
    (∀ label text bytes,
      encodeText label ((ofFont font).requestAll requests).ranges text =
          .ok bytes →
        bytes.length = 2 * (Text.utf16 text).length ∧
          List.Forall₂
            (fun unit number =>
              number ∈
                  ((ofFont font).requestAll requests).font.selectedGlyphs ∧
                ∃ glyph,
                  (glyph, unit) ∈
                      ((ofFont font).requestAll requests).font.selected ∧
                    glyph.toNat = number)
            (Text.utf16 text) (pairValues bytes)) ∧
      ∀ number,
        number ∈ ((ofFont font).requestAll requests).font.selectedGlyphs ↔
          ∃ answer ∈ (ofFont font).answers requests, ∃ codepoint,
            Selects answer.1 answer.2 codepoint ∧
              ∃ glyph ∈ substituted font codepoint, glyph.toNat = number := by
  constructor
  · intro label text bytes encoded
    rcases exists_found_of_encodeText encoded with ⟨glyphs, found, rfl⟩
    rw [length_flatMap_glyphBytes, ← found.length_eq,
      pairValues_flatMap_glyphBytes, List.forall₂_map_right_iff]
    refine ⟨rfl, found.imp ?_⟩
    intro unit id own
    rcases exists_selected_of_lookup own with ⟨glyph, selected, number⟩
    rw [mem_selectedGlyphs]
    exact ⟨⟨glyph, unit, selected, number⟩, glyph, selected, number⟩
  · have nothing : font.selected = [] := by
      rcases accepts_of_ofDocument accepted with ⟨-, graph, rfl⟩
      rfl
    have selected (glyph : GlyphId) (codepoint : Nat) :
        (glyph, codepoint) ∈
            ((ofFont font).requestAll requests).font.selected ↔
          ∃ answer ∈ (ofFont font).answers requests,
            Selects answer.1 answer.2 codepoint ∧
              glyph ∈ substituted font codepoint := by
      rw [mem_selected_requestAll, ofFont, nothing]
      simp
    intro number
    rw [mem_selectedGlyphs]
    constructor
    · rintro ⟨glyph, codepoint, member, same⟩
      rcases (selected glyph codepoint).mp member with
        ⟨answer, answered, selects, own⟩
      exact ⟨answer, answered, codepoint, selects, glyph, own, same⟩
    · rintro ⟨answer, answered, codepoint, selects, glyph, own, same⟩
      have member :=
        (selected glyph codepoint).mpr ⟨answer, answered, selects, own⟩
      exact ⟨glyph, codepoint, member, same⟩

/-- A manifest that maps `A` to `C`, replaces the glyph of `B`, and needs two glyphs for `C`. -/
def replacingManifest : Document :=
  ⟨"Replacing", 2, [(0x41, 1), (0x42, 2), (0x43, 3)], [(2, [9]), (3, [7, 8])],
    [], []⟩

/-- The font of that manifest. -/
def replacingFont : ManifestFont :=
  ⟨"Replacing", 2, [(0x41, 1), (0x42, 2), (0x43, 3)], [(2, [9]), (3, [7, 8])],
    [], [], []⟩

/-- A request that fails at `C` selects `A` and `B`, and one that succeeds lets `B` be written. -/
theorem encoded_glyphs_selected_replacingFont :
    ((ManifestFont.ofDocument (m := StateM Unit) (fun _ => pure (.ok [])) ""
        replacingManifest).run ()).1 = .ok replacingFont ∧
      encodeText "Replacing"
          ((ofFont replacingFont).requestAll
            [(0x41, 0x43), (0x42, 0x42), (0x50, 0x40)]).ranges "BB" =
        .ok [0, 9, 0, 9] ∧
      List.Forall₂
        (fun unit number =>
          number ∈
              ((ofFont replacingFont).requestAll
                [(0x41, 0x43), (0x42, 0x42), (0x50, 0x40)]).font.selectedGlyphs ∧
            ∃ glyph,
              (glyph, unit) ∈
                  ((ofFont replacingFont).requestAll
                    [(0x41, 0x43), (0x42, 0x42), (0x50, 0x40)]).font.selected ∧
                glyph.toNat = number)
        [0x42, 0x42] [9, 9] ∧
      1 ∈ ((ofFont replacingFont).requestAll
        [(0x41, 0x43), (0x42, 0x42), (0x50, 0x40)]).font.selectedGlyphs := by
  have accepted :
      ((ManifestFont.ofDocument (m := StateM Unit) (fun _ => pure (.ok [])) ""
        replacingManifest).run ()).1 = .ok replacingFont := by
    rw [run_ofDocument_of_empty _ _ _ (by decide) rfl]
    rfl
  have encoded :
      encodeText "Replacing"
          ((ofFont replacingFont).requestAll
            [(0x41, 0x43), (0x42, 0x42), (0x50, 0x40)]).ranges "BB" =
        .ok [0, 9, 0, 9] := by
    decide +kernel
  rcases
      encoded_glyphs_selected accepted
        [(0x41, 0x43), (0x42, 0x42), (0x50, 0x40)] with
    ⟨written, selected⟩
  refine ⟨accepted, encoded, (written _ _ _ encoded).2, ?_⟩
  rw [selected]
  have answered :
      ((0x41, 0x43), some (.multipleGlyphs 0x43 2)) ∈
        (ofFont replacingFont).answers
          [(0x41, 0x43), (0x42, 0x42), (0x50, 0x40)] := by
    decide +kernel
  exact
    ⟨_, answered, 0x41, .front rfl (by decide) (by decide : 0x41 < 0x43), 1,
      by decide +kernel, rfl⟩

end Subset

end FontCompiler
