import FontCompiler.Font.Table
import FontCompiler.Manifest.Font
import FontCompiler.Proofs.Encoder.Lookup
import FontCompiler.Subset

/-!
# Requests of a subset

A subset is asked for one interval of code points after the other.  This module
follows a whole row of requests, failed ones among them, over a font whose
answers do not depend on what is selected.

The invariant is `Faithful`: every range holds, for each code point between its
bounds, the only glyph that the font gives for it.  One request keeps the
invariant, and adds its range if and only if it does not fail.  Overlapping
ranges then hold the same glyphs where they overlap, so it does not matter
which of them is looked into.
-/

namespace FontCompiler.Subset

open Font Encoder

/-! ## Fonts with steady answers -/

/-- The answers of a font do not change when glyphs are selected. -/
structure Steady (F : Type) [Service F] : Prop where
  glyphId : ∀ (font : F) (glyph : GlyphId) (codepoint : Nat),
    Service.glyphId (Service.addToSubset font glyph codepoint) =
      Service.glyphId font
  substitute : ∀ (font : F) (glyph : GlyphId) (codepoint : Nat),
    Service.substitute (Service.addToSubset font glyph codepoint) =
      Service.substitute font
  encodeGlyphId : ∀ (font : F) (glyph : GlyphId) (codepoint : Nat),
    Service.encodeGlyphId (Service.addToSubset font glyph codepoint) =
      Service.encodeGlyphId font

theorem steady_tableFont : Steady TableFont where
  glyphId _ _ _ := rfl
  substitute _ _ _ := rfl
  encodeGlyphId _ _ _ := rfl

theorem steady_manifestFont : Steady Manifest.ManifestFont where
  glyphId _ _ _ := rfl
  substitute _ _ _ := rfl
  encodeGlyphId _ _ _ := rfl

variable {F : Type} [Service F]

/-- Two fonts give the same answers. -/
structure SameAnswers (first second : F) : Prop where
  glyphId : Service.glyphId first = Service.glyphId second
  substitute : Service.substitute first = Service.substitute second
  encodeGlyphId : Service.encodeGlyphId first = Service.encodeGlyphId second

namespace SameAnswers

theorem refl (font : F) : SameAnswers font font :=
  ⟨rfl, rfl, rfl⟩

theorem symm {first second : F} (same : SameAnswers first second) : SameAnswers second first :=
  ⟨same.glyphId.symm, same.substitute.symm, same.encodeGlyphId.symm⟩

theorem trans {first second third : F}
    (one : SameAnswers first second) (other : SameAnswers second third) :
    SameAnswers first third where
  glyphId := one.glyphId.trans other.glyphId
  substitute := one.substitute.trans other.substitute
  encodeGlyphId := one.encodeGlyphId.trans other.encodeGlyphId

theorem soleGlyph {first second : F} (same : SameAnswers first second)
    (codepoint : Nat) :
    Subset.soleGlyph first codepoint = Subset.soleGlyph second codepoint := by
  simp only [Subset.soleGlyph, same.glyphId, same.substitute,
    same.encodeGlyphId]

end SameAnswers

theorem Steady.sameAnswers (steady : Steady F) (font : F) (glyph : GlyphId)
    (codepoint : Nat) :
    SameAnswers font (Service.addToSubset font glyph codepoint) where
  glyphId := (steady.glyphId font glyph codepoint).symm
  substitute := (steady.substitute font glyph codepoint).symm
  encodeGlyphId := (steady.encodeGlyphId font glyph codepoint).symm

/-! ## One request -/

/-- The glyphs that a font substitutes for the one of a code point. -/
def substituted (font : F) (codepoint : Nat) : List GlyphId :=
  match Service.glyphId font codepoint with
  | none => []
  | some glyph => Service.substitute font [glyph]

theorem SameAnswers.substituted {first second : F}
    (same : SameAnswers first second) (codepoint : Nat) :
    Subset.substituted first codepoint = Subset.substituted second codepoint := by
  simp only [Subset.substituted, same.glyphId, same.substitute]

theorem exists_glyph_of_substituted {font : F} {codepoint : Nat}
    {sole : GlyphId} (only : substituted font codepoint = [sole]) :
    ∃ glyph, Service.glyphId font codepoint = some glyph ∧
      Service.substitute font [glyph] = [sole] := by
  rw [substituted] at only
  split at only
  · cases only
  · rename_i glyph mapped
    exact ⟨glyph, mapped, only⟩

/-- What a font gives for a code point: one glyph of two bytes, with a number of sixteen bits. -/
structure Chooses (font : F) (codepoint : Nat) (sole : GlyphId) (id : UInt16) : Prop where
  only : substituted font codepoint = [sole]
  width : (Service.encodeGlyphId font sole).length = 2
  number : sole.toNat = id.toNat

theorem chooses_of_soleGlyph {font : F} {codepoint : Nat} {sole : GlyphId}
    {id : UInt16} (found : soleGlyph font codepoint = .ok (sole, id)) :
    Chooses font codepoint sole id := by
  rw [soleGlyph] at found
  split at found
  · cases found
  · rename_i glyph mapped
    split at found
    · rename_i only replaced
      simp only at found
      split at found
      · cases found
      · rename_i width
        split at found
        · rename_i small
          rcases Prod.mk.inj (Except.ok.inj found) with ⟨rfl, rfl⟩
          have exact : only.toNat = (UInt16.ofNat only.toNat).toNat := by
            rw [UInt16.toNat_ofNat']
            exact (Nat.mod_eq_of_lt small).symm
          refine ⟨?_, Decidable.not_not.mp width, exact⟩
          rw [substituted, mapped]
          exact replaced
        · cases found
    · cases found

/-- The number of the glyph is the only one that the font gives for the code point. -/
def Maps (font : F) (codepoint : Nat) (id : UInt16) : Prop :=
  ∃ glyph, soleGlyph font codepoint = .ok (glyph, id)

theorem Maps.unique {font : F} {codepoint : Nat} {first second : UInt16}
    (one : Maps font codepoint first) (other : Maps font codepoint second) :
    first = second := by
  rcases one with ⟨glyph, found⟩
  rcases other with ⟨glyph', found'⟩
  rw [found] at found'
  cases found'
  rfl

theorem Maps.substitute {font : F} {codepoint : Nat} {id : UInt16}
    (maps : Maps font codepoint id) :
    ∃ glyph sole, Service.glyphId font codepoint = some glyph ∧
      Service.substitute font [glyph] = [sole] ∧ sole.toNat = id.toNat := by
  rcases maps with ⟨sole, found⟩
  have chooses := chooses_of_soleGlyph found
  rcases exists_glyph_of_substituted chooses.only with ⟨glyph, mapped, replaced⟩
  exact ⟨glyph, sole, mapped, replaced, chooses.number⟩

theorem Maps.of_sameAnswers {first second : F} {codepoint : Nat}
    {id : UInt16} (same : SameAnswers first second)
    (maps : Maps second codepoint id) :
    Maps first codepoint id := by
  rcases maps with ⟨glyph, found⟩
  exact ⟨glyph, (same.soleGlyph codepoint).trans found⟩

/-- The font that was asked to select glyphs, one for each code point from one on. -/
def selectRow : (codepoint : Nat) → List GlyphId → F → F
  | _, [], font => font
  | codepoint, glyph :: glyphs, font =>
    selectRow (codepoint + 1) glyphs (Service.addToSubset font glyph codepoint)

theorem Steady.selectRow (steady : Steady F) (glyphs : List GlyphId) :
    ∀ (codepoint : Nat) (font : F),
      SameAnswers font (Subset.selectRow codepoint glyphs font) := by
  induction glyphs with
  | nil =>
      intro codepoint font
      exact SameAnswers.refl font
  | cons glyph glyphs ih =>
      intro codepoint font
      exact
        (steady.sameAnswers font glyph codepoint).trans
          (ih (codepoint + 1) (Service.addToSubset font glyph codepoint))

/-- A row holds the only glyphs of the code points from one on, with their numbers. -/
def SoleRow (font : F) (codepoint : Nat) (row : List (GlyphId × UInt16)) : Prop :=
  ∀ index choice, row[index]? = some choice →
    soleGlyph font (codepoint + index) = .ok choice

theorem SoleRow.nil (font : F) (codepoint : Nat) : SoleRow font codepoint [] :=
  nofun

theorem SoleRow.cons {font : F} {codepoint : Nat} {choice : GlyphId × UInt16}
    {row : List (GlyphId × UInt16)}
    (own : soleGlyph font codepoint = .ok choice)
    (others : SoleRow font (codepoint + 1) row) :
    SoleRow font codepoint (choice :: row) := by
  intro index other listed
  cases index with
  | zero =>
      cases listed
      exact own
  | succ index =>
      have behind := others index other listed
      rwa [Nat.add_assoc, Nat.add_comm 1 index] at behind

theorem SoleRow.of_sameAnswers {first second : F} {codepoint : Nat}
    {row : List (GlyphId × UInt16)} (same : SameAnswers first second)
    (sole : SoleRow second codepoint row) : SoleRow first codepoint row := by
  intro index choice listed
  rw [same.soleGlyph]
  exact sole index choice listed

/--
How the selection for a number of code points ends: each of them has only one
glyph, or there is a first one that has not, and those in front of it are selected.
-/
inductive Selecting (font : F) (codepoint count : Nat) (selected : List UInt16) :
    F × Except RequestFault (List UInt16) → Prop
  | complete (row : List (GlyphId × UInt16)) (full : row.length = count)
      (sole : SoleRow font codepoint row) :
      Selecting font codepoint count selected
        (selectRow codepoint (row.map Prod.fst) font,
          .ok (selected.reverse ++ row.map Prod.snd))
  | stopped (row : List (GlyphId × UInt16)) {fault : RequestFault}
      (short : row.length < count) (sole : SoleRow font codepoint row)
      (fails : soleGlyph font (codepoint + row.length) = .error fault) :
      Selecting font codepoint count selected
        (selectRow codepoint (row.map Prod.fst) font, .error fault)

/-- The glyph of a code point is selected in front of those of the next ones. -/
theorem Selecting.cons (steady : Steady F) {font : F} {codepoint count : Nat}
    {selected : List UInt16} {glyph : GlyphId} {id : UInt16}
    {outcome : F × Except RequestFault (List UInt16)}
    (own : soleGlyph font codepoint = .ok (glyph, id))
    (others :
      Selecting (Service.addToSubset font glyph codepoint) (codepoint + 1) count
        (id :: selected) outcome) :
    Selecting font codepoint (count + 1) selected outcome := by
  have same := steady.sameAnswers font glyph codepoint
  cases others with
  | complete row full sole =>
      have whole :
          Selecting font codepoint (count + 1) selected
            (selectRow codepoint (((glyph, id) :: row).map Prod.fst) font,
              .ok (selected.reverse ++ ((glyph, id) :: row).map Prod.snd)) :=
        .complete ((glyph, id) :: row) (congrArg (· + 1) full)
          (.cons own (sole.of_sameAnswers same))
      rw [List.reverse_cons, List.append_assoc]
      exact whole
  | @stopped row fault short sole fails =>
      have stop :
          soleGlyph font (codepoint + ((glyph, id) :: row).length) =
            .error fault := by
        rw [same.soleGlyph, List.length_cons, ← fails, Nat.add_assoc,
          Nat.add_comm 1]
      exact
        .stopped ((glyph, id) :: row) (Nat.succ_lt_succ short)
          (.cons own (sole.of_sameAnswers same)) stop

theorem selecting (steady : Steady F) (count : Nat) :
    ∀ (codepoint : Nat) (selected : List UInt16) (font : F),
      Selecting font codepoint count selected
        (selectGlyphs count codepoint selected font) := by
  induction count with
  | zero =>
      intro codepoint selected font
      have done :
          Selecting font codepoint 0 selected
            (font, .ok (selected.reverse ++ [])) :=
        .complete [] rfl (.nil font codepoint)
      rw [List.append_nil] at done
      exact done
  | succ count ih =>
      intro codepoint selected font
      rw [selectGlyphs]
      cases own : soleGlyph font codepoint with
      | error fault =>
          exact
            .stopped [] (Nat.succ_pos count) (.nil font codepoint) own
      | ok choice =>
          rcases choice with ⟨glyph, id⟩
          exact .cons steady own (ih (codepoint + 1) (id :: selected) _)

/--
What a request does, with its fault and the subset behind it: its bounds are
refused, some code point between them has no glyph of its own, or its range is
added.
-/
inductive Requesting (subset : Subset F) (first last : Nat) :
    Option RequestFault → Subset F → Prop
  | reversed (reversed : last < first) :
      Requesting subset first last (some (.invalidRange first last)) subset
  | outside (ordered : first ≤ last) (outside : 0xFFFF < last) :
      Requesting subset first last (some (.outsideBasicPlane first last)) subset
  | stopped (row : List (GlyphId × UInt16)) {fault : RequestFault}
      (inside : last ≤ 0xFFFF) (short : first + row.length ≤ last)
      (sole : SoleRow subset.font first row)
      (fails : soleGlyph subset.font (first + row.length) = .error fault) :
      Requesting subset first last (some fault)
        ⟨selectRow first (row.map Prod.fst) subset.font, subset.ranges⟩
  | added (row : List (GlyphId × UInt16)) (ordered : first ≤ last)
      (inside : last ≤ 0xFFFF) (full : row.length = last - first + 1)
      (sole : SoleRow subset.font first row) :
      Requesting subset first last none
        ⟨selectRow first (row.map Prod.fst) subset.font,
          subset.ranges ++ [⟨first, last, row.map Prod.snd⟩]⟩

theorem requesting (steady : Steady F) (subset : Subset F) (first last : Nat) :
    Requesting subset first last (subset.request first last).fault
      (subset.request first last).subset := by
  by_cases reversed : last < first
  · rw [request, if_pos reversed]
    exact .reversed reversed
  · have ordered : first ≤ last := Nat.le_of_not_lt reversed
    by_cases outside : 0xFFFF < last
    · rw [request, if_neg reversed, if_pos outside]
      exact .outside ordered outside
    · have inside : last ≤ 0xFFFF := Nat.le_of_not_lt outside
      have selects := selecting steady (last - first + 1) first [] subset.font
      rw [request, if_neg reversed, if_neg outside]
      generalize selectGlyphs (last - first + 1) first [] subset.font = outcome
        at selects ⊢
      cases selects with
      | complete row full sole => exact .added row ordered inside full sole
      | stopped row short sole fails =>
          have before := Nat.le_of_lt_succ short
          exact .stopped row inside (by omega) sole fails

/-- A range of the basic plane holds what a font gives for each of its code points. -/
structure Image (font : F) (range : GlyphRange) : Prop where
  exact : range.isExact = true
  inside : range.last ≤ 0xFFFF
  maps : ∀ codepoint id, range.glyph? codepoint = some id →
    Maps font codepoint id

/-- The range of a row of only glyphs holds what the font gives. -/
theorem Image.of_soleRow {font : F} {first last : Nat}
    {row : List (GlyphId × UInt16)} (ordered : first ≤ last)
    (inside : last ≤ 0xFFFF) (full : row.length = last - first + 1)
    (sole : SoleRow font first row) :
    Image font ⟨first, last, row.map Prod.snd⟩ where
  exact := by
    rw [GlyphRange.isExact_iff, List.length_map]
    exact ⟨ordered, full⟩
  inside := inside
  maps := by
    intro codepoint id found
    rw [GlyphRange.glyph?] at found
    split at found
    · rename_i contained
      have bounds := GlyphRange.contains_iff.mp contained
      rw [List.getElem?_map, Option.map_eq_some_iff] at found
      rcases found with ⟨⟨glyph, own⟩, listed, rfl⟩
      have mapped := sole _ _ listed
      rw [Nat.add_sub_of_le bounds.1] at mapped
      exact ⟨glyph, mapped⟩
    · cases found

theorem Requesting.sameAnswers (steady : Steady F) {subset after : Subset F}
    {first last : Nat} {fault : Option RequestFault}
    (requests : Requesting subset first last fault after) :
    SameAnswers subset.font after.font := by
  cases requests with
  | reversed reversed => exact SameAnswers.refl _
  | outside ordered outside => exact SameAnswers.refl _
  | stopped row inside short sole fails => exact steady.selectRow _ first _
  | added row ordered inside full sole => exact steady.selectRow _ first _

/-! ## Rows of requests -/

/-- The subset behind a row of requests, which goes on after a failed one. -/
def requestAll (subset : Subset F) : List (Nat × Nat) → Subset F
  | [] => subset
  | (first, last) :: requests =>
    requestAll (subset.request first last).subset requests

section

variable (steady : Steady F)

include steady

theorem SameAnswers.selectGlyphs (count : Nat) :
    ∀ {font other : F}, SameAnswers font other → ∀ (codepoint : Nat) (selected : List UInt16),
      (Subset.selectGlyphs count codepoint selected font).2 =
        (Subset.selectGlyphs count codepoint selected other).2 := by
  induction count with
  | zero => exact fun _ _ _ => rfl
  | succ count ih =>
      intro font other same codepoint selected
      rw [Subset.selectGlyphs, Subset.selectGlyphs, same.soleGlyph]
      cases Subset.soleGlyph other codepoint with
      | error fault => rfl
      | ok choice =>
          rcases choice with ⟨glyph, id⟩
          have before := (steady.sameAnswers font glyph codepoint).symm
          have behind := steady.sameAnswers other glyph codepoint
          exact ih ((before.trans same).trans behind) (codepoint + 1) (id :: selected)

variable {subset other : Subset F}

theorem SameAnswers.ranges_request (same : SameAnswers subset.font other.font)
    (ranges : subset.ranges = other.ranges) (first last : Nat) :
    (subset.request first last).subset.ranges = (other.request first last).subset.ranges := by
  have selects := same.selectGlyphs steady (last - first + 1) first []
  rw [request, request]
  generalize Subset.selectGlyphs (last - first + 1) first [] subset.font = own at selects ⊢
  generalize Subset.selectGlyphs (last - first + 1) first [] other.font = its at selects ⊢
  rcases own with ⟨font, outcome⟩
  rcases its with ⟨font', outcome'⟩
  cases selects
  split
  · exact ranges
  · split
    · exact ranges
    · cases outcome with
      | error fault => exact ranges
      | ok glyphs => exact congrArg (· ++ [⟨first, last, glyphs⟩]) ranges

/-- The ranges of a row of requests depend on the answers of a font only. -/
theorem SameAnswers.ranges_requestAll (requests : List (Nat × Nat)) :
    ∀ {subset other : Subset F}, SameAnswers subset.font other.font →
      subset.ranges = other.ranges →
      (subset.requestAll requests).ranges = (other.requestAll requests).ranges := by
  induction requests with
  | nil => exact fun _ ranges => ranges
  | cons request requests ih =>
      intro subset other same ranges
      rcases request with ⟨first, last⟩
      have before := (requesting steady subset first last).sameAnswers steady
      have behind := (requesting steady other first last).sameAnswers steady
      exact
        ih ((before.symm.trans same).trans behind)
          (same.ranges_request steady ranges first last)

end

/-- The requests of a row that do not fail, in order. -/
def successes (subset : Subset F) : List (Nat × Nat) → List (Nat × Nat)
  | [] => []
  | (first, last) :: requests =>
    if (subset.request first last).fault.isSome then
      successes (subset.request first last).subset requests
    else (first, last) :: successes (subset.request first last).subset requests

/-- The request that a range answers. -/
def bounds (range : GlyphRange) : Nat × Nat :=
  (range.first, range.last)

/-- Some request asks for a code point. -/
def Covers (requests : List (Nat × Nat)) (codepoint : Nat) : Prop :=
  ∃ request ∈ requests, request.1 ≤ codepoint ∧ codepoint ≤ request.2

/-- The ranges of a subset hold what a font gives, and the font still gives the same. -/
structure Faithful (font : F) (subset : Subset F) : Prop where
  answers : SameAnswers font subset.font
  images : ∀ range ∈ subset.ranges, Image font range

theorem faithful_ofFont (font : F) : Faithful font (ofFont font) where
  answers := SameAnswers.refl font
  images := by
    intro range member
    cases member

theorem Image.of_sameAnswers {first second : F} {range : GlyphRange}
    (same : SameAnswers first second) (image : Image second range) :
    Image first range where
  exact := image.exact
  inside := image.inside
  maps := by
    intro codepoint id found
    exact (image.maps codepoint id found).of_sameAnswers same

/-- One request keeps the ranges faithful and adds its own if it succeeds. -/
theorem Faithful.request (steady : Steady F) {font : F} {subset : Subset F}
    (faithful : Faithful font subset) (first last : Nat) :
    Faithful font (subset.request first last).subset ∧
      (subset.request first last).subset.ranges.map bounds =
        subset.ranges.map bounds ++
          if (subset.request first last).fault.isSome then []
          else [(first, last)] := by
  have requests := requesting steady subset first last
  have answers := faithful.answers.trans (requests.sameAnswers steady)
  generalize (subset.request first last).fault = fault at requests ⊢
  generalize (subset.request first last).subset = after at requests answers ⊢
  cases requests with
  | reversed reversed => exact ⟨faithful, (List.append_nil _).symm⟩
  | outside ordered outside => exact ⟨faithful, (List.append_nil _).symm⟩
  | stopped row inside short sole fails =>
      exact ⟨⟨answers, faithful.images⟩, (List.append_nil _).symm⟩
  | added row ordered inside full sole =>
      have image := Image.of_soleRow ordered inside full sole
      refine ⟨⟨answers, ?_⟩, List.map_append⟩
      rw [List.forall_mem_append, List.forall_mem_singleton]
      exact ⟨faithful.images, image.of_sameAnswers faithful.answers⟩

/-- A row of requests keeps the ranges faithful and adds its successes in order. -/
theorem Faithful.requestAll (steady : Steady F) {font : F}
    (requests : List (Nat × Nat)) :
    ∀ subset : Subset F, Faithful font subset →
      Faithful font (subset.requestAll requests) ∧
        (subset.requestAll requests).ranges.map bounds =
          subset.ranges.map bounds ++ subset.successes requests := by
  induction requests with
  | nil =>
      intro subset faithful
      rw [Subset.requestAll, successes, List.append_nil]
      exact ⟨faithful, rfl⟩
  | cons asked requests ih =>
      intro subset faithful
      rcases asked with ⟨first, last⟩
      rcases faithful.request steady first last with ⟨kept, added⟩
      rcases ih (subset.request first last).subset kept with ⟨all, shape⟩
      rw [Subset.requestAll, successes]
      refine ⟨all, ?_⟩
      rw [shape, added, List.append_assoc]
      by_cases failed : (subset.request first last).fault.isSome = true
      · rw [if_pos failed, if_pos failed, List.nil_append]
      · rw [if_neg failed, if_neg failed, List.singleton_append]

/-- The ranges behind a row of requests are faithful, and those of its successes. -/
theorem faithful_run (steady : Steady F) (font : F)
    (requests : List (Nat × Nat)) :
    Faithful font ((ofFont font).requestAll requests) ∧
      ((ofFont font).requestAll requests).ranges.map bounds =
        (ofFont font).successes requests :=
  Faithful.requestAll steady requests (ofFont font) (faithful_ofFont font)

theorem covers_bounds_iff (ranges : List GlyphRange) (codepoint : Nat) :
    Covers (ranges.map bounds) codepoint ↔
      ∃ range ∈ ranges, range.contains codepoint = true := by
  constructor
  · rintro ⟨request, member, inside⟩
    rcases List.mem_map.mp member with ⟨range, rangeMember, rfl⟩
    exact ⟨range, rangeMember, GlyphRange.contains_iff.mpr inside⟩
  · rintro ⟨range, member, contained⟩
    exact
      ⟨bounds range, List.mem_map_of_mem member,
        GlyphRange.contains_iff.mp contained⟩

namespace Faithful

variable {font : F} {subset : Subset F}

theorem exact (faithful : Faithful font subset) :
    ∀ range ∈ subset.ranges, range.isExact = true := by
  intro range member
  exact (faithful.images range member).exact

theorem maps_of_lookup (faithful : Faithful font subset) {codepoint : Nat}
    {id : UInt16} (found : lookup subset.ranges codepoint = some id) :
    Maps font codepoint id := by
  rcases exists_range_of_lookup found with ⟨range, member, -, mapped⟩
  exact (faithful.images range member).maps codepoint id mapped

/-- A glyph that is found in faithful ranges is the one that the font chooses. -/
theorem exists_chooses_of_lookup (faithful : Faithful font subset)
    {codepoint : Nat} {id : UInt16}
    (found : lookup subset.ranges codepoint = some id) :
    ∃ sole, Chooses font codepoint sole id := by
  rcases faithful.maps_of_lookup found with ⟨sole, own⟩
  exact ⟨sole, chooses_of_soleGlyph own⟩

/-- Faithful ranges that contain the same code points look them up alike. -/
theorem lookup_eq {other : Subset F}
    (faithful : Faithful font subset) (faithfulOther : Faithful font other)
    {codepoint : Nat}
    (same : Covers (subset.ranges.map bounds) codepoint ↔
      Covers (other.ranges.map bounds) codepoint) :
    lookup subset.ranges codepoint = lookup other.ranges codepoint := by
  -- coverage decides whether there is a glyph, and the font which one it is
  rw [covers_bounds_iff, covers_bounds_iff,
    ← exists_lookup_iff faithful.exact,
    ← exists_lookup_iff faithfulOther.exact] at same
  cases found : lookup subset.ranges codepoint with
  | none =>
      cases foundOther : lookup other.ranges codepoint with
      | none => rfl
      | some id =>
          rcases same.mpr ⟨id, foundOther⟩ with ⟨glyph, impossible⟩
          rw [found] at impossible
          cases impossible
  | some id =>
      rcases same.mp ⟨id, found⟩ with ⟨glyph, foundOther⟩
      have agree :=
        (faithful.maps_of_lookup found).unique
          (faithfulOther.maps_of_lookup foundOther)
      rw [foundOther, agree]

end Faithful

/--
The ranges are a faithful image of the font, whatever was requested.  For a
font with steady answers and any row of requests, the ranges are those of the
successful requests in order, each with one glyph per code point; a code point
has a glyph if and only if a successful request asked for it, and it is the
only one that the font substitutes.  Two rows whose successes ask for the same
code points therefore encode every text alike.
-/
theorem requests_faithful (steady : Steady F) (font : F) :
    (∀ requests : List (Nat × Nat),
      ((ofFont font).requestAll requests).ranges.map bounds =
          (ofFont font).successes requests ∧
        (∀ range ∈ ((ofFont font).requestAll requests).ranges,
          range.glyphs.length = range.last - range.first + 1 ∧
            GlyphRange.ofGlyphs? range.first range.last range.glyphs =
              some range) ∧
        ∀ codepoint,
          ((∃ id, lookup ((ofFont font).requestAll requests).ranges
              codepoint = some id) ↔
            Covers ((ofFont font).successes requests) codepoint) ∧
          ∀ id, lookup ((ofFont font).requestAll requests).ranges codepoint =
              some id →
            ∃ glyph sole, Service.glyphId font codepoint = some glyph ∧
              Service.substitute font [glyph] = [sole] ∧
              sole.toNat = id.toNat) ∧
      ∀ first second : List (Nat × Nat),
        (∀ codepoint,
          Covers ((ofFont font).successes first) codepoint ↔
            Covers ((ofFont font).successes second) codepoint) →
        ∀ label text,
          encodeText label ((ofFont font).requestAll first).ranges text =
            encodeText label ((ofFont font).requestAll second).ranges text := by
  constructor
  · intro requests
    rcases faithful_run steady font requests with ⟨faithful, shape⟩
    refine ⟨shape, ?_, ?_⟩
    · intro range member
      have exact := faithful.exact range member
      refine ⟨(GlyphRange.isExact_iff.mp exact).2, ?_⟩
      rw [GlyphRange.ofGlyphs?]
      exact if_pos exact
    · intro codepoint
      constructor
      · rw [← shape, covers_bounds_iff]
        exact exists_lookup_iff faithful.exact
      · intro id found
        exact (faithful.maps_of_lookup found).substitute
  · intro first second same label text
    rcases faithful_run steady font first with ⟨faithfulFirst, firstShape⟩
    rcases faithful_run steady font second with ⟨faithfulSecond, secondShape⟩
    apply encodeText_congr
    intro unit
    apply faithfulFirst.lookup_eq faithfulSecond
    rw [firstShape, secondShape]
    exact same unit

/-- A font that maps `A` to `Z` and replaces the glyph of `C` by two. -/
def ligatureFont : TableFont :=
  ⟨[⟨0x41, 0x5A, 1⟩], [(3, [7, 8])], [], none, [], [], 0⟩

/-- Failed, reversed and overlapping requests leave the same encoder as single ones. -/
theorem requests_faithful_ligatureFont :
    ((ofFont ligatureFont).requestAll
        [(0x41, 0x42), (0x42, 0x43), (0x42, 0x41), (0x42, 0x42)]).ranges.map
        bounds = [(0x41, 0x42), (0x42, 0x42)] ∧
      ∀ label text,
        encodeText label
            ((ofFont ligatureFont).requestAll
              [(0x41, 0x42), (0x42, 0x43), (0x42, 0x41), (0x42, 0x42)]).ranges
            text =
          encodeText label
            ((ofFont ligatureFont).requestAll
              [(0x42, 0x42), (0x41, 0x41)]).ranges text := by
  rcases requests_faithful steady_tableFont ligatureFont with
    ⟨faithful, independent⟩
  have successesFirst :
      (ofFont ligatureFont).successes
          [(0x41, 0x42), (0x42, 0x43), (0x42, 0x41), (0x42, 0x42)] =
        [(0x41, 0x42), (0x42, 0x42)] := by
    decide +kernel
  have successesSecond :
      (ofFont ligatureFont).successes [(0x42, 0x42), (0x41, 0x41)] =
        [(0x42, 0x42), (0x41, 0x41)] := by
    decide +kernel
  constructor
  · rw [(faithful _).1, successesFirst]
  · apply independent
    intro codepoint
    rw [successesFirst, successesSecond]
    simp only [Covers, List.mem_cons, List.not_mem_nil, or_false,
      exists_eq_or_imp, exists_eq_left]
    omega

end FontCompiler.Subset
