import FontCompiler.Encoder.GlyphRange
import Mathlib.Data.List.Forall2

/-!
# Lookups in glyph ranges

An exact range has a glyph for every code point between its bounds.  A list of
exact ranges therefore has a glyph for just those code points that some range
contains, and two lists that agree on every code point encode every text alike.

The encoding of a row of units ends in one of two ways: all units have a glyph,
or there is a first one that has none.  In the first case the numbers of the
glyphs can be read back, two bytes to each.
-/

namespace FontCompiler.Encoder

variable {ranges : List GlyphRange} {codepoint : Nat}

theorem GlyphRange.contains_iff {range : GlyphRange} :
    range.contains codepoint = true ↔
      range.first ≤ codepoint ∧ codepoint ≤ range.last := by
  simp [contains]

theorem GlyphRange.isExact_iff {range : GlyphRange} :
    range.isExact = true ↔
      range.first ≤ range.last ∧
        range.glyphs.length = range.last - range.first + 1 := by
  simp [isExact]

/-- An exact range has a glyph for every code point that it contains. -/
theorem GlyphRange.exists_glyph {range : GlyphRange}
    (exact : range.isExact = true)
    (contained : range.contains codepoint = true) :
    range.first ≤ codepoint ∧
      codepoint - range.first < range.glyphs.length ∧
      ∃ glyph, range.glyphs[codepoint - range.first]? = some glyph ∧
        range.glyph? codepoint = some glyph := by
  rcases isExact_iff.mp exact with ⟨ordered, full⟩
  rcases contains_iff.mp contained with ⟨low, high⟩
  have inside : codepoint - range.first < range.glyphs.length := by omega
  refine ⟨low, inside, range.glyphs[codepoint - range.first], ?_, ?_⟩
  · exact List.getElem?_eq_getElem inside
  · rw [glyph?, if_pos contained]
    exact List.getElem?_eq_getElem inside

theorem exists_range_of_lookup {glyph : UInt16}
    (found : lookup ranges codepoint = some glyph) :
    ∃ range ∈ ranges, range.contains codepoint = true ∧
      range.glyph? codepoint = some glyph := by
  unfold lookup at found
  split at found
  · rename_i range first
    have contained := List.find?_some first
    exact ⟨range, List.mem_of_find?_eq_some first, contained, found⟩
  · cases found

/-- Exact ranges have a glyph for a code point if one of them contains it. -/
theorem exists_lookup_iff
    (exact : ∀ range ∈ ranges, range.isExact = true) :
    (∃ glyph, lookup ranges codepoint = some glyph) ↔
      ∃ range ∈ ranges, range.contains codepoint = true := by
  constructor
  · rintro ⟨glyph, found⟩
    rcases exists_range_of_lookup found with ⟨range, member, contained, -⟩
    exact ⟨range, member, contained⟩
  · rintro ⟨range, member, contained⟩
    rw [lookup]
    cases first : ranges.find? (·.contains codepoint) with
    | none =>
        have absent := List.find?_eq_none.mp first range member
        exact absurd contained absent
    | some earlier =>
        have earlierContains := List.find?_some first
        rcases
            GlyphRange.exists_glyph
              (exact earlier (List.mem_of_find?_eq_some first)) earlierContains with
          ⟨-, -, glyph, -, mapped⟩
        exact ⟨glyph, mapped⟩

/-- Only the lookups of single units matter to the encoding of a row of them. -/
theorem encodeUnits_congr {first second : List GlyphRange}
    (same : ∀ unit, lookup first unit = lookup second unit)
    (label : String) (units : List Nat) (position : Nat) :
    encodeUnits label first position units =
      encodeUnits label second position units := by
  induction units generalizing position with
  | nil => rfl
  | cons unit units ih =>
      rw [encodeUnits, encodeUnits, same]
      cases lookup second unit with
      | none => rfl
      | some glyph => simp only [ih]

theorem encodeText_congr {first second : List GlyphRange}
    (same : ∀ unit, lookup first unit = lookup second unit)
    (label text : String) :
    encodeText label first text = encodeText label second text :=
  encodeUnits_congr same label (Text.utf16 text) 0

/-! ## How an encoding ends -/

/-- The glyphs of a row of units, one for each. -/
abbrev Found (ranges : List GlyphRange) : List Nat → List UInt16 → Prop :=
  List.Forall₂ fun unit glyph => lookup ranges unit = some glyph

/-- How the encoding of a row of units ends, the first of which has a given position. -/
inductive Encoding (label : String) (ranges : List GlyphRange) (position : Nat)
    (units : List Nat) : Except UnmappedUnit (List UInt8) → Prop
  | complete {glyphs : List UInt16} (found : Found ranges units glyphs) :
      Encoding label ranges position units (.ok (glyphs.flatMap glyphBytes))
  | stopped {front back : List Nat} {unit : Nat} {glyphs : List UInt16}
      (row : units = front ++ unit :: back)
      (found : Found ranges front glyphs)
      (missing : lookup ranges unit = none) :
      Encoding label ranges position units
        (.error ⟨unit, position + front.length, label⟩)

/-- A unit that has a glyph goes in front of the others. -/
theorem Encoding.cons {label : String} {position unit : Nat} {units : List Nat}
    {glyph : UInt16} {result : Except UnmappedUnit (List UInt8)}
    (own : lookup ranges unit = some glyph)
    (others : Encoding label ranges (position + 1) units result) :
    Encoding label ranges position (unit :: units)
      (do return glyphBytes glyph ++ (← result)) := by
  cases others with
  | complete found => exact .complete (.cons own found)
  | @stopped front back other glyphs row found missing =>
      have shifted :
          position + 1 + front.length = position + (unit :: front).length := by
        rw [List.length_cons]
        omega
      rw [shifted]
      exact .stopped (congrArg (unit :: ·) row) (.cons own found) missing

theorem encoding (label : String) (ranges : List GlyphRange) (units : List Nat) :
    ∀ position : Nat,
      Encoding label ranges position units
        (encodeUnits label ranges position units) := by
  induction units with
  | nil =>
      intro position
      exact .complete .nil
  | cons unit units ih =>
      intro position
      rw [encodeUnits]
      cases own : lookup ranges unit with
      | none => exact .stopped (List.nil_append _).symm .nil own
      | some glyph => exact .cons own (ih (position + 1))

/-- A unit without a glyph stops the encoding, unless an earlier one does. -/
theorem exists_error_of_missing {unit : Nat} (label : String)
    (missing : lookup ranges unit = none) (front back : List Nat) :
    ∀ position : Nat, ∃ other stop,
      encodeUnits label ranges position (front ++ unit :: back) =
          .error ⟨other, stop, label⟩ ∧
        stop ≤ position + front.length := by
  induction front with
  | nil =>
      intro position
      refine ⟨unit, position, ?_, Nat.le_refl _⟩
      rw [List.nil_append, encodeUnits, missing]
  | cons first front ih =>
      intro position
      rw [List.cons_append, encodeUnits]
      cases lookup ranges first with
      | none => exact ⟨first, position, rfl, Nat.le_add_right _ _⟩
      | some glyph =>
          rcases ih (position + 1) with ⟨other, stop, stopped, bound⟩
          refine ⟨other, stop, ?_, ?_⟩
          · simp only [stopped]
            rfl
          · rw [List.length_cons]
            omega

theorem exists_found_of_encodeText {label text : String} {bytes : List UInt8}
    (encoded : encodeText label ranges text = .ok bytes) :
    ∃ glyphs, Found ranges (Text.utf16 text) glyphs ∧
      bytes = glyphs.flatMap glyphBytes := by
  have ends := encoding label ranges (Text.utf16 text) 0
  have encoded : encodeUnits label ranges 0 (Text.utf16 text) = .ok bytes :=
    encoded
  rw [encoded] at ends
  cases ends with
  | complete found => exact ⟨_, found, rfl⟩

/-! ## Pairs of bytes -/

/-- The numbers that a row of bytes spells, two to each and the high one first. -/
def pairValues : List UInt8 → List Nat
  | high :: low :: bytes => (high.toNat * 0x100 + low.toNat) :: pairValues bytes
  | _ => []

@[simp]
theorem pairValues_flatMap_glyphBytes (glyphs : List UInt16) :
    pairValues (glyphs.flatMap glyphBytes) = glyphs.map UInt16.toNat := by
  induction glyphs with
  | nil => rfl
  | cons glyph glyphs ih =>
      have value :
          (glyph >>> 8).toUInt8.toNat * 0x100 + glyph.toUInt8.toNat =
            glyph.toNat := by
        have small := glyph.toNat_lt
        rw [UInt16.toNat_toUInt8, UInt16.toNat_toUInt8, UInt16.toNat_shiftRight]
        simp [Nat.shiftRight_eq_div_pow]
        omega
      rw [List.flatMap_cons, List.map_cons, ← ih, ← value]
      rfl

@[simp]
theorem length_flatMap_glyphBytes (glyphs : List UInt16) :
    (glyphs.flatMap glyphBytes).length = 2 * glyphs.length := by
  induction glyphs with
  | nil => rfl
  | cons glyph glyphs ih =>
      rw [List.flatMap_cons, List.length_append, ih, List.length_cons,
        glyphBytes]
      simp
      omega

end FontCompiler.Encoder
