import FontCompiler.Proofs.Encoder.Lookup
import FontCompiler.Proofs.Text.Utf16

/-!
# Encoding texts that are put together

Texts are encoded unit by unit, and only the positions of units depend on what
stands in front of them.  The bytes of two texts, one behind the other, are
therefore the bytes of the first and those of the second; and where the second
stops, the whole stops at the same unit, as many positions further on as the
first text has units.

A character beyond the basic plane counts as two units.  Nothing is assumed of
the ranges: a range that is too short for its bounds maps some of the units
between them to nothing, whatever ranges follow.
-/

namespace FontCompiler.Encoder

variable {label : String} {ranges : List GlyphRange}

/-! ## Positions -/

/-- The same unit in a text that has a number of units in front. -/
def UnmappedUnit.behind (count : Nat) (unmapped : UnmappedUnit) : UnmappedUnit :=
  { unmapped with position := unmapped.position + count }

theorem encodeUnits_behind (count : Nat) (units : List Nat) (position : Nat) :
    encodeUnits label ranges (position + count) units =
      (encodeUnits label ranges position units).mapError (·.behind count) := by
  induction units generalizing position with
  | nil => rfl
  | cons unit units ih =>
      rw [encodeUnits, encodeUnits]
      cases lookup ranges unit with
      | none => rfl
      | some glyph =>
          rw [Nat.add_right_comm]
          simp only [ih (position + 1)]
          cases encodeUnits label ranges (position + 1) units <;> rfl

/-! ## Rows of units -/

theorem encodeUnits_append (first second : List Nat) (position : Nat) :
    encodeUnits label ranges position (first ++ second) = do
      let front ← encodeUnits label ranges position first
      let back ← encodeUnits label ranges (position + first.length) second
      return front ++ back := by
  induction first generalizing position with
  | nil =>
      rw [List.nil_append, encodeUnits, List.length_nil, Nat.add_zero]
      cases encodeUnits label ranges position second <;> rfl
  | cons unit first ih =>
      rw [List.cons_append, encodeUnits, encodeUnits, List.length_cons, Nat.add_comm first.length,
        ← Nat.add_assoc]
      cases lookup ranges unit with
      | none => rfl
      | some glyph =>
          simp only [ih (position + 1)]
          cases encodeUnits label ranges (position + 1) first with
          | error stop => rfl
          | ok front =>
              cases encodeUnits label ranges (position + 1 + first.length) second with
              | error stop => rfl
              | ok back => exact congrArg Except.ok (List.append_assoc _ front back).symm

/-- Where the second text stops, the positions count on from the end of the first. -/
theorem encodeText_append (first second : String) :
    encodeText label ranges (first ++ second) = do
      let front ← encodeText label ranges first
      let back ←
        (encodeText label ranges second).mapError (·.behind (Text.utf16 first).length)
      return front ++ back := by
  rw [encodeText, Text.utf16_append, encodeUnits_append, encodeUnits_behind]
  rfl

/-! ## The first unit without a glyph -/

/-- A unit of a row has no glyph, and all units in front of it have one. -/
structure FirstUnmapped (ranges : List GlyphRange) (units : List Nat)
    (position codepoint : Nat) : Prop where
  there : units[position]? = some codepoint
  unmapped : lookup ranges codepoint = none
  least : ∀ earlier < position, ∀ unit, units[earlier]? = some unit →
    lookup ranges unit ≠ none

theorem FirstUnmapped.unique {units : List Nat} {position other codepoint unit : Nat}
    (one : FirstUnmapped ranges units position codepoint)
    (another : FirstUnmapped ranges units other unit) :
    position = other ∧ codepoint = unit := by
  have same : position = other := by
    rcases Nat.lt_trichotomy position other with before | same | behind
    · exact absurd one.unmapped (another.least position before codepoint one.there)
    · exact same
    · exact absurd another.unmapped (one.least other behind unit another.there)
  refine ⟨same, Option.some.inj ?_⟩
  rw [← one.there, same, another.there]

theorem Found.lookup_ne_none {units : List Nat} {glyphs : List UInt16}
    (found : Found ranges units glyphs) :
    ∀ unit ∈ units, lookup ranges unit ≠ none := by
  induction found with
  | nil => exact nofun
  | cons own _ ih =>
      rw [List.forall_mem_cons]
      refine ⟨?_, ih⟩
      rw [own]
      exact Option.some_ne_none _

theorem Found.firstUnmapped {front : List Nat} {unit : Nat} {glyphs : List UInt16}
    (found : Found ranges front glyphs) (missing : lookup ranges unit = none) (back : List Nat) :
    FirstUnmapped ranges (front ++ unit :: back) front.length unit where
  there := by simp
  unmapped := missing
  least := by
    intro earlier before other listed
    rw [List.getElem?_append_left before] at listed
    exact found.lookup_ne_none other (List.mem_of_getElem? listed)

/-- A text is refused for its first unit without a glyph, and only for such a unit. -/
theorem encodeText_eq_error_iff {text : String} {stop : UnmappedUnit} :
    encodeText label ranges text = .error stop ↔
      FirstUnmapped ranges (Text.utf16 text) stop.position stop.codepoint ∧
        stop.font = label := by
  have ends := encoding label ranges (Text.utf16 text) 0
  rw [encodeText]
  generalize encodeUnits label ranges 0 (Text.utf16 text) = outcome at ends
  cases ends with
  | complete found =>
      refine iff_of_false nofun ?_
      rintro ⟨first, -⟩
      exact found.lookup_ne_none _ (List.mem_of_getElem? first.there) first.unmapped
  | @stopped front back unit glyphs row found missing =>
      have first := found.firstUnmapped missing back
      rw [← row] at first
      rw [Nat.zero_add]
      constructor
      · intro same
        cases same
        exact ⟨first, rfl⟩
      · rintro ⟨other, rfl⟩
        rcases first.unique other with ⟨samePosition, sameUnit⟩
        rw [samePosition, sameUnit]

theorem exists_error_iff {text : String} :
    (∃ stop, encodeText label ranges text = .error stop) ↔
      ∃ unit ∈ Text.utf16 text, lookup ranges unit = none := by
  have ends := encoding label ranges (Text.utf16 text) 0
  rw [encodeText]
  generalize encodeUnits label ranges 0 (Text.utf16 text) = outcome at ends
  cases ends with
  | complete found =>
      refine iff_of_false nofun ?_
      rintro ⟨unit, member, missing⟩
      exact found.lookup_ne_none unit member missing
  | @stopped front back unit glyphs row found missing =>
      refine iff_of_true ⟨_, rfl⟩ ⟨unit, ?_, missing⟩
      rw [row]
      exact List.mem_append_right front List.mem_cons_self

theorem length_of_encodeText {text : String} {bytes : List UInt8}
    (encoded : encodeText label ranges text = .ok bytes) :
    bytes.length = 2 * (Text.utf16 text).length := by
  rcases exists_found_of_encodeText encoded with ⟨glyphs, found, rfl⟩
  rw [length_flatMap_glyphBytes, found.length_eq]

/-! ## Two texts, one behind the other -/

/--
Encoding respects the putting together of texts.  If both texts are encoded, so
is the whole, and its bytes are those of the first and then those of the second,
two for every unit.  If the first is refused, the whole is refused for the same
unit at the same position; if only the second is, the whole is refused for the
same unit, further on by the units of the first.  A text is refused exactly if
some unit of it has no glyph, and then for the first such unit.
-/
theorem encodeText_homomorphic (label : String) (ranges : List GlyphRange)
    (first second : String) :
    (∀ front back, encodeText label ranges first = .ok front →
        encodeText label ranges second = .ok back →
          encodeText label ranges (first ++ second) = .ok (front ++ back)) ∧
      (∀ text bytes, encodeText label ranges text = .ok bytes →
        bytes.length = 2 * (Text.utf16 text).length) ∧
      (∀ stop, encodeText label ranges first = .error stop →
        encodeText label ranges (first ++ second) = .error stop) ∧
      (∀ front stop, encodeText label ranges first = .ok front →
        encodeText label ranges second = .error stop →
          encodeText label ranges (first ++ second) =
            .error ⟨stop.codepoint, stop.position + (Text.utf16 first).length, stop.font⟩) ∧
      ∀ text,
        ((∃ stop, encodeText label ranges text = .error stop) ↔
            ∃ unit ∈ Text.utf16 text, lookup ranges unit = none) ∧
          ∀ stop, encodeText label ranges text = .error stop ↔
            FirstUnmapped ranges (Text.utf16 text) stop.position stop.codepoint ∧
              stop.font = label := by
  refine ⟨?_, fun text bytes => length_of_encodeText, ?_, ?_, ?_⟩
  · intro front back encodedFirst encodedSecond
    rw [encodeText_append, encodedFirst, encodedSecond]
    rfl
  · intro stop refused
    rw [encodeText_append, refused]
    rfl
  · intro front stop encoded refused
    rw [encodeText_append, encoded, refused]
    rfl
  · exact fun text => ⟨exists_error_iff, fun stop => encodeText_eq_error_iff⟩

/-- Ranges of which the first has no glyphs for most of its bounds, and one for a surrogate. -/
def shortRanges : List GlyphRange :=
  [⟨0x41, 0x43, [36]⟩, ⟨0x42, 0x44, [7, 8, 9]⟩, ⟨0xD83D, 0xD83D, [5]⟩, ⟨0xDE00, 0xDE00, [6]⟩]

/-- Behind a letter and a pair of surrogates, a unit in the gap of the first range stops the
text. -/
theorem encodeText_homomorphic_shortRanges :
    encodeText "Bold" shortRanges ("A😀" ++ "DA") =
        .ok [0, 36, 0, 5, 0, 6, 0, 9, 0, 36] ∧
      encodeText "Bold" shortRanges ("A😀" ++ "DB") = .error ⟨0x42, 4, "Bold"⟩ ∧
      encodeText "Bold" shortRanges ("DB" ++ "A😀") = .error ⟨0x42, 1, "Bold"⟩ ∧
      FirstUnmapped shortRanges (Text.utf16 "DB") 1 0x42 := by
  have front : encodeText "Bold" shortRanges "A😀" = .ok [0, 36, 0, 5, 0, 6] := rfl
  have back : encodeText "Bold" shortRanges "DA" = .ok [0, 9, 0, 36] := rfl
  have refused : encodeText "Bold" shortRanges "DB" = .error ⟨0x42, 1, "Bold"⟩ := rfl
  have laws := encodeText_homomorphic "Bold" shortRanges
  exact
    ⟨(laws _ _).1 _ _ front back, (laws _ _).2.2.2.1 _ _ front refused,
      (laws _ _).2.2.1 _ refused, (((laws "DB" "").2.2.2.2 "DB").2 _).mp refused |>.1⟩

end FontCompiler.Encoder
