import FontCompiler.Proofs.Subset.Requests

/-!
# Faults of requests

A request takes the code points of its interval one after the other, and each
of them goes through the same row of checks.  A code point is encodable if it
passes them all; `Fails` says which check another one does not pass, and with
what it is reported.

Every request either has bounds that are refused, or it stops at the least code
point that is not encodable, or it completes.  What it asks of the font is in
each case a row of selections, in ascending order and without a gap.
-/

namespace FontCompiler.Subset

open Font Encoder

variable {F : Type} [Service F]

/-! ## Checks of a code point -/

/-- The font maps a code point, and replaces its glyph by the given ones. -/
def Replaces (font : F) (codepoint : Nat) (glyphs : List GlyphId) : Prop :=
  ∃ glyph, Service.glyphId font codepoint = some glyph ∧
    Service.substitute font [glyph] = glyphs

/-- A code point has one glyph, of two bytes and with a number below 65536. -/
structure Encodable (font : F) (codepoint : Nat) (sole : GlyphId) : Prop where
  replaces : Replaces font codepoint [sole]
  width : (Service.encodeGlyphId font sole).length = 2
  small : sole.toNat < 65536

/-- The first check that a code point does not pass, and the fault that reports it. -/
inductive Fails (font : F) (codepoint : Nat) : RequestFault → Prop
  | unmapped (missing : Service.glyphId font codepoint = none) :
      Fails font codepoint (.unmappedCodepoint codepoint)
  | multiple {glyphs : List GlyphId} (replaces : Replaces font codepoint glyphs)
      (several : glyphs.length ≠ 1) :
      Fails font codepoint (.multipleGlyphs codepoint glyphs.length)
  | width {sole : GlyphId} (replaces : Replaces font codepoint [sole])
      (width : (Service.encodeGlyphId font sole).length ≠ 2) :
      Fails font codepoint
        (.glyphEncodingWidth codepoint sole (Service.encodeGlyphId font sole).length)
  | large {sole : GlyphId} (replaces : Replaces font codepoint [sole])
      (width : (Service.encodeGlyphId font sole).length = 2) (large : 65536 ≤ sole.toNat) :
      Fails font codepoint (.glyphOutOfRange codepoint sole)

theorem Replaces.unique {font : F} {codepoint : Nat} {glyphs others : List GlyphId}
    (replaces : Replaces font codepoint glyphs) (other : Replaces font codepoint others) :
    glyphs = others := by
  rcases replaces with ⟨glyph, mapped, rfl⟩
  rcases other with ⟨glyph', mapped', rfl⟩
  rw [mapped] at mapped'
  cases mapped'
  rfl

/-- An encodable code point passes every check. -/
theorem Encodable.not_fails {font : F} {codepoint : Nat} {sole : GlyphId}
    (encodable : Encodable font codepoint sole) (fault : RequestFault) :
    ¬ Fails font codepoint fault := by
  intro fails
  cases fails with
  | unmapped missing =>
      rcases encodable.replaces with ⟨glyph, mapped, -⟩
      rw [missing] at mapped
      cases mapped
  | multiple replaces several =>
      cases encodable.replaces.unique replaces
      exact several rfl
  | width replaces width =>
      cases encodable.replaces.unique replaces
      exact width encodable.width
  | large replaces width large =>
      cases encodable.replaces.unique replaces
      exact Nat.not_lt_of_le large encodable.small

theorem encodable_of_soleGlyph {font : F} {codepoint : Nat} {sole : GlyphId} {id : UInt16}
    (found : soleGlyph font codepoint = .ok (sole, id)) :
    Encodable font codepoint sole := by
  have chooses := chooses_of_soleGlyph found
  have small : sole.toNat < 65536 := by
    rw [chooses.number]
    exact id.toNat_lt
  exact ⟨exists_glyph_of_substituted chooses.only, chooses.width, small⟩

theorem fails_of_soleGlyph {font : F} {codepoint : Nat} {fault : RequestFault}
    (failed : soleGlyph font codepoint = .error fault) :
    Fails font codepoint fault := by
  rw [soleGlyph] at failed
  split at failed
  · rename_i missing
    cases failed
    exact .unmapped missing
  · rename_i glyph mapped
    split at failed
    · rename_i sole replaced
      have replaces : Replaces font codepoint [sole] := ⟨glyph, mapped, replaced⟩
      simp only at failed
      split at failed
      · rename_i width
        cases failed
        exact .width replaces width
      · rename_i width
        split at failed
        · cases failed
        · rename_i large
          cases failed
          exact .large replaces (Decidable.not_not.mp width) (Nat.le_of_not_lt large)
    · rename_i glyphs notSole
      cases failed
      refine .multiple ⟨glyph, mapped, rfl⟩ fun single => ?_
      rcases List.length_eq_one_iff.mp single with ⟨sole, replaced⟩
      exact notSole sole replaced

/-! ## Rows of selections -/

/-- The font that was asked to select glyphs for code points, one after the other. -/
def selectAll (font : F) (calls : List (GlyphId × Nat)) : F :=
  calls.foldl (fun font call => Service.addToSubset font call.1 call.2) font

/-- One call for each code point from a first one up to below another, in ascending order and with
the glyph that the font encodes it by. -/
structure CallsBetween (font : F) (first stop : Nat) (calls : List (GlyphId × Nat)) :
    Prop where
  ascending : calls.map Prod.snd = List.range' first (stop - first)
  encodable : ∀ call ∈ calls, Encodable font call.2 call.1

theorem selectRow_eq_selectAll (glyphs : List GlyphId) :
    ∀ (first : Nat) (font : F),
      selectRow first glyphs font = selectAll font (glyphs.zipIdx first) := by
  induction glyphs with
  | nil =>
      intro first font
      rfl
  | cons glyph glyphs ih =>
      intro first font
      rw [selectRow, ih, List.zipIdx_cons]
      rfl

theorem SoleRow.callsBetween {font : F} {first : Nat} {row : List (GlyphId × UInt16)}
    (sole : SoleRow font first row) :
    CallsBetween font first (first + row.length) ((row.map Prod.fst).zipIdx first) where
  ascending := by
    rw [List.zipIdx_map_snd, List.length_map, Nat.add_sub_cancel_left]
  encodable := by
    rintro ⟨glyph, codepoint⟩ member
    rcases List.mk_mem_zipIdx_iff_le_and_getElem?_sub.mp member with ⟨low, listed⟩
    rw [List.getElem?_map, Option.map_eq_some_iff] at listed
    rcases listed with ⟨⟨own, id⟩, listed, rfl⟩
    have found := sole _ _ listed
    rw [Nat.add_sub_of_le low] at found
    exact encodable_of_soleGlyph found

theorem CallsBetween.exists_encodable {font : F} {first stop codepoint : Nat}
    {calls : List (GlyphId × Nat)} (between : CallsBetween font first stop calls)
    (low : first ≤ codepoint) (high : codepoint < stop) :
    ∃ glyph, Encodable font codepoint glyph := by
  have member : codepoint ∈ calls.map Prod.snd := by
    rw [between.ascending, List.mem_range'_1]
    omega
  rcases List.mem_map.mp member with ⟨call, own, rfl⟩
  exact ⟨call.1, between.encodable call own⟩

/-! ## Outcomes of a request -/

/-- A request stops at a code point: all before it are encodable and selected, and it is not. -/
structure StopsAt (subset : Subset F) (first last codepoint : Nat) (fault : RequestFault)
    (after : Subset F) : Prop where
  low : first ≤ codepoint
  high : codepoint ≤ last
  before : ∀ earlier, first ≤ earlier → earlier < codepoint →
    ∃ glyph, Encodable subset.font earlier glyph
  fails : Fails subset.font codepoint fault
  selected : ∃ calls, CallsBetween subset.font first codepoint calls ∧
    after.font = selectAll subset.font calls
  ranges : after.ranges = subset.ranges

/-- A request completes: every code point is encodable and selected, and one range is added, which
holds their glyphs. -/
structure Completes (subset : Subset F) (first last : Nat) (after : Subset F) : Prop where
  all : ∀ codepoint, first ≤ codepoint → codepoint ≤ last →
    ∃ glyph, Encodable subset.font codepoint glyph
  added : ∃ calls, CallsBetween subset.font first (last + 1) calls ∧
    after.font = selectAll subset.font calls ∧
    after.ranges =
      subset.ranges ++ [⟨first, last, calls.map fun call => UInt16.ofNat call.1.toNat⟩]

theorem SoleRow.ids_eq {font : F} {first : Nat} {row : List (GlyphId × UInt16)}
    (sole : SoleRow font first row) :
    row.map Prod.snd =
      ((row.map Prod.fst).zipIdx first).map fun call => UInt16.ofNat call.1.toNat := by
  have same (choice : GlyphId × UInt16) (member : choice ∈ row) :
      choice.2 = UInt16.ofNat choice.1.toNat := by
    rcases List.getElem?_of_mem member with ⟨index, listed⟩
    rw [(chooses_of_soleGlyph (sole index choice listed)).number, UInt16.ofNat_toNat]
  have firsts (number : GlyphId → UInt16) :
      ((row.map Prod.fst).zipIdx first).map (fun call => number call.1) =
        (((row.map Prod.fst).zipIdx first).map Prod.fst).map number := by
    rw [List.map_map]
    rfl
  rw [firsts fun glyph => UInt16.ofNat glyph.toNat, List.zipIdx_map_fst, List.map_map]
  exact List.map_congr_left same

/-- Within bounds that are not refused, a request stops at a code point or completes. -/
theorem stopsAt_or_completes (steady : Steady F) (subset : Subset F) {first last : Nat}
    (ordered : first ≤ last) (inside : last ≤ 0xFFFF) :
    (∃ fault codepoint, (subset.request first last).fault = some fault ∧
        StopsAt subset first last codepoint fault (subset.request first last).subset) ∨
      (subset.request first last).fault = none ∧
        Completes subset first last (subset.request first last).subset := by
  have requests := requesting steady subset first last
  generalize (subset.request first last).fault = fault at requests ⊢
  generalize (subset.request first last).subset = after at requests ⊢
  cases requests with
  | reversed reversed => exact absurd ordered (Nat.not_le_of_lt reversed)
  | outside _ outside => exact absurd inside (Nat.not_le_of_lt outside)
  | @stopped row fault inside short sole fails =>
      have between := sole.callsBetween
      refine .inl ⟨fault, first + row.length, rfl, ?_⟩
      exact
        { low := Nat.le_add_right first row.length
          high := short
          before := fun _ low high => between.exists_encodable low high
          fails := fails_of_soleGlyph fails
          selected := ⟨_, between, selectRow_eq_selectAll _ first _⟩
          ranges := rfl }
  | added row ordered inside full sole =>
      have between := sole.callsBetween
      have stop : first + row.length = last + 1 := by omega
      rw [stop] at between
      refine .inr ⟨rfl, ?_⟩
      exact
        { all := fun _ low high => between.exists_encodable low (Nat.lt_succ_of_le high)
          added := ⟨_, between, selectRow_eq_selectAll _ first _, by rw [sole.ids_eq]⟩ }

theorem request_of_reversed (subset : Subset F) {first last : Nat} (reversed : last < first) :
    subset.request first last = ⟨subset, some (.invalidRange first last), []⟩ := by
  rw [request, if_pos reversed]

theorem request_of_outside (subset : Subset F) {first last : Nat} (ordered : first ≤ last)
    (outside : 0xFFFF < last) :
    subset.request first last = ⟨subset, some (.outsideBasicPlane first last), []⟩ := by
  rw [request, if_neg (Nat.not_lt_of_le ordered), if_pos outside]

/-- The fault of a code point is none of those of bounds. -/
theorem Fails.ne_of_bounds {font : F} {codepoint : Nat} {fault : RequestFault}
    (fails : Fails font codepoint fault) (low high : Nat) :
    fault ≠ .invalidRange low high ∧ fault ≠ .outsideBasicPlane low high := by
  cases fails <;> exact ⟨nofun, nofun⟩

/--
A request reports the first problem and leaves the ranges alone.  Its bounds are
refused if they are reversed, or else if they reach beyond the basic plane, and
then nothing has happened.  Otherwise it succeeds if and only if every code
point between them is encodable.  If not, its fault is the one of the least code
point that is not; the ranges are as before, and the code points in front of
that one have been selected, in ascending order and with their glyphs.  If it
succeeds, each code point has been selected once, in order, and one range is
added.
-/
theorem request_reports_first_fault (steady : Steady F) (subset : Subset F) (first last : Nat) :
    ((∃ low high, (subset.request first last).fault = some (.invalidRange low high)) ↔
        last < first) ∧
      ((∃ low high, (subset.request first last).fault = some (.outsideBasicPlane low high)) ↔
        first ≤ last ∧ 0xFFFF < last) ∧
      (last < first →
        (subset.request first last).fault = some (.invalidRange first last) ∧
          (subset.request first last).subset = subset) ∧
      (first ≤ last → 0xFFFF < last →
        (subset.request first last).fault = some (.outsideBasicPlane first last) ∧
          (subset.request first last).subset = subset) ∧
      (first ≤ last → last ≤ 0xFFFF →
        ((subset.request first last).fault = none ↔
            ∀ codepoint, first ≤ codepoint → codepoint ≤ last →
              ∃ glyph, Encodable subset.font codepoint glyph) ∧
          (∀ fault, (subset.request first last).fault = some fault →
            ∃ codepoint,
              StopsAt subset first last codepoint fault
                (subset.request first last).subset) ∧
          ((subset.request first last).fault = none →
            Completes subset first last (subset.request first last).subset)) := by
  by_cases reversed : last < first
  · have noOrder : ¬ first ≤ last := Nat.not_le_of_lt reversed
    rw [request_of_reversed subset reversed]
    exact
      ⟨iff_of_true ⟨first, last, rfl⟩ reversed, iff_of_false nofun fun bounds => noOrder bounds.1,
        fun _ => ⟨rfl, rfl⟩, fun ordered => absurd ordered noOrder,
        fun ordered => absurd ordered noOrder⟩
  have ordered : first ≤ last := Nat.le_of_not_lt reversed
  by_cases outside : 0xFFFF < last
  · rw [request_of_outside subset ordered outside]
    exact
      ⟨iff_of_false nofun reversed, iff_of_true ⟨first, last, rfl⟩ ⟨ordered, outside⟩,
        fun below => absurd below reversed, fun _ _ => ⟨rfl, rfl⟩,
        fun _ inside => absurd inside (Nat.not_le_of_lt outside)⟩
  have notOutside : ¬(first ≤ last ∧ 0xFFFF < last) := fun bounds => outside bounds.2
  have outcome := stopsAt_or_completes steady subset ordered (Nat.le_of_not_lt outside)
  generalize (subset.request first last).fault = reported at outcome ⊢
  generalize (subset.request first last).subset = after at outcome ⊢
  rcases outcome with ⟨fault, codepoint, rfl, stops⟩ | ⟨rfl, completes⟩
  · refine
      ⟨iff_of_false ?_ reversed, iff_of_false ?_ notOutside, fun below => absurd below reversed,
        fun _ beyond => absurd beyond outside, fun _ _ => ⟨iff_of_false nofun ?_, ?_, nofun⟩⟩
    · rintro ⟨low, high, same⟩
      exact (stops.fails.ne_of_bounds low high).1 (Option.some.inj same)
    · rintro ⟨low, high, same⟩
      exact (stops.fails.ne_of_bounds low high).2 (Option.some.inj same)
    · intro all
      rcases all codepoint stops.low stops.high with ⟨glyph, encodable⟩
      exact encodable.not_fails fault stops.fails
    · intro other same
      cases same
      exact ⟨codepoint, stops⟩
  · exact
      ⟨iff_of_false nofun reversed, iff_of_false nofun notOutside,
        fun below => absurd below reversed, fun _ beyond => absurd beyond outside,
        fun _ _ => ⟨iff_of_true rfl completes.all, nofun, fun _ => completes⟩⟩

/-- A subset that has a range already, of a font that replaces the glyph of `C` by two. -/
def startedSubset : Subset TableFont :=
  ⟨ligatureFont, [⟨0x5A, 0x5A, [26]⟩]⟩

/-- A request that stops behind two selections, and one that completes. -/
theorem request_reports_first_fault_startedSubset :
    (∃ codepoint,
        StopsAt startedSubset 0x41 0x5A codepoint (.multipleGlyphs 0x43 2)
          (startedSubset.request 0x41 0x5A).subset) ∧
      Completes startedSubset 0x44 0x46 (startedSubset.request 0x44 0x46).subset ∧
      (startedSubset.request 0xFFF0 0x10000).subset = startedSubset := by
  have stopped := request_reports_first_fault steady_tableFont startedSubset 0x41 0x5A
  have completed := request_reports_first_fault steady_tableFont startedSubset 0x44 0x46
  have refused := request_reports_first_fault steady_tableFont startedSubset 0xFFF0 0x10000
  refine ⟨?_, ?_, ?_⟩
  · exact (stopped.2.2.2.2 (by decide) (by decide)).2.1 _ (by decide +kernel)
  · exact (completed.2.2.2.2 (by decide) (by decide)).2.2 (by decide +kernel)
  · exact (refused.2.2.2.1 (by decide) (by decide)).2

end FontCompiler.Subset
