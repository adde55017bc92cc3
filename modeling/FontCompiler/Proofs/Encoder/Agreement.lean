import FontCompiler.Ordered
import FontCompiler.Proofs.Encoder.Lookup
import FontCompiler.Proofs.Encoder.Reading
import FontCompiler.Proofs.Encoder.TableNames

/-!
# A generated encoder agrees with the ranges

The method of a generated encoder is run over the units of a text.  Each unit
goes to the first branch that covers it, and the entry of its table is written
as two bytes into an array that was allocated before.  A run can fail for a
missing table, for an index outside an array, or in the exception of the
cascade.

For exact ranges with distinct bounds only the last of these happens.  The run
writes the bytes that the ranges give, and it throws at the unit that has no
glyph.
-/

namespace FontCompiler.Encoder

open Generated

/-! ## Running a method -/

/-- Why a run does not return. -/
inductive Fault
  | undeclaredTable (name : String)
  | indexOutOfBounds
  /-- The exception for a unit outside all branches. -/
  | thrown (unit position : Nat)
  deriving DecidableEq, Repr

/-- Whether a unit lies between the bounds of a branch. -/
def Branch.covers (branch : Branch) (unit : Nat) : Bool :=
  branch.lower ≤ unit && unit ≤ branch.upper

/-- Reads an array; an index below zero is out of bounds like one behind the end. -/
def readEntry (values : List Nat) (unit offset : Nat) : Except Fault Nat :=
  if unit < offset then .error .indexOutOfBounds
  else
    match values[unit - offset]? with
    | some value => .ok value
    | none => .error .indexOutOfBounds

/-- Writes an array. -/
def writeByte (bytes : List UInt8) (index : Nat) (byte : UInt8) : Except Fault (List UInt8) :=
  if index < bytes.length then .ok (bytes.set index byte) else .error .indexOutOfBounds

/-- The cascade: the entry of the table of the first branch that covers a unit. -/
def findEntry (tables : List (String × List Nat)) (branches : List Branch)
    (position unit : Nat) : Except Fault Nat :=
  match branches.find? (·.covers unit) with
  | none => .error (.thrown unit position)
  | some branch =>
    match Ordered.get? branch.table tables with
    | none => .error (.undeclaredTable branch.table)
    | some values => readEntry values unit branch.offset

/-- The loop over the units from a position on. -/
def runUnits (tables : List (String × List Nat)) (branches : List Branch) :
    (position : Nat) → List Nat → List UInt8 → Except Fault (List UInt8)
  | _, [], bytes => .ok bytes
  | position, unit :: units, bytes => do
    let entry ← findEntry tables branches position unit
    let bytes ← writeByte bytes (position * 2) (UInt8.ofNat (entry >>> 8))
    let bytes ← writeByte bytes (position * 2 + 1) (UInt8.ofNat entry)
    runUnits tables branches (position + 1) units bytes

/-- Runs a method with its tables over a text. -/
def Method.run (method : Method) (tables : List (String × List Nat)) (text : String) :
    Except Fault (List UInt8) :=
  let units := Text.utf16 text
  runUnits tables method.branches 0 units (List.replicate (units.length * 2) 0)

/-! ## Tables and their names -/

theorem nodup_tableNames {label : String} {ranges : List GlyphRange}
    (distinct : (ranges.map fun range => (range.first, range.last)).Nodup) :
    ((ranges.map (tableOf label)).map Prod.fst).Nodup := by
  induction ranges with
  | nil => exact List.nodup_nil
  | cons range ranges ih =>
      rcases List.nodup_cons.mp distinct with ⟨fresh, others⟩
      refine List.nodup_cons.mpr ⟨?_, ih others⟩
      intro member
      rcases List.mem_map.mp member with ⟨table, tableMember, same⟩
      rcases List.mem_map.mp tableMember with ⟨other, otherMember, rfl⟩
      rcases eq_of_tableName same with ⟨-, firsts, lasts⟩
      refine fresh (List.mem_map.mpr ⟨other, otherMember, ?_⟩)
      rw [firsts, lasts]

theorem get?_tableOf {label : String} {ranges : List GlyphRange}
    {range : GlyphRange}
    (distinct : ((ranges.map (tableOf label)).map Prod.fst).Nodup)
    (member : range ∈ ranges) :
    Ordered.get? (range.tableName label) (ranges.map (tableOf label)) =
      some (range.glyphs.map UInt16.toNat) := by
  induction ranges with
  | nil => cases member
  | cons head ranges ih =>
      rcases List.nodup_cons.mp distinct with ⟨fresh, others⟩
      rcases List.mem_cons.mp member with rfl | behind
      · simp [Ordered.get?, tableOf]
      · have other : ¬ (head.tableName label == range.tableName label) = true := by
          rw [beq_iff_eq]
          intro same
          refine fresh (List.mem_map.mpr ⟨tableOf label range, ?_, same.symm⟩)
          exact List.mem_map_of_mem behind
        rw [List.map_cons, tableOf, Ordered.get?, if_neg other]
        exact ih others behind

/-! ## One unit -/

theorem find?_branchOf (label : String) (ranges : List GlyphRange)
    (unit : Nat) :
    (ranges.map (branchOf label)).find? (·.covers unit) =
      (ranges.find? (·.contains unit)).map (branchOf label) := by
  rw [List.find?_map]
  rfl

/-- The cascade finds the glyph of a unit, or throws where there is none. -/
theorem findEntry_eq {label : String} {ranges : List GlyphRange}
    (exact : ∀ range ∈ ranges, range.isExact = true)
    (distinct : ((ranges.map (tableOf label)).map Prod.fst).Nodup)
    (position unit : Nat) :
    findEntry (ranges.map (tableOf label)) (ranges.map (branchOf label))
        position unit =
      match lookup ranges unit with
      | some glyph => .ok glyph.toNat
      | none => .error (.thrown unit position) := by
  rw [findEntry, find?_branchOf, lookup]
  cases found : ranges.find? (·.contains unit) with
  | none => rfl
  | some range =>
      have member : range ∈ ranges := List.mem_of_find?_eq_some found
      have contained : range.contains unit = true := by
        have holds := List.find?_some found
        exact holds
      rcases GlyphRange.exists_glyph (exact range member) contained with
        ⟨low, inside, glyph, entry, mapped⟩
      have table := get?_tableOf distinct member
      have above : ¬ unit < range.first := Nat.not_lt.mpr low
      simp only [Option.map_some, branchOf, table, readEntry, above, if_false,
        List.getElem?_map, entry, mapped]

/-! ## The loop -/

/-- Writing behind what is done already replaces the next byte. -/
theorem writeByte_append (done behind : List UInt8) (old byte : UInt8) :
    writeByte (done ++ old :: behind) done.length byte =
      .ok (done ++ byte :: behind) := by
  have room : done.length < (done ++ old :: behind).length := by
    rw [List.length_append, List.length_cons]
    omega
  rw [writeByte, if_pos room, List.set_append_right _ _ (Nat.le_refl _)]
  simp

theorem glyphBytes_eq (glyph : UInt16) :
    [UInt8.ofNat (glyph.toNat >>> 8), UInt8.ofNat glyph.toNat] =
      glyphBytes glyph := by
  have high : UInt8.ofNat (glyph.toNat >>> 8) = (glyph >>> 8).toUInt8 := by
    apply UInt8.toNat_inj.mp
    simp
  have low : UInt8.ofNat glyph.toNat = glyph.toUInt8 := by
    apply UInt8.toNat_inj.mp
    simp
  rw [glyphBytes, high, low]

theorem exists_two_cons {free : List UInt8} {unit : Nat} {units : List Nat}
    (room : free.length = (unit :: units).length * 2) :
    ∃ first second others, free = first :: second :: others := by
  cases free with
  | nil => cases room
  | cons first free =>
      cases free with
      | nil =>
          simp only [List.length_cons, List.length_nil] at room
          omega
      | cons second others => exact ⟨first, second, others, rfl⟩

/--
The invariant of the loop: at each position the bytes of the units before it
are written, and two bytes are free for every unit from there on.
-/
theorem runUnits_eq {label : String} {ranges : List GlyphRange}
    (exact : ∀ range ∈ ranges, range.isExact = true)
    (distinct : ((ranges.map (tableOf label)).map Prod.fst).Nodup)
    (units : List Nat) (position : Nat) (done free : List UInt8)
    (written : done.length = position * 2)
    (room : free.length = units.length * 2) :
    runUnits (ranges.map (tableOf label)) (ranges.map (branchOf label))
        position units (done ++ free) =
      match encodeUnits label ranges position units with
      | .ok bytes => .ok (done ++ bytes)
      | .error unmapped =>
        .error (.thrown unmapped.codepoint unmapped.position) := by
  induction units generalizing position done free with
  | nil =>
      have full : free = [] := List.eq_nil_of_length_eq_zero room
      rw [full]
      rfl
  | cons unit units ih =>
      rw [runUnits, findEntry_eq exact distinct, encodeUnits]
      cases found : lookup ranges unit with
      | none => rfl
      | some glyph =>
          rcases exists_two_cons room with ⟨first, second, others, rfl⟩
          have highWritten :=
            writeByte_append done (second :: others) first
              (UInt8.ofNat (glyph.toNat >>> 8))
          have lowWritten :=
            writeByte_append (done ++ [UInt8.ofNat (glyph.toNat >>> 8)]) others
              second (UInt8.ofNat glyph.toNat)
          have behind :=
            ih (position + 1) (done ++ glyphBytes glyph) others
              (by simp [glyphBytes, written]; omega)
              (by simp only [List.length_cons] at room; omega)
          rw [written] at highWritten
          rw [List.length_append, List.length_singleton, written,
            List.append_assoc, List.append_assoc] at lowWritten
          simp only [List.singleton_append] at lowWritten
          simp only [bind, Except.bind, highWritten, lowWritten]
          rw [← glyphBytes_eq] at behind ⊢
          simp only [List.append_assoc, List.cons_append, List.nil_append] at behind
          rw [behind]
          cases encodeUnits label ranges (position + 1) units with
          | error unmapped => rfl
          | ok bytes => rfl

/-! ## Whole encoders -/

/-- What a run does whose encoding has an outcome. -/
def outcome : Except UnmappedUnit (List UInt8) → Except Fault (List UInt8)
  | .ok bytes => .ok bytes
  | .error unmapped => .error (.thrown unmapped.codepoint unmapped.position)

theorem run_methodOf {label : String} {ranges : List GlyphRange}
    (exact : ∀ range ∈ ranges, range.isExact = true)
    (distinct : ((ranges.map (tableOf label)).map Prod.fst).Nodup)
    (text : String) :
    (methodOf label ranges).run (ranges.map (tableOf label)) text =
      outcome (encodeText label ranges text) := by
  have whole :=
    runUnits_eq exact distinct (Text.utf16 text) 0 []
      (List.replicate ((Text.utf16 text).length * 2) 0) rfl (by simp)
  rw [Method.run, encodeText]
  exact whole

/--
The generated encoder and the ranges agree.  For exact ranges with distinct
bounds both texts are read back, no table is declared twice, every branch has
its table and stays inside it, and a run over a text writes the bytes of its
encoding, or throws at the unit that has none.
-/
theorem encoder_agrees
    (label : String) (ranges : List GlyphRange)
    (identifier : Code.isIdentifier label = true)
    (exact : ∀ range ∈ ranges, range.isExact = true)
    (distinct : (ranges.map fun range => (range.first, range.last)).Nodup) :
    ∃ tables method,
      readTables (scan (tablesSource label ranges)) = some tables ∧
        readMethod (scan (decoderSource label ranges)) = some method ∧
        (tables.map Prod.fst).Nodup ∧
        (∀ branch ∈ method.branches,
          ∃ values, Ordered.get? branch.table tables = some values ∧
            ∀ unit, branch.covers unit = true →
              branch.offset ≤ unit ∧ unit - branch.offset < values.length) ∧
        ∀ text,
          method.run tables text = outcome (encodeText label ranges text) := by
  have names := @nodup_tableNames label ranges distinct
  refine
    ⟨ranges.map (tableOf label), methodOf label ranges,
      readTables_tablesSource ranges identifier,
      readMethod_decoderSource ranges identifier, names, ?_,
      run_methodOf exact names⟩
  intro branch member
  rcases List.mem_map.mp member with ⟨range, rangeMember, rfl⟩
  refine
    ⟨range.glyphs.map UInt16.toNat, get?_tableOf names rangeMember, ?_⟩
  intro unit covered
  rcases GlyphRange.exists_glyph (exact range rangeMember) covered with
    ⟨low, inside, -⟩
  refine ⟨low, ?_⟩
  rw [List.length_map]
  exact inside

/-- Two ranges that overlap, of which the first gives the shared units their glyphs. -/
theorem encoder_agrees_overlapping :
    ∃ tables method,
      readTables
          (scan (tablesSource "Bold" [⟨0x41, 0x42, [1, 256]⟩, ⟨0x42, 0x43, [5, 6]⟩])) =
        some tables ∧
      readMethod
          (scan (decoderSource "Bold" [⟨0x41, 0x42, [1, 256]⟩, ⟨0x42, 0x43, [5, 6]⟩])) =
        some method ∧
      method.run tables "CB" = .ok [0, 6, 1, 0] ∧
      method.run tables "A?" = .error (.thrown 0x3F 1) := by
  rcases
      encoder_agrees "Bold" [⟨0x41, 0x42, [1, 256]⟩, ⟨0x42, 0x43, [5, 6]⟩]
        (by decide) (by decide) (by decide) with
    ⟨tables, method, tablesRead, methodRead, -, -, agrees⟩
  refine ⟨tables, method, tablesRead, methodRead, ?_, ?_⟩
  · rw [agrees]
    decide +kernel
  · rw [agrees]
    decide +kernel

end FontCompiler.Encoder
