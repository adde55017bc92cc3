import FontCompiler.Proofs.Manifest.Fonts
import FontCompiler.Proofs.Manifest.Grammar

/-!
# Character maps

The character map of a manifest may name a code point in several notations.
This module follows its entries from the value of the manifest to the font: of
the entries that denote a code point the last one gives its glyph.
-/

namespace FontCompiler.Manifest

open Json Font

/-- A part of a record: the value under the name of a field, or the item in its place. -/
def IsPart (names : List String) (name : String) (part : Value) : Grammar
  | .object entries => (name, part) ∈ entries
  | .array items => (name, part) ∈ names.zip items
  | _ => False

/-- An entry whose key denotes a code point. -/
def Names (codepoint : Nat) (entry : String × Value) : Prop :=
  DenotesCodepoint (.string entry.1) codepoint

/-- The value of a glyph. -/
def glyphValue (glyph : GlyphId) : Value :=
  .number (.int glyph.toNat)

theorem glyphValue_injective {glyph other : GlyphId}
    (same : glyphValue glyph = glyphValue other) : glyph = other := by
  rw [glyphValue, glyphValue, Value.number.injEq, Number.int.injEq] at same
  exact UInt32.toNat_inj.mp (by exact_mod_cast same)

/-! ## Entries -/

/-- An entry of a character map and what it is decoded to. -/
structure EntryDecodes (entry : String × Value) (write : Nat × GlyphId) : Prop where
  key : DenotesCodepoint (.string entry.1) write.1
  value : entry.2 = glyphValue write.2

theorem names_iff_of_entryDecodes {entry : String × Value} {write : Nat × GlyphId}
    (decodes : EntryDecodes entry write) (codepoint : Nat) :
    Names codepoint entry ↔ write.1 = codepoint := by
  have read := Codepoint.ofValue_eq_ok_iff.mpr decodes.key
  rw [Names, ← Codepoint.ofValue_eq_ok_iff, read, Except.ok.injEq]

theorem eq_of_decodeGlyph {location : Location} {value : Value} {glyph : GlyphId}
    (decoded : decodeGlyph location (.ofValue value) = .ok glyph) :
    value = glyphValue glyph := by
  rcases exists_of_bind_ok decoded with ⟨number, read, finished⟩
  cases finished
  unfold decodeNat at read
  split at read
  · rename_i written
    split at read
    · rename_i within
      cases read
      cases value <;> simp only [Json.Draft.ofValue, reduceCtorEq] at written
      cases written
      have small := within.2
      rw [Codepoint.wordLimit] at small
      rw [glyphValue, UInt32.toNat_ofNat_of_lt' (by omega), Int.toNat_of_nonneg within.1]
    · cases read
  · cases read

theorem denotes_of_decodeCodepointKey {location : Location} {key : DraftKey}
    {decoded : Nat × String} {name : String} (written : key.text = .ok name)
    (read : decodeCodepointKey location key = .ok decoded) :
    DenotesCodepoint (.string name) decoded.1 := by
  rw [decodeCodepointKey, Json.Draft.read_of_text written, orBreak_ok, ok_bind] at read
  cases own : Codepoint.ofValue (.string name) with
  | error fault =>
      rw [own] at read
      cases read
  | ok codepoint =>
      rw [own] at read
      cases read
      exact Codepoint.ofValue_eq_ok_iff.mp own

theorem entryDecodes_of_decodeMapEntries {location : Location}
    {entries : List (String × Value)} :
    ∀ {writes : List (Nat × GlyphId)},
      decodeMapEntries decodeCodepointKey decodeGlyph location
          (Json.Draft.ofEntries entries) = .ok writes →
        List.Forall₂ EntryDecodes entries writes := by
  induction entries with
  | nil =>
      intro writes decoded
      cases decoded
      exact .nil
  | cons entry entries ih =>
      intro writes decoded
      rcases entry with ⟨name, value⟩
      rw [Json.Draft.ofEntries, decodeMapEntries] at decoded
      rcases exists_of_bind_ok decoded with ⟨key, readKey, decoded⟩
      rcases exists_of_bind_ok decoded with ⟨glyph, readValue, decoded⟩
      rcases exists_of_bind_ok decoded with ⟨others, readOthers, finished⟩
      cases finished
      exact .cons ⟨denotes_of_decodeCodepointKey rfl readKey, eq_of_decodeGlyph readValue⟩
        (ih readOthers)

/-- Where a code point is looked up, the last entry that denotes it counts. -/
structure Resolves (entries : List (String × Value)) (lookup : Nat → Option GlyphId) : Prop where
  some_iff : ∀ codepoint glyph, lookup codepoint = some glyph ↔
    ∃ key, Ordered.IsLast (Names codepoint) entries (key, glyphValue glyph)
  none_iff : ∀ codepoint, lookup codepoint = none ↔
    ∀ entry ∈ entries, ¬ Names codepoint entry

theorem resolves_ofList {entries : List (String × Value)} {writes : List (Nat × GlyphId)}
    (related : List.Forall₂ EntryDecodes entries writes) :
    Resolves entries fun codepoint => Ordered.get? codepoint (Ordered.ofList writes) where
  some_iff codepoint glyph := by
    rw [Ordered.get?_ofList_eq_some_iff]
    constructor
    · intro last
      have agrees : ∀ write entry, EntryDecodes entry write →
          (write.1 = codepoint ↔ Names codepoint entry) :=
        fun write entry decodes => (names_iff_of_entryDecodes decodes codepoint).symm
      rcases Ordered.exists_isLast_of_forall₂ agrees related.flip last with
        ⟨⟨key, value⟩, decodes, found⟩
      cases decodes.value
      exact ⟨key, found⟩
    · rintro ⟨key, last⟩
      have agrees : ∀ entry write, EntryDecodes entry write →
          (Names codepoint entry ↔ write.1 = codepoint) :=
        fun entry write decodes => names_iff_of_entryDecodes decodes codepoint
      rcases Ordered.exists_isLast_of_forall₂ agrees related last with
        ⟨⟨other, result⟩, decodes, found⟩
      cases glyphValue_injective decodes.value
      cases found.holds
      exact found
  none_iff codepoint := by
    rw [Ordered.get?_ofList_eq_none_iff]
    refine (Ordered.forall_not_iff_of_forall₂ ?_ related).symm
    exact fun entry write decodes => names_iff_of_entryDecodes decodes codepoint

theorem exists_entries_of_decodeCmap {location : Location} {value : Value}
    {cmap : List (Nat × GlyphId)}
    (decoded : decodeCmap location (.ofValue value) = .ok cmap) :
    ∃ entries, value = .object entries ∧
      Resolves entries fun codepoint => Ordered.get? codepoint cmap := by
  cases value with
  | object entries =>
      rw [Json.Draft.ofValue, decodeCmap, decodeMap] at decoded
      rcases exists_of_bind_ok decoded with ⟨writes, read, finished⟩
      cases finished
      exact ⟨entries, rfl, resolves_ofList (entryDecodes_of_decodeMapEntries read)⟩
  | _ => cases decoded

/-! ## Manifests -/

theorem exists_of_decodeItem_ok {α : Type} {decode : Decoder α} {location : Location}
    {items : List Value} {record : String} {count index : Nat} {result : α}
    (decoded :
      decodeItem decode location (Json.Draft.ofItems items) none record count index =
        .ok result) :
    ∃ place item, items[index]? = some item ∧ decode place (.ofValue item) = .ok result := by
  rw [decodeItem, decodeItem?, ofItems_eq_map, List.getElem?_map] at decoded
  cases found : items[index]? with
  | none =>
      rw [found] at decoded
      cases decoded
  | some item =>
      rw [found] at decoded
      rcases exists_of_bind_ok decoded with ⟨value, bound, finished⟩
      rcases exists_of_bind_ok bound with ⟨own, read, same⟩
      cases same
      cases finished
      exact ⟨_, item, rfl, read⟩

/-- The character map of a manifest is decoded from its part of this name. -/
theorem exists_part_of_ofValue {value : Value} {document : Document}
    (decoded : Document.ofValue value = .ok document) :
    ∃ place part, IsPart documentFields "cmap" part value ∧
      decodeCmap place (.ofValue part) = .ok document.cmap := by
  rw [Document.ofValue] at decoded
  cases value with
  | array items =>
      rw [Json.Draft.ofValue, decodeDocument] at decoded
      rcases exists_of_bind_ok decoded with ⟨label, -, decoded⟩
      rcases exists_of_bind_ok decoded with ⟨encodingWidth, -, decoded⟩
      rcases exists_of_bind_ok decoded with ⟨cmap, read, decoded⟩
      rcases exists_of_bind_ok decoded with ⟨substitutions, -, decoded⟩
      rcases exists_of_bind_ok decoded with ⟨ranges, -, decoded⟩
      rcases exists_of_bind_ok decoded with ⟨graph, -, decoded⟩
      rcases exists_of_bind_ok decoded with ⟨_, -, finished⟩
      cases finished
      rcases exists_of_decodeItem_ok read with ⟨place, part, found, read⟩
      refine ⟨place, part, ?_, read⟩
      exact List.mem_of_getElem? (i := 2) (by rw [List.getElem?_zip_eq_some]; exact ⟨rfl, found⟩)
  | object entries =>
      rw [Json.Draft.ofValue, decodeDocument] at decoded
      rcases exists_of_bind_ok decoded with ⟨fields, read, decoded⟩
      rcases exists_of_bind_ok decoded with ⟨label, -, decoded⟩
      rcases exists_of_bind_ok decoded with ⟨cmap, required, decoded⟩
      rcases exists_of_bind_ok decoded with ⟨graph, -, finished⟩
      cases finished
      rcases (decodesInto_cmap .value).get_of_decodeFields entries read with
        ⟨part, place, result, member, readPart, got⟩ | ⟨-, unknown⟩
      · rw [got] at required
        cases required
        exact ⟨place, part, member, readPart⟩
      · rw [unknown] at required
        cases required
  | _ => cases decoded

/-- The decoding of a value succeeds on exactly the manifests, and a font of a manifest maps a
code point to the value of the last entry, in document order, whose key denotes it in any of its
notations. -/
theorem ofValue_recognizes_and_resolves (value : Value) :
    (Succeeds (Document.ofValue value) ↔ IsManifest value) ∧
      ∀ document, Document.ofValue value = .ok document →
        ∃ entries, IsPart documentFields "cmap" (.object entries) value ∧
          ∀ {σ : Type} (read : Reader (StateM σ)) (base : String) (state : σ)
              (font : ManifestFont),
            ((ManifestFont.ofDocument read base document).run state).1 = .ok font →
              Resolves entries (Service.glyphId font) := by
  refine ⟨recognizes_document [] value, ?_⟩
  intro document decoded
  rcases exists_part_of_ofValue decoded with ⟨place, part, isPart, readPart⟩
  rcases exists_entries_of_decodeCmap readPart with ⟨entries, rfl, resolves⟩
  refine ⟨entries, isPart, ?_⟩
  intro σ read base state font accepted
  rcases (accepts_of_ofDocument accepted).fields with ⟨graph, rfl⟩
  exact resolves

/-- A manifest that names one code point three times. -/
def respelledManifest : Value :=
  .object
    [("label", .string "Respelled"),
      ("cmap",
        .object
          [("U+0041", .number (.int 3)), ("65", .number (.int 4)), ("0x41", .number (.int 5)),
            ("U+42", .number (.int 7))]),
      ("graph", .object [])]

/-- The document of this manifest. -/
def respelledDocument : Document :=
  ⟨"Respelled", defaultEncodingWidth, [(65, 5), (66, 7)], [], [], []⟩

/-- The font of this manifest. -/
def respelledFont : ManifestFont :=
  ⟨"Respelled", defaultEncodingWidth, [(65, 5), (66, 7)], [], [], [], []⟩

theorem ofValue_respelledManifest :
    Document.ofValue respelledManifest = .ok respelledDocument := rfl

theorem run_ofDocument_respelledDocument {σ : Type} (read : Reader (StateM σ)) (base : String)
    (state : σ) :
    (ManifestFont.ofDocument read base respelledDocument).run state =
      (.ok respelledFont, state) :=
  run_ofDocument_of_empty read base state (by decide +kernel) rfl

theorem ofValue_recognizes_and_resolves_respelledManifest :
    IsManifest respelledManifest ∧ Service.glyphId respelledFont 65 = some 5 ∧
      Service.glyphId respelledFont 97 = none := by
  rcases ofValue_recognizes_and_resolves respelledManifest with ⟨recognizes, resolves⟩
  rcases resolves respelledDocument ofValue_respelledManifest with ⟨entries, part, lookup⟩
  have lookup := lookup (fun _ => pure (.ok [])) "" () respelledFont
    (congrArg Prod.fst (run_ofDocument_respelledDocument _ "" ()))
  simp only [IsPart, respelledManifest, List.mem_cons, Prod.mk.injEq, Value.object.injEq,
    reduceCtorEq, String.reduceEq, false_and, and_false, true_and, List.not_mem_nil, or_false,
    false_or] at part
  subst part
  refine ⟨recognizes.mp ⟨_, ofValue_respelledManifest⟩, ?_, ?_⟩
  · refine (lookup.some_iff 65 5).mpr ⟨"0x41", [_, _], [_], rfl, ?_, ?_⟩
    · exact Codepoint.ofValue_eq_ok_iff.mp rfl
    · rw [List.forall_mem_singleton, Names, ← Codepoint.ofValue_eq_ok_iff]
      decide +kernel
  · refine (lookup.none_iff 97).mpr ?_
    simp only [Names, ← Codepoint.ofValue_eq_ok_iff]
    decide +kernel

end FontCompiler.Manifest
