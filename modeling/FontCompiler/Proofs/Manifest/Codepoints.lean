import FontCompiler.Manifest.Document
import FontCompiler.Proofs.Except
import FontCompiler.Proofs.Json.Keys
import FontCompiler.Proofs.Ordered

/-!
# Code points of a manifest

A document could hold any number as a key of its character map, but no manifest
decodes to one with other keys than Unicode scalar values: each key is checked
where it is read, and what follows of the decoding keeps the keys or drops them.
Likewise no graph of a decoded document repeats a key.
-/

namespace FontCompiler.Manifest

open Json

/-- A property of every key of a map. -/
def KeysSatisfy {κ α : Type} (property : κ → Prop) (entries : List (κ × α)) :
    Prop :=
  ∀ key ∈ Ordered.keys entries, property key

/-- A code point that is no surrogate and not beyond the last one. -/
def IsScalar (codepoint : Nat) : Prop :=
  Text.isScalar codepoint = true

theorem orBreak_ok {α : Type} (value : α) :
    orBreak (.ok value) = .ok value := rfl

/-! ## Keys -/

theorem ensures_ofNumber (number : Nat) :
    Ensures (Codepoint.ofNumber number) IsScalar := by
  rw [Codepoint.ofNumber]
  split
  · rename_i scalar
    exact .ok scalar
  · exact .error _

theorem ensures_ofValue (value : Json.Value) :
    Ensures (Codepoint.ofValue value) IsScalar := by
  rw [Codepoint.ofValue.eq_def]
  split
  · split
    · exact ensures_ofNumber _
    · exact .error _
  · split
    · exact ensures_ofNumber _
    · exact .error _
  · exact .error _

theorem ensures_decodeCodepointKey (location : Location) (key : Json.DraftKey) :
    Ensures (decodeCodepointKey location key) fun decoded =>
      IsScalar decoded.1 := by
  rw [decodeCodepointKey]
  refine (Ensures.trivial _).bind fun text _ => ?_
  have scalar := ensures_ofValue (.string text)
  cases own : Codepoint.ofValue (.string text) with
  | error fault => exact .error _
  | ok codepoint => exact .ok (scalar codepoint own)

/-! ## Maps and records -/

section

variable {κ α σ : Type} {decode : Decoder α}

theorem ensures_decodeMapEntries {decodeKey : KeyDecoder κ} {property : κ → Prop}
    (checked : ∀ location key,
      Ensures (decodeKey location key) fun decoded => property decoded.1)
    (location : Location) :
    ∀ entries, Ensures (decodeMapEntries decodeKey decode location entries)
      (KeysSatisfy property)
  | [] => .ok nofun
  | (key, draft) :: entries => by
      rw [decodeMapEntries]
      refine (checked location key).bind fun decoded own => ?_
      refine (Ensures.trivial _).bind fun value _ => ?_
      refine
        (ensures_decodeMapEntries checked location entries).bind
          fun others satisfied => .ok ?_
      exact List.forall_mem_cons.mpr ⟨own, satisfied⟩

theorem ensures_decodeMap [BEq κ] {decodeKey : KeyDecoder κ} {property : κ → Prop}
    (checked : ∀ location key,
      Ensures (decodeKey location key) fun decoded => property decoded.1)
    (location : Location) (draft : Json.Draft) :
    Ensures (decodeMap decodeKey decode location draft)
      (KeysSatisfy property) := by
  rw [decodeMap.eq_def]
  split
  · refine
      (ensures_decodeMapEntries checked _ _).bind fun entries satisfied => ?_
    refine (Ensures.trivial _).bind fun _ _ => .ok ?_
    intro key member
    exact satisfied key (Ordered.mem_keys_of_ofList member)
  · exact .error _

theorem ensures_decodeItem? {property : α → Prop}
    (checked : ∀ location draft, Ensures (decode location draft) property)
    (location : Location) (items : List Json.Draft)
    (cut : Option SyntaxFault) (index : Nat) :
    Ensures (decodeItem? decode location items cut index) fun found =>
      ∀ value ∈ found, property value := by
  rw [decodeItem?]
  split
  · refine (checked _ _).bind fun value satisfied => .ok ?_
    intro other same
    cases same
    exact satisfied
  · exact (Ensures.trivial _).bind fun _ _ => .ok nofun

theorem ensures_decodeItem {property : α → Prop}
    (checked : ∀ location draft, Ensures (decode location draft) property)
    (location : Location) (items : List Json.Draft)
    (cut : Option SyntaxFault) (record : String) (count index : Nat) :
    Ensures (decodeItem decode location items cut record count index)
      property := by
  rw [decodeItem]
  refine
    (ensures_decodeItem? checked location items cut index).bind
      fun found satisfied => ?_
  cases found with
  | none => exact .error _
  | some value => exact .ok (satisfied value rfl)

theorem ensures_requireField {property : α → Prop} {found : Option α}
    (satisfied : ∀ value ∈ found, property value) (location : Location)
    (name : String) :
    Ensures (requireField location name found) property := by
  cases found with
  | none => exact .error _
  | some value => exact .ok (satisfied value rfl)

/-- What every field keeps holds behind all fields of a record. -/
theorem ensures_decodeFields {names : List String}
    {decode : String → Location → Json.Draft → σ → Except Fault σ}
    {invariant : σ → Prop}
    (kept : ∀ name location draft state, invariant state →
      Ensures (decode name location draft state) invariant)
    (location : Location) (cut : Option SyntaxFault) :
    ∀ seen entries state, invariant state →
      Ensures (decodeFields names decode location cut seen entries state)
        invariant
  | _, [], state, holds => (Ensures.trivial _).bind fun _ _ => .ok holds
  | seen, (key, draft) :: entries, state, holds => by
      rw [decodeFields]
      refine (Ensures.trivial _).bind fun name _ => ?_
      split
      · exact .error _
      · split
        · exact .error _
        · refine (kept _ _ _ _ holds).bind fun after holds => ?_
          exact ensures_decodeFields kept location cut _ _ _ holds

end

/-! ## Manifests -/

theorem ensures_decodeCmap (location : Location) (draft : Json.Draft) :
    Ensures (decodeCmap location draft) (KeysSatisfy IsScalar) :=
  ensures_decodeMap ensures_decodeCodepointKey location draft

theorem ensures_decodeGraph (location : Location) (draft : Json.Draft) :
    Ensures (decodeGraph location draft) fun graph => (Value.object graph).KeysDistinct := by
  rw [decodeGraph.eq_def]
  split
  · rename_i entries cut
    have distinct := Json.Draft.ensures_completeObject location entries cut
    cases completed : Json.Draft.completeObject location entries cut with
    | error broken => exact .error _
    | ok graph => exact .ok (distinct graph completed)
  · exact .error _

section

variable {ofCmap : List (Nat × Font.GlyphId) → Prop} {ofGraph : List (String × Value) → Prop}

/-- The character map and the graph have a property each, as far as they are known. -/
structure PartialDocument.Satisfies (ofCmap : List (Nat × Font.GlyphId) → Prop)
    (ofGraph : List (String × Value) → Prop) (document : PartialDocument) : Prop where
  cmap : ∀ cmap ∈ document.cmap, ofCmap cmap
  graph : ∀ graph ∈ document.graph, ofGraph graph

theorem PartialDocument.satisfies_empty : PartialDocument.empty.Satisfies ofCmap ofGraph where
  cmap _ known := by cases known
  graph _ known := by cases known

variable (checksCmap : ∀ location draft, Ensures (decodeCmap location draft) ofCmap)
  (checksGraph : ∀ location draft, Ensures (decodeGraph location draft) ofGraph)

include checksCmap checksGraph

theorem ensures_decodeDocumentField (route : Route) (name : String)
    (location : Location) (draft : Json.Draft) (document : PartialDocument)
    (satisfies : document.Satisfies ofCmap ofGraph) :
    Ensures (decodeDocumentField route name location draft document)
      (PartialDocument.Satisfies ofCmap ofGraph) := by
  rw [decodeDocumentField]
  split
  · exact (Ensures.trivial _).bind fun _ _ => .ok ⟨satisfies.cmap, satisfies.graph⟩
  split
  · exact (Ensures.trivial _).bind fun _ _ => .ok ⟨satisfies.cmap, satisfies.graph⟩
  split
  · refine (checksCmap location draft).bind fun cmap own => .ok ⟨?_, satisfies.graph⟩
    intro other same
    cases same
    exact own
  split
  · exact (Ensures.trivial _).bind fun _ _ => .ok ⟨satisfies.cmap, satisfies.graph⟩
  split
  · exact (Ensures.trivial _).bind fun _ _ => .ok ⟨satisfies.cmap, satisfies.graph⟩
  · refine (checksGraph location draft).bind fun graph own => .ok ⟨satisfies.cmap, ?_⟩
    intro other same
    cases same
    exact own

theorem ensures_decodeDocument (route : Route) (location : Location)
    (draft : Json.Draft) :
    Ensures (decodeDocument route location draft) fun document =>
      ofCmap document.cmap ∧ ofGraph document.graph := by
  rw [decodeDocument.eq_def]
  split
  · refine (Ensures.trivial _).bind fun label _ => ?_
    refine (Ensures.trivial _).bind fun encodingWidth _ => ?_
    refine (ensures_decodeItem checksCmap _ _ _ _ _ _).bind fun cmap ownCmap => ?_
    refine (Ensures.trivial _).bind fun substitutions _ => ?_
    refine (Ensures.trivial _).bind fun ranges _ => ?_
    refine (ensures_decodeItem checksGraph _ _ _ _ _ _).bind fun graph ownGraph => ?_
    exact (Ensures.trivial _).bind fun _ _ => .ok ⟨ownCmap, ownGraph⟩
  · refine
      (ensures_decodeFields (ensures_decodeDocumentField checksCmap checksGraph route) _ _ _ _ _
        PartialDocument.satisfies_empty).bind fun document satisfies => ?_
    refine (Ensures.trivial _).bind fun label _ => ?_
    refine (ensures_requireField satisfies.cmap _ _).bind fun cmap ownCmap => ?_
    exact (ensures_requireField satisfies.graph _ _).bind fun graph ownGraph =>
      .ok ⟨ownCmap, ownGraph⟩
  · exact .error _

end

/-- A document that some text or some value decodes to. -/
inductive Decoded (document : Document) : Prop
  | ofText (text : String) (decoded : Document.ofText text = .ok document)
  | ofValue (value : Json.Value) (decoded : Document.ofValue value = .ok document)

/-- What decoding the character map and the graph ensures holds of them in a decoded document. -/
theorem Decoded.satisfies {document : Document} (decoded : Decoded document)
    {ofCmap : List (Nat × Font.GlyphId) → Prop} {ofGraph : List (String × Value) → Prop}
    (checksCmap : ∀ location draft, Ensures (decodeCmap location draft) ofCmap)
    (checksGraph : ∀ location draft, Ensures (decodeGraph location draft) ofGraph) :
    ofCmap document.cmap ∧ ofGraph document.graph := by
  have ensures := ensures_decodeDocument checksCmap checksGraph
  cases decoded with
  | ofText text decoded => exact ensures _ _ _ document decoded
  | ofValue value decoded => exact ensures _ _ _ document decoded

theorem Decoded.isScalar {document : Document} (decoded : Decoded document) :
    KeysSatisfy IsScalar document.cmap :=
  (decoded.satisfies ensures_decodeCmap fun _ _ => .trivial _).1

/-- The graph of a document does not repeat a key anywhere. -/
theorem Decoded.keysDistinct {document : Document} (decoded : Decoded document) :
    (Value.object document.graph).KeysDistinct :=
  (decoded.satisfies (fun _ _ => .trivial _) ensures_decodeGraph).2

end FontCompiler.Manifest
