import Mathlib
import FontCompiler.Manifest.Font
import FontCompiler.Proofs.Json.Denotation
import FontCompiler.Proofs.Json.NumberText
import FontCompiler.Proofs.Manifest.Codepoints

/-!
# The two routes of a manifest

A manifest is decoded from the draft of a text, or from the draft of a value
that was computed.  This module compares the two where the value is the one
that the text denotes: both give the same manifest, or both give none.  What
they say of a rejected document may differ.

The routes differ in the numeric keys of a map, which are read up to their
closing quote in a text and to their end in a value.  An escape within such a
key is no part of a number, so the keys of the substitutions have to be free of
them.
-/

namespace FontCompiler.Manifest

open FontCompiler.Json

/-! ## Agreement -/

/-- Two computations give the same result, or both give none. -/
def Agree {ε ε' α : Type} (first : Except ε α) (second : Except ε' α) : Prop :=
  first.toOption = second.toOption

namespace Agree

variable {ε ε' α β : Type}

theorem refl (result : Except ε α) : Agree result result := rfl

theorem error (fault : ε) (other : ε') :
    Agree (.error fault : Except ε α) (.error other) := rfl

theorem bind {first : Except ε α} {second : Except ε' α}
    {next : α → Except ε β} {follow : α → Except ε' β}
    (agree : Agree first second) (after : ∀ value, Agree (next value) (follow value)) :
    Agree (first >>= next) (second >>= follow) := by
  rw [Agree, toOption_bind, toOption_bind, agree]
  exact congrArg _ (funext after)

theorem ite {condition : Prop} [Decidable condition]
    {first third : Except ε α} {second fourth : Except ε' α}
    (yes : Agree first second) (no : ¬condition → Agree third fourth) :
    Agree (if condition then first else third)
      (if condition then second else fourth) := by
  split
  · exact yes
  · rename_i fails
    exact no fails

theorem eq_ok_iff {first : Except ε α} {second : Except ε' α}
    (agree : Agree first second) (value : α) :
    first = .ok value ↔ second = .ok value :=
  eq_ok_iff_of_toOption_eq agree value

end Agree

/-- The decoders agree on a draft and on the value that it denotes. -/
def AgreeOn {α : Type} (onText onValue : Decoder α) (draft : Json.Draft) : Prop :=
  ∀ value, draft.Denotes value → ∀ here there : Location,
    Agree (onText here draft) (onValue there (.ofValue value))

/-- The decoders agree on a key of a text and on the same key of a value. -/
def AgreeOnKey {κ : Type} (onText onValue : KeyDecoder κ) (key : DraftKey) : Prop :=
  ∀ name, key.text = .ok name → ∀ here there : Location,
    Agree (onText here key) (onValue there ⟨.ok name, name.toList⟩)

/-! ## Scalars -/

theorem agreeOn_value (draft : Json.Draft) :
    AgreeOn decodeValue decodeValue draft := by
  intro value denotes here there
  rw [decodeValue, decodeValue, denotes.complete, denotes.ofValue.complete]
  rfl

theorem agreeOn_text (draft : Json.Draft) :
    AgreeOn decodeText decodeText draft := by
  intro value denotes here there
  cases denotes <;> rfl

theorem agreeOn_nat (limit : Nat) (shape : Shape) (draft : Json.Draft) :
    AgreeOn (decodeNat limit shape) (decodeNat limit shape) draft := by
  intro value denotes here there
  cases denotes with
  | number numeral =>
      cases numeral with
      | int number =>
          rw [Json.Draft.ofValue, decodeNat, decodeNat]
          split
          · exact .refl _
          · exact .error _ _
      | float number => rfl
  | null => rfl
  | bool truth => rfl
  | string text => rfl
  | array inside => rfl
  | object inside distinct => rfl

theorem agreeOn_codepoint (draft : Json.Draft) :
    AgreeOn decodeCodepoint decodeCodepoint draft := by
  intro value denotes here there
  refine (agreeOn_value draft value denotes here there).bind fun denoted => ?_
  cases Codepoint.ofValue denoted with
  | ok codepoint => exact .refl _
  | error fault => exact .error _ _

theorem agreeOn_glyph (draft : Json.Draft) :
    AgreeOn decodeGlyph decodeGlyph draft := by
  intro value denotes here there
  exact (agreeOn_nat _ _ draft value denotes here there).bind fun _ => .refl _

/-! ## Keys -/

theorem agreeOnKey_codepoint (key : DraftKey) :
    AgreeOnKey decodeCodepointKey decodeCodepointKey key := by
  intro name spelled here there
  rw [decodeCodepointKey, decodeCodepointKey, Json.Draft.read_of_text spelled,
    Json.Draft.read_of_text rfl]
  refine (Agree.refl (orBreak (.ok name))).bind fun text => ?_
  cases Codepoint.ofValue (.string text) with
  | ok codepoint => exact .refl _
  | error fault => exact .error _ _

theorem agreeOnKey_nat (limit : Nat) (shape : Shape) {key : DraftKey}
    (read : key.text = (Json.Draft.readString key.source).map Prod.fst)
    (plain : Json.Draft.Unescaped key) :
    AgreeOnKey (decodeNatKey .text limit shape) (decodeNatKey .value limit shape)
      key := by
  intro name spelled here there
  rcases Json.Draft.source_of_unescaped read spelled plain with
    ⟨rest, source, quotes⟩
  have ends : NumberText.Ends ('\"' :: rest) := NumberText.ends_cons (by decide)
  have continues := NumberText.read_continues ends name.toList
  rw [decodeNatKey, decodeNatKey, source]
  dsimp only
  generalize NumberText.read (name.toList ++ '\"' :: rest) = long
    at continues ⊢
  generalize NumberText.read name.toList = short at continues ⊢
  generalize name.toList = chars at continues quotes ⊢
  cases chars with
  | nil =>
      -- the closing quote opens no number, and neither does the end of the key
      exact .error _ _
  | cons char chars =>
      refine .ite (.error _ _) fun _ => ?_
      cases continues with
      | fails alone behind => exact .error _ _
      | @reads number left inside =>
          cases number with
          | float value => exact .error _ _
          | int value =>
              refine .ite (.error _ _) fun _ => ?_
              cases left with
              | nil => exact .refl _
              | cons next left =>
                  have other : next ≠ '\"' := fun equal =>
                    quotes (inside (by simp [equal]))
                  simp only [List.cons_append]
                  split
                  · simp_all
                  · exact .error _ _
                  · simp_all
                  · simp_all

/-! ## Sequences and maps -/

section

variable {α : Type} {onText onValue : Decoder α}

theorem agree_sequenceItems (agree : ∀ item, AgreeOn onText onValue item)
    (here there : Location) :
    ∀ {items : List Json.Draft} {values : List Value},
      Json.Draft.ItemsDenote items values → ∀ index : Nat,
        Agree (decodeSequenceItems onText here index items)
          (decodeSequenceItems onValue there index (Json.Draft.ofItems values))
  | _, _, .nil, index => by
      rw [Json.Draft.ofItems]
      exact .refl _
  | _, _, .cons first others, index => by
      rw [Json.Draft.ofItems, decodeSequenceItems, decodeSequenceItems]
      exact
        (agree _ _ first _ _).bind fun _ =>
          (agree_sequenceItems agree here there others (index + 1)).bind
            fun _ => .refl _

theorem agreeOn_sequence (agree : ∀ item, AgreeOn onText onValue item)
    (draft : Json.Draft) :
    AgreeOn (decodeSequence onText) (decodeSequence onValue) draft := by
  intro value denotes here there
  cases denotes with
  | array inside =>
      rw [Json.Draft.ofValue]
      exact
        (agree_sequenceItems agree here there inside 0).bind fun _ => .refl _
  | null => rfl
  | bool truth => rfl
  | number numeral => rfl
  | string text => rfl
  | object inside distinct => rfl

variable {κ : Type} {keyOfText keyOfValue : KeyDecoder κ}

theorem agree_mapEntries (agree : ∀ draft, AgreeOn onText onValue draft)
    (here there : Location) :
    ∀ {entries : List (DraftKey × Json.Draft)} {members : List (String × Value)},
      Json.Draft.EntriesDenote entries members →
      (∀ entry ∈ entries, AgreeOnKey keyOfText keyOfValue entry.1) →
      Agree (decodeMapEntries keyOfText onText here entries)
        (decodeMapEntries keyOfValue onValue there (Json.Draft.ofEntries members)) := by
  intro entries
  induction entries with
  | nil =>
      intro members inside keys
      cases inside
      rw [Json.Draft.ofEntries]
      exact .refl _
  | cons entry entries ih =>
      intro members inside keys
      rw [List.forall_mem_cons] at keys
      cases inside with
      | cons spelled first others =>
          rw [Json.Draft.ofEntries, decodeMapEntries, decodeMapEntries]
          exact
            (keys.1 _ spelled _ _).bind fun _ =>
              (agree _ _ first _ _).bind fun _ =>
                (ih others keys.2).bind fun _ => .refl _

theorem agreeOn_map [BEq κ] (agree : ∀ draft, AgreeOn onText onValue draft)
    (draft : Json.Draft)
    (keys : ∀ entries cut, draft = .object entries cut →
      ∀ entry ∈ entries, AgreeOnKey keyOfText keyOfValue entry.1) :
    AgreeOn (decodeMap keyOfText onText) (decodeMap keyOfValue onValue) draft := by
  intro value denotes here there
  cases denotes with
  | object inside distinct =>
      rw [Json.Draft.ofValue]
      exact
        (agree_mapEntries agree here there inside (keys _ _ rfl)).bind
          fun _ => .refl _
  | null => rfl
  | bool truth => rfl
  | number numeral => rfl
  | string text => rfl
  | array inside => rfl

end

/-! ## Records -/

section

variable {σ : Type}
  {onText onValue : String → Location → Json.Draft → σ → Except Fault σ}

/-- The decoders of a field agree on a draft and on the value that it denotes. -/
def AgreeOnField
    (onText onValue : String → Location → Json.Draft → σ → Except Fault σ)
    (name : String) (draft : Json.Draft) : Prop :=
  ∀ state : σ,
    AgreeOn (fun location draft => onText name location draft state)
      (fun location draft => onValue name location draft state) draft

theorem agree_fields (names : List String) (here there : Location) :
    ∀ {entries : List (DraftKey × Json.Draft)} {members : List (String × Value)},
      Json.Draft.EntriesDenote entries members →
      (∀ entry ∈ entries, ∀ name, entry.1.text = .ok name →
        AgreeOnField onText onValue name entry.2) →
      ∀ (seen : List String) (state : σ),
        Agree (decodeFields names onText here none seen entries state)
          (decodeFields names onValue there none seen
            (Json.Draft.ofEntries members) state) := by
  intro entries
  induction entries with
  | nil =>
      intro members inside fields seen state
      cases inside
      rw [Json.Draft.ofEntries]
      exact .refl _
  | cons entry entries ih =>
      intro members inside fields seen state
      rw [List.forall_mem_cons] at fields
      cases inside with
      | @cons _ name _ _ _ _ spelled first others =>
          rw [Json.Draft.ofEntries, decodeFields, decodeFields,
            Json.Draft.read_of_text spelled, Json.Draft.read_of_text rfl, orBreak_ok,
            ok_bind, ok_bind]
          refine .ite (.error _ _) fun _ => .ite (.error _ _) fun _ => ?_
          exact
            (fields.1 name spelled state _ first _ _).bind fun state =>
              ih others fields.2 (name :: seen) state

end

section

variable {α : Type} {onText onValue : Decoder α} {items : List Json.Draft}
  {values : List Value}

theorem agree_item? (inside : Json.Draft.ItemsDenote items values) (index : Nat)
    (agree : ∀ item, items[index]? = some item → AgreeOn onText onValue item)
    (here there : Location) :
    Agree (decodeItem? onText here items none index)
      (decodeItem? onValue there (Json.Draft.ofItems values) none index) := by
  rw [decodeItem?, decodeItem?]
  rcases inside.getElem? index with ⟨missing, absent⟩ |
    ⟨item, value, found, same, denotes⟩
  · rw [missing, absent]
    exact .refl _
  · rw [found, same]
    exact (agree item found value denotes _ _).bind fun _ => .refl _

theorem agree_item (inside : Json.Draft.ItemsDenote items values)
    (record : String) (count index : Nat)
    (agree : ∀ item, items[index]? = some item → AgreeOn onText onValue item)
    (here there : Location) :
    Agree (decodeItem onText here items none record count index)
      (decodeItem onValue there (Json.Draft.ofItems values) none record count
        index) := by
  refine (agree_item? inside index agree here there).bind fun found => ?_
  cases found with
  | none => exact .error _ _
  | some value => exact .refl _

theorem agree_endItems (inside : Json.Draft.ItemsDenote items values)
    (count : Nat) (here there : Location) :
    Agree (endItems .text here items none count)
      (endItems .value there (Json.Draft.ofItems values) none count) := by
  rw [endItems, endItems, inside.length_eq]
  exact .ite (.error _ _) fun _ => .refl _

end

/-! ## Manifests -/

theorem agree_rangeField (name : String) (draft : Json.Draft) :
    AgreeOnField decodeRangeField decodeRangeField name draft := by
  intro range value denotes here there
  exact (agreeOn_codepoint draft value denotes here there).bind fun _ => .refl _

theorem Agree.requireField {α : Type} (name : String) (found : Option α)
    (here there : Location) :
    Agree (requireField here name found) (requireField there name found) := by
  cases found with
  | none => exact .error _ _
  | some value => exact .refl _

theorem agreeOn_range (draft : Json.Draft) :
    AgreeOn (decodeRange .text) (decodeRange .value) draft := by
  intro value denotes here there
  cases denotes with
  | array inside =>
      rw [Json.Draft.ofValue]
      have bound (index : Nat) :=
        agree_item inside "CharacterRange" 2 index
          (fun item _ => agreeOn_codepoint item) here there
      exact
        (bound 0).bind fun _ =>
          (bound 1).bind fun _ =>
            (agree_endItems inside 2 here there).bind fun _ => .refl _
  | object inside distinct =>
      rw [Json.Draft.ofValue]
      refine
        (agree_fields rangeFields here there inside
          (fun entry _ name _ => agree_rangeField name entry.2) [] ⟨none, none⟩).bind
          fun range => ?_
      exact
        (Agree.requireField "first" range.first here there).bind fun _ =>
          (Agree.requireField "last" range.last here there).bind fun _ => .refl _
  | null => rfl
  | bool truth => rfl
  | number numeral => rfl
  | string text => rfl

theorem agreeOn_cmap (draft : Json.Draft) :
    AgreeOn decodeCmap decodeCmap draft :=
  agreeOn_map agreeOn_glyph draft fun _ _ _ entry _ => agreeOnKey_codepoint entry.1

/-- No key of an object is written with an escape. -/
def UnescapedKeys : Json.Draft → Prop
  | .object entries _ => ∀ entry ∈ entries, Json.Draft.Unescaped entry.1
  | _ => True

instance : DecidablePred UnescapedKeys
  | .object entries _ =>
      inferInstanceAs (Decidable (∀ entry ∈ entries, Json.Draft.Unescaped entry.1))
  | .fault _ => .isTrue .intro
  | .unreached _ => .isTrue .intro
  | .null => .isTrue .intro
  | .bool _ => .isTrue .intro
  | .number _ => .isTrue .intro
  | .string _ => .isTrue .intro
  | .array _ _ => .isTrue .intro

theorem agreeOn_substitutions {draft : Json.Draft} (read : draft.KeysRead)
    (plain : UnescapedKeys draft) :
    AgreeOn (decodeSubstitutions .text) (decodeSubstitutions .value) draft := by
  refine agreeOn_map (agreeOn_sequence agreeOn_glyph) draft ?_
  rintro entries cut rfl entry member name spelled here there
  cases read with
  | object keys inside =>
      exact
        (agreeOnKey_nat _ _ (keys entry member) (plain entry member) name spelled
          here there).bind fun _ => .refl _

theorem agreeOn_graph (draft : Json.Draft) :
    AgreeOn decodeGraph decodeGraph draft := by
  intro value denotes here there
  cases denotes with
  | object inside distinct =>
      rw [Json.Draft.ofValue, decodeGraph, decodeGraph,
        Json.Draft.completeObject, Json.Draft.completeObject, inside.complete,
        inside.ofEntries.complete]
      exact .refl _
  | null => rfl
  | bool truth => rfl
  | number numeral => rfl
  | string text => rfl
  | array inside => rfl

/-- No key of the substitutions of a manifest is written with an escape. -/
def SubstitutionsUnescaped : Json.Draft → Prop
  | .object entries _ =>
      ∀ entry ∈ entries, entry.1.text.toOption = some "substitutions" →
        UnescapedKeys entry.2
  | .array items _ => ∀ item ∈ items[3]?, UnescapedKeys item
  | _ => True

instance : DecidablePred SubstitutionsUnescaped
  | .object entries _ =>
      inferInstanceAs
        (Decidable
          (∀ entry ∈ entries, entry.1.text.toOption = some "substitutions" →
            UnescapedKeys entry.2))
  | .array items _ => inferInstanceAs (Decidable (∀ item ∈ items[3]?, UnescapedKeys item))
  | .fault _ => .isTrue .intro
  | .unreached _ => .isTrue .intro
  | .null => .isTrue .intro
  | .bool _ => .isTrue .intro
  | .number _ => .isTrue .intro
  | .string _ => .isTrue .intro

theorem agree_documentField {name : String} {draft : Json.Draft}
    (read : draft.KeysRead) (plain : name = "substitutions" → UnescapedKeys draft) :
    AgreeOnField (decodeDocumentField .text) (decodeDocumentField .value) name
      draft := by
  intro document value denotes here there
  unfold decodeDocumentField
  dsimp only
  refine .ite ((agreeOn_text draft value denotes here there).bind fun _ => .refl _)
    fun _ => ?_
  refine .ite ((agreeOn_nat _ _ draft value denotes here there).bind fun _ => .refl _)
    fun _ => ?_
  refine .ite ((agreeOn_cmap draft value denotes here there).bind fun _ => .refl _)
    fun _ => ?_
  split
  · rename_i field
    exact
      (agreeOn_substitutions read (plain field) value denotes here there).bind
        fun _ => .refl _
  refine
    .ite
      ((agreeOn_sequence agreeOn_range draft value denotes here there).bind
        fun _ => .refl _)
      fun _ => ?_
  exact (agreeOn_graph draft value denotes here there).bind fun _ => .refl _

theorem agreeOn_document {draft : Json.Draft} (read : draft.KeysRead)
    (plain : SubstitutionsUnescaped draft) :
    AgreeOn (decodeDocument .text) (decodeDocument .value) draft := by
  intro value denotes here there
  cases denotes with
  | array inside =>
      rw [Json.Draft.ofValue]
      cases read with
      | array keys =>
      have required {α : Type} {decoder : Decoder α}
          (agree : ∀ item, AgreeOn decoder decoder item) (index : Nat) :=
        agree_item inside "Manifest" 6 index (fun item _ => agree item) here there
      refine (required agreeOn_text 0).bind fun label => ?_
      refine
        (agree_item? inside 1 (fun item _ => agreeOn_nat _ _ item) here there).bind
          fun width => ?_
      refine (required agreeOn_cmap 2).bind fun cmap => ?_
      refine
        (agree_item? inside 3
          (fun item found =>
            agreeOn_substitutions (keys item (List.mem_of_getElem? found))
              (plain item found))
          here there).bind fun substitutions => ?_
      refine
        (agree_item? inside 4 (fun item _ => agreeOn_sequence agreeOn_range item)
          here there).bind fun ranges => ?_
      refine (required agreeOn_graph 5).bind fun graph => ?_
      exact (agree_endItems inside 6 here there).bind fun _ => .refl _
  | object inside distinct =>
      rw [Json.Draft.ofValue]
      cases read with
      | object keys below =>
      refine
        (agree_fields documentFields here there inside
          (fun entry member name spelled =>
            agree_documentField (below entry member) fun field =>
              plain entry member (by rw [spelled, field]; rfl))
          [] .empty).bind fun document => ?_
      exact
        (Agree.requireField "label" document.label here there).bind fun _ =>
          (Agree.requireField "cmap" document.cmap here there).bind fun _ =>
            (Agree.requireField "graph" document.graph here there).bind
              fun _ => .refl _
  | null => rfl
  | bool truth => rfl
  | number numeral => rfl
  | string text => rfl

theorem denotes_of_ofText {text : String} {value : Value}
    (parsed : Value.ofText text = .ok value)
    (distinct : (Json.Draft.read text).1.KeysDistinct) :
    (Json.Draft.read text).1.Denotes value := by
  unfold Value.ofText at parsed
  split at parsed
  rename_i draft rest shape
  rw [shape] at distinct ⊢
  split at parsed
  · cases parsed
  · rename_i found complete
    split at parsed
    · cases parsed
      exact Json.Draft.denotes_of_complete complete distinct
    · cases parsed

/--
The routes agree.  Let a text be one document, repeat no key within an object,
and write no key of its substitutions with an escape.  Then the manifest of the
text is the manifest of the value that the text denotes, if there is either.
Hence a font is loaded of both alike, with the same files and the same faults.
-/
theorem ofText_eq_ofValue (text : String) (value : Value)
    (parsed : Value.ofText text = .ok value)
    (distinct : (Json.Draft.read text).1.KeysDistinct)
    (plain : SubstitutionsUnescaped (Json.Draft.read text).1) :
    (∀ document : Document,
        Document.ofText text = .ok document ↔
          Document.ofValue value = .ok document) ∧
      ∀ {m : Type → Type} [Monad m] (read : Reader m) (base : String)
        (document : Document),
        Document.ofText text = .ok document →
        ManifestFont.ofText read base text =
          ManifestFont.ofValue read base value := by
  have denotes := denotes_of_ofText parsed distinct
  have agree :
      Agree (Document.ofText text) (Document.ofValue value) :=
    agreeOn_document (Json.Draft.keysRead_readValue _ _) plain value denotes [] []
  refine ⟨agree.eq_ok_iff, ?_⟩
  intro m _ read base document manifest
  rw [ManifestFont.ofText, ManifestFont.ofValue, manifest,
    (agree.eq_ok_iff document).mp manifest]

/-- A manifest in the form of an array, with an escape in a key of its character map. -/
def escapedManifest : String :=
  "[\"Bold\",2,\x7b\"U\\u002b41\":3\x7d,\x7b\"3\":[5,6]\x7d,[[65,\"66\"]],\x7b\"K\":1\x7d]"

/-- The value of that manifest. -/
def escapedValue : Value :=
  .array
    [.string "Bold", .number (.int 2), .object [("U+41", .number (.int 3))],
      .object [("3", .array [.number (.int 5), .number (.int 6)])],
      .array [.array [.number (.int 65), .string "66"]],
      .object [("K", .number (.int 1))]]

/-- The document of that manifest. -/
def escapedDocument : Document :=
  ⟨"Bold", 2, [(65, 3)], [(3, [5, 6])], [⟨65, 66⟩], [("K", .number (.int 1))]⟩

theorem ofText_eq_ofValue_escapedManifest :
    Value.ofText escapedManifest = .ok escapedValue ∧
      (Json.Draft.read escapedManifest).1.KeysDistinct ∧
      SubstitutionsUnescaped (Json.Draft.read escapedManifest).1 ∧
      Document.ofText escapedManifest = .ok escapedDocument ∧
      Document.ofValue escapedValue = .ok escapedDocument ∧
      ManifestFont.ofText (m := Id) (fun _ => .error .notFound) "" escapedManifest =
        ManifestFont.ofValue (m := Id) (fun _ => .error .notFound) ""
          escapedValue := by
  have parsed : Value.ofText escapedManifest = .ok escapedValue := by cbv
  have distinct : (Json.Draft.read escapedManifest).1.KeysDistinct := by
    decide +kernel
  have plain : SubstitutionsUnescaped (Json.Draft.read escapedManifest).1 := by
    decide +kernel
  have decoded : Document.ofValue escapedValue = .ok escapedDocument := by cbv
  have agree := ofText_eq_ofValue escapedManifest escapedValue parsed distinct plain
  have manifest := (agree.1 escapedDocument).mpr decoded
  exact
    ⟨parsed, distinct, plain, manifest, decoded,
      agree.2 _ "" escapedDocument manifest⟩

end FontCompiler.Manifest
