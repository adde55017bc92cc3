import FontCompiler.Proofs.Json.Denotation
import FontCompiler.Proofs.Json.Integers
import FontCompiler.Proofs.Manifest.Notations
import Mathlib.Data.List.Forall2

/-!
# The grammar of manifests

A manifest is a record: an object of some of its fields in any order, or the
array of all of them in theirs.  This module says what the fields are made of,
and that the decoding of a value succeeds on exactly the manifests.
-/

namespace FontCompiler.Manifest

open Json

/-! ## The grammar -/

/-- A grammar: which values belong to it. -/
abbrev Grammar := Value → Prop

/-- A text. -/
def IsText : Grammar
  | .string _ => True
  | _ => False

/-- An integer from zero up to below a limit. -/
def IsNatural (limit : Nat) : Grammar
  | .number (.int value) => 0 ≤ value ∧ value < limit
  | _ => False

/-- A code point in any of its notations. -/
def IsCodepoint : Grammar :=
  fun value => ∃ codepoint, DenotesCodepoint value codepoint

/-- An array of values. -/
def IsSequence (item : Grammar) : Grammar
  | .array items => ∀ value ∈ items, item value
  | _ => False

/-- An object with keys and values of given kinds. -/
def IsMap (key : String → Prop) (item : Grammar) : Grammar
  | .object entries => ∀ entry ∈ entries, key entry.1 ∧ item entry.2
  | _ => False

/-- Any object. -/
def IsObject : Grammar :=
  IsMap (fun _ => True) fun _ => True

/-- The digits of a number below a limit, without zeros in front of them. -/
def IsNaturalKey (limit : Nat) (key : String) : Prop :=
  ∃ number < limit, key = Numeric.decimalDigits number

/-- A record with given fields: an object of some of them, the required ones among them, or the
array of all of them. -/
inductive IsRecord (fields : List (String × Grammar)) (required : List String) : Grammar
  | object {entries : List (String × Value)}
      (distinct : (Ordered.keys entries).Nodup)
      (known : ∀ entry ∈ entries, ∃ grammar, (entry.1, grammar) ∈ fields ∧ grammar entry.2)
      (complete : ∀ name ∈ required, name ∈ Ordered.keys entries) :
      IsRecord fields required (.object entries)
  | array {items : List Value}
      (parts : List.Forall₂ (fun field item => field.2 item) fields items) :
      IsRecord fields required (.array items)

/-- The fields of a character range. -/
def rangeGrammar : List (String × Grammar) :=
  [("first", IsCodepoint), ("last", IsCodepoint)]

/-- A character range. -/
def IsRange : Grammar :=
  IsRecord rangeGrammar ["first", "last"]

/-- A character map. -/
def IsCmap : Grammar :=
  IsMap (fun key => IsCodepoint (.string key)) (IsNatural UInt32.size)

/-- A map of substitutions. -/
def IsSubstitutions : Grammar :=
  IsMap (IsNaturalKey UInt32.size) (IsSequence (IsNatural UInt32.size))

/-- The fields of a manifest. -/
def manifestGrammar : List (String × Grammar) :=
  [("label", IsText),
    ("encoding_width", IsNatural UInt64.size),
    ("cmap", IsCmap),
    ("substitutions", IsSubstitutions),
    ("ranges", IsSequence IsRange),
    ("graph", IsObject)]

/-- A manifest. -/
def IsManifest : Grammar :=
  IsRecord manifestGrammar ["label", "cmap", "graph"]

theorem names_rangeGrammar : rangeGrammar.map Prod.fst = rangeFields := rfl

theorem names_manifestGrammar : manifestGrammar.map Prod.fst = documentFields := rfl

/-! ## Values -/

/-- A decoder succeeds on exactly the values of a grammar. -/
def Recognizes {α : Type} (decode : Decoder α) (grammar : Grammar) : Prop :=
  ∀ location value, Succeeds (decode location (.ofValue value)) ↔ grammar value

theorem recognizes_text : Recognizes decodeText IsText := by
  intro location value
  cases value <;> simp [Json.Draft.ofValue, decodeText, IsText]

theorem recognizes_nat (limit : Nat) (shape : Shape) :
    Recognizes (decodeNat limit shape) (IsNatural limit) := by
  intro location value
  cases value with
  | number numeral =>
      cases numeral with
      | int number =>
          rw [Json.Draft.ofValue, decodeNat, IsNatural]
          split
          · rename_i within
            simp [within]
          · rename_i beyond
            simp [beyond]
      | float number => simp [Json.Draft.ofValue, decodeNat, IsNatural]
  | _ => simp [Json.Draft.ofValue, decodeNat, IsNatural]

theorem recognizes_width : Recognizes decodeWidth (IsNatural UInt64.size) :=
  recognizes_nat UInt64.size .size

theorem recognizes_glyph : Recognizes decodeGlyph (IsNatural UInt32.size) := by
  intro location value
  exact succeeds_bind_ok_iff.trans (recognizes_nat _ _ location value)

mutual

theorem succeeds_complete :
    ∀ (value : Value) (location : Location),
      Succeeds ((Json.Draft.ofValue value).complete location)
  | .null, _ => succeeds_ok _
  | .bool _, _ => succeeds_ok _
  | .number _, _ => succeeds_ok _
  | .string _, _ => succeeds_ok _
  | .array items, location => by
      rw [Json.Draft.ofValue, Json.Draft.complete]
      rcases succeeds_completeItems items location 0 with ⟨values, complete⟩
      rw [complete]
      exact succeeds_ok _
  | .object entries, location => by
      rw [Json.Draft.ofValue, Json.Draft.complete]
      rcases succeeds_completeEntries entries location with ⟨values, complete⟩
      rw [complete]
      exact succeeds_ok _

theorem succeeds_completeItems :
    ∀ (items : List Value) (location : Location) (index : Nat),
      Succeeds (Json.Draft.completeItems location index (Json.Draft.ofItems items))
  | [], _, _ => succeeds_ok _
  | item :: items, location, index => by
      rw [Json.Draft.ofItems, Json.Draft.completeItems]
      rcases succeeds_complete item (location ++ [.item index]) with ⟨value, complete⟩
      rcases succeeds_completeItems items location (index + 1) with ⟨values, others⟩
      rw [complete, ok_bind, others]
      exact succeeds_ok _

theorem succeeds_completeEntries :
    ∀ (entries : List (String × Value)) (location : Location),
      Succeeds (Json.Draft.completeEntries location (Json.Draft.ofEntries entries))
  | [], _ => succeeds_ok _
  | (key, value) :: entries, location => by
      rw [Json.Draft.ofEntries, Json.Draft.completeEntries]
      rcases succeeds_complete value
        ((Json.Draft.ofValue value).locationUnder location key) with ⟨whole, complete⟩
      rcases succeeds_completeEntries entries location with ⟨others, rest⟩
      rw [Json.Draft.read_of_text rfl, ok_bind, complete, ok_bind, rest]
      exact succeeds_ok _

end

/-- What is read of a value stands for the same code point, although it may merge repeated keys. -/
theorem exists_complete_ofValue (value : Value) (location : Location) :
    ∃ whole, (Json.Draft.ofValue value).complete location = .ok whole ∧
      ∀ codepoint, DenotesCodepoint whole codepoint ↔ DenotesCodepoint value codepoint := by
  cases value with
  | array items =>
      rcases succeeds_completeItems items location 0 with ⟨values, complete⟩
      refine ⟨.array values, ?_, fun _ => iff_of_false nofun nofun⟩
      rw [Json.Draft.ofValue, Json.Draft.complete, complete]
      rfl
  | object entries =>
      rcases succeeds_completeEntries entries location with ⟨values, complete⟩
      refine ⟨.object (Ordered.ofList values), ?_, fun _ => iff_of_false nofun nofun⟩
      rw [Json.Draft.ofValue, Json.Draft.complete, complete]
      rfl
  | null => exact ⟨_, rfl, fun _ => Iff.rfl⟩
  | bool truth => exact ⟨_, rfl, fun _ => Iff.rfl⟩
  | number numeral => exact ⟨_, rfl, fun _ => Iff.rfl⟩
  | string text => exact ⟨_, rfl, fun _ => Iff.rfl⟩

/-- Decoding gives the code point that a value stands for. -/
theorem decodeCodepoint_eq_ok_iff {location : Location} {value : Value} {codepoint : Nat} :
    decodeCodepoint location (.ofValue value) = .ok codepoint ↔
      DenotesCodepoint value codepoint := by
  rcases exists_complete_ofValue value location with ⟨whole, complete, same⟩
  have decoded : decodeValue location (.ofValue value) = .ok whole := by
    rw [decodeValue, complete]
    rfl
  rw [← same, ← Codepoint.ofValue_eq_ok_iff, decodeCodepoint, decoded, ok_bind]
  cases Codepoint.ofValue whole with
  | ok found => simp only [Except.ok.injEq]
  | error fault => exact iff_of_false nofun nofun

theorem recognizes_codepoint : Recognizes decodeCodepoint IsCodepoint :=
  fun _ _ => exists_congr fun _ => decodeCodepoint_eq_ok_iff

/-! ## Sequences and maps -/

section

variable {α κ : Type} {decode : Decoder α} {item : Grammar}

theorem succeeds_sequenceItems (recognizes : Recognizes decode item) (location : Location)
    (items : List Value) :
    ∀ index : Nat,
      Succeeds (decodeSequenceItems decode location index (Json.Draft.ofItems items)) ↔
        ∀ value ∈ items, item value := by
  induction items with
  | nil =>
      intro index
      exact iff_of_true (succeeds_ok _) nofun
  | cons value items ih =>
      intro index
      rw [Json.Draft.ofItems, decodeSequenceItems, List.forall_mem_cons,
        ← recognizes (location ++ [.item index]) value, ← ih (index + 1)]
      exact succeeds_bind_iff fun _ _ => succeeds_bind_ok_iff

theorem recognizes_sequence (recognizes : Recognizes decode item) :
    Recognizes (decodeSequence decode) (IsSequence item) := by
  intro location value
  cases value with
  | array items =>
      rw [Json.Draft.ofValue, decodeSequence, IsSequence,
        ← succeeds_sequenceItems recognizes location items 0]
      exact succeeds_bind_ok_iff
  | _ => exact iff_of_false (not_succeeds_error _) id

/-- A decoder of keys succeeds on exactly the keys of a kind. -/
def RecognizesKey (decode : KeyDecoder κ) (key : String → Prop) : Prop :=
  ∀ location name, Succeeds (decode location ⟨.ok name, name.toList⟩) ↔ key name

variable {decodeKey : KeyDecoder κ} {key : String → Prop}

theorem succeeds_mapEntries (recognizesKey : RecognizesKey decodeKey key)
    (recognizes : Recognizes decode item) (location : Location)
    (entries : List (String × Value)) :
    Succeeds (decodeMapEntries decodeKey decode location (Json.Draft.ofEntries entries)) ↔
      ∀ entry ∈ entries, key entry.1 ∧ item entry.2 := by
  induction entries with
  | nil => exact iff_of_true (succeeds_ok _) nofun
  | cons entry entries ih =>
      rcases entry with ⟨name, value⟩
      rw [Json.Draft.ofEntries, decodeMapEntries, List.forall_mem_cons, and_assoc,
        ← recognizesKey location name, ← ih]
      refine succeeds_bind_iff fun decoded _ => ?_
      rw [← recognizes ((Json.Draft.ofValue value).locationUnder location decoded.2) value]
      exact succeeds_bind_iff fun _ _ => succeeds_bind_ok_iff

theorem recognizes_map [BEq κ] (recognizesKey : RecognizesKey decodeKey key)
    (recognizes : Recognizes decode item) :
    Recognizes (decodeMap decodeKey decode) (IsMap key item) := by
  intro location value
  cases value with
  | object entries =>
      rw [Json.Draft.ofValue, decodeMap, IsMap,
        ← succeeds_mapEntries recognizesKey recognizes location entries]
      exact succeeds_bind_ok_iff
  | _ => exact iff_of_false (not_succeeds_error _) id

end

theorem recognizes_graph : Recognizes decodeGraph IsObject := by
  intro location value
  cases value with
  | object entries =>
      rcases succeeds_completeEntries entries location with ⟨values, complete⟩
      refine iff_of_true ⟨Ordered.ofList values, ?_⟩ fun _ _ => ⟨trivial, trivial⟩
      rw [Json.Draft.ofValue, decodeGraph, Json.Draft.completeObject, complete]
      rfl
  | _ => exact iff_of_false (not_succeeds_error _) id

/-! ## Keys -/

theorem recognizesKey_codepoint :
    RecognizesKey decodeCodepointKey fun key => IsCodepoint (.string key) := by
  intro location name
  change _ ↔ IsCodepoint (.string name)
  rw [decodeCodepointKey, Json.Draft.read_of_text rfl, orBreak, Except.mapError, ok_bind,
    IsCodepoint]
  simp only [← Codepoint.ofValue_eq_ok_iff]
  cases Codepoint.ofValue (.string name) with
  | ok codepoint => simp
  | error fault => simp

theorem isNaturalKey_of_decodeNatKey {limit : Nat} {shape : Shape} {location : Location}
    {name : String}
    (succeeds :
      Succeeds (decodeNatKey .value limit shape location ⟨.ok name, name.toList⟩)) :
    IsNaturalKey limit name := by
  rcases succeeds with ⟨decoded, succeeded⟩
  rw [decodeNatKey] at succeeded
  dsimp only at succeeded
  cases chars : name.toList with
  | nil =>
      rw [chars] at succeeded
      cases succeeded
  | cons char others =>
      rw [chars] at succeeded
      dsimp only at succeeded
      split at succeeded
      · cases succeeded
      · split at succeeded
        · cases succeeded
        · cases succeeded
        · rename_i value rest found
          split at succeeded
          · cases succeeded
          · rename_i inside
            have within := Classical.not_not.mp inside
            cases rest with
            | cons next rest => cases succeeded
            | nil =>
                rw [← Int.toNat_of_nonneg within.1] at found
                refine ⟨value.toNat, by omega, String.toList_inj.mp ?_⟩
                rw [chars, (NumberText.eq_of_read found).1, List.append_nil,
                  Numeric.decimalDigits, String.toList_ofList]

theorem decodeNatKey_decimalDigits {limit number : Nat} (below : number < limit)
    (fits : limit ≤ UInt64.size) (shape : Shape) (location : Location) :
    decodeNatKey .value limit shape location
        ⟨.ok (Numeric.decimalDigits number), (Numeric.decimalDigits number).toList⟩ =
      .ok (number, Numeric.decimalInt number) := by
  rcases NumberText.exists_numeral number with ⟨digits, numeral, rfl⟩
  have small : Text.ofDigits 10 digits ≤ NumberText.significandLimit := by
    rw [NumberText.significandLimit]
    omega
  have read := NumberText.read_digitChars numeral small NumberText.ends_nil
  have chars :
      (Numeric.decimalDigits (Text.ofDigits 10 digits)).toList =
        NumberText.digitChars digits := by
    rw [Numeric.decimalDigits, String.toList_ofList, numeral.toDigits_eq]
  rw [List.append_nil] at read
  rw [decodeNatKey, chars]
  cases digits with
  | nil => exact absurd rfl numeral.nonempty
  | cons digit others =>
      have opens := Text.decimalDigit?_digitChar digit (numeral.small digit (by simp))
      rw [NumberText.digitChars, List.map_cons] at read ⊢
      simp only [opens, read]
      rw [if_neg (by simp), if_neg (by omega)]
      rfl

theorem recognizesKey_nat {limit : Nat} (fits : limit ≤ UInt64.size) (shape : Shape) :
    RecognizesKey (decodeNatKey .value limit shape) (IsNaturalKey limit) := by
  intro location name
  refine ⟨isNaturalKey_of_decodeNatKey, ?_⟩
  rintro ⟨number, below, rfl⟩
  exact ⟨_, decodeNatKey_decimalDigits below fits shape location⟩

theorem recognizes_cmap : Recognizes decodeCmap IsCmap :=
  recognizes_map recognizesKey_codepoint recognizes_glyph

theorem recognizes_substitutions :
    Recognizes (decodeSubstitutions .value) IsSubstitutions := by
  refine recognizes_map ?_ (recognizes_sequence recognizes_glyph)
  intro location name
  exact succeeds_bind_ok_iff.trans (recognizesKey_nat (by decide) _ location name)

/-! ## Records -/

section

variable {σ : Type} {names : List String}
  {decode : String → Location → Json.Draft → σ → Except Fault σ}

theorem succeeds_fields_iff (part : String → Grammar)
    (fields : ∀ name ∈ names, ∀ location value state,
      Succeeds (decode name location (.ofValue value) state) ↔ part name value)
    (location : Location) (entries : List (String × Value)) :
    ∀ (seen : List String) (state : σ),
      Succeeds
          (decodeFields names decode location none seen (Json.Draft.ofEntries entries)
            state) ↔
        (Ordered.keys entries).Nodup ∧ (∀ name ∈ seen, name ∉ Ordered.keys entries) ∧
          ∀ entry ∈ entries, entry.1 ∈ names ∧ part entry.1 entry.2 := by
  induction entries with
  | nil =>
      intro seen state
      refine iff_of_true (succeeds_ok _) ⟨List.nodup_nil, ?_, nofun⟩
      exact fun _ _ => List.not_mem_nil
  | cons entry entries ih =>
      intro seen state
      rcases entry with ⟨name, value⟩
      rw [Json.Draft.ofEntries, decodeFields, Json.Draft.read_of_text rfl, orBreak_ok,
        ok_bind]
      have keys : Ordered.keys ((name, value) :: entries) = name :: Ordered.keys entries := rfl
      rw [keys, List.nodup_cons, List.forall_mem_cons]
      split
      · rename_i unknown
        refine iff_of_false (not_succeeds_error _) fun parts => ?_
        simp [parts.2.2.1.1] at unknown
      · rename_i known
        have known : name ∈ names := by simpa using known
        split
        · rename_i repeated
          refine iff_of_false (not_succeeds_error _) fun parts => ?_
          exact parts.2.1 name (by simpa using repeated) List.mem_cons_self
        · rename_i fresh
          have fresh : name ∉ seen := by simpa using fresh
          rw [succeeds_bind_iff fun state _ => ih (name :: seen) state,
            fields name known, List.forall_mem_cons]
          constructor
          · rintro ⟨own, distinct, ⟨absent, apart⟩, others⟩
            refine ⟨⟨absent, distinct⟩, fun other member => ?_, ⟨known, own⟩, others⟩
            rw [List.mem_cons, not_or]
            exact ⟨fun same => fresh (same ▸ member), apart other member⟩
          · rintro ⟨⟨absent, distinct⟩, apart, ⟨-, own⟩, others⟩
            exact
              ⟨own, distinct,
                ⟨absent, fun other member => (List.not_mem_of_not_mem_cons (apart other member))⟩,
                others⟩

/-- A field is decoded into a part of the state, and the other fields leave that part alone. -/
structure DecodesInto {α : Type} (names : List String)
    (decode : String → Location → Json.Draft → σ → Except Fault σ) (name : String)
    (decodePart : Decoder α) (get : σ → Option α) : Prop where
  here : ∀ {location draft state after}, decode name location draft state = .ok after →
    ∃ result, decodePart location draft = .ok result ∧ get after = some result
  elsewhere : ∀ {other location draft state after}, other ∈ names → other ≠ name →
    decode other location draft state = .ok after → get after = get state

namespace DecodesInto

variable {α : Type} {name : String} {decodePart : Decoder α} {get : σ → Option α}
  (into : DecodesInto names decode name decodePart get) {location : Location}

include into

theorem get_of_decodeFields (entries : List (String × Value)) :
    ∀ {seen : List String} {state final : σ},
      decodeFields names decode location none seen (Json.Draft.ofEntries entries) state =
          .ok final →
        (∃ value place result, (name, value) ∈ entries ∧
            decodePart place (.ofValue value) = .ok result ∧ get final = some result) ∨
          name ∉ Ordered.keys entries ∧ get final = get state := by
  induction entries with
  | nil =>
      intro seen state final decoded
      cases decoded
      exact .inr ⟨List.not_mem_nil, rfl⟩
  | cons entry entries ih =>
      intro seen state final decoded
      rcases entry with ⟨key, value⟩
      rw [Json.Draft.ofEntries, decodeFields, Json.Draft.read_of_text rfl, orBreak_ok,
        ok_bind] at decoded
      split at decoded
      · cases decoded
      · rename_i known
        split at decoded
        · cases decoded
        · rcases exists_of_bind_ok decoded with ⟨between, own, others⟩
          rcases ih others with ⟨later, place, result, member, read, got⟩ | ⟨absent, kept⟩
          · exact .inl ⟨later, place, result, List.mem_cons_of_mem _ member, read, got⟩
          · by_cases same : key = name
            · subst same
              rcases into.here own with ⟨result, read, got⟩
              exact .inl ⟨value, _, result, List.mem_cons_self, read, kept.trans got⟩
            · refine .inr ⟨?_, kept.trans (into.elsewhere (by simpa using known) same own)⟩
              exact List.not_mem_cons_of_ne_of_not_mem (Ne.symm same) absent

theorem succeeds_requireField_iff {entries : List (String × Value)} {seen : List String}
    {state final : σ}
    (decoded :
      decodeFields names decode location none seen (Json.Draft.ofEntries entries) state =
        .ok final)
    (unknown : get state = none) (place : Location) :
    Succeeds (requireField place name (get final)) ↔ name ∈ Ordered.keys entries := by
  rcases into.get_of_decodeFields entries decoded with
    ⟨value, there, result, member, -, got⟩ | ⟨absent, kept⟩
  · rw [got]
    exact iff_of_true (succeeds_ok _) (List.mem_map_of_mem member)
  · rw [kept, unknown]
    exact iff_of_false (not_succeeds_error _) absent

end DecodesInto

end

theorem isRecord_object_iff {fields : List (String × Grammar)} {required : List String}
    {entries : List (String × Value)} :
    IsRecord fields required (.object entries) ↔
      (Ordered.keys entries).Nodup ∧
        (∀ entry ∈ entries, ∃ grammar, (entry.1, grammar) ∈ fields ∧ grammar entry.2) ∧
          ∀ name ∈ required, name ∈ Ordered.keys entries := by
  constructor
  · rintro ⟨distinct, known, complete⟩
    exact ⟨distinct, known, complete⟩
  · rintro ⟨distinct, known, complete⟩
    exact .object distinct known complete

theorem isRecord_array_iff {fields : List (String × Grammar)} {required : List String}
    {items : List Value} :
    IsRecord fields required (.array items) ↔
      List.Forall₂ (fun field item => field.2 item) fields items := by
  constructor
  · intro record
    cases record with
    | array parts => exact parts
  · exact .array

/-- A record that is written as an object is decoded field by field, and then it is seen whether
the required fields are there. -/
theorem succeeds_record_iff {σ β : Type} {fields : List (String × Grammar)}
    {names required : List String} (named : fields.map Prod.fst = names)
    {decode : String → Location → Json.Draft → σ → Except Fault σ}
    (parts : ∀ name ∈ names, ∀ location value state,
      Succeeds (decode name location (.ofValue value) state) ↔
        ∃ grammar, (name, grammar) ∈ fields ∧ grammar value)
    {location : Location} {entries : List (String × Value)} {state : σ}
    {next : σ → Except Fault β}
    (completes : ∀ final,
      decodeFields names decode location none [] (Json.Draft.ofEntries entries) state =
          .ok final →
        (Succeeds (next final) ↔ ∀ name ∈ required, name ∈ Ordered.keys entries)) :
    Succeeds
        (decodeFields names decode location none [] (Json.Draft.ofEntries entries) state >>=
          next) ↔
      IsRecord fields required (.object entries) := by
  subst named
  rw [succeeds_bind_iff completes, isRecord_object_iff, succeeds_fields_iff _ parts,
    and_assoc]
  refine and_congr_right fun _ => ?_
  constructor
  · rintro ⟨⟨-, known⟩, complete⟩
    exact ⟨fun entry member => (known entry member).2, complete⟩
  · rintro ⟨known, complete⟩
    refine ⟨⟨nofun, fun entry member => ⟨?_, known entry member⟩⟩, complete⟩
    rcases known entry member with ⟨grammar, field, -⟩
    exact List.mem_map_of_mem field

theorem ofItems_eq_map : ∀ items : List Value,
    Json.Draft.ofItems items = items.map Json.Draft.ofValue
  | [] => rfl
  | item :: items => by
      rw [Json.Draft.ofItems, List.map_cons, ofItems_eq_map items]

section

variable {α : Type} {decode : Decoder α} {grammar : Grammar}

theorem succeeds_item?_iff (recognizes : Recognizes decode grammar) (location : Location)
    (items : List Value) (index : Nat) :
    Succeeds (decodeItem? decode location (Json.Draft.ofItems items) none index) ↔
      ∀ item ∈ items[index]?, grammar item := by
  rw [decodeItem?, ofItems_eq_map, List.getElem?_map]
  cases items[index]? with
  | none =>
      exact iff_of_true (succeeds_ok _) fun item member => absurd member (Option.not_mem_none item)
  | some item =>
      simp only [Option.map_some, Option.mem_some_iff, forall_eq',
        ← recognizes (location ++ [.item index]) item]
      exact succeeds_bind_ok_iff

theorem succeeds_item_iff (recognizes : Recognizes decode grammar) (location : Location)
    (items : List Value) (record : String) (count index : Nat) :
    Succeeds (decodeItem decode location (Json.Draft.ofItems items) none record count index) ↔
      ∃ item ∈ items[index]?, grammar item := by
  rw [decodeItem, decodeItem?, ofItems_eq_map, List.getElem?_map]
  cases items[index]? with
  | none =>
      refine iff_of_false (not_succeeds_error _) ?_
      rintro ⟨item, member, -⟩
      exact Option.not_mem_none item member
  | some item =>
      simp only [Option.map_some, Option.mem_some_iff, exists_eq_left',
        ← recognizes (location ++ [.item index]) item]
      cases decode (location ++ [.item index]) (.ofValue item) with
      | error fault => exact iff_of_false (not_succeeds_error _) (not_succeeds_error _)
      | ok result => exact iff_of_true (succeeds_ok _) (succeeds_ok _)

theorem succeeds_endItems_iff (location : Location) (items : List Value) (count : Nat) :
    Succeeds (endItems .value location (Json.Draft.ofItems items) none count) ↔
      items.length ≤ count := by
  rw [endItems, ofItems_eq_map, List.length_map]
  split
  · rename_i longer
    exact iff_of_false (not_succeeds_error _) (Nat.not_le_of_lt longer)
  · rename_i within
    exact iff_of_true (succeeds_ok _) (Nat.le_of_not_lt within)

end

/-! ## Ranges -/

theorem decodesInto_first :
    DecodesInto rangeFields decodeRangeField "first" decodeCodepoint PartialRange.first where
  here decoded := by
    rcases exists_of_bind_ok decoded with ⟨codepoint, read, finished⟩
    cases finished
    exact ⟨codepoint, read, rfl⟩
  elsewhere _ other decoded := by
    rcases exists_of_bind_ok decoded with ⟨codepoint, -, finished⟩
    rw [if_neg other] at finished
    cases finished
    rfl

theorem decodesInto_last :
    DecodesInto rangeFields decodeRangeField "last" decodeCodepoint PartialRange.last where
  here decoded := by
    rcases exists_of_bind_ok decoded with ⟨codepoint, read, finished⟩
    cases finished
    exact ⟨codepoint, read, rfl⟩
  elsewhere known other decoded := by
    rcases exists_of_bind_ok decoded with ⟨codepoint, -, finished⟩
    rw [if_pos (by simpa [rangeFields, other] using known)] at finished
    cases finished
    rfl

theorem succeeds_rangeField_iff {name : String} (location : Location) (value : Value)
    (range : PartialRange) :
    Succeeds (decodeRangeField name location (.ofValue value) range) ↔ IsCodepoint value := by
  rw [decodeRangeField, ← recognizes_codepoint location value]
  cases decodeCodepoint location (.ofValue value) with
  | error fault => exact iff_of_false (not_succeeds_error _) (not_succeeds_error _)
  | ok codepoint =>
      refine iff_of_true ?_ (succeeds_ok _)
      rw [ok_bind]
      split <;> exact succeeds_ok _

theorem recognizes_range : Recognizes (decodeRange .value) IsRange := by
  intro location value
  cases value with
  | array items =>
      rw [Json.Draft.ofValue, IsRange, isRecord_array_iff]
      have bound (index : Nat) :=
        succeeds_item_iff recognizes_codepoint location items "CharacterRange" 2 index
      have ended := succeeds_endItems_iff location items 2
      have parts :
          Succeeds (decodeRange .value location (.array (Json.Draft.ofItems items) none)) ↔
            (∃ item ∈ items[0]?, IsCodepoint item) ∧ (∃ item ∈ items[1]?, IsCodepoint item) ∧
              items.length ≤ 2 := by
        rw [decodeRange, ← bound 0, ← bound 1, ← ended]
        exact
          succeeds_bind_iff fun _ _ => succeeds_bind_iff fun _ _ => succeeds_bind_ok_iff
      rw [parts]
      rcases items with _ | ⟨first, _ | ⟨last, _ | ⟨other, others⟩⟩⟩ <;> simp [rangeGrammar]
  | object entries =>
      rw [Json.Draft.ofValue, IsRange, decodeRange]
      refine succeeds_record_iff names_rangeGrammar ?_ ?_
      · intro name known location value range
        rw [succeeds_rangeField_iff]
        simp only [rangeFields, List.mem_cons, List.not_mem_nil, or_false] at known
        rcases known with rfl | rfl <;> simp [rangeGrammar]
      · intro range decoded
        rw [List.forall_mem_cons, List.forall_mem_singleton,
          ← decodesInto_first.succeeds_requireField_iff decoded rfl location,
          ← decodesInto_last.succeeds_requireField_iff decoded rfl location]
        exact succeeds_bind_iff fun _ _ => succeeds_bind_ok_iff
  | _ => exact iff_of_false (not_succeeds_error _) nofun

theorem recognizes_ranges : Recognizes (decodeRanges .value) (IsSequence IsRange) :=
  recognizes_sequence recognizes_range

/-! ## Manifests -/

theorem cases_of_mem_documentFields {name : String} (known : name ∈ documentFields) :
    name = "label" ∨ name = "encoding_width" ∨ name = "cmap" ∨ name = "substitutions" ∨
      name = "ranges" ∨ name = "graph" := by
  simpa [documentFields] using known

/-- What a field of a manifest is decoded to, and where it goes. -/
inductive FieldDecoded (route : Route) (location : Location) (draft : Json.Draft)
    (document : PartialDocument) : String → PartialDocument → Prop
  | label {label : String} (read : decodeText location draft = .ok label) :
      FieldDecoded route location draft document "label" { document with label := some label }
  | encodingWidth {width : Nat} (read : decodeWidth location draft = .ok width) :
      FieldDecoded route location draft document "encoding_width"
        { document with encodingWidth := some width }
  | cmap {cmap : List (Nat × Font.GlyphId)} (read : decodeCmap location draft = .ok cmap) :
      FieldDecoded route location draft document "cmap" { document with cmap := some cmap }
  | substitutions {substitutions : List (Font.GlyphId × List Font.GlyphId)}
      (read : decodeSubstitutions route location draft = .ok substitutions) :
      FieldDecoded route location draft document "substitutions"
        { document with substitutions := some substitutions }
  | ranges {ranges : List CharacterRange} (read : decodeRanges route location draft = .ok ranges) :
      FieldDecoded route location draft document "ranges"
        { document with ranges := some ranges }
  | graph {graph : List (String × Value)} (read : decodeGraph location draft = .ok graph) :
      FieldDecoded route location draft document "graph" { document with graph := some graph }

theorem fieldDecoded {route : Route} {name : String} {location : Location}
    {draft : Json.Draft} {document after : PartialDocument} (known : name ∈ documentFields)
    (decoded : decodeDocumentField route name location draft document = .ok after) :
    FieldDecoded route location draft document name after := by
  rcases cases_of_mem_documentFields known with rfl | rfl | rfl | rfl | rfl | rfl <;>
    rcases exists_of_bind_ok decoded with ⟨part, read, finished⟩ <;>
      cases finished
  · exact .label read
  · exact .encodingWidth read
  · exact .cmap read
  · exact .substitutions read
  · exact .ranges read
  · exact .graph read

theorem decodesInto_label (route : Route) :
    DecodesInto documentFields (decodeDocumentField route) "label" decodeText
      PartialDocument.label where
  here decoded := by
    rcases exists_of_bind_ok decoded with ⟨label, read, finished⟩
    cases finished
    exact ⟨label, read, rfl⟩
  elsewhere known other decoded := by
    cases fieldDecoded known decoded with
    | label => exact absurd rfl other
    | _ => rfl

theorem decodesInto_cmap (route : Route) :
    DecodesInto documentFields (decodeDocumentField route) "cmap" decodeCmap
      PartialDocument.cmap where
  here decoded := by
    rcases exists_of_bind_ok decoded with ⟨cmap, read, finished⟩
    cases finished
    exact ⟨cmap, read, rfl⟩
  elsewhere known other decoded := by
    cases fieldDecoded known decoded with
    | cmap => exact absurd rfl other
    | _ => rfl

theorem decodesInto_graph (route : Route) :
    DecodesInto documentFields (decodeDocumentField route) "graph" decodeGraph
      PartialDocument.graph where
  here decoded := by
    rcases exists_of_bind_ok decoded with ⟨graph, read, finished⟩
    cases finished
    exact ⟨graph, read, rfl⟩
  elsewhere known other decoded := by
    cases fieldDecoded known decoded with
    | graph => exact absurd rfl other
    | _ => rfl

theorem succeeds_documentField_iff {name : String} (known : name ∈ documentFields)
    (location : Location) (value : Value) (document : PartialDocument) :
    Succeeds (decodeDocumentField .value name location (.ofValue value) document) ↔
      ∃ grammar, (name, grammar) ∈ manifestGrammar ∧ grammar value := by
  rcases cases_of_mem_documentFields known with rfl | rfl | rfl | rfl | rfl | rfl
  · refine (succeeds_bind_ok_iff.trans (recognizes_text location value)).trans ?_
    simp [manifestGrammar]
  · refine (succeeds_bind_ok_iff.trans (recognizes_width location value)).trans ?_
    simp [manifestGrammar]
  · refine (succeeds_bind_ok_iff.trans (recognizes_cmap location value)).trans ?_
    simp [manifestGrammar]
  · refine (succeeds_bind_ok_iff.trans (recognizes_substitutions location value)).trans ?_
    simp [manifestGrammar]
  · refine (succeeds_bind_ok_iff.trans (recognizes_ranges location value)).trans ?_
    simp [manifestGrammar]
  · refine (succeeds_bind_ok_iff.trans (recognizes_graph location value)).trans ?_
    simp [manifestGrammar]

theorem recognizes_document : Recognizes (decodeDocument .value) IsManifest := by
  intro location value
  cases value with
  | array items =>
      have required {α : Type} {decode : Decoder α} {grammar : Grammar}
          (recognizes : Recognizes decode grammar) (index : Nat) :=
        succeeds_item_iff recognizes location items "Manifest" 6 index
      have optional {α : Type} {decode : Decoder α} {grammar : Grammar}
          (recognizes : Recognizes decode grammar) (index : Nat) :=
        succeeds_item?_iff recognizes location items index
      have ended := succeeds_endItems_iff location items 6
      have parts :
          Succeeds (decodeDocument .value location (.array (Json.Draft.ofItems items) none)) ↔
            (∃ label ∈ items[0]?, IsText label) ∧
              (∀ width ∈ items[1]?, IsNatural UInt64.size width) ∧
                (∃ cmap ∈ items[2]?, IsCmap cmap) ∧
                  (∀ substitutions ∈ items[3]?, IsSubstitutions substitutions) ∧
                    (∀ ranges ∈ items[4]?, IsSequence IsRange ranges) ∧
                      (∃ graph ∈ items[5]?, IsObject graph) ∧ items.length ≤ 6 := by
        rw [decodeDocument, ← required recognizes_text 0, ← optional recognizes_width 1,
          ← required recognizes_cmap 2, ← optional recognizes_substitutions 3,
          ← optional recognizes_ranges 4, ← required recognizes_graph 5, ← ended]
        exact
          succeeds_bind_iff fun _ _ => succeeds_bind_iff fun _ _ => succeeds_bind_iff fun _ _ =>
            succeeds_bind_iff fun _ _ => succeeds_bind_iff fun _ _ =>
              succeeds_bind_iff fun _ _ => succeeds_bind_ok_iff
      rw [Json.Draft.ofValue, IsManifest, isRecord_array_iff, parts]
      rcases items with
        _ | ⟨label, _ | ⟨width, _ | ⟨cmap, _ | ⟨substitutions, _ | ⟨ranges, _ | ⟨graph,
          _ | ⟨other, others⟩⟩⟩⟩⟩⟩⟩ <;>
        simp [manifestGrammar]
  | object entries =>
      rw [Json.Draft.ofValue, IsManifest, decodeDocument]
      refine succeeds_record_iff names_manifestGrammar ?_ ?_
      · intro name known location value document
        exact succeeds_documentField_iff known location value document
      · intro document decoded
        rw [List.forall_mem_cons, List.forall_mem_cons, List.forall_mem_singleton,
          ← (decodesInto_label .value).succeeds_requireField_iff decoded rfl location,
          ← (decodesInto_cmap .value).succeeds_requireField_iff decoded rfl location,
          ← (decodesInto_graph .value).succeeds_requireField_iff decoded rfl location]
        exact
          succeeds_bind_iff fun _ _ => succeeds_bind_iff fun _ _ => succeeds_bind_ok_iff
  | _ => exact iff_of_false (not_succeeds_error _) nofun

end FontCompiler.Manifest
