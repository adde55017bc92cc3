import FontCompiler.Proofs.Json.Denotation

/-!
# Values without repeated keys

A value in which no object repeats a key.  It is denoted by its own draft, so
decoding reads the draft of such a value back without a loss.  Conversely, the
value of a complete draft is always of this kind, whatever the draft repeats.
-/

namespace FontCompiler.Json

namespace Value

mutual

/-- No object at or below a value repeats a key. -/
def KeysDistinct : Value → Prop
  | .array items => ItemsKeysDistinct items
  | .object entries => (Ordered.keys entries).Nodup ∧ EntriesKeysDistinct entries
  | _ => True

/-- No object at or below the items of an array repeats a key. -/
def ItemsKeysDistinct : List Value → Prop
  | [] => True
  | item :: items => KeysDistinct item ∧ ItemsKeysDistinct items

/-- No object at or below the entries of an object repeats a key. -/
def EntriesKeysDistinct : List (String × Value) → Prop
  | [] => True
  | (_, value) :: entries => KeysDistinct value ∧ EntriesKeysDistinct entries

end

theorem itemsKeysDistinct_iff {items : List Value} :
    ItemsKeysDistinct items ↔ ∀ item ∈ items, KeysDistinct item := by
  induction items with
  | nil => exact iff_of_true trivial nofun
  | cons item items ih => rw [ItemsKeysDistinct, List.forall_mem_cons, ih]

theorem entriesKeysDistinct_iff {entries : List (String × Value)} :
    EntriesKeysDistinct entries ↔ ∀ entry ∈ entries, KeysDistinct entry.2 := by
  induction entries with
  | nil => exact iff_of_true trivial nofun
  | cons entry entries ih => rw [EntriesKeysDistinct, List.forall_mem_cons, ih]

end Value

mutual

theorem denotes_ofValue :
    ∀ {value : Value}, value.KeysDistinct → Draft.Denotes (.ofValue value) value
  | .null, _ => .null
  | .bool truth, _ => .bool truth
  | .number numeral, _ => .number numeral
  | .string text, _ => .string text
  | .array items, distinct => by
      rw [Value.KeysDistinct] at distinct
      rw [Draft.ofValue]
      exact .array (itemsDenote_ofItems distinct)
  | .object entries, distinct => by
      rw [Value.KeysDistinct] at distinct
      rw [Draft.ofValue]
      exact .object (entriesDenote_ofEntries distinct.2) distinct.1

theorem itemsDenote_ofItems :
    ∀ {items : List Value}, Value.ItemsKeysDistinct items →
      Draft.ItemsDenote (Draft.ofItems items) items
  | [], _ => .nil
  | item :: items, distinct => by
      rw [Value.ItemsKeysDistinct] at distinct
      exact .cons (denotes_ofValue distinct.1) (itemsDenote_ofItems distinct.2)

theorem entriesDenote_ofEntries :
    ∀ {entries : List (String × Value)}, Value.EntriesKeysDistinct entries →
      Draft.EntriesDenote (Draft.ofEntries entries) entries
  | [], _ => .nil
  | (key, value) :: entries, distinct => by
      rw [Value.EntriesKeysDistinct] at distinct
      exact .cons rfl (denotes_ofValue distinct.1) (entriesDenote_ofEntries distinct.2)

end

/-- The entries of an object without repeated keys are completed to themselves. -/
theorem completeObject_ofEntries {entries : List (String × Value)}
    (distinct : (Value.object entries).KeysDistinct) (location : Location) :
    Draft.completeObject location (Draft.ofEntries entries) none = .ok entries := by
  rw [Value.KeysDistinct] at distinct
  rw [Draft.completeObject, (entriesDenote_ofEntries distinct.2).complete]
  exact congrArg Except.ok (Ordered.ofList_eq_self distinct.1)

/-! ## Values of drafts -/

namespace Draft

/-- Writing the entries of an object one after the other merges repeated keys. -/
theorem keysDistinct_object_ofList {members : List (String × Value)}
    (distinct : Value.EntriesKeysDistinct members) :
    (Value.object (Ordered.ofList members)).KeysDistinct := by
  rw [Value.entriesKeysDistinct_iff] at distinct
  rw [Value.KeysDistinct, Value.entriesKeysDistinct_iff]
  exact
    ⟨Ordered.nodup_keys_ofList members, fun entry member =>
      distinct entry (Ordered.mem_of_mem_ofList member)⟩

mutual

theorem ensures_complete :
    ∀ (draft : Draft) (location : Location), Ensures (draft.complete location) Value.KeysDistinct
  | .fault _, _ => by
      rw [complete]
      exact .error _
  | .unreached _, _ => by
      rw [complete]
      exact .error _
  | .null, _ | .bool _, _ | .number _, _ | .string _, _ => by
      rw [complete]
      exact .ok trivial
  | .array items cut, location => by
      rw [complete]
      refine (ensures_completeItems items location 0).bind fun values distinct => ?_
      exact (Ensures.trivial _).bind fun _ _ => .ok distinct
  | .object entries cut, location => by
      rw [complete]
      refine (ensures_completeEntries entries location).bind fun members distinct => ?_
      exact (Ensures.trivial _).bind fun _ _ => .ok (keysDistinct_object_ofList distinct)

theorem ensures_completeItems :
    ∀ (items : List Draft) (location : Location) (index : Nat),
      Ensures (completeItems location index items) Value.ItemsKeysDistinct
  | [], _, _ => by
      rw [completeItems]
      exact .ok trivial
  | item :: items, location, index => by
      rw [completeItems]
      refine (ensures_complete item _).bind fun value first => ?_
      exact
        (ensures_completeItems items location (index + 1)).bind fun values others =>
          .ok ⟨first, others⟩

theorem ensures_completeEntries :
    ∀ (entries : List (DraftKey × Draft)) (location : Location),
      Ensures (completeEntries location entries) Value.EntriesKeysDistinct
  | [], _ => by
      rw [completeEntries]
      exact .ok trivial
  | (key, draft) :: entries, location => by
      rw [completeEntries]
      refine (Ensures.trivial _).bind fun name _ => ?_
      refine (ensures_complete draft _).bind fun value first => ?_
      exact
        (ensures_completeEntries entries location).bind fun members others =>
          .ok ⟨first, others⟩

end

theorem ensures_completeObject (location : Location) (entries : List (DraftKey × Draft))
    (cut : Option SyntaxFault) :
    Ensures (completeObject location entries cut) fun members =>
      (Value.object members).KeysDistinct := by
  rw [completeObject]
  refine (ensures_completeEntries entries location).bind fun members distinct => ?_
  exact (Ensures.trivial _).bind fun _ _ => .ok (keysDistinct_object_ofList distinct)

end Draft

end FontCompiler.Json
