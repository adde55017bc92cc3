import FontCompiler.Json.Reading
import FontCompiler.Proofs.Except
import FontCompiler.Proofs.Ordered

/-!
# What drafts denote

A draft that does not break off denotes a value.  The draft that is read of a
text and the draft that is made of that value need not be the same, since a key
may be spelled in several ways, but both denote it.

The value of an object has every key once.  A draft keeps what is written, so
it denotes the entries of its value one by one only if it repeats no key.
-/

namespace FontCompiler.Json

namespace Draft

/-! ## Repeated keys -/

/-- The texts of the keys of an object, as far as they can be read. -/
def keyTexts (entries : List (DraftKey × Draft)) : List String :=
  entries.filterMap (·.1.text.toOption)

mutual

/-- No object at or below a draft repeats a key. -/
def KeysDistinct : Draft → Prop
  | .array items _ => ItemsKeysDistinct items
  | .object entries _ => (keyTexts entries).Nodup ∧ EntriesKeysDistinct entries
  | .fault _ => True
  | .unreached _ => True
  | .null => True
  | .bool _ => True
  | .number _ => True
  | .string _ => True

/-- No object at or below the items of an array repeats a key. -/
def ItemsKeysDistinct : List Draft → Prop
  | [] => True
  | item :: items => KeysDistinct item ∧ ItemsKeysDistinct items

/-- No object at or below the values of an object repeats a key. -/
def EntriesKeysDistinct : List (DraftKey × Draft) → Prop
  | [] => True
  | (_, value) :: entries => KeysDistinct value ∧ EntriesKeysDistinct entries

end

mutual

/-- Whether no object at or below a draft repeats a key. -/
def decideKeysDistinct : ∀ draft : Draft, Decidable draft.KeysDistinct
  | .array items _ => decideItemsKeysDistinct items
  | .object entries _ =>
      have := decideEntriesKeysDistinct entries
      inferInstanceAs
        (Decidable ((keyTexts entries).Nodup ∧ EntriesKeysDistinct entries))
  | .fault _ => .isTrue .intro
  | .unreached _ => .isTrue .intro
  | .null => .isTrue .intro
  | .bool _ => .isTrue .intro
  | .number _ => .isTrue .intro
  | .string _ => .isTrue .intro

/-- Whether no object at or below the items of an array repeats a key. -/
def decideItemsKeysDistinct : ∀ items : List Draft, Decidable (ItemsKeysDistinct items)
  | [] => .isTrue .intro
  | item :: items =>
      have := decideKeysDistinct item
      have := decideItemsKeysDistinct items
      inferInstanceAs (Decidable (KeysDistinct item ∧ ItemsKeysDistinct items))

/-- Whether no object at or below the values of an object repeats a key. -/
def decideEntriesKeysDistinct :
    ∀ entries : List (DraftKey × Draft), Decidable (EntriesKeysDistinct entries)
  | [] => .isTrue .intro
  | (_, value) :: entries =>
      have := decideKeysDistinct value
      have := decideEntriesKeysDistinct entries
      inferInstanceAs (Decidable (KeysDistinct value ∧ EntriesKeysDistinct entries))

end

instance (draft : Draft) : Decidable draft.KeysDistinct :=
  decideKeysDistinct draft

/-! ## Denotation -/

mutual

/-- A draft is complete, repeats no key, and has the shape of a value. -/
inductive Denotes : Draft → Value → Prop
  | null : Denotes .null .null
  | bool (truth : Bool) : Denotes (.bool truth) (.bool truth)
  | number (numeral : Number) : Denotes (.number numeral) (.number numeral)
  | string (text : String) : Denotes (.string text) (.string text)
  | array {items : List Draft} {values : List Value}
      (inside : ItemsDenote items values) :
      Denotes (.array items none) (.array values)
  | object {entries : List (DraftKey × Draft)} {members : List (String × Value)}
      (inside : EntriesDenote entries members)
      (distinct : (Ordered.keys members).Nodup) :
      Denotes (.object entries none) (.object members)

/-- Drafts denote values one by one. -/
inductive ItemsDenote : List Draft → List Value → Prop
  | nil : ItemsDenote [] []
  | cons {item : Draft} {value : Value} {items : List Draft} {values : List Value}
      (first : Denotes item value) (others : ItemsDenote items values) :
      ItemsDenote (item :: items) (value :: values)

/-- Entries denote entries one by one, however their keys are spelled. -/
inductive EntriesDenote : List (DraftKey × Draft) → List (String × Value) → Prop
  | nil : EntriesDenote [] []
  | cons {key : DraftKey} {name : String} {draft : Draft} {value : Value}
      {entries : List (DraftKey × Draft)} {members : List (String × Value)}
      (spelled : key.text = .ok name) (first : Denotes draft value)
      (others : EntriesDenote entries members) :
      EntriesDenote ((key, draft) :: entries) ((name, value) :: members)

end

theorem EntriesDenote.keyTexts_eq :
    ∀ {entries : List (DraftKey × Draft)} {members : List (String × Value)},
      EntriesDenote entries members →
      keyTexts entries = Ordered.keys members
  | [], _, .nil => rfl
  | (key, draft) :: entries, _, @EntriesDenote.cons _ name _ _ _ _ spelled _ others => by
      have behind := others.keyTexts_eq
      rw [keyTexts, List.filterMap_cons, spelled]
      exact congrArg (name :: ·) behind

/-! ## Complete drafts -/

theorem eq_none_of_closed {location : Location} {cut : Option SyntaxFault}
    {done : Unit} (complete : closed location cut = .ok done) : cut = none := by
  cases cut with
  | none => rfl
  | some fault => cases complete

theorem text_of_read {location : Location} {key : DraftKey} {name : String}
    (read : key.read location = .ok name) : key.text = .ok name := by
  unfold DraftKey.read at read
  split at read
  · rename_i text spelled
    cases read
    exact spelled
  · cases read

theorem read_of_text {key : DraftKey} {name : String}
    (spelled : key.text = .ok name) (location : Location) :
    key.read location = .ok name := by
  rw [DraftKey.read, spelled]

mutual

/-- A complete draft without repeated keys denotes its value. -/
theorem denotes_of_complete :
    ∀ {draft : Draft} {value : Value} {location : Location},
      draft.complete location = .ok value → draft.KeysDistinct →
      Denotes draft value
  | .fault _, _, _, completed, _ => by cases completed
  | .unreached _, _, _, completed, _ => by cases completed
  | .null, _, _, completed, _ => by
      cases completed
      exact .null
  | .bool truth, _, _, completed, _ => by
      cases completed
      exact .bool truth
  | .number numeral, _, _, completed, _ => by
      cases completed
      exact .number numeral
  | .string text, _, _, completed, _ => by
      cases completed
      exact .string text
  | .array items cut, value, location, completed, distinct => by
      rw [complete] at completed
      rcases exists_of_bind_ok completed with ⟨values, inside, completed⟩
      rcases exists_of_bind_ok completed with ⟨done, ended, finished⟩
      cases finished
      cases eq_none_of_closed ended
      rw [KeysDistinct] at distinct
      exact .array (itemsDenote_of_complete inside distinct)
  | .object entries cut, value, location, completed, distinct => by
      rw [complete] at completed
      rcases exists_of_bind_ok completed with ⟨members, inside, completed⟩
      rcases exists_of_bind_ok completed with ⟨done, ended, finished⟩
      cases finished
      cases eq_none_of_closed ended
      rw [KeysDistinct] at distinct
      have denote := entriesDenote_of_complete inside distinct.2
      have keys : (Ordered.keys members).Nodup := by
        rw [← denote.keyTexts_eq]
        exact distinct.1
      rw [Ordered.ofList_eq_self keys]
      exact .object denote keys

theorem itemsDenote_of_complete :
    ∀ {items : List Draft} {values : List Value} {location : Location}
      {index : Nat},
      completeItems location index items = .ok values →
      ItemsKeysDistinct items → ItemsDenote items values
  | [], _, _, _, completed, _ => by
      cases completed
      exact .nil
  | item :: items, values, location, index, completed, distinct => by
      rw [completeItems] at completed
      rcases exists_of_bind_ok completed with ⟨value, first, completed⟩
      rcases exists_of_bind_ok completed with ⟨others, behind, finished⟩
      cases finished
      rw [ItemsKeysDistinct] at distinct
      exact
        .cons (denotes_of_complete first distinct.1)
          (itemsDenote_of_complete behind distinct.2)

theorem entriesDenote_of_complete :
    ∀ {entries : List (DraftKey × Draft)} {members : List (String × Value)}
      {location : Location},
      completeEntries location entries = .ok members →
      EntriesKeysDistinct entries → EntriesDenote entries members
  | [], _, _, completed, _ => by
      cases completed
      exact .nil
  | (key, draft) :: entries, members, location, completed, distinct => by
      rw [completeEntries] at completed
      rcases exists_of_bind_ok completed with ⟨name, spelled, completed⟩
      rcases exists_of_bind_ok completed with ⟨value, first, completed⟩
      rcases exists_of_bind_ok completed with ⟨others, behind, finished⟩
      cases finished
      rw [EntriesKeysDistinct] at distinct
      exact
        .cons (text_of_read spelled) (denotes_of_complete first distinct.1)
          (entriesDenote_of_complete behind distinct.2)

end

mutual

theorem Denotes.complete :
    ∀ {draft : Draft} {value : Value}, Denotes draft value →
      ∀ location : Location, draft.complete location = .ok value
  | _, _, .null, location => by rw [Draft.complete]
  | _, _, .bool truth, location => by rw [Draft.complete]
  | _, _, .number numeral, location => by rw [Draft.complete]
  | _, _, .string text, location => by rw [Draft.complete]
  | _, _, .array inside, location => by
      rw [Draft.complete, inside.complete]
      rfl
  | _, _, .object inside distinct, location => by
      rw [Draft.complete, inside.complete]
      exact congrArg (Except.ok ∘ Value.object) (Ordered.ofList_eq_self distinct)

theorem ItemsDenote.complete :
    ∀ {items : List Draft} {values : List Value}, ItemsDenote items values →
      ∀ (location : Location) (index : Nat),
        completeItems location index items = .ok values
  | _, _, .nil, location, index => by rw [completeItems]
  | _, _, .cons first others, location, index => by
      rw [completeItems, first.complete, others.complete]
      rfl

theorem EntriesDenote.complete :
    ∀ {entries : List (DraftKey × Draft)} {members : List (String × Value)},
      EntriesDenote entries members →
      ∀ location : Location, completeEntries location entries = .ok members
  | _, _, .nil, location => by rw [completeEntries]
  | _, _, .cons spelled first others, location => by
      rw [completeEntries, read_of_text spelled, ok_bind, first.complete,
        others.complete]
      rfl

end

/-! ## Drafts that are made of values -/

mutual

theorem Denotes.ofValue :
    ∀ {draft : Draft} {value : Value}, Denotes draft value →
      Denotes (.ofValue value) value
  | _, _, .null => .null
  | _, _, .bool truth => .bool truth
  | _, _, .number numeral => .number numeral
  | _, _, .string text => .string text
  | _, _, .array inside => by
      rw [Draft.ofValue]
      exact .array inside.ofItems
  | _, _, .object inside distinct => by
      rw [Draft.ofValue]
      exact .object inside.ofEntries distinct

theorem ItemsDenote.ofItems :
    ∀ {items : List Draft} {values : List Value}, ItemsDenote items values →
      ItemsDenote (Draft.ofItems values) values
  | _, _, .nil => by
      rw [Draft.ofItems]
      exact .nil
  | _, _, .cons first others => by
      rw [Draft.ofItems]
      exact .cons first.ofValue others.ofItems

theorem EntriesDenote.ofEntries :
    ∀ {entries : List (DraftKey × Draft)} {members : List (String × Value)},
      EntriesDenote entries members →
      EntriesDenote (Draft.ofEntries members) members
  | _, _, .nil => by
      rw [Draft.ofEntries]
      exact .nil
  | _, _, .cons _ first others => by
      rw [Draft.ofEntries]
      exact .cons rfl first.ofValue others.ofEntries

end

/-- An item denotes the value whose draft has its place. -/
theorem ItemsDenote.getElem? :
    ∀ {items : List Draft} {values : List Value}, ItemsDenote items values →
      ∀ index : Nat,
        (items[index]? = none ∧ (Draft.ofItems values)[index]? = none) ∨
          ∃ item value, items[index]? = some item ∧
            (Draft.ofItems values)[index]? = some (.ofValue value) ∧
            Denotes item value
  | _, _, .nil, index => by
      rw [Draft.ofItems]
      exact .inl ⟨rfl, rfl⟩
  | _, _, @ItemsDenote.cons item value _ _ first others, index => by
      rw [Draft.ofItems]
      cases index with
      | zero => exact .inr ⟨item, value, rfl, rfl, first⟩
      | succ index => exact others.getElem? index

theorem ItemsDenote.length_eq :
    ∀ {items : List Draft} {values : List Value}, ItemsDenote items values →
      items.length = (Draft.ofItems values).length
  | _, _, .nil => by rw [Draft.ofItems]
  | _, _, .cons _ others => by
      rw [Draft.ofItems, List.length_cons, List.length_cons,
        others.length_eq]

/-! ## Keys are read from their sources -/

/-- Every key at or below a draft has the text that is read from behind its opening quote. -/
inductive KeysRead : Draft → Prop
  | fault (cause : SyntaxFault) : KeysRead (.fault cause)
  | unreached (cause : SyntaxFault) : KeysRead (.unreached cause)
  | null : KeysRead .null
  | bool (truth : Bool) : KeysRead (.bool truth)
  | number (numeral : Number) : KeysRead (.number numeral)
  | string (text : String) : KeysRead (.string text)
  | array {items : List Draft} {cut : Option SyntaxFault}
      (inside : ∀ item ∈ items, KeysRead item) : KeysRead (.array items cut)
  | object {entries : List (DraftKey × Draft)} {cut : Option SyntaxFault}
      (keys : ∀ entry ∈ entries,
        entry.1.text = (readString entry.1.source).map Prod.fst)
      (inside : ∀ entry ∈ entries, KeysRead entry.2) :
      KeysRead (.object entries cut)

theorem keysRead_readWord {draft : Draft} (own : KeysRead draft)
    (expected : List Char) :
    ∀ chars : List Char, KeysRead (readWord draft expected chars).1 := by
  induction expected with
  | nil =>
      intro chars
      rw [readWord]
      exact own
  | cons letter letters ih =>
      intro chars
      cases chars with
      | nil => exact .fault _
      | cons char chars =>
          rw [readWord]
          split
          · exact ih chars
          · exact .fault _

section

variable {readValue : List Char → Reading}
  (inside : ∀ chars, KeysRead (readValue chars).1)

include inside

theorem keysRead_readItems (fuel : Nat) :
    ∀ (read : List Draft) (chars : List Char), (∀ item ∈ read, KeysRead item) →
      KeysRead (readItems readValue fuel read chars).1 := by
  induction fuel with
  | zero =>
      intro read chars known
      rw [readItems]
      exact .array (by simpa using known)
  | succ fuel ih =>
      intro read chars known
      have ended (cut : Option SyntaxFault) :
          KeysRead (.array read.reverse cut) := .array (by simpa using known)
      have goesOn {chars rest : List Char} {item : Draft}
          (shape : readValue chars = (item, some rest)) :
          KeysRead (readItems readValue fuel (item :: read) rest).1 := by
        have own := inside chars
        rw [shape] at own
        exact ih _ _ (List.forall_mem_cons.mpr ⟨own, known⟩)
      have breaksOff {chars : List Char} {item : Draft}
          (shape : readValue chars = (item, none)) :
          KeysRead (.array (item :: read).reverse none) := by
        have own := inside chars
        rw [shape] at own
        refine .array fun other member => ?_
        exact List.forall_mem_cons.mpr ⟨own, known⟩ other
          (List.mem_reverse.mp member)
      rw [readItems]
      simp only
      split
      · exact ended _
      · exact ended _
      · split
        · split
          · exact goesOn ‹_›
          · exact breaksOff ‹_›
        · split
          · split
            · exact ended _
            · exact ended _
            · split
              · exact goesOn ‹_›
              · exact breaksOff ‹_›
          · exact ended _

theorem keysRead_readEntryValue (chars : List Char) :
    KeysRead (readEntryValue readValue chars).1 := by
  unfold readEntryValue
  split
  · exact .unreached _
  · exact inside _
  · exact .unreached _

theorem keysRead_readEntry (chars : List Char) :
    (readEntry readValue chars).1.1.text =
        (readString (readEntry readValue chars).1.1.source).map Prod.fst ∧
      KeysRead (readEntry readValue chars).1.2 := by
  unfold readEntry
  split
  · rename_i cause failed
    simp only [failed]
    exact ⟨rfl, .unreached _⟩
  · rename_i key rest spelled
    simp only [spelled]
    exact ⟨rfl, keysRead_readEntryValue inside rest⟩

theorem keysRead_readEntries (fuel : Nat) :
    ∀ (read : List (DraftKey × Draft)) (chars : List Char),
      (∀ entry ∈ read,
        entry.1.text = (readString entry.1.source).map Prod.fst ∧
          KeysRead entry.2) →
      KeysRead (readEntries readValue fuel read chars).1 := by
  have closed (read : List (DraftKey × Draft)) (cut : Option SyntaxFault)
      (known : ∀ entry ∈ read,
        entry.1.text = (readString entry.1.source).map Prod.fst ∧
          KeysRead entry.2) :
      KeysRead (.object read.reverse cut) :=
    .object (fun entry member => (known entry (List.mem_reverse.mp member)).1)
      (fun entry member => (known entry (List.mem_reverse.mp member)).2)
  induction fuel with
  | zero =>
      intro read chars known
      rw [readEntries]
      exact closed read _ known
  | succ fuel ih =>
      intro read chars known
      have goesOn {chars rest : List Char} {entry : DraftKey × Draft}
          (shape : readEntry readValue chars = (entry, some rest)) :
          KeysRead (readEntries readValue fuel (entry :: read) rest).1 := by
        have own := keysRead_readEntry inside chars
        rw [shape] at own
        exact ih _ _ (List.forall_mem_cons.mpr ⟨own, known⟩)
      have breaksOff {chars : List Char} {entry : DraftKey × Draft}
          (shape : readEntry readValue chars = (entry, none)) :
          KeysRead (.object (entry :: read).reverse none) := by
        have own := keysRead_readEntry inside chars
        rw [shape] at own
        exact closed _ _ (List.forall_mem_cons.mpr ⟨own, known⟩)
      rw [readEntries]
      simp only
      split
      · exact closed read _ known
      · exact closed read _ known
      · split
        · split
          · split
            · exact goesOn ‹_›
            · exact breaksOff ‹_›
          · exact closed read _ known
        · split
          · split
            · exact closed read _ known
            · exact closed read _ known
            · split
              · exact goesOn ‹_›
              · exact breaksOff ‹_›
            · exact closed read _ known
          · exact closed read _ known

end

theorem keysRead_readWith {readArray readObject : List Char → Reading}
    (arrays : ∀ chars, KeysRead (readArray chars).1)
    (objects : ∀ chars, KeysRead (readObject chars).1) (chars : List Char) :
    KeysRead (readWith readArray readObject chars).1 := by
  unfold readWith
  split
  · exact .fault _
  · exact keysRead_readWord .null _ _
  · exact keysRead_readWord (.bool true) _ _
  · exact keysRead_readWord (.bool false) _ _
  · split
    · exact .string _
    · exact .fault _
  · exact arrays _
  · exact objects _
  · split
    · split
      · exact .number _
      · exact .fault _
    · exact .fault _

/-- The keys of a draft that is read of a text have the texts that are read. -/
theorem keysRead_readValue (depth : Nat) :
    ∀ chars : List Char, KeysRead (readValue depth chars).1 := by
  induction depth with
  | zero =>
      intro chars
      exact keysRead_readWith (fun _ => .fault _) (fun _ => .fault _) chars
  | succ depth ih =>
      intro chars
      exact
        keysRead_readWith
          (fun rest => keysRead_readItems ih (rest.length + 1) [] rest (by simp))
          (fun rest => keysRead_readEntries ih (rest.length + 1) [] rest (by simp))
          chars

/-! ## Keys without escapes -/

/-- The source of a key holds no backslash in front of its closing quote. -/
def Unescaped (key : DraftKey) : Prop :=
  '\\' ∉ key.source.takeWhile (· ≠ '\"')

instance (key : DraftKey) : Decidable (Unescaped key) :=
  inferInstanceAs (Decidable ('\\' ∉ key.source.takeWhile (· ≠ '\"')))

theorem chars_of_readChars (fuel : Nat) :
    ∀ {read chars rest : List Char} {text : String},
      readChars fuel read chars = .ok (text, rest) →
      '\\' ∉ chars.takeWhile (· ≠ '\"') →
      ∃ raw, chars = raw ++ '\"' :: rest ∧ '\"' ∉ raw ∧
        text = String.ofList (read.reverse ++ raw) := by
  induction fuel with
  | zero =>
      intro read chars rest text succeeded _
      cases succeeded
  | succ fuel ih =>
      intro read chars rest text succeeded plain
      unfold readChars at succeeded
      split at succeeded
      · cases succeeded
      · cases succeeded
        exact ⟨[], rfl, by simp, by simp⟩
      · simp at plain
      · rename_i char behind ordinary _
        split at succeeded
        · cases succeeded
        · rw [List.takeWhile_cons_of_pos (by simpa using ordinary),
            List.mem_cons, not_or] at plain
          rcases ih succeeded plain.2 with ⟨raw, rfl, quotes, rfl⟩
          refine ⟨char :: raw, rfl, ?_, by simp⟩
          rw [List.mem_cons, not_or]
          exact ⟨Ne.symm ordinary, quotes⟩

/-- A key without escapes stands in the text as it reads, up to its closing quote. -/
theorem source_of_unescaped {key : DraftKey} {name : String}
    (read : key.text = (readString key.source).map Prod.fst)
    (spelled : key.text = .ok name) (plain : Unescaped key) :
    ∃ rest, key.source = name.toList ++ '\"' :: rest ∧ '\"' ∉ name.toList := by
  rw [spelled] at read
  cases found : readString key.source with
  | error fault =>
      rw [found] at read
      cases read
  | ok result =>
      rcases result with ⟨text, rest⟩
      rw [found] at read
      cases read
      rcases chars_of_readChars _ found plain with ⟨raw, shape, quotes, rfl⟩
      rw [List.reverse_nil, List.nil_append, String.toList_ofList]
      exact ⟨rest, shape, quotes⟩

end Draft

end FontCompiler.Json
