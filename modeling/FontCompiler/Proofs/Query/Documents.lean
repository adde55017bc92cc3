import FontCompiler.Proofs.Json.Denotation
import FontCompiler.Proofs.Json.Parts
import FontCompiler.Proofs.Query.Numbers
import FontCompiler.Proofs.Query.Strings
import FontCompiler.Query.Run

/-!
# Documents read back

What a filter outputs is written as a text and read again.  This module follows
the reader along the text of a document: nested to the limit at most, the text
of integers, strings, arrays and objects is read as the document that it was
written for, and to its end.  Nested deeper, it is not read to any end at all,
whatever numbers it holds.
-/

namespace FontCompiler.Json

namespace Value

mutual

/-- How deep arrays and objects are nested in a value. -/
def depth : Value → Nat
  | .array items => depthOfItems items + 1
  | .object entries => depthOfEntries entries + 1
  | _ => 0

/-- How deep arrays and objects are nested in some item. -/
def depthOfItems : List Value → Nat
  | [] => 0
  | item :: items => max (depth item) (depthOfItems items)

/-- How deep arrays and objects are nested in some entry. -/
def depthOfEntries : List (String × Value) → Nat
  | [] => 0
  | (_, value) :: entries => max (depth value) (depthOfEntries entries)

end

mutual

/-- Every number is an integer of sixty-four bits with a sign, and every object has each of its
keys once. -/
def Portable : Value → Prop
  | .number (.int integer) => Query.fitsInteger integer = true
  | .number (.float _) => False
  | .array items => PortableItems items
  | .object entries => (Ordered.keys entries).Nodup ∧ PortableEntries entries
  | _ => True

/-- The items of an array are portable. -/
def PortableItems : List Value → Prop
  | [] => True
  | item :: items => Portable item ∧ PortableItems items

/-- The values of an object are portable. -/
def PortableEntries : List (String × Value) → Prop
  | [] => True
  | (_, value) :: entries => Portable value ∧ PortableEntries entries

end

theorem lt_depthOfItems_iff {limit : Nat} {items : List Value} :
    limit < depthOfItems items ↔ ∃ item ∈ items, limit < item.depth := by
  induction items with
  | nil => simp [depthOfItems]
  | cons item items ih => simp [depthOfItems, ih]

theorem lt_depthOfEntries_iff {limit : Nat} {entries : List (String × Value)} :
    limit < depthOfEntries entries ↔ ∃ entry ∈ entries, limit < entry.2.depth := by
  induction entries with
  | nil => simp [depthOfEntries]
  | cons entry entries ih => simp [depthOfEntries, ih]

theorem portableItems_iff {items : List Value} :
    PortableItems items ↔ ∀ item ∈ items, item.Portable := by
  induction items with
  | nil => simp [PortableItems]
  | cons item items ih => simp [PortableItems, ih]

theorem portableEntries_iff {entries : List (String × Value)} :
    PortableEntries entries ↔ ∀ entry ∈ entries, entry.2.Portable := by
  induction entries with
  | nil => simp [PortableEntries]
  | cons entry entries ih => simp [PortableEntries, ih]

end Value

end FontCompiler.Json

namespace FontCompiler.Query

open Json Json.Draft

open Json.NumberText (IsNumeric Ends)

/-- The text of a document as a value of the query language. -/
def written (value : Json.Value) : List Char :=
  (Value.ofJson value).chars

/-! ## Numbers -/

theorem chars_ofNumber (number : Number) :
    (Value.ofNumber number).chars = number.text.toList := by
  cases number with
  | int integer =>
      rw [Value.ofNumber]
      split <;> rw [Value.chars] <;> rfl
  | float number => rw [Value.ofNumber, Value.chars, Number.text]

theorem read_int {integer : Int} (fits : fitsInteger integer = true) {rest : List Char}
    (ends : Ends rest) :
    NumberText.read ((Number.int integer).text.toList ++ rest) =
      .ok (.int integer, rest) := by
  rw [fitsInteger, Bool.and_eq_true, decide_eq_true_iff, decide_eq_true_iff] at fits
  have lower : -0x8000000000000000 ≤ integer := fits.1
  have upper : integer ≤ 0x7FFFFFFFFFFFFFFF := fits.2
  have limit : NumberText.significandLimit = 0xFFFFFFFFFFFFFFFF := rfl
  exact NumberText.read_decimalInt lower (by omega) ends

theorem reads_number (number : Number) {rest : List Char} (ends : Ends rest)
    (readArray readObject : List Char → Reading) :
    Reads (Json.Value.Portable (.number number)) (·.Denotes (.number number)) False rest
      (readWith readArray readObject (number.text.toList ++ rest)) := by
  cases number with
  | int integer =>
      refine reads_numeric (allNumeric_decimalInt integer) ?_ ends fun fits => ?_
      · exact decimalInt_ne_nil integer
      · rw [Json.Value.Portable] at fits
        exact ⟨_, read_int fits ends, .number _⟩
  | float number =>
      rcases numericText_of_floatText number with word | ⟨numeric, nonempty⟩
      · rw [Number.text, word]
        exact .whole (by rw [Json.Value.Portable]; exact False.elim) id
      · exact reads_numeric numeric nonempty ends (by rw [Json.Value.Portable]; exact False.elim)

/-! ## Words and strings -/

/-- The text of a document is read back, in whatever depth it stands and whatever follows it. -/
def ReadsBack (value : Json.Value) : Prop :=
  ∀ (depth : Nat) (rest : List Char), Ends rest →
    Reads value.Portable (·.Denotes value) (depth < value.depth) rest
      (readValue depth (written value ++ rest))

theorem exists_readWith (depth : Nat) :
    ∃ readArray readObject, readValue depth = readWith readArray readObject := by
  cases depth with
  | zero => exact ⟨_, _, funext fun chars => by rw [readValue]⟩
  | succ depth => exact ⟨_, _, funext fun chars => by rw [readValue]⟩

/-- A text without arrays and objects is read at every depth alike. -/
theorem readsBack_of_readWith {value : Json.Value} (flat : value.depth = 0)
    (reads : ∀ rest, Ends rest → ∀ readArray readObject,
      Reads value.Portable (·.Denotes value) False rest
        (readWith readArray readObject (written value ++ rest))) :
    ReadsBack value := by
  intro depth rest ends
  rcases exists_readWith depth with ⟨readArray, readObject, same⟩
  rw [same]
  exact (reads rest ends readArray readObject).imp id (by rw [flat]; simp) fun _ _ => id

theorem readsBack_null : ReadsBack .null :=
  readsBack_of_readWith rfl fun _ _ _ _ => .whole (fun _ => .null) id

theorem readsBack_bool (truth : Bool) : ReadsBack (.bool truth) := by
  refine readsBack_of_readWith rfl fun rest _ readArray readObject => ?_
  cases truth with
  | true => exact .whole (fun _ => .bool true) id
  | false => exact .whole (fun _ => .bool false) id

theorem readsBack_number (number : Number) : ReadsBack (.number number) := by
  refine readsBack_of_readWith rfl fun rest ends readArray readObject => ?_
  rw [written, Value.ofJson, chars_ofNumber]
  exact reads_number number ends readArray readObject

theorem readsBack_string (text : String) : ReadsBack (.string text) := by
  refine readsBack_of_readWith rfl fun rest _ readArray readObject => ?_
  have found : readWith readArray readObject (written (.string text) ++ rest) =
      (.string text, some rest) := by
    rw [written, Value.ofJson, Value.chars, stringChars, List.cons_append, List.cons_append,
      List.append_assoc, List.singleton_append, readWith, skipBlanks_cons rfl]
    simp only [readString_stringChars]
  rw [found]
  exact .whole (fun _ => .string text) id

/-! ## Arrays -/

/-- A text opens a value: it is neither blank at first nor closed. -/
def Opens (chars : List Char) : Prop :=
  ∃ char others, chars = char :: others ∧ isBlank char = false ∧ char ≠ ']'

theorem opens_append {chars : List Char} (opens : Opens chars) (rest : List Char) :
    Opens (chars ++ rest) := by
  rcases opens with ⟨char, others, rfl, visible, free⟩
  exact ⟨char, others ++ rest, rfl, visible, free⟩

theorem opens_of_numeric {chars : List Char} (nonempty : chars ≠ [])
    (numeric : ∀ char ∈ chars, IsNumeric char) : Opens chars := by
  cases chars with
  | nil => exact absurd rfl nonempty
  | cons char chars =>
      have first := numeric char List.mem_cons_self
      exact
        ⟨char, chars, rfl, isBlank_of_isNumeric first,
          NumberText.ne_of_isNumeric first (by decide)⟩

theorem opens_written (value : Json.Value) : Opens (written value) := by
  cases value with
  | null => exact ⟨_, _, rfl, rfl, by decide⟩
  | bool truth => cases truth <;> exact ⟨_, _, rfl, rfl, by decide⟩
  | string text => exact ⟨_, _, rfl, rfl, by decide⟩
  | array items => exact ⟨_, _, rfl, rfl, by decide⟩
  | object entries => exact ⟨_, _, rfl, rfl, by decide⟩
  | number number =>
      rw [written, Value.ofJson, chars_ofNumber]
      cases number with
      | int integer =>
          exact opens_of_numeric (decimalInt_ne_nil integer) (allNumeric_decimalInt integer)
      | float number =>
          rcases numericText_of_floatText number with word | ⟨numeric, nonempty⟩
          · rw [Number.text, word]
            exact ⟨_, _, rfl, rfl, by decide⟩
          · exact opens_of_numeric nonempty numeric

theorem itemChars_ofJsonItems (items : List Json.Value) :
    Value.itemChars (Value.ofJsonItems items) = separated written items := by
  induction items with
  | nil => rfl
  | cons item items ih =>
      cases items with
      | nil => simp [Value.ofJsonItems, Value.itemChars, separated, followed, written]
      | cons next items =>
          rw [Value.ofJsonItems, Value.ofJsonItems, Value.itemChars, ← Value.ofJsonItems, ih]
          · rfl
          · exact List.cons_ne_nil _ _

theorem itemsDenote_of_forall₂ {drafts : List Draft} {items : List Json.Value}
    (denote : List.Forall₂ Denotes drafts items) : ItemsDenote drafts items := by
  induction denote with
  | nil => exact .nil
  | cons first _ ih => exact .cons first ih

section

variable {inside : List Char → Reading}

theorem readBehind_item (fuel : Nat) (read : List Draft) (reading : Reading) :
    readBehind (fun draft => readItems inside fuel (draft :: read))
        (fun draft => .array (draft :: read).reverse none) reading =
      match reading with
      | (item, some rest) => readItems inside fuel (item :: read) rest
      | (item, none) => (.array (item :: read).reverse none, none) := by
  rcases reading with ⟨item, _ | rest⟩ <;> rfl

theorem readItems_opens {chars : List Char} (opens : Opens chars) (fuel : Nat) :
    readItems inside (fuel + 1) [] chars =
      readBehind (fun draft => readItems inside fuel [draft]) (fun draft => .array [draft] none)
        (inside chars) := by
  rcases opens with ⟨char, others, rfl, visible, free⟩
  rw [readItems, skipBlanks_cons visible]
  split
  · rename_i shape
    cases shape
  · rename_i shape
    exact absurd (List.cons.inj shape).1 free
  · rename_i shape
    cases shape
    rw [List.isEmpty_nil, if_pos rfl]
    exact (readBehind_item fuel [] _).symm

theorem readItems_comma {chars : List Char} (opens : Opens chars) (fuel : Nat)
    {read : List Draft} (nonempty : read ≠ []) :
    readItems inside (fuel + 1) read (',' :: chars) =
      readBehind (fun draft => readItems inside fuel (draft :: read))
        (fun draft => .array (draft :: read).reverse none) (inside chars) := by
  rcases opens with ⟨char, others, rfl, visible, free⟩
  have other : read.isEmpty = false := by simpa using nonempty
  rw [readItems, skipBlanks_cons rfl]
  change (if read.isEmpty then _ else if ',' = ',' then _ else _) = _
  rw [other, if_neg (by decide), if_pos rfl, skipBlanks_cons visible]
  split
  · rename_i shape
    cases shape
  · rename_i shape
    exact absurd (List.cons.inj shape).1 free
  · exact (readBehind_item fuel read _).symm

theorem readItems_numeric {char : Char} (numeric : IsNumeric char) (fuel : Nat)
    {read : List Draft} (nonempty : read ≠ []) (rest : List Char) :
    (readItems inside fuel read (char :: rest)).2 = none := by
  have other : read.isEmpty = false := by simpa using nonempty
  have noComma := NumberText.ne_of_isNumeric numeric (show ¬ IsNumeric ',' by decide)
  cases fuel with
  | zero => rw [readItems]
  | succ fuel =>
      rw [readItems, skipBlanks_cons (isBlank_of_isNumeric numeric)]
      split
      · rfl
      · rename_i shape
        rw [(List.cons.inj shape).1] at numeric
        exact absurd numeric (by decide)
      · rename_i shape
        cases shape
        rw [other, if_neg (by decide), if_neg noComma]

theorem readsParts_readItems :
    ReadsParts (readItems inside) inside written (.array · none) ']' where
  foreign := by decide
  closed _ _ _ := rfl
  first fuel item rest := readItems_opens (opens_append (opens_written item) rest) fuel
  comma fuel _ item rest nonempty :=
    readItems_comma (opens_append (opens_written item) rest) fuel nonempty
  numeric fuel _ _ rest nonempty numeric := readItems_numeric numeric fuel nonempty rest

end

theorem readsBack_array {items : List Json.Value} (readsBack : ∀ item ∈ items, ReadsBack item) :
    ReadsBack (.array items) := by
  intro depth rest ends
  have shape : written (.array items) ++ rest =
      '[' :: (separated written items ++ ']' :: rest) := by
    rw [written, Value.ofJson, Value.chars, itemChars_ofJsonItems]
    simp
  rw [shape]
  cases depth with
  | zero => exact .broken fun _ => by rw [Json.Value.depth]; omega
  | succ depth =>
      have enough : items.length ≤ (separated written items ++ ']' :: rest).length := by
        have short := length_le_length_separated written items
        rw [List.length_append, List.length_cons]
        omega
      have reads := readsParts_readItems.reads_separated items rest
        (fun item member => readsBack item member depth) enough
      refine reads.imp ?_ ?_ ?_
      · rw [Json.Value.Portable]
        exact Json.Value.portableItems_iff.mp
      · rw [Json.Value.depth, Nat.succ_lt_succ_iff, Json.Value.lt_depthOfItems_iff]
      · rintro - result ⟨drafts, rfl, denote⟩
        exact .array (itemsDenote_of_forall₂ denote)

/-! ## Objects -/

/-- The text of an entry. -/
def writtenEntry (entry : String × Json.Value) : List Char :=
  stringChars entry.1 ++ ':' :: written entry.2

theorem entryChars_ofJsonEntries (entries : List (String × Json.Value)) :
    Value.entryChars (Value.ofJsonEntries entries) = separated writtenEntry entries := by
  induction entries with
  | nil => rfl
  | cons entry entries ih =>
      cases entries with
      | nil =>
          simp [Value.ofJsonEntries, Value.entryChars, separated, followed, writtenEntry, written]
      | cons next entries =>
          rw [Value.ofJsonEntries, Value.ofJsonEntries, Value.entryChars, ← Value.ofJsonEntries,
            ih]
          · simp [separated, followed, writtenEntry, written]
          · exact List.cons_ne_nil _ _

/-- An entry is read as its key and its value. -/
structure EntryDenotes (draft : DraftKey × Draft) (entry : String × Json.Value) : Prop where
  key : draft.1.text = .ok entry.1
  value : draft.2.Denotes entry.2

theorem entriesDenote_of_forall₂ {drafts : List (DraftKey × Draft)}
    {entries : List (String × Json.Value)}
    (denote : List.Forall₂ EntryDenotes drafts entries) : EntriesDenote drafts entries := by
  induction denote with
  | nil => exact .nil
  | cons first _ ih => exact .cons first.key first.value ih

section

variable {inside : List Char → Reading}

/-- Reads an entry, from the opening quote of its key on. -/
def readQuoted (inside : List Char → Reading) (chars : List Char) :
    (DraftKey × Draft) × Option (List Char) :=
  readEntry inside chars.tail

theorem readBehind_entry (fuel : Nat) (read : List (DraftKey × Draft))
    (reading : (DraftKey × Draft) × Option (List Char)) :
    readBehind (fun draft => readEntries inside fuel (draft :: read))
        (fun draft => .object (draft :: read).reverse none) reading =
      match reading with
      | (entry, some rest) => readEntries inside fuel (entry :: read) rest
      | (entry, none) => (.object (entry :: read).reverse none, none) := by
  rcases reading with ⟨entry, _ | rest⟩ <;> rfl

theorem readEntries_quote (chars : List Char) (fuel : Nat) :
    readEntries inside (fuel + 1) [] ('\"' :: chars) =
      readBehind (fun draft => readEntries inside fuel [draft])
        (fun draft => .object [draft] none) (readEntry inside chars) :=
  (readBehind_entry fuel [] _).symm

theorem readEntries_comma (chars : List Char) (fuel : Nat) {read : List (DraftKey × Draft)}
    (nonempty : read ≠ []) :
    readEntries inside (fuel + 1) read (',' :: '\"' :: chars) =
      readBehind (fun draft => readEntries inside fuel (draft :: read))
        (fun draft => .object (draft :: read).reverse none) (readEntry inside chars) := by
  have other : read.isEmpty = false := by simpa using nonempty
  rw [readEntries, skipBlanks_cons rfl]
  change (if read.isEmpty then _ else if ',' = ',' then _ else _) = _
  rw [other, if_neg (by decide), if_pos rfl]
  exact (readBehind_entry fuel read _).symm

theorem readEntries_numeric {char : Char} (numeric : IsNumeric char) (fuel : Nat)
    {read : List (DraftKey × Draft)} (nonempty : read ≠ []) (rest : List Char) :
    (readEntries inside fuel read (char :: rest)).2 = none := by
  have other : read.isEmpty = false := by simpa using nonempty
  have noComma := NumberText.ne_of_isNumeric numeric (show ¬ IsNumeric ',' by decide)
  cases fuel with
  | zero => rw [readEntries]
  | succ fuel =>
      rw [readEntries, skipBlanks_cons (isBlank_of_isNumeric numeric)]
      split
      · rfl
      · rename_i shape
        rw [(List.cons.inj shape).1] at numeric
        exact absurd numeric (by decide)
      · rename_i shape
        cases shape
        rw [other, if_neg (by decide), if_neg noComma]

theorem readsParts_readEntries :
    ReadsParts (readEntries inside) (readQuoted inside) writtenEntry (.object · none) '\x7d' where
  foreign := by decide
  closed _ _ _ := rfl
  first fuel _ _ := readEntries_quote _ fuel
  comma fuel _ _ _ nonempty := readEntries_comma _ fuel nonempty
  numeric fuel _ _ rest nonempty numeric := readEntries_numeric numeric fuel nonempty rest

theorem reads_readQuoted {depth : Nat} {entry : String × Json.Value} {rest : List Char}
    (reads : Reads entry.2.Portable (·.Denotes entry.2) (depth < entry.2.depth) rest
      (inside (written entry.2 ++ rest))) :
    Reads entry.2.Portable (EntryDenotes · entry) (depth < entry.2.depth) rest
      (readQuoted inside (writtenEntry entry ++ rest)) := by
  have key :
      readString (writtenEntry entry ++ rest).tail =
        .ok (entry.1, ':' :: (written entry.2 ++ rest)) := by
    rw [← readString_stringChars entry.1, writtenEntry, stringChars]
    simp
  rw [readQuoted, readEntry, key]
  exact reads.map fun draft denotes => ⟨rfl, denotes⟩

end

theorem readsBack_object {entries : List (String × Json.Value)}
    (readsBack : ∀ entry ∈ entries, ReadsBack entry.2) : ReadsBack (.object entries) := by
  intro depth rest ends
  have shape : written (.object entries) ++ rest =
      '\x7b' :: (separated writtenEntry entries ++ '\x7d' :: rest) := by
    rw [written, Value.ofJson, Value.chars, entryChars_ofJsonEntries]
    simp
  rw [shape]
  cases depth with
  | zero => exact .broken fun _ => by rw [Json.Value.depth]; omega
  | succ depth =>
      have enough :
          entries.length ≤ (separated writtenEntry entries ++ '\x7d' :: rest).length := by
        have short := length_le_length_separated writtenEntry entries
        rw [List.length_append, List.length_cons]
        omega
      have reads := readsParts_readEntries.reads_separated entries rest
        (fun entry member rest ends => reads_readQuoted (readsBack entry member depth rest ends))
        enough
      refine reads.imp ?_ ?_ ?_
      · rw [Json.Value.Portable]
        exact fun portable => Json.Value.portableEntries_iff.mp portable.2
      · rw [Json.Value.depth, Nat.succ_lt_succ_iff, Json.Value.lt_depthOfEntries_iff]
      · rintro portable result ⟨drafts, rfl, denote⟩
        rw [Json.Value.Portable] at portable
        exact .object (entriesDenote_of_forall₂ denote) portable.1

/-! ## Documents -/

mutual

/-- The text of every document is read back. -/
theorem readsBack : ∀ value : Json.Value, ReadsBack value
  | .null => readsBack_null
  | .bool truth => readsBack_bool truth
  | .number numeral => readsBack_number numeral
  | .string text => readsBack_string text
  | .array items => readsBack_array (readsBack_items items)
  | .object entries => readsBack_object (readsBack_entries entries)

theorem readsBack_items : ∀ items : List Json.Value, ∀ item ∈ items, ReadsBack item
  | [] => nofun
  | item :: items =>
      List.forall_mem_cons.mpr ⟨readsBack item, readsBack_items items⟩

theorem readsBack_entries :
    ∀ entries : List (String × Json.Value), ∀ entry ∈ entries, ReadsBack entry.2
  | [] => nofun
  | (_, value) :: entries =>
      List.forall_mem_cons.mpr ⟨readsBack value, readsBack_entries entries⟩

end

/-- A portable document, nested to the limit at most, is read back from its text. -/
theorem ofText_text {value : Json.Value} (portable : value.Portable)
    (shallow : value.depth ≤ Draft.depthLimit) :
    Json.Value.ofText (Value.ofJson value).text = .ok value := by
  have reads := readsBack value Draft.depthLimit [] NumberText.ends_nil
  rw [List.append_nil] at reads
  rw [Json.Value.ofText, Draft.read, Value.text, String.toList_ofList, ← written]
  generalize readValue Draft.depthLimit (written value) = reading at reads ⊢
  cases reads with
  | whole known _ =>
      simp only [(known portable).complete []]
      rfl
  | partly unclear _ _ => exact absurd portable unclear
  | broken reason => exact absurd (reason portable) (Nat.not_lt_of_le shallow)

/-- A document that is nested deeper than to the limit is not read back from its text. -/
theorem exists_fault_of_ofText_text {value : Json.Value} (deep : Draft.depthLimit < value.depth) :
    ∃ fault, Json.Value.ofText (Value.ofJson value).text = .error fault := by
  have reads := readsBack value Draft.depthLimit [] NumberText.ends_nil
  rw [List.append_nil] at reads
  rw [Json.Value.ofText, Draft.read, Value.text, String.toList_ofList, ← written]
  generalize readValue Draft.depthLimit (written value) = reading at reads ⊢
  cases reads with
  | whole _ shallow => exact absurd deep shallow
  | partly _ shallow _ => exact absurd deep shallow
  | @broken draft reason =>
      dsimp only
      cases draft.complete [] with
      | error fault => exact ⟨_, rfl⟩
      | ok found => exact ⟨_, rfl⟩

/-! ## Runs -/

theorem ofSource?_identity : Term.ofSource? "." = some .identity := by
  cbv

theorem run_evaluator_identity (environment : Environment) (input : Value) :
    evaluator.run .identity environment input = .one (.ok input) := by
  have shape : evaluator = .ofDepth (depthLimit - 1 + 1) := rfl
  rw [shape, Evaluator.ofDepth]
  rfl

/-- The identity writes its input and reads it again. -/
theorem run_identity (input : Json.Value) :
    run "." input = (document "." (.ofJson input)).map fun output => [output] := by
  have defined : Scope.top.undefined .identity = [] := rfl
  rw [run, ofSource?_identity]
  simp only [defined, run_evaluator_identity, documentsFrom]
  cases document "." (.ofJson input) <;> rfl

/-- The identity hands over a document of integers, strings, arrays and objects unchanged if it
is nested to the limit at most, and no document at all if it is nested deeper. -/
theorem identity_hands_over (value : Json.Value) :
    (value.Portable → value.depth ≤ 127 →
      run "." value = .ok [value] ∧
        Json.Value.ofText (Value.ofJson value).text = .ok value) ∧
      (127 < value.depth →
        ∃ fault, run "." value = .error (.unreadable "." fault)) := by
  constructor
  · intro portable shallow
    have found := ofText_text portable shallow
    rw [run_identity, document, found]
    exact ⟨rfl, rfl⟩
  · intro deep
    rcases exists_fault_of_ofText_text deep with ⟨fault, found⟩
    rw [run_identity, document, found]
    exact ⟨fault, rfl⟩

/-- A document whose strings and keys need every kind of escape. -/
def escapedDocument : Json.Value :=
  .object
    [("", .string "\"\\\n\r\t"),
      (String.ofList [Char.ofNat 0, Char.ofNat 8, Char.ofNat 12, Char.ofNat 0x1F600],
        .array [.number (.int (-0x8000000000000000)), .object [], .bool true]),
      ("a", .null)]

/-- Arrays inside each other. -/
def nestedArrays : Nat → Json.Value
  | 0 => .null
  | depth + 1 => .array [nestedArrays depth]

theorem depth_nestedArrays (depth : Nat) : (nestedArrays depth).depth = depth := by
  induction depth with
  | zero => rfl
  | succ depth ih =>
      rw [nestedArrays, Json.Value.depth, Json.Value.depthOfItems, Json.Value.depthOfItems, ih,
        Nat.max_zero]

theorem portable_escapedDocument : escapedDocument.Portable := by
  have fits : fitsInteger (-0x8000000000000000) = true := by decide
  refine ⟨?_, trivial, ⟨fits, ⟨List.nodup_nil, trivial⟩, trivial, trivial⟩, trivial, trivial⟩
  decide

theorem identity_hands_over_escapedDocument :
    run "." escapedDocument = .ok [escapedDocument] ∧
      ∃ fault, run "." (nestedArrays 128) = .error (.unreadable "." fault) := by
  have deep : 127 < (nestedArrays 128).depth := by
    rw [depth_nestedArrays]
    decide
  exact
    ⟨((identity_hands_over escapedDocument).1 portable_escapedDocument (by decide)).1,
      (identity_hands_over (nestedArrays 128)).2 deep⟩

end FontCompiler.Query
