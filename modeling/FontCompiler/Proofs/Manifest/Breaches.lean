import FontCompiler.Manifest.Lowering
import FontCompiler.Proofs.Ordered

/-!
# Breaches of the notation

An object with the key of streams has to keep to the notation of streams.  It
does so wherever it stands as a node: as an item of an array, or under a key of
a dictionary.  The root of a graph and the dictionary of a stream may have any
keys, and a payload is no part of the graph.

`entryBreaches` lists all breaches of a graph in document order, each with the
pointer that leads to the culprit.  The dictionary of a stream comes before its
payload, and the payload before keys that do not belong to the notation.  The
list holds exactly what `Breaks` calls a breach, so a graph without breaches is
one whose streams all have their form.
-/

namespace FontCompiler.Manifest

open Json

/-! ## Nodes of a graph -/

mutual

/-- A pointer leads from a node to a value that stands as a node at or below it. -/
inductive NodeAt : Value → Pointer → Value → Prop
  | self (value : Value) : NodeAt value [] value
  | item {items : List Value} {index : Nat} {item value : Value} {pointer : Pointer}
      (listed : items[index]? = some item) (below : NodeAt item pointer value) :
      NodeAt (.array items) (Numeric.decimalDigits index :: pointer) value
  | entry {entries : List (String × Value)} {pointer : Pointer} {value : Value}
      (plain : streamKey ∉ Ordered.keys entries) (below : EntryAt entries pointer value) :
      NodeAt (.object entries) pointer value
  | stream {entries dictionary : List (String × Value)} {pointer : Pointer} {value : Value}
      (held : Ordered.get? streamKey entries = some (.object dictionary))
      (below : EntryAt dictionary pointer value) :
      NodeAt (.object entries) (streamKey :: pointer) value

/-- A pointer leads from a dictionary to a value that stands as a node below it. -/
inductive EntryAt : List (String × Value) → Pointer → Value → Prop
  | under {entries : List (String × Value)} {key : String} {child value : Value}
      {pointer : Pointer} (member : (key, child) ∈ entries)
      (below : NodeAt child pointer value) : EntryAt entries (key :: pointer) value

end

/-! ## The form of a stream -/

/-- What is read of the file at a path. -/
abbrev Contents := String → Except Files.Failure (List UInt8)

/-- An integer from 0 to 255. -/
def IsByte (value : Value) : Prop :=
  ∃ number : Int, value = .number (.int number) ∧ 0 ≤ number ∧ number < 256

/-- The keys that belong to the notation of a stream. -/
def streamKeys : List String := [streamKey, dataKey, fileKey]

/-- The object of a stream has the right keys, and under them what can stand there. -/
structure OwnForm (entries : List (String × Value)) : Prop where
  dictionary : ∃ dictionary, Ordered.get? streamKey entries = some (.object dictionary)
  exclusive : dataKey ∈ Ordered.keys entries → fileKey ∉ Ordered.keys entries
  path : ∀ file, Ordered.get? fileKey entries = some file → ∃ name, file = .string name
  known : ∀ key ∈ Ordered.keys entries, key ∈ streamKeys

/-- An object has the form of a stream, and its payload can be had. -/
structure StreamForm (contents : Contents) (base : String) (entries : List (String × Value)) :
    Prop extends OwnForm entries where
  bytes : ∀ data, Ordered.get? dataKey entries = some data →
    ∃ items, data = .array items ∧ ∀ item ∈ items, IsByte item
  readable : ∀ name, Ordered.get? fileKey entries = some (.string name) →
    ∃ bytes, contents (Files.join base name) = .ok bytes

/-- Every stream that stands as a node in a graph has its form. -/
def StreamsFormed (contents : Contents) (base : String) (graph : List (String × Value)) : Prop :=
  ∀ place entries, EntryAt graph place (.object entries) →
    streamKey ∈ Ordered.keys entries → StreamForm contents base entries

/-! ## Breaches -/

/-- What is breached: the form of a stream's object, that of a payload, that of a byte in it, or
the promise that a file can be read. -/
inductive Breached
  | form
  | payload
  | byte
  | file
  deriving DecidableEq, Repr

/-- What is breached, the value that does it, and the pointer that leads to this value. -/
structure Breach where
  pointer : Pointer
  culprit : Value
  breached : Breached

namespace Breach

/-- A breach as it is seen from further above. -/
def under (front : Pointer) (breach : Breach) : Breach :=
  { breach with pointer := front ++ breach.pointer }

theorem under_under (front between : Pointer) (breach : Breach) :
    (breach.under between).under front = breach.under (front ++ between) := by
  rw [under, under, under, List.append_assoc]

theorem under_cons (step : String) (front : Pointer) (breach : Breach) :
    breach.under (step :: front) = (breach.under front).under [step] := rfl

/-- The object of a stream breaches its form. -/
def ofForm (entries : List (String × Value)) : Breach :=
  ⟨[], .object entries, .form⟩

end Breach

/-- The object of a stream, or something in it that is no part of its dictionary, breaches the
notation. -/
inductive Violates (contents : Contents) (base : String) (entries : List (String × Value)) :
    Breach → Prop
  | form (broken : ¬ OwnForm entries) : Violates contents base entries (.ofForm entries)
  | payload {data : Value} (held : Ordered.get? dataKey entries = some data)
      (noArray : ∀ items, data ≠ .array items) :
      Violates contents base entries ⟨[dataKey], data, .payload⟩
  | byte {items : List Value} {index : Nat} {item : Value}
      (held : Ordered.get? dataKey entries = some (.array items))
      (listed : items[index]? = some item) (noByte : ¬ IsByte item) :
      Violates contents base entries ⟨[dataKey, Numeric.decimalDigits index], item, .byte⟩
  | file {name : String} {failure : Files.Failure}
      (held : Ordered.get? fileKey entries = some (.string name))
      (unreadable : contents (Files.join base name) = .error failure) :
      Violates contents base entries ⟨[fileKey], .string name, .file⟩

/-- A breach in a node: one of a stream that stands as a node at or below it. -/
def NodeBreaks (contents : Contents) (base : String) (value : Value) (breach : Breach) : Prop :=
  ∃ place entries own, NodeAt value place (.object entries) ∧
    streamKey ∈ Ordered.keys entries ∧ Violates contents base entries own ∧
    breach = own.under place

/-- A breach in a graph: one of a stream that stands as a node in it. -/
def Breaks (contents : Contents) (base : String) (graph : List (String × Value))
    (breach : Breach) : Prop :=
  ∃ place entries own, EntryAt graph place (.object entries) ∧
    streamKey ∈ Ordered.keys entries ∧ Violates contents base entries own ∧
    breach = own.under place

/-! ## Breaches in document order -/

section

variable (contents : Contents) (base : String)

/-- The breach of an object whose dictionary is none. -/
def dictionaryBreaches (whole : List (String × Value)) : Option Value → List Breach
  | some (.object _) => []
  | _ => [.ofForm whole]

/-- The breach of an object with a payload in bytes and one in a file. -/
def doubleBreaches (entries : List (String × Value)) : List Breach :=
  if Ordered.contains dataKey entries && Ordered.contains fileKey entries then
    [.ofForm entries]
  else []

/-- The breach of an item of a payload that is no byte. -/
def byteBreach? (placed : Value × Nat) : Option Breach :=
  match byte? placed.1 with
  | some _ => none
  | none => some ⟨[dataKey, Numeric.decimalDigits placed.2], placed.1, .byte⟩

/-- The breaches of the items of a payload, from an index on. -/
def byteBreaches (index : Nat) (items : List Value) : List Breach :=
  (items.zipIdx index).filterMap byteBreach?

/-- The breaches of a payload in bytes. -/
def dataBreaches : Option Value → List Breach
  | none => []
  | some (.array items) => byteBreaches 0 items
  | some data => [⟨[dataKey], data, .payload⟩]

/-- The breaches of a payload in a file. -/
def fileBreaches (whole : List (String × Value)) : Option Value → List Breach
  | none => []
  | some (.string name) =>
    match contents (Files.join base name) with
    | .ok _ => []
    | .error _ => [⟨[fileKey], .string name, .file⟩]
  | some _ => [.ofForm whole]

/-- The breach of an object with keys that do not belong to the notation. -/
def foreignBreaches (entries : List (String × Value)) : List Breach :=
  if (Ordered.keys entries).all fun key => streamKeys.contains key then [] else [.ofForm entries]

/-- The breaches of a payload, in either form. -/
def payloadBreaches (entries : List (String × Value)) : List Breach :=
  doubleBreaches entries ++ dataBreaches (Ordered.get? dataKey entries) ++
    fileBreaches contents base entries (Ordered.get? fileKey entries)

/-- The breaches of a stream that are not below its dictionary. -/
def ownBreaches (entries : List (String × Value)) : List Breach :=
  dictionaryBreaches entries (Ordered.get? streamKey entries) ++
    payloadBreaches contents base entries ++ foreignBreaches entries

mutual

/-- The breaches in a node. -/
def nodeBreaches : Value → List Breach
  | .array items => itemBreaches 0 items
  | .object entries =>
    if Ordered.contains streamKey entries then
      streamBreaches entries ++ ownBreaches contents base entries
    else entryBreaches entries
  | _ => []

/-- The breaches in the items of an array, from an index on. -/
def itemBreaches : (index : Nat) → List Value → List Breach
  | _, [] => []
  | index, item :: items =>
    (nodeBreaches item).map (.under [Numeric.decimalDigits index]) ++
      itemBreaches (index + 1) items

/-- The breaches in the entries of a dictionary. -/
def entryBreaches : List (String × Value) → List Breach
  | [] => []
  | (key, value) :: entries => (nodeBreaches value).map (.under [key]) ++ entryBreaches entries

/-- The breaches below the dictionary of a stream, among the entries of its object. -/
def streamBreaches : List (String × Value) → List Breach
  | [] => []
  | (key, .object dictionary) :: entries =>
    if key = streamKey then (entryBreaches dictionary).map (.under [streamKey])
    else streamBreaches entries
  | (key, _) :: entries => if key = streamKey then [] else streamBreaches entries

end

end

/-! ## What the list holds -/

theorem byte?_eq_none_iff {value : Value} : byte? value = none ↔ ¬ IsByte value := by
  unfold byte?
  split
  · rename_i number
    split
    · rename_i within
      exact iff_of_false nofun (not_not_intro ⟨number, rfl, within⟩)
    · rename_i beyond
      refine iff_of_true rfl ?_
      rintro ⟨other, same, within⟩
      cases same
      exact beyond within
  · rename_i noNumber
    refine iff_of_true rfl ?_
    rintro ⟨number, same, -⟩
    exact noNumber number same

theorem mem_byteBreaches_iff {breach : Breach} {items : List Value} :
    breach ∈ byteBreaches 0 items ↔
      ∃ index item, items[index]? = some item ∧ ¬ IsByte item ∧
        breach = ⟨[dataKey, Numeric.decimalDigits index], item, .byte⟩ := by
  have own (item : Value) (index : Nat) :
      byteBreach? (item, index) = some breach ↔
        ¬ IsByte item ∧ breach = ⟨[dataKey, Numeric.decimalDigits index], item, .byte⟩ := by
    rw [byteBreach?, ← byte?_eq_none_iff]
    cases byte? item with
    | some byte => exact iff_of_false nofun fun both => Option.some_ne_none byte both.1
    | none => simp [eq_comm]
  rw [byteBreaches, List.mem_filterMap]
  constructor
  · rintro ⟨⟨item, index⟩, member, found⟩
    exact ⟨index, item, List.mk_mem_zipIdx_iff_getElem?.mp member, (own item index).mp found⟩
  · rintro ⟨index, item, listed, found⟩
    exact ⟨(item, index), List.mk_mem_zipIdx_iff_getElem?.mpr listed, (own item index).mpr found⟩

theorem mem_dictionaryBreaches_iff {breach : Breach} {whole : List (String × Value)}
    {stream : Option Value} :
    breach ∈ dictionaryBreaches whole stream ↔
      (¬ ∃ dictionary, stream = some (.object dictionary)) ∧ breach = .ofForm whole := by
  unfold dictionaryBreaches
  split
  · exact iff_of_false List.not_mem_nil fun both => both.1 ⟨_, rfl⟩
  · rename_i noObject
    rw [List.mem_singleton, and_iff_right]
    rintro ⟨dictionary, same⟩
    exact noObject dictionary same

theorem mem_doubleBreaches_iff {breach : Breach} {entries : List (String × Value)} :
    breach ∈ doubleBreaches entries ↔
      (dataKey ∈ Ordered.keys entries ∧ fileKey ∈ Ordered.keys entries) ∧
        breach = .ofForm entries := by
  rw [doubleBreaches]
  split
  · rename_i both
    rw [Bool.and_eq_true, Ordered.contains_iff, Ordered.contains_iff] at both
    rw [List.mem_singleton, and_iff_right both]
  · rename_i single
    rw [Bool.and_eq_true, Ordered.contains_iff, Ordered.contains_iff] at single
    exact iff_of_false List.not_mem_nil fun both => single both.1

theorem dataBreaches_of_noArray {data : Value} (noArray : ∀ items, data ≠ .array items) :
    dataBreaches (some data) = [⟨[dataKey], data, .payload⟩] := by
  cases data with
  | array items => exact absurd rfl (noArray items)
  | _ => rfl

theorem mem_dataBreaches_iff {breach : Breach} {data : Option Value} :
    breach ∈ dataBreaches data ↔
      (∃ other, data = some other ∧ (∀ items, other ≠ .array items) ∧
          breach = ⟨[dataKey], other, .payload⟩) ∨
        ∃ items index item, data = some (.array items) ∧ items[index]? = some item ∧
          ¬ IsByte item ∧ breach = ⟨[dataKey, Numeric.decimalDigits index], item, .byte⟩ := by
  unfold dataBreaches
  split
  · simp
  · simp [mem_byteBreaches_iff]
  · rename_i other noArray
    rw [List.mem_singleton]
    constructor
    · exact fun same => .inl ⟨other, rfl, noArray, same⟩
    · rintro (⟨_, same, -, rfl⟩ | ⟨items, index, item, same, -⟩)
      · cases same
        rfl
      · cases same
        exact (noArray items rfl).elim

theorem fileBreaches_of_noText {contents : Contents} {base : String}
    {whole : List (String × Value)} {file : Value} (noText : ∀ name, file ≠ .string name) :
    fileBreaches contents base whole (some file) = [.ofForm whole] := by
  cases file with
  | string name => exact absurd rfl (noText name)
  | _ => rfl

theorem mem_fileBreaches_iff {contents : Contents} {base : String} {breach : Breach}
    {whole : List (String × Value)} {file : Option Value} :
    breach ∈ fileBreaches contents base whole file ↔
      (∃ name failure, file = some (.string name) ∧
          contents (Files.join base name) = .error failure ∧
          breach = ⟨[fileKey], .string name, .file⟩) ∨
        ∃ other, file = some other ∧ (∀ name, other ≠ .string name) ∧
          breach = .ofForm whole := by
  unfold fileBreaches
  split
  · simp
  · rename_i name
    cases found : contents (Files.join base name) with
    | ok bytes => simp [found]
    | error failure => simp [found]
  · rename_i other noText
    rw [List.mem_singleton]
    constructor
    · exact fun same => .inr ⟨other, rfl, noText, same⟩
    · rintro (⟨name, failure, same, -⟩ | ⟨_, same, -, rfl⟩)
      · cases same
        exact (noText name rfl).elim
      · cases same
        rfl

theorem mem_foreignBreaches_iff {breach : Breach} {entries : List (String × Value)} :
    breach ∈ foreignBreaches entries ↔
      (¬ ∀ key ∈ Ordered.keys entries, key ∈ streamKeys) ∧ breach = .ofForm entries := by
  have known_iff :
      ((Ordered.keys entries).all fun key => streamKeys.contains key) = true ↔
        ∀ key ∈ Ordered.keys entries, key ∈ streamKeys := by
    simp
  rw [foreignBreaches]
  split
  · rename_i known
    exact iff_of_false List.not_mem_nil fun both => both.1 (known_iff.mp known)
  · rename_i foreign
    rw [List.mem_singleton, and_iff_right (foreign ∘ known_iff.mpr)]

theorem not_ownForm_iff {entries : List (String × Value)} :
    ¬ OwnForm entries ↔
      (¬ ∃ dictionary, Ordered.get? streamKey entries = some (.object dictionary)) ∨
        (dataKey ∈ Ordered.keys entries ∧ fileKey ∈ Ordered.keys entries) ∨
          (∃ other, Ordered.get? fileKey entries = some other ∧ ∀ name, other ≠ .string name) ∨
            ¬ ∀ key ∈ Ordered.keys entries, key ∈ streamKeys := by
  constructor
  · intro broken
    by_contra none
    simp only [not_or, not_not] at none
    rcases none with ⟨dictionary, single, path, known⟩
    refine broken ⟨dictionary, fun data file => single ⟨data, file⟩, ?_, known⟩
    intro file held
    by_contra noText
    exact path ⟨file, held, fun name same => noText ⟨name, same⟩⟩
  · rintro (noObject | ⟨data, file⟩ | ⟨other, held, noText⟩ | foreign) form
    · exact noObject form.dictionary
    · exact form.exclusive data file
    · rcases form.path other held with ⟨name, same⟩
      exact noText name same
    · exact foreign form.known

variable {contents : Contents} {base : String}

theorem mem_ownBreaches_iff {breach : Breach} {entries : List (String × Value)} :
    breach ∈ ownBreaches contents base entries ↔ Violates contents base entries breach := by
  rw [ownBreaches, payloadBreaches, List.mem_append, List.mem_append, List.mem_append,
    List.mem_append, mem_dictionaryBreaches_iff, mem_doubleBreaches_iff, mem_dataBreaches_iff,
    mem_fileBreaches_iff, mem_foreignBreaches_iff]
  constructor
  · rintro ((⟨noObject, rfl⟩ | ((⟨both, rfl⟩ | ⟨data, held, noArray, rfl⟩ |
      ⟨items, index, item, held, listed, noByte, rfl⟩) | ⟨name, failure, held, failed, rfl⟩ |
      ⟨other, held, noText, rfl⟩)) | ⟨foreign, rfl⟩)
    · exact .form (not_ownForm_iff.mpr (.inl noObject))
    · exact .form (not_ownForm_iff.mpr (.inr (.inl both)))
    · exact .payload held noArray
    · exact .byte held listed noByte
    · exact .file held failed
    · exact .form (not_ownForm_iff.mpr (.inr (.inr (.inl ⟨other, held, noText⟩))))
    · exact .form (not_ownForm_iff.mpr (.inr (.inr (.inr foreign))))
  · intro violates
    cases violates with
    | form broken =>
        rcases not_ownForm_iff.mp broken with noObject | both | ⟨other, held, noText⟩ | foreign
        · exact .inl (.inl ⟨noObject, rfl⟩)
        · exact .inl (.inr (.inl (.inl ⟨both, rfl⟩)))
        · exact .inl (.inr (.inr (.inr ⟨other, held, noText, rfl⟩)))
        · exact .inr ⟨foreign, rfl⟩
    | payload held noArray =>
        exact .inl (.inr (.inl (.inr (.inl ⟨_, held, noArray, rfl⟩))))
    | byte held listed noByte =>
        exact .inl (.inr (.inl (.inr (.inr ⟨_, _, _, held, listed, noByte, rfl⟩))))
    | file held failed => exact .inl (.inr (.inr (.inl ⟨_, _, held, failed, rfl⟩)))

/-- A stream has its form if and only if nothing of its own breaches it. -/
theorem streamForm_iff {entries : List (String × Value)} :
    StreamForm contents base entries ↔ ∀ breach, ¬ Violates contents base entries breach := by
  constructor
  · rintro form breach violates
    cases violates with
    | form broken => exact broken form.toOwnForm
    | payload held noArray =>
        rcases form.bytes _ held with ⟨items, same, -⟩
        exact noArray items same
    | byte held listed noByte =>
        rcases form.bytes _ held with ⟨items, same, bytes⟩
        cases same
        exact noByte (bytes _ (List.mem_of_getElem? listed))
    | file held failed =>
        rcases form.readable _ held with ⟨bytes, found⟩
        rw [failed] at found
        cases found
  · intro clean
    have own : OwnForm entries := by
      by_contra broken
      exact clean _ (.form broken)
    refine { own with bytes := ?_, readable := ?_ }
    · intro data held
      by_contra wrong
      refine clean _ (.payload held fun items same => wrong ⟨items, same, ?_⟩)
      intro item member
      rcases List.getElem?_of_mem member with ⟨index, listed⟩
      by_contra noByte
      rw [same] at held
      exact clean _ (.byte held listed noByte)
    · intro name held
      cases found : contents (Files.join base name) with
      | ok bytes => exact ⟨bytes, rfl⟩
      | error failure => exact absurd (.file held found) (clean _)

/-! ## Breaches of the whole graph -/

theorem NodeBreaks.under_item {items : List Value} {index : Nat} {item : Value} {inner : Breach}
    (listed : items[index]? = some item) (breaks : NodeBreaks contents base item inner) :
    NodeBreaks contents base (.array items) (inner.under [Numeric.decimalDigits index]) := by
  rcases breaks with ⟨place, entries, own, below, stream, violates, rfl⟩
  exact ⟨_, entries, own, .item listed below, stream, violates, Breach.under_under _ _ _⟩

theorem Breaks.of_entry {graph : List (String × Value)} {key : String} {child : Value}
    {inner : Breach} (member : (key, child) ∈ graph)
    (breaks : NodeBreaks contents base child inner) :
    Breaks contents base graph (inner.under [key]) := by
  rcases breaks with ⟨place, entries, own, below, stream, violates, rfl⟩
  exact ⟨_, entries, own, .under member below, stream, violates, Breach.under_under _ _ _⟩

theorem breaks_iff {graph : List (String × Value)} {breach : Breach} :
    Breaks contents base graph breach ↔
      ∃ key child inner, (key, child) ∈ graph ∧ NodeBreaks contents base child inner ∧
        breach = inner.under [key] := by
  constructor
  · rintro ⟨_, entries, own, ⟨member, below⟩, stream, violates, rfl⟩
    exact
      ⟨_, _, _, member, ⟨_, entries, own, below, stream, violates, rfl⟩,
        Breach.under_cons _ _ _⟩
  · rintro ⟨key, child, inner, member, breaks, rfl⟩
    exact .of_entry member breaks

theorem nodeBreaks_array_iff {items : List Value} {breach : Breach} :
    NodeBreaks contents base (.array items) breach ↔
      ∃ index item inner, items[index]? = some item ∧ NodeBreaks contents base item inner ∧
        breach = inner.under [Numeric.decimalDigits index] := by
  constructor
  · rintro ⟨_, entries, own, at', stream, violates, rfl⟩
    cases at' with
    | item listed below =>
        exact
          ⟨_, _, _, listed, ⟨_, entries, own, below, stream, violates, rfl⟩,
            Breach.under_cons _ _ _⟩
  · rintro ⟨index, item, inner, listed, breaks, rfl⟩
    exact .under_item listed breaks

theorem nodeBreaks_dictionary_iff {entries : List (String × Value)} {breach : Breach}
    (plain : streamKey ∉ Ordered.keys entries) :
    NodeBreaks contents base (.object entries) breach ↔ Breaks contents base entries breach := by
  constructor
  · rintro ⟨_, inner, own, at', stream, violates, rfl⟩
    cases at' with
    | self => exact absurd stream plain
    | entry _ below => exact ⟨_, inner, own, below, stream, violates, rfl⟩
    | stream held _ => exact absurd (Ordered.mem_keys_of_get? held) plain
  · rintro ⟨place, inner, own, below, stream, violates, rfl⟩
    exact ⟨place, inner, own, .entry plain below, stream, violates, rfl⟩

theorem nodeBreaks_stream_iff {entries : List (String × Value)} {breach : Breach}
    (stream : streamKey ∈ Ordered.keys entries) :
    NodeBreaks contents base (.object entries) breach ↔
      (∃ dictionary inner, Ordered.get? streamKey entries = some (.object dictionary) ∧
          Breaks contents base dictionary inner ∧ breach = inner.under [streamKey]) ∨
        Violates contents base entries breach := by
  constructor
  · rintro ⟨_, inner, own, at', isStream, violates, rfl⟩
    cases at' with
    | self => exact .inr violates
    | entry plain _ => exact absurd stream plain
    | stream held below =>
        exact
          .inl ⟨_, _, held, ⟨_, inner, own, below, isStream, violates, rfl⟩,
            Breach.under_cons _ _ _⟩
  · rintro (⟨dictionary, _, held, ⟨place, inner, own, below, isStream, violates, rfl⟩, rfl⟩ |
      violates)
    · exact
        ⟨_, inner, own, .stream held below, isStream, violates, Breach.under_under _ _ _⟩
    · exact ⟨[], entries, breach, .self _, stream, violates, rfl⟩

theorem not_nodeBreaks {value : Value} {breach : Breach} (scalar : ∀ items, value ≠ .array items)
    (noObject : ∀ entries, value ≠ .object entries) :
    ¬ NodeBreaks contents base value breach := by
  rintro ⟨_, entries, own, at', -⟩
  cases at' with
  | self => exact noObject entries rfl
  | item => exact scalar _ rfl
  | entry => exact noObject _ rfl
  | stream => exact noObject _ rfl

theorem mem_map_under_iff {breaches : List Breach} {front : Pointer} {breach : Breach}
    {property : Breach → Prop} (mem_iff : ∀ inner, inner ∈ breaches ↔ property inner) :
    breach ∈ breaches.map (.under front) ↔
      ∃ inner, property inner ∧ breach = inner.under front := by
  simp only [List.mem_map, mem_iff, eq_comm]

mutual

/-- The list of a node holds its breaches and nothing else. -/
theorem mem_nodeBreaches_iff :
    ∀ (value : Value) (breach : Breach),
      breach ∈ nodeBreaches contents base value ↔ NodeBreaks contents base value breach
  | .null, _ => by
      exact iff_of_false List.not_mem_nil (not_nodeBreaks nofun nofun)
  | .bool _, _ => by
      exact iff_of_false List.not_mem_nil (not_nodeBreaks nofun nofun)
  | .number _, _ => by
      exact iff_of_false List.not_mem_nil (not_nodeBreaks nofun nofun)
  | .string _, _ => by
      exact iff_of_false List.not_mem_nil (not_nodeBreaks nofun nofun)
  | .array items, breach => by
      rw [nodeBreaches, nodeBreaks_array_iff, mem_itemBreaches_iff items 0]
      simp only [Nat.zero_add]
  | .object entries, breach => by
      rw [nodeBreaches]
      by_cases stream : streamKey ∈ Ordered.keys entries
      · rw [if_pos (Ordered.contains_iff.mpr stream), List.mem_append, mem_ownBreaches_iff,
          mem_streamBreaches_iff entries, nodeBreaks_stream_iff stream]
      · rw [if_neg (mt Ordered.contains_iff.mp stream), mem_entryBreaches_iff entries,
          nodeBreaks_dictionary_iff stream]

theorem mem_itemBreaches_iff :
    ∀ (items : List Value) (start : Nat) (breach : Breach),
      breach ∈ itemBreaches contents base start items ↔
        ∃ index item inner, items[index]? = some item ∧ NodeBreaks contents base item inner ∧
          breach = inner.under [Numeric.decimalDigits (start + index)]
  | [], start, breach => by
      rw [itemBreaches]
      refine iff_of_false List.not_mem_nil ?_
      rintro ⟨index, item, inner, listed, -⟩
      cases listed
  | first :: items, start, breach => by
      rw [itemBreaches, List.mem_append, mem_map_under_iff (mem_nodeBreaches_iff first),
        mem_itemBreaches_iff items (start + 1)]
      constructor
      · rintro (⟨inner, breaks, rfl⟩ | ⟨index, item, inner, listed, breaks, rfl⟩)
        · exact ⟨0, first, inner, rfl, breaks, rfl⟩
        · refine ⟨index + 1, item, inner, listed, breaks, ?_⟩
          rw [Nat.add_assoc, Nat.add_comm 1]
      · rintro ⟨_ | index, item, inner, listed, breaks, rfl⟩
        · cases listed
          exact .inl ⟨inner, breaks, rfl⟩
        · refine .inr ⟨index, item, inner, listed, breaks, ?_⟩
          rw [Nat.add_assoc, Nat.add_comm 1]

theorem mem_entryBreaches_iff :
    ∀ (entries : List (String × Value)) (breach : Breach),
      breach ∈ entryBreaches contents base entries ↔ Breaks contents base entries breach
  | [], breach => by
      rw [entryBreaches, breaks_iff]
      refine iff_of_false List.not_mem_nil ?_
      rintro ⟨key, child, inner, member, -⟩
      cases member
  | (first, value) :: entries, breach => by
      rw [entryBreaches, List.mem_append, mem_map_under_iff (mem_nodeBreaches_iff value),
        mem_entryBreaches_iff entries, breaks_iff, breaks_iff]
      constructor
      · rintro (⟨inner, breaks, rfl⟩ | ⟨key, child, inner, member, found⟩)
        · exact ⟨first, value, inner, List.mem_cons_self, breaks, rfl⟩
        · exact ⟨key, child, inner, List.mem_cons_of_mem _ member, found⟩
      · rintro ⟨key, child, inner, member, breaks, rfl⟩
        rcases List.mem_cons.mp member with same | member
        · cases same
          exact .inl ⟨inner, breaks, rfl⟩
        · exact .inr ⟨key, child, inner, member, breaks, rfl⟩

theorem mem_streamBreaches_iff :
    ∀ (entries : List (String × Value)) (breach : Breach),
      breach ∈ streamBreaches contents base entries ↔
        ∃ dictionary inner, Ordered.get? streamKey entries = some (.object dictionary) ∧
          Breaks contents base dictionary inner ∧ breach = inner.under [streamKey]
  | [], breach => by
      rw [streamBreaches]
      refine iff_of_false List.not_mem_nil ?_
      rintro ⟨dictionary, inner, held, -⟩
      cases held
  | (key, value) :: entries, breach => by
      unfold streamBreaches
      by_cases here : key = streamKey
      · have held : Ordered.get? streamKey ((key, value) :: entries) = some value := by
          rw [Ordered.get?, if_pos (by simpa using here)]
        rw [held]
        cases value with
        | object dictionary =>
            dsimp only
            rw [if_pos here, mem_map_under_iff (mem_entryBreaches_iff dictionary)]
            simp
        | _ => simp [here]
      · have behind :
            Ordered.get? streamKey ((key, value) :: entries) =
              Ordered.get? streamKey entries := by
          rw [Ordered.get?, if_neg (by simpa using here)]
        rw [behind, ← mem_streamBreaches_iff entries]
        cases value <;> simp [here]

end

/-- A graph without breaches is one in which every stream has its form. -/
theorem entryBreaches_eq_nil_iff {graph : List (String × Value)} :
    entryBreaches contents base graph = [] ↔ StreamsFormed contents base graph := by
  rw [List.eq_nil_iff_forall_not_mem]
  simp only [mem_entryBreaches_iff]
  constructor
  · intro clean place entries at' stream
    rw [streamForm_iff]
    intro own violates
    exact clean _ ⟨place, entries, own, at', stream, violates, rfl⟩
  · rintro formed breach ⟨place, entries, own, at', stream, violates, -⟩
    exact streamForm_iff.mp (formed place entries at' stream) own violates

end FontCompiler.Manifest
