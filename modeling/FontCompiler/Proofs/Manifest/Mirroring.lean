import FontCompiler.Files.Store
import FontCompiler.Proofs.Except
import FontCompiler.Proofs.Graph.Equivalence
import FontCompiler.Proofs.Json.Keys
import FontCompiler.Proofs.Manifest.Breaches
import FontCompiler.Proofs.Manifest.Raising

/-!
# What lowering does

Without breaches, lowering a graph gives nodes that mirror it: the same keys and
the same number of items in the same order, down to the scalars.  With breaches
it reports the first of the list and gives nothing.  Files are only read.

The nodes that mirror a graph are determined by it.  Hence lowering succeeds on
exactly the graphs whose streams all have their form, and gives exactly the
nodes that mirror them.
-/

namespace FontCompiler.Manifest

open FontCompiler.Graph Json

/-! ## Mirrors -/

/-- A payload is what stands under the key of the bytes or in the file, and else is empty. -/
inductive PayloadMirrors (contents : Contents) (base : String) (entries : List (String × Value)) :
    List UInt8 → Prop
  | data {bytes : List UInt8}
      (held : Ordered.get? dataKey entries = some (.array (bytes.map raiseByte))) :
      PayloadMirrors contents base entries bytes
  | file {name : String} {bytes : List UInt8}
      (noData : dataKey ∉ Ordered.keys entries)
      (held : Ordered.get? fileKey entries = some (.string name))
      (found : contents (Files.join base name) = .ok bytes) :
      PayloadMirrors contents base entries bytes
  | none (noData : dataKey ∉ Ordered.keys entries) (noFile : fileKey ∉ Ordered.keys entries) :
      PayloadMirrors contents base entries []

mutual

/-- A node mirrors a value. -/
inductive Mirrors (contents : Contents) (base : String) : Value → Node → Prop
  | null : Mirrors contents base .null .null
  | bool (truth : Bool) : Mirrors contents base (.bool truth) (.boolean truth)
  | integer {number : Int} {integer : Int64} (same : integer.toInt = number) :
      Mirrors contents base (.number (.int number)) (.integer integer)
  | largeInteger {number : Int} (beyond : ∀ integer : Int64, integer.toInt ≠ number) :
      Mirrors contents base (.number (.int number)) (.float (.ofBinary64 (.ofInt number)))
  | float (number : Numeric.Binary64) :
      Mirrors contents base (.number (.float number)) (.float (.ofBinary64 number))
  | name {text name : String} (same : text = "/" ++ name) :
      Mirrors contents base (.string text) (.name name)
  | string {text : String} (plain : ∀ name, text ≠ "/" ++ name) :
      Mirrors contents base (.string text) (.string text)
  | array {items : List Value} {nodes : List Node}
      (mirror : ItemsMirror contents base items nodes) :
      Mirrors contents base (.array items) (.array nodes)
  | dictionary {entries : List (String × Value)} {nodes : Dictionary}
      (plain : streamKey ∉ Ordered.keys entries)
      (mirror : EntriesMirror contents base entries nodes) :
      Mirrors contents base (.object entries) (.dictionary nodes)
  | stream {entries dictionary : List (String × Value)} {nodes : Dictionary}
      {payload : List UInt8}
      (held : Ordered.get? streamKey entries = some (.object dictionary))
      (mirror : EntriesMirror contents base dictionary nodes)
      (bytes : PayloadMirrors contents base entries payload) :
      Mirrors contents base (.object entries) (.stream nodes payload)

/-- As many nodes as items, and each mirrors the item in its place. -/
inductive ItemsMirror (contents : Contents) (base : String) : List Value → List Node → Prop
  | nil : ItemsMirror contents base [] []
  | cons {item : Value} {node : Node} {items : List Value} {nodes : List Node}
      (first : Mirrors contents base item node)
      (others : ItemsMirror contents base items nodes) :
      ItemsMirror contents base (item :: items) (node :: nodes)

/-- The same keys in the same order, and each node mirrors the value under its key. -/
inductive EntriesMirror (contents : Contents) (base : String) :
    List (String × Value) → Dictionary → Prop
  | nil : EntriesMirror contents base [] []
  | cons {key : String} {value : Value} {node : Node} {entries : List (String × Value)}
      {nodes : Dictionary} (first : Mirrors contents base value node)
      (others : EntriesMirror contents base entries nodes) :
      EntriesMirror contents base ((key, value) :: entries) ((key, node) :: nodes)

end

variable {contents : Contents} {base : String}

theorem EntriesMirror.keys_eq {entries : List (String × Value)} {nodes : Dictionary}
    (mirror : EntriesMirror contents base entries nodes) :
    Ordered.keys nodes = Ordered.keys entries := by
  induction entries generalizing nodes with
  | nil =>
      cases mirror
      rfl
  | cons entry entries ih =>
      cases mirror with
      | cons first others => exact congrArg (_ :: ·) (ih others)

/-! ## Keys of mirrors -/

mutual

/-- The mirror of a value without repeated keys has no repeated keys. -/
theorem Mirrors.keysDistinct :
    ∀ {value : Value} {node : Node}, Mirrors contents base value node → value.KeysDistinct →
      node.KeysDistinct
  | _, _, .null, _ => .scalar rfl
  | _, _, .bool _, _ => .scalar rfl
  | _, _, .integer _, _ => .scalar rfl
  | _, _, .largeInteger _, _ => .scalar rfl
  | _, _, .float _, _ => .scalar rfl
  | _, _, .name _, _ => .scalar rfl
  | _, _, .string _, _ => .scalar rfl
  | _, _, .array mirror, distinct => by
      rw [Value.KeysDistinct] at distinct
      exact .intro List.nodup_nil (mirror.keysDistinct distinct)
  | _, _, .dictionary _ mirror, distinct => by
      rw [Value.KeysDistinct, ← mirror.keys_eq] at distinct
      exact .intro distinct.1 (mirror.keysDistinct distinct.2)
  | _, _, .stream held mirror _, distinct => by
      rw [Value.KeysDistinct, Value.entriesKeysDistinct_iff] at distinct
      have below := distinct.2 _ (Ordered.mem_of_get? held)
      rw [Value.KeysDistinct, ← mirror.keys_eq] at below
      exact .intro below.1 (mirror.keysDistinct below.2)

theorem ItemsMirror.keysDistinct :
    ∀ {items : List Value} {nodes : List Node}, ItemsMirror contents base items nodes →
      Value.ItemsKeysDistinct items → ∀ node ∈ nodes, node.KeysDistinct
  | _, _, .nil, _ => nofun
  | _, _, .cons first others, distinct => by
      rw [Value.ItemsKeysDistinct] at distinct
      exact
        List.forall_mem_cons.mpr
          ⟨first.keysDistinct distinct.1, others.keysDistinct distinct.2⟩

theorem EntriesMirror.keysDistinct :
    ∀ {entries : List (String × Value)} {nodes : Dictionary},
      EntriesMirror contents base entries nodes → Value.EntriesKeysDistinct entries →
        ∀ node ∈ nodes.map Prod.snd, node.KeysDistinct
  | _, _, .nil, _ => nofun
  | _, _, .cons first others, distinct => by
      rw [Value.EntriesKeysDistinct] at distinct
      exact
        List.forall_mem_cons.mpr
          ⟨first.keysDistinct distinct.1, others.keysDistinct distinct.2⟩

end

/-! ## What is mirrored determines the mirror -/

theorem raiseByte_injective {byte other : UInt8} (same : raiseByte byte = raiseByte other) :
    byte = other := by
  have read := congrArg byte? same
  rw [byte?_raiseByte, byte?_raiseByte] at read
  exact Option.some.inj read

theorem PayloadMirrors.unique {entries : List (String × Value)} {bytes other : List UInt8}
    (mirror : PayloadMirrors contents base entries bytes)
    (mirror' : PayloadMirrors contents base entries other) : bytes = other := by
  cases mirror with
  | data held =>
      cases mirror' with
      | data held' =>
          rw [held, Option.some.injEq, Value.array.injEq] at held'
          exact List.map_injective_iff.mpr (fun _ _ => raiseByte_injective) held'
      | file noData => exact absurd (Ordered.mem_keys_of_get? held) noData
      | none noData => exact absurd (Ordered.mem_keys_of_get? held) noData
  | file noData held found =>
      cases mirror' with
      | data held' => exact absurd (Ordered.mem_keys_of_get? held') noData
      | file _ held' found' =>
          rw [held] at held'
          cases held'
          rw [found] at found'
          cases found'
          rfl
      | none _ noFile => exact absurd (Ordered.mem_keys_of_get? held) noFile
  | none noData noFile =>
      cases mirror' with
      | data held => exact absurd (Ordered.mem_keys_of_get? held) noData
      | file _ held => exact absurd (Ordered.mem_keys_of_get? held) noFile
      | none => rfl

mutual

theorem Mirrors.unique :
    ∀ {value : Value} {node other : Node}, Mirrors contents base value node →
      Mirrors contents base value other → node = other
  | _, _, _, .null, .null => rfl
  | _, _, _, .bool _, .bool _ => rfl
  | _, _, _, .integer same, .integer same' =>
      congrArg Node.integer (Int64.toInt_inj.mp (same.trans same'.symm))
  | _, _, _, .integer same, .largeInteger beyond => absurd same (beyond _)
  | _, _, _, .largeInteger beyond, .integer same => absurd same (beyond _)
  | _, _, _, .largeInteger _, .largeInteger _ => rfl
  | _, _, _, .float _, .float _ => rfl
  | _, _, _, .name same, .name same' =>
      congrArg Node.name ((String.append_right_inj _).mp (same.symm.trans same'))
  | _, _, _, .name same, .string plain => absurd same (plain _)
  | _, _, _, .string plain, .name same => absurd same (plain _)
  | _, _, _, .string _, .string _ => rfl
  | _, _, _, .array mirror, .array mirror' => congrArg Node.array (mirror.unique mirror')
  | _, _, _, .dictionary plain mirror, mirror' => by
      cases mirror' with
      | dictionary _ mirror' => exact congrArg Node.dictionary (mirror.unique mirror')
      | stream held => exact absurd (Ordered.mem_keys_of_get? held) plain
  | _, _, _, .stream held mirror bytes, mirror' => by
      cases mirror' with
      | dictionary plain => exact absurd (Ordered.mem_keys_of_get? held) plain
      | stream held' mirror' bytes' =>
          rw [held] at held'
          cases held'
          rw [mirror.unique mirror', bytes.unique bytes']

theorem ItemsMirror.unique :
    ∀ {items : List Value} {nodes others : List Node}, ItemsMirror contents base items nodes →
      ItemsMirror contents base items others → nodes = others
  | _, _, _, .nil, .nil => rfl
  | _, _, _, .cons first rest, .cons first' rest' => by
      rw [first.unique first', rest.unique rest']

theorem EntriesMirror.unique :
    ∀ {entries : List (String × Value)} {nodes others : Dictionary},
      EntriesMirror contents base entries nodes →
        EntriesMirror contents base entries others → nodes = others
  | _, _, _, .nil, .nil => rfl
  | _, _, _, .cons first rest, .cons first' rest' => by
      rw [first.unique first', rest.unique rest']

end

/-! ## Scalars -/

theorem mirrors_lowerNumber (number : Number) :
    Mirrors contents base (.number number) (lowerNumber number) := by
  cases number with
  | int number =>
      rw [lowerNumber]
      split
      · rename_i within
        have kept : (Int64.ofInt number).toInt = number :=
          Int64.toInt_ofInt_of_le within.1 (by
            have top : Int64.maxValue.toInt = 2 ^ 63 - 1 := rfl
            omega)
        exact .integer kept
      · rename_i beyond
        refine .largeInteger ?_
        rintro integer rfl
        exact beyond ⟨Int64.minValue_le_toInt integer, Int64.toInt_le integer⟩
  | float number => exact .float number

theorem mirrors_lowerText (text : String) :
    Mirrors contents base (.string text) (lowerText text) := by
  unfold lowerText
  split
  · rename_i name split
    have same : text = "/" ++ String.ofList name := by
      simp [← String.toList_inj, split]
    exact .name same
  · rename_i noSlash
    refine .string ?_
    rintro name rfl
    exact noSlash name.toList (String.toList_append)

/-! ## Parts of a lowering -/

/-- In a state, files read as they are listed, and reading leaves the state as it is. -/
def Shows {σ : Type} (read : Reader (StateM σ)) (contents : Contents) (state : σ) : Prop :=
  ∀ path, (read path).run state = (contents path, state)

/-- What a violation says is breached. -/
def Violation.breached : Violation → Breached
  | .streamNotObject | .fileNotPath | .payloadTwice | .unexpectedKey _ => .form
  | .payloadNotArray => .payload
  | .notByte _ => .byte

theorem Violation.breached_ne_file (violation : Violation) : violation.breached ≠ .file := by
  cases violation <;> exact nofun

/-- A fault reports a breach that is seen from a place. -/
inductive Reports (contents : Contents) (base : String) (place : Pointer) (breach : Breach) :
    LoweringFault → Prop
  | violation (violation : Violation) (same : violation.breached = breach.breached) :
      Reports contents base place breach (.violation (place ++ breach.pointer) violation)
  | unreadable {name : String} {failure : Files.Failure} (named : breach.culprit = .string name)
      (same : breach.breached = .file)
      (failed : contents (Files.join base name) = .error failure) :
      Reports contents base place breach (.unreadable (Files.join base name) failure)

theorem Reports.ofForm {place : Pointer} {entries : List (String × Value)} {violation : Violation}
    (form : violation.breached = .form) :
    Reports contents base place (.ofForm entries) (.violation place violation) := by
  have reports : Reports contents base place (.ofForm entries) _ := .violation violation form
  rwa [Breach.ofForm, List.append_nil] at reports

/-- A part of a lowering gives something if there are no breaches, and else reports the first. -/
inductive Lowers {σ α : Type} (contents : Contents) (base : String)
    (part : ExceptT LoweringFault (StateM σ) α) (state : σ) (place : Pointer) :
    List Breach → (α → Prop) → Prop
  | lowered {holds : α → Prop} {result : α} (ran : part.run.run state = (.ok result, state))
      (property : holds result) : Lowers contents base part state place [] holds
  | refused {holds : α → Prop} {breach : Breach} {others : List Breach} {fault : LoweringFault}
      (ran : part.run.run state = (.error fault, state))
      (reports : Reports contents base place breach fault) :
      Lowers contents base part state place (breach :: others) holds

namespace Lowers

variable {σ α β : Type} {state : σ} {place : Pointer} {holds : α → Prop} {after : β → Prop}
  {breaches more : List Breach}

theorem pure {result : α} (property : holds result) :
    Lowers contents base (Pure.pure result) state place [] holds :=
  .lowered rfl property

theorem throw {fault : LoweringFault} {breach : Breach}
    (reports : Reports contents base place breach fault) :
    Lowers contents base (MonadExcept.throw fault : ExceptT LoweringFault (StateM σ) α) state
      place (breach :: breaches) holds :=
  .refused rfl reports

theorem imp {part : ExceptT LoweringFault (StateM σ) α} {other : α → Prop}
    (lowers : Lowers contents base part state place breaches holds)
    (step : ∀ result, holds result → other result) :
    Lowers contents base part state place breaches other := by
  cases lowers with
  | lowered ran property => exact .lowered ran (step _ property)
  | refused ran reports => exact .refused ran reports

theorem of_run_eq {part other : ExceptT LoweringFault (StateM σ) α}
    (same : part.run.run state = other.run.run state)
    (lowers : Lowers contents base other state place breaches holds) :
    Lowers contents base part state place breaches holds := by
  cases lowers with
  | lowered ran property => exact .lowered (same.trans ran) property
  | refused ran reports => exact .refused (same.trans ran) reports

/-- The breaches of the first part come before those of the next. -/
theorem bind {first : ExceptT LoweringFault (StateM σ) α}
    {next : α → ExceptT LoweringFault (StateM σ) β}
    (lowers : Lowers contents base first state place breaches holds)
    (step : ∀ result, holds result →
      Lowers contents base (next result) state place more after) :
    Lowers contents base (first >>= next) state place (breaches ++ more) after := by
  cases lowers with
  | @lowered _ result ran property =>
      refine .of_run_eq ?_ (step result property)
      rw [ExceptT.run_bind, StateT.run_bind, ran]
      rfl
  | @refused _ breach others fault ran reports =>
      refine .refused ?_ reports
      rw [ExceptT.run_bind, StateT.run_bind, ran]
      rfl

theorem map {part : ExceptT LoweringFault (StateM σ) α} {give : α → β}
    (lowers : Lowers contents base part state place breaches holds)
    (step : ∀ result, holds result → after (give result)) :
    Lowers contents base (part >>= fun result => Pure.pure (give result)) state place breaches
      after := by
  rw [← List.append_nil breaches]
  exact lowers.bind fun result property => .pure (step result property)

/-- Breaches below a place are seen from above with the way there. -/
theorem under {part : ExceptT LoweringFault (StateM σ) α} {front : Pointer}
    (lowers : Lowers contents base part state (place ++ front) breaches holds) :
    Lowers contents base part state place (breaches.map (.under front)) holds := by
  cases lowers with
  | lowered ran property => exact .lowered ran property
  | refused ran reports =>
      refine .refused ran ?_
      cases reports with
      | violation violation same =>
          rw [List.append_assoc]
          exact .violation violation same
      | unreadable named same failed => exact .unreadable named same failed

end Lowers

/-! ## Payloads -/

section

variable {σ : Type} {read : Reader (StateM σ)} {state : σ} (shows : Shows read contents state)

theorem liftExcept_bind {α β : Type} (first : Except LoweringFault α)
    (next : α → Except LoweringFault β) :
    (lowerPayload.liftExcept (first >>= next) : ExceptT LoweringFault (StateM σ) β) =
      lowerPayload.liftExcept first >>= fun result =>
        lowerPayload.liftExcept (next result) := by
  cases first <;> rfl

theorem eq_raiseByte_of_byte? {value : Value} {byte : UInt8} (found : byte? value = some byte) :
    value = raiseByte byte := by
  unfold byte? at found
  split at found
  · rename_i number
    split at found
    · rename_i within
      cases found
      rw [raiseByte, UInt8.toNat_ofNat_of_lt' (by change _ < 256; omega),
        Int.toNat_of_nonneg within.1]
    · cases found
  · cases found

theorem lowers_bytes (place : Pointer) :
    ∀ (items : List Value) (index : Nat),
      Lowers contents base
        (lowerPayload.liftExcept (lowerBytes (place ++ [dataKey]) index items)) state place
        (byteBreaches index items) fun bytes => items = bytes.map raiseByte
  | [], index => .lowered rfl rfl
  | item :: items, index => by
      rw [lowerBytes, byteBreaches, List.zipIdx_cons, List.filterMap_cons, byteBreach?]
      cases found : byte? item with
      | none =>
          refine .throw ?_
          rw [List.append_assoc]
          exact .violation (.notByte item) rfl
      | some byte =>
          dsimp only
          rw [liftExcept_bind]
          refine (lowers_bytes place items (index + 1)).map fun bytes same => ?_
          rw [List.map_cons, same, eq_raiseByte_of_byte? found]

/-- What is left of a stream's object when the keys of the notation are taken out. -/
def leftOver (entries : List (String × Value)) : List (String × Value) :=
  Ordered.swapErase fileKey (Ordered.swapErase dataKey (Ordered.swapErase streamKey entries))

theorem mem_leftOver_iff {entries : List (String × Value)} {entry : String × Value}
    (distinct : (Ordered.keys entries).Nodup) :
    entry ∈ leftOver entries ↔ entry ∈ entries ∧ entry.1 ∉ streamKeys := by
  have withoutStream := Ordered.nodup_keys_swapErase streamKey distinct
  have withoutData := Ordered.nodup_keys_swapErase dataKey withoutStream
  rw [leftOver, Ordered.mem_swapErase_iff withoutData, Ordered.mem_swapErase_iff withoutStream,
    Ordered.mem_swapErase_iff distinct]
  simp only [streamKeys, List.mem_cons, List.not_mem_nil, or_false, not_or, and_assoc]

theorem lowers_leftOver {entries : List (String × Value)} {place : Pointer} {α : Type}
    {result : α} {holds : α → Prop} (distinct : (Ordered.keys entries).Nodup)
    (property : holds result) :
    Lowers contents base
      (match leftOver entries with
        | [] => (pure result : ExceptT LoweringFault (StateM σ) α)
        | (key, _) :: _ => throw (.violation place (.unexpectedKey key)))
      state place (foreignBreaches entries) holds := by
  have known_iff :
      ((Ordered.keys entries).all fun key => streamKeys.contains key) = true ↔
        leftOver entries = [] := by
    rw [List.eq_nil_iff_forall_not_mem]
    simp only [mem_leftOver_iff distinct, List.all_eq_true, List.contains_iff_mem, Ordered.keys,
      List.forall_mem_map, not_and, not_not]
  rw [foreignBreaches]
  cases left : leftOver entries with
  | nil =>
      rw [if_pos (known_iff.mpr left)]
      exact .pure property
  | cons entry others =>
      rw [if_neg fun known => List.cons_ne_nil _ _ (left.symm.trans (known_iff.mp known))]
      exact .throw (.ofForm rfl)

include shows

theorem lowers_read {α : Type} {path : String}
    {next : Except Files.Failure (List UInt8) → ExceptT LoweringFault (StateM σ) α}
    {place : Pointer} {breaches : List Breach} {holds : α → Prop}
    (lowers : Lowers contents base (next (contents path)) state place breaches holds) :
    Lowers contents base (liftM (read path) >>= next) state place breaches holds := by
  refine .of_run_eq ?_ lowers
  rw [ExceptT.run_bind]
  change (StateT.run (read path >>= _) state) = _
  rw [StateT.run_bind, shows]
  rfl

theorem lowers_payload {place : Pointer} {entries : List (String × Value)}
    (distinct : (Ordered.keys entries).Nodup) :
    Lowers contents base (lowerPayload read base place (Ordered.swapErase streamKey entries))
      state place (payloadBreaches contents base entries ++ foreignBreaches entries)
      (PayloadMirrors contents base entries) := by
  have withoutStream := Ordered.nodup_keys_swapErase streamKey distinct
  unfold lowerPayload
  extract_lets data others file rest follow
  have data_eq : Ordered.get? dataKey entries = data :=
    (Ordered.get?_swapErase (by decide) distinct).symm
  have file_eq : Ordered.get? fileKey entries = file :=
    ((Ordered.get?_swapErase (by decide) withoutStream).trans
      (Ordered.get?_swapErase (by decide) distinct)).symm
  have lowersFollow (bytes : List UInt8) (mirror : PayloadMirrors contents base entries bytes) :
      Lowers contents base (follow bytes) state place (foreignBreaches entries)
        (PayloadMirrors contents base entries) :=
    lowers_leftOver distinct mirror
  clear_value follow data file
  rw [payloadBreaches, doubleBreaches, Ordered.contains, Ordered.contains, data_eq, file_eq]
  split
  · rename_i items
    refine Lowers.bind ?_ lowersFollow
    exact
      (List.append_nil (byteBreaches 0 items)).symm ▸
        (lowers_bytes place items 0).imp fun bytes same => .data (same ▸ data_eq)
  · rename_i data noArray
    rw [dataBreaches_of_noArray noArray]
    exact .refused rfl (.violation .payloadNotArray rfl)
  · rename_i name
    refine lowers_read shows ?_
    dsimp only [fileBreaches]
    cases found : contents (Files.join base name) with
    | ok bytes =>
        refine Lowers.bind (.pure ?_) lowersFollow
        exact .file (Ordered.get?_eq_none_iff.mp data_eq) file_eq found
    | error failure => exact .refused rfl (.unreadable rfl rfl found)
  · rename_i file noText
    rw [fileBreaches_of_noText noText]
    exact .refused rfl (.ofForm rfl)
  · refine Lowers.bind (.pure ?_) lowersFollow
    exact .none (Ordered.get?_eq_none_iff.mp data_eq) (Ordered.get?_eq_none_iff.mp file_eq)
  · exact .refused rfl (.ofForm rfl)

/-! ## Graphs -/

omit shows

mutual

theorem lowers_value (shows : Shows read contents state) :
    ∀ (place : Pointer) {value : Value}, value.KeysDistinct →
      Lowers contents base (lowerValue read base place value) state place
        (nodeBreaches contents base value) (Mirrors contents base value)
  | _, .null, _ => by
      rw [lowerValue]
      exact .pure .null
  | _, .bool truth, _ => by
      rw [lowerValue]
      exact .pure (.bool truth)
  | _, .number number, _ => by
      rw [lowerValue]
      exact .pure (mirrors_lowerNumber number)
  | _, .string text, _ => by
      rw [lowerValue]
      exact .pure (mirrors_lowerText text)
  | place, .array items, distinct => by
      rw [Value.KeysDistinct] at distinct
      rw [lowerValue, nodeBreaches]
      exact (lowers_items shows place 0 distinct).map fun _ mirror => .array mirror
  | place, .object entries, distinct => by
      rw [Value.KeysDistinct] at distinct
      rw [lowerValue, nodeBreaches]
      split
      · rw [ownBreaches, List.append_assoc, ← List.append_assoc]
        refine (lowers_streamEntries shows place entries distinct.2).bind fun nodes stream => ?_
        rcases stream with ⟨dictionary, held, mirror⟩
        exact
          (lowers_payload shows distinct.1).map fun payload bytes => .stream held mirror bytes
      · rename_i plain
        exact
          (lowers_entries shows place distinct.2).map fun nodes mirror =>
            .dictionary (mt Ordered.contains_iff.mpr plain) mirror

theorem lowers_items (shows : Shows read contents state) :
    ∀ (place : Pointer) (index : Nat) {items : List Value}, Value.ItemsKeysDistinct items →
      Lowers contents base (lowerItems read base place index items) state place
        (itemBreaches contents base index items) (ItemsMirror contents base items)
  | _, _, [], _ => by
      rw [lowerItems, itemBreaches]
      exact .pure .nil
  | place, index, item :: items, distinct => by
      rw [Value.ItemsKeysDistinct] at distinct
      rw [lowerItems, itemBreaches]
      refine (lowers_value shows _ distinct.1).under.bind fun node first => ?_
      exact
        (lowers_items shows place (index + 1) distinct.2).map fun nodes others =>
          .cons first others

theorem lowers_entries (shows : Shows read contents state) :
    ∀ (place : Pointer) {entries : List (String × Value)}, Value.EntriesKeysDistinct entries →
      Lowers contents base (lowerEntries read base place entries) state place
        (entryBreaches contents base entries) (EntriesMirror contents base entries)
  | _, [], _ => by
      rw [lowerEntries, entryBreaches]
      exact .pure .nil
  | place, (key, value) :: entries, distinct => by
      rw [Value.EntriesKeysDistinct] at distinct
      rw [lowerEntries, entryBreaches]
      refine (lowers_value shows _ distinct.1).under.bind fun node first => ?_
      exact
        (lowers_entries shows place distinct.2).map fun nodes others => .cons first others

theorem lowers_streamEntries (shows : Shows read contents state) :
    ∀ (place : Pointer) (whole : List (String × Value)) {entries : List (String × Value)},
      Value.EntriesKeysDistinct entries →
        Lowers contents base (lowerStreamEntries read base place entries) state place
          (streamBreaches contents base entries ++
            dictionaryBreaches whole (Ordered.get? streamKey entries))
          fun nodes => ∃ dictionary,
            Ordered.get? streamKey entries = some (.object dictionary) ∧
              EntriesMirror contents base dictionary nodes
  | _, _, [], _ => by
      rw [lowerStreamEntries, streamBreaches]
      exact .throw (.ofForm rfl)
  | place, whole, (key, value) :: entries, distinct => by
      rw [Value.EntriesKeysDistinct] at distinct
      unfold lowerStreamEntries streamBreaches
      rw [Ordered.get?]
      by_cases here : key = streamKey
      · rw [if_pos (by simpa using here)]
        cases value with
        | object dictionary =>
            dsimp only
            rw [Value.KeysDistinct] at distinct
            rw [if_pos here, if_pos here, dictionaryBreaches, List.append_nil]
            refine (lowers_entries shows _ distinct.1.2).under.imp fun nodes mirror => ?_
            exact ⟨dictionary, rfl, mirror⟩
        | _ =>
            dsimp only
            rw [if_pos here, if_pos here]
            exact .throw (.ofForm rfl)
      · have behind := lowers_streamEntries shows place whole distinct.2
        rw [if_neg (by simpa using here)]
        cases value <;> simpa only [if_neg here] using behind

end

end

/-- Where a graph does not repeat a key, the nodes that it is lowered to do not either. -/
theorem keysDistinct_of_lowered {σ : Type} {read : Reader (StateM σ)} {state : σ}
    {contents : Contents} (shows : Shows read contents state) {base : String} {place : Pointer}
    {graph : List (String × Value)} (distinct : (Value.object graph).KeysDistinct)
    {nodes : Dictionary}
    (lowered : ((lowerEntries read base place graph).run.run state).1 = .ok nodes) :
    (Node.dictionary nodes).KeysDistinct := by
  rw [Value.KeysDistinct] at distinct
  have lowers :
      Lowers contents base (lowerEntries read base place graph) state place
        (entryBreaches contents base graph) (EntriesMirror contents base graph) :=
    lowers_entries shows place distinct.2
  generalize entryBreaches contents base graph = breaches at lowers
  cases lowers with
  | lowered ran mirror =>
      rw [ran] at lowered
      cases lowered
      rw [← mirror.keys_eq] at distinct
      exact .intro distinct.1 (mirror.keysDistinct distinct.2)
  | refused ran _ =>
      rw [ran] at lowered
      cases lowered

/-- Lowering succeeds on exactly the graphs whose streams have their form, gives exactly the nodes
that mirror them, and reads only. -/
theorem lowerEntries_accepts_and_mirrors {σ : Type} {read : Reader (StateM σ)} {state : σ}
    {contents : Contents} (shows : Shows read contents state) (base : String) (place : Pointer)
    {graph : List (String × Value)} (distinct : (Value.object graph).KeysDistinct) :
    let lowered := (lowerEntries read base place graph).run.run state
    (Succeeds lowered.1 ↔ StreamsFormed contents base graph) ∧
      (∀ nodes, lowered.1 = .ok nodes ↔
        StreamsFormed contents base graph ∧ EntriesMirror contents base graph nodes) ∧
      lowered.2 = state := by
  rw [Value.KeysDistinct] at distinct
  rw [← entryBreaches_eq_nil_iff]
  have lowers :
      Lowers contents base (lowerEntries read base place graph) state place
        (entryBreaches contents base graph) (EntriesMirror contents base graph) :=
    lowers_entries shows place distinct.2
  generalize entryBreaches contents base graph = breaches at lowers
  cases lowers with
  | @lowered _ result ran mirror =>
      rw [ran]
      refine ⟨iff_of_true (succeeds_ok result) rfl, fun nodes => ?_, rfl⟩
      constructor
      · intro same
        cases same
        exact ⟨rfl, mirror⟩
      · rintro ⟨-, other⟩
        rw [mirror.unique other]
  | refused ran _ =>
      rw [ran]
      exact
        ⟨iff_of_false (not_succeeds_error _) (List.cons_ne_nil _ _),
          fun nodes => iff_of_false nofun fun both => List.cons_ne_nil _ _ both.1, rfl⟩

/-- A graph with streams in it, one of them under the key of streams. -/
def streamedGraph : List (String × Value) :=
  [("$stream",
      .object
        [("$data", .array [.number (.int 0), .number (.int 255)]),
          ("$stream", .object [("$file", .string "/Type1")])]),
    ("Widths",
      .array [.number (.int 600), .number (.int 9223372036854775808), .null, .string "up"]),
    ("FontFile", .object [("$file", .string "program.bin"), ("$stream", .object [])])]

/-- The nodes of this graph. -/
def streamedNodes : Dictionary :=
  [("$stream", .stream [("$file", .name "Type1")] [0, 255]),
    ("Widths", .array [.integer 600, .float (.ofBinary64 (.ofInt 9223372036854775808)), .null,
      .string "up"]),
    ("FontFile", .stream [] [1, 2])]

/-- A store with the file that the graph asks for. -/
def streamedStore : Files.Store :=
  ⟨[(⟨.above 0, ["fonts"]⟩, .directory),
    (⟨.above 0, ["fonts", "program.bin"]⟩, .file [1, 2])]⟩

theorem lowerEntries_accepts_and_mirrors_streamedGraph :
    StreamsFormed streamedStore.readBytes "fonts" streamedGraph ∧
      EntriesMirror streamedStore.readBytes "fonts" streamedGraph streamedNodes := by
  have shows : Shows Files.Store.system.readBytes streamedStore.readBytes streamedStore :=
    fun _ => rfl
  have distinct : (Value.object streamedGraph).KeysDistinct := by
    simp [Value.KeysDistinct, Value.EntriesKeysDistinct, Value.ItemsKeysDistinct, streamedGraph,
      Ordered.keys]
  have mirrored := (lowerEntries_accepts_and_mirrors shows "fonts" ["graph"] distinct).2.1
  exact (mirrored streamedNodes).mp rfl

end FontCompiler.Manifest
