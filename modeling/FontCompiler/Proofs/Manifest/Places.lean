import FontCompiler.Proofs.Manifest.Literals
import FontCompiler.Proofs.Manifest.Mirroring

/-!
# Places of numbers in a graph

A place of a graph in JSON notation is what is around a value there.  If a graph
with a number at a place is lowered, then so is the graph with any other number
at this place, and the lowered graphs differ in one place only.  The bytes of a
payload are no places of numbers.

The induction follows the places, which are built like the recursion of the
lowering: a place among the entries of an object is met as an entry of a
dictionary, or as the key of a stream with a place inside its dictionary.
-/

namespace FontCompiler.Manifest

open FontCompiler.Graph Json Factory

/-! ## Places -/

/-- What is around a number inside a value. -/
inductive NumberPlace
  | here
  | item (front : List Value) (inner : NumberPlace) (back : List Value)
  | entry (front : List (String × Value)) (key : String) (inner : NumberPlace)
      (back : List (String × Value))

namespace NumberPlace

/-- The value with a number at a place. -/
def fill (number : Number) : NumberPlace → Value
  | here => .number number
  | item front inner back => .array (front ++ inner.fill number :: back)
  | entry front key inner back => .object (front ++ (key, inner.fill number) :: back)

/-- No key on the way to a place is that of the bytes of a stream. -/
def OutsidePayload : NumberPlace → Prop
  | here => True
  | item _ inner _ => inner.OutsidePayload
  | entry front key inner back =>
    (key = dataKey → streamKey ∉ Ordered.keys front ∧ streamKey ∉ Ordered.keys back) ∧
      inner.OutsidePayload

/-- The keys around a place have nothing to do with the number there. -/
theorem keysDistinct_fill {number : Number} (other : Number) :
    ∀ {place : NumberPlace}, (place.fill number).KeysDistinct → (place.fill other).KeysDistinct
  | here, _ => trivial
  | item front inner back, distinct => by
      rw [fill, Value.KeysDistinct, Value.itemsKeysDistinct_iff, List.forall_mem_append,
        List.forall_mem_cons] at distinct ⊢
      exact ⟨distinct.1, keysDistinct_fill other distinct.2.1, distinct.2.2⟩
  | entry front key inner back, distinct => by
      rw [fill, Value.KeysDistinct, Value.entriesKeysDistinct_iff, List.forall_mem_append,
        List.forall_mem_cons] at distinct ⊢
      have keys (number : Number) :
          Ordered.keys (front ++ (key, inner.fill number) :: back) =
            Ordered.keys front ++ key :: Ordered.keys back := by
        simp [Ordered.keys]
      rw [keys] at distinct ⊢
      exact
        ⟨distinct.1, distinct.2.1, keysDistinct_fill other distinct.2.2.1, distinct.2.2.2⟩

theorem keysDistinct_of_entry {number : Number} {front back : List (String × Value)}
    {key : String} {inner : NumberPlace}
    (distinct : ((entry front key inner back).fill number).KeysDistinct) :
    (inner.fill number).KeysDistinct := by
  rw [fill, Value.KeysDistinct, Value.entriesKeysDistinct_iff, List.forall_mem_append,
    List.forall_mem_cons] at distinct
  exact distinct.2.2.1

end NumberPlace

/-! ## Parts of a lowering that give something -/

section

variable {σ α β : Type}

/-- A part of a lowering gives a result from a state, and leaves another state behind. -/
def Gives (part : ExceptT LoweringFault (StateM σ) α) (state : σ) (result : α) (after : σ) : Prop :=
  part.run.run state = (.ok result, after)

theorem gives_pure_iff {value result : α} {state after : σ} :
    Gives (pure value) state result after ↔ value = result ∧ state = after := by
  constructor
  · intro gives
    cases gives
    exact ⟨rfl, rfl⟩
  · rintro ⟨rfl, rfl⟩
    rfl

theorem gives_bind_iff {first : ExceptT LoweringFault (StateM σ) α}
    {next : α → ExceptT LoweringFault (StateM σ) β} {state after : σ} {result : β} :
    Gives (first >>= next) state result after ↔
      ∃ value middle, Gives first state value middle ∧ Gives (next value) middle result after := by
  rw [Gives, ExceptT.run_bind, StateT.run_bind]
  rcases ran : first.run.run state with ⟨outcome, middle⟩
  cases outcome with
  | error fault =>
      refine iff_of_false nofun ?_
      rintro ⟨value, other, gives, -⟩
      rw [Gives, ran] at gives
      cases gives
  | ok value =>
      constructor
      · exact fun gives => ⟨value, middle, ran, gives⟩
      · rintro ⟨found, other, gives, follows⟩
        rw [Gives, ran] at gives
        cases gives
        exact follows

theorem gives_map_iff {first : ExceptT LoweringFault (StateM σ) α} {give : α → β}
    {state after : σ} {result : β} :
    Gives (first >>= fun value => pure (give value)) state result after ↔
      ∃ value, Gives first state value after ∧ give value = result := by
  simp only [gives_bind_iff, gives_pure_iff]
  constructor
  · rintro ⟨value, middle, gives, same, rfl⟩
    exact ⟨value, gives, same⟩
  · rintro ⟨value, gives, same⟩
    exact ⟨value, after, gives, same, rfl⟩

end

/-! ## Parts of a lowering that depend on a number -/

section

variable {σ α β γ : Type}

/-- If a part gives something for one number, then it does for every number, and what it gives is a
function of the number that has a property. -/
def Uniform (holds : (Number → α) → Prop) (part : Number → ExceptT LoweringFault (StateM σ) α) :
    Prop :=
  ∀ number state result after, Gives (part number) state result after →
    ∃ results : Number → α, holds results ∧ results number = result ∧
      ∀ other, Gives (part other) state (results other) after

namespace Uniform

variable {holds : (Number → α) → Prop} {holds' : (Number → β) → Prop}
  {part part' : Number → ExceptT LoweringFault (StateM σ) α}

theorem of_eq (uniform : Uniform holds part) (same : ∀ number, part' number = part number) :
    Uniform holds part' := by
  rwa [funext same]

theorem of_not_gives (fails : ∀ number state result after,
    ¬ Gives (part number) state result after) : Uniform holds part :=
  fun number state result after gives => absurd gives (fails number state result after)

theorem pure {results : Number → α} (property : holds results) :
    Uniform holds fun number =>
      (Pure.pure (results number) : ExceptT LoweringFault (StateM σ) α) := by
  intro number state result after gives
  rcases gives_pure_iff.mp gives with ⟨same, rfl⟩
  exact ⟨results, property, same, fun other => rfl⟩

/-- A part in front does not depend on the number. -/
theorem behind {first : ExceptT LoweringFault (StateM σ) γ}
    {next : γ → Number → ExceptT LoweringFault (StateM σ) α}
    (uniform : ∀ value, Uniform holds (next value)) :
    Uniform holds fun number => first >>= fun value => next value number := by
  intro number state result after gives
  rcases gives_bind_iff.mp gives with ⟨value, middle, given, follows⟩
  rcases uniform value number middle result after follows with ⟨results, property, same, all⟩
  exact
    ⟨results, property, same, fun other => gives_bind_iff.mpr ⟨value, middle, given, all other⟩⟩

/-- A part behind does not depend on the number. -/
theorem before (uniform : Uniform holds part) {others : ExceptT LoweringFault (StateM σ) γ}
    {give : α → γ → β}
    (step : ∀ results value, holds results → holds' fun number => give (results number) value) :
    Uniform holds' fun number =>
      part number >>= fun result => others >>= fun value => Pure.pure (give result value) := by
  intro number state result after gives
  rcases gives_bind_iff.mp gives with ⟨first, middle, given, follows⟩
  rcases gives_map_iff.mp follows with ⟨value, givenOthers, rfl⟩
  rcases uniform number state first middle given with ⟨results, property, rfl, all⟩
  refine ⟨_, step results value property, rfl, fun other => ?_⟩
  exact gives_bind_iff.mpr ⟨_, middle, all other, gives_map_iff.mpr ⟨value, givenOthers, rfl⟩⟩

theorem map (uniform : Uniform holds part) {give : α → β}
    (step : ∀ results, holds results → holds' fun number => give (results number)) :
    Uniform holds' fun number => part number >>= fun result => Pure.pure (give result) := by
  intro number state result after gives
  rcases gives_map_iff.mp gives with ⟨first, given, rfl⟩
  rcases uniform number state first after given with ⟨results, property, rfl, all⟩
  exact
    ⟨_, step results property, rfl, fun other => gives_map_iff.mpr ⟨_, all other, rfl⟩⟩

end Uniform

end

/-! ## Rows -/

section

variable {m : Type → Type} [Monad m] [LawfulMonad m] (read : Reader m) (base : String)

theorem lowerItems_append (pointer : Pointer) (front back : List Value) (index : Nat) :
    lowerItems read base pointer index (front ++ back) = do
      let first ← lowerItems read base pointer index front
      let others ← lowerItems read base pointer (index + front.length) back
      return first ++ others := by
  induction front generalizing index with
  | nil => simp [lowerItems]
  | cons item front ih =>
      simp [lowerItems, ih, Nat.add_assoc, Nat.add_comm 1]

theorem lowerEntries_append (pointer : Pointer) (front back : List (String × Value)) :
    lowerEntries read base pointer (front ++ back) = do
      let first ← lowerEntries read base pointer front
      let others ← lowerEntries read base pointer back
      return first ++ others := by
  induction front with
  | nil => simp [lowerEntries]
  | cons entry front ih => simp [lowerEntries, ih]

omit [LawfulMonad m] in
/-- The dictionary of a stream stands under the key of streams. -/
theorem lowerStreamEntries_append (pointer : Pointer) {front : List (String × Value)}
    (absent : streamKey ∉ Ordered.keys front) (back : List (String × Value)) :
    lowerStreamEntries read base pointer (front ++ back) =
      lowerStreamEntries read base pointer back := by
  induction front with
  | nil => rfl
  | cons entry front ih =>
      rcases entry with ⟨key, value⟩
      rw [Ordered.keys, List.map_cons, List.mem_cons, not_or] at absent
      rw [List.cons_append, ← ih absent.2]
      have other : ¬ key = streamKey := Ne.symm absent.1
      cases value with
      | object dictionary => rw [lowerStreamEntries, if_neg other]
      | _ =>
          rw [lowerStreamEntries, if_neg other]
          intro dictionary same
          cases same

end

/-! ## Payloads -/

section

variable {σ : Type} {read : Reader (StateM σ)} {base : String}

/-- Next to the dictionary of a lowered stream there are only the bytes or a path. -/
theorem of_gives_lowerPayload {pointer : Pointer} {entries : List (String × Value)}
    {state after : σ} {bytes : List UInt8}
    (gives : Gives (lowerPayload read base pointer entries) state bytes after) :
    Ordered.swapErase fileKey (Ordered.swapErase dataKey entries) = [] ∧
      ∀ value, Ordered.get? fileKey (Ordered.swapErase dataKey entries) = some value →
        ∃ name, value = .string name := by
  unfold lowerPayload at gives
  extract_lets data others file rest follow at gives
  have empty {bytes result : List UInt8} {state : σ}
      (gives : Gives (follow bytes) state result after) : rest = [] := by
    dsimp only [follow] at gives
    generalize rest = left at gives ⊢
    cases left with
    | nil => rfl
    | cons entry left => cases gives
  change rest = [] ∧ ∀ value, file = some value → _
  clear_value follow data file
  split at gives
  · rcases gives_bind_iff.mp gives with ⟨bytes, middle, _, follows⟩
    exact ⟨empty follows, nofun⟩
  · cases gives
  · rcases gives_bind_iff.mp gives with ⟨outcome, middle, _, follows⟩
    cases outcome with
    | error failure => cases follows
    | ok bytes =>
        rcases gives_bind_iff.mp follows with ⟨bytes, middle, _, follows⟩
        refine ⟨empty follows, fun value found => ?_⟩
        cases found
        exact ⟨_, rfl⟩
  · cases gives
  · rcases gives_bind_iff.mp gives with ⟨bytes, middle, _, follows⟩
    exact ⟨empty follows, nofun⟩
  · cases gives

end

/-! ## From a place to a place -/

/-- A place next to the dictionary of a lowered stream lies in its payload. -/
theorem not_gives_payload {σ : Type} {read : Reader (StateM σ)} {base : String}
    {front back : List (String × Value)} {key : String} {inner : NumberPlace} {number : Number}
    (distinct : (Ordered.keys (front ++ (key, inner.fill number) :: back)).Nodup)
    (noStream : key ≠ streamKey) (noData : key ≠ dataKey) {pointer : Pointer} {state after : σ}
    {bytes : List UInt8} :
    ¬ Gives
      (lowerPayload read base pointer
        (Ordered.swapErase streamKey (front ++ (key, inner.fill number) :: back)))
      state bytes after := by
  intro gives
  rcases of_gives_lowerPayload gives with ⟨nothingLeft, path⟩
  have withoutStream := Ordered.nodup_keys_swapErase streamKey distinct
  have withoutData := Ordered.nodup_keys_swapErase dataKey withoutStream
  have member :
      (key, inner.fill number) ∈
        Ordered.swapErase dataKey
          (Ordered.swapErase streamKey (front ++ (key, inner.fill number) :: back)) := by
    rw [Ordered.mem_swapErase_iff withoutStream, Ordered.mem_swapErase_iff distinct]
    exact ⟨⟨List.mem_append_right _ List.mem_cons_self, noStream⟩, noData⟩
  by_cases file : key = fileKey
  · subst file
    rcases path _ ((Ordered.get?_eq_some_iff withoutData).mpr member) with ⟨name, text⟩
    cases inner <;> cases text
  · have left := (Ordered.mem_swapErase_iff withoutData).mpr ⟨member, file⟩
    rw [nothingLeft] at left
    cases left

section

variable {σ : Type} {read : Reader (StateM σ)} {base : String} {pointer : Pointer}
  {front back : List (String × Value)} {inner : NumberPlace}

/-- An object with a place in the dictionary of its stream. -/
theorem uniform_stream
    (distinct : ∀ number, (Ordered.keys (front ++ (streamKey, inner.fill number) :: back)).Nodup)
    (dictionary : Uniform (EntriesSlot numberLiteral) fun number =>
      lowerStreamEntries read base pointer ((streamKey, inner.fill number) :: back)) :
    Uniform (Slot numberLiteral) fun number =>
      lowerValue read base pointer (.object (front ++ (streamKey, inner.fill number) :: back)) := by
  have apart := distinct (.int 0)
  rw [Ordered.keys, List.map_append, List.map_cons, List.nodup_append, List.nodup_cons] at apart
  have absent : streamKey ∉ Ordered.keys front :=
    fun member => apart.2.2 _ member _ List.mem_cons_self rfl
  have absent' : streamKey ∉ Ordered.keys back := apart.2.1.1
  have present (number : Number) :
      Ordered.contains streamKey (front ++ (streamKey, inner.fill number) :: back) = true := by
    rw [Ordered.contains_iff]
    simp [Ordered.keys]
  have same (number : Number) :
      Ordered.swapErase streamKey (front ++ (streamKey, inner.fill number) :: back) =
        Ordered.swapErase streamKey (front ++ (streamKey, inner.fill (.int 0)) :: back) := by
    rw [Ordered.swapErase_append absent absent', Ordered.swapErase_append absent absent']
  have whole :
      Uniform (Slot numberLiteral) fun number => do
        let nodes ← lowerStreamEntries read base pointer ((streamKey, inner.fill number) :: back)
        let payload ← lowerPayload read base pointer
          (Ordered.swapErase streamKey (front ++ (streamKey, inner.fill (.int 0)) :: back))
        return .stream nodes payload :=
    dictionary.before fun nodes payload slot => slot.stream payload
  refine whole.of_eq fun number => ?_
  rw [lowerValue, if_pos (present number), lowerStreamEntries_append read base pointer absent,
    same number]

/-- An object with a place under one of its keys, whether it is a dictionary or a stream. -/
theorem uniform_object {key : String}
    (distinct : ∀ number, (Ordered.keys (front ++ (key, inner.fill number) :: back)).Nodup)
    (outside : key = dataKey → streamKey ∉ Ordered.keys front ∧ streamKey ∉ Ordered.keys back)
    (entries : Uniform (EntriesSlot numberLiteral) fun number =>
      lowerEntries read base pointer (front ++ (key, inner.fill number) :: back))
    (dictionary : Uniform (EntriesSlot numberLiteral) fun number =>
      lowerStreamEntries read base pointer ((streamKey, inner.fill number) :: back)) :
    Uniform (Slot numberLiteral) fun number =>
      lowerValue read base pointer (.object (front ++ (key, inner.fill number) :: back)) := by
  by_cases own : key = streamKey
  · subst own
    exact uniform_stream distinct dictionary
  · have present_iff (number : Number) :
        Ordered.contains streamKey (front ++ (key, inner.fill number) :: back) = true ↔
          streamKey ∈ Ordered.keys front ∨ streamKey ∈ Ordered.keys back := by
      rw [Ordered.contains_iff]
      simp [Ordered.keys, Ne.symm own]
    by_cases present : streamKey ∈ Ordered.keys front ∨ streamKey ∈ Ordered.keys back
    · -- next to the dictionary of a stream there is no other place
      have noData : key ≠ dataKey := fun data =>
        present.elim (outside data).1 (outside data).2
      refine .of_not_gives fun number state result after gives => ?_
      rw [lowerValue, if_pos ((present_iff number).mpr present)] at gives
      rcases gives_bind_iff.mp gives with ⟨nodes, middle, _, gives⟩
      rcases gives_map_iff.mp gives with ⟨payload, gives, _⟩
      exact not_gives_payload (distinct number) own noData gives
    · have whole :
          Uniform (Slot numberLiteral) fun number => do
            let nodes ← lowerEntries read base pointer (front ++ (key, inner.fill number) :: back)
            return .dictionary nodes :=
        entries.map fun nodes slot => slot.dictionary
      refine whole.of_eq fun number => ?_
      rw [lowerValue, if_neg (mt (present_iff number).mp present)]

end

section

variable {σ : Type} {read : Reader (StateM σ)} {base : String}

mutual

/-- A value with a number at a place outside payloads. -/
theorem uniform_value (pointer : Pointer) :
    ∀ place : NumberPlace, place.OutsidePayload → (∀ number, (place.fill number).KeysDistinct) →
      Uniform (Slot numberLiteral) fun number =>
        lowerValue read base pointer (place.fill number)
  | .here, _, _ => by
      refine (Uniform.pure slot_lowerNumber).of_eq fun number => ?_
      rw [NumberPlace.fill, lowerValue]
  | .item front inner back, outside, distinct => by
      rw [NumberPlace.OutsidePayload] at outside
      have distinctInner (number : Number) : (inner.fill number).KeysDistinct := by
        have distinct := distinct number
        rw [NumberPlace.fill, Value.KeysDistinct, Value.itemsKeysDistinct_iff] at distinct
        exact distinct _ (List.mem_append_right _ List.mem_cons_self)
      have inside :=
        uniform_value (pointer ++ [Numeric.decimalDigits front.length]) inner outside distinctInner
      have whole :
          Uniform (Slot numberLiteral) fun number => do
            let first ← lowerItems read base pointer 0 front
            let node ←
              lowerValue read base (pointer ++ [Numeric.decimalDigits front.length])
                (inner.fill number)
            let others ← lowerItems read base pointer (front.length + 1) back
            return .array (first ++ node :: others) :=
        .behind fun first => inside.before fun nodes others slot => slot.array first others
      refine whole.of_eq fun number => ?_
      simp [NumberPlace.fill, lowerValue, lowerItems, lowerItems_append]
  | .entry front key inner back, outside, distinct => by
      rw [NumberPlace.OutsidePayload] at outside
      have distinctInner (number : Number) := NumberPlace.keysDistinct_of_entry (distinct number)
      simp only [NumberPlace.fill, Value.KeysDistinct] at distinct ⊢
      exact
        uniform_object (fun number => (distinct number).1) outside.1
          (uniform_entries pointer front key back inner outside.2 distinctInner)
          (uniform_dictionary pointer back inner outside.2 distinctInner)

/-- Entries with a number at a place outside payloads. -/
theorem uniform_entries (pointer : Pointer) (front : List (String × Value)) (key : String)
    (back : List (String × Value)) :
    ∀ place : NumberPlace, place.OutsidePayload → (∀ number, (place.fill number).KeysDistinct) →
      Uniform (EntriesSlot numberLiteral) fun number =>
        lowerEntries read base pointer (front ++ (key, place.fill number) :: back)
  | place, outside, distinct => by
      have inside := uniform_value (pointer ++ [key]) place outside distinct
      have whole :
          Uniform (EntriesSlot numberLiteral) fun number => do
            let first ← lowerEntries read base pointer front
            let node ← lowerValue read base (pointer ++ [key]) (place.fill number)
            let others ← lowerEntries read base pointer back
            return first ++ (key, node) :: others :=
        .behind fun first => inside.before fun nodes others slot => slot.entries first key others
      refine whole.of_eq fun number => ?_
      simp [lowerEntries, lowerEntries_append]

/-- The dictionary of a stream with a number at a place outside payloads. -/
theorem uniform_dictionary (pointer : Pointer) (back : List (String × Value)) :
    ∀ place : NumberPlace, place.OutsidePayload → (∀ number, (place.fill number).KeysDistinct) →
      Uniform (EntriesSlot numberLiteral) fun number =>
        lowerStreamEntries read base pointer ((streamKey, place.fill number) :: back)
  | .here, _, _ => by
      refine .of_not_gives fun number state result after gives => ?_
      rw [NumberPlace.fill, lowerStreamEntries, if_pos rfl] at gives
      · cases gives
      · exact nofun
  | .item front inner after, _, _ => by
      refine .of_not_gives fun number state result after gives => ?_
      rw [NumberPlace.fill, lowerStreamEntries, if_pos rfl] at gives
      · cases gives
      · exact nofun
  | .entry front key inner back', outside, distinct => by
      rw [NumberPlace.OutsidePayload] at outside
      have inside :=
        uniform_entries (pointer ++ [streamKey]) front key back' inner outside.2
          fun number => NumberPlace.keysDistinct_of_entry (distinct number)
      refine inside.of_eq fun number => ?_
      rw [NumberPlace.fill, lowerStreamEntries, if_pos rfl]

end

end

end FontCompiler.Manifest
