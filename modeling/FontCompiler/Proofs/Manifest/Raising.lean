import FontCompiler.Manifest.Font
import FontCompiler.Proofs.Ordered

/-!
# Raising graphs to JSON notation

Lowering turns the JSON notation of a graph into nodes.  Raising goes the other
way: it writes a node in the notation, a stream with its payload in bytes.

A graph is read back from what it is raised to, unless the notation has another
reading of it.  A text with a slash in front would come back as a name, and a
dictionary with the key of streams would be taken for a stream; singles are
left out, since the notation holds doubles.  The root and the dictionary of a
stream stand where no stream can stand, so they may have any keys.
-/

namespace FontCompiler.Manifest

open FontCompiler.Graph Json

/-! ## The notation of a node -/

/-- A byte as an item of a payload. -/
def raiseByte (byte : UInt8) : Value :=
  .number (.int byte.toNat)

mutual

/-- The notation of a node; a single has none. -/
def raise : Node → Value
  | .dictionary entries => .object (raiseEntries entries)
  | .array items => .array (raiseItems items)
  | .stream entries payload =>
    .object [(streamKey, .object (raiseEntries entries)),
      (dataKey, .array (payload.map raiseByte))]
  | .float _ => .null
  | .integer value => .number (.int value.toInt)
  | .name text => .string (String.ofList ('/' :: text.toList))
  | .string text => .string text
  | .boolean value => .bool value
  | .null => .null

/-- The notations of the items of an array. -/
def raiseItems : List Node → List Value
  | [] => []
  | item :: items => raise item :: raiseItems items

/-- The entries of a dictionary with their notations, in order. -/
def raiseEntries : Dictionary → List (String × Value)
  | [] => []
  | (key, value) :: entries => (key, raise value) :: raiseEntries entries

end

/-! ## Graphs with a notation of their own -/

mutual

/-- Nothing in a node has another reading in the notation. -/
def Notated : Node → Prop
  | .dictionary entries => streamKey ∉ Ordered.keys entries ∧ EntriesNotated entries
  | .array items => ItemsNotated items
  | .stream entries _ => EntriesNotated entries
  | .float _ => False
  | .integer _ => True
  | .name _ => True
  | .string text => text.toList.head? ≠ some '/'
  | .boolean _ => True
  | .null => True

/-- Nothing in the items of an array has another reading. -/
def ItemsNotated : List Node → Prop
  | [] => True
  | item :: items => Notated item ∧ ItemsNotated items

/-- Nothing under the keys of a dictionary has another reading, whatever the keys are. -/
def EntriesNotated : Dictionary → Prop
  | [] => True
  | (_, value) :: entries => Notated value ∧ EntriesNotated entries

end

theorem keys_raiseEntries (entries : Dictionary) :
    Ordered.keys (raiseEntries entries) = Ordered.keys entries := by
  induction entries with
  | nil => rw [raiseEntries]; rfl
  | cons entry entries ih =>
      rcases entry with ⟨key, value⟩
      rw [raiseEntries]
      exact congrArg (key :: ·) ih

/-! ## Scalars -/

theorem lowerNumber_raise (value : Int64) :
    lowerNumber (.int value.toInt) = .integer value := by
  have lower := Int64.minValue_le_toInt value
  have upper := Int64.toInt_le value
  rw [lowerNumber, if_pos ⟨lower, upper⟩, Int64.ofInt_toInt]

theorem lowerText_name (text : String) :
    lowerText (String.ofList ('/' :: text.toList)) = .name text := by
  rw [lowerText, String.toList_ofList]
  exact congrArg Node.name String.ofList_toList

theorem lowerText_string {text : String}
    (plain : text.toList.head? ≠ some '/') :
    lowerText text = .string text := by
  unfold lowerText
  split
  · rename_i name shape
    rw [shape] at plain
    exact absurd rfl plain
  · rfl

theorem byte?_raiseByte (byte : UInt8) :
    byte? (raiseByte byte) = some byte := by
  have small : byte.toNat < 256 := byte.toNat_lt
  have bounds : (0 : Int) ≤ byte.toNat ∧ (byte.toNat : Int) < 256 := by omega
  rw [raiseByte, byte?, if_pos bounds, Int.toNat_natCast,
    UInt8.ofNat_toNat]

theorem lowerBytes_raise (pointer : Pointer) (payload : List UInt8) :
    ∀ index : Nat,
      lowerBytes pointer index (payload.map raiseByte) = .ok payload := by
  induction payload with
  | nil =>
      intro index
      rfl
  | cons byte payload ih =>
      intro index
      rw [List.map_cons, lowerBytes, byte?_raiseByte]
      simp only [ih (index + 1)]
      rfl

/-! ## Nodes -/

section

variable {m : Type → Type} [Monad m] [LawfulMonad m]
  (read : Reader m) (base : String)

/-- What is left of a raised stream without its dictionary gives back the payload. -/
theorem lowerPayload_raise (pointer : Pointer) (dictionary : Value)
    (payload : List UInt8) :
    lowerPayload read base pointer
        (Ordered.swapErase streamKey
          [(streamKey, dictionary), (dataKey, .array (payload.map raiseByte))]) =
      pure payload := by
  have erased :
      Ordered.swapErase streamKey
          [(streamKey, dictionary), (dataKey, .array (payload.map raiseByte))] =
        [(dataKey, .array (payload.map raiseByte))] := rfl
  have data :
      Ordered.get? dataKey [(dataKey, Value.array (payload.map raiseByte))] =
        some (.array (payload.map raiseByte)) := rfl
  have left :
      Ordered.swapErase dataKey
          [(dataKey, Value.array (payload.map raiseByte))] = [] := rfl
  have noFile : Ordered.get? fileKey ([] : List (String × Value)) = none := rfl
  have nothing :
      Ordered.swapErase fileKey ([] : List (String × Value)) = [] := rfl
  rw [erased]
  unfold lowerPayload
  simp only [data, left, noFile, nothing, lowerBytes_raise,
    lowerPayload.liftExcept, pure_bind]

mutual

theorem lowerValue_raise (pointer : Pointer) :
    ∀ node : Node, Notated node →
      lowerValue read base pointer (raise node) = pure node
  | .dictionary entries, notated => by
      rw [Notated] at notated
      rcases notated with ⟨noStream, inside⟩
      have absent :
          Ordered.contains streamKey (raiseEntries entries) = false := by
        rw [Ordered.contains_eq_false_iff, keys_raiseEntries]
        exact noStream
      rw [raise, lowerValue, absent, if_neg Bool.false_ne_true,
        lowerEntries_raise pointer entries inside, pure_bind]
  | .array items, notated => by
      rw [Notated] at notated
      rw [raise, lowerValue, lowerItems_raise pointer 0 items notated,
        pure_bind]
  | .stream entries payload, notated => by
      rw [Notated] at notated
      have present :
          Ordered.contains streamKey
              [(streamKey, Value.object (raiseEntries entries)),
                (dataKey, .array (payload.map raiseByte))] = true := rfl
      rw [raise, lowerValue, if_pos present, lowerStreamEntries,
        if_pos rfl, lowerEntries_raise _ entries notated, pure_bind,
        lowerPayload_raise, pure_bind]
  | .float value, notated => by
      rw [Notated] at notated
      exact notated.elim
  | .integer value, _ => by
      rw [raise, lowerValue, lowerNumber_raise]
  | .name text, _ => by
      rw [raise, lowerValue, lowerText_name]
  | .string text, notated => by
      rw [Notated] at notated
      rw [raise, lowerValue, lowerText_string notated]
  | .boolean value, _ => by
      rw [raise, lowerValue]
  | .null, _ => by
      rw [raise, lowerValue]

theorem lowerItems_raise (pointer : Pointer) (index : Nat) :
    ∀ items : List Node, ItemsNotated items →
      lowerItems read base pointer index (raiseItems items) = pure items
  | [], _ => by
      rw [raiseItems, lowerItems]
  | item :: items, notated => by
      rw [ItemsNotated] at notated
      rcases notated with ⟨own, others⟩
      rw [raiseItems, lowerItems, lowerValue_raise _ item own, pure_bind,
        lowerItems_raise pointer (index + 1) items others, pure_bind]

theorem lowerEntries_raise (pointer : Pointer) :
    ∀ entries : Dictionary, EntriesNotated entries →
      lowerEntries read base pointer (raiseEntries entries) = pure entries
  | [], _ => by
      rw [raiseEntries, lowerEntries]
  | (key, value) :: entries, notated => by
      rw [EntriesNotated] at notated
      rcases notated with ⟨own, others⟩
      rw [raiseEntries, lowerEntries, lowerValue_raise _ value own, pure_bind,
        lowerEntries_raise pointer entries others, pure_bind]

end

end

/-- Graphs with the same notation are the same. -/
theorem raiseEntries_injective {first second : Dictionary}
    (notated : EntriesNotated first) (notatedOther : EntriesNotated second)
    (same : raiseEntries first = raiseEntries second) :
    first = second := by
  -- lowering without files gives back either of them
  let noFiles : Reader Id := fun _ => .error .notFound
  have lowered := lowerEntries_raise noFiles "" [] first notated
  rw [same, lowerEntries_raise noFiles "" [] second notatedOther] at lowered
  exact (Except.ok.inj lowered).symm

/--
Lowering inverts the notation.  Let nothing in a graph have another reading:
no singles, no texts with a slash in front, and no dictionaries with the key of
streams, except for the root and the dictionaries of streams.  Then lowering
what the graph is raised to gives back the graph, with every key, item and byte
in its place, and so does loading a manifest that holds it.  Hence two such
graphs with one notation are the same graph.
-/
theorem lowerEntries_raiseEntries (root : Dictionary)
    (notated : EntriesNotated root) :
    (∀ {m : Type → Type} [Monad m] [LawfulMonad m] (read : Reader m)
        (base : String),
      (∀ pointer : Pointer,
        (lowerEntries read base pointer (raiseEntries root)).run =
          pure (.ok root)) ∧
        ∀ document : Document,
          Code.isIdentifier document.label = true →
          document.graph = raiseEntries root →
          ManifestFont.ofDocument read base document =
            pure (.ok ⟨document.label, document.encodingWidth, document.cmap,
              document.substitutions, document.ranges, root, []⟩)) ∧
      ∀ other : Dictionary, EntriesNotated other →
        raiseEntries other = raiseEntries root → other = root := by
  refine ⟨?_, fun other notatedOther same =>
    raiseEntries_injective notatedOther notated same⟩
  intro m _ _ read base
  have lowered (pointer : Pointer) :
      (lowerEntries read base pointer (raiseEntries root)).run =
        pure (.ok root) := by
    rw [lowerEntries_raise read base pointer root notated]
    rfl
  refine ⟨lowered, ?_⟩
  intro document identifier graph
  unfold ManifestFont.ofDocument
  rw [graph, lowered, identifier]
  simp

/-- A root, and the dictionary of a stream, with the keys of streams among their own. -/
def crossedGraph : Dictionary :=
  [("$stream", .integer (-5)),
    ("Kids", .array [.stream [("$data", .null), ("$stream", .name "F")] [0, 255],
      .dictionary [("$data", .string "no/slash"), ("$file", .boolean true)]])]

theorem lowerEntries_raiseEntries_crossedGraph :
    EntriesNotated crossedGraph ∧
      (lowerEntries (m := Id) (fun _ => .error .notFound) "" ["graph"]
          (raiseEntries crossedGraph)).run =
        pure (.ok crossedGraph) ∧
      ManifestFont.ofDocument (m := Id) (fun _ => .error .notFound) ""
          ⟨"Bold", 2, [], [], [], raiseEntries crossedGraph⟩ =
        pure (.ok ⟨"Bold", 2, [], [], [], crossedGraph, []⟩) := by
  have notated : EntriesNotated crossedGraph := by
    simp [crossedGraph, EntriesNotated, Notated, ItemsNotated, Ordered.keys,
      streamKey]
  have lowered :=
    (lowerEntries_raiseEntries crossedGraph notated).1
      (m := Id) (fun _ => .error .notFound) ""
  exact
    ⟨notated, lowered.1 ["graph"],
      lowered.2 ⟨"Bold", 2, [], [], [], raiseEntries crossedGraph⟩ (by decide)
        rfl⟩

end FontCompiler.Manifest
