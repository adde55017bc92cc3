import FontCompiler.Manifest.Font
import FontCompiler.Proofs.Manifest.Grammar
import FontCompiler.Proofs.Manifest.Mirroring
import FontCompiler.Proofs.Manifest.Pointers

/-!
# Where a manifest is wrong

A manifest whose graph breaches the notation is refused with a pointer.  Read as
text and resolved from the root of the manifest, it leads to the culprit of the
first breach in document order.
-/

namespace FontCompiler.Manifest

open Font FontCompiler.Graph Json

/-! ## From the manifest to its graph -/

theorem eq_object_of_decodeGraph {location : Location} {value : Value}
    {graph : List (String × Value)} (distinct : value.KeysDistinct)
    (decoded : decodeGraph location (.ofValue value) = .ok graph) : value = .object graph := by
  cases value with
  | object entries =>
      rw [Json.Draft.ofValue, decodeGraph, completeObject_ofEntries distinct, orBreak_ok] at decoded
      cases decoded
      rfl
  | _ => cases decoded

/-- The graph of a manifest without repeated keys is its field of this name. -/
theorem get?_graph_of_ofValue {fields : List (String × Value)} {document : Document}
    (distinct : (Value.object fields).KeysDistinct)
    (decoded : Document.ofValue (.object fields) = .ok document) :
    Ordered.get? "graph" fields = some (.object document.graph) := by
  rw [Value.KeysDistinct, Value.entriesKeysDistinct_iff] at distinct
  rw [Document.ofValue, Json.Draft.ofValue, decodeDocument] at decoded
  rcases exists_of_bind_ok decoded with ⟨parts, read, decoded⟩
  rcases exists_of_bind_ok decoded with ⟨label, -, decoded⟩
  rcases exists_of_bind_ok decoded with ⟨cmap, -, decoded⟩
  rcases exists_of_bind_ok decoded with ⟨graph, required, finished⟩
  cases finished
  rcases (decodesInto_graph .value).get_of_decodeFields fields read with
    ⟨part, place, result, member, readPart, got⟩ | ⟨-, unknown⟩
  · rw [got] at required
    cases required
    cases eq_object_of_decodeGraph (distinct.2 _ member) readPart
    exact (Ordered.get?_eq_some_iff distinct.1).mpr member
  · rw [unknown] at required
    cases required

/-! ## From a fault to the culprit -/

section

variable {σ : Type} {read : Reader (StateM σ)} {state : σ} {contents : Contents}
  (shows : Shows read contents state) {base : String} {pointer : Pointer} {violation : Violation}

include shows

theorem exists_breach_of_ofDocument {document : Document}
    (distinct : (Value.object document.graph).KeysDistinct)
    (failed : ((ManifestFont.ofDocument read base document).run state).1 =
      .error (.graph pointer violation)) :
    ∃ breach others, entryBreaches contents base document.graph = breach :: others ∧
      pointer = "graph" :: breach.pointer ∧ violation.breached = breach.breached := by
  rw [Value.KeysDistinct] at distinct
  have lowers :
      Lowers contents base (lowerEntries read base ["graph"] document.graph) state ["graph"]
        (entryBreaches contents base document.graph)
        (EntriesMirror contents base document.graph) :=
    lowers_entries shows ["graph"] distinct.2
  rw [ManifestFont.ofDocument] at failed
  split at failed
  · cases failed
  · rw [StateT.run_bind] at failed
    generalize entryBreaches contents base document.graph = breaches at lowers
    cases lowers with
    | lowered ran mirror =>
        rw [ran] at failed
        cases failed
    | @refused _ breach others fault ran reports =>
        rw [ran] at failed
        cases reports with
        | violation violation same =>
            cases failed
            exact ⟨breach, others, rfl, rfl, same⟩
        | unreadable => cases failed

/--
Where a manifest is refused because of its graph, the text of the pointer leads
from the root of the manifest to the culprit of the first breach in document
order: the object of a stream without the form of one, a payload that is no
array, or an item of a payload that is no byte.  An unreadable file is a breach
too, so there is none in front of it.
-/
theorem ofValue_points_at_first_culprit {fields : List (String × Value)}
    (distinct : (Value.object fields).KeysDistinct)
    (failed : ((ManifestFont.ofValue read base (.object fields)).run state).1 =
      .error (.graph pointer violation)) :
    ∃ graph breach others,
      Ordered.get? "graph" fields = some (.object graph) ∧
        entryBreaches contents base graph = breach :: others ∧
        (∀ other, other ∈ entryBreaches contents base graph ↔ Breaks contents base graph other) ∧
        pointer = "graph" :: breach.pointer ∧ violation.breached = breach.breached ∧
        breach.breached ≠ .file ∧
        (Pointer.ofText? (pointerText pointer)).bind (resolve? · (.object fields)) =
          some breach.culprit := by
  rw [ManifestFont.ofValue] at failed
  split at failed
  · cases failed
  · rename_i document decoded
    have held := get?_graph_of_ofValue distinct decoded
    have distinctGraph : (Value.object document.graph).KeysDistinct := by
      rw [Value.KeysDistinct, Value.entriesKeysDistinct_iff] at distinct
      exact distinct.2 _ (Ordered.mem_of_get? held)
    rcases exists_breach_of_ofDocument shows distinctGraph failed with
      ⟨breach, others, first, rfl, same⟩
    have breaks : Breaks contents base document.graph breach :=
      (mem_entryBreaches_iff _ breach).mp (first ▸ List.mem_cons_self)
    refine
      ⟨document.graph, breach, others, held, first, mem_entryBreaches_iff _, rfl, same,
        same ▸ violation.breached_ne_file, ?_⟩
    rw [ofText?_pointerText, Option.bind_some, resolve?_of_child? (child?_entry held)]
    exact breaks.resolve? distinctGraph

end

/-- A manifest with a number that is no byte below keys that have to be escaped, and an object that
is no stream behind it. -/
def escapedKeysManifest : List (String × Value) :=
  [("label", .string "Escaped"), ("cmap", .object []),
    ("graph",
      .object
        [("m~1/n",
            .object
              [("",
                .array
                  [.object [("$stream", .object [])],
                    .object
                      [("$data", .array [.number (.int 7), .number (.int 300)]),
                        ("$stream", .object [("~0", .null)]), ("more", .null)]])]),
          ("~", .object [("$stream", .null)])])]

/-- The pointer to this number. -/
def escapedKeysPointer : Pointer :=
  ["graph", "m~1/n", "", "1", "$data", "1"]

theorem ofValue_points_at_first_culprit_escapedKeysManifest :
    pointerText escapedKeysPointer = "/graph/m~01~1n//1/$data/1" ∧
      (Pointer.ofText? (pointerText escapedKeysPointer)).bind
          (resolve? · (.object escapedKeysManifest)) =
        some (.number (.int 300)) := by
  let store := Files.Store.empty
  have shows : Shows Files.Store.system.readBytes store.readBytes store := fun _ => rfl
  have distinct : (Value.object escapedKeysManifest).KeysDistinct := by
    simp [Value.KeysDistinct, Value.EntriesKeysDistinct, Value.ItemsKeysDistinct,
      escapedKeysManifest, Ordered.keys]
  have failed :
      ((ManifestFont.ofValue Files.Store.system.readBytes ""
          (.object escapedKeysManifest)).run store).1 =
        .error (.graph escapedKeysPointer (.notByte (.number (.int 300)))) := by
    rfl
  rcases ofValue_points_at_first_culprit shows distinct failed with
    ⟨graph, breach, others, held, first, -, -, -, -, resolved⟩
  have culprit : (entryBreaches store.readBytes "" graph).head?.map Breach.culprit =
      some (.number (.int 300)) := by
    cases held
    rfl
  rw [first] at culprit
  exact ⟨by decide +kernel, resolved.trans culprit⟩

end FontCompiler.Manifest
