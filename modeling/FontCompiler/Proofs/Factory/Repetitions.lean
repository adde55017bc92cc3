import FontCompiler.Proofs.Factory.PostOrder
import FontCompiler.Proofs.Factory.Refusals
import Mathlib.Data.List.Induction

/-!
# Names that are declared more than once

Two objects of a graph may turn out to have the same name.  The name is taken
when the frame of an object is opened, so in pre-order, and a name that is taken
already is only reported.  The declarations are written when frames are ended,
so in post-order.

The invariant is `Recorded`, which relates a state of the walk to the row of
objects that were met so far.  Opening a frame puts one object at the end of the
row, and everything else leaves the names and the warnings alone.
-/

namespace FontCompiler.Factory

open FontCompiler.Graph

/-! ## Objects in pre-order -/

/-- Whether a node has a declaration of its own. -/
def isObject (placed : Placed) : Bool :=
  placed.2.kind == .dictionary || placed.2.kind == .stream

/-- The name that an object is bound to. -/
def bindingOf (placed : Placed) : String :=
  Text.lowerFirst placed.1

/-- The dictionaries and streams among some nodes, in order. -/
def objects (nodes : List Placed) : List Placed :=
  nodes.filter isObject

@[simp]
theorem objects_append (nodes others : List Placed) :
    objects (nodes ++ others) = objects nodes ++ objects others :=
  List.filter_append nodes others

/-- The objects of a row that have the name of an earlier one. -/
def repetitions (row : List Placed) : List Placed :=
  (row.zipIdx.filter fun indexed =>
    bindingOf indexed.1 ∈ (row.take indexed.2).map bindingOf).map Prod.fst

theorem repetitions_concat (row : List Placed) (placed : Placed) :
    repetitions (row ++ [placed]) =
      repetitions row ++ if bindingOf placed ∈ row.map bindingOf then [placed] else [] := by
  have before :
      (row.zipIdx.filter fun indexed =>
          bindingOf indexed.1 ∈ ((row ++ [placed]).take indexed.2).map bindingOf) =
        row.zipIdx.filter fun indexed =>
          bindingOf indexed.1 ∈ (row.take indexed.2).map bindingOf := by
    apply List.filter_congr
    intro indexed member
    have inside : indexed.2 < row.length := List.snd_lt_of_mem_zipIdx member
    rw [List.take_append_of_le_length (Nat.le_of_lt inside)]
  rw [repetitions, List.zipIdx_append, List.filter_append, before, List.map_append, ← repetitions]
  congr 1
  by_cases taken : bindingOf placed ∈ row.map bindingOf <;> simp [taken]

theorem repetitions_eq_nil_iff {row : List Placed} :
    repetitions row = [] ↔ (row.map bindingOf).Nodup := by
  induction row using List.reverseRecOn with
  | nil => exact iff_of_true rfl List.nodup_nil
  | append_singleton row placed ih =>
      rw [repetitions_concat, List.append_eq_nil_iff, ih, List.map_append, List.map_singleton,
        (List.perm_append_singleton _ _).nodup_iff, List.nodup_cons, and_comm]
      simp

/-! ## Warnings of the walk -/

/-- The warnings among some records. -/
def warnings (records : List Log.Record) : List Log.Record :=
  records.filter (·.level == .warn)

/-- The warning of a name that is taken. -/
def repetitionRecord (label binding : String) : Log.Record :=
  ⟨.warn, .factory, "binding `" ++ binding ++ "` is declared more than once in Create" ++ label⟩

/-- A walk that has met a row of objects knows their names, has warned of each that has the name of
an earlier one, and counts the others. -/
structure Recorded (label : String) (row : List Placed) (state : State) : Prop where
  declared : ∀ name, name ∈ state.declared ↔ name ∈ row.map bindingOf
  warned : warnings state.records =
    (repetitions row).map fun placed => repetitionRecord label (bindingOf placed)
  count : row.length = state.declared.length + (repetitions row).length

variable {label property : String} {row : List Placed} {before after : State}

/-- A new name is taken, and one that is taken already is warned of. -/
theorem beginFrame_names {binding : String}
    (begun : beginFrame label property before = .ok (binding, after)) :
    after.declared =
        (if Text.lowerFirst property ∈ before.declared then before.declared
          else Text.lowerFirst property :: before.declared) ∧
      warnings after.records =
        warnings before.records ++
          if Text.lowerFirst property ∈ before.declared then
            [repetitionRecord label (Text.lowerFirst property)]
          else [] := by
  unfold beginFrame at begun
  simp only at begun
  split at begun
  · cases begun
  · obtain ⟨rfl, rfl⟩ := Prod.mk.inj (Except.ok.inj begun)
    by_cases taken : Text.lowerFirst property ∈ before.declared <;>
      simp [taken, State.report, warnings, repetitionRecord]

namespace Recorded

/-- Only names and warnings matter. -/
theorem of_eq (recorded : Recorded label row before) (declared : after.declared = before.declared)
    (warned : warnings after.records = warnings before.records) :
    Recorded label row after where
  declared := by
    rw [declared]
    exact recorded.declared
  warned := warned.trans recorded.warned
  count := by
    rw [declared]
    exact recorded.count

theorem push (recorded : Recorded label row before) (text : String) :
    Recorded label row (before.push text) :=
  recorded.of_eq rfl rfl

theorem line (recorded : Recorded label row before) (indent : Nat) (text : String) :
    Recorded label row (before.line indent text) :=
  recorded.of_eq rfl rfl

theorem report (recorded : Recorded label row before) {level : Log.Level} (quiet : level ≠ .warn)
    (message : String) : Recorded label row (before.report level message) :=
  recorded.of_eq rfl (by simp [warnings, State.report, List.filter_append, quiet])

theorem closeDeclaration (recorded : Recorded label row before) (binding : String) :
    Recorded label row (Factory.closeDeclaration binding before) := by
  refine Recorded.push (Recorded.report ?_ (by decide) _) _
  exact recorded.of_eq rfl rfl

theorem writePayload (recorded : Recorded label row before) (property binding : String)
    (payload : List UInt8) :
    Recorded label row (Factory.writePayload label property binding payload before) := by
  rw [Factory.writePayload]
  split
  · exact recorded.push _
  · have reported := recorded.report (by decide : Log.Level.debug ≠ .warn)
      ("spilling " ++ Numeric.decimalDigits payload.length ++ " byte payload of `" ++ binding ++
        "` to " ++ sidecarName label property)
    exact reported.of_eq rfl rfl

/-- Opening a frame puts an object at the end of the row. -/
theorem beginFrame (recorded : Recorded label row before) {binding : String}
    (begun : Factory.beginFrame label property before = .ok (binding, after)) (node : Node) :
    Recorded label (row ++ [(property, node)]) after := by
  rcases beginFrame_names begun with ⟨declared, warned⟩
  have known_iff :
      Text.lowerFirst property ∈ before.declared ↔
        bindingOf (property, node) ∈ row.map bindingOf :=
    recorded.declared _
  by_cases known : bindingOf (property, node) ∈ row.map bindingOf
  · rw [if_pos (known_iff.mpr known)] at declared warned
    constructor
    · intro name
      rw [declared, recorded.declared, List.map_append, List.mem_append, List.map_singleton,
        List.mem_singleton, or_iff_left_of_imp fun same => same ▸ known]
    · rw [warned, recorded.warned, repetitions_concat, if_pos known, List.map_append]
      rfl
    · rw [declared, repetitions_concat, if_pos known, List.length_append, List.length_append,
        recorded.count, Nat.add_assoc]
  · rw [if_neg (mt known_iff.mp known)] at declared warned
    constructor
    · intro name
      rw [declared, List.mem_cons, recorded.declared, List.map_append, List.mem_append,
        List.map_singleton, List.mem_singleton, or_comm]
      rfl
    · rw [warned, recorded.warned, repetitions_concat, if_neg known]
      simp
    · rw [declared, repetitions_concat, if_neg known, List.append_nil, List.length_append,
        List.length_singleton, List.length_cons, recorded.count, Nat.add_right_comm]

end Recorded

mutual

/-- The walk of a node meets the objects at or below it in pre-order. -/
theorem recorded_writeNode (property : String) (nesting : Nat) :
    ∀ (node : Node) (row : List Placed) (before after : State),
      Recorded label row before → writeNode label property nesting node before = .ok after →
      Recorded label (row ++ objects (preorder property node)) after
  | .dictionary entries, row, before, after, recorded, written => by
      rw [writeNode] at written
      rcases exists_of_bind_ok written with ⟨⟨binding, opened⟩, begun, written⟩
      rcases exists_of_bind_ok written with ⟨body, bodyWritten, finished⟩
      cases finished
      have begins := recorded.beginFrame begun (.dictionary entries)
      have inside :=
        recorded_writeEntries entries _ _ _ ((begins.line _ _).line _ _) bodyWritten
      rw [List.append_assoc] at inside
      exact ((inside.line _ _).push _).closeDeclaration binding
  | .stream entries payload, row, before, after, recorded, written => by
      rw [writeNode] at written
      rcases exists_of_bind_ok written with ⟨⟨binding, opened⟩, begun, written⟩
      rcases exists_of_bind_ok written with ⟨body, bodyWritten, finished⟩
      cases finished
      have begins := recorded.beginFrame begun (.stream entries payload)
      have inside :=
        recorded_writeEntries entries _ _ _ ((begins.line _ _).line _ _) bodyWritten
      rw [List.append_assoc] at inside
      have ended := (inside.push (Code.blanks Code.statementIndent)).push "\x7d, "
      have stored := ended.writePayload property binding payload
      exact (stored.push _).closeDeclaration binding
  | .array items, row, before, after, recorded, written => by
      rw [writeNode] at written
      rcases exists_of_bind_ok written with ⟨body, bodyWritten, finished⟩
      cases finished
      have inside := recorded_writeItems property nesting items _ _ _ (recorded.push _) bodyWritten
      apply Recorded.push
      split
      · exact inside.push _
      · exact inside
  | .float value, row, before, after, recorded, written => by
      cases written
      simpa [preorder, objects, isObject, Node.kind] using recorded.push _
  | .integer value, row, before, after, recorded, written => by
      cases written
      simpa [preorder, objects, isObject, Node.kind] using recorded.push _
  | .name text, row, before, after, recorded, written => by
      cases written
      simpa [preorder, objects, isObject, Node.kind] using recorded.push _
  | .string text, row, before, after, recorded, written => by
      cases written
      simpa [preorder, objects, isObject, Node.kind] using recorded.push _
  | .boolean value, row, before, after, recorded, written => by cases written
  | .null, row, before, after, recorded, written => by cases written

theorem recorded_writeItems (property : String) (nesting : Nat) :
    ∀ (items : List Node) (row : List Placed) (before after : State),
      Recorded label row before → writeItems label property nesting items before = .ok after →
      Recorded label (row ++ objects (itemsPreorder property items)) after
  | [], row, before, after, recorded, written => by
      cases written
      rwa [itemsPreorder, objects, List.filter_nil, List.append_nil]
  | item :: items, row, before, after, recorded, written => by
      rw [writeItems] at written
      rcases exists_of_bind_ok written with ⟨middle, itemWritten, othersWritten⟩
      have indented :
          Recorded label row
            (if (nesting == 0) = true then before.push (Code.blanks itemIndent) else before) := by
        split
        · exact recorded.push _
        · exact recorded
      have first := recorded_writeNode property (nesting + 1) item _ _ _ indented itemWritten
      have others := recorded_writeItems property nesting items _ _ _ (first.push _) othersWritten
      rwa [itemsPreorder, objects_append, ← List.append_assoc]

theorem recorded_writeEntries :
    ∀ (entries : List (String × Node)) (row : List Placed) (before after : State),
      Recorded label row before → writeEntries label entries before = .ok after →
      Recorded label (row ++ objects (entriesPreorder entries)) after
  | [], row, before, after, recorded, written => by
      cases written
      rwa [entriesPreorder, objects, List.filter_nil, List.append_nil]
  | (key, value) :: entries, row, before, after, recorded, written => by
      rw [writeEntries] at written
      rcases exists_of_bind_ok written with ⟨middle, valueWritten, othersWritten⟩
      have first :=
        recorded_writeNode key 0 value _ _ _ ((recorded.push _).push _) valueWritten
      have others := recorded_writeEntries entries _ _ _ (first.push _) othersWritten
      rwa [entriesPreorder, objects_append, ← List.append_assoc]

end

/-! ## Declarations and objects -/

mutual

/-- Every object has its declaration, only in another order. -/
theorem bindings_perm (property : String) :
    ∀ node : Node,
      ((declarations property node).map Declaration.binding).Perm
        ((objects (preorder property node)).map bindingOf)
  | .dictionary entries => by
      rw [declarations, List.map_append]
      exact (List.perm_append_singleton _ _).trans ((entriesBindings_perm entries).cons _)
  | .stream entries payload => by
      rw [declarations, List.map_append]
      exact (List.perm_append_singleton _ _).trans ((entriesBindings_perm entries).cons _)
  | .array items => by
      rw [declarations]
      exact itemsBindings_perm property items
  | .float _ => .refl _
  | .integer _ => .refl _
  | .name _ => .refl _
  | .string _ => .refl _
  | .boolean _ => .refl _
  | .null => .refl _

theorem itemsBindings_perm (property : String) :
    ∀ items : List Node,
      ((itemsDeclarations property items).map Declaration.binding).Perm
        ((objects (itemsPreorder property items)).map bindingOf)
  | [] => .refl _
  | item :: items => by
      rw [itemsDeclarations, itemsPreorder, objects_append, List.map_append, List.map_append]
      exact (bindings_perm property item).append (itemsBindings_perm property items)

theorem entriesBindings_perm :
    ∀ entries : List (String × Node),
      ((entriesDeclarations entries).map Declaration.binding).Perm
        ((objects (entriesPreorder entries)).map bindingOf)
  | [] => .refl _
  | (key, value) :: entries => by
      rw [entriesDeclarations, entriesPreorder, objects_append, List.map_append, List.map_append]
      exact (bindings_perm key value).append (entriesBindings_perm entries)

end

/-! ## The whole factory -/

/-- The objects of a graph in pre-order, the root first. -/
def objectsOf (root : Dictionary) : List Placed :=
  objects (preorder rootProperty (.dictionary root))

/-- The record of a finished factory. -/
def finishedRecord (label : String) (names sidecars : Nat) : Log.Record :=
  ⟨.debug, .factory,
    "emitted factory for " ++ label ++ " (" ++ Numeric.decimalDigits names ++ " declarations, " ++
      Numeric.decimalDigits sidecars ++ " sidecars)"⟩

theorem exists_recorded_of_compile {root : Dictionary} {product : Product}
    (compiled : compile root label = .ok product) :
    ∃ final, Recorded label (objectsOf root) final ∧
      product.records =
        final.records ++
          [finishedRecord label final.declared.length product.sidecars.length] := by
  unfold compile at compiled
  rcases exists_of_bind_ok compiled with ⟨final, walked, finished⟩
  cases finished
  have initial : Recorded label [] (prologue label .initial) := by
    constructor
    · exact fun name => Iff.rfl
    · rfl
    · rfl
  exact ⟨final, recorded_writeNode rootProperty 0 _ _ _ _ initial walked, rfl⟩

/--
Repeated names are reported exactly.  The warnings of a finished factory are,
in pre-order, one for each object that has the name of an earlier object.  There
are none if and only if the declarations of the factory have different names,
and together with the names counted in the last record they are as many as the
declarations.
-/
theorem compile_reports_repetitions {root : Dictionary} {product : Product}
    (compiled : compile root label = .ok product) :
    let declared := declarations rootProperty (.dictionary root)
    warnings product.records =
        (repetitions (objectsOf root)).map
          (fun placed => repetitionRecord label (bindingOf placed)) ∧
      product.source = prologueText label ++ declarationsText label declared ++ epilogueText ∧
      (warnings product.records = [] ↔ (declared.map Declaration.binding).Nodup) ∧
      ∃ names,
        product.records.getLast? = some (finishedRecord label names product.sidecars.length) ∧
          declared.length = names + (warnings product.records).length := by
  intro declared
  rcases exists_recorded_of_compile compiled with ⟨final, recorded, records⟩
  have warned : warnings product.records = warnings final.records := by
    rw [records, warnings, List.filter_append]
    exact List.append_nil _
  have sameNames : (declared.map Declaration.binding).Perm ((objectsOf root).map bindingOf) :=
    bindings_perm rootProperty (.dictionary root)
  refine ⟨warned.trans recorded.warned, compile_source compiled, ?_, final.declared.length, ?_, ?_⟩
  · rw [warned, recorded.warned, List.map_eq_nil_iff, repetitions_eq_nil_iff]
    exact sameNames.nodup_iff.symm
  · rw [records, List.getLast?_concat]
  · have sameLength : declared.length = (objectsOf root).length := by
      simpa using sameNames.length_eq
    rw [sameLength, recorded.count, warned, recorded.warned, List.length_map]

/-- A graph in which a stream has the name of the root, and the items of an array share one. -/
def clashingGraph : Dictionary :=
  [("Kids", .array [.dictionary [("Font", .stream [] [])], .dictionary []]),
    ("kids", .stream [] [])]

theorem compile_reports_repetitions_clashingGraph :
    ∃ product,
      compile clashingGraph "Bold" = .ok product ∧
        warnings product.records =
          [repetitionRecord "Bold" "font", repetitionRecord "Bold" "kids",
            repetitionRecord "Bold" "kids"] ∧
        product.records.getLast? = some (finishedRecord "Bold" 2 product.sidecars.length) ∧
        (declarations rootProperty (.dictionary clashingGraph)).length = 2 + 3 := by
  have fit : firstOffence? (preorder rootProperty (.dictionary clashingGraph)) = none := by
    decide
  obtain ⟨product, compiled⟩ := exists_product_of_fit fit "Bold"
  rcases compile_reports_repetitions compiled with ⟨warned, -, -, names, last, count⟩
  have three :
      warnings product.records =
        [repetitionRecord "Bold" "font", repetitionRecord "Bold" "kids",
          repetitionRecord "Bold" "kids"] := warned
  have five : (declarations rootProperty (.dictionary clashingGraph)).length = 2 + 3 := rfl
  rw [three] at count
  have two : 2 = names := Nat.add_right_cancel (five.symm.trans count)
  rw [← two] at last
  exact ⟨product, compiled, three, last, five⟩

end FontCompiler.Factory
