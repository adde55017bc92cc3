import FontCompiler.Factory
import FontCompiler.Proofs.Except

/-!
# Graphs without a factory

Some nodes cannot stand in a factory: truth values and nulls, and dictionaries
and streams whose property does not turn into an identifier.  This module lists
the nodes of a graph in pre-order, each with the property that it hangs off,
and shows that the walk stops at the first of them that offends.

A property is handed down through arrays of any nesting, and every key of a
dictionary takes its place.  What the walk has written so far does not matter,
so `Meets` relates the listed nodes to the outcome alone, and it composes along
the list.
-/

namespace FontCompiler.Factory

open FontCompiler.Graph

/-! ## Nodes in pre-order -/

/-- A node and the property that it hangs off: the nearest key above it. -/
abbrev Placed := String × Node

mutual

/-- The nodes at or below a node, each in front of those below it. -/
def preorder (property : String) : Node → List Placed
  | .dictionary entries => (property, .dictionary entries) :: entriesPreorder entries
  | .stream entries payload => (property, .stream entries payload) :: entriesPreorder entries
  | .array items => (property, .array items) :: itemsPreorder property items
  | .float value => [(property, .float value)]
  | .integer value => [(property, .integer value)]
  | .name text => [(property, .name text)]
  | .string text => [(property, .string text)]
  | .boolean value => [(property, .boolean value)]
  | .null => [(property, .null)]

/-- The nodes at or below the items of an array, which all hang off its property. -/
def itemsPreorder (property : String) : List Node → List Placed
  | [] => []
  | item :: items => preorder property item ++ itemsPreorder property items

/-- The nodes at or below the values of a dictionary, which hang off their keys. -/
def entriesPreorder : List (String × Node) → List Placed
  | [] => []
  | (key, value) :: entries => preorder key value ++ entriesPreorder entries

end

theorem itemsPreorder_append (property : String) (front back : List Node) :
    itemsPreorder property (front ++ back) =
      itemsPreorder property front ++ itemsPreorder property back := by
  induction front with
  | nil => rfl
  | cons item front ih =>
      rw [List.cons_append, itemsPreorder, itemsPreorder, ih, List.append_assoc]

theorem entriesPreorder_append (front back : List (String × Node)) :
    entriesPreorder (front ++ back) = entriesPreorder front ++ entriesPreorder back := by
  induction front with
  | nil => rfl
  | cons entry front ih =>
      rw [List.cons_append, entriesPreorder, entriesPreorder, ih, List.append_assoc]

/-- Why a node cannot stand in a factory, whatever is below it. -/
def offence? (property : String) : Node → Option Refusal
  | .boolean value => some (.unsupportedNode (Node.boolean value).kind property)
  | .null => some (.unsupportedNode Node.null.kind property)
  | .dictionary _ => unnamed?
  | .stream _ _ => unnamed?
  | _ => none
where
  /-- The refusal of a property that does not turn into an identifier. -/
  unnamed? : Option Refusal :=
    if Code.isIdentifier (Text.lowerFirst property) then none
    else some (.invalidBinding property)

/-- The first reason that stands against one of the nodes. -/
def firstOffence? (nodes : List Placed) : Option Refusal :=
  nodes.findSome? fun placed => offence? placed.1 placed.2

theorem firstOffence?_append (nodes others : List Placed) :
    firstOffence? (nodes ++ others) = (firstOffence? nodes).or (firstOffence? others) :=
  List.findSome?_append

theorem firstOffence?_cons (placed : Placed) (nodes : List Placed) :
    firstOffence? (placed :: nodes) =
      (offence? placed.1 placed.2).or (firstOffence? nodes) := by
  rw [firstOffence?, List.findSome?_cons]
  cases offence? placed.1 placed.2 <;> rfl

/-! ## What the walk meets -/

/-- A piece of the walk passes all nodes that it meets, or is refused for the first that offends. -/
inductive Meets {α : Type} (nodes : List Placed) : Except Stop α → Prop
  | passes {result : α} (fit : firstOffence? nodes = none) : Meets nodes (.ok result)
  | stops {stop : Stop} (offends : firstOffence? nodes = some stop.refusal) :
      Meets nodes (.error stop)

namespace Meets

variable {α β : Type} {nodes others : List Placed}

theorem nothing (result : α) : Meets [] (.ok result) :=
  .passes rfl

theorem bind {first : Except Stop α} {next : α → Except Stop β} (meets : Meets nodes first)
    (behind : ∀ result, Meets others (next result)) :
    Meets (nodes ++ others) (first >>= next) := by
  cases meets with
  | @passes result fit =>
      have joined : firstOffence? (nodes ++ others) = firstOffence? others := by
        rw [firstOffence?, List.findSome?_append, ← firstOffence?, fit, Option.none_or]
        rfl
      have following := behind result
      rw [ok_bind]
      generalize next result = outcome at following ⊢
      cases following with
      | passes fitOthers => exact .passes (joined.trans fitOthers)
      | stops offends => exact .stops (joined.trans offends)
  | @stops stop offends =>
      have joined : firstOffence? (nodes ++ others) = some stop.refusal := by
        rw [firstOffence?, List.findSome?_append, ← firstOffence?, offends, Option.some_or]
      exact .stops joined

/-- A node in front of the others does not matter if nothing stands against it. -/
theorem behind {outcome : Except Stop α} (meets : Meets nodes outcome) {placed : Placed}
    (fits : offence? placed.1 placed.2 = none) : Meets (placed :: nodes) outcome := by
  have same : firstOffence? (placed :: nodes) = firstOffence? nodes := by
    rw [firstOffence?, List.findSome?_cons, fits]
    rfl
  cases meets with
  | passes fit => exact .passes (same.trans fit)
  | stops offends => exact .stops (same.trans offends)

theorem then_ok {first : Except Stop α} (meets : Meets nodes first) (next : α → β) :
    Meets nodes (first >>= fun result => .ok (next result)) := by
  have whole := meets.bind fun result => nothing (next result)
  rwa [List.append_nil] at whole

end Meets

variable {label : String}

/-- A frame is opened for a node that is refused only for its property. -/
theorem meets_beginFrame {property : String} {node : Node}
    (named : offence? property node = offence?.unnamed? property) (state : State) :
    Meets [(property, node)] (beginFrame label property state) := by
  have single : firstOffence? [(property, node)] = offence?.unnamed? property := by
    rw [firstOffence?, List.findSome?_singleton, named]
  unfold offence?.unnamed? at single
  unfold beginFrame
  cases identifier : Code.isIdentifier (Text.lowerFirst property) with
  | true =>
      rw [if_pos identifier] at single
      simp only [identifier]
      exact .passes single
  | false =>
      rw [if_neg (by simp [identifier])] at single
      simp only [identifier]
      exact .stops single

mutual

/-- The walk of a node meets the nodes at or below it. -/
theorem meets_writeNode (property : String) (nesting : Nat) :
    ∀ (node : Node) (state : State),
      Meets (preorder property node) (writeNode label property nesting node state)
  | .dictionary entries, state => by
      rw [writeNode, preorder, ← List.singleton_append]
      refine (meets_beginFrame rfl state).bind ?_
      rintro ⟨binding, opened⟩
      exact (meets_writeEntries entries _).then_ok _
  | .stream entries payload, state => by
      rw [writeNode, preorder, ← List.singleton_append]
      refine (meets_beginFrame rfl state).bind ?_
      rintro ⟨binding, opened⟩
      exact (meets_writeEntries entries _).then_ok _
  | .array items, state => by
      rw [writeNode, preorder]
      exact ((meets_writeItems property nesting items _).then_ok _).behind rfl
  | .float value, state => .passes rfl
  | .integer value, state => .passes rfl
  | .name text, state => .passes rfl
  | .string text, state => .passes rfl
  | .boolean value, state => .stops rfl
  | .null, state => .stops rfl

theorem meets_writeItems (property : String) (nesting : Nat) :
    ∀ (items : List Node) (state : State),
      Meets (itemsPreorder property items) (writeItems label property nesting items state)
  | [], state => .nothing state
  | item :: items, state => by
      rw [writeItems, itemsPreorder]
      exact (meets_writeNode property (nesting + 1) item _).bind fun _ =>
        meets_writeItems property nesting items _

theorem meets_writeEntries :
    ∀ (entries : List (String × Node)) (state : State),
      Meets (entriesPreorder entries) (writeEntries label entries state)
  | [], state => .nothing state
  | (key, value) :: entries, state => by
      rw [writeEntries, entriesPreorder]
      exact (meets_writeNode key 0 value _).bind fun _ => meets_writeEntries entries _

end

/-! ## The whole graph -/

theorem meets_compile (root : Dictionary) (label : String) :
    Meets (preorder rootProperty (.dictionary root)) (compile root label) := by
  rw [compile]
  exact (meets_writeNode rootProperty 0 (.dictionary root) _).then_ok _

theorem fit_of_compile {root : Dictionary} {label : String} {product : Product}
    (compiled : compile root label = .ok product) :
    firstOffence? (preorder rootProperty (.dictionary root)) = none := by
  have meets := meets_compile root label
  rw [compiled] at meets
  cases meets with
  | passes fit => exact fit

theorem exists_product_of_fit {root : Dictionary}
    (fit : firstOffence? (preorder rootProperty (.dictionary root)) = none) (label : String) :
    ∃ product, compile root label = .ok product := by
  have meets := meets_compile root label
  generalize compile root label = outcome at meets ⊢
  cases meets with
  | passes _ => exact ⟨_, rfl⟩
  | stops offends =>
      rw [fit] at offends
      cases offends

/--
A graph has no factory if and only if something stands against one of its
nodes, at whatever depth, and it is refused for the first of these nodes in
pre-order: a truth value or a null with its kind and property, a dictionary or
a stream with the property that does not turn into an identifier.  A graph
without such nodes has a factory.
-/
theorem compile_refuses_first_offence (root : Dictionary) (label : String) :
    ((∃ stop, compile root label = .error stop) ↔
        ∃ placed ∈ preorder rootProperty (.dictionary root),
          offence? placed.1 placed.2 ≠ none) ∧
      ((∃ product, compile root label = .ok product) ↔
        ∀ placed ∈ preorder rootProperty (.dictionary root),
          offence? placed.1 placed.2 = none) ∧
      ∀ stop, compile root label = .error stop →
        ∃ before property node after,
          preorder rootProperty (.dictionary root) =
              before ++ (property, node) :: after ∧
            (∀ placed ∈ before, offence? placed.1 placed.2 = none) ∧
            offence? property node = some stop.refusal := by
  have meets := meets_compile root label
  generalize compile root label = outcome at meets ⊢
  cases meets with
  | passes fit =>
      have all := List.findSome?_eq_none_iff.mp fit
      refine ⟨iff_of_false nofun ?_, iff_of_true ⟨_, rfl⟩ all, nofun⟩
      rintro ⟨placed, member, offends⟩
      exact offends (all placed member)
  | @stops stop offends =>
      rcases List.findSome?_eq_some_iff.mp offends with
        ⟨before, ⟨property, node⟩, after, split, own, fit⟩
      have member : (property, node) ∈ preorder rootProperty (.dictionary root) := by
        rw [split]
        exact List.mem_append_right before List.mem_cons_self
      have offending : offence? property node ≠ none := by
        rw [own]
        exact Option.some_ne_none stop.refusal
      refine ⟨iff_of_true ⟨stop, rfl⟩ ⟨_, member, offending⟩, iff_of_false nofun ?_, ?_⟩
      · exact fun all => offending (all _ member)
      · intro other same
        cases same
        exact ⟨before, property, node, after, split, fit, own⟩

/-- A graph with a truth value deep inside an array, in front of a property that is no name. -/
def flaggedGraph : Dictionary :=
  [("Kids",
      .array [.integer 1, .array [.stream [("W", .array [.boolean true])] [], .null]]),
    ("1st", .dictionary [])]

theorem compile_refuses_first_offence_flaggedGraph :
    ∃ stop before property node after,
      compile flaggedGraph "Bold" = .error stop ∧
        preorder rootProperty (.dictionary flaggedGraph) =
          before ++ (property, node) :: after ∧
        (∀ placed ∈ before, offence? placed.1 placed.2 = none) ∧
        offence? property node = some (.unsupportedNode .boolean "W") := by
  obtain ⟨stop, stopped, refusal⟩ :
      ∃ stop, compile flaggedGraph "Bold" = .error stop ∧
        stop.refusal = .unsupportedNode .boolean "W" := ⟨_, rfl, rfl⟩
  rcases (compile_refuses_first_offence flaggedGraph "Bold").2.2 stop stopped with
    ⟨before, property, node, after, split, fit, offends⟩
  rw [refusal] at offends
  exact ⟨stop, before, property, node, after, stopped, split, fit, offends⟩

end FontCompiler.Factory
