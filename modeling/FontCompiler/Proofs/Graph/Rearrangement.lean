import FontCompiler.Proofs.Graph.Equivalence
import Mathlib.Logic.Relation

/-!
# Equivalence as rearrangement

A graph is rearranged by steps: the entries of one dictionary or stream are put
in another order, one NaN is replaced by another, or a zero by that of the other
sign, at any depth.  Nodes are equivalent if and only if steps lead from one to
the other.

No step leaves the equivalence class of a node, and since equivalence is
transitive no row of steps does.  Conversely the steps below the entries of a
dictionary can be made one entry after the other, and the order comes last.
-/

namespace FontCompiler.Graph.Node

open Numeric Relation

/-! ## Steps -/

/-- One step of a rearrangement, at a node or somewhere below it. -/
inductive Step : Node → Node → Prop
  | dictionaryOrder {left right : Dictionary} (order : left.Perm right) :
      Step (.dictionary left) (.dictionary right)
  | streamOrder {left right : Dictionary} (order : left.Perm right) (payload : List UInt8) :
      Step (.stream left payload) (.stream right payload)
  | nan {left right : Binary32} (own : left.IsNan) (other : right.IsNan) :
      Step (.float left) (.float right)
  | zero {left right : Binary32} (own : left.IsZero) (other : right.IsZero) :
      Step (.float left) (.float right)
  | dictionaryEntry (front back : Dictionary) (key : String) {value other : Node}
      (below : Step value other) :
      Step (.dictionary (front ++ (key, value) :: back))
        (.dictionary (front ++ (key, other) :: back))
  | arrayItem (front back : List Node) {item other : Node} (below : Step item other) :
      Step (.array (front ++ item :: back)) (.array (front ++ other :: back))
  | streamEntry (front back : Dictionary) (payload : List UInt8) (key : String)
      {value other : Node} (below : Step value other) :
      Step (.stream (front ++ (key, value) :: back) payload)
        (.stream (front ++ (key, other) :: back) payload)

/-- Steps lead from one node to another. -/
abbrev Rearranged : Node → Node → Prop :=
  ReflTransGen Step

/-! ## Entries side by side -/

/-- Two entries have the same key, and values that are related. -/
def EntryAlike (related : Node → Node → Prop) (left right : String × Node) : Prop :=
  left.1 = right.1 ∧ related left.2 right.2

variable {related : Node → Node → Prop}

/-- Dictionaries are alike if and only if their entries are in a suitable order. -/
theorem entriesAlike_iff_exists_order {left right : Dictionary}
    (distinct : (Ordered.keys left).Nodup) :
    EntriesAlike related left right ↔
      ∃ middle, List.Forall₂ (EntryAlike related) left middle ∧ middle.Perm right := by
  constructor
  · rintro ⟨keys, values⟩
    have sameKeys :
        List.Forall₂ (fun key (entry : String × Node) => key = entry.1) (Ordered.keys right)
          right :=
      List.forall₂_map_left_iff.mpr (List.forall₂_same.mpr fun _ _ => rfl)
    rcases List.perm_comp_forall₂ keys sameKeys with ⟨middle, pairs, order⟩
    refine ⟨middle, ?_, order⟩
    refine forall₂_imp_of_mem (List.forall₂_map_left_iff.mp pairs) ?_
    rintro ⟨key, value⟩ own ⟨key, other⟩ own' rfl
    exact ⟨rfl, values _ _ _ own (order.mem_iff.mp own')⟩
  · rintro ⟨middle, pairs, order⟩
    have keys : Ordered.keys left = Ordered.keys middle := by
      rw [Ordered.keys, Ordered.keys, ← List.forall₂_eq_eq_eq, List.forall₂_map_left_iff,
        List.forall₂_map_right_iff]
      exact pairs.imp fun _ _ alike => alike.1
    refine ⟨keys ▸ order.map Prod.fst, fun key value other own own' => ?_⟩
    rcases exists_of_mem_right pairs (order.mem_iff.mpr own') with ⟨entry, member, same, holds⟩
    cases List.inj_on_of_nodup_map distinct own member same.symm
    exact holds

/-! ## Steps keep nodes equivalent -/

/-- Under the keys of one dictionary only one value is another. -/
theorem entriesAlike_of_change {front back : Dictionary} {key : String} {value other : Node}
    (distinct : (Ordered.keys (front ++ (key, value) :: back)).Nodup)
    (own : ∀ node ∈ (front ++ (key, value) :: back).map Prod.snd, related node node)
    (changed : related value other) :
    EntriesAlike related (front ++ (key, value) :: back) (front ++ (key, other) :: back) := by
  have alike_self {entries : Dictionary}
      (within : ∀ entry ∈ entries, entry ∈ front ++ (key, value) :: back) :
      List.Forall₂ (EntryAlike related) entries entries :=
    List.forall₂_same.mpr fun entry member =>
      ⟨rfl, own _ (List.mem_map_of_mem (within entry member))⟩
  refine (entriesAlike_iff_exists_order distinct).mpr ⟨_, List.rel_append ?_ (.cons ?_ ?_), .rfl⟩
  · exact alike_self fun entry member => List.mem_append_left _ member
  · exact ⟨rfl, changed⟩
  · exact alike_self fun entry member => List.mem_append_right _ (List.mem_cons_of_mem _ member)

theorem entriesAlike_of_perm {left right : Dictionary} (distinct : (Ordered.keys left).Nodup)
    (own : ∀ value ∈ left.map Prod.snd, related value value) (order : left.Perm right) :
    EntriesAlike related left right :=
  (entriesAlike_iff_exists_order distinct).mpr
    ⟨left, List.forall₂_same.mpr fun _ member => ⟨rfl, own _ (List.mem_map_of_mem member)⟩, order⟩

variable {left middle right : Node}

theorem Step.equivalent (step : Step left right) (distinct : left.KeysDistinct) :
    left.equivalent right = true := by
  -- what lies beside the way to the step is kept
  have self {node child : Node} (distinct : node.KeysDistinct) (member : child ∈ node.children) :
      child.equivalent child = true :=
    equivalent_refl (distinct.child member)
  induction step with
  | dictionaryOrder order =>
      refine (equivalent_iff_alike distinct.own).mpr (.dictionary ?_)
      exact entriesAlike_of_perm distinct.own (fun _ => self distinct) order
  | streamOrder order payload =>
      refine (equivalent_iff_alike distinct.own).mpr (.stream ?_ payload)
      exact entriesAlike_of_perm distinct.own (fun _ => self distinct) order
  | nan own other => exact (equivalent_iff_alike distinct.own).mpr (.nan own other)
  | zero own other => exact (equivalent_iff_alike distinct.own).mpr (.zero own other)
  | dictionaryEntry front back key below ih =>
      refine (equivalent_iff_alike distinct.own).mpr (.dictionary ?_)
      refine entriesAlike_of_change distinct.own (fun _ => self distinct) (ih ?_)
      exact distinct.child (mem_values (List.mem_append_right _ List.mem_cons_self))
  | arrayItem front back below ih =>
      refine (equivalent_iff_alike distinct.own).mpr (.array ?_)
      refine List.rel_append (List.forall₂_same.mpr ?_) (.cons (ih ?_) (List.forall₂_same.mpr ?_))
      · exact fun item member => self distinct (List.mem_append_left _ member)
      · exact distinct.child (List.mem_append_right _ List.mem_cons_self)
      · exact fun item member =>
          self distinct (List.mem_append_right _ (List.mem_cons_of_mem _ member))
  | streamEntry front back payload key below ih =>
      refine (equivalent_iff_alike distinct.own).mpr (.stream ?_ payload)
      refine entriesAlike_of_change distinct.own (fun _ => self distinct) (ih ?_)
      exact distinct.child (mem_values (List.mem_append_right _ List.mem_cons_self))

theorem Rearranged.equivalent (rearranged : Rearranged left right) (distinct : left.KeysDistinct) :
    left.equivalent right = true := by
  induction rearranged with
  | refl => exact equivalent_refl distinct
  | tail _ step ih =>
      exact equivalent_trans distinct ih (step.equivalent (distinct.of_equivalent ih))

/-! ## Equivalent nodes are rearranged -/

/-- Where one part of a row can be rearranged, all can be, from the first to the last. -/
theorem rearranged_row {α : Type} {holds : α → α → Prop} {wrap : List α → Node}
    (one : ∀ front back item other, holds item other →
      Rearranged (wrap (front ++ item :: back)) (wrap (front ++ other :: back)))
    {items others : List α} (pairs : List.Forall₂ holds items others) (front : List α) :
    Rearranged (wrap (front ++ items)) (wrap (front ++ others)) := by
  induction pairs generalizing front with
  | nil => exact .refl
  | @cons item other items others pair _ ih =>
      refine (one front items item other pair).trans ?_
      have behind := ih (front ++ [other])
      rwa [List.append_assoc, List.append_assoc] at behind

/-- The values under the keys are rearranged first, and the keys at last. -/
theorem rearranged_entries {wrap : Dictionary → Node}
    (reorder : ∀ {entries others : Dictionary}, entries.Perm others →
      Step (wrap entries) (wrap others))
    (change : ∀ front back key {value other}, Step value other →
      Step (wrap (front ++ (key, value) :: back)) (wrap (front ++ (key, other) :: back)))
    {entries others : Dictionary} (distinct : (Ordered.keys entries).Nodup)
    (alike : EntriesAlike Rearranged entries others) :
    Rearranged (wrap entries) (wrap others) := by
  rcases (entriesAlike_iff_exists_order distinct).mp alike with ⟨middle, pairs, order⟩
  refine ReflTransGen.tail (rearranged_row ?_ pairs []) (reorder order)
  rintro front back ⟨key, value⟩ ⟨key, other⟩ ⟨rfl, below⟩
  exact
    below.lift (fun node => wrap (front ++ (key, node) :: back)) fun _ _ =>
      change front back key

theorem Alike.rearranged (alike : Alike Rearranged left right)
    (distinct : (Ordered.keys left.entries).Nodup) : Rearranged left right := by
  cases alike with
  | dictionary entries =>
      exact rearranged_entries .dictionaryOrder .dictionaryEntry distinct entries
  | array items =>
      refine rearranged_row (fun front back item other below => ?_) items []
      exact
        below.lift (fun node => Node.array (front ++ node :: back)) fun _ _ =>
          .arrayItem front back
  | stream entries payload =>
      refine @rearranged_entries (Node.stream · payload) ?_ ?_ _ _ distinct entries
      · exact fun order => .streamOrder order payload
      · exact fun front back key {_ _} => .streamEntry front back payload key
  | nan own other => exact .single (.nan own other)
  | zero own other => exact .single (.zero own other)
  | float | integer | name | string | boolean | null => exact .refl

theorem rearranged_of_equivalent (distinct : left.KeysDistinct)
    (same : left.equivalent right = true) : Rearranged left right := by
  induction distinct generalizing right with
  | intro own _ ih =>
      have alike := (equivalent_iff_alike own).mp same
      exact (alike.imp fun child below _ _ => ih child below).rearranged own

theorem equivalent_iff_rearranged (distinct : left.KeysDistinct) :
    left.equivalent right = true ↔ Rearranged left right :=
  ⟨rearranged_of_equivalent distinct, fun rearranged => rearranged.equivalent distinct⟩

/-- Equivalence is reflexive, symmetric and transitive; it holds exactly between rearranged nodes,
and hence never between nodes of two kinds, with other keys, other payloads, other scalars or
items in another order. -/
theorem equivalence_is_rearrangement (distinct : left.KeysDistinct) :
    left.equivalent left = true ∧
      (left.equivalent middle = true → middle.equivalent left = true) ∧
      (left.equivalent middle = true → middle.equivalent right = true →
        left.equivalent right = true) ∧
      (left.equivalent middle = true ↔ Rearranged left middle) ∧
      (left.equivalent middle = true →
        Alike (fun value other => value.equivalent other = true) left middle) :=
  ⟨equivalent_refl distinct, equivalent_symm distinct, equivalent_trans distinct,
    equivalent_iff_rearranged distinct, (equivalent_iff_alike distinct.own).mp⟩

/-- A descriptor with a quiet NaN and a zero in an array, and a stream. -/
def descriptor : Node :=
  .dictionary
    [("Type", .name "FontDescriptor"), ("FontBBox", .array [.float ⟨0x7FC00000⟩, .float ⟨0⟩]),
      ("FontFile", .stream [("Length1", .integer 2), ("Filter", .null)] [0, 255])]

/-- The same with its keys in other orders, a signalling NaN and the other zero. -/
def reorderedDescriptor : Node :=
  .dictionary
    [("FontFile", .stream [("Filter", .null), ("Length1", .integer 2)] [0, 255]),
      ("Type", .name "FontDescriptor"),
      ("FontBBox", .array [.float ⟨0xFF800001⟩, .float ⟨0x80000000⟩])]

theorem equivalence_is_rearrangement_descriptor :
    descriptor.KeysDistinct ∧ descriptor.equivalent descriptor = true ∧
      Rearranged descriptor reorderedDescriptor ∧
      reorderedDescriptor.equivalent descriptor = true := by
  have box : (Node.array [.float ⟨0x7FC00000⟩, .float ⟨0⟩]).KeysDistinct :=
    .intro (by decide)
      (List.forall_mem_cons.mpr ⟨.scalar rfl, List.forall_mem_singleton.mpr (.scalar rfl)⟩)
  have file : (Node.stream [("Length1", .integer 2), ("Filter", .null)] [0, 255]).KeysDistinct :=
    .intro (by decide)
      (List.forall_mem_cons.mpr ⟨.scalar rfl, List.forall_mem_singleton.mpr (.scalar rfl)⟩)
  have distinct : descriptor.KeysDistinct :=
    .intro (by decide)
      (List.forall_mem_cons.mpr
        ⟨.scalar rfl, List.forall_mem_cons.mpr ⟨box, List.forall_mem_singleton.mpr file⟩⟩)
  have same : descriptor.equivalent reorderedDescriptor = true := by decide
  rcases @equivalence_is_rearrangement descriptor reorderedDescriptor descriptor distinct with
    ⟨own, symm, -, rearranged, -⟩
  exact ⟨distinct, own, rearranged.mp same, symm same⟩

/-- The order of the items of an array counts. -/
example : ¬ Rearranged (.array [.null, .boolean true]) (.array [.boolean true, .null]) := by
  have distinct : (Node.array [.null, .boolean true]).KeysDistinct :=
    .intro (by decide)
      (List.forall_mem_cons.mpr ⟨.scalar rfl, List.forall_mem_singleton.mpr (.scalar rfl)⟩)
  rw [← equivalent_iff_rearranged distinct]
  decide

end FontCompiler.Graph.Node
