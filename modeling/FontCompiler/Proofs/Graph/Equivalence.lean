import FontCompiler.Graph.Node
import FontCompiler.Proofs.Numeric.Equality
import FontCompiler.Proofs.Ordered
import Mathlib.Data.List.Nodup
import Mathlib.Data.List.Perm.Subperm

/-!
# Equivalence of nodes

Nodes are compared by looking the entries of one dictionary up in the other.  In
graphs without repeated keys this amounts to more than its definition shows:
equivalent nodes have the same kind, dictionaries the same keys, arrays their
items in the same order and streams the same payload.

`Alike` says this of one level of a graph, whatever the nodes below are compared
by.  It is reflexive, symmetric and transitive if the relation below is, and so
equivalence is an equivalence relation, by induction over the graph.
-/

namespace FontCompiler.Graph.Node

open Numeric

/-! ## Nodes without repeated keys -/

/-- The entries of a dictionary or of a stream; other nodes have none. -/
def entries : Node → Dictionary
  | .dictionary entries => entries
  | .stream entries _ => entries
  | _ => []

/-- The nodes right below a node. -/
def children : Node → List Node
  | .dictionary entries => entries.map Prod.snd
  | .stream entries _ => entries.map Prod.snd
  | .array items => items
  | _ => []

/-- No dictionary at or below a node repeats a key. -/
inductive KeysDistinct : Node → Prop
  | intro {node : Node} (own : (Ordered.keys node.entries).Nodup)
      (below : ∀ child ∈ node.children, KeysDistinct child) : KeysDistinct node

/-! ## One level -/

/-- Two dictionaries have the same keys, and under each of them values that are related. -/
structure EntriesAlike (related : Node → Node → Prop) (left right : Dictionary) : Prop where
  keys : (Ordered.keys left).Perm (Ordered.keys right)
  values : ∀ key value other, (key, value) ∈ left → (key, other) ∈ right → related value other

/-- Two nodes are of one kind and differ in nothing but the order of their keys, the patterns of
NaNs, the signs of zeros, and nodes below them, which are related. -/
inductive Alike (related : Node → Node → Prop) : Node → Node → Prop
  | dictionary {left right : Dictionary} (entries : EntriesAlike related left right) :
      Alike related (.dictionary left) (.dictionary right)
  | array {left right : List Node} (items : List.Forall₂ related left right) :
      Alike related (.array left) (.array right)
  | stream {left right : Dictionary} (entries : EntriesAlike related left right)
      (payload : List UInt8) : Alike related (.stream left payload) (.stream right payload)
  | float (value : Binary32) : Alike related (.float value) (.float value)
  | nan {left right : Binary32} (own : left.IsNan) (other : right.IsNan) :
      Alike related (.float left) (.float right)
  | zero {left right : Binary32} (own : left.IsZero) (other : right.IsZero) :
      Alike related (.float left) (.float right)
  | integer (value : Int64) : Alike related (.integer value) (.integer value)
  | name (text : String) : Alike related (.name text) (.name text)
  | string (text : String) : Alike related (.string text) (.string text)
  | boolean (value : Bool) : Alike related (.boolean value) (.boolean value)
  | null : Alike related .null .null

/-- The entries of one dictionary all have equivalent ones in another. -/
theorem entriesWithin_iff {left right : Dictionary} :
    entriesWithin left right = true ↔
      ∀ entry ∈ left, ∃ other,
        Ordered.get? entry.1 right = some other ∧ entry.2.equivalent other = true := by
  induction left with
  | nil => exact iff_of_true rfl nofun
  | cons entry left ih =>
      rcases entry with ⟨key, value⟩
      rw [entriesWithin, Bool.and_eq_true, ih, List.forall_mem_cons]
      refine and_congr_left fun _ => ?_
      cases Ordered.get? key right with
      | none => simp
      | some other => simp

theorem itemsEquivalent_iff {left right : List Node} :
    itemsEquivalent left right = true ↔
      List.Forall₂ (fun item other => item.equivalent other = true) left right := by
  induction left generalizing right with
  | nil => cases right <;> simp [itemsEquivalent]
  | cons item left ih =>
      cases right with
      | nil => simp [itemsEquivalent]
      | cons other right => rw [itemsEquivalent, Bool.and_eq_true, ih, List.forall₂_cons]

/-- Dictionaries of one size are alike if the entries of one have equivalent ones in the other. -/
theorem entriesAlike_iff {left right : Dictionary} (distinct : (Ordered.keys left).Nodup) :
    left.length = right.length ∧ entriesWithin left right = true ↔
      EntriesAlike (fun value other => value.equivalent other = true) left right := by
  rw [entriesWithin_iff]
  constructor
  · rintro ⟨size, within⟩
    have keys : (Ordered.keys left).Perm (Ordered.keys right) := by
      -- there is no room for a key that is only on the right
      refine (List.subperm_of_subset distinct ?_).perm_of_length_le ?_
      · intro key member
        rcases List.mem_map.mp member with ⟨entry, own, rfl⟩
        rcases within entry own with ⟨other, found, -⟩
        exact Ordered.mem_keys_of_get? found
      · rw [Ordered.keys, Ordered.keys, List.length_map, List.length_map, size]
    refine ⟨keys, fun key value other own own' => ?_⟩
    rcases within _ own with ⟨found, looked, equivalent⟩
    have present := (Ordered.get?_eq_some_iff (keys.nodup_iff.mp distinct)).mpr own'
    rw [present, Option.some.injEq] at looked
    rwa [looked]
  · rintro ⟨keys, values⟩
    refine ⟨by simpa [Ordered.keys] using keys.length_eq, fun entry own => ?_⟩
    have member : entry.1 ∈ Ordered.keys right :=
      keys.mem_iff.mp (List.mem_map_of_mem own)
    rcases List.mem_map.mp member with ⟨⟨key, other⟩, own', rfl⟩
    have present := (Ordered.get?_eq_some_iff (keys.nodup_iff.mp distinct)).mpr own'
    exact ⟨other, present, values _ _ _ own own'⟩

/-- Nodes are equivalent if and only if they are alike with equivalent nodes below them. -/
theorem equivalent_iff_alike {left right : Node} (distinct : (Ordered.keys left.entries).Nodup) :
    left.equivalent right = true ↔
      Alike (fun value other => value.equivalent other = true) left right := by
  constructor
  · intro equivalent
    unfold Node.equivalent at equivalent
    split at equivalent
    · rw [Bool.and_eq_true, beq_iff_eq] at equivalent
      exact .dictionary ((entriesAlike_iff distinct).mp equivalent)
    · exact .array (itemsEquivalent_iff.mp equivalent)
    · rw [Bool.and_eq_true, Bool.and_eq_true, beq_iff_eq, beq_iff_eq] at equivalent
      rcases equivalent with ⟨entries, rfl⟩
      exact .stream ((entriesAlike_iff distinct).mp entries) _
    · rcases Binary32.equivalent_iff.mp equivalent with rfl | ⟨nan, nan'⟩ | ⟨zero, zero'⟩
      · exact .float _
      · exact .nan nan nan'
      · exact .zero zero zero'
    · cases eq_of_beq equivalent
      exact .integer _
    · cases eq_of_beq equivalent
      exact .name _
    · cases eq_of_beq equivalent
      exact .string _
    · cases eq_of_beq equivalent
      exact .boolean _
    · exact .null
    · cases equivalent
  · intro alike
    unfold Node.equivalent
    cases alike with
    | dictionary entries =>
        rw [Bool.and_eq_true, beq_iff_eq]
        exact (entriesAlike_iff distinct).mpr entries
    | array items => exact itemsEquivalent_iff.mpr items
    | stream entries payload =>
        rw [Bool.and_eq_true, Bool.and_eq_true, beq_iff_eq]
        exact ⟨(entriesAlike_iff distinct).mpr entries, beq_self_eq_true payload⟩
    | float value => exact Binary32.equivalent_iff.mpr (.inl rfl)
    | nan own other => exact Binary32.equivalent_iff.mpr (.inr (.inl ⟨own, other⟩))
    | zero own other => exact Binary32.equivalent_iff.mpr (.inr (.inr ⟨own, other⟩))
    | integer value => exact beq_self_eq_true value
    | name text => exact beq_self_eq_true text
    | string text => exact beq_self_eq_true text
    | boolean value => exact beq_self_eq_true value
    | null => rfl

/-! ## Laws of one level -/

theorem forall₂_imp_of_mem {α β : Type} {holds holds' : α → β → Prop} {left : List α}
    {right : List β} (pairs : List.Forall₂ holds left right)
    (imp : ∀ item ∈ left, ∀ other ∈ right, holds item other → holds' item other) :
    List.Forall₂ holds' left right := by
  rw [List.forall₂_iff_zip] at pairs ⊢
  refine ⟨pairs.1, fun zipped => ?_⟩
  have members := List.of_mem_zip zipped
  exact imp _ members.1 _ members.2 (pairs.2 zipped)

theorem exists_of_mem_right {α β : Type} {holds : α → β → Prop} {left : List α} {right : List β}
    (pairs : List.Forall₂ holds left right) {other : β} (member : other ∈ right) :
    ∃ item ∈ left, holds item other := by
  induction pairs with
  | nil => cases member
  | cons pair _ ih =>
      rcases List.mem_cons.mp member with rfl | behind
      · exact ⟨_, List.mem_cons_self, pair⟩
      · rcases ih behind with ⟨item, own, holds⟩
        exact ⟨item, List.mem_cons_of_mem _ own, holds⟩

section

variable {related related' related'' : Node → Node → Prop}

theorem forall₂_trans_of_mem {left middle right : List Node}
    (first : List.Forall₂ related left middle) (second : List.Forall₂ related' middle right)
    (compose : ∀ item ∈ left, ∀ between ∈ middle, ∀ other ∈ right,
      related item between → related' between other → related'' item other) :
    List.Forall₂ related'' left right := by
  induction first generalizing right with
  | nil =>
      cases second
      exact .nil
  | cons pair pairs ih =>
      cases second with
      | cons pair' pairs' =>
          refine .cons ?_ (ih pairs' fun item own between inside other own' => ?_)
          · exact
              compose _ List.mem_cons_self _ List.mem_cons_self _ List.mem_cons_self pair pair'
          · exact
              compose _ (List.mem_cons_of_mem _ own) _ (List.mem_cons_of_mem _ inside) _
                (List.mem_cons_of_mem _ own')

theorem mem_values {key : String} {value : Node} {entries : Dictionary}
    (member : (key, value) ∈ entries) : value ∈ entries.map Prod.snd :=
  List.mem_map.mpr ⟨_, member, rfl⟩

theorem EntriesAlike.refl {entries : Dictionary} (distinct : (Ordered.keys entries).Nodup)
    (own : ∀ value ∈ entries.map Prod.snd, related value value) :
    EntriesAlike related entries entries where
  keys := .refl _
  values key value other member member' := by
    cases List.inj_on_of_nodup_map distinct member member' rfl
    exact own value (mem_values member)

theorem EntriesAlike.imp {left right : Dictionary} (alike : EntriesAlike related left right)
    (imp : ∀ value ∈ left.map Prod.snd, ∀ other ∈ right.map Prod.snd,
      related value other → related' value other) :
    EntriesAlike related' left right where
  keys := alike.keys
  values key value other member member' :=
    imp _ (mem_values member) _ (mem_values member') (alike.values key value other member member')

theorem EntriesAlike.flip {left right : Dictionary} (alike : EntriesAlike related left right) :
    EntriesAlike (fun other value => related value other) right left where
  keys := alike.keys.symm
  values key other value member' member := alike.values key value other member member'

theorem EntriesAlike.trans {left middle right : Dictionary}
    (first : EntriesAlike related left middle) (second : EntriesAlike related' middle right)
    (compose : ∀ value ∈ left.map Prod.snd, ∀ between ∈ middle.map Prod.snd,
      ∀ other ∈ right.map Prod.snd,
        related value between → related' between other → related'' value other) :
    EntriesAlike related'' left right where
  keys := first.keys.trans second.keys
  values key value other member member' := by
    have present : key ∈ Ordered.keys middle :=
      first.keys.mem_iff.mp (List.mem_map_of_mem member)
    rcases List.mem_map.mp present with ⟨⟨key, between⟩, inside, rfl⟩
    exact
      compose _ (mem_values member) _ (mem_values inside) _ (mem_values member')
        (first.values _ _ _ member inside) (second.values _ _ _ inside member')

variable {left middle right node : Node}

theorem Alike.refl (distinct : (Ordered.keys node.entries).Nodup)
    (own : ∀ child ∈ node.children, related child child) : Alike related node node := by
  cases node with
  | dictionary entries => exact .dictionary (.refl distinct own)
  | array items => exact .array (List.forall₂_same.mpr own)
  | stream entries payload => exact .stream (.refl distinct own) payload
  | float value => exact .float value
  | integer value => exact .integer value
  | name text => exact .name text
  | string text => exact .string text
  | boolean value => exact .boolean value
  | null => exact .null

theorem Alike.imp (alike : Alike related left right)
    (imp : ∀ value ∈ left.children, ∀ other ∈ right.children,
      related value other → related' value other) : Alike related' left right := by
  cases alike with
  | dictionary entries => exact .dictionary (entries.imp imp)
  | array items => exact .array (forall₂_imp_of_mem items imp)
  | stream entries payload => exact .stream (entries.imp imp) payload
  | float value => exact .float value
  | nan own other => exact .nan own other
  | zero own other => exact .zero own other
  | integer value => exact .integer value
  | name text => exact .name text
  | string text => exact .string text
  | boolean value => exact .boolean value
  | null => exact .null

theorem Alike.flip (alike : Alike related left right) :
    Alike (fun other value => related value other) right left := by
  cases alike with
  | dictionary entries => exact .dictionary entries.flip
  | array items => exact .array items.flip
  | stream entries payload => exact .stream entries.flip payload
  | float value => exact .float value
  | nan own other => exact .nan other own
  | zero own other => exact .zero other own
  | integer value => exact .integer value
  | name text => exact .name text
  | string text => exact .string text
  | boolean value => exact .boolean value
  | null => exact .null

theorem Alike.trans (first : Alike related left middle) (second : Alike related' middle right)
    (compose : ∀ value ∈ left.children, ∀ between ∈ middle.children,
      ∀ other ∈ right.children,
        related value between → related' between other → related'' value other) :
    Alike related'' left right := by
  cases first with
  | dictionary entries =>
      cases second with
      | dictionary entries' => exact .dictionary (entries.trans entries' compose)
  | array items =>
      cases second with
      | array items' => exact .array (forall₂_trans_of_mem items items' compose)
  | stream entries payload =>
      cases second with
      | stream entries' => exact .stream (entries.trans entries' compose) payload
  | float value =>
      cases second with
      | float => exact .float value
      | nan own other => exact .nan own other
      | zero own other => exact .zero own other
  | nan own between =>
      cases second with
      | float => exact .nan own between
      | nan _ other => exact .nan own other
      | zero between' => exact absurd between (Binary32.not_isNan_of_isZero between')
  | zero own between =>
      cases second with
      | float => exact .zero own between
      | nan between' => exact absurd between' (Binary32.not_isNan_of_isZero between)
      | zero _ other => exact .zero own other
  | integer value =>
      cases second with
      | integer => exact .integer value
  | name text =>
      cases second with
      | name => exact .name text
  | string text =>
      cases second with
      | string => exact .string text
  | boolean value =>
      cases second with
      | boolean => exact .boolean value
  | null =>
      cases second with
      | null => exact .null

theorem Alike.keys_perm (alike : Alike related left right) :
    (Ordered.keys left.entries).Perm (Ordered.keys right.entries) := by
  cases alike with
  | dictionary entries => exact entries.keys
  | stream entries => exact entries.keys
  | _ => exact .refl _

/-- No node on the right is without a related one on the left. -/
theorem Alike.exists_of_mem_children (alike : Alike related left right) {other : Node}
    (member : other ∈ right.children) : ∃ value ∈ left.children, related value other := by
  have ofEntries {left right : Dictionary} (entries : EntriesAlike related left right)
      (member : other ∈ right.map Prod.snd) : ∃ value ∈ left.map Prod.snd, related value other := by
    rcases List.mem_map.mp member with ⟨⟨key, other⟩, own', rfl⟩
    rcases List.mem_map.mp (entries.keys.mem_iff.mpr (List.mem_map_of_mem own')) with
      ⟨⟨key, value⟩, own, rfl⟩
    exact ⟨value, mem_values own, entries.values _ _ _ own own'⟩
  cases alike with
  | dictionary entries => exact ofEntries entries member
  | array items => exact exists_of_mem_right items member
  | stream entries => exact ofEntries entries member
  | _ => cases member

end

/-! ## An equivalence relation -/

section

variable {left middle right node : Node}

theorem KeysDistinct.own (distinct : node.KeysDistinct) : (Ordered.keys node.entries).Nodup := by
  cases distinct with
  | intro own _ => exact own

theorem KeysDistinct.scalar (noChildren : node.children = []) : node.KeysDistinct := by
  refine .intro ?_ fun child member => ?_
  · cases node with
    | dictionary entries | stream entries =>
        rw [children, List.map_eq_nil_iff] at noChildren
        exact noChildren ▸ List.nodup_nil
    | _ => exact List.nodup_nil
  · rw [noChildren] at member
    cases member

theorem KeysDistinct.child (distinct : node.KeysDistinct) {child : Node}
    (member : child ∈ node.children) : child.KeysDistinct := by
  cases distinct with
  | intro _ below => exact below child member

/-- What is equivalent to a node without repeated keys has no repeated keys either. -/
theorem KeysDistinct.of_equivalent (distinct : left.KeysDistinct)
    (same : left.equivalent right = true) : right.KeysDistinct := by
  induction distinct generalizing right with
  | intro own _ ih =>
      have alike := (equivalent_iff_alike own).mp same
      refine .intro (alike.keys_perm.nodup_iff.mp own) fun other member => ?_
      rcases alike.exists_of_mem_children member with ⟨child, below, holds⟩
      exact ih child below holds

theorem equivalent_refl (distinct : node.KeysDistinct) : node.equivalent node = true := by
  induction distinct with
  | intro own _ ih => exact (equivalent_iff_alike own).mpr (.refl own ih)

theorem equivalent_symm (distinct : left.KeysDistinct) (same : left.equivalent right = true) :
    right.equivalent left = true := by
  induction distinct generalizing right with
  | intro own _ ih =>
      have alike := (equivalent_iff_alike own).mp same
      refine (equivalent_iff_alike (alike.keys_perm.nodup_iff.mp own)).mpr ?_
      exact alike.flip.imp fun _ _ child below => ih child below

theorem equivalent_trans (distinct : left.KeysDistinct) (first : left.equivalent middle = true)
    (second : middle.equivalent right = true) : left.equivalent right = true := by
  induction distinct generalizing middle right with
  | intro own _ ih =>
      have alike := (equivalent_iff_alike own).mp first
      have alike' := (equivalent_iff_alike (alike.keys_perm.nodup_iff.mp own)).mp second
      refine (equivalent_iff_alike own).mpr ?_
      exact alike.trans alike' fun child below _ _ _ _ => ih child below

end

end FontCompiler.Graph.Node
