import FontCompiler.Ordered
import Mathlib.Data.List.Forall2

/-!
# Laws of ordered maps

What is found under a key after a write: the value that was written, or under
another key what was there before.  Writes under keys that are all different only
collect their entries.  Of several writes under one key the last one is found.

Erasing a key may change the order of the others.  Where no key is repeated, the
other entries are still there, and nothing else.
-/

namespace FontCompiler.Ordered

universe u v

variable {κ : Type u} {α : Type v} [BEq κ] [LawfulBEq κ]

theorem get?_eq_none_iff {key : κ} {entries : List (κ × α)} :
    get? key entries = none ↔ key ∉ keys entries := by
  induction entries with
  | nil => simp [get?, keys]
  | cons entry entries ih =>
      rcases entry with ⟨other, value⟩
      rw [get?, keys, List.map_cons, List.mem_cons, not_or]
      by_cases same : other = key
      · simp [same]
      · rw [if_neg (by simpa using same), ih]
        exact ⟨fun absent => ⟨Ne.symm same, absent⟩, And.right⟩

theorem contains_eq_false_iff {key : κ} {entries : List (κ × α)} :
    contains key entries = false ↔ key ∉ keys entries := by
  rw [contains, Option.isSome_eq_false_iff, Option.isNone_iff_eq_none,
    get?_eq_none_iff]

theorem contains_iff {key : κ} {entries : List (κ × α)} :
    contains key entries = true ↔ key ∈ keys entries := by
  rw [← Bool.not_eq_false, contains_eq_false_iff, Classical.not_not]

theorem get?_insert [DecidableEq κ] (key other : κ) (value : α)
    (entries : List (κ × α)) :
    get? other (insert key value entries) =
      if key = other then some value else get? other entries := by
  induction entries with
  | nil => simp [insert, get?]
  | cons entry entries ih =>
      rcases entry with ⟨first, old⟩
      rw [insert]
      by_cases here : first = key
      · simp only [here, beq_self_eq_true, if_true, get?, beq_iff_eq]
        split <;> rfl
      · rw [if_neg (by simpa using here), get?, get?, ih]
        by_cases found : first = other
        · have elsewhere : key ≠ other := fun equal => here (found.trans equal.symm)
          simp [found, elsewhere]
        · simp [found]

theorem insert_of_notMem {key : κ} {value : α} {entries : List (κ × α)}
    (absent : key ∉ keys entries) :
    insert key value entries = entries ++ [(key, value)] := by
  induction entries with
  | nil => rfl
  | cons entry entries ih =>
      rcases entry with ⟨other, old⟩
      rw [keys, List.map_cons, List.mem_cons, not_or] at absent
      rw [insert, if_neg (by simpa using Ne.symm absent.1), ih absent.2]
      rfl

theorem insertAll_eq_append (writes : List (κ × α)) :
    ∀ entries : List (κ × α), (keys (entries ++ writes)).Nodup →
      insertAll writes entries = entries ++ writes := by
  induction writes with
  | nil =>
      intro entries _
      rw [List.append_nil]
      rfl
  | cons write writes ih =>
      intro entries distinct
      rcases write with ⟨key, value⟩
      have shifted :
          entries ++ (key, value) :: writes =
            entries ++ [(key, value)] ++ writes := by simp
      rw [shifted] at distinct ⊢
      have absent : key ∉ keys entries := by
        rw [keys, List.map_append, List.map_append] at distinct
        have front := (List.nodup_append.mp distinct).1
        intro member
        exact (List.nodup_append.mp front).2.2 key member key (by simp) rfl
      rw [← ih _ distinct, ← insert_of_notMem absent]
      rfl

/-- Writes under different keys collect their entries in order. -/
theorem ofList_eq_self {writes : List (κ × α)} (distinct : (keys writes).Nodup) :
    ofList writes = writes :=
  insertAll_eq_append writes [] distinct

theorem mem_keys_of_get? {key : κ} {value : α} {entries : List (κ × α)}
    (found : get? key entries = some value) : key ∈ keys entries := by
  refine Classical.byContradiction fun absent => ?_
  rw [get?_eq_none_iff.mpr absent] at found
  cases found

omit [LawfulBEq κ] in
theorem mem_keys_insert {key other : κ} {value : α} {entries : List (κ × α)}
    (member : other ∈ keys (insert key value entries)) :
    other = key ∨ other ∈ keys entries := by
  induction entries with
  | nil => exact .inl (List.mem_singleton.mp member)
  | cons entry entries ih =>
      rcases entry with ⟨first, old⟩
      rw [insert] at member
      split at member
      · exact .inr member
      · rcases List.mem_cons.mp member with rfl | behind
        · exact .inr List.mem_cons_self
        · exact (ih behind).imp id (List.mem_cons_of_mem first)

omit [LawfulBEq κ] in
theorem mem_keys_insertAll {key : κ} (writes : List (κ × α)) :
    ∀ entries : List (κ × α), key ∈ keys (insertAll writes entries) →
      key ∈ keys writes ∨ key ∈ keys entries := by
  induction writes with
  | nil =>
      intro entries member
      exact .inr member
  | cons write writes ih =>
      intro entries member
      rcases write with ⟨first, value⟩
      rcases ih (insert first value entries) member with behind | before
      · exact .inl (List.mem_cons_of_mem first behind)
      · rcases mem_keys_insert before with rfl | before
        · exact .inl List.mem_cons_self
        · exact .inr before

omit [LawfulBEq κ] in
/-- Writing a row of values brings in no other keys. -/
theorem mem_keys_of_ofList {key : κ} {writes : List (κ × α)}
    (member : key ∈ keys (ofList writes)) : key ∈ keys writes :=
  (mem_keys_insertAll writes [] member).resolve_right List.not_mem_nil

theorem nodup_keys_insert {key : κ} {value : α} {entries : List (κ × α)}
    (distinct : (keys entries).Nodup) : (keys (insert key value entries)).Nodup := by
  induction entries with
  | nil => simp [insert, keys]
  | cons entry entries ih =>
      rcases entry with ⟨other, old⟩
      have apart := List.nodup_cons.mp distinct
      rw [insert]
      by_cases same : other = key
      · rw [if_pos (by simpa using same)]
        exact distinct
      · rw [if_neg (by simpa using same)]
        refine List.nodup_cons.mpr ⟨fun member => ?_, ih apart.2⟩
        exact (mem_keys_insert member).elim same apart.1

theorem mem_insert {key : κ} {value : α} {entry : κ × α} {entries : List (κ × α)}
    (member : entry ∈ insert key value entries) : entry = (key, value) ∨ entry ∈ entries := by
  induction entries with
  | nil => exact .inl (List.mem_singleton.mp member)
  | cons first entries ih =>
      rcases first with ⟨other, old⟩
      rw [insert] at member
      split at member
      · rename_i same
        cases eq_of_beq same
        exact (List.mem_cons.mp member).imp id (List.mem_cons_of_mem _)
      · rcases List.mem_cons.mp member with here | behind
        · exact .inr (here ▸ List.mem_cons_self)
        · exact (ih behind).imp id (List.mem_cons_of_mem _)

theorem nodup_keys_insertAll (writes : List (κ × α)) :
    ∀ {entries : List (κ × α)}, (keys entries).Nodup → (keys (insertAll writes entries)).Nodup := by
  induction writes with
  | nil => exact fun distinct => distinct
  | cons write writes ih => exact fun distinct => ih (nodup_keys_insert distinct)

theorem mem_insertAll {entry : κ × α} (writes : List (κ × α)) :
    ∀ entries : List (κ × α), entry ∈ insertAll writes entries →
      entry ∈ writes ∨ entry ∈ entries := by
  induction writes with
  | nil => exact fun entries member => .inr member
  | cons write writes ih =>
      intro entries member
      rcases ih _ member with behind | before
      · exact .inl (List.mem_cons_of_mem write behind)
      · rcases mem_insert before with rfl | before
        · exact .inl List.mem_cons_self
        · exact .inr before

/-- A row of writes leaves a map without repeated keys. -/
theorem nodup_keys_ofList (writes : List (κ × α)) : (keys (ofList writes)).Nodup :=
  nodup_keys_insertAll writes List.nodup_nil

/-- What a row of writes leaves behind was written. -/
theorem mem_of_mem_ofList {entry : κ × α} {writes : List (κ × α)}
    (member : entry ∈ ofList writes) : entry ∈ writes :=
  (mem_insertAll writes [] member).resolve_right List.not_mem_nil

/-! ## The last write -/

section

variable {ι : Type u} {ρ : Type v}

/-- The item has a property, and none behind it does. -/
def IsLast (property : ι → Prop) (items : List ι) (item : ι) : Prop :=
  ∃ before behind, items = before ++ item :: behind ∧ property item ∧
    ∀ other ∈ behind, ¬ property other

theorem IsLast.holds {property : ι → Prop} {items : List ι} {item : ι}
    (last : IsLast property items item) : property item := by
  rcases last with ⟨-, -, -, holds, -⟩
  exact holds

theorem isLast_cons_iff {property : ι → Prop} {first item : ι} {items : List ι} :
    IsLast property (first :: items) item ↔
      IsLast property items item ∨
        first = item ∧ property item ∧ ∀ other ∈ items, ¬ property other := by
  constructor
  · rintro ⟨before, behind, split, holds, last⟩
    rcases List.cons_eq_append_iff.mp split with ⟨rfl, same⟩ | ⟨others, rfl, rest⟩
    · cases same
      exact .inr ⟨rfl, holds, last⟩
    · exact .inl ⟨others, behind, rest, holds, last⟩
  · rintro (⟨before, behind, rfl, holds, last⟩ | ⟨rfl, holds, last⟩)
    · exact ⟨first :: before, behind, rfl, holds, last⟩
    · exact ⟨[], items, rfl, holds, last⟩

/-- If an item has a property at all, then one is the last that has it. -/
theorem exists_isLast_iff {property : ι → Prop} {items : List ι} :
    (∃ item, IsLast property items item) ↔ ∃ item ∈ items, property item := by
  constructor
  · rintro ⟨item, before, behind, rfl, holds, -⟩
    exact ⟨item, by simp, holds⟩
  · rintro ⟨item, member, holds⟩
    induction items generalizing item with
    | nil => cases member
    | cons first items ih =>
        by_cases later : ∃ other ∈ items, property other
        · rcases later with ⟨other, member, holds⟩
          rcases ih other member holds with ⟨last, found⟩
          exact ⟨last, isLast_cons_iff.mpr (.inl found)⟩
        · have absent : ∀ other ∈ items, ¬ property other :=
            fun other member holds => later ⟨other, member, holds⟩
          rcases List.mem_cons.mp member with rfl | member
          · exact ⟨item, isLast_cons_iff.mpr (.inr ⟨rfl, holds, absent⟩)⟩
          · exact absurd holds (absent item member)

variable {relation : ι → ρ → Prop} {property : ι → Prop} {property' : ρ → Prop}
  (agrees : ∀ item result, relation item result → (property item ↔ property' result))

include agrees

theorem forall_not_iff_of_forall₂ {items : List ι} {results : List ρ}
    (related : List.Forall₂ relation items results) :
    (∀ item ∈ items, ¬ property item) ↔ ∀ result ∈ results, ¬ property' result := by
  induction related with
  | nil => exact iff_of_true nofun nofun
  | cons pair _ ih =>
      rw [List.forall_mem_cons, List.forall_mem_cons, ih, agrees _ _ pair]

/-- Where the items of two rows agree on a property in pairs, the last ones that have it are a
pair. -/
theorem exists_isLast_of_forall₂ {items : List ι} {results : List ρ}
    (related : List.Forall₂ relation items results) {item : ι}
    (last : IsLast property items item) :
    ∃ result, relation item result ∧ IsLast property' results result := by
  induction related with
  | nil =>
      rcases last with ⟨before, behind, empty, -⟩
      simp at empty
  | cons pair others ih =>
      rcases isLast_cons_iff.mp last with later | ⟨rfl, holds, absent⟩
      · rcases ih later with ⟨result, paired, found⟩
        exact ⟨result, paired, isLast_cons_iff.mpr (.inl found)⟩
      · have absent' := (forall_not_iff_of_forall₂ agrees others).mp absent
        have holds' := (agrees _ _ pair).mp holds
        exact ⟨_, pair, isLast_cons_iff.mpr (.inr ⟨rfl, holds', absent'⟩)⟩

end

theorem get?_insertAll_eq_some_iff [DecidableEq κ] {key : κ} {value : α}
    (writes : List (κ × α)) :
    ∀ entries : List (κ × α),
      get? key (insertAll writes entries) = some value ↔
        IsLast (fun write => write.1 = key) writes (key, value) ∨
          (∀ write ∈ writes, write.1 ≠ key) ∧ get? key entries = some value := by
  induction writes with
  | nil =>
      intro entries
      change get? key entries = some value ↔ _
      simp [IsLast]
  | cons write writes ih =>
      intro entries
      rcases write with ⟨first, own⟩
      change get? key (insertAll writes (insert first own entries)) = some value ↔ _
      rw [ih, get?_insert, isLast_cons_iff, List.forall_mem_cons, or_assoc]
      refine or_congr_right ?_
      by_cases same : first = key
      · subst same
        simp [and_comm]
      · simp [same]

/-- Under a key stands the last value that was written there. -/
theorem get?_ofList_eq_some_iff [DecidableEq κ] {key : κ} {value : α}
    {writes : List (κ × α)} :
    get? key (ofList writes) = some value ↔
      IsLast (fun write => write.1 = key) writes (key, value) := by
  rw [ofList, get?_insertAll_eq_some_iff]
  simp [get?]

theorem get?_ofList_eq_none_iff [DecidableEq κ] {key : κ} {writes : List (κ × α)} :
    get? key (ofList writes) = none ↔ ∀ write ∈ writes, write.1 ≠ key := by
  simp only [Option.eq_none_iff_forall_ne_some, ne_eq, get?_ofList_eq_some_iff]
  constructor
  · intro absent write member same
    have written : ∃ write ∈ writes, (fun write => write.1 = key) write :=
      ⟨write, member, same⟩
    rcases exists_isLast_iff.mpr written with ⟨⟨other, value⟩, last⟩
    cases last.holds
    exact absent value last
  · intro absent value last
    rcases exists_isLast_iff.mp ⟨_, last⟩ with ⟨write, member, same⟩
    exact absent write member same

/-! ## Entries under different keys -/

theorem mem_of_get? {key : κ} {value : α} {entries : List (κ × α)}
    (found : get? key entries = some value) : (key, value) ∈ entries := by
  induction entries with
  | nil => cases found
  | cons entry entries ih =>
      rcases entry with ⟨other, old⟩
      rw [get?] at found
      split at found
      · rename_i same
        cases eq_of_beq same
        cases found
        exact List.mem_cons_self
      · exact List.mem_cons_of_mem _ (ih found)

/-- Where no key is repeated, what is found is what there is. -/
theorem get?_eq_some_iff {key : κ} {value : α} {entries : List (κ × α)}
    (distinct : (keys entries).Nodup) :
    get? key entries = some value ↔ (key, value) ∈ entries := by
  refine ⟨mem_of_get?, ?_⟩
  induction entries with
  | nil => exact nofun
  | cons entry entries ih =>
      rcases entry with ⟨other, old⟩
      rw [keys, List.map_cons, List.nodup_cons] at distinct
      intro member
      rcases List.mem_cons.mp member with same | behind
      · cases same
        rw [get?, if_pos (beq_self_eq_true key)]
      · have differs : other ≠ key := by
          rintro rfl
          exact distinct.1 (List.mem_map.mpr ⟨_, behind, rfl⟩)
        rw [get?, if_neg (by simpa using differs), ih distinct.2 behind]

/-! ## Erasing -/

theorem filter_ne_of_notMem {key : κ} {entries : List (κ × α)} (absent : key ∉ keys entries) :
    entries.filter (fun entry => entry.1 != key) = entries := by
  refine List.filter_eq_self.mpr fun entry member => ?_
  have differs : entry.1 ≠ key := by
    rintro rfl
    exact absent (List.mem_map_of_mem member)
  simpa using differs

theorem replaceEntry_perm {key : κ} (entry : κ × α) {entries : List (κ × α)}
    (present : key ∈ keys entries) (distinct : (keys entries).Nodup) :
    (replaceEntry key entry entries).Perm
      (entry :: entries.filter fun other => other.1 != key) := by
  induction entries with
  | nil => cases present
  | cons first entries ih =>
      rcases first with ⟨other, value⟩
      rw [keys, List.map_cons, List.nodup_cons] at distinct
      rw [replaceEntry]
      by_cases same : other = key
      · subst same
        rw [if_pos (beq_self_eq_true other), List.filter_cons_of_neg (by simp),
          filter_ne_of_notMem distinct.1]
      · have behind : key ∈ keys entries :=
          (List.mem_cons.mp present).resolve_left fun equal => same equal.symm
        rw [if_neg (by simpa using same), List.filter_cons_of_pos (by simpa using same)]
        exact ((ih behind distinct.2).cons _).trans (List.Perm.swap _ _ _)

/-- Erasing a key leaves the entries under other keys, in some order. -/
theorem swapErase_perm (key : κ) {entries : List (κ × α)} (distinct : (keys entries).Nodup) :
    (swapErase key entries).Perm (entries.filter fun entry => entry.1 != key) := by
  rw [swapErase]
  cases present : contains key entries with
  | false =>
      rw [if_neg Bool.false_ne_true, filter_ne_of_notMem (contains_eq_false_iff.mp present)]
  | true =>
      have member : key ∈ keys entries := contains_iff.mp present
      rw [if_pos rfl]
      rcases List.eq_nil_or_concat' entries with rfl | ⟨front, last, rfl⟩
      · cases member
      · rw [List.getLast?_concat]
        simp only [List.dropLast_concat]
        rw [keys, List.map_append, List.nodup_append] at distinct
        rcases distinct with ⟨distinct, -, apart⟩
        by_cases same : last.1 = key
        · have absent : key ∉ keys front := fun inside =>
            apart key inside last.1 (by simp) same.symm
          rw [if_pos (by simpa using same), List.filter_append, filter_ne_of_notMem absent,
            List.filter_cons_of_neg (by simpa using same), List.filter_nil, List.append_nil]
        · have inside : key ∈ keys front := by
            rw [keys, List.map_append, List.mem_append] at member
            exact member.resolve_right fun there =>
              same (List.mem_singleton.mp there).symm
          rw [if_neg (by simpa using same), List.filter_append,
            List.filter_cons_of_pos (by simpa using same), List.filter_nil]
          exact
            (replaceEntry_perm last inside distinct).trans
              (List.perm_append_singleton last _).symm

theorem nodup_keys_swapErase (key : κ) {entries : List (κ × α)}
    (distinct : (keys entries).Nodup) : (keys (swapErase key entries)).Nodup := by
  have erased := (swapErase_perm key distinct).map Prod.fst
  exact erased.nodup_iff.mpr (distinct.sublist (List.filter_sublist.map Prod.fst))

theorem mem_swapErase_iff {key : κ} {entry : κ × α} {entries : List (κ × α)}
    (distinct : (keys entries).Nodup) :
    entry ∈ swapErase key entries ↔ entry ∈ entries ∧ entry.1 ≠ key := by
  rw [(swapErase_perm key distinct).mem_iff, List.mem_filter, bne_iff_ne]

theorem get?_swapErase {key other : κ} (differs : other ≠ key) {entries : List (κ × α)}
    (distinct : (keys entries).Nodup) :
    get? other (swapErase key entries) = get? other entries := by
  refine Option.ext fun value => ?_
  rw [get?_eq_some_iff (nodup_keys_swapErase key distinct), mem_swapErase_iff distinct,
    get?_eq_some_iff distinct]
  exact and_iff_left differs

theorem replaceEntry_append {key : κ} {front : List (κ × α)} (absent : key ∉ keys front)
    (value : α) (entry : κ × α) (back : List (κ × α)) :
    replaceEntry key entry (front ++ (key, value) :: back) = front ++ entry :: back := by
  induction front with
  | nil => rw [List.nil_append, replaceEntry, if_pos (beq_self_eq_true key), List.nil_append]
  | cons first front ih =>
      rcases first with ⟨other, old⟩
      rw [keys, List.map_cons, List.mem_cons, not_or] at absent
      rw [List.cons_append, replaceEntry, if_neg (by simpa using Ne.symm absent.1), ih absent.2,
        List.cons_append]

/-- The last entry takes the place of the one that is erased. -/
theorem swapErase_append {key : κ} {front back : List (κ × α)} (absent : key ∉ keys front)
    (absent' : key ∉ keys back) (value : α) :
    swapErase key (front ++ (key, value) :: back) =
      match back.getLast? with
      | none => front
      | some last => front ++ last :: back.dropLast := by
  have present : contains key (front ++ (key, value) :: back) = true := by
    rw [contains_iff, keys, List.map_append, List.mem_append]
    exact .inr List.mem_cons_self
  rw [swapErase, if_pos present]
  rcases List.eq_nil_or_concat' back with rfl | ⟨middle, last, rfl⟩
  · simp
  · have differs : ¬ (last.1 == key) = true := by
      rw [beq_iff_eq]
      rintro rfl
      exact absent' (List.mem_map_of_mem (List.mem_append_right _ List.mem_cons_self))
    rw [← List.cons_append, ← List.append_assoc, List.getLast?_concat, List.getLast?_concat]
    simp only [List.dropLast_concat]
    rw [if_neg differs]
    exact replaceEntry_append absent value last middle

end FontCompiler.Ordered
