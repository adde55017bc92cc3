import FontCompiler.Proofs.Factory.Rebuild
import FontCompiler.Proofs.Files.Path
import FontCompiler.Proofs.Text.Lowercase

/-!
# Names of sidecar files

The name of a sidecar is put together from a label and a property.  The label
is an identifier, and the property is one up to its first character, so the
first hyphen of the name ends the label.  Different streams therefore have
different files, as long as labels differ between fonts and bindings within
each of them, and every name stands for an entry of a directory.
-/

namespace FontCompiler.Factory

open FontCompiler.Graph

/-! ## Properties that are accepted -/

mutual

theorem isIdentifier_of_writeNode {label : String} (property : String)
    (nesting : Nat) :
    ∀ (node : Node) (before after : State),
      writeNode label property nesting node before = .ok after →
      ∀ declaration ∈ declarations property node,
        Code.isIdentifier declaration.binding = true
  | .dictionary entries, before, after, written => by
      rw [writeNode] at written
      rcases exists_of_bind_ok written with ⟨⟨binding, opened⟩, begun, written⟩
      rcases exists_of_bind_ok written with ⟨body, bodyWritten, -⟩
      rw [declarations, List.forall_mem_append, List.forall_mem_singleton]
      exact
        ⟨isIdentifier_of_writeEntries entries _ _ bodyWritten,
          isIdentifier_of_beginFrame begun⟩
  | .stream entries payload, before, after, written => by
      rw [writeNode] at written
      rcases exists_of_bind_ok written with ⟨⟨binding, opened⟩, begun, written⟩
      rcases exists_of_bind_ok written with ⟨body, bodyWritten, -⟩
      rw [declarations, List.forall_mem_append, List.forall_mem_singleton]
      exact
        ⟨isIdentifier_of_writeEntries entries _ _ bodyWritten,
          isIdentifier_of_beginFrame begun⟩
  | .array items, before, after, written => by
      rw [writeNode] at written
      rcases exists_of_bind_ok written with ⟨body, bodyWritten, -⟩
      rw [declarations]
      exact isIdentifier_of_writeItems property nesting items _ _ bodyWritten
  | .float value, before, after, written => by simp [declarations]
  | .integer value, before, after, written => by simp [declarations]
  | .name text, before, after, written => by simp [declarations]
  | .string text, before, after, written => by simp [declarations]
  | .boolean value, before, after, written => by cases written
  | .null, before, after, written => by cases written

theorem isIdentifier_of_writeItems {label : String} (property : String)
    (nesting : Nat) :
    ∀ (items : List Node) (before after : State),
      writeItems label property nesting items before = .ok after →
      ∀ declaration ∈ itemsDeclarations property items,
        Code.isIdentifier declaration.binding = true
  | [], before, after, written => by simp [itemsDeclarations]
  | item :: items, before, after, written => by
      rw [writeItems] at written
      rcases exists_of_bind_ok written with ⟨middle, itemWritten, othersWritten⟩
      rw [itemsDeclarations, List.forall_mem_append]
      exact
        ⟨isIdentifier_of_writeNode property (nesting + 1) item _ _ itemWritten,
          isIdentifier_of_writeItems property nesting items _ _ othersWritten⟩

theorem isIdentifier_of_writeEntries {label : String} :
    ∀ (entries : List (String × Node)) (before after : State),
      writeEntries label entries before = .ok after →
      ∀ declaration ∈ entriesDeclarations entries,
        Code.isIdentifier declaration.binding = true
  | [], before, after, written => by simp [entriesDeclarations]
  | (key, value) :: entries, before, after, written => by
      rw [writeEntries] at written
      rcases exists_of_bind_ok written with
        ⟨middle, valueWritten, othersWritten⟩
      rw [entriesDeclarations, List.forall_mem_append]
      exact
        ⟨isIdentifier_of_writeNode key 0 value _ _ valueWritten,
          isIdentifier_of_writeEntries entries _ _ othersWritten⟩

end

/-- Whatever a factory declares is bound to an identifier. -/
theorem isIdentifier_of_compile {root : Dictionary} {label : String}
    {product : Product} (compiled : compile root label = .ok product) :
    ∀ declaration ∈ declarations rootProperty (.dictionary root),
      Code.isIdentifier declaration.binding = true := by
  rcases exists_walk_of_compile compiled with ⟨final, walked, -⟩
  exact isIdentifier_of_writeNode rootProperty 0 _ _ _ walked

theorem slash_notMem_of_isIdentifier {text : String}
    (identifier : Code.isIdentifier text = true) : '/' ∉ text.toList := by
  intro member
  have part := Generated.parts_of_isIdentifier identifier '/' member
  cases part

theorem hyphen_notMem_of_isIdentifier {text : String}
    (identifier : Code.isIdentifier text = true) : '-' ∉ text.toList := by
  intro member
  have part := Generated.parts_of_isIdentifier identifier '-' member
  cases part

theorem slash_notMem_of_lowerFirst {property : String}
    (accepted : Code.isIdentifier (Text.lowerFirst property) = true) :
    '/' ∉ property.toList := by
  intro member
  rcases Text.parts_of_lowerFirst accepted '/' member with part | kelvin
  · cases part
  · cases kelvin

theorem hyphen_notMem_of_lowerFirst {property : String}
    (accepted : Code.isIdentifier (Text.lowerFirst property) = true) :
    '-' ∉ property.toList := by
  intro member
  rcases Text.parts_of_lowerFirst accepted '-' member with part | kelvin
  · cases part
  · cases kelvin

/-! ## Names -/

section

variable {label property : String}

theorem toList_sidecarName (label property : String) :
    (sidecarName label property).toList =
      label.toList ++ '-' :: (property.toList ++ ".bin".toList) := by
  simp [sidecarName]

theorem isName_sidecarName (identifier : Code.isIdentifier label = true)
    (accepted : Code.isIdentifier (Text.lowerFirst property) = true) :
    Files.IsName (sidecarName label property) := by
  have long (other : String) (short : other.toList.length < 5) :
      sidecarName label property ≠ other := by
    rintro rfl
    simp [toList_sidecarName] at short
    omega
  refine ⟨?_, long "" (by decide), long "." (by decide), long ".." (by decide)⟩
  simp [toList_sidecarName, slash_notMem_of_isIdentifier identifier,
    slash_notMem_of_lowerFirst accepted]

/-- A control character. -/
def IsControl (char : Char) : Prop :=
  char.toNat < 0x20 ∨ 0x7F ≤ char.toNat ∧ char.toNat < 0xA0

instance (char : Char) : Decidable (IsControl char) :=
  inferInstanceAs (Decidable (_ ∨ _))

theorem not_isControl_of_isIdentifierPart {char : Char}
    (part : Code.isIdentifierPart char = true) : ¬ IsControl char := by
  have ascii := Text.ascii_of_isIdentifierPart part
  rintro (low | high) <;> omega

/-- The name of a file that is told apart from others of its directory by its single hyphen. -/
structure IsSidecarName (name : String) : Prop extends Files.IsName name where
  noControl : ∀ char ∈ name.toList, ¬ IsControl char
  oneHyphen : name.toList.count '-' = 1
  ending : ".bin".toList <:+ name.toList

theorem isSidecarName_sidecarName (identifier : Code.isIdentifier label = true)
    (accepted : Code.isIdentifier (Text.lowerFirst property) = true) :
    IsSidecarName (sidecarName label property) := by
  refine ⟨isName_sidecarName identifier accepted, ?_, ?_, ?_⟩
  · rw [toList_sidecarName, List.forall_mem_append, List.forall_mem_cons,
      List.forall_mem_append]
    refine ⟨fun char member => ?_, by decide, fun char member => ?_, ?_⟩
    · exact
        not_isControl_of_isIdentifierPart
          (Generated.parts_of_isIdentifier identifier char member)
    · rcases Text.parts_of_lowerFirst accepted char member with part | rfl
      · exact not_isControl_of_isIdentifierPart part
      · decide
    · have ending : (".bin".toList.all fun char => decide (¬ IsControl char)) = true := by decide
      exact fun char member => of_decide_eq_true (List.all_eq_true.mp ending char member)
  · rw [toList_sidecarName, List.count_append, List.count_cons_self, List.count_append,
      List.count_eq_zero_of_not_mem (hyphen_notMem_of_isIdentifier identifier),
      List.count_eq_zero_of_not_mem (hyphen_notMem_of_lowerFirst accepted)]
    rfl
  · rw [toList_sidecarName]
    exact ⟨label.toList ++ '-' :: property.toList, by simp⟩

/-- The first hyphen of a name ends the label. -/
theorem eq_of_sidecarName {label' property' : String}
    (identifier : Code.isIdentifier label = true)
    (identifier' : Code.isIdentifier label' = true)
    (same : sidecarName label property = sidecarName label' property') :
    label = label' ∧ property = property' := by
  have front (label property : String) (identifier : Code.isIdentifier label = true) :
      (sidecarName label property).toList.takeWhile (· ≠ '-') = label.toList := by
    have none := hyphen_notMem_of_isIdentifier identifier
    rw [toList_sidecarName, List.takeWhile_append_of_pos]
    · simp
    · intro char member
      simp only [ne_eq, decide_not, Bool.not_eq_eq_eq_not, Bool.not_true,
        decide_eq_false_iff_not]
      rintro rfl
      exact none member
  have labels : label = label' := by
    rw [← String.toList_inj, ← front label property identifier, same,
      front label' property' identifier']
  rw [← labels] at same
  exact ⟨labels, sidecarName_injective same⟩

end

/-! ## Files of several factories -/

theorem exists_of_mem_sidecarsOf {label : String} {declared : List Declaration}
    {sidecar : Sidecar} (member : sidecar ∈ sidecarsOf label declared) :
    ∃ declaration ∈ declared,
      declaration.payload = some sidecar.bytes ∧
        inlineLimit ≤ sidecar.bytes.length ∧
        sidecar.name = sidecarName label declaration.property := by
  rcases List.mem_filterMap.mp member with ⟨declaration, declares, aside⟩
  refine ⟨declaration, declares, ?_⟩
  unfold Declaration.sidecar? at aside
  split at aside
  · cases aside
  · rename_i payload stream
    split at aside
    · cases aside
    · rename_i large
      cases aside
      exact ⟨stream, Nat.le_of_not_lt large, rfl⟩

theorem mem_sidecarsOf {label : String} {declared : List Declaration}
    {declaration : Declaration} {payload : List UInt8}
    (declares : declaration ∈ declared) (stream : declaration.payload = some payload)
    (large : inlineLimit ≤ payload.length) :
    ⟨sidecarName label declaration.property, payload⟩ ∈ sidecarsOf label declared := by
  refine List.mem_filterMap.mpr ⟨declaration, declares, ?_⟩
  rw [Declaration.sidecar?, stream]
  exact if_neg (Nat.not_lt.mpr large)

end FontCompiler.Factory
