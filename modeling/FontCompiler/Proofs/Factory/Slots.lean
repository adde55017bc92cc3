import FontCompiler.Proofs.Factory.PostOrder
import FontCompiler.Proofs.Factory.Refusals

/-!
# A place in a factory

A graph in which only one node is exchanged, always for another one without
parts of its own, has factories that differ in one place only: there stands the
expression of the node.

The nodes around the place are given as a function of what is put there.  An
array or a dictionary around it moves the place into a larger text, and an
object around it moves it from the expression to the declarations; `Slot` holds
in all of these cases.
-/

namespace FontCompiler.Factory

open FontCompiler.Graph

/-! ## Texts with a place -/

section

variable {ι : Type}

/-- The texts are all the same. -/
def Settled (text : ι → String) : Prop :=
  ∃ same, ∀ choice, text choice = same

/-- The texts differ in one place only, where a given text stands. -/
def Carries (own text : ι → String) : Prop :=
  ∃ before after, ∀ choice, text choice = before ++ own choice ++ after

variable {own text : ι → String}

namespace Settled

theorem const (same : String) : Settled fun _ : ι => same :=
  ⟨same, fun _ => rfl⟩

theorem between (settled : Settled text) (front back : String) :
    Settled fun choice => front ++ text choice ++ back := by
  rcases settled with ⟨same, shape⟩
  exact ⟨front ++ same ++ back, fun choice => by simp only [shape]⟩

end Settled

namespace Carries

theorem self (own : ι → String) : Carries own own :=
  ⟨"", "", fun choice => by simp⟩

theorem of_eq {other : ι → String} (carries : Carries own text)
    (same : ∀ choice, other choice = text choice) : Carries own other := by
  rcases carries with ⟨before, after, shape⟩
  exact ⟨before, after, fun choice => (same choice).trans (shape choice)⟩

theorem between (carries : Carries own text) (front back : String) :
    Carries own fun choice => front ++ text choice ++ back := by
  rcases carries with ⟨before, after, shape⟩
  refine ⟨front ++ before, after ++ back, fun choice => ?_⟩
  simp only [shape, String.append_assoc]

end Carries

/-- One of two texts has the place, and the other is settled. -/
inductive Holds (own : ι → String) (use declared : ι → String) : Prop
  | used (carries : Carries own use) (settled : Settled declared)
  | declared (settled : Settled use) (carries : Carries own declared)

namespace Holds

variable {use declared : ι → String}

theorem between (holds : Holds own use declared) (front back frontDeclared backDeclared : String) :
    Holds own (fun choice => front ++ use choice ++ back)
      (fun choice => frontDeclared ++ declared choice ++ backDeclared) := by
  cases holds with
  | used carries settled =>
      exact .used (carries.between front back) (settled.between frontDeclared backDeclared)
  | declared settled carries =>
      exact .declared (settled.between front back) (carries.between frontDeclared backDeclared)

/-- Both texts in a row have the place as well. -/
theorem carries (holds : Holds own use declared) (middle : String) :
    Carries own fun choice => declared choice ++ middle ++ use choice := by
  cases holds with
  | used carries settled =>
      rcases settled with ⟨same, shape⟩
      simpa [shape] using carries.between (same ++ middle) ""
  | declared settled carries =>
      rcases settled with ⟨same, shape⟩
      simpa [shape, String.append_assoc] using carries.between "" (middle ++ same)

end Holds

end

/-! ## Nodes with a place -/

section

variable {ι : Type} {own : ι → String}

/-- Nodes that differ in one place only have expressions and declarations that do, and the same
stands against each of them. -/
structure Slot (own : ι → String) (node : ι → Node) : Prop where
  holds : ∀ (label property : String) (nesting : Nat),
    Holds own (fun choice => useSite property nesting (node choice))
      fun choice => declarationsText label (declarations property (node choice))
  offence : ∀ (property : String) (choice other : ι),
    firstOffence? (preorder property (node choice)) =
      firstOffence? (preorder property (node other))

/-- Rows of entries that differ in one place only. -/
structure EntriesSlot (own : ι → String) (entries : ι → Dictionary) : Prop where
  holds : ∀ label : String,
    Holds own (fun choice => entriesText (entries choice))
      fun choice => declarationsText label (entriesDeclarations (entries choice))
  offence : ∀ choice other : ι,
    firstOffence? (entriesPreorder (entries choice)) =
      firstOffence? (entriesPreorder (entries other))

namespace Slot

variable {node : ι → Node}

/-- An item of an array. -/
theorem array (slot : Slot own node) (front back : List Node) :
    Slot own fun choice => .array (front ++ node choice :: back) where
  holds label property nesting := by
    have inside (front' back' : String) :=
      (slot.holds label property (nesting + 1)).between front' back'
        (declarationsText label (itemsDeclarations property front))
        (declarationsText label (itemsDeclarations property back))
    by_cases outermost : nesting = 0
    · have holds :=
        inside
          ("new object[] \x7b\n" ++ (itemsText property nesting front ++ Code.blanks itemIndent))
          (",\n" ++ (itemsText property nesting back ++ (Code.blanks entryIndent ++ "\x7d")))
      simpa only [useSite, itemsText_append, itemsText, if_pos outermost, declarations,
        itemsDeclarations_append, itemsDeclarations, declarationsText_append, String.append_assoc]
        using holds
    · have holds :=
        inside ("new int[] \x7b " ++ itemsText property nesting front)
          (", " ++ (itemsText property nesting back ++ "\x7d"))
      simpa only [useSite, itemsText_append, itemsText, if_neg outermost, declarations,
        itemsDeclarations_append, itemsDeclarations, declarationsText_append, String.append_assoc,
        String.empty_append] using holds
  offence property choice other := by
    simp only [preorder, itemsPreorder_append, itemsPreorder, firstOffence?_cons,
      firstOffence?_append, slot.offence property choice other]
    rfl

/-- The value of an entry. -/
theorem entries (slot : Slot own node) (front : List (String × Node)) (key : String)
    (back : List (String × Node)) :
    EntriesSlot own fun choice => front ++ (key, node choice) :: back where
  holds label := by
    have holds :=
      (slot.holds label key 0).between
        (entriesText front ++ (Code.blanks entryIndent ++ ("\x7b \"" ++ key ++ "\", ")))
        (" \x7d,\n" ++ entriesText back)
        (declarationsText label (entriesDeclarations front))
        (declarationsText label (entriesDeclarations back))
    simpa only [entriesText_append, entriesText, entriesDeclarations_append, entriesDeclarations,
      declarationsText_append, String.append_assoc] using holds
  offence choice other := by
    simp only [entriesPreorder_append, entriesPreorder, firstOffence?_append,
      slot.offence key choice other]

end Slot

namespace EntriesSlot

variable {entries : ι → Dictionary}

/-- An object that is declared. -/
theorem declares (slot : EntriesSlot own entries) (label property : String)
    (payload : Option (List UInt8)) :
    Carries own fun choice =>
      declarationsText label
        (entriesDeclarations (entries choice) ++ [⟨property, entries choice, payload⟩]) := by
  let declaration (entries : Dictionary) : Declaration := ⟨property, entries, payload⟩
  let opening := Declaration.openingText (declaration []).typeName (declaration []).binding
  let closing := (declaration []).closingText label
  have text (entries : Dictionary) :
      (declaration entries).text label = opening ++ entriesText entries ++ closing := rfl
  refine (((slot.holds label).carries opening).between "" closing).of_eq fun choice => ?_
  rw [declarationsText_append, declarationsText_singleton, text]
  simp only [String.empty_append, String.append_assoc]

theorem dictionary (slot : EntriesSlot own entries) :
    Slot own fun choice => .dictionary (entries choice) where
  holds label property nesting :=
    .declared (.const (reference (Text.lowerFirst property)))
      (slot.declares label property none)
  offence property choice other := by
    simp only [preorder, firstOffence?_cons, slot.offence choice other]
    rfl

theorem stream (slot : EntriesSlot own entries) (payload : List UInt8) :
    Slot own fun choice => .stream (entries choice) payload where
  holds label property nesting :=
    .declared (.const (reference (Text.lowerFirst property)))
      (slot.declares label property (some payload))
  offence property choice other := by
    simp only [preorder, firstOffence?_cons, slot.offence choice other]
    rfl

/-- All graphs have a factory as soon as one has, and the factories differ in one place only. -/
theorem compile (slot : EntriesSlot own entries) {label : String} {choice : ι} {product : Product}
    (compiled : Factory.compile (entries choice) label = .ok product) :
    ∃ before after, ∀ other, ∃ product',
      Factory.compile (entries other) label = .ok product' ∧
        product'.source = before ++ own other ++ after := by
  have whole := (slot.declares label rootProperty none).between (prologueText label) epilogueText
  rcases whole with ⟨before, after, shape⟩
  refine ⟨before, after, fun other => ?_⟩
  have fit := fit_of_compile compiled
  rw [slot.dictionary.offence rootProperty choice other] at fit
  rcases exists_product_of_fit fit label with ⟨product', compiled'⟩
  exact ⟨product', compiled', (compile_source compiled').trans (shape other)⟩

end EntriesSlot

end

end FontCompiler.Factory
