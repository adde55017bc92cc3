import FontCompiler.Proofs.Factory.FileNames
import FontCompiler.Proofs.Factory.Refusals

/-!
# Names that cannot be declared

Every object of a factory is declared as a local variable.  Its name is checked
to be an identifier and nothing more, while two more things keep an identifier
from being declared there: the generated language reserves words, and the
factory has a parameter that every reference goes through.

Both kinds of words start with a small letter, so a property turns into one of
them only if it is that word already or the word with a capital in front.  This
decides which graphs have a factory with names that cannot be declared.
-/

namespace FontCompiler.Factory

open FontCompiler.Graph

/-! ## Words that are taken -/

/-- The words that the generated language reserves. -/
def reservedWords : List String :=
  ["abstract", "as", "base", "bool", "break", "byte", "case", "catch", "char", "checked", "class",
    "const", "continue", "decimal", "default", "delegate", "do", "double", "else", "enum", "event",
    "explicit", "extern", "false", "finally", "fixed", "float", "for", "foreach", "goto", "if",
    "implicit", "in", "int", "interface", "internal", "is", "lock", "long", "namespace", "new",
    "null", "object", "operator", "out", "override", "params", "private", "protected", "public",
    "readonly", "ref", "return", "sbyte", "sealed", "short", "sizeof", "stackalloc", "static",
    "string", "struct", "switch", "this", "throw", "true", "try", "typeof", "uint", "ulong",
    "unchecked", "unsafe", "ushort", "using", "virtual", "void", "volatile", "while"]

/-- The parameter of a factory, on which references are created. -/
def parameter : String := "document"

/-- The identifiers that no declaration of a factory may bind. -/
def takenWords : List String :=
  parameter :: reservedWords

/-- A name that a declaration of a factory may bind. -/
structure UsableLocal (name : String) : Prop where
  identifier : Code.isIdentifier name = true
  notReserved : name ∉ reservedWords
  notParameter : name ≠ parameter

theorem usableLocal_iff {name : String} (identifier : Code.isIdentifier name = true) :
    UsableLocal name ↔ name ∉ takenWords := by
  rw [takenWords, List.mem_cons, not_or]
  constructor
  · exact fun usable => ⟨usable.notParameter, usable.notReserved⟩
  · exact fun untaken => ⟨identifier, untaken.2, untaken.1⟩

/-! ## Properties that turn into such words -/

/-- A text with a capital in front. -/
def capitalized (text : String) : String :=
  match text.toList with
  | [] => ""
  | first :: others => String.ofList (first.toUpper :: others)

/-- An identifier with a small letter in front that is the lower case of a single capital. -/
def isPlainWord (text : String) : Bool :=
  match text.toList with
  | [] => false
  | first :: others =>
    'a' ≤ first && first ≤ 'z' && first != 'k' && others.all Code.isIdentifierPart

theorem isPlainWord_of_mem_takenWords : ∀ word ∈ takenWords, isPlainWord word = true := by
  decide +kernel

theorem isIdentifier_of_mem_takenWords :
    ∀ word ∈ takenWords, Code.isIdentifier word = true := by
  decide +kernel

theorem lowerFirst_eq_plainWord_iff {property word : String} (plain : isPlainWord word = true) :
    Text.lowerFirst property = word ↔ property = word ∨ property = capitalized word := by
  unfold isPlainWord at plain
  split at plain
  · cases plain
  · rename_i first others shape
    simp only [Bool.and_eq_true, decide_eq_true_eq, bne_iff_ne, List.all_eq_true] at plain
    rcases plain with ⟨⟨small, notK⟩, parts⟩
    have written : word = String.ofList (first :: others) := by
      rw [← shape, String.ofList_toList]
    rw [capitalized, shape, written]
    exact Text.lowerFirst_eq_iff small notK parts

theorem lowerFirst_mem_takenWords_iff (property : String) :
    Text.lowerFirst property ∈ takenWords ↔
      ∃ word ∈ takenWords, property = word ∨ property = capitalized word := by
  constructor
  · intro taken
    exact ⟨_, taken, (lowerFirst_eq_plainWord_iff (isPlainWord_of_mem_takenWords _ taken)).mp rfl⟩
  · rintro ⟨word, taken, written⟩
    have plain := isPlainWord_of_mem_takenWords word taken
    rwa [(lowerFirst_eq_plainWord_iff plain).mpr written]

/-! ## Graphs with such properties -/

theorem mem_declarations_append {root : Dictionary} {key : String} {entries : Dictionary} :
    ⟨key, entries, none⟩ ∈
      declarations rootProperty (.dictionary (root ++ [(key, .dictionary entries)])) := by
  rw [declarations, entriesDeclarations_append, entriesDeclarations, declarations]
  simp

theorem offence?_dictionary_eq_none {property : String} {entries : Dictionary}
    (identifier : Code.isIdentifier (Text.lowerFirst property) = true) :
    offence? property (.dictionary entries) = none :=
  if_pos identifier

/-- The property of the root is fine, so nothing but its entries can stand against a graph. -/
theorem firstOffence?_root (root : Dictionary) :
    firstOffence? (preorder rootProperty (.dictionary root)) =
      firstOffence? (entriesPreorder root) := by
  have identifier : Code.isIdentifier (Text.lowerFirst rootProperty) = true := by decide
  rw [preorder, firstOffence?_cons, offence?_dictionary_eq_none identifier, Option.none_or]

/-- One more object does no harm if its property turns into an identifier. -/
theorem exists_product_concat {root : Dictionary} {label key : String} {product : Product}
    (compiled : compile root label = .ok product)
    (identifier : Code.isIdentifier (Text.lowerFirst key) = true) :
    ∃ larger, compile (root ++ [(key, .dictionary [])]) label = .ok larger := by
  have fit := fit_of_compile compiled
  rw [firstOffence?_root] at fit
  apply exists_product_of_fit
  have added : entriesPreorder [(key, .dictionary [])] = [(key, .dictionary [])] := rfl
  rw [firstOffence?_root, entriesPreorder_append, firstOffence?_append, fit, Option.none_or, added,
    firstOffence?_cons, offence?_dictionary_eq_none identifier, Option.none_or]
  rfl

/--
Whatever a factory declares is bound to an identifier, and all of these names
can be declared there if and only if no object hangs off a word that is taken,
or off one with a capital in front.  Nothing keeps such properties out: every
graph that has a factory still has one with an object added under such a word.
-/
theorem compile_usable_iff {root : Dictionary} {label : String} {product : Product}
    (compiled : compile root label = .ok product) :
    let declared := declarations rootProperty (.dictionary root)
    product.source = prologueText label ++ declarationsText label declared ++ epilogueText ∧
      (∀ declaration ∈ declared,
        Code.isIdentifier declaration.binding = true ∧
          ∃ others, declaration.text label =
            Code.blanks Code.statementIndent ++
              ("var " ++ declaration.binding ++ " = new " ++ others)) ∧
      ((∀ declaration ∈ declared, UsableLocal declaration.binding) ↔
        ∀ declaration ∈ declared, ∀ word ∈ takenWords,
          declaration.property ≠ word ∧ declaration.property ≠ capitalized word) ∧
      ∀ word ∈ takenWords, ∀ key ∈ [word, capitalized word],
        ∃ larger, compile (root ++ [(key, .dictionary [])]) label = .ok larger ∧
          ∃ declaration ∈
            declarations rootProperty (.dictionary (root ++ [(key, .dictionary [])])),
            declaration.binding = word := by
  intro declared
  have identifiers := isIdentifier_of_compile compiled
  refine ⟨compile_source compiled, ?_, ?_, ?_⟩
  · intro declaration member
    refine ⟨identifiers declaration member, ?_⟩
    rw [Declaration.text, Declaration.openingText]
    simp only [String.append_assoc]
    exact ⟨_, rfl⟩
  · refine forall₂_congr fun declaration member => ?_
    rw [usableLocal_iff (identifiers declaration member), Declaration.binding,
      lowerFirst_mem_takenWords_iff]
    simp
  · intro word taken key choice
    have lowered : Text.lowerFirst key = word :=
      (lowerFirst_eq_plainWord_iff (isPlainWord_of_mem_takenWords word taken)).mpr
        (by simpa using choice)
    have identifier : Code.isIdentifier (Text.lowerFirst key) = true := by
      rw [lowered]
      exact isIdentifier_of_mem_takenWords word taken
    rcases exists_product_concat compiled identifier with ⟨larger, compiledLarger⟩
    exact ⟨larger, compiledLarger, _, mem_declarations_append, lowered⟩

/-- A graph with objects that hang off a reserved word and off the name of the parameter. -/
def shadowingGraph : Dictionary :=
  [("Class", .dictionary [("W", .array [.integer 500])]), ("Document", .stream [] [1])]

theorem compile_usable_iff_shadowingGraph :
    ∃ product, compile shadowingGraph "Bold" = .ok product ∧
      (∀ declaration ∈ declarations rootProperty (.dictionary shadowingGraph),
        Code.isIdentifier declaration.binding = true) ∧
      ¬ ∀ declaration ∈ declarations rootProperty (.dictionary shadowingGraph),
        UsableLocal declaration.binding := by
  have fit : firstOffence? (preorder rootProperty (.dictionary shadowingGraph)) = none := by
    decide
  rcases exists_product_of_fit fit "Bold" with ⟨product, compiled⟩
  rcases compile_usable_iff compiled with ⟨-, identifiers, usable_iff, -⟩
  refine ⟨product, compiled, fun declaration member => (identifiers declaration member).1, ?_⟩
  rw [usable_iff]
  intro apart
  have first : (⟨"Class", [("W", .array [.integer 500])], none⟩ : Declaration) ∈
      declarations rootProperty (.dictionary shadowingGraph) := List.mem_cons_self
  exact (apart _ first "class" (by decide)).2 (by decide)

/-- The factory of this graph declares a reserved word and its own parameter. -/
theorem not_usable_shadowingGraph :
    ∃ product, compile shadowingGraph "Bold" = .ok product ∧
      (declarations rootProperty (.dictionary shadowingGraph)).map Declaration.binding =
        ["class", "document", "font"] ∧
      ¬ UsableLocal "class" ∧ ¬ UsableLocal "document" := by
  have fit : firstOffence? (preorder rootProperty (.dictionary shadowingGraph)) = none := by
    decide
  rcases exists_product_of_fit fit "Bold" with ⟨product, compiled⟩
  refine ⟨product, compiled, by decide, ?_, ?_⟩
  · exact fun usable => usable.notReserved (by decide)
  · exact fun usable => usable.notParameter rfl

end FontCompiler.Factory
