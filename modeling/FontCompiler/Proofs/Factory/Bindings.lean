import FontCompiler.Proofs.Factory.FileNames

/-!
# Properties and the names they are bound to

An object is bound to the name that its property turns into: the first character
is put into lower case, and the outcome has to be an identifier.  The mapping of
Unicode is applied to that character, while identifiers are texts of ASCII, so
this module says over all texts which of them are accepted, and which two of the
accepted ones are bound to the same name.

The Kelvin sign is the only character outside of ASCII that is accepted, and it
counts as a letter k.
-/

namespace FontCompiler.Factory

/-! ## Accepted properties -/

/-- A text that starts with a letter of ASCII, an underscore or the Kelvin sign, and goes on with
letters and digits of ASCII and underscores. -/
def IsBindable (property : String) : Prop :=
  ∃ first others, property.toList = first :: others ∧
    (first.isAlpha = true ∨ first = '_' ∨ first = Text.kelvinSign) ∧
    ∀ char ∈ others, char.isAlphanum = true ∨ char = '_'

theorem isIdentifierStart_iff {char : Char} :
    Code.isIdentifierStart char = true ↔ char.isAlpha = true ∨ char = '_' := by
  have alpha :
      char.isAlpha = (decide ('A' ≤ char ∧ char ≤ 'Z') || ('a' ≤ char && char ≤ 'z')) :=
    rfl
  rw [alpha, Bool.decide_and, Code.isIdentifierStart, Bool.or_eq_true, beq_iff_eq]

theorem isIdentifierPart_iff {char : Char} :
    Code.isIdentifierPart char = true ↔ char.isAlphanum = true ∨ char = '_' := by
  have part : Code.isIdentifierPart char = (Code.isIdentifierStart char || char.isDigit) := rfl
  rw [part, Bool.or_eq_true, isIdentifierStart_iff, Char.isAlphanum, Bool.or_eq_true,
    or_right_comm]

/-- A character up to its case; the Kelvin sign is a letter k. -/
def caseless (char : Char) : Char :=
  if char = Text.kelvinSign then 'k' else char.toLower

theorem lowerChar_eq_caseless {char : Char} (starts : Text.StartsIdentifier char) :
    Text.lowerChar char = [caseless char] := by
  by_cases kelvin : char = Text.kelvinSign
  · subst kelvin
    decide +kernel
  · have start := starts.resolve_right kelvin
    have below : char.toNat < 0x80 :=
      Nat.lt_succ_of_lt (Text.ascii_of_isIdentifierPart (Text.isIdentifierPart_of_start start)).2
    have lowered := Text.lowerChar_of_ascii char.toNat below
    rw [Char.ofNat_toNat] at lowered
    rw [lowered, caseless, if_neg kelvin]

theorem start_toLower_of_ascii :
    ∀ codepoint < 0x80, Code.isIdentifierStart (Char.ofNat codepoint) = true →
      Code.isIdentifierStart (Char.ofNat codepoint).toLower = true := by
  decide +kernel

theorem isIdentifierStart_caseless {char : Char} (starts : Text.StartsIdentifier char) :
    Code.isIdentifierStart (caseless char) = true := by
  by_cases kelvin : char = Text.kelvinSign
  · subst kelvin
    decide
  · have start := starts.resolve_right kelvin
    have ascii := Text.ascii_of_isIdentifierPart (Text.isIdentifierPart_of_start start)
    have lowered := start_toLower_of_ascii char.toNat (Nat.lt_succ_of_lt ascii.2)
    rw [Char.ofNat_toNat] at lowered
    rw [caseless, if_neg kelvin]
    exact lowered start

theorem startsIdentifier_iff {char : Char} :
    Text.StartsIdentifier char ↔
      char.isAlpha = true ∨ char = '_' ∨ char = Text.kelvinSign := by
  rw [Text.StartsIdentifier, isIdentifierStart_iff, or_assoc]

theorem lowerFirst_of_starts {property : String} {first : Char} {others : List Char}
    (shape : property.toList = first :: others) (starts : Text.StartsIdentifier first) :
    (Text.lowerFirst property).toList = caseless first :: others := by
  rw [Text.lowerFirst, shape, String.toList_ofList, lowerChar_eq_caseless starts,
    List.singleton_append]

/-- Exactly these texts turn into identifiers. -/
theorem isIdentifier_lowerFirst_iff {property : String} :
    Code.isIdentifier (Text.lowerFirst property) = true ↔ IsBindable property := by
  constructor
  · intro identifier
    rcases Text.exists_of_lowerFirst identifier with ⟨first, others, shape, starts, parts⟩
    refine ⟨first, others, shape, startsIdentifier_iff.mp starts, fun char member => ?_⟩
    exact isIdentifierPart_iff.mp (parts char member)
  · rintro ⟨first, others, shape, start, parts⟩
    have starts := startsIdentifier_iff.mpr start
    rw [Code.isIdentifier, lowerFirst_of_starts shape starts, Bool.and_eq_true,
      List.all_eq_true]
    exact
      ⟨isIdentifierStart_caseless starts, fun char member =>
        isIdentifierPart_iff.mpr (parts char member)⟩

/-! ## Properties with one name -/

/-- Two texts have the same characters, the first ones up to their case. -/
def SameUpToCase (property other : String) : Prop :=
  property.toList.head?.map caseless = other.toList.head?.map caseless ∧
    property.toList.tail = other.toList.tail

/-- Accepted properties have the same name if and only if nothing but the case of their first
characters tells them apart. -/
theorem lowerFirst_eq_lowerFirst_iff {property other : String} (bindable : IsBindable property)
    (bindable' : IsBindable other) :
    Text.lowerFirst property = Text.lowerFirst other ↔ SameUpToCase property other := by
  rcases bindable with ⟨first, others, shape, start, -⟩
  rcases bindable' with ⟨first', others', shape', start', -⟩
  rw [← String.toList_inj, lowerFirst_of_starts shape (startsIdentifier_iff.mpr start),
    lowerFirst_of_starts shape' (startsIdentifier_iff.mpr start'), SameUpToCase, shape, shape']
  simp

/-! ## Frames -/

theorem beginFrame_of_isIdentifier {property : String}
    (identifier : Code.isIdentifier (Text.lowerFirst property) = true) (label : String)
    (state : State) :
    ∃ opened, beginFrame label property state = .ok (Text.lowerFirst property, opened) := by
  unfold beginFrame
  simp only [identifier, Bool.not_true, Bool.false_eq_true, if_false]
  exact ⟨_, rfl⟩

theorem beginFrame_of_not_isIdentifier {property : String}
    (other : Code.isIdentifier (Text.lowerFirst property) = false) (label : String)
    (state : State) :
    beginFrame label property state = state.stop (.invalidBinding property) := by
  unfold beginFrame
  simp only [other, Bool.not_false, if_true]

/--
A frame is opened for a property if and only if the property starts with a letter
of ASCII, an underscore or the Kelvin sign and goes on with letters, digits and
underscores; any other property is refused.  Two accepted properties are bound to
the same name if and only if they are the same up to the case of their first
characters.  So a property has one name wherever it occurs, and objects with
different names have different sidecar files under one label.
-/
theorem beginFrame_binds (label property : String) (state : State) :
    (Succeeds (beginFrame label property state) ↔ IsBindable property) ∧
      (¬ IsBindable property →
        beginFrame label property state = state.stop (.invalidBinding property)) ∧
      ∀ (binding : String) (opened : State),
        beginFrame label property state = .ok (binding, opened) →
        ∀ (label' other binding' : String) (state' opened' : State),
          beginFrame label' other state' = .ok (binding', opened') →
            (binding = binding' ↔ SameUpToCase property other) ∧
              (property = other → binding = binding') ∧
              (binding ≠ binding' → sidecarName label property ≠ sidecarName label other) := by
  refine ⟨?_, ?_, ?_⟩
  · rw [← isIdentifier_lowerFirst_iff]
    constructor
    · rintro ⟨⟨binding, opened⟩, begun⟩
      exact isIdentifier_of_beginFrame begun
    · intro identifier
      rcases beginFrame_of_isIdentifier identifier label state with ⟨opened, begun⟩
      exact ⟨_, begun⟩
  · intro unbindable
    rw [← isIdentifier_lowerFirst_iff, Bool.not_eq_true] at unbindable
    exact beginFrame_of_not_isIdentifier unbindable label state
  · intro binding opened begun label' other binding' state' opened' begun'
    have bindable := isIdentifier_lowerFirst_iff.mp (isIdentifier_of_beginFrame begun)
    have bindable' := isIdentifier_lowerFirst_iff.mp (isIdentifier_of_beginFrame begun')
    rw [(beginFrame_opens begun).bound, (beginFrame_opens begun').bound]
    refine ⟨lowerFirst_eq_lowerFirst_iff bindable bindable', congrArg Text.lowerFirst, ?_⟩
    intro different same
    exact different (congrArg Text.lowerFirst (sidecarName_injective same))

/-- A property that starts with the Kelvin sign. -/
def kelvinProperty : String :=
  String.ofList [Text.kelvinSign, 'e', 'y', 's']

/-- The Kelvin sign and the letter lead to one name, and a digit more to another. -/
theorem beginFrame_binds_kelvinProperty :
    ¬ IsBindable "Font-File" ∧
      beginFrame "Bold" "Font-File" .initial =
        State.initial.stop (.invalidBinding "Font-File") ∧
      ∃ kelvin letter longer,
        beginFrame "Bold" kelvinProperty .initial = .ok ("keys", kelvin) ∧
          beginFrame "Bold" "Keys" .initial = .ok ("keys", letter) ∧
          beginFrame "Bold" "Keys2" .initial = .ok ("keys2", longer) ∧
          SameUpToCase kelvinProperty "Keys" ∧
          sidecarName "Bold" kelvinProperty ≠ sidecarName "Bold" "Keys2" := by
  have hyphen : ¬ IsBindable "Font-File" := by
    rw [← isIdentifier_lowerFirst_iff]
    decide
  have opens {property binding : String} (lowered : Text.lowerFirst property = binding)
      (identifier : Code.isIdentifier binding = true) :
      ∃ opened, beginFrame "Bold" property .initial = .ok (binding, opened) := by
    subst lowered
    exact beginFrame_of_isIdentifier identifier "Bold" .initial
  have lowered : Text.lowerFirst kelvinProperty = "keys" := by decide +kernel
  rcases opens lowered (by decide) with ⟨kelvin, begun⟩
  rcases @opens "Keys" "keys" (by decide) (by decide) with ⟨letter, begunLetter⟩
  rcases @opens "Keys2" "keys2" (by decide) (by decide) with ⟨longer, begunLonger⟩
  rcases beginFrame_binds "Bold" kelvinProperty .initial with ⟨-, -, binds⟩
  have compared := binds _ _ begun
  exact
    ⟨hyphen, (beginFrame_binds "Bold" "Font-File" .initial).2.1 hyphen, kelvin, letter, longer,
      begun, begunLetter, begunLonger, (compared _ _ _ _ _ begunLetter).1.mp rfl,
      (compared _ _ _ _ _ begunLonger).2.2 (by decide)⟩

end FontCompiler.Factory
