import FontCompiler.Text.Utf16

/-!
# The units of a text

Every character has a unit, and the units of a text are those of its characters
one after the other.  A character beyond the basic plane is a high and a low
surrogate, and its high one is at the position that the units before it leave.
-/

namespace FontCompiler.Text

/-- A surrogate is a unit that stands for no character of its own. -/
def IsSurrogate (unit : Nat) : Prop :=
  0xD800 ≤ unit ∧ unit ≤ 0xDFFF

theorem not_isSurrogate_of_isScalar {codepoint : Nat}
    (scalar : isScalar codepoint = true) : ¬IsSurrogate codepoint := by
  rintro ⟨low, high⟩
  simp only [isScalar, Bool.or_eq_true, Bool.and_eq_true, decide_eq_true_eq]
    at scalar
  omega

@[simp]
theorem utf16_append (first second : String) :
    utf16 (first ++ second) = utf16 first ++ utf16 second := by
  rw [utf16, String.toList_append, List.flatMap_append, ← utf16, ← utf16]

theorem exists_unitsOfChar (char : Char) :
    ∃ unit units, unitsOfChar char = unit :: units := by
  rw [unitsOfChar]
  split
  · exact ⟨_, _, rfl⟩
  · exact ⟨_, _, rfl⟩

theorem exists_surrogates {char : Char} (beyond : 0xFFFF < char.toNat) :
    ∃ high low, unitsOfChar char = [high, low] ∧ IsSurrogate high := by
  have largest : char.toNat < 0x110000 := by
    rcases char.valid with small | ⟨-, large⟩
    · exact Nat.lt_trans small (by decide)
    · exact large
  have outside : ¬char.toNat < 0x10000 := by omega
  refine ⟨0xD800 + (char.toNat - 0x10000) / 0x400,
    0xDC00 + (char.toNat - 0x10000) % 0x400, ?_, ?_, ?_⟩
  · rw [unitsOfChar, if_neg outside]
  · omega
  · omega

/-- The high surrogate of a character stands behind the units of those in front of it. -/
theorem exists_utf16_eq_append {text : String} {front back : List Char}
    {char : Char} (row : text.toList = front ++ char :: back)
    (beyond : 0xFFFF < char.toNat) :
    ∃ high units, utf16 text = utf16 (String.ofList front) ++ high :: units ∧
      IsSurrogate high := by
  rcases exists_surrogates beyond with ⟨high, low, spelled, surrogate⟩
  refine ⟨high, low :: back.flatMap unitsOfChar, ?_, surrogate⟩
  rw [utf16, utf16, row, String.toList_ofList, List.flatMap_append,
    List.flatMap_cons, spelled]
  rfl

theorem exists_utf16_of_ne_empty {text : String} (nonempty : text ≠ "") :
    ∃ unit units, utf16 text = unit :: units := by
  rw [utf16]
  cases listed : text.toList with
  | nil => exact absurd (String.toList_eq_nil_iff.mp listed) nonempty
  | cons char chars =>
      rcases exists_unitsOfChar char with ⟨unit, units, spelled⟩
      rw [List.flatMap_cons, spelled]
      exact ⟨_, _, rfl⟩

end FontCompiler.Text
