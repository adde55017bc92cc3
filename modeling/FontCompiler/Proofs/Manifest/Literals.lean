import FontCompiler.Manifest.Lowering
import FontCompiler.Proofs.Factory.Literals
import FontCompiler.Proofs.Factory.Slots
import FontCompiler.Proofs.Numeric.Rounding

/-!
# Literals of the numbers of a manifest

A number of a graph in JSON notation is written as the digits of an integer of
sixty-four bits, or else as the literal of the nearest single.  The second form
fails for the numbers that are rounded out of single precision: those are
neither refused nor replaced, but written as a word for infinity.
-/

namespace FontCompiler.Manifest

open FontCompiler.Graph Json Numeric Factory

/-! ## Two forms -/

/-- Whether a number is an integer of sixty-four bits with a sign. -/
def IsInteger64 : Number → Prop
  | .int value => Int64.minValue.toInt ≤ value ∧ value ≤ Int64.maxValue.toInt
  | .float _ => False

/-- The double of a number. -/
def double : Number → Binary64
  | .int value => .ofInt value
  | .float value => value

/-- The literal of a number: the digits of an integer of sixty-four bits, and else that of a
single. -/
def numberLiteral : Number → String
  | .int value =>
    if Int64.minValue.toInt ≤ value ∧ value ≤ Int64.maxValue.toInt then decimalInt value
    else floatLiteral (.ofBinary64 (.ofInt value))
  | .float value => floatLiteral (.ofBinary64 value)

/-- The number is an integer of sixty-four bits, or its double is finite and not rounded out of
single precision. -/
def FitsLiteral (number : Number) : Prop :=
  IsInteger64 number ∨
    ∃ negative units, (double number).value = .finite negative units ∧
      units < Binary32.bound * FloatFormat.binary64.one

/-- The text is the decimal digits of the integer, or has the form of a float literal. -/
def WellFormed (number : Number) (text : String) : Prop :=
  (∃ value, number = .int value ∧ IsInteger64 number ∧ text = decimalInt value) ∨
    IsFloatLiteral text

theorem numberLiteral_of_not_isInteger64 {number : Number} (wide : ¬ IsInteger64 number) :
    numberLiteral number = floatLiteral (.ofBinary64 (double number)) := by
  cases number with
  | int value => exact if_neg wide
  | float value => rfl

/-- The literal of a number is well formed if the number fits, and else one of the words. -/
theorem numberLiteral_cases (number : Number) :
    FitsLiteral number ∧ WellFormed number (numberLiteral number) ∨
      ¬ FitsLiteral number ∧ numberLiteral number ∈ wordsOfNonFinite := by
  by_cases integer : IsInteger64 number
  · left
    refine ⟨.inl integer, .inl ?_⟩
    cases number with
    | int value => exact ⟨value, rfl, integer, if_pos integer⟩
    | float value => cases integer
  · rw [numberLiteral_of_not_isInteger64 integer]
    have finite_iff := Binary32.isFinite_ofBinary64_iff (double number)
    rcases isFloatLiteral_floatLiteral (Binary32.ofBinary64 (double number)) with
      ⟨literal, finite⟩ | ⟨word, infinite⟩
    · exact .inl ⟨.inr (finite_iff.mp finite), .inr literal⟩
    · right
      refine ⟨?_, word⟩
      rintro (integer' | within)
      · exact integer integer'
      · rw [finite_iff.mpr within] at infinite
        cases infinite

theorem wellFormed_numberLiteral_iff (number : Number) :
    WellFormed number (numberLiteral number) ↔ FitsLiteral number := by
  rcases numberLiteral_cases number with ⟨fits, literal⟩ | ⟨misfit, word⟩
  · exact iff_of_true literal fits
  · refine iff_of_false ?_ misfit
    rintro (⟨value, -, integer, -⟩ | literal)
    · exact misfit (.inl integer)
    · exact not_isFloatLiteral_of_mem word literal

/-! ## Numbers as nodes -/

theorem toInt_ofInt_of_isInteger64 {value : Int} (integer : IsInteger64 (.int value)) :
    (Int64.ofInt value).toInt = value :=
  Int64.toInt_ofInt_of_le integer.1 (by
    have top : Int64.maxValue.toInt = 2 ^ 63 - 1 := rfl
    have below := integer.2
    omega)

theorem useSite_lowerNumber (property : String) (nesting : Nat) (number : Number) :
    useSite property nesting (lowerNumber number) = numberLiteral number := by
  cases number with
  | int value =>
      rw [lowerNumber, numberLiteral]
      split
      · rename_i integer
        rw [useSite, toInt_ofInt_of_isInteger64 integer]
      · rw [useSite]
  | float value => rw [lowerNumber, numberLiteral, useSite]

theorem lowerNumber_cases (number : Number) :
    (∃ value, lowerNumber number = .integer value) ∨
      ∃ value, lowerNumber number = .float value := by
  cases number with
  | int value =>
      rw [lowerNumber]
      split
      · exact .inl ⟨_, rfl⟩
      · exact .inr ⟨_, rfl⟩
  | float value => exact .inr ⟨_, rfl⟩

@[simp]
theorem declarations_lowerNumber (property : String) (number : Number) :
    declarations property (lowerNumber number) = [] := by
  rcases lowerNumber_cases number with ⟨value, same⟩ | ⟨value, same⟩ <;> rw [same] <;> rfl

@[simp]
theorem firstOffence?_lowerNumber (property : String) (number : Number) :
    firstOffence? (preorder property (lowerNumber number)) = none := by
  rcases lowerNumber_cases number with ⟨value, same⟩ | ⟨value, same⟩ <;> rw [same] <;> rfl

/-- A number is a node without parts, at whose place its literal stands. -/
theorem slot_lowerNumber : Slot numberLiteral lowerNumber where
  holds label property nesting := by
    have carries := (Carries.self numberLiteral).of_eq (useSite_lowerNumber property nesting)
    exact .used carries ⟨"", fun number => by simp⟩
  offence property choice other := by simp

end FontCompiler.Manifest
