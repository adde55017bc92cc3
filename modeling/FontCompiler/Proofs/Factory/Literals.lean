import FontCompiler.Factory
import FontCompiler.Proofs.Text.Digits

/-!
# Literals of single-precision numbers

A finite number is written with digits on both sides of a point, six behind it,
and a suffix.  The other numbers are written as words, which are no literals.
-/

namespace FontCompiler.Factory

open Numeric

/-- The decimal digits. -/
def IsDigit (char : Char) : Prop :=
  '0' ≤ char ∧ char ≤ '9'

instance (char : Char) : Decidable (IsDigit char) :=
  inferInstanceAs (Decidable (_ ∧ _))

/-- A minus sign or none, digits, a point, six digits, and the suffix of single precision. -/
structure IsFloatLiteral (text : String) : Prop where
  shape : ∃ (negative : Bool) (whole fraction : List Char),
    text.toList = (if negative then ['-'] else []) ++ (whole ++ '.' :: (fraction ++ ['f'])) ∧
      whole ≠ [] ∧ (∀ char ∈ whole, IsDigit char) ∧
      fraction.length = 6 ∧ ∀ char ∈ fraction, IsDigit char

theorem IsFloatLiteral.point_mem {text : String} (literal : IsFloatLiteral text) :
    '.' ∈ text.toList := by
  rcases literal.shape with ⟨negative, whole, fraction, shape, -⟩
  rw [shape]
  simp

theorem isDigit_of_mem_toDigits (number : Nat) : ∀ char ∈ Nat.toDigits 10 number, IsDigit char :=
  Text.forall_mem_toDigits (by decide) IsDigit (by decide) number

/-- Fixed places are as many digits behind a point. -/
theorem exists_digits_of_fixedPlaces {places : Nat} (positive : 0 < places) (units : Nat) :
    ∃ whole fraction,
      (fixedPlaces .binary32 places units).toList = whole ++ '.' :: fraction ∧
        whole ≠ [] ∧ (∀ char ∈ whole, IsDigit char) ∧
        fraction.length = places ∧ ∀ char ∈ fraction, IsDigit char := by
  let scaled := roundHalfEven (units * 10 ^ places) FloatFormat.binary32.one
  refine
    ⟨Nat.toDigits 10 (scaled / 10 ^ places),
      Text.padZeros places (Nat.toDigits 10 (scaled % 10 ^ places)), ?_, Nat.toDigits_ne_nil,
      isDigit_of_mem_toDigits _, ?_, ?_⟩
  · simp [fixedPlaces, decimalDigits, DecimalStyle.zeros, Text.padZeros, scaled]
  · exact
      Text.length_padZeros_toDigits (by decide) positive
        (Nat.mod_lt _ (Nat.pow_pos (by decide)))
  · exact Text.forall_mem_padZeros (by decide) places (isDigit_of_mem_toDigits _)

theorem isFloatLiteral_fixedPlaces (negative : Bool) (units : Nat) :
    IsFloatLiteral
      ((if negative then "-" else "") ++ fixedPlaces .binary32 6 units ++ "f") := by
  rcases exists_digits_of_fixedPlaces (by decide : 0 < 6) units with
    ⟨whole, fraction, written, nonempty, digits, sixPlaces, fractionDigits⟩
  refine ⟨negative, whole, fraction, ?_, nonempty, digits, sixPlaces, fractionDigits⟩
  have suffix : "f".toList = ['f'] := rfl
  rw [String.append_assoc, String.toList_append, String.toList_append, written, suffix,
    List.append_assoc, List.cons_append]
  cases negative <;> rfl

/-- What stands for the numbers that have no literal. -/
def wordsOfNonFinite : List String :=
  ["inff", "-inff", "NaNf"]

theorem not_isFloatLiteral_of_mem {text : String} (word : text ∈ wordsOfNonFinite) :
    ¬ IsFloatLiteral text := by
  have pointless : ∀ text ∈ wordsOfNonFinite, '.' ∉ text.toList := by decide
  exact fun literal => pointless text word literal.point_mem

/-- A number has a literal if and only if it is finite, and else it is one of the words. -/
theorem isFloatLiteral_floatLiteral (number : Binary32) :
    IsFloatLiteral (floatLiteral number) ∧ number.value.isFinite = true ∨
      floatLiteral number ∈ wordsOfNonFinite ∧ number.value.isFinite = false := by
  rw [floatLiteral]
  cases number.value with
  | nan => exact .inr ⟨by decide, rfl⟩
  | infinite negative => exact .inr ⟨by cases negative <;> decide, rfl⟩
  | finite negative units => exact .inl ⟨isFloatLiteral_fixedPlaces negative units, rfl⟩

end FontCompiler.Factory
