import FontCompiler.Proofs.Text.Digits
import Mathlib.Data.Nat.Digits.Defs

/-!
# Numerals

What a row of digits stands for, said without reading it: every character is the
digit of a value below the base, and the number is the positional value of the
row.  Rows that are read digit by digit are read as just this number, in base ten
and in base sixteen.
-/

namespace FontCompiler.Text

/-- The character is the digit of a value in a base; a letter is one in either case. -/
def IsDigitOf (base : Nat) (char : Char) (digit : Nat) : Prop :=
  digit < base ∧ (char = digit.digitChar ∨ char = digit.digitChar.toUpper)

instance (base : Nat) (char : Char) (digit : Nat) : Decidable (IsDigitOf base char digit) :=
  inferInstanceAs (Decidable (_ ∧ _))

/-- The characters are digits in a base, the highest first, and their value is the number. -/
def IsNumeral (base : Nat) (chars : List Char) (number : Nat) : Prop :=
  ∃ digits, List.Forall₂ (IsDigitOf base) chars digits ∧
    Nat.ofDigits base digits.reverse = number

theorem ofDigits_eq_ofDigits_reverse (base : Nat) (digits : List Nat) :
    ofDigits base digits = Nat.ofDigits base digits.reverse := by
  rw [Nat.ofDigits_eq_foldr, List.foldr_reverse, ofDigits]
  congr 1
  funext value digit
  rw [Nat.cast_id, Nat.mul_comm, Nat.add_comm]

/-- A reader of the digits of a base reads numerals, and each as its value. -/
theorem denotes_iff_isNumeral {digit? : Char → Option Nat} {base : Nat}
    (reads : ∀ char digit, digit? char = some digit ↔ IsDigitOf base char digit)
    {chars : List Char} {number : Nat} :
    Denotes digit? base chars number ↔ IsNumeral base chars number := by
  rw [← map_ofDigits_eq_some_iff, Option.map_eq_some_iff, IsNumeral]
  refine exists_congr fun digits => ?_
  rw [mapM_eq_some_iff, ofDigits_eq_ofDigits_reverse]
  simp only [reads]

theorem isDigitOf_of_hexDigit? :
    ∀ codepoint < 0x80, ∀ digit ∈ hexDigit? (Char.ofNat codepoint),
      IsDigitOf 16 (Char.ofNat codepoint) digit := by
  decide +kernel

theorem isDigitOf_of_decimalDigit? :
    ∀ codepoint < 0x80, ∀ digit ∈ decimalDigit? (Char.ofNat codepoint),
      IsDigitOf 10 (Char.ofNat codepoint) digit := by
  decide +kernel

theorem lt_of_le_char {char last : Char} (below : char ≤ last) (ascii : last.toNat < 0x80) :
    char.toNat < 0x80 :=
  Nat.lt_of_le_of_lt (UInt32.le_iff_toNat_le.mp below) ascii

theorem hexDigit?_eq_some_iff (char : Char) (digit : Nat) :
    hexDigit? char = some digit ↔ IsDigitOf 16 char digit := by
  constructor
  · intro read
    have ascii : char.toNat < 0x80 := by
      unfold hexDigit? at read
      split at read
      · rename_i range
        exact lt_of_le_char range.2 (by decide)
      · split at read
        · rename_i range
          exact lt_of_le_char range.2 (by decide)
        · split at read
          · rename_i range
            exact lt_of_le_char range.2 (by decide)
          · cases read
    have digits := isDigitOf_of_hexDigit? char.toNat ascii
    rw [Char.ofNat_toNat] at digits
    exact digits digit read
  · rintro ⟨small, rfl | rfl⟩
    · exact hexDigit?_digitChar digit small
    · exact hexDigit?_toUpper_digitChar digit small

theorem toUpper_digitChar : ∀ digit < 10, digit.digitChar.toUpper = digit.digitChar := by
  decide

theorem decimalDigit?_eq_some_iff (char : Char) (digit : Nat) :
    decimalDigit? char = some digit ↔ IsDigitOf 10 char digit := by
  constructor
  · intro read
    have ascii : char.toNat < 0x80 := by
      unfold decimalDigit? at read
      split at read
      · rename_i range
        exact lt_of_le_char range.2 (by decide)
      · cases read
    have digits := isDigitOf_of_decimalDigit? char.toNat ascii
    rw [Char.ofNat_toNat] at digits
    exact digits digit read
  · rintro ⟨small, written⟩
    rw [toUpper_digitChar digit small, or_self] at written
    rw [written]
    exact decimalDigit?_digitChar digit small

end FontCompiler.Text
