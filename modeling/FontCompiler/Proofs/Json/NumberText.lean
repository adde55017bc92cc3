import FontCompiler.Json.NumberText
import FontCompiler.Proofs.Except

/-!
# Numbers in front of other text

A number ends in front of the first character that cannot belong to it: no
quote, comma or bracket can.  So what is read of a text in front of such a
character is what is read of the text alone, with the character and all behind
it left over.  The faults may differ: alone, the text may break off where
otherwise the character is in the way.
-/

namespace FontCompiler.Json.NumberText

/-- The characters that can belong to a number. -/
def IsNumeric (char : Char) : Prop :=
  Text.decimalDigit? char ≠ none ∨ char ∈ ['.', 'e', 'E', '+', '-']

instance (char : Char) : Decidable (IsNumeric char) :=
  inferInstanceAs (Decidable (_ ∨ _))

theorem ne_of_isNumeric {char other : Char} (numeric : IsNumeric char)
    (foreign : ¬ IsNumeric other) : char ≠ other := by
  rintro rfl
  exact foreign numeric

/-- The text goes on with nothing that belongs to a number. -/
def Ends (tail : List Char) : Prop :=
  ∀ char ∈ tail.head?, ¬ IsNumeric char

theorem ends_nil : Ends [] := nofun

theorem ends_cons {char : Char} {chars : List Char} (foreign : ¬ IsNumeric char) :
    Ends (char :: chars) := by
  intro other first
  cases first
  exact foreign

/-- A reading of a text, and the reading of the same text with more behind it. -/
inductive Continues (chars tail : List Char) : Reading → Reading → Prop
  | fails (alone behind : SyntaxFault) :
      Continues chars tail (.error alone) (.error behind)
  | reads (number : Number) {rest : List Char} (inside : rest ⊆ chars) :
      Continues chars tail (.ok (number, rest)) (.ok (number, rest ++ tail))

namespace Continues

variable {chars tail : List Char} {alone behind : Reading}

theorem mono {others : List Char} (continues : Continues chars tail alone behind)
    (within : chars ⊆ others) : Continues others tail alone behind := by
  cases continues with
  | fails first second => exact .fails first second
  | reads number inside => exact .reads number (List.Subset.trans inside within)

/-- A computed number leaves the same rest, or fails, on both sides. -/
theorem of_number (computed : Except SyntaxFault Number) {rest : List Char}
    (inside : rest ⊆ chars) :
    Continues chars tail (do return (← computed, rest))
      (do return (← computed, rest ++ tail)) := by
  cases computed with
  | error fault => exact .fails fault fault
  | ok number => exact .reads number inside

end Continues

theorem spanDigits_subset (chars : List Char) :
    (spanDigits chars).2 ⊆ chars := by
  induction chars with
  | nil => exact List.Subset.refl []
  | cons char chars ih =>
      rw [spanDigits]
      cases Text.decimalDigit? char with
      | none => exact List.Subset.refl _
      | some digit => exact List.Subset.trans ih (List.subset_cons_self char chars)

theorem exponentSign_subset (chars : List Char) :
    (exponentSign chars).2 ⊆ chars := by
  unfold exponentSign
  split
  · exact List.subset_cons_self _ _
  · exact List.subset_cons_self _ _
  · exact List.Subset.refl _

section

variable {tail : List Char} (ends : Ends tail)

include ends

theorem decimalDigit?_of_ends {char : Char} (first : tail.head? = some char) :
    Text.decimalDigit? char = none :=
  Classical.not_not.mp fun digit => ends char first (.inl digit)

theorem ne_of_ends {char : Char} {chars : List Char} (numeric : IsNumeric char) :
    tail ≠ char :: chars := by
  rintro rfl
  exact ends char rfl numeric

theorem spanDigits_of_ends : spanDigits tail = ([], tail) := by
  cases tail with
  | nil => rfl
  | cons char chars => rw [spanDigits, decimalDigit?_of_ends ends rfl]

theorem spanDigits_append_of_ends (chars : List Char) :
    spanDigits (chars ++ tail) =
      ((spanDigits chars).1, (spanDigits chars).2 ++ tail) := by
  induction chars with
  | nil => exact spanDigits_of_ends ends
  | cons char chars ih =>
      rw [List.cons_append, spanDigits, spanDigits]
      cases Text.decimalDigit? char with
      | none => rfl
      | some digit => simp only [ih]

theorem exponentSign_append (chars : List Char) :
    exponentSign (chars ++ tail) =
      ((exponentSign chars).1, (exponentSign chars).2 ++ tail) := by
  cases chars with
  | nil =>
      rw [List.nil_append, exponentSign]
      · rfl
      · exact fun chars => ne_of_ends ends (by decide)
      · exact fun chars => ne_of_ends ends (by decide)
  | cons char chars =>
      by_cases plus : char = '+'
      · rw [plus]
        rfl
      · by_cases minus : char = '-'
        · rw [minus]
          rfl
        · simp [exponentSign, plus, minus]

theorem readExponentDigits_continues (negative : Bool) (significand : Nat)
    (start : Int) (downwards : Bool) (chars : List Char) :
    Continues chars tail
      (readExponentDigits negative significand start downwards chars)
      (readExponentDigits negative significand start downwards
        (chars ++ tail)) := by
  have inside := spanDigits_subset chars
  unfold readExponentDigits
  rw [spanDigits_append_of_ends ends]
  rcases found : spanDigits chars with ⟨_ | ⟨digit, digits⟩, left⟩
  · cases left <;> cases tail <;> exact .fails _ _
  · rw [found] at inside
    simp only
    split
    · exact .of_number _ inside
    · split
      · exact .fails _ _
      · exact .reads _ inside

theorem readExponent_continues (negative : Bool) (significand : Nat) (start : Int)
    (chars : List Char) :
    Continues chars tail (readExponent negative significand start chars)
      (readExponent negative significand start (chars ++ tail)) := by
  unfold readExponent
  rw [exponentSign_append ends]
  exact
    (readExponentDigits_continues ends negative significand start _ _).mono
      (exponentSign_subset chars)

theorem readScaled_of_ends (negative : Bool) (significand : Nat) (exponent : Int) :
    readScaled negative significand exponent tail = do
      return (← ofParts negative significand exponent, tail) := by
  rw [readScaled]
  · exact fun chars => ne_of_ends ends (by decide)
  · exact fun chars => ne_of_ends ends (by decide)

theorem readScaled_continues (negative : Bool) (significand : Nat) (exponent : Int)
    (chars : List Char) :
    Continues chars tail (readScaled negative significand exponent chars)
      (readScaled negative significand exponent (chars ++ tail)) := by
  cases chars with
  | nil =>
      rw [List.nil_append, readScaled_of_ends ends, readScaled_of_ends ends_nil]
      exact .of_number (ofParts negative significand exponent)
        (List.Subset.refl [])
  | cons char chars =>
      have behind :=
        (readExponent_continues ends negative significand exponent chars).mono
          (List.subset_cons_self char chars)
      by_cases small : char = 'e'
      · rw [small] at behind ⊢
        exact behind
      · by_cases capital : char = 'E'
        · rw [capital] at behind ⊢
          exact behind
        · have ends (chars : List Char) :
              readScaled negative significand exponent (char :: chars) = do
                return (← ofParts negative significand exponent, char :: chars) := by
            simp [readScaled, small, capital]
          rw [List.cons_append, ends, ends]
          exact .of_number (ofParts negative significand exponent)
            (List.Subset.refl _)

theorem readFraction_continues (negative : Bool) (significand : Nat) (start : Int)
    (chars : List Char) :
    Continues chars tail (readFraction negative significand start chars)
      (readFraction negative significand start (chars ++ tail)) := by
  have inside := spanDigits_subset chars
  unfold readFraction
  rw [spanDigits_append_of_ends ends]
  rcases found : spanDigits chars with ⟨_ | ⟨digit, digits⟩, left⟩
  · cases left <;> cases tail <;> exact .fails _ _
  · rw [found] at inside
    exact (readScaled_continues ends negative _ _ left).mono inside

theorem readTail_of_ends {negative : Bool} {digits : List Nat} {significand ignored : Nat}
    (absorbed : absorb significandLimit 0 digits = (significand, ignored)) :
    readTail negative digits tail =
      if ignored = 0 then .ok (ofInteger negative significand, tail)
      else do return (← ofParts negative significand ignored, tail) := by
  unfold readTail
  rw [absorbed]
  dsimp only
  split
  · exact absurd rfl (ne_of_ends ends (by decide))
  · exact absurd rfl (ne_of_ends ends (by decide))
  · exact absurd rfl (ne_of_ends ends (by decide))
  · rfl

theorem readTail_continues (negative : Bool) (digits : List Nat)
    (chars : List Char) :
    Continues chars tail (readTail negative digits chars)
      (readTail negative digits (chars ++ tail)) := by
  rcases absorbed : absorb significandLimit 0 digits with ⟨significand, ignored⟩
  have integer (chars : List Char) :
      Continues chars tail
        (if ignored = 0 then .ok (ofInteger negative significand, chars)
          else do return (← ofParts negative significand ignored, chars))
        (if ignored = 0 then
            .ok (ofInteger negative significand, chars ++ tail)
          else do
            return (← ofParts negative significand ignored,
              chars ++ tail)) := by
    split
    · exact .reads _ (List.Subset.refl chars)
    · exact .of_number _ (List.Subset.refl chars)
  cases chars with
  | nil =>
      rw [List.nil_append, readTail_of_ends ends absorbed,
        readTail_of_ends ends_nil absorbed]
      exact integer []
  | cons char chars =>
      have within := List.subset_cons_self char chars
      have fraction :=
        (readFraction_continues ends negative significand ignored chars).mono within
      have exponent :=
        (readExponent_continues ends negative significand ignored chars).mono within
      by_cases point : char = '.'
      · rw [point] at fraction ⊢
        simpa [readTail, absorbed] using fraction
      · by_cases small : char = 'e'
        · rw [small] at exponent ⊢
          simpa [readTail, absorbed] using exponent
        · by_cases capital : char = 'E'
          · rw [capital] at exponent ⊢
            simpa [readTail, absorbed] using exponent
          · simpa [readTail, absorbed, point, small, capital] using
              integer (char :: chars)

theorem readUnsigned_continues (negative : Bool) (chars : List Char) :
    Continues chars tail (readUnsigned negative chars)
      (readUnsigned negative (chars ++ tail)) := by
  have inside := spanDigits_subset chars
  unfold readUnsigned
  rw [spanDigits_append_of_ends ends]
  rcases found : spanDigits chars with ⟨_ | ⟨digit, digits⟩, left⟩
  · cases left <;> cases tail <;> exact .fails _ _
  · rw [found] at inside
    have tail := (readTail_continues ends negative (digit :: digits) left).mono inside
    cases digit with
    | succ digit => exact tail
    | zero =>
        cases digits with
        | nil => exact tail
        | cons next digits => exact .fails _ _

/-- A number is read in front of what does not belong to it as it is read alone. -/
theorem read_continues (chars : List Char) :
    Continues chars tail (read chars) (read (chars ++ tail)) := by
  cases chars with
  | nil =>
      have unsigned : read tail = readUnsigned false tail := by
        rw [read]
        exact fun chars => ne_of_ends ends (by decide)
      rw [List.nil_append, unsigned]
      exact readUnsigned_continues ends false []
  | cons char chars =>
      by_cases minus : char = '-'
      · rw [minus]
        exact
          (readUnsigned_continues ends true chars).mono
            (List.subset_cons_self '-' chars)
      · have unsigned (chars : List Char) :
            read (char :: chars) = readUnsigned false (char :: chars) := by
          simp [read, minus]
        rw [List.cons_append, unsigned, unsigned]
        exact readUnsigned_continues ends false (char :: chars)

end

end FontCompiler.Json.NumberText
