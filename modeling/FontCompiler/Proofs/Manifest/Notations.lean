import FontCompiler.Proofs.Manifest.Codepoints
import FontCompiler.Proofs.Text.Digits

/-!
# Notations of code points

A code point has many notations: an integer, or a text in base sixteen or ten,
with zeros in front, letters of either case, and a plus sign at choice.  This
module says which values are notations of which code point, and that exactly
these are read as such.
-/

namespace FontCompiler.Manifest

open Json

/-- The characters are a notation of a number. -/
inductive IsNotation : List Char → Nat → Prop
  | hexadecimal {start digits : List Char} {number : Nat}
      (opens : start = ['U', '+'] ∨ start = ['0', 'x'])
      (nonempty : 1 ≤ digits.length) (short : digits.length ≤ 6)
      (value : Text.Denotes Text.hexDigit? 16 digits number) :
      IsNotation (start ++ digits) number
  | decimal {start digits : List Char} {number : Nat}
      (opens : start = [] ∨ start = ['+'])
      (nonempty : digits ≠ [])
      (value : Text.Denotes Text.decimalDigit? 10 digits number) :
      IsNotation (start ++ digits) number

/-- The value stands for a code point. -/
inductive DenotesCodepoint : Value → Nat → Prop
  | number {codepoint : Nat} (scalar : IsScalar codepoint) :
      DenotesCodepoint (.number (.int codepoint)) codepoint
  | text {text : String} {codepoint : Nat} (written : IsNotation text.toList codepoint)
      (scalar : IsScalar codepoint) : DenotesCodepoint (.string text) codepoint

namespace Codepoint

theorem ofNumber_eq_ok_iff {number codepoint : Nat} :
    ofNumber number = .ok codepoint ↔ number = codepoint ∧ IsScalar codepoint := by
  rw [ofNumber]
  split
  · rename_i scalar
    constructor
    · rintro ⟨⟩
      exact ⟨rfl, scalar⟩
    · rintro ⟨rfl, -⟩
      rfl
  · rename_i other
    simp only [reduceCtorEq, false_iff]
    rintro ⟨rfl, scalar⟩
    exact absurd scalar other

theorem lt_wordLimit {codepoint : Nat} (scalar : IsScalar codepoint) :
    codepoint < wordLimit := by
  simp only [IsScalar, Text.isScalar, Bool.or_eq_true, Bool.and_eq_true,
    decide_eq_true_eq] at scalar
  rw [wordLimit, UInt32.size]
  omega

theorem hexadecimal?_eq_some_iff {digits : List Char} {number : Nat} :
    hexadecimal? digits = some number ↔
      1 ≤ digits.length ∧ digits.length ≤ 6 ∧
        Text.Denotes Text.hexDigit? 16 digits number := by
  rw [hexadecimal?]
  split
  · rename_i length
    rw [Text.hexValue?_eq_some_iff]
    exact ⟨fun value => ⟨length.1, length.2, value⟩, fun parts => parts.2.2⟩
  · rename_i length
    exact ⟨nofun, fun parts => absurd ⟨parts.1, parts.2.1⟩ length⟩

theorem decimal?_eq_some_iff {digits : List Char} {number : Nat} :
    decimal? digits = some number ↔
      digits ≠ [] ∧ Text.Denotes Text.decimalDigit? 10 digits number ∧
        number < wordLimit := by
  rw [decimal?, ← Text.decimalValue?_eq_some_iff]
  cases digits with
  | nil => simp
  | cons char chars =>
      cases Text.decimalValue? (char :: chars) with
      | none => simp
      | some value =>
          by_cases fits : value < wordLimit
          · simp only [List.isEmpty_cons, Bool.false_eq_true, if_false, if_pos fits]
            constructor
            · rintro ⟨⟩
              exact ⟨List.cons_ne_nil _ _, rfl, fits⟩
            · rintro ⟨-, ⟨⟩, -⟩
              rfl
          · simp only [List.isEmpty_cons, Bool.false_eq_true, if_false, if_neg fits]
            refine ⟨nofun, ?_⟩
            rintro ⟨-, ⟨⟩, small⟩
            exact absurd small fits

theorem isNotation_of_ofText? {text : String} {number : Nat}
    (read : ofText? text = some number) : IsNotation text.toList number := by
  unfold ofText? at read
  generalize text.toList = chars at read
  split at read
  · rename_i digits
    rcases hexadecimal?_eq_some_iff.mp read with ⟨nonempty, short, value⟩
    have written : IsNotation (['U', '+'] ++ digits) number :=
      .hexadecimal (.inl rfl) nonempty short value
    exact written
  · rename_i digits
    rcases hexadecimal?_eq_some_iff.mp read with ⟨nonempty, short, value⟩
    have written : IsNotation (['0', 'x'] ++ digits) number :=
      .hexadecimal (.inr rfl) nonempty short value
    exact written
  · rename_i digits
    rcases decimal?_eq_some_iff.mp read with ⟨nonempty, value, -⟩
    have written : IsNotation (['+'] ++ digits) number := .decimal (.inr rfl) nonempty value
    exact written
  · rcases decimal?_eq_some_iff.mp read with ⟨nonempty, value, -⟩
    have written : IsNotation ([] ++ chars) number := .decimal (.inl rfl) nonempty value
    exact written

theorem ofText?_of_isNotation {text : String} {number : Nat}
    (written : IsNotation text.toList number) (fits : number < wordLimit) :
    ofText? text = some number := by
  unfold ofText?
  generalize text.toList = chars at written
  cases written with
  | hexadecimal opens nonempty short value =>
      have read := hexadecimal?_eq_some_iff.mpr ⟨nonempty, short, value⟩
      rcases opens with rfl | rfl <;> exact read
  | @decimal start digits _ opens nonempty value =>
      have read := decimal?_eq_some_iff.mpr ⟨nonempty, value, fits⟩
      rcases opens with rfl | rfl
      · -- the first two characters are digits, so they announce nothing
        rw [List.nil_append]
        split
        · exact absurd rfl value.digit?_ne_none
        · rcases value.tail with ⟨other, behind⟩
          exact absurd rfl behind.digit?_ne_none
        · exact absurd rfl value.digit?_ne_none
        · exact read
      · exact read

/-- Exactly the notations of a code point are read as it. -/
theorem ofValue_eq_ok_iff {value : Value} {codepoint : Nat} :
    ofValue value = .ok codepoint ↔ DenotesCodepoint value codepoint := by
  constructor
  · intro read
    unfold ofValue at read
    split at read
    · rename_i number
      split at read
      · rename_i within
        rcases ofNumber_eq_ok_iff.mp read with ⟨rfl, scalar⟩
        have denotes := DenotesCodepoint.number scalar
        rwa [Int.toNat_of_nonneg within.1] at denotes
      · cases read
    · split at read
      · rename_i number written
        rcases ofNumber_eq_ok_iff.mp read with ⟨rfl, scalar⟩
        exact .text (isNotation_of_ofText? written) scalar
      · cases read
    · cases read
  · intro denotes
    cases denotes with
    | number scalar =>
        have small := lt_wordLimit scalar
        rw [ofValue, if_pos (by omega)]
        exact ofNumber_eq_ok_iff.mpr ⟨rfl, scalar⟩
    | text written scalar =>
        rw [ofValue, ofText?_of_isNotation written (lt_wordLimit scalar)]
        exact ofNumber_eq_ok_iff.mpr ⟨rfl, scalar⟩

end Codepoint

end FontCompiler.Manifest
