import FontCompiler.Proofs.Manifest.Grammar
import FontCompiler.Proofs.Text.Numerals
import FontCompiler.Proofs.Text.Utf16

/-!
# Spellings of code points

A code point of a manifest is an integer or a text that spells it, in base
sixteen behind a mark or in base ten.  This module says what the spellings are
without reading them, and that exactly the spelled numbers that are Unicode scalar
values are code points of a manifest.  Every scalar value has a spelling behind
`U+`, and no text spells two of them.
-/

namespace FontCompiler.Manifest

open Json

/-- A text spells a number: behind a mark in one to six digits of base sixteen, or in digits of
base ten, of which there may be any number, with a plus sign at choice. -/
inductive Spells : String → Nat → Prop
  | hexadecimal {mark digits : String} {number : Nat}
      (marked : mark = "U+" ∨ mark = "0x")
      (nonempty : 1 ≤ digits.length) (short : digits.length ≤ 6)
      (numeral : Text.IsNumeral 16 digits.toList number) :
      Spells (mark ++ digits) number
  | decimal {sign digits : String} {number : Nat}
      (signed : sign = "" ∨ sign = "+")
      (nonempty : 1 ≤ digits.length)
      (numeral : Text.IsNumeral 10 digits.toList number) :
      Spells (sign ++ digits) number

theorem denotes_hexDigit?_iff {chars : List Char} {number : Nat} :
    Text.Denotes Text.hexDigit? 16 chars number ↔ Text.IsNumeral 16 chars number :=
  Text.denotes_iff_isNumeral Text.hexDigit?_eq_some_iff

theorem denotes_decimalDigit?_iff {chars : List Char} {number : Nat} :
    Text.Denotes Text.decimalDigit? 10 chars number ↔ Text.IsNumeral 10 chars number :=
  Text.denotes_iff_isNumeral Text.decimalDigit?_eq_some_iff

/-- What a text spells is what it is a notation of. -/
theorem spells_iff {text : String} {number : Nat} :
    Spells text number ↔ IsNotation text.toList number := by
  constructor
  · intro spelled
    cases spelled with
    | hexadecimal marked nonempty short numeral =>
        rw [String.toList_append]
        refine .hexadecimal ?_ nonempty short (denotes_hexDigit?_iff.mpr numeral)
        exact marked.imp (congrArg String.toList) (congrArg String.toList)
    | decimal signed nonempty numeral =>
        rw [String.toList_append]
        refine .decimal ?_ (List.ne_nil_of_length_pos nonempty)
          (denotes_decimalDigit?_iff.mpr numeral)
        exact signed.imp (congrArg String.toList) (congrArg String.toList)
  · generalize shape : text.toList = chars
    intro written
    have whole : text = String.ofList chars := by rw [← shape, String.ofList_toList]
    rw [whole]
    cases written with
    | hexadecimal opens nonempty short value =>
        rw [String.ofList_append]
        refine .hexadecimal ?_ ?_ ?_ ?_
        · exact opens.imp (congrArg String.ofList) (congrArg String.ofList)
        · rwa [String.length_ofList]
        · rwa [String.length_ofList]
        · rwa [String.toList_ofList, ← denotes_hexDigit?_iff]
    | decimal opens nonempty value =>
        rw [String.ofList_append]
        refine .decimal ?_ ?_ ?_
        · exact opens.imp (congrArg String.ofList) (congrArg String.ofList)
        · rw [String.length_ofList]
          exact List.length_pos_of_ne_nil nonempty
        · rwa [String.toList_ofList, ← denotes_decimalDigit?_iff]

theorem isScalar_iff {number : Nat} :
    IsScalar number ↔ number ≤ 0x10FFFF ∧ ¬ Text.IsSurrogate number := by
  simp only [IsScalar, Text.isScalar, Text.IsSurrogate, Bool.or_eq_true, Bool.and_eq_true,
    decide_eq_true_eq]
  omega

/-- A value stands for a Unicode scalar value: it is the integer, or a text that spells it. -/
def StandsFor (value : Value) (codepoint : Nat) : Prop :=
  (codepoint ≤ 0x10FFFF ∧ ¬ Text.IsSurrogate codepoint) ∧
    (value = .number (.int codepoint) ∨ ∃ text, value = .string text ∧ Spells text codepoint)

theorem standsFor_iff {value : Value} {codepoint : Nat} :
    StandsFor value codepoint ↔ DenotesCodepoint value codepoint := by
  rw [StandsFor, ← isScalar_iff]
  constructor
  · rintro ⟨scalar, rfl | ⟨text, rfl, spelled⟩⟩
    · exact .number scalar
    · exact .text (spells_iff.mp spelled) scalar
  · rintro (scalar | ⟨written, scalar⟩)
    · exact ⟨scalar, .inl rfl⟩
    · exact ⟨scalar, .inr ⟨_, rfl, spells_iff.mpr written⟩⟩

theorem codepointOfValue_eq_ok_iff {value : Value} {codepoint : Nat} :
    codepointOfValue value = .ok codepoint ↔ StandsFor value codepoint := by
  rw [standsFor_iff]
  exact decodeCodepoint_eq_ok_iff

/-! ## The usual spelling -/

theorem length_upperHex_le {number : Nat} (short : number < 16 ^ 6) :
    (Text.upperHex 4 number).length ≤ 6 := by
  have digits : (Nat.toDigits 16 number).length ≤ 6 :=
    (Nat.length_toDigits_le_iff (by decide) (by decide)).mpr short
  simp only [Text.upperHex, String.length_ofList, Text.padZeros, List.length_append,
    List.length_replicate, List.length_map]
  omega

/-- The usual spelling of a code point: `U+` and at least four digits. -/
def usualSpelling (codepoint : Nat) : String :=
  "U+" ++ Text.upperHex 4 codepoint

theorem spells_usualSpelling {codepoint : Nat} (small : codepoint ≤ 0x10FFFF) :
    Spells (usualSpelling codepoint) codepoint := by
  refine .hexadecimal (.inl rfl) ?_ (length_upperHex_le ?_) ?_
  · rw [← String.length_toList]
    exact List.length_pos_of_ne_nil (Text.upperHex_ne_nil 4 codepoint)
  · omega
  · rw [← denotes_hexDigit?_iff, ← Text.hexValue?_eq_some_iff]
    exact Text.hexValue?_upperHex 4 codepoint

/--
A value is read as a code point if and only if this is a Unicode scalar value and
the value is the integer or a text that spells it; every other value is refused.
No text stands for two code points, and each has a spelling that is read back.
-/
theorem codepointOfValue_reads_spellings :
    (∀ (value : Value) (codepoint : Nat),
        codepointOfValue value = .ok codepoint ↔ StandsFor value codepoint) ∧
      (∀ value : Value, (∀ codepoint, ¬ StandsFor value codepoint) →
        ∃ fault, codepointOfValue value = .error fault) ∧
      (∀ (text : String) (codepoint other : Nat),
        StandsFor (.string text) codepoint → StandsFor (.string text) other →
          codepoint = other) ∧
      ∀ codepoint : Nat, codepoint ≤ 0x10FFFF → ¬ Text.IsSurrogate codepoint →
        Spells (usualSpelling codepoint) codepoint ∧
          codepointOfValue (.string (usualSpelling codepoint)) = .ok codepoint := by
  refine ⟨fun value codepoint => codepointOfValue_eq_ok_iff, ?_, ?_, ?_⟩
  · intro value nothing
    cases read : codepointOfValue value with
    | error fault => exact ⟨fault, rfl⟩
    | ok codepoint => exact absurd (codepointOfValue_eq_ok_iff.mp read) (nothing codepoint)
  · intro text codepoint other one another
    rw [← codepointOfValue_eq_ok_iff] at one another
    exact Except.ok.inj (one.symm.trans another)
  · intro codepoint small noSurrogate
    have spelled := spells_usualSpelling small
    exact
      ⟨spelled, codepointOfValue_eq_ok_iff.mpr
        ⟨⟨small, noSurrogate⟩, .inr ⟨_, rfl, spelled⟩⟩⟩

/-- A code point beyond the basic plane with its spelling of five digits, and a value that is no
spelling. -/
theorem codepointOfValue_reads_spellings_beyond :
    codepointOfValue (.string "U+1F600") = .ok 0x1F600 ∧
      (∀ other, StandsFor (.string "U+1F600") other → other = 0x1F600) ∧
      ∃ fault, codepointOfValue (.bool true) = .error fault := by
  rcases codepointOfValue_reads_spellings with ⟨reads, refuses, unique, spells⟩
  have usual : usualSpelling 0x1F600 = "U+1F600" := by decide
  have read := (spells 0x1F600 (by decide) (by simp [Text.IsSurrogate])).2
  rw [usual] at read
  refine ⟨read, fun other stands => unique _ _ _ stands ((reads _ _).mp read), refuses _ ?_⟩
  rintro codepoint ⟨-, same | ⟨text, same, -⟩⟩
  · cases same
  · cases same

end FontCompiler.Manifest
