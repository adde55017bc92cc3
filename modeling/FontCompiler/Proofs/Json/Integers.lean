import FontCompiler.Proofs.Json.NumberText
import FontCompiler.Proofs.Text.Digits

/-!
# Integers read back

A numeral is a row of decimal digits without a leading zero.  Every number has
one, and what a numeral is worth is written with its digits.  A text is read as
an integer exactly if it starts with a numeral that fits into sixty-four bits,
and neither a fraction nor an exponent follows: those make it a double, even
where its value is whole.
-/

namespace FontCompiler.Json.NumberText

open Numeric Text

/-! ## Numerals -/

/-- The characters of decimal digits. -/
def digitChars (digits : List Nat) : List Char :=
  digits.map Nat.digitChar

/-- Decimal digits, at least one, and no zero in front of others. -/
structure Numeral (digits : List Nat) : Prop where
  nonempty : digits ≠ []
  small : ∀ digit ∈ digits, digit < 10
  noZero : ∀ others, digits = 0 :: others → others = []

theorem numeral_singleton {digit : Nat} (small : digit < 10) : Numeral [digit] where
  nonempty := List.cons_ne_nil _ _
  small := List.forall_mem_singleton.mpr small
  noZero _ shape := (List.cons.inj shape).2.symm

theorem toDigits_append_digitChars (digits : List Nat) :
    ∀ {value : Nat}, 0 < value → (∀ digit ∈ digits, digit < 10) →
      Nat.toDigits 10 value ++ digitChars digits =
        Nat.toDigits 10 (digits.foldl (fun value digit => value * 10 + digit) value) := by
  induction digits with
  | nil =>
      intro value positive small
      exact List.append_nil _
  | cons digit digits ih =>
      intro value positive small
      rw [List.forall_mem_cons] at small
      have next : Nat.toDigits 10 value ++ [digit.digitChar] =
          Nat.toDigits 10 (value * 10 + digit) := by
        rw [← Nat.toDigits_of_lt_base small.1, Nat.mul_comm value]
        exact Nat.toDigits_append_toDigits (by decide) positive small.1
      rw [List.foldl_cons, ← ih (by omega) small.2, ← next, List.append_assoc]
      rfl

namespace Numeral

variable {digits : List Nat}

theorem concat {digit : Nat} (numeral : Numeral digits) (positive : 0 < ofDigits 10 digits)
    (small : digit < 10) : Numeral (digits ++ [digit]) where
  nonempty := by simp
  small := List.forall_mem_append.mpr
    ⟨numeral.small, List.forall_mem_singleton.mpr small⟩
  noZero others shape := by
    cases digits with
    | nil => exact absurd rfl numeral.nonempty
    | cons first behind =>
        rcases List.cons.inj shape with ⟨rfl, -⟩
        rw [numeral.noZero behind rfl] at positive
        cases positive

/-- A numeral consists of the digits of its number. -/
theorem toDigits_eq (numeral : Numeral digits) :
    Nat.toDigits 10 (ofDigits 10 digits) = digitChars digits := by
  cases digits with
  | nil => exact absurd rfl numeral.nonempty
  | cons digit others =>
      rcases List.forall_mem_cons.mp numeral.small with ⟨small, smallOthers⟩
      rcases Nat.eq_zero_or_pos digit with rfl | positive
      · rw [numeral.noZero others rfl]
        rfl
      · have digits := toDigits_append_digitChars others positive smallOthers
        rw [Nat.toDigits_of_lt_base small] at digits
        rw [ofDigits, List.foldl_cons, Nat.zero_mul, Nat.zero_add, ← digits]
        rfl

end Numeral

theorem exists_numeral (number : Nat) :
    ∃ digits, Numeral digits ∧ ofDigits 10 digits = number := by
  induction number using Nat.strongRecOn with
  | ind number ih =>
      by_cases small : number < 10
      · exact ⟨[number], numeral_singleton small, by simp [ofDigits]⟩
      · rcases ih (number / 10) (by omega) with ⟨digits, numeral, value⟩
        refine ⟨digits ++ [number % 10], numeral.concat (by omega) (by omega), ?_⟩
        rw [ofDigits_append, value]
        simp [ofDigits]
        omega

/-! ## Digits in front of a text -/

theorem decimalDigit?_eq_some_iff {char : Char} {digit : Nat} :
    decimalDigit? char = some digit ↔ digit < 10 ∧ char = digit.digitChar := by
  constructor
  · intro read
    rw [decimalDigit?] at read
    split at read
    · rename_i range
      rcases range with ⟨low, high⟩
      change 48 ≤ char.toNat at low
      change char.toNat ≤ 57 at high
      cases read
      change char.toNat - 48 < 10 ∧ char = (char.toNat - 48).digitChar
      refine ⟨by omega, Char.toNat_inj.mp ?_⟩
      rw [Nat.toNat_digitChar_of_lt_ten (by omega)]
      omega
    · cases read
  · rintro ⟨small, rfl⟩
    exact decimalDigit?_digitChar digit small

theorem spanDigits_append {digits : List Nat} (small : ∀ digit ∈ digits, digit < 10)
    {rest : List Char} (ends : ∀ char ∈ rest.head?, decimalDigit? char = none) :
    spanDigits (digitChars digits ++ rest) = (digits, rest) := by
  induction digits with
  | nil =>
      cases rest with
      | nil => rfl
      | cons char rest => 
          rw [digitChars, List.map_nil, List.nil_append, spanDigits, ends char rfl]
  | cons digit digits ih =>
      rw [List.forall_mem_cons] at small
      rw [digitChars, List.map_cons, List.cons_append, spanDigits,
        decimalDigit?_digitChar digit small.1]
      have others := ih small.2
      rw [digitChars] at others
      simp only [others]

theorem eq_of_spanDigits {chars rest : List Char} :
    ∀ {digits : List Nat}, spanDigits chars = (digits, rest) →
      chars = digitChars digits ++ rest ∧ ∀ digit ∈ digits, digit < 10 := by
  induction chars with
  | nil =>
      intro digits found
      cases found
      exact ⟨rfl, nofun⟩
  | cons char chars ih =>
      intro digits found
      rw [spanDigits] at found
      split at found
      · rename_i digit read
        rcases decimalDigit?_eq_some_iff.mp read with ⟨small, rfl⟩
        cases found
        rcases ih rfl with ⟨shape, smallOthers⟩
        exact ⟨congrArg _ shape, List.forall_mem_cons.mpr ⟨small, smallOthers⟩⟩
      · cases found
        exact ⟨rfl, nofun⟩

/-! ## Significands -/

theorem le_foldl_digits (digits : List Nat) :
    ∀ value : Nat, value ≤ digits.foldl (fun value digit => value * 10 + digit) value := by
  induction digits with
  | nil => exact Nat.le_refl
  | cons digit digits ih =>
      intro value
      have further := ih (value * 10 + digit)
      rw [List.foldl_cons]
      omega

/-- Digits are absorbed to the last if their number stays below the limit. -/
theorem absorb_eq_iff {limit result : Nat} (digits : List Nat) :
    ∀ {significand : Nat}, significand ≤ limit →
      (absorb limit significand digits = (result, 0) ↔
        digits.foldl (fun value digit => value * 10 + digit) significand = result ∧
          result ≤ limit) := by
  induction digits with
  | nil =>
      intro significand within
      rw [absorb, Prod.mk.injEq, List.foldl_nil]
      constructor
      · rintro ⟨rfl, -⟩
        exact ⟨rfl, within⟩
      · rintro ⟨rfl, -⟩
        exact ⟨rfl, rfl⟩
  | cons digit digits ih =>
      intro significand within
      rw [absorb, List.foldl_cons]
      split
      · rename_i beyond
        refine ⟨nofun, fun ⟨value, small⟩ => ?_⟩
        have further := le_foldl_digits digits (significand * 10 + digit)
        omega
      · rename_i fits
        exact ih (Nat.le_of_not_lt fits)

/-! ## Reading integers -/

section

variable {digits : List Nat} {rest : List Char}

theorem readUnsigned_digitChars (negative : Bool) (numeral : Numeral digits)
    (fits : ofDigits 10 digits ≤ significandLimit) (ends : Ends rest) :
    readUnsigned negative (digitChars digits ++ rest) =
      .ok (ofInteger negative (ofDigits 10 digits), rest) := by
  have spanned : spanDigits (digitChars digits ++ rest) = (digits, rest) :=
    spanDigits_append numeral.small fun char first => decimalDigit?_of_ends ends first
  have absorbed : absorb significandLimit 0 digits = (ofDigits 10 digits, 0) :=
    (absorb_eq_iff digits (Nat.zero_le _)).mpr ⟨rfl, fits⟩
  unfold readUnsigned
  rw [spanned]
  split
  · rename_i shape
    cases shape
    exact absurd rfl numeral.nonempty
  · rename_i shape
    cases shape
    exact absurd rfl numeral.nonempty
  · rename_i shape
    cases shape
    cases numeral.noZero _ rfl
  · rename_i shape
    cases shape
    exact readTail_of_ends ends absorbed

theorem read_digitChars (numeral : Numeral digits)
    (fits : ofDigits 10 digits ≤ significandLimit) (ends : Ends rest) :
    read (digitChars digits ++ rest) = .ok (.int (ofDigits 10 digits), rest) := by
  have unsigned := readUnsigned_digitChars false numeral fits ends
  cases digits with
  | nil => exact absurd rfl numeral.nonempty
  | cons digit others =>
      have small := (List.forall_mem_cons.mp numeral.small).1
      unfold read
      split
      · rename_i shape
        have first : decimalDigit? '-' = some digit := by
          rw [← (List.cons.inj shape).1]
          exact decimalDigit?_digitChar digit small
        cases first
      · exact unsigned

end

/-- The text of an integer is read back in front of whatever does not belong to a number. -/
theorem read_decimalInt {value : Int} (lower : -0x8000000000000000 ≤ value)
    (upper : value ≤ significandLimit) {rest : List Char} (ends : Ends rest) :
    read ((decimalInt value).toList ++ rest) = .ok (.int value, rest) := by
  rcases exists_numeral value.natAbs with ⟨digits, numeral, number⟩
  have chars : (decimalDigits value.natAbs).toList = digitChars digits := by
    rw [decimalDigits, String.toList_ofList, ← number, numeral.toDigits_eq]
  rw [decimalInt, String.toList_append, chars]
  by_cases sign : value < 0
  · have fits : ofDigits 10 digits ≤ significandLimit := by
      rw [number, significandLimit, UInt64.size]
      omega
    have unsigned := readUnsigned_digitChars true numeral fits ends
    have integer : ofInteger true (ofDigits 10 digits) = .int value := by
      rw [ofInteger, if_pos rfl, if_neg (by omega), number]
      congr 1
      omega
    rw [integer] at unsigned
    rw [if_pos sign]
    exact unsigned
  · have whole : ((ofDigits 10 digits : Nat) : Int) = value := by omega
    have fits : ofDigits 10 digits ≤ significandLimit := by omega
    rw [if_neg sign, ← whole]
    exact read_digitChars numeral fits ends

/-! ## What is no integer -/

/-- The number is a double. -/
def IsFloat : Number → Prop
  | .int _ => False
  | .float _ => True

/-- What is read is a double. -/
def ReadsFloat (reading : Reading) : Prop :=
  Ensures reading fun read => IsFloat read.1

section

variable (negative : Bool) (significand : Nat)

theorem readsFloat_ofParts (exponent : Int) (rest : List Char) :
    ReadsFloat (do return (← ofParts negative significand exponent, rest)) := by
  rw [ofParts]
  refine (Ensures.bind (Ensures.trivial _) fun scaled _ => ?_).bind
     fun number float => .ok float
  exact .ok trivial

theorem readsFloat_exponentDigits (start : Int) (downwards : Bool) (chars : List Char) :
    ReadsFloat (readExponentDigits negative significand start downwards chars) := by
  unfold readExponentDigits
  split
  · exact .error _
  · exact .error _
  · split
    · exact readsFloat_ofParts negative significand _ _
    · split
      · exact .error _
      · exact .ok trivial

theorem readsFloat_exponent (start : Int) (chars : List Char) :
    ReadsFloat (readExponent negative significand start chars) :=
  readsFloat_exponentDigits negative significand start _ _

theorem readsFloat_scaled (exponent : Int) (chars : List Char) :
    ReadsFloat (readScaled negative significand exponent chars) := by
  unfold readScaled
  split
  · exact readsFloat_exponent negative significand exponent _
  · exact readsFloat_exponent negative significand exponent _
  · exact readsFloat_ofParts negative significand exponent _

theorem readsFloat_fraction (start : Int) (chars : List Char) :
    ReadsFloat (readFraction negative significand start chars) := by
  unfold readFraction
  split
  · exact .error _
  · exact .error _
  · exact readsFloat_scaled negative _ _ _

end

theorem not_ok_int_of_readsFloat {reading : Reading} (float : ReadsFloat reading)
    {value : Int} {rest : List Char} : reading ≠ .ok (.int value, rest) :=
  fun read => float _ read

/-- Integers are read from their digits alone. -/
theorem eq_of_readTail {negative : Bool} {digits : List Nat} {chars rest : List Char}
    {value : Int} (read : readTail negative digits chars = .ok (.int value, rest)) :
    rest = chars ∧ ofDigits 10 digits ≤ significandLimit ∧
      ofInteger negative (ofDigits 10 digits) = .int value := by
  unfold readTail at read
  rcases absorbed : absorb significandLimit 0 digits with ⟨significand, ignored⟩
  rw [absorbed] at read
  dsimp only at read
  split at read
  · exact absurd read (not_ok_int_of_readsFloat (readsFloat_fraction _ _ _ _))
  · exact absurd read (not_ok_int_of_readsFloat (readsFloat_exponent _ _ _ _))
  · exact absurd read (not_ok_int_of_readsFloat (readsFloat_exponent _ _ _ _))
  · split at read
    · rename_i whole
      rw [whole] at absorbed
      rcases (absorb_eq_iff digits (Nat.zero_le _)).mp absorbed with ⟨number, fits⟩
      have number : ofDigits 10 digits = significand := number
      rcases Prod.mk.inj (Except.ok.inj read) with ⟨integer, rfl⟩
      rw [number]
      exact ⟨rfl, fits, integer⟩
    · exact absurd read (not_ok_int_of_readsFloat (readsFloat_ofParts _ _ _ _))

theorem exists_numeral_of_readUnsigned {negative : Bool} {chars rest : List Char}
    {value : Int} (read : readUnsigned negative chars = .ok (.int value, rest)) :
    ∃ digits, Numeral digits ∧ chars = digitChars digits ++ rest ∧
      ofDigits 10 digits ≤ significandLimit ∧
      ofInteger negative (ofDigits 10 digits) = .int value := by
  unfold readUnsigned at read
  split at read
  · cases read
  · cases read
  · cases read
  · rename_i digits behind noEnd noOther noZero spanned
    rcases eq_of_readTail read with ⟨rfl, fits, integer⟩
    rcases eq_of_spanDigits spanned with ⟨shape, small⟩
    have nonempty : digits ≠ [] := by
      intro none
      cases rest with
      | nil => exact noEnd none rfl
      | cons char others => exact noOther char others none rfl
    refine ⟨digits, ⟨nonempty, small, fun others leading => ?_⟩, shape, fits, integer⟩
    cases others with
    | nil => rfl
    | cons next others => exact (noZero next others leading).elim

/-- A text that starts with an integer without a minus sign starts with its digits. -/
theorem eq_of_read {chars rest : List Char} {number : Nat}
    (found : read chars = .ok (.int number, rest)) :
    chars = Nat.toDigits 10 number ++ rest ∧ number ≤ significandLimit := by
  unfold read at found
  split at found
  · rcases exists_numeral_of_readUnsigned found with ⟨digits, -, -, -, integer⟩
    rw [ofInteger, if_pos rfl] at integer
    split at integer
    · cases integer
    · rename_i small
      have value := Number.int.inj integer
      omega
  · rcases exists_numeral_of_readUnsigned found with ⟨digits, numeral, shape, fits, integer⟩
    have value : ofDigits 10 digits = number := by
      rw [ofInteger] at integer
      simpa using integer
    rw [shape, ← value, numeral.toDigits_eq]
    exact ⟨rfl, fits⟩

end FontCompiler.Json.NumberText
