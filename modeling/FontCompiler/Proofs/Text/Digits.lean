import FontCompiler.Text.Hex
import FontCompiler.Numeric.Decimal
import Mathlib.Data.List.Forall2
import Mathlib.Tactic.Ring

/-!
# Digits read back

Numbers are written in base ten and in base sixteen, padded or not, and their
digits are read one by one.  `Denotes` says that a row of digits is read as a
number; it composes along the row, and the digits of a number denote that
number in every base up to sixteen.
-/

namespace FontCompiler.Text

variable {digit? : Char → Option Nat} {base : Nat}

/-- A row of characters is read, digit by digit, as a number. -/
def Denotes (digit? : Char → Option Nat) (base : Nat) (chars : List Char)
    (number : Nat) : Prop :=
  ∃ digits, chars.mapM digit? = some digits ∧
    digits.length = chars.length ∧ ofDigits base digits = number

theorem ofDigits_append (base : Nat) (first second : List Nat) :
    ofDigits base (first ++ second) =
      ofDigits base first * base ^ second.length + ofDigits base second := by
  have shifted (start : Nat) :
      second.foldl (fun value digit => value * base + digit) start =
        start * base ^ second.length + ofDigits base second := by
    induction second generalizing start with
    | nil => simp [ofDigits]
    | cons digit digits ih =>
        simp only [ofDigits, List.foldl_cons, List.length_cons] at ih ⊢
        rw [ih, ih (0 * base + digit), Nat.pow_succ]
        ring
  rw [ofDigits, List.foldl_append, shifted]
  rfl

namespace Denotes

theorem nil : Denotes digit? base [] 0 :=
  ⟨[], rfl, rfl, rfl⟩

theorem append {first second : List Char} {high low : Nat}
    (one : Denotes digit? base first high)
    (other : Denotes digit? base second low) :
    Denotes digit? base (first ++ second)
      (high * base ^ second.length + low) := by
  rcases one with ⟨firstDigits, firstRead, firstLength, rfl⟩
  rcases other with ⟨secondDigits, secondRead, secondLength, rfl⟩
  refine ⟨firstDigits ++ secondDigits, ?_, ?_, ?_⟩
  · simp [List.mapM_append, firstRead, secondRead]
  · simp [firstLength, secondLength]
  · rw [ofDigits_append, secondLength]

theorem singleton {char : Char} {digit : Nat}
    (read : digit? char = some digit) :
    Denotes digit? base [char] digit :=
  ⟨[digit], by simp [read], rfl, by simp [ofDigits]⟩

theorem replicate_zero (zero : digit? '0' = some 0) (count : Nat) :
    Denotes digit? base (List.replicate count '0') 0 := by
  induction count with
  | zero => exact nil
  | succ count ih =>
      have first : Denotes digit? base ['0'] 0 := singleton zero
      have longer := first.append ih
      simpa [List.replicate_succ] using longer

theorem padZeros {chars : List Char} {number : Nat}
    (zero : digit? '0' = some 0) (width : Nat)
    (denoted : Denotes digit? base chars number) :
    Denotes digit? base (Text.padZeros width chars) number := by
  have padded :=
    (replicate_zero zero (width - chars.length)).append denoted
  simpa [Text.padZeros] using padded

/-- The digits of a number denote it, if every single digit is read as what it stands for. -/
theorem toDigits (large : 1 < base)
    (reads : ∀ digit < base, digit? digit.digitChar = some digit)
    (number : Nat) :
    Denotes digit? base (Nat.toDigits base number) number := by
  induction number using Nat.strongRecOn with
  | ind number ih =>
      by_cases small : number < base
      · rw [Nat.toDigits_of_lt_base small]
        exact singleton (reads number small)
      · have large' : base ≤ number := Nat.le_of_not_lt small
        have fewer : number / base < number :=
          Nat.div_lt_self (by omega) large
        have last : number % base < base := Nat.mod_lt _ (by omega)
        rw [Nat.toDigits_of_base_le large large']
        have whole := (ih _ fewer).append (singleton (reads _ last))
        have parts : number / base * base ^ 1 + number % base = number := by
          rw [Nat.pow_one]
          exact Nat.div_add_mod' number base
        rwa [List.length_singleton, parts] at whole

end Denotes

theorem mapM_eq_some_iff {α β : Type} {read? : α → Option β} {items : List α} :
    ∀ {results : List β},
      items.mapM read? = some results ↔
        List.Forall₂ (fun item result => read? item = some result) items results := by
  induction items with
  | nil =>
      intro results
      rw [List.mapM_nil, List.forall₂_nil_left_iff]
      exact ⟨fun same => (Option.some.inj same).symm, fun same => congrArg some same.symm⟩
  | cons item items ih =>
      intro results
      simp only [List.mapM_cons, Option.bind_eq_bind, Option.bind_eq_some_iff, ih,
        List.forall₂_cons_left_iff]
      constructor
      · rintro ⟨result, own, others, rest, same⟩
        exact ⟨result, others, own, rest, (Option.some.inj same).symm⟩
      · rintro ⟨result, others, own, rest, rfl⟩
        exact ⟨result, own, others, rest, rfl⟩

theorem length_of_mapM {chars : List Char} {digits : List Nat}
    (read : chars.mapM digit? = some digits) : digits.length = chars.length :=
  (mapM_eq_some_iff.mp read).length_eq.symm

theorem map_ofDigits_eq_some_iff {chars : List Char} {number : Nat} :
    (chars.mapM digit?).map (ofDigits base) = some number ↔
      Denotes digit? base chars number := by
  rw [Option.map_eq_some_iff]
  constructor
  · rintro ⟨digits, read, value⟩
    exact ⟨digits, read, length_of_mapM read, value⟩
  · rintro ⟨digits, read, -, value⟩
    exact ⟨digits, read, value⟩

theorem Denotes.digit?_ne_none {char : Char} {chars : List Char} {number : Nat}
    (denoted : Denotes digit? base (char :: chars) number) : digit? char ≠ none := by
  rcases denoted with ⟨digits, read, -⟩
  rw [List.mapM_cons] at read
  rcases Option.bind_eq_some_iff.mp read with ⟨digit, found, -⟩
  exact fun none => by simp [none] at found

theorem Denotes.tail {char : Char} {chars : List Char} {number : Nat}
    (denoted : Denotes digit? base (char :: chars) number) :
    ∃ other, Denotes digit? base chars other := by
  rcases denoted with ⟨digits, read, -⟩
  rw [List.mapM_cons] at read
  rcases Option.bind_eq_some_iff.mp read with ⟨digit, -, read⟩
  rcases Option.bind_eq_some_iff.mp read with ⟨others, readOthers, -⟩
  exact ⟨_, others, readOthers, length_of_mapM readOthers, rfl⟩

/-! ## Decimal digits -/

theorem decimalDigit?_digitChar :
    ∀ digit < 10, decimalDigit? digit.digitChar = some digit := by
  decide

theorem decimalValue?_eq_some_iff {chars : List Char} {number : Nat} :
    decimalValue? chars = some number ↔ Denotes decimalDigit? 10 chars number :=
  map_ofDigits_eq_some_iff

theorem denotes_decimal (number : Nat) :
    Denotes decimalDigit? 10 (Nat.toDigits 10 number) number :=
  Denotes.toDigits (by decide) decimalDigit?_digitChar number

/-! ## Hexadecimal digits -/

theorem hexDigit?_digitChar :
    ∀ digit < 16, hexDigit? digit.digitChar = some digit := by
  decide

theorem hexDigit?_toUpper_digitChar :
    ∀ digit < 16, hexDigit? digit.digitChar.toUpper = some digit := by
  decide

theorem hexValue?_eq_some_iff {chars : List Char} {number : Nat} :
    hexValue? chars = some number ↔ Denotes hexDigit? 16 chars number :=
  map_ofDigits_eq_some_iff

theorem hexValue?_lowerHex (width number : Nat) :
    hexValue? (lowerHex width number).toList = some number := by
  have denoted :=
    (Denotes.toDigits (by decide) hexDigit?_digitChar number).padZeros
      (by decide) width
  simpa [lowerHex] using hexValue?_eq_some_iff.mpr denoted

theorem hexValue?_upperHex (width number : Nat) :
    hexValue? (upperHex width number).toList = some number := by
  have lowered :
      Denotes (fun char => hexDigit? char.toUpper) 16
        (Nat.toDigits 16 number) number :=
    Denotes.toDigits (by decide) hexDigit?_toUpper_digitChar number
  rcases lowered with ⟨digits, read, sameLength, value⟩
  have denoted :
      Denotes hexDigit? 16
        ((Nat.toDigits 16 number).map Char.toUpper) number :=
    ⟨digits, by rw [List.mapM_map]; exact read, by simpa using sameLength, value⟩
  simpa [upperHex] using
    hexValue?_eq_some_iff.mpr (denoted.padZeros (by decide) width)

/-! ## The number of digits -/

/-- A number of at most `width` digits is written with exactly so many. -/
theorem length_padZeros_toDigits {base width number : Nat} (large : 1 < base)
    (positive : 0 < width) (short : number < base ^ width) :
    (padZeros width (Nat.toDigits base number)).length = width := by
  have bound : (Nat.toDigits base number).length ≤ width :=
    (Nat.length_toDigits_le_iff large positive).mpr short
  rw [padZeros, List.length_append, List.length_replicate]
  omega

theorem length_upperHex {width number : Nat} (positive : 0 < width)
    (short : number < 16 ^ width) :
    (upperHex width number).toList.length = width := by
  have sameLength :
      (padZeros width ((Nat.toDigits 16 number).map Char.toUpper)).length =
        (padZeros width (Nat.toDigits 16 number)).length := by
    simp [padZeros]
  rw [upperHex, String.toList_ofList, sameLength]
  exact length_padZeros_toDigits (by decide) positive short

theorem padZeros_ne_nil {width : Nat} {chars : List Char}
    (nonempty : chars ≠ []) : padZeros width chars ≠ [] :=
  List.append_ne_nil_of_right_ne_nil _ nonempty

theorem lowerHex_ne_nil (width number : Nat) :
    (lowerHex width number).toList ≠ [] := by
  rw [lowerHex, String.toList_ofList]
  exact padZeros_ne_nil Nat.toDigits_ne_nil

theorem upperHex_ne_nil (width number : Nat) :
    (upperHex width number).toList ≠ [] := by
  rw [upperHex, String.toList_ofList]
  exact padZeros_ne_nil (by simp [Nat.toDigits_ne_nil])

/-! ## The characters of digits -/

theorem forall_mem_toDigits {base : Nat} (large : 1 < base)
    (allowed : Char → Prop)
    (digits : ∀ digit < base, allowed digit.digitChar) (number : Nat) :
    ∀ char ∈ Nat.toDigits base number, allowed char := by
  induction number using Nat.strongRecOn with
  | ind number ih =>
      by_cases small : number < base
      · rw [Nat.toDigits_of_lt_base small]
        simpa using digits number small
      · have fewer : number / base < number :=
          Nat.div_lt_self (by omega) large
        have last : number % base < base := Nat.mod_lt _ (by omega)
        rw [Nat.toDigits_of_base_le large (Nat.le_of_not_lt small)]
        intro char member
        rcases List.mem_append.mp member with before | behind
        · exact ih _ fewer char before
        · rw [List.mem_singleton.mp behind]
          exact digits _ last

theorem forall_mem_padZeros {allowed : Char → Prop} {chars : List Char}
    (zero : allowed '0') (width : Nat)
    (digits : ∀ char ∈ chars, allowed char) :
    ∀ char ∈ padZeros width chars, allowed char := by
  intro char member
  rcases List.mem_append.mp member with padding | digit
  · rw [List.eq_of_mem_replicate padding]
    exact zero
  · exact digits char digit

theorem forall_mem_lowerHex {allowed : Char → Prop}
    (digits : ∀ digit < 16, allowed digit.digitChar)
    (width number : Nat) :
    ∀ char ∈ (lowerHex width number).toList, allowed char := by
  rw [lowerHex, String.toList_ofList]
  exact forall_mem_padZeros (digits 0 (by decide)) width
    (forall_mem_toDigits (by decide) allowed digits number)

theorem forall_mem_upperHex {allowed : Char → Prop}
    (digits : ∀ digit < 16, allowed digit.digitChar.toUpper)
    (width number : Nat) :
    ∀ char ∈ (upperHex width number).toList, allowed char := by
  rw [upperHex, String.toList_ofList]
  refine forall_mem_padZeros (digits 0 (by decide)) width ?_
  intro char member
  rcases List.mem_map.mp member with ⟨digit, written, rfl⟩
  exact forall_mem_toDigits (by decide) (fun char => allowed char.toUpper)
    digits number digit written

end FontCompiler.Text
