import FontCompiler.Json.Draft
import FontCompiler.Proofs.Except
import FontCompiler.Proofs.Text.Digits
import FontCompiler.Query.Value

/-!
# Strings read back

Inside a string some characters are escaped: quotes and backslashes by
themselves, line ends and tabs by a letter, other control characters by their
number.  A reader of documents takes each escape for the character that it
stands for, so that it reads every string as the text that was written.
-/

namespace FontCompiler.Query

open Json.Draft

/-! ## Escapes by number -/

theorem utf8ByteSize_control :
    ∀ number < 0x20,
      (String.ofList (Text.padZeros 4 (Nat.toDigits 16 number))).utf8ByteSize = 4 := by
  decide +kernel

theorem readFourDigits_control {number : Nat} (control : number < 0x20) (rest : List Char) :
    readFourDigits (Text.padZeros 4 (Nat.toDigits 16 number) ++ rest) = .ok (number, rest) := by
  have length : (Text.padZeros 4 (Nat.toDigits 16 number)).length = 4 :=
    Text.length_padZeros_toDigits (by decide) (by decide) (by omega)
  have value := Text.hexValue?_lowerHex 4 number
  rw [Text.lowerHex, String.toList_ofList] at value
  rw [readFourDigits, List.take_left' length, List.drop_left' length, value,
    utf8ByteSize_control number control]
  rfl

theorem readEscape_control {char : Char} (control : char.toNat < 0x20) (rest : List Char) :
    readEscape ('u' :: Text.padZeros 4 (Nat.toDigits 16 char.toNat) ++ rest) =
      .ok (char, rest) := by
  rw [List.cons_append, readEscape, readFourDigits_control control, ok_bind]
  dsimp only
  rw [if_neg (by omega), if_neg (by omega), Char.ofNat_toNat]

/-! ## Characters -/

theorem readChars_escape {char : Char} {escape rest : List Char}
    (escapes : readEscape (escape ++ rest) = .ok (char, rest)) (fuel : Nat)
    (read : List Char) :
    readChars (fuel + 1) read ('\\' :: escape ++ rest) =
      readChars fuel (char :: read) rest := by
  rw [List.cons_append, readChars, escapes]
  rfl

theorem readChars_plain {char : Char} (noQuote : char ≠ '\"') (noEscape : char ≠ '\\')
    (noControl : 0x20 ≤ char.toNat) (fuel : Nat) (read rest : List Char) :
    readChars (fuel + 1) read (char :: rest) = readChars fuel (char :: read) rest := by
  rw [readChars, if_neg (by omega)]
  · exact noQuote
  · exact noEscape

/-- What a character is written as is read as this character. -/
theorem readChars_escapeChar (char : Char) (fuel : Nat) (read rest : List Char) :
    readChars (fuel + 1) read (escapeChar char ++ rest) =
      readChars fuel (char :: read) rest := by
  have byLetter {letter : Char} (escapes : readEscape ([letter] ++ rest) = .ok (char, rest)) :=
    readChars_escape escapes fuel read
  have byNumber (control : char.toNat < 0x20) :=
    readChars_escape (readEscape_control control rest) fuel read
  rw [escapeChar, Json.escapeChar]
  split
  · exact byNumber (by omega)
  · rename_i noColumn
    rw [not_or] at noColumn
    split
    · subst char
      exact byLetter rfl
    · rename_i noQuote
      split
      · subst char
        exact byLetter rfl
      · rename_i noEscape
        split
        · subst char
          exact byLetter rfl
        · split
          · subst char
            exact byLetter rfl
          · split
            · subst char
              exact byLetter rfl
            · rw [if_neg noColumn.1, if_neg noColumn.2]
              split
              · rename_i control
                exact byNumber control
              · rename_i noControl
                exact
                  readChars_plain noQuote noEscape (Nat.le_of_not_lt noControl) fuel read rest

/-! ## Texts -/

theorem readChars_flatMap_escapeChar (rest : List Char) (chars : List Char) :
    ∀ (fuel : Nat) (read : List Char), chars.length < fuel →
      readChars fuel read (chars.flatMap escapeChar ++ '\"' :: rest) =
        .ok (String.ofList (read.reverse ++ chars), rest) := by
  induction chars with
  | nil =>
      intro fuel read enough
      cases fuel with
      | zero => cases enough
      | succ fuel =>
          rw [List.flatMap_nil, List.nil_append, readChars, List.append_nil]
  | cons char chars ih =>
      intro fuel read enough
      cases fuel with
      | zero => cases enough
      | succ fuel =>
          rw [List.flatMap_cons, List.append_assoc, readChars_escapeChar,
            ih fuel (char :: read) (Nat.lt_of_succ_lt_succ enough), List.reverse_cons,
            List.append_assoc]
          rfl

theorem length_le_length_flatMap_escapeChar (chars : List Char) :
    chars.length ≤ (chars.flatMap escapeChar).length := by
  induction chars with
  | nil => exact Nat.le_refl 0
  | cons char chars ih =>
      have nonempty : 1 ≤ (escapeChar char).length := by
        rw [escapeChar, Json.escapeChar]
        repeat' split
        all_goals exact Nat.succ_le_succ (Nat.zero_le _)
      rw [List.flatMap_cons, List.length_append, List.length_cons]
      omega

/-- A string is read as the text that it was written for. -/
theorem readString_stringChars (text : String) (rest : List Char) :
    readString (text.toList.flatMap escapeChar ++ '\"' :: rest) = .ok (text, rest) := by
  have short := length_le_length_flatMap_escapeChar text.toList
  rw [readString, readChars_flatMap_escapeChar rest text.toList _ []]
  · rw [List.reverse_nil, List.nil_append, String.ofList_toList]
  · rw [List.length_append]
    omega

end FontCompiler.Query
