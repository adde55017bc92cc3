/-!
# Hexadecimal text

Numbers are written with a least number of digits, in upper or lower case, and
single digits of either case are read back.
-/

namespace FontCompiler.Text

/-- Puts zeros in front of digits until there are at least `width` of them. -/
def padZeros (width : Nat) (digits : List Char) : List Char :=
  List.replicate (width - digits.length) '0' ++ digits

/-- The number in lower-case hexadecimal with at least `width` digits. -/
def lowerHex (width number : Nat) : String :=
  String.ofList (padZeros width (Nat.toDigits 16 number))

/-- The number in upper-case hexadecimal with at least `width` digits. -/
def upperHex (width number : Nat) : String :=
  String.ofList (padZeros width ((Nat.toDigits 16 number).map Char.toUpper))

/-- The value of a hexadecimal digit of either case. -/
def hexDigit? (char : Char) : Option Nat :=
  if '0' ≤ char ∧ char ≤ '9' then some (char.toNat - '0'.toNat)
  else if 'a' ≤ char ∧ char ≤ 'f' then some (char.toNat - 'a'.toNat + 10)
  else if 'A' ≤ char ∧ char ≤ 'F' then some (char.toNat - 'A'.toNat + 10)
  else none

/-- The value of a row of digits in a given base, most significant first. -/
def ofDigits (base : Nat) (digits : List Nat) : Nat :=
  digits.foldl (fun value digit => value * base + digit) 0

/-- The value of a row of hexadecimal digits, if it holds nothing else. -/
def hexValue? (chars : List Char) : Option Nat :=
  (chars.mapM hexDigit?).map (ofDigits 16)

/-- The value of a decimal digit. -/
def decimalDigit? (char : Char) : Option Nat :=
  if '0' ≤ char ∧ char ≤ '9' then some (char.toNat - '0'.toNat) else none

/-- The value of a row of decimal digits, if it holds nothing else. -/
def decimalValue? (chars : List Char) : Option Nat :=
  (chars.mapM decimalDigit?).map (ofDigits 10)

end FontCompiler.Text
