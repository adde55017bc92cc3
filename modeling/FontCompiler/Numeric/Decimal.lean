import FontCompiler.Numeric.FloatFormat

/-!
# Decimal text of binary numbers

A finite binary number is written in two ways.  Its shortest form has the
fewest digits that still identify the number within its format, and among the
decimals with that many digits it is the one nearest to the number.  Its fixed
form has a given number of places, a half going to the even neighbour.

Where the point of the shortest form stands, and when an exponent is written,
is decided by a `DecimalStyle`.
-/

namespace FontCompiler.Numeric

/-- The digits of a natural number, without a sign and without leading zeros. -/
def decimalDigits (number : Nat) : String :=
  String.ofList (Nat.toDigits 10 number)

/-- The text of an integer: a minus sign if it is negative, then its digits. -/
def decimalInt (number : Int) : String :=
  (if number < 0 then "-" else "") ++ decimalDigits number.natAbs

/-- An integer times a power of ten. -/
structure Decimal where
  digits : Nat
  exponent : Int
  deriving DecidableEq, Repr

namespace Decimal

/-- Moves the last zeros of the digits into the exponent, at most `fuel` of them. -/
def trimZeros : (fuel : Nat) → Decimal → Decimal
  | 0, decimal => decimal
  | fuel + 1, decimal =>
    if decimal.digits % 10 = 0 ∧ decimal.digits ≠ 0 then
      trimZeros fuel ⟨decimal.digits / 10, decimal.exponent + 1⟩
    else decimal

end Decimal

/-- The number of decimal digits before the point of a positive quotient, or the
negative number of zeros directly behind the point. -/
def decimalMagnitude (numerator denominator : Nat) : Int :=
  if denominator ≤ numerator then (Nat.toDigits 10 (numerator / denominator)).length
  else 1 - ((Nat.toDigits 10 (denominator / numerator)).length : Int)

/-- A quotient divided by a power of ten, again as a quotient. -/
def scaleDown (numerator denominator : Nat) (exponent : Int) : Nat × Nat :=
  if 0 ≤ exponent then (numerator, denominator * Nat.pow 10 exponent.toNat)
  else (numerator * Nat.pow 10 exponent.natAbs, denominator)

/-- The decimals that read back as a given magnitude, between two bounds in quarter units. -/
structure RoundingInterval where
  lower : Nat
  value : Nat
  upper : Nat
  closed : Bool
  deriving DecidableEq, Repr

namespace RoundingInterval

/-- The interval around a magnitude; the step below a power of two is half the step above. -/
def around (format : FloatFormat) (units : Nat) : RoundingInterval :=
  let dropped := format.droppedBits units
  let significand := units / Nat.pow 2 dropped
  let step := Nat.pow 2 dropped
  let below :=
    if significand = Nat.pow 2 (format.precision - 1) ∧ 0 < dropped then step
    else 2 * step
  ⟨4 * units - below, 4 * units, 4 * units + 2 * step, significand % 2 = 0⟩

/-- Whether a quotient of quarter units lies in the interval. -/
def admits (interval : RoundingInterval) (numerator denominator : Nat) : Bool :=
  let low := interval.lower * denominator
  let high := interval.upper * denominator
  if interval.closed then low ≤ numerator && numerator ≤ high
  else low < numerator && numerator < high

/-- The decimal with a given exponent that lies in the interval nearest to its value. -/
def onGrid? (interval : RoundingInterval) (quarterOne : Nat) (exponent : Int) :
    Option Decimal :=
  let (numerator, denominator) := scaleDown interval.value quarterOne exponent
  let floor := numerator / denominator
  let admitted (digits : Nat) : Bool :=
    let (gridNumerator, gridDenominator) := scaleDown (digits * quarterOne) 1 (-exponent)
    interval.admits gridNumerator gridDenominator
  let remainder := numerator % denominator
  let upperIsNearer :=
    denominator < 2 * remainder || (denominator == 2 * remainder && floor % 2 == 1)
  match admitted floor, admitted (floor + 1) with
  | true, true => some ⟨if upperIsNearer then floor + 1 else floor, exponent⟩
  | true, false => some ⟨floor, exponent⟩
  | false, true => some ⟨floor + 1, exponent⟩
  | false, false => none

/-- The first grid that has a decimal in the interval, from `count` digits on. -/
def search (interval : RoundingInterval) (quarterOne : Nat) (magnitude : Int) :
    (fuel : Nat) → (count : Nat) → Decimal
  | 0, _ => ⟨0, 0⟩
  | fuel + 1, count =>
    match interval.onGrid? quarterOne (magnitude - count) with
    | some decimal => decimal
    | none => search interval quarterOne magnitude fuel (count + 1)

end RoundingInterval

/-- The shortest decimal that identifies a positive magnitude within its format. -/
def shortestDecimal (format : FloatFormat) (units : Nat) : Decimal :=
  let interval := RoundingInterval.around format units
  let magnitude := decimalMagnitude units format.one
  (interval.search (4 * format.one) magnitude 20 1).trimZeros 20

/-- How shortest decimals are laid out. -/
structure DecimalStyle where
  /-- Numbers below ten to this power may be written positionally. -/
  positionalBelow : Int
  /-- Numbers not below ten to this power may be written positionally. -/
  positionalFrom : Int
  /-- What stands before an exponent that is not negative. -/
  plus : String
  deriving DecidableEq, Repr

namespace DecimalStyle

/-- Zeros of a given number. -/
def zeros (count : Nat) : String :=
  String.ofList (List.replicate count '0')

/-- Lays out a positive decimal; a positional number always has a digit behind the point. -/
def layout (style : DecimalStyle) (decimal : Decimal) : String :=
  let digits := Nat.toDigits 10 decimal.digits
  let point : Int := digits.length + decimal.exponent
  if style.positionalFrom < point ∧ point ≤ style.positionalBelow then
    if 0 ≤ decimal.exponent then
      String.ofList digits ++ zeros decimal.exponent.toNat ++ ".0"
    else if 0 < point then
      String.ofList (digits.take point.toNat) ++ "." ++ String.ofList (digits.drop point.toNat)
    else "0." ++ zeros point.natAbs ++ String.ofList digits
  else
    let fraction := digits.drop 1
    let exponent := point - 1
    String.ofList (digits.take 1) ++
      (if fraction.isEmpty then "" else "." ++ String.ofList fraction) ++
      "e" ++ (if exponent < 0 then "" else style.plus) ++ decimalInt exponent

/-- The shortest text of a finite magnitude with its sign. -/
def finite (style : DecimalStyle) (format : FloatFormat) (negative : Bool) (units : Nat) :
    String :=
  (if negative then "-" else "") ++
    (if units = 0 then "0.0" else style.layout (shortestDecimal format units))

end DecimalStyle

/-- A magnitude with a fixed number of decimal places, a half going to the even neighbour. -/
def fixedPlaces (format : FloatFormat) (places units : Nat) : String :=
  let scaled := roundHalfEven (units * Nat.pow 10 places) format.one
  let fraction := Nat.toDigits 10 (scaled % Nat.pow 10 places)
  decimalDigits (scaled / Nat.pow 10 places) ++ "." ++
    DecimalStyle.zeros (places - fraction.length) ++ String.ofList fraction

/-- The double nearest to the decimal `digits × 10 ^ exponent`. -/
def Binary64.ofDecimal (negative : Bool) (digits : Nat) (exponent : Int) : Binary64 :=
  let point : Int := (Nat.toDigits 10 digits).length + exponent
  if digits = 0 ∨ point < -400 then .ofValue (.finite negative 0)
  else if 400 < point then .ofValue (.infinite negative)
  else if 0 ≤ exponent then .ofRatio negative (digits * Nat.pow 10 exponent.toNat) 1
  else .ofRatio negative digits (Nat.pow 10 exponent.natAbs)

end FontCompiler.Numeric
