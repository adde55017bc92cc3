/-!
# Binary floating-point formats

A binary interchange format is given by its precision and by the width of its
exponent field.  Every finite datum of a format is an integer multiple of the
smallest subnormal number, so a magnitude is kept as a natural number counted
in that unit and every operation is exact until the final rounding.

The module says how bit patterns are read and written, how a quotient is
rounded to the nearest datum with ties to the even significand, and how the
four arithmetic operations and the comparison are obtained from these two.
-/

namespace FontCompiler.Numeric

/-- The integer nearest to a quotient; a tie goes to the even neighbour. -/
def roundHalfEven (numerator denominator : Nat) : Nat :=
  let quotient := numerator / denominator
  let remainder := numerator % denominator
  if 2 * remainder < denominator then quotient
  else if denominator < 2 * remainder then quotient + 1
  else quotient + quotient % 2

/-- What a bit pattern stands for; finite magnitudes count smallest subnormals. -/
inductive FloatValue
  | nan
  | infinite (negative : Bool)
  | finite (negative : Bool) (units : Nat)
  deriving DecidableEq, Repr

/-- A binary format: significand bits, the leading one counted, and exponent bits. -/
structure FloatFormat where
  precision : Nat
  exponentBits : Nat
  deriving DecidableEq, Repr

namespace FloatFormat

/-- The format of single-precision numbers. -/
def binary32 : FloatFormat := ⟨24, 8⟩

/-- The format of double-precision numbers. -/
def binary64 : FloatFormat := ⟨53, 11⟩

/-- The unit of magnitudes is two to the power of minus this number. -/
def unitExponent (format : FloatFormat) : Nat :=
  Nat.pow 2 (format.exponentBits - 1) + format.precision - 3

/-- The number of units that make up the number one. -/
def one (format : FloatFormat) : Nat :=
  Nat.pow 2 format.unitExponent

/-- The least magnitude that is too large for the format. -/
def overflowUnits (format : FloatFormat) : Nat :=
  Nat.pow 2 (format.precision + (Nat.pow 2 format.exponentBits - 3))

/-- The number of low bits that a magnitude of this size has to give up. -/
def droppedBits (format : FloatFormat) (units : Nat) : Nat :=
  if units < Nat.pow 2 format.precision then 0 else units.log2 + 1 - format.precision

/-- The representable magnitude nearest to a quotient of units, without an upper bound. -/
def roundUnits (format : FloatFormat) (numerator denominator : Nat) : Nat :=
  let dropped := format.droppedBits (numerator / denominator)
  roundHalfEven numerator (denominator * Nat.pow 2 dropped) * Nat.pow 2 dropped

/-- The datum nearest to a quotient of units; magnitudes out of range become infinite. -/
def ofUnits (format : FloatFormat) (negative : Bool) (numerator denominator : Nat) :
    FloatValue :=
  let units := format.roundUnits numerator denominator
  if units < format.overflowUnits then .finite negative units else .infinite negative

/-- The datum nearest to a quotient. -/
def ofRatio (format : FloatFormat) (negative : Bool) (numerator denominator : Nat) :
    FloatValue :=
  format.ofUnits negative (numerator * format.one) denominator

/-- Reads a bit pattern: sign, exponent field and fraction, from the high bit down. -/
def decode (format : FloatFormat) (bits : Nat) : FloatValue :=
  let fractionBits := format.precision - 1
  let fraction := bits % Nat.pow 2 fractionBits
  let exponent := bits / Nat.pow 2 fractionBits % Nat.pow 2 format.exponentBits
  let negative := bits / Nat.pow 2 (fractionBits + format.exponentBits) % 2 == 1
  if exponent == Nat.pow 2 format.exponentBits - 1 then
    if fraction == 0 then .infinite negative else .nan
  else if exponent == 0 then .finite negative fraction
  else .finite negative ((Nat.pow 2 fractionBits + fraction) * Nat.pow 2 (exponent - 1))

/-- The exponent field and fraction of a representable magnitude, as one number. -/
def encodeUnits (format : FloatFormat) (units : Nat) : Nat :=
  let dropped := format.droppedBits units
  dropped * Nat.pow 2 (format.precision - 1) + units / Nat.pow 2 dropped

/-- The contribution of the sign to a bit pattern. -/
def signBit (format : FloatFormat) (negative : Bool) : Nat :=
  if negative then Nat.pow 2 (format.precision - 1 + format.exponentBits) else 0

/-- Writes a datum as a bit pattern; the quiet NaN stands for every NaN. -/
def encode (format : FloatFormat) : FloatValue → Nat
  | .nan =>
    (Nat.pow 2 format.exponentBits - 1) * Nat.pow 2 (format.precision - 1) +
      Nat.pow 2 (format.precision - 2)
  | .infinite negative =>
    format.signBit negative +
      (Nat.pow 2 format.exponentBits - 1) * Nat.pow 2 (format.precision - 1)
  | .finite negative units => format.signBit negative + format.encodeUnits units

end FloatFormat

namespace FloatValue

/-- Whether the datum is neither infinite nor NaN. -/
def isFinite : FloatValue → Bool
  | .finite _ _ => true
  | _ => false

/-- Whether the datum is a NaN. -/
def isNan : FloatValue → Bool
  | .nan => true
  | _ => false

/-- A magnitude with its sign. -/
def signedUnits (negative : Bool) (units : Nat) : Int :=
  if negative then -(units : Int) else units

/-- Equality of numbers: the zeros are equal, and a NaN differs from everything. -/
def numericEq : FloatValue → FloatValue → Bool
  | .infinite left, .infinite right => left == right
  | .finite left leftUnits, .finite right rightUnits =>
    signedUnits left leftUnits == signedUnits right rightUnits
  | _, _ => false

/-- The order of numbers, with negative infinity least; `none` if one is a NaN. -/
def compare? : FloatValue → FloatValue → Option Ordering
  | .nan, _ => none
  | _, .nan => none
  | .infinite left, .infinite right =>
    some (if left == right then .eq else if left then .lt else .gt)
  | .infinite left, .finite _ _ => some (if left then .lt else .gt)
  | .finite _ _, .infinite right => some (if right then .gt else .lt)
  | .finite left leftUnits, .finite right rightUnits =>
    some (compare (signedUnits left leftUnits) (signedUnits right rightUnits))

/-- The number with the opposite sign. -/
def neg : FloatValue → FloatValue
  | .nan => .nan
  | .infinite negative => .infinite (!negative)
  | .finite negative units => .finite (!negative) units

/-- The rounded sum; opposite infinities have none, and opposite numbers give positive zero. -/
def add (format : FloatFormat) : FloatValue → FloatValue → FloatValue
  | .nan, _ => .nan
  | _, .nan => .nan
  | .infinite left, .infinite right => if left == right then .infinite left else .nan
  | .infinite left, .finite _ _ => .infinite left
  | .finite _ _, .infinite right => .infinite right
  | .finite left leftUnits, .finite right rightUnits =>
    let sum := signedUnits left leftUnits + signedUnits right rightUnits
    if sum = 0 then .finite (left && right) 0
    else format.ofUnits (sum < 0) sum.natAbs 1

/-- The rounded difference. -/
def sub (format : FloatFormat) (left right : FloatValue) : FloatValue :=
  add format left right.neg

/-- The rounded product; zero times infinity has none. -/
def mul (format : FloatFormat) : FloatValue → FloatValue → FloatValue
  | .nan, _ => .nan
  | _, .nan => .nan
  | .infinite left, .infinite right => .infinite (left != right)
  | .infinite left, .finite right units => if units = 0 then .nan else .infinite (left != right)
  | .finite left units, .infinite right => if units = 0 then .nan else .infinite (left != right)
  | .finite left leftUnits, .finite right rightUnits =>
    format.ofUnits (left != right) (leftUnits * rightUnits) format.one

/-- The rounded quotient; a number divided by zero is infinite, zero by zero has none. -/
def div (format : FloatFormat) : FloatValue → FloatValue → FloatValue
  | .nan, _ => .nan
  | _, .nan => .nan
  | .infinite _, .infinite _ => .nan
  | .infinite left, .finite right _ => .infinite (left != right)
  | .finite left _, .infinite right => .finite (left != right) 0
  | .finite left leftUnits, .finite right rightUnits =>
    if rightUnits = 0 then
      if leftUnits = 0 then .nan else .infinite (left != right)
    else format.ofUnits (left != right) (leftUnits * format.one) rightUnits

/-- The remainder of the division towards zero, with the sign of the dividend; it is exact. -/
def rem : FloatValue → FloatValue → FloatValue
  | .nan, _ => .nan
  | _, .nan => .nan
  | .infinite _, _ => .nan
  | left, .infinite _ => left
  | .finite left leftUnits, .finite _ rightUnits =>
    if rightUnits = 0 then .nan else .finite left (leftUnits % rightUnits)

end FloatValue

/-- A double-precision number, kept as its bit pattern. -/
structure Binary64 where
  bits : UInt64
  deriving DecidableEq, Repr

namespace Binary64

/-- What the bit pattern stands for. -/
def value (number : Binary64) : FloatValue :=
  FloatFormat.binary64.decode number.bits.toNat

/-- The pattern of a datum of the format. -/
def ofValue (value : FloatValue) : Binary64 :=
  ⟨UInt64.ofNat (FloatFormat.binary64.encode value)⟩

/-- The double nearest to a quotient. -/
def ofRatio (negative : Bool) (numerator denominator : Nat) : Binary64 :=
  ofValue (FloatFormat.binary64.ofRatio negative numerator denominator)

/-- The double nearest to an integer. -/
def ofInt (number : Int) : Binary64 :=
  ofRatio (number < 0) number.natAbs 1

end Binary64

/-- A single-precision number, kept as its bit pattern. -/
structure Binary32 where
  bits : UInt32
  deriving DecidableEq, Repr

namespace Binary32

/-- What the bit pattern stands for. -/
def value (number : Binary32) : FloatValue :=
  FloatFormat.binary32.decode number.bits.toNat

/-- The pattern of a datum of the format. -/
def ofValue (value : FloatValue) : Binary32 :=
  ⟨UInt32.ofNat (FloatFormat.binary32.encode value)⟩

/-- The single nearest to a double; numbers beyond the range become infinite. -/
def ofBinary64 (number : Binary64) : Binary32 :=
  match number.value with
  | .nan => ofValue .nan
  | .infinite negative => ofValue (.infinite negative)
  | .finite negative units =>
    ofValue (FloatFormat.binary32.ofRatio negative units FloatFormat.binary64.one)

/-- Equality of graph numbers: all NaNs are one value, and so are the two zeros. -/
def equivalent (left right : Binary32) : Bool :=
  if left.value.isNan then right.value.isNan else left.value.numericEq right.value

end Binary32

end FontCompiler.Numeric
