import FontCompiler.Numeric.FloatFormat
import Mathlib.Algebra.Order.Ring.Nat
import Mathlib.Order.Monotone.Basic

/-!
# Equality of singles

The numbers of a graph are compared as values, with two exceptions: all NaNs are
one value, and so are the two zeros.  This module says the same of bit patterns:
singles are equal if and only if they have one pattern, or both are NaNs, or both
are zeros.  The reason is that a larger pattern behind the sign stands for a
larger magnitude.
-/

namespace FontCompiler.Numeric.Binary32

/-! ## Patterns -/

/-- The bits behind the sign, as a number. -/
def magnitudeBits (number : Binary32) : Nat :=
  number.bits.toNat % 2 ^ 31

/-- Whether the sign is set. -/
def signBit (number : Binary32) : Bool :=
  2 ^ 31 ≤ number.bits.toNat

/-- A NaN of any sign and payload: a pattern beyond that of infinity. -/
def IsNan (number : Binary32) : Prop :=
  0x7F800000 < number.magnitudeBits

/-- Zero of either sign. -/
def IsZero (number : Binary32) : Prop :=
  number.magnitudeBits = 0

theorem eq_iff {left right : Binary32} :
    left = right ↔ left.signBit = right.signBit ∧ left.magnitudeBits = right.magnitudeBits := by
  constructor
  · rintro rfl
    exact ⟨rfl, rfl⟩
  · rintro ⟨signs, magnitudes⟩
    have leftBits := left.bits.toNat_lt
    have rightBits := right.bits.toNat_lt
    simp only [signBit, decide_eq_decide] at signs
    simp only [magnitudeBits] at magnitudes
    have bits : left.bits = right.bits := by
      apply UInt32.toNat.inj
      omega
    cases left
    cases right
    cases bits
    rfl

/-! ## Magnitudes -/

/-- The magnitude that a pattern without a sign stands for, in units. -/
def unitsOf (bits : Nat) : Nat :=
  if bits / 2 ^ 23 = 0 then bits % 2 ^ 23
  else (2 ^ 23 + bits % 2 ^ 23) * 2 ^ (bits / 2 ^ 23 - 1)

theorem unitsOf_lt (bits : Nat) : unitsOf bits < 2 ^ 23 * 2 ^ (bits / 2 ^ 23) := by
  have fraction : bits % 2 ^ 23 < 2 ^ 23 := Nat.mod_lt _ (Nat.two_pow_pos _)
  rw [unitsOf]
  split
  · rename_i subnormal
    rwa [subnormal, Nat.pow_zero, Nat.mul_one]
  · rename_i normal
    have double : 2 ^ (bits / 2 ^ 23) = 2 * 2 ^ (bits / 2 ^ 23 - 1) := by
      rw [← Nat.pow_succ']
      congr 1
      omega
    rw [double, Nat.mul_left_comm, ← Nat.mul_assoc]
    exact Nat.mul_lt_mul_of_pos_right (by omega) (Nat.two_pow_pos _)

theorem le_unitsOf {bits : Nat} (normal : bits / 2 ^ 23 ≠ 0) :
    2 ^ 23 * 2 ^ (bits / 2 ^ 23 - 1) ≤ unitsOf bits := by
  rw [unitsOf, if_neg normal]
  exact Nat.mul_le_mul_right _ (Nat.le_add_right _ _)

/-- A larger pattern has a larger exponent, or the same one and a larger fraction. -/
theorem unitsOf_strictMono : StrictMono unitsOf := by
  intro bits bits' less
  rcases Nat.lt_or_eq_of_le (Nat.div_le_div_right (c := 2 ^ 23) (Nat.le_of_lt less)) with
    smaller | same
  · calc unitsOf bits
        < 2 ^ 23 * 2 ^ (bits / 2 ^ 23) := unitsOf_lt bits
      _ ≤ 2 ^ 23 * 2 ^ (bits' / 2 ^ 23 - 1) :=
          Nat.mul_le_mul_left _ (Nat.pow_le_pow_right (by decide) (by omega))
      _ ≤ unitsOf bits' := le_unitsOf (by omega)
  · have fractions : bits % 2 ^ 23 < bits' % 2 ^ 23 := by omega
    rw [unitsOf, unitsOf, ← same]
    split
    · exact fractions
    · exact Nat.mul_lt_mul_of_pos_right (by omega) (Nat.two_pow_pos _)

theorem unitsOf_inj {bits bits' : Nat} : unitsOf bits = unitsOf bits' ↔ bits = bits' :=
  unitsOf_strictMono.injective.eq_iff

theorem unitsOf_eq_zero_iff {bits : Nat} : unitsOf bits = 0 ↔ bits = 0 :=
  @unitsOf_inj bits 0

/-! ## Values -/

/-- The exponent field and the fraction are read off the bits behind the sign. -/
theorem value_eq (number : Binary32) :
    number.value =
      if number.magnitudeBits / 2 ^ 23 = 2 ^ 8 - 1 then
        if number.magnitudeBits % 2 ^ 23 = 0 then .infinite number.signBit else .nan
      else .finite number.signBit (unitsOf number.magnitudeBits) := by
  have bits := number.bits.toNat_lt
  have exponent : number.bits.toNat / 2 ^ 23 % 2 ^ 8 = number.magnitudeBits / 2 ^ 23 := by
    rw [magnitudeBits]
    omega
  have fraction : number.bits.toNat % 2 ^ 23 = number.magnitudeBits % 2 ^ 23 := by
    rw [magnitudeBits]
    omega
  have sign : (number.bits.toNat / 2 ^ 31 % 2 == 1) = number.signBit := by
    rw [signBit, Bool.eq_iff_iff, beq_iff_eq, decide_eq_true_eq]
    omega
  simp only [value, FloatFormat.decode, FloatFormat.binary32, Nat.pow_eq, Nat.reduceSub,
    Nat.reduceAdd, exponent, fraction, sign, beq_iff_eq]
  congr 1
  exact (apply_ite (FloatValue.finite number.signBit) _ _ _).symm

variable {left right number : Binary32}

theorem magnitudeBits_lt (number : Binary32) : number.magnitudeBits < 2 ^ 31 :=
  Nat.mod_lt _ (Nat.two_pow_pos _)

theorem value_of_isNan (nan : number.IsNan) : number.value = .nan := by
  have below := number.magnitudeBits_lt
  rw [IsNan] at nan
  rw [value_eq, if_pos (by omega), if_neg (by omega)]

theorem value_of_infinite (infinite : number.magnitudeBits = 0x7F800000) :
    number.value = .infinite number.signBit := by
  rw [value_eq, if_pos (by omega), if_pos (by omega)]

theorem value_of_finite (finite : number.magnitudeBits < 0x7F800000) :
    number.value = .finite number.signBit (unitsOf number.magnitudeBits) := by
  rw [value_eq, if_neg (by omega)]

theorem lt_or_eq_of_not_isNan (number : Binary32) (other : ¬ number.IsNan) :
    number.magnitudeBits < 0x7F800000 ∨ number.magnitudeBits = 0x7F800000 :=
  Nat.lt_or_eq_of_le (Nat.not_lt.mp other)

theorem isNan_value_iff : number.value.isNan = true ↔ number.IsNan := by
  by_cases nan : number.IsNan
  · rw [value_of_isNan nan]
    exact iff_of_true rfl nan
  · refine iff_of_false ?_ nan
    rcases number.lt_or_eq_of_not_isNan nan with finite | infinite
    · rw [value_of_finite finite]
      exact Bool.false_ne_true
    · rw [value_of_infinite infinite]
      exact Bool.false_ne_true

/-! ## Equality -/

theorem signedUnits_eq_iff {negative negative' : Bool} {units units' : Nat} :
    FloatValue.signedUnits negative units = FloatValue.signedUnits negative' units' ↔
      units = units' ∧ (negative = negative' ∨ units = 0) := by
  cases negative <;> cases negative' <;> simp [FloatValue.signedUnits] <;> omega

/-- Of numbers that are no NaNs, only the two zeros are equal in spite of their patterns. -/
theorem numericEq_value_iff (number' : ¬ left.IsNan) (number'' : ¬ right.IsNan) :
    left.value.numericEq right.value = true ↔
      left = right ∨ left.IsZero ∧ right.IsZero := by
  rw [eq_iff, IsZero, IsZero]
  rcases left.lt_or_eq_of_not_isNan number' with finite | infinite <;>
    rcases right.lt_or_eq_of_not_isNan number'' with finite' | infinite'
  · rw [value_of_finite finite, value_of_finite finite', FloatValue.numericEq, beq_iff_eq,
      signedUnits_eq_iff, unitsOf_inj, unitsOf_eq_zero_iff]
    grind
  · rw [value_of_finite finite, value_of_infinite infinite']
    refine iff_of_false Bool.false_ne_true ?_
    omega
  · rw [value_of_infinite infinite, value_of_finite finite']
    refine iff_of_false Bool.false_ne_true ?_
    omega
  · rw [value_of_infinite infinite, value_of_infinite infinite', FloatValue.numericEq, beq_iff_eq,
      infinite, infinite']
    simp

theorem not_isNan_of_isZero (zero : number.IsZero) : ¬ number.IsNan := by
  rw [IsNan, zero]
  decide

/-- Singles are equal if they have one pattern, or both are NaNs, or both are zeros. -/
theorem equivalent_iff :
    left.equivalent right = true ↔
      left = right ∨ left.IsNan ∧ right.IsNan ∨ left.IsZero ∧ right.IsZero := by
  rw [equivalent]
  by_cases nan : left.IsNan
  · rw [if_pos (isNan_value_iff.mpr nan), isNan_value_iff]
    constructor
    · exact fun nan' => .inr (.inl ⟨nan, nan'⟩)
    · rintro (rfl | ⟨-, nan'⟩ | ⟨zero, -⟩)
      · exact nan
      · exact nan'
      · exact absurd nan (not_isNan_of_isZero zero)
  · rw [if_neg (mt isNan_value_iff.mp nan)]
    by_cases nan' : right.IsNan
    · refine iff_of_false ?_ ?_
      · rw [value_of_isNan nan']
        cases left.value <;> exact Bool.false_ne_true
      · rintro (rfl | ⟨own, -⟩ | ⟨-, zero⟩)
        · exact nan nan'
        · exact nan own
        · exact not_isNan_of_isZero zero nan'
    · rw [numericEq_value_iff nan nan']
      simp only [nan, false_and, false_or]

end FontCompiler.Numeric.Binary32
