import FontCompiler.Numeric.FloatFormat
import Mathlib.Algebra.Order.Ring.Nat
import Mathlib.Tactic.Ring

/-!
# Rounding to a format

A quotient of units is rounded to a magnitude that the format represents.  It
stays in the range of the format if and only if it is below the middle between
the largest magnitude there and the least one beyond: a tie goes to the even
neighbour, which is the one beyond.

A datum survives being written as a bit pattern and read back, so a pattern that
comes from rounding stands for exactly what was rounded to.
-/

namespace FontCompiler.Numeric

/-! ## Rounding to integers -/

theorem div_le_roundHalfEven (numerator denominator : Nat) :
    numerator / denominator ≤ roundHalfEven numerator denominator := by
  dsimp only [roundHalfEven]
  split
  · exact Nat.le_refl _
  · split <;> omega

theorem roundHalfEven_le_succ (numerator denominator : Nat) :
    roundHalfEven numerator denominator ≤ numerator / denominator + 1 := by
  dsimp only [roundHalfEven]
  split
  · omega
  · split <;> omega

/-- An even number is not reached from below its lower half. -/
theorem roundHalfEven_lt_iff {numerator denominator bound : Nat} (positive : 0 < denominator)
    (even : bound % 2 = 0) :
    roundHalfEven numerator denominator < bound ↔
      2 * numerator + denominator < 2 * (bound * denominator) := by
  have whole := Nat.div_add_mod' numerator denominator
  have small := Nat.mod_lt numerator positive
  have above := div_le_roundHalfEven numerator denominator
  have below := roundHalfEven_le_succ numerator denominator
  rcases Nat.lt_trichotomy (numerator / denominator + 1) bound with less | same | more
  · have scaled := Nat.mul_le_mul_right denominator less
    rw [Nat.succ_mul, Nat.succ_mul] at scaled
    exact iff_of_true (by omega) (by omega)
  · have scaled := congrArg (· * denominator) same
    simp only [Nat.succ_mul] at scaled
    dsimp only [roundHalfEven]
    split
    · exact iff_of_true (by omega) (by omega)
    · split
      · exact iff_of_false (by omega) (by omega)
      · exact iff_of_false (by omega) (by omega)
  · have scaled := Nat.mul_le_mul_right denominator (Nat.le_of_lt_succ more)
    exact iff_of_false (by omega) (by omega)

namespace FloatFormat

/-- A format with a quiet NaN and with normal numbers. -/
structure Regular (format : FloatFormat) : Prop where
  precise : 2 ≤ format.precision
  wide : 2 ≤ format.exponentBits

theorem regular_binary32 : binary32.Regular where
  precise := by decide
  wide := by decide

theorem one_pos (format : FloatFormat) : 0 < format.one :=
  Nat.two_pow_pos _

variable {format : FloatFormat}

/-! ## Dropped bits -/

theorem droppedBits_le_iff {units count : Nat} :
    format.droppedBits units ≤ count ↔ units < 2 ^ (format.precision + count) := by
  rw [droppedBits, Nat.pow_eq]
  split
  · rename_i short
    have longer :=
      Nat.pow_le_pow_right (by decide : 0 < 2) (Nat.le_add_right format.precision count)
    exact iff_of_true (Nat.zero_le _) (Nat.lt_of_lt_of_le short longer)
  · rename_i long
    have nonzero : units ≠ 0 := by
      rintro rfl
      exact long (Nat.two_pow_pos _)
    rw [← Nat.log2_lt nonzero]
    omega

/-- How many bits the largest magnitudes of a format give up. -/
def mostDropped (format : FloatFormat) : Nat :=
  2 ^ format.exponentBits - 3

theorem lt_overflowUnits_iff {units : Nat} :
    units < format.overflowUnits ↔ format.droppedBits units ≤ format.mostDropped :=
  droppedBits_le_iff.symm

theorem div_lt_of_droppedBits (format : FloatFormat) (units : Nat) :
    units / 2 ^ format.droppedBits units < 2 ^ format.precision := by
  rw [Nat.div_lt_iff_lt_mul (Nat.two_pow_pos _), ← Nat.pow_add]
  exact droppedBits_le_iff.mp (Nat.le_refl _)

variable (regular : format.Regular)

include regular

/-- Where bits are dropped, those that stay are as many as the precision says. -/
theorem le_div_of_droppedBits {units : Nat} (drops : 0 < format.droppedBits units) :
    2 ^ (format.precision - 1) ≤ units / 2 ^ format.droppedBits units := by
  have precise := regular.precise
  rw [Nat.le_div_iff_mul_le (Nat.two_pow_pos _), ← Nat.pow_add]
  have long : ¬ format.droppedBits units ≤ format.droppedBits units - 1 := by omega
  rw [droppedBits_le_iff, Nat.not_lt] at long
  refine Nat.le_trans (Nat.pow_le_pow_right (by decide) ?_) long
  omega

theorem mostDropped_pos : 0 < format.mostDropped := by
  have wide := Nat.pow_le_pow_right (by decide : 0 < 2) regular.wide
  rw [mostDropped]
  omega

/-! ## Rounding to magnitudes -/

omit regular in
theorem roundUnits_le (format : FloatFormat) (numerator denominator : Nat) :
    format.roundUnits numerator denominator ≤
      2 ^ format.precision * 2 ^ format.droppedBits (numerator / denominator) := by
  refine Nat.mul_le_mul_right _ (Nat.le_trans (roundHalfEven_le_succ _ _) ?_)
  rw [Nat.pow_eq, ← Nat.div_div_eq_div_mul]
  exact div_lt_of_droppedBits format _

theorem le_roundUnits {numerator denominator : Nat}
    (drops : 0 < format.droppedBits (numerator / denominator)) :
    2 ^ (format.precision - 1) * 2 ^ format.droppedBits (numerator / denominator) ≤
      format.roundUnits numerator denominator := by
  refine Nat.mul_le_mul_right _ (Nat.le_trans ?_ (div_le_roundHalfEven _ _))
  rw [Nat.pow_eq, ← Nat.div_div_eq_div_mul]
  exact le_div_of_droppedBits regular drops

/-- A quotient is rounded into the range if and only if it is below the middle between the largest
magnitude in it and the least one beyond. -/
theorem roundUnits_lt_overflowUnits_iff {numerator denominator : Nat}
    (positive : 0 < denominator) :
    format.roundUnits numerator denominator < format.overflowUnits ↔
      2 * numerator + denominator * 2 ^ format.mostDropped <
        2 * (2 ^ format.precision * (denominator * 2 ^ format.mostDropped)) := by
  have precise := regular.precise
  have overflow : format.overflowUnits = 2 ^ format.precision * 2 ^ format.mostDropped :=
    Nat.pow_add _ _ _
  have short_iff (count : Nat) :
      format.droppedBits (numerator / denominator) ≤ count ↔
        numerator < 2 ^ format.precision * 2 ^ count * denominator := by
    rw [droppedBits_le_iff, Nat.div_lt_iff_lt_mul positive, Nat.pow_add]
  rcases Nat.lt_trichotomy (format.droppedBits (numerator / denominator)) format.mostDropped with
    fewer | same | more
  · -- far below the bound, whatever the rounding does
    have half : 2 * 2 ^ format.droppedBits (numerator / denominator) ≤ 2 ^ format.mostDropped := by
      rw [Nat.mul_comm, ← Nat.pow_succ]
      exact Nat.pow_le_pow_right (by decide) fewer
    have short := (short_iff _).mp (Nat.le_refl _)
    have above := roundUnits_le format numerator denominator
    generalize 2 ^ format.droppedBits (numerator / denominator) = step at half short above
    have many : 0 < 2 ^ format.precision := Nat.two_pow_pos _
    have steps : 0 < 2 ^ format.mostDropped := Nat.two_pow_pos _
    refine iff_of_true ?_ ?_
    · rw [overflow]
      exact Nat.lt_of_le_of_lt above (Nat.mul_lt_mul_of_pos_left (by omega) many)
    · calc 2 * numerator + denominator * 2 ^ format.mostDropped
          < 2 ^ format.precision * (2 * step) * denominator +
              denominator * 2 ^ format.mostDropped := by
            refine Nat.add_lt_add_right ?_ _
            calc 2 * numerator
                < 2 * (2 ^ format.precision * step * denominator) := by omega
              _ = 2 ^ format.precision * (2 * step) * denominator := by ring
        _ ≤ 2 ^ format.precision * 2 ^ format.mostDropped * denominator +
              2 ^ format.precision * (denominator * 2 ^ format.mostDropped) :=
            Nat.add_le_add
              (Nat.mul_le_mul_right _ (Nat.mul_le_mul_left _ half))
              (Nat.le_mul_of_pos_left _ many)
        _ = 2 * (2 ^ format.precision * (denominator * 2 ^ format.mostDropped)) := by ring
  · have even : 2 ^ format.precision % 2 = 0 :=
      Nat.mod_eq_zero_of_dvd (dvd_pow_self 2 (by omega))
    rw [overflow, ← same]
    change _ * 2 ^ format.droppedBits (numerator / denominator) < _ ↔ _
    rw [Nat.mul_lt_mul_right (Nat.two_pow_pos _)]
    exact roundHalfEven_lt_iff (Nat.mul_pos positive (Nat.two_pow_pos _)) even
  · have long := Nat.not_lt.mp (mt (short_iff _).mpr (Nat.not_le_of_lt more))
    refine iff_of_false (Nat.not_lt.mpr ?_) (Nat.not_lt.mpr ?_)
    · calc format.overflowUnits
          ≤ 2 ^ (format.precision - 1) * 2 ^ format.droppedBits (numerator / denominator) := by
            rw [overflow, ← Nat.pow_add, ← Nat.pow_add]
            exact Nat.pow_le_pow_right (by decide) (by omega)
        _ ≤ format.roundUnits numerator denominator :=
          le_roundUnits regular (Nat.zero_lt_of_lt more)
    · calc 2 * (2 ^ format.precision * (denominator * 2 ^ format.mostDropped))
          = 2 * (2 ^ format.precision * 2 ^ format.mostDropped * denominator) := by ring
        _ ≤ 2 * numerator + denominator * 2 ^ format.mostDropped := by omega

/-! ## Magnitudes of a format -/

/-- A magnitude that gives up nothing but zeros. -/
def Represents (format : FloatFormat) (units : Nat) : Prop :=
  2 ^ format.droppedBits units ∣ units

/-- A datum of a format; a finite one has a magnitude that is represented and in range. -/
inductive IsDatum (format : FloatFormat) : FloatValue → Prop
  | nan : IsDatum format .nan
  | infinite (negative : Bool) : IsDatum format (.infinite negative)
  | finite (negative : Bool) {units : Nat} (represents : format.Represents units)
      (within : units < format.overflowUnits) : IsDatum format (.finite negative units)

theorem represents_roundUnits (numerator denominator : Nat) :
    format.Represents (format.roundUnits numerator denominator) := by
  have precise := regular.precise
  let dropped := format.droppedBits (numerator / denominator)
  have above := roundUnits_le format numerator denominator
  rcases Nat.lt_or_eq_of_le above with within | carried
  · -- no more bits are given up than before, and those are zeros by now
    have fewer : format.droppedBits (format.roundUnits numerator denominator) ≤ dropped := by
      rwa [droppedBits_le_iff, Nat.pow_add]
    exact (pow_dvd_pow 2 fewer).trans (Nat.dvd_mul_left _ _)
  · -- a power of two
    rw [Represents, carried, ← Nat.pow_add]
    refine pow_dvd_pow 2 ?_
    rw [droppedBits_le_iff]
    exact Nat.pow_lt_pow_right (by decide) (by omega)

theorem isDatum_ofUnits (negative : Bool) (numerator denominator : Nat) :
    format.IsDatum (format.ofUnits negative numerator denominator) := by
  dsimp only [ofUnits]
  split
  · rename_i within
    exact .finite negative (represents_roundUnits regular _ _) within
  · exact .infinite negative

theorem isDatum_ofRatio (negative : Bool) (numerator denominator : Nat) :
    format.IsDatum (format.ofRatio negative numerator denominator) :=
  isDatum_ofUnits regular _ _ _

omit regular in
theorem isFinite_ofUnits_iff (negative : Bool) {numerator denominator : Nat} :
    (format.ofUnits negative numerator denominator).isFinite = true ↔
      format.roundUnits numerator denominator < format.overflowUnits := by
  dsimp only [ofUnits]
  split
  · rename_i within
    exact iff_of_true rfl within
  · rename_i beyond
    exact iff_of_false Bool.false_ne_true beyond

/-! ## Bit patterns -/

/-- The datum with a sign, an exponent field and a fraction. -/
def ofFields (format : FloatFormat) (negative : Bool) (exponent fraction : Nat) : FloatValue :=
  if exponent = 2 ^ format.exponentBits - 1 then
    if fraction = 0 then .infinite negative else .nan
  else if exponent = 0 then .finite negative fraction
  else .finite negative ((2 ^ (format.precision - 1) + fraction) * 2 ^ (exponent - 1))

/-- The pattern with a sign, an exponent field and a fraction. -/
def pattern (format : FloatFormat) (negative : Bool) (exponent fraction : Nat) : Nat :=
  format.signBit negative + (exponent * 2 ^ (format.precision - 1) + fraction)

omit regular in
theorem signBit_eq (negative : Bool) :
    format.signBit negative =
      2 ^ (format.precision - 1) * (2 ^ format.exponentBits * negative.toNat) := by
  rw [← Nat.mul_assoc, ← Nat.pow_add]
  cases negative
  · rfl
  · exact (Nat.mul_one _).symm

omit regular in
/-- The sign, the exponent field and the fraction of a pattern are read one by one. -/
theorem decode_pattern (negative : Bool) {exponent fraction : Nat}
    (field : exponent < 2 ^ format.exponentBits)
    (below : fraction < 2 ^ (format.precision - 1)) :
    format.decode (format.pattern negative exponent fraction) =
      format.ofFields negative exponent fraction := by
  let step := 2 ^ (format.precision - 1)
  let bits := format.pattern negative exponent fraction
  have positive : 0 < step := Nat.two_pow_pos _
  have shape : bits = fraction + step * (exponent + 2 ^ format.exponentBits * negative.toNat) := by
    dsimp only [bits]
    rw [pattern, signBit_eq]
    ring
  have fractionRead : bits % step = fraction := by
    rw [shape, Nat.add_mul_mod_self_left, Nat.mod_eq_of_lt below]
  have front : bits / step = exponent + 2 ^ format.exponentBits * negative.toNat := by
    rw [shape, Nat.add_mul_div_left _ _ positive, Nat.div_eq_of_lt below, Nat.zero_add]
  have exponentRead : bits / step % 2 ^ format.exponentBits = exponent := by
    rw [front, Nat.add_mul_mod_self_left, Nat.mod_eq_of_lt field]
  have signRead :
      (bits / 2 ^ (format.precision - 1 + format.exponentBits) % 2 == 1) = negative := by
    rw [Nat.pow_add, ← Nat.div_div_eq_div_mul, front, Nat.add_mul_div_left _ _ (Nat.two_pow_pos _),
      Nat.div_eq_of_lt field, Nat.zero_add]
    cases negative <;> rfl
  change format.decode bits = _
  simp only [decode, Nat.pow_eq]
  rw [fractionRead, exponentRead, signRead]
  simp only [beq_iff_eq, ofFields]

omit regular in
theorem pattern_lt (negative : Bool) {exponent fraction : Nat}
    (field : exponent < 2 ^ format.exponentBits)
    (below : fraction < 2 ^ (format.precision - 1)) :
    format.pattern negative exponent fraction <
      2 ^ (format.precision - 1) * (2 ^ format.exponentBits * 2) := by
  have front : exponent + 1 + 2 ^ format.exponentBits * negative.toNat ≤
      2 ^ format.exponentBits * 2 := by
    cases negative <;> simp <;> omega
  calc format.pattern negative exponent fraction
      < 2 ^ (format.precision - 1) * (exponent + 1 + 2 ^ format.exponentBits * negative.toNat) := by
        rw [pattern, signBit_eq, Nat.mul_add, Nat.mul_add, Nat.mul_comm exponent]
        omega
    _ ≤ 2 ^ (format.precision - 1) * (2 ^ format.exponentBits * 2) := Nat.mul_le_mul_left _ front

/-- The fields of a magnitude: a number below the normal ones, or the exponent of its power of two
with the bits behind its leading one. -/
theorem exists_fields_of_units {units : Nat} (represents : format.Represents units)
    (within : units < format.overflowUnits) :
    ∃ exponent fraction,
      format.encodeUnits units = exponent * 2 ^ (format.precision - 1) + fraction ∧
        exponent < 2 ^ format.exponentBits - 1 ∧
        fraction < 2 ^ (format.precision - 1) ∧
        ∀ negative, .finite negative units = format.ofFields negative exponent fraction := by
  have most := mostDropped_pos regular
  have precise := regular.precise
  have double : 2 ^ format.precision = 2 * 2 ^ (format.precision - 1) := by
    rw [← Nat.pow_succ']
    congr 1
    omega
  rw [mostDropped] at most
  by_cases small : units < 2 ^ (format.precision - 1)
  · have kept : format.droppedBits units = 0 := by
      rw [← Nat.le_zero, droppedBits_le_iff, Nat.add_zero]
      omega
    refine ⟨0, units, ?_, by omega, small, fun negative => ?_⟩
    · simp [encodeUnits, kept]
    · rw [ofFields, if_neg (by omega), if_pos rfl]
  · have few : format.droppedBits units ≤ format.mostDropped := lt_overflowUnits_iff.mp within
    have above : 2 ^ (format.precision - 1) ≤ units / 2 ^ format.droppedBits units := by
      rcases Nat.eq_zero_or_pos (format.droppedBits units) with none | drops
      · rw [none, Nat.pow_zero, Nat.div_one]
        exact Nat.not_lt.mp small
      · exact le_div_of_droppedBits regular drops
    have below := div_lt_of_droppedBits format units
    refine
      ⟨format.droppedBits units + 1,
        units / 2 ^ format.droppedBits units - 2 ^ (format.precision - 1), ?_, ?_, ?_, ?_⟩
    · rw [encodeUnits, Nat.succ_mul, Nat.pow_eq, Nat.pow_eq]
      omega
    · rw [mostDropped] at few
      omega
    · omega
    · intro negative
      rw [mostDropped] at few
      rw [ofFields, if_neg (by omega), if_neg (Nat.succ_ne_zero _), Nat.add_sub_cancel' above,
        Nat.add_sub_cancel, Nat.div_mul_cancel represents]

theorem exists_fields {value : FloatValue} (datum : format.IsDatum value) :
    ∃ negative exponent fraction,
      format.encode value = format.pattern negative exponent fraction ∧
        exponent < 2 ^ format.exponentBits ∧
        fraction < 2 ^ (format.precision - 1) ∧
        value = format.ofFields negative exponent fraction := by
  have precise := regular.precise
  have wide := Nat.pow_le_pow_right (by decide : 0 < 2) regular.wide
  have last : 2 ^ format.exponentBits - 1 < 2 ^ format.exponentBits := by omega
  cases datum with
  | nan =>
      refine
        ⟨false, 2 ^ format.exponentBits - 1, 2 ^ (format.precision - 2), (Nat.zero_add _).symm,
          last, ?_, ?_⟩
      · exact Nat.pow_lt_pow_right (by decide) (by omega)
      · rw [ofFields, if_pos rfl, if_neg (Nat.two_pow_pos _).ne']
  | infinite negative =>
      refine ⟨negative, 2 ^ format.exponentBits - 1, 0, rfl, last, Nat.two_pow_pos _, ?_⟩
      rw [ofFields, if_pos rfl, if_pos rfl]
  | finite negative represents within =>
      rcases exists_fields_of_units regular represents within with
        ⟨exponent, fraction, fields, field, below, value⟩
      refine ⟨negative, exponent, fraction, ?_, by omega, below, value negative⟩
      rw [encode, fields, pattern]

/-- A datum is read back from its pattern. -/
theorem decode_encode {value : FloatValue} (datum : format.IsDatum value) :
    format.decode (format.encode value) = value := by
  rcases exists_fields regular datum with ⟨negative, exponent, fraction, fields, field, below, own⟩
  rw [fields, decode_pattern negative field below, own]

end FloatFormat

/-! ## Single precision -/

namespace Binary32

open FloatFormat

theorem value_ofValue {value : FloatValue} (datum : binary32.IsDatum value) :
    (ofValue value).value = value := by
  rcases exists_fields regular_binary32 datum with
    ⟨negative, exponent, fraction, fields, field, below, -⟩
  have fits : binary32.encode value < UInt32.size := by
    rw [fields]
    exact pattern_lt negative field below
  rw [Binary32.value, ofValue, UInt32.toNat_ofNat', Nat.mod_eq_of_lt fits]
  exact decode_encode regular_binary32 datum

/-- A double stands for the datum that its magnitude is rounded to. -/
theorem value_ofBinary64 (number : Binary64) :
    (ofBinary64 number).value =
      match number.value with
      | .nan => .nan
      | .infinite negative => .infinite negative
      | .finite negative units => binary32.ofRatio negative units binary64.one := by
  rw [ofBinary64]
  cases number.value with
  | nan => exact value_ofValue .nan
  | infinite negative => exact value_ofValue (.infinite negative)
  | finite negative units =>
      exact value_ofValue (isDatum_ofRatio regular_binary32 _ _ _)

/-- The least magnitude that is rounded out of single precision: the middle between the largest
single and the power of two beyond. -/
def bound : Nat :=
  2 ^ 128 - 2 ^ 103

/-- The bound of rounding in units of a double. -/
theorem middle_lt_iff {one unit step : Nat} (positive : 0 < unit) (units : Nat) :
    2 * (units * unit) + one * (2 * unit * step) <
        2 * (2 ^ 24 * (one * (2 * unit * step))) ↔
      units < (2 ^ 25 - 1) * step * one := by
  have scale : 0 < 2 * unit := by omega
  have left : 2 * (units * unit) + one * (2 * unit * step) = 2 * unit * (units + step * one) := by
    ring
  have right :
      2 * (2 ^ 24 * (one * (2 * unit * step))) =
        2 * unit * ((2 ^ 25 - 1) * step * one + step * one) := by
    ring
  rw [left, right, Nat.mul_lt_mul_left scale, Nat.add_lt_add_iff_right]

theorem roundUnits_lt_iff (units : Nat) :
    binary32.roundUnits (units * binary32.one) binary64.one < binary32.overflowUnits ↔
      units < bound * binary64.one := by
  have spare : 2 ^ binary32.mostDropped = 2 * binary32.one * 2 ^ 103 := by decide +kernel
  have factor : bound = (2 ^ 25 - 1) * 2 ^ 103 := by decide +kernel
  have precision : binary32.precision = 24 := rfl
  have rounded :=
    @roundUnits_lt_overflowUnits_iff _ regular_binary32 (units * binary32.one) _ binary64.one_pos
  rw [spare, precision] at rounded
  rw [factor]
  exact rounded.trans (middle_lt_iff binary32.one_pos units)

/-- A double becomes a finite single if and only if it is finite and below the bound. -/
theorem isFinite_ofBinary64_iff (number : Binary64) :
    (ofBinary64 number).value.isFinite = true ↔
      ∃ negative units, number.value = .finite negative units ∧
        units < bound * binary64.one := by
  rw [value_ofBinary64]
  cases number.value with
  | nan => exact iff_of_false nofun nofun
  | infinite negative => exact iff_of_false nofun nofun
  | finite negative units =>
      have within_iff :=
        (isFinite_ofUnits_iff negative).trans (roundUnits_lt_iff units)
      refine within_iff.trans ?_
      constructor
      · exact fun within => ⟨negative, units, rfl, within⟩
      · rintro ⟨negative', units', same, within⟩
        cases same
        exact within

end Binary32

end FontCompiler.Numeric
