import Checkup.Proofs.Number.Range

/-!
# The bits of a rounded result

A result of arithmetic is exact before it is rounded to a double. Main statement: the bits of the
double count, from the start of its exponent, the exact result rounded to a whole significand, up to
infinity.
-/

namespace Checkup.Number

open Float.Model Float.Model.UnpackedFloat

/-- A shifted significand keeps the last bit that was shifted out, and whether any other was set. -/
theorem shift_succ_eq (significand count : Nat) :
    ExtendedMantissa.ofMantissaAndAccuracy significand .exact >>> (count + 1) =
      ⟨significand / 2 ^ (count + 1), significand / 2 ^ count % 2 != 0,
        significand % 2 ^ count != 0⟩ := by
  induction count with
  | zero =>
    have single : ExtendedMantissa.ofMantissaAndAccuracy significand .exact >>> 1 =
        ⟨significand / 2, significand % 2 != 0, false⟩ := rfl
    rw [single]
    simp [Nat.mod_one]
  | succ count inductionHypothesis =>
    have step : ExtendedMantissa.ofMantissaAndAccuracy significand .exact >>> (count + 1 + 1) =
        (ExtendedMantissa.ofMantissaAndAccuracy significand .exact >>>
          (count + 1)).shiftRightOne := rfl
    have halved : significand / 2 ^ (count + 1) / 2 = significand / 2 ^ (count + 1 + 1) := by
      rw [Nat.div_div_eq_div_mul, ← Nat.pow_succ]
    have rest : significand % 2 ^ (count + 1) =
        significand % 2 ^ count + 2 ^ count * (significand / 2 ^ count % 2) :=
      Nat.mod_pow_succ
    have unit : 0 < 2 ^ count := Nat.two_pow_pos count
    rw [step, inductionHypothesis, ExtendedMantissa.shiftRightOne]
    simp only [halved, rest]
    congr 1
    rcases Nat.mod_two_eq_zero_or_one (significand / 2 ^ count) with even | odd
    · simp [even]
    · simp [odd]

/-- Shifting and rounding to the nearest significand rounds the quotient. -/
theorem roundedMantissa_shift (significand count : Nat) :
    ((ExtendedMantissa.ofMantissaAndAccuracy significand .exact >>> count).roundedMantissa : Int) =
      roundHalfEven significand (2 ^ count) := by
  cases count with
  | zero =>
    have unshifted : (ExtendedMantissa.ofMantissaAndAccuracy significand .exact >>>
        0).roundedMantissa = significand := rfl
    have whole := roundHalfEven_mul (significand : Int) Nat.one_pos
    rw [unshifted]
    simpa using whole.symm
  | succ count =>
    have rest : significand % 2 ^ (count + 1) =
        significand % 2 ^ count + 2 ^ count * (significand / 2 ^ count % 2) :=
      Nat.mod_pow_succ
    have below : significand % 2 ^ count < 2 ^ count := Nat.mod_lt _ (Nat.two_pow_pos count)
    have doubled : 2 ^ (count + 1) = 2 * 2 ^ count := Nat.pow_succ'
    rw [shift_succ_eq, roundHalfEven, ← Int.natCast_ediv, ← Int.natCast_emod, rest, doubled]
    have bits := Nat.mod_two_eq_zero_or_one (significand / 2 ^ count)
    generalize significand / (2 * 2 ^ count) = quotient
    generalize significand / 2 ^ count % 2 = bit at bits
    generalize significand % 2 ^ count = low at below
    generalize 2 ^ count = unit at below
    -- What was shifted out is less than half of the unit, half of it, or more.
    rcases bits with rfl | rfl
    · have less : 2 * ((low + unit * 0 : Nat) : Int) < (2 * unit : Nat) := by omega
      rw [if_pos less]
      cases low <;> rfl
    · have notLess : ¬2 * ((low + unit * 1 : Nat) : Int) < (2 * unit : Nat) := by omega
      rw [if_neg notLess]
      cases low with
      | zero =>
        have half : ¬2 * ((0 + unit * 1 : Nat) : Int) > (2 * unit : Nat) := by omega
        have rounded : (⟨quotient, 1 != 0, 0 != 0⟩ : ExtendedMantissa).roundedMantissa =
            quotient + quotient % 2 := rfl
        simp only [if_neg half, rounded]
        split <;> omega
      | succ low =>
        have more : 2 * ((low + 1 + unit * 1 : Nat) : Int) > (2 * unit : Nat) := by omega
        rw [if_pos more]
        rfl

/-- The exponent to which a result is rounded: that of a significand of full length, unless it is
too low for a double. -/
def roundingExponent (significand : Nat) (exponent : Int) : Int :=
  max (significand.log2 + exponent - 52) (-1074)

def roundedSignificand (significand : Nat) (exponent : Int) : Int :=
  scaledRound significand 1 (exponent - roundingExponent significand exponent)

/-- The bits of a rounded result, as if there were no greatest exponent. -/
def roundedBits (significand : Nat) (exponent : Int) : Int :=
  (roundingExponent significand exponent + 1074) * 2 ^ 52 + roundedSignificand significand exponent

section Rounded

variable {significand : Nat} {exponent : Int}

theorem roundedSignificand_le : roundedSignificand significand exponent ≤ 2 ^ 53 := by
  have large := Nat.lt_log2_self (n := significand)
  have high : significand.log2 + exponent - 52 ≤ roundingExponent significand exponent := by
    unfold roundingExponent
    omega
  refine scaledRound_le_pow Nat.one_pos ?_
  generalize roundingExponent significand exponent = rounding at high ⊢
  generalize significand.log2 = length at large high
  generalize up : (exponent - rounding).toNat = rise
  generalize down : (-(exponent - rounding)).toNat = fall
  calc significand * 2 ^ rise
      ≤ 2 ^ (length + 1) * 2 ^ rise := Nat.mul_le_mul_right _ (Nat.le_of_lt large)
    _ = 2 ^ (length + 1 + rise) := (Nat.pow_add ..).symm
    _ ≤ 2 ^ (53 + fall) := Nat.pow_le_pow_right (by decide) (by omega)
    _ = 2 ^ 53 * (1 * 2 ^ fall) := by rw [Nat.pow_add, Nat.one_mul]

theorem le_roundedSignificand (positive : 0 < significand)
    (normal : -1074 < roundingExponent significand exponent) :
    2 ^ 52 ≤ roundedSignificand significand exponent := by
  have small := Nat.log2_self_le (Nat.ne_of_gt positive)
  have same : roundingExponent significand exponent = significand.log2 + exponent - 52 := by
    unfold roundingExponent at normal ⊢
    omega
  refine pow_le_scaledRound Nat.one_pos ?_
  generalize roundingExponent significand exponent = rounding at same ⊢
  generalize significand.log2 = length at small same
  generalize up : (exponent - rounding).toNat = rise
  generalize down : (-(exponent - rounding)).toNat = fall
  calc 2 ^ 52 * (1 * 2 ^ fall)
      = 2 ^ (52 + fall) := by rw [Nat.pow_add, Nat.one_mul]
    _ = 2 ^ (length + rise) := by
        congr 1
        omega
    _ = 2 ^ length * 2 ^ rise := Nat.pow_add ..
    _ ≤ significand * 2 ^ rise := Nat.mul_le_mul_right _ small

theorem targetExponent_eq (significand : Nat) (exponent : Int) :
    Format.binary64.targetExponent (totalExponent significand exponent) =
      roundingExponent significand exponent := by
  have length : (Format.binary64.mantissaBits : Int) = 53 := rfl
  have least : Format.binary64.minExponent = -1074 := rfl
  simp only [Format.targetExponent, totalExponent, roundingExponent, length, least]
  omega

/-- A result of full length or with a low exponent is shifted to the exponent to which it is
rounded. -/
theorem shiftToTargetExponent_eq (long : exponent ≤ roundingExponent significand exponent) :
    ((shiftToTargetExponent Format.binary64 significand exponent .exact).1.roundedMantissa : Int) =
        roundedSignificand significand exponent ∧
      (shiftToTargetExponent Format.binary64 significand exponent .exact).2 =
        roundingExponent significand exponent := by
  simp only [shiftToTargetExponent, shiftToExponent, targetExponent_eq, roundedMantissa_shift]
  constructor
  · rw [roundedSignificand, scaledRound_eq]
    congr 1
    · rw [show (exponent - roundingExponent significand exponent).toNat = 0 by omega]
      omega
    · rw [Nat.one_mul]
      congr 1
      omega
  · omega

/-- A significand of a double stays as it is. -/
theorem shiftToTargetExponent_of_short (short : significand < 2 ^ 53) (least : -1074 ≤ exponent) :
    shiftToTargetExponent Format.binary64 significand exponent .exact =
      (⟨significand, false, false⟩, exponent) := by
  have length : significand.log2 ≤ 52 := by
    by_cases zero : significand = 0
    · simp [zero]
    · have bounded := (Nat.log2_lt zero).mpr short
      omega
  have stays : roundingExponent significand exponent ≤ exponent := by
    unfold roundingExponent
    omega
  have unshifted : (roundingExponent significand exponent - exponent).toNat = 0 := by omega
  simp only [shiftToTargetExponent, shiftToExponent, targetExponent_eq, unshifted]
  exact Prod.ext rfl (Int.add_zero exponent)

theorem shiftToTargetExponent_of_carry (least : -1074 ≤ exponent) :
    shiftToTargetExponent Format.binary64 (2 ^ 53) exponent .exact =
      (⟨2 ^ 52, false, false⟩, exponent + 1) := by
  have next : roundingExponent (2 ^ 53) exponent = exponent + 1 := by
    unfold roundingExponent
    rw [Nat.log2_two_pow]
    omega
  have once : (exponent + 1 - exponent).toNat = 1 := by omega
  simp only [shiftToTargetExponent, shiftToExponent, targetExponent_eq, next, once]
  rfl

/-- A finite significand is put together to its bits, or to infinity if it is too large. -/
theorem shape_pack_finite (negative : Bool) (positive : 0 < significand)
    (short : significand < 2 ^ 53) (full : exponent = -1074 ∨ 2 ^ 52 ≤ significand)
    (least : -1074 ≤ exponent) :
    Shape negative (min infinityBits ((exponent + 1074) * 2 ^ 52 + significand).toNat)
      (Float.Model.pack (.finite (signOf negative) significand exponent positive)).unpack := by
  by_cases within : ((exponent + 1074) * 2 ^ 52 + significand).toNat < infinityBits
  · rw [Nat.min_eq_right (Nat.le_of_lt within)]
    refine (Shape.finite positive short full least ?_ within).unpack_pack (Nat.le_of_lt within)
    omega
  · rw [Nat.min_eq_left (Nat.not_lt.mp within)]
    have bias : (Format.binary64.exponentBias : Int) = 1023 := rfl
    have overflows : UnpackedFloat.pack Format.binary64
        (.finite (signOf negative) significand exponent positive) =
        UnpackedFloat.pack Format.binary64 (.infinity (signOf negative)) := by
      unfold infinityBits at within
      unfold UnpackedFloat.pack
      dsimp only
      rw [if_pos (by omega)]
    have packed : Float.Model.pack (.finite (signOf negative) significand exponent positive) =
        Float.Model.pack (.infinity (signOf negative)) := by
      unfold Float.Model.pack
      rw [Float.Model.mk.injEq, overflows]
    rw [packed]
    exact Shape.infinite.unpack_pack (Nat.le_refl _)

/-- Rounding may carry the significand into one more bit; then the exponent is one higher. -/
theorem roundWithAccuracy_eq (sign : Sign) {rounded : Nat} {rounding : Int}
    (least : -1074 ≤ rounding) (upper : rounded ≤ 2 ^ 53)
    (first : (shiftToTargetExponent Format.binary64 significand exponent .exact).1.roundedMantissa =
      rounded)
    (shifted : (shiftToTargetExponent Format.binary64 significand exponent .exact).2 = rounding) :
    roundWithAccuracy Format.binary64 sign significand exponent .exact =
      if zero : rounded = 0 then .zero sign
      else if rounded < 2 ^ 53 then .finite sign rounded rounding (Nat.pos_of_ne_zero zero)
      else .finite sign (2 ^ 52) (rounding + 1) (by decide) := by
  unfold roundWithAccuracy
  dsimp only
  rw [first, shifted]
  by_cases short : rounded < 2 ^ 53
  · rw [shiftToTargetExponent_of_short short least]
    dsimp only
    by_cases zero : rounded = 0
    · rw [dif_pos zero, dif_pos zero]
    · rw [dif_neg zero, dif_neg zero, if_pos short]
  · obtain rfl : rounded = 2 ^ 53 := by omega
    rw [shiftToTargetExponent_of_carry least]
    rfl

/-- The bits of a rounded result. -/
theorem shape_roundWithAccuracy (negative : Bool) (positive : 0 < significand)
    (long : exponent ≤ roundingExponent significand exponent) :
    Shape negative (min infinityBits (roundedBits significand exponent).toNat)
      (Float.Model.pack (roundWithAccuracy Format.binary64 (signOf negative) significand exponent
        .exact)).unpack := by
  obtain ⟨first, shifted⟩ := shiftToTargetExponent_eq long
  have least : -1074 ≤ roundingExponent significand exponent := by
    unfold roundingExponent
    omega
  have upper : roundedSignificand significand exponent ≤ 2 ^ 53 := roundedSignificand_le
  have lower := @le_roundedSignificand significand exponent positive
  unfold roundedBits
  rw [← first] at upper lower ⊢
  rw [roundWithAccuracy_eq (signOf negative) least (by omega) rfl shifted]
  generalize (shiftToTargetExponent Format.binary64 significand exponent
    .exact).1.roundedMantissa = rounded at upper lower ⊢
  generalize roundingExponent significand exponent = rounding at least lower ⊢
  by_cases zero : rounded = 0
  · have none : ((rounding + 1074) * 2 ^ 52 + (rounded : Int)).toNat = 0 := by omega
    rw [dif_pos zero, none, Nat.min_eq_right (Nat.zero_le _)]
    exact Shape.zero.unpack_pack (Nat.zero_le _)
  · rw [dif_neg zero]
    by_cases short : rounded < 2 ^ 53
    · rw [if_pos short]
      exact shape_pack_finite negative _ short (by omega) least
    · have carried : (rounding + 1074) * 2 ^ 52 + (rounded : Int) =
          (rounding + 1 + 1074) * 2 ^ 52 + (2 ^ 52 : Nat) := by omega
      rw [if_neg short, carried]
      exact shape_pack_finite negative _ (by decide) (.inr (Nat.le_refl _)) (by omega)

end Rounded

end Checkup.Number
