import Checkup.Proofs.Number.Comparison
import Checkup.Session.Time

/-!
# Doubles in a moderate range

The product of two doubles of moderate size is finite. Main statement: the seconds of a duration, and
every smaller number of seconds that is not negative, can be counted in microseconds.
-/

namespace Checkup

namespace Number

open Float.Model Float.Model.UnpackedFloat

theorem mantissa_shift_le (extended : ExtendedMantissa) (count : Nat) :
    (extended >>> count).mantissa ≤ extended.mantissa := by
  induction count with
  | zero => exact Nat.le_refl _
  | succ count inductionHypothesis =>
    have halved : (extended >>> (count + 1)).mantissa = (extended >>> count).mantissa / 2 := rfl
    rw [halved]
    exact Nat.le_trans (Nat.div_le_self _ 2) inductionHypothesis

theorem roundedMantissa_le (extended : ExtendedMantissa) :
    extended.roundedMantissa ≤ extended.mantissa + 1 := by
  obtain ⟨mantissa, roundBit, stickyBit⟩ := extended
  cases roundBit <;> cases stickyBit <;>
    simp [ExtendedMantissa.roundedMantissa, ExtendedMantissa.accuracy,
      Accuracy.roundToNearestEven]
  omega

/-- Shifting to the exponent of a double makes the significand no longer, and the exponent no higher
than the length of the significand asks for. -/
theorem shiftToTargetExponent_le {significand length : Nat} (short : significand < 2 ^ length)
    (exponent : Int) (accuracy : Accuracy) :
    (shiftToTargetExponent Format.binary64 significand exponent accuracy).1.mantissa ≤
        significand ∧
      (shiftToTargetExponent Format.binary64 significand exponent accuracy).2 ≤
        max exponent (max (length + 1 + exponent - 53) (-1074)) := by
  have started : (ExtendedMantissa.ofMantissaAndAccuracy significand accuracy).mantissa =
      significand := by
    rcases accuracy with _ | (_ | _ | _) <;> rfl
  have logged : significand.log2 ≤ length := by
    by_cases zero : significand = 0
    · simp [zero]
    · exact Nat.le_of_lt ((Nat.log2_lt zero).mpr short)
  constructor
  · have shifted := mantissa_shift_le
      (ExtendedMantissa.ofMantissaAndAccuracy significand accuracy)
      (Format.binary64.targetExponent (totalExponent significand exponent) - exponent).toNat
    rw [started] at shifted
    exact shifted
  · have length : (Format.binary64.mantissaBits : Int) = 53 := rfl
    have least : Format.binary64.minExponent = -1074 := rfl
    simp only [shiftToTargetExponent, shiftToExponent, Format.targetExponent, totalExponent,
      length, least]
    omega

/-- What is put together to a finite double, unless its significand is too long. -/
def Moderate : UnpackedFloat → Prop
  | .notANumber | .infinity _ => False
  | .zero _ => True
  | .finite _ _ exponent _ => exponent ≤ 900

theorem moderate_roundWithAccuracy (sign : Sign) {significand : Nat} {exponent : Int}
    (short : significand < 2 ^ 106) (moderate : exponent ≤ 300) :
    Moderate (roundWithAccuracy Format.binary64 sign significand exponent .exact) := by
  obtain ⟨first, firstLow⟩ := shiftToTargetExponent_le short exponent .exact
  -- Rounding may carry into one more bit; the second shift brings that back.
  have rounded := roundedMantissa_le
    (shiftToTargetExponent Format.binary64 significand exponent .exact).1
  have stillShort : (shiftToTargetExponent Format.binary64 significand exponent
      .exact).1.roundedMantissa < 2 ^ 107 := by
    omega
  obtain ⟨_, secondLow⟩ := shiftToTargetExponent_le stillShort
    (shiftToTargetExponent Format.binary64 significand exponent .exact).2 .exact
  have low : (shiftToTargetExponent Format.binary64
      (shiftToTargetExponent Format.binary64 significand exponent .exact).1.roundedMantissa
      (shiftToTargetExponent Format.binary64 significand exponent .exact).2 .exact).2 ≤ 900 := by
    omega
  unfold roundWithAccuracy
  exact dite_rec (P := Moderate) (fun _ => trivial) (fun _ => low)

theorem toNat_packComponents_lt (sign : Sign) {exponent : BitVec 11} (mantissa : BitVec 52)
    (within : exponent.toNat < 2047) :
    (packComponents Format.binary64 sign exponent mantissa).toNat % 2 ^ 63 < infinityBits := by
  have mantissaShort := mantissa.isLt
  unfold infinityBits
  cases sign with
  | positive =>
    have components := toNat_packComponents false exponent mantissa
    rw [show signOf false = .positive from rfl] at components
    rw [components, Bool.toNat_false]
    omega
  | negative =>
    have components := toNat_packComponents true exponent mantissa
    rw [show signOf true = .negative from rfl] at components
    rw [components, Bool.toNat_true]
    omega

theorem Moderate.toNat_pack_lt {unpacked : UnpackedFloat} (moderate : Moderate unpacked) :
    (UnpackedFloat.pack Format.binary64 unpacked).toNat % 2 ^ 63 < infinityBits := by
  cases unpacked with
  | notANumber => exact moderate.elim
  | infinity sign => exact moderate.elim
  | zero sign => exact toNat_packComponents_lt sign _ (by decide)
  | finite sign significand exponent positive =>
    have low : exponent ≤ 900 := moderate
    have bias : (Format.binary64.exponentBias : Int) = 1023 := rfl
    unfold UnpackedFloat.pack
    dsimp only
    rw [if_neg (by omega)]
    split
    · refine toNat_packComponents_lt sign _ ?_
      rw [BitVec.toNat_ofNat]
      omega
    · exact toNat_packComponents_lt sign _ (by decide)

/-- The bits of two to the 177th. The product of two smaller doubles is finite. -/
def moderateBits : Nat := 1200 * 2 ^ 52

theorem Shape.moderate_mul {negative otherNegative : Bool} {bits otherBits : Nat}
    {unpacked other : UnpackedFloat} (shaped : Shape negative bits unpacked)
    (otherShaped : Shape otherNegative otherBits other) (low : bits < moderateBits)
    (otherLow : otherBits < moderateBits) :
    Moderate (UnpackedFloat.mul Format.binary64 unpacked other) := by
  have within : moderateBits < infinityBits := by decide
  cases shaped with
  | nan beyond => omega
  | infinite => omega
  | zero =>
    cases otherShaped with
    | nan beyond => omega
    | infinite => omega
    | zero | finite => trivial
  | @finite _ significand exponent positive short full least counted =>
    cases otherShaped with
    | nan beyond => omega
    | infinite => omega
    | zero => trivial
    | @finite _ otherSignificand otherExponent otherPositive otherShort otherFull otherLeast
        otherCounted =>
      unfold moderateBits at low otherLow
      have product : significand * otherSignificand < 2 ^ 53 * 2 ^ 53 :=
        Nat.mul_lt_mul'' short otherShort
      exact moderate_roundWithAccuracy _ (by omega) (by omega)

theorem exists_nearestInt {x : Float} (finite : x.toBits.toNat % 2 ^ 63 < infinityBits) :
    ∃ whole, nearestInt x = .ok whole := by
  unfold infinityBits at finite
  unfold nearestInt parts
  dsimp only
  rw [if_neg (by omega)]
  split
  · rename_i found
    split at found <;> cases found
  · rename_i found
    split at found <;> cases found
  · exact ⟨_, rfl⟩

theorem exists_nearestInt_mul {x factor : Float} {negative factorNegative : Bool}
    {bits factorBits : Nat} (shaped : Shape negative bits x.toModel.unpack)
    (factorShaped : Shape factorNegative factorBits factor.toModel.unpack)
    (low : bits < moderateBits) (factorLow : factorBits < moderateBits) :
    ∃ whole, nearestInt (x * factor) = .ok whole :=
  exists_nearestInt (x := x * factor)
    (shaped.moderate_mul factorShaped low factorLow).toNat_pack_lt

theorem float_le_refl {x : Float} (number : x.isNaN = false) : x ≤ x := by
  rw [float_isNaN_iff (shape x)] at number
  exact (float_le_iff (shape x) (shape x)).mpr ⟨number, number, Int.le_refl _⟩

/-- The seconds of a smaller number of microseconds have no larger bits. -/
theorem shape_seconds_le {duration : Duration} {most : Nat} (le : duration.micros.natAbs ≤ most)
    (finite : nearestBits most 1000000 < infinityBits) :
    ∃ negative bits, Shape negative bits duration.seconds.toModel.unpack ∧
      bits ≤ nearestBits most 1000000 := by
  unfold Duration.seconds nearest?
  by_cases zero : duration.micros = 0
  · simp only [zero, decide_true, Bool.true_or, if_true, Option.getD_some]
    exact ⟨false, 0, .zero, Nat.zero_le _⟩
  · have smaller : nearestBits duration.micros.natAbs 1000000 ≤ nearestBits most 1000000 :=
      nearestBits_mono (Int.natAbs_pos.mpr zero) (by decide) (by decide) le
    have bounded : nearestBits duration.micros.natAbs 1000000 ≤ infinityBits := by omega
    rw [if_neg (by simp [zero])]
    dsimp only
    rw [if_neg (by omega), Option.getD_some]
    exact ⟨_, _, shape_withSign _ (shape_ofBits bounded) bounded, smaller⟩

end Number

namespace Duration

/-- The days of a duration are within the limit. -/
def Bounded (duration : Duration) : Prop :=
  -dayLimit ≤ duration.micros / dayMicros ∧ duration.micros / dayMicros ≤ dayLimit

theorem bounded_of_ofMicros {micros : Int} {duration : Duration}
    (made : ofMicros micros = .ok duration) : duration.Bounded := by
  unfold ofMicros at made
  dsimp only at made
  split at made
  · cases made
  · split at made
    · cases made
    · cases made
      unfold Bounded
      dsimp only
      omega

theorem bounded_of_ofSeconds {seconds : Amount} {duration : Duration}
    (made : ofSeconds seconds = .ok duration) : duration.Bounded := by
  have counted : ofSeconds seconds =
      (({} : Tally).add 1000000 seconds).bind fun tally => ofMicros tally.total := by
    rcases added : ({} : Tally).add 1000000 seconds with problem | tally <;>
      simp [ofSeconds, sum, added, bind, Except.bind, pure, Except.pure]
  rw [counted] at made
  rcases added : ({} : Tally).add 1000000 seconds with problem | tally
  · rw [added] at made
    cases made
  · rw [added] at made
    exact bounded_of_ofMicros made

/-- A number of seconds that is positive and not above those of a duration can be counted in
microseconds. -/
theorem Bounded.exists_micros {duration : Duration} {seconds : Float} (bounded : duration.Bounded)
    (positive : 0 < seconds) (le : seconds ≤ duration.seconds) :
    ∃ micros, microsOfSeconds seconds = .ok micros := by
  have within : duration.micros.natAbs ≤ 86400000000000000000 := by
    unfold Bounded dayLimit dayMicros at bounded
    omega
  obtain ⟨negative, bits, shaped, low⟩ := Number.shape_seconds_le within (by decide +kernel)
  have moderate : Number.nearestBits 86400000000000000000 1000000 < Number.moderateBits := by
    decide +kernel
  have million : Number.Shape false 4696837146684686336 (1000000 : Float).toModel.unpack := by
    have shaped := Number.shape (1000000 : Float)
    have negative : decide (2 ^ 63 ≤ (1000000 : Float).toBits.toNat) = false := by decide +kernel
    have bits : (1000000 : Float).toBits.toNat % 2 ^ 63 = 4696837146684686336 := by decide +kernel
    rwa [negative, bits] at shaped
  have none : Number.Shape false 0 (0 : Float).toModel.unpack := .zero
  have secondsShaped := Number.shape seconds
  obtain ⟨_, _, above⟩ := (Number.float_lt_iff none secondsShaped).mp positive
  obtain ⟨_, _, below⟩ := (Number.float_le_iff secondsShaped shaped).mp le
  have secondsLow : seconds.toBits.toNat % 2 ^ 63 < Number.moderateBits := by
    unfold Number.rank at above below
    split at above <;> split at below <;> simp_all <;> omega
  obtain ⟨micros, rounded⟩ :=
    Number.exists_nearestInt_mul secondsShaped million secondsLow (by decide)
  refine ⟨micros, ?_⟩
  rw [microsOfSeconds, rounded]
  rfl

end Duration

end Checkup
