import Checkup.Proofs.Number.Order
import Checkup.Time.Duration

/-!
# Comparing doubles

Main statements: what a number is not less than is at most that number; a number of seconds of the
clock plus those of a duration is a number.
-/

namespace Checkup.Number

open Float.Model Float.Model.UnpackedFloat

theorem float_lt_iff {x y : Float} {negative otherNegative : Bool} {bits otherBits : Nat}
    (shaped : Shape negative bits x.toModel.unpack)
    (otherShaped : Shape otherNegative otherBits y.toModel.unpack) :
    x < y ↔
      bits ≤ infinityBits ∧ otherBits ≤ infinityBits ∧
        rank negative bits < rank otherNegative otherBits := by
  rw [← shaped.lt_iff otherShaped]
  show decide (x.toModel < y.toModel) = true ↔ _
  rw [decide_eq_true_iff]
  rfl

theorem Shape.isNaN_iff {negative : Bool} {bits : Nat} {unpacked : UnpackedFloat}
    (shaped : Shape negative bits unpacked) : unpacked.isNaN = false ↔ bits ≤ infinityBits := by
  cases shaped with
  | nan beyond =>
    refine ⟨fun number => ?_, fun within => ?_⟩
    · cases number
    · omega
  | infinite => exact ⟨fun _ => Nat.le_refl infinityBits, fun _ => rfl⟩
  | zero => exact ⟨fun _ => Nat.zero_le infinityBits, fun _ => rfl⟩
  | finite positive short full least counted within =>
    exact ⟨fun _ => Nat.le_of_lt within, fun _ => rfl⟩

theorem float_isNaN_iff {x : Float} {negative : Bool} {bits : Nat}
    (shaped : Shape negative bits x.toModel.unpack) : x.isNaN = false ↔ bits ≤ infinityBits :=
  shaped.isNaN_iff

theorem float_le_of_lt {x y : Float} (lt : x < y) : x ≤ y := by
  obtain ⟨xNumber, yNumber, lower⟩ := (float_lt_iff (shape x) (shape y)).mp lt
  exact (float_le_iff (shape x) (shape y)).mpr ⟨xNumber, yNumber, Int.le_of_lt lower⟩

theorem float_le_of_not_lt {x y : Float} (xNumber : x.isNaN = false) (yNumber : y.isNaN = false)
    (notLess : ¬x < y) : y ≤ x := by
  rw [float_isNaN_iff (shape x)] at xNumber
  rw [float_isNaN_iff (shape y)] at yNumber
  refine (float_le_iff (shape y) (shape x)).mpr ⟨yNumber, xNumber, ?_⟩
  refine Int.not_lt.mp fun lower => ?_
  exact notLess ((float_lt_iff (shape x) (shape y)).mpr ⟨xNumber, yNumber, lower⟩)

theorem isNaN_of_le {x y : Float} (le : x ≤ y) : x.isNaN = false ∧ y.isNaN = false := by
  obtain ⟨xNumber, yNumber, _⟩ := (float_le_iff (shape x) (shape y)).mp le
  exact ⟨(float_isNaN_iff (shape x)).mpr xNumber, (float_isNaN_iff (shape y)).mpr yNumber⟩

/-- A number stays one when it is put together, also if it is too large for a finite double. -/
theorem isNaN_unpack_pack {unpacked : UnpackedFloat} (number : unpacked.isNaN = false) :
    (Float.Model.pack unpacked).unpack.isNaN = false := by
  -- The bits of a number are those of a sign, an exponent that is not the greatest, and a mantissa.
  have small : ∀ (negative : Bool) (exponent : BitVec 11) (mantissa : BitVec 52),
      exponent.toNat < 2047 ∨ mantissa.toNat = 0 →
        (packComponents Format.binary64 (signOf negative) exponent mantissa).toNat % 2 ^ 63 ≤
          infinityBits := by
    intro negative exponent mantissa within
    have exponentShort := exponent.isLt
    have mantissaShort := mantissa.isLt
    rw [toNat_packComponents]
    unfold infinityBits
    cases negative
    · simp only [Bool.toNat_false]
      omega
    · simp only [Bool.toNat_true]
      omega
  have signs : ∀ sign : Sign, ∃ negative, sign = signOf negative := by
    intro sign
    cases sign with
    | positive => exact ⟨false, rfl⟩
    | negative => exact ⟨true, rfl⟩
  have packed := shape_unpack (UnpackedFloat.pack Format.binary64 unpacked)
  refine packed.isNaN_iff.mpr ?_
  cases unpacked with
  | notANumber => cases number
  | infinity sign =>
    obtain ⟨negative, rfl⟩ := signs sign
    exact small negative _ _ (.inr rfl)
  | zero sign =>
    obtain ⟨negative, rfl⟩ := signs sign
    exact small negative _ _ (.inr rfl)
  | finite sign significand exponent positive =>
    obtain ⟨negative, rfl⟩ := signs sign
    have width : Format.binary64.exponentBits = 11 := rfl
    unfold UnpackedFloat.pack
    dsimp only
    split
    · exact small negative _ _ (.inr rfl)
    · rename_i exponentSmall
      split
      · refine small negative _ _ (.inl ?_)
        rw [BitVec.toNat_ofNat]
        omega
      · exact small negative _ _ (.inl (by decide))

theorem isNaN_roundWithAccuracy (sign : Sign) (significand : Nat) (exponent : Int)
    (accuracy : Accuracy) :
    (roundWithAccuracy Format.binary64 sign significand exponent accuracy).isNaN = false := by
  unfold roundWithAccuracy
  exact dite_rec (P := fun unpacked => unpacked.isNaN = false) (fun _ => rfl) (fun _ => rfl)

theorem isNaN_normalize (significand exponent : Int) (sign : Sign) :
    (UnpackedFloat.normalize Format.binary64 significand exponent sign).isNaN = false := by
  unfold UnpackedFloat.normalize
  split
  · exact isNaN_roundWithAccuracy _ _ _ _
  · rfl
  · exact isNaN_roundWithAccuracy _ _ _ _

/-- The sum of a number and a finite one is a number. -/
theorem isNaN_add {x y : Float} {negative : Bool} {bits : Nat} (number : x.isNaN = false)
    (shaped : Shape negative bits y.toModel.unpack) (finite : bits < infinityBits) :
    (x + y).isNaN = false := by
  have summed : (UnpackedFloat.add Format.binary64 x.toModel.unpack y.toModel.unpack).isNaN =
      false := by
    have numberToo : x.toModel.unpack.isNaN = false := number
    generalize x.toModel.unpack = first at numberToo
    generalize y.toModel.unpack = other at shaped
    cases shaped with
    | nan beyond => omega
    | infinite => omega
    | zero =>
      cases first with
      | notANumber => cases numberToo
      | infinity sign => rfl
      | zero sign =>
        unfold UnpackedFloat.add
        dsimp only
        split <;> rfl
      | finite sign => rfl
    | finite positive =>
      cases first with
      | notANumber => cases numberToo
      | infinity sign => rfl
      | zero sign => rfl
      | finite sign => exact isNaN_normalize _ _ _
  exact isNaN_unpack_pack summed

theorem isNaN_secondsOfMicros (micros : Int) : (secondsOfMicros micros).isNaN = false := by
  have bounded := secondBits_le micros.natAbs
  exact (float_isNaN_iff (shape_withSign _ (shape_ofBits bounded) bounded)).mpr bounded

/-- The double nearest to a quotient is finite if there is one. -/
theorem shape_nearest {num : Int} {den : Nat} {x : Float} (near : nearest? num den = some x) :
    ∃ negative bits, Shape negative bits x.toModel.unpack ∧ bits < infinityBits := by
  unfold nearest? at near
  split at near
  · cases near
    exact ⟨_, _, shape 0, by decide +kernel⟩
  · dsimp only at near
    split at near
    · cases near
    · rename_i within
      cases near
      have less : nearestBits num.natAbs den < infinityBits := Nat.not_le.mp within
      exact ⟨_, _, shape_withSign _ (shape_ofBits (Nat.le_of_lt less)) (Nat.le_of_lt less), less⟩

theorem shape_seconds (duration : Duration) :
    ∃ negative bits, Shape negative bits duration.seconds.toModel.unpack ∧ bits < infinityBits := by
  unfold Duration.seconds
  cases near : nearest? duration.micros 1000000 with
  | none => exact ⟨_, _, shape 0, by decide +kernel⟩
  | some x => exact shape_nearest near

/-- A positive number of microseconds is a positive number of seconds, if it has a double. -/
theorem seconds_pos {micros : Int} {x : Float} (positive : 0 < micros)
    (near : nearest? micros 1000000 = some x) : 0 < x := by
  have least : nearestBits 1 1000000 ≤ nearestBits micros.natAbs 1000000 :=
    nearestBits_mono (by decide) (by decide) (by decide) (by omega)
  have some : 0 < nearestBits 1 1000000 := by decide +kernel
  unfold nearest? at near
  rw [if_neg (by simp; omega)] at near
  dsimp only at near
  split at near
  · cases near
  · rename_i within
    cases near
    have bounded : nearestBits micros.natAbs 1000000 ≤ infinityBits :=
      Nat.le_of_not_le within
    rw [decide_eq_false (Int.not_lt.mpr (Int.le_of_lt positive))]
    have none : Shape false 0 (0 : Float).toModel.unpack := .zero
    refine (float_lt_iff none (shape_withSign false (shape_ofBits bounded) bounded)).mpr
      ⟨Nat.zero_le _, bounded, ?_⟩
    simp only [rank, Bool.false_eq_true, if_false]
    omega

end Checkup.Number
