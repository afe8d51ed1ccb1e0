import Checkup.Proofs.Number.Packing

/-!
# Arithmetic keeps the order

Main statements: multiplying by a positive double keeps the order of positive ones, so that fewer
seconds are no more microseconds; and what is left of a double after a smaller one is positive.
-/

namespace Checkup

namespace Number

open Float.Model Float.Model.UnpackedFloat

theorem roundHalfEven_mul_mul (num : Int) (den : Nat) {factor : Nat} (positive : 0 < factor) :
    roundHalfEven (num * factor) (den * factor) = roundHalfEven num den := by
  have factorPositive : (0 : Int) < factor := by omega
  have quotient : num * (factor : Int) / (den * factor : Nat) = num / den := by
    rw [Int.natCast_mul, Int.mul_ediv_mul_of_pos_left _ _ factorPositive]
  have rest : num * (factor : Int) % (den * factor : Nat) = num % den * factor := by
    rw [Int.natCast_mul, Int.mul_comm num, Int.mul_comm (den : Int),
      Int.mul_emod_mul_of_pos _ _ factorPositive, Int.mul_comm]
  have less : 2 * (num % den * (factor : Int)) < (den * factor : Nat) ↔ 2 * (num % den) < den := by
    rw [Int.natCast_mul, ← Int.mul_assoc]
    exact Int.mul_lt_mul_right factorPositive
  have more : 2 * (num % den * (factor : Int)) > (den * factor : Nat) ↔ 2 * (num % den) > den := by
    rw [Int.natCast_mul, ← Int.mul_assoc]
    exact Int.mul_lt_mul_right factorPositive
  unfold roundHalfEven
  simp only [quotient, rest, less, more]

theorem roundHalfEven_le_of_mul_le {num more : Int} {den wide : Nat} (positive : 0 < den)
    (widePositive : 0 < wide) (le : num * wide ≤ more * den) :
    roundHalfEven num den ≤ roundHalfEven more wide := by
  rw [← roundHalfEven_mul_mul num den widePositive, ← roundHalfEven_mul_mul more wide positive,
    Nat.mul_comm wide den]
  exact roundHalfEven_mono (Nat.mul_pos positive widePositive) le

/-- A significand at an exponent is at most another one at its exponent. -/
def AtMost (significand : Nat) (exponent : Int) (other : Nat) (otherExponent : Int) : Prop :=
  significand * 2 ^ (exponent - otherExponent).toNat ≤ other * 2 ^ (otherExponent - exponent).toNat

section AtMost

variable {significand other : Nat} {exponent otherExponent : Int}

theorem AtMost.mul (le : AtMost significand exponent other otherExponent) (factor : Nat)
    (factorExponent : Int) :
    AtMost (significand * factor) (exponent + factorExponent) (other * factor)
      (otherExponent + factorExponent) := by
  have up : exponent + factorExponent - (otherExponent + factorExponent) =
      exponent - otherExponent := by omega
  have down : otherExponent + factorExponent - (exponent + factorExponent) =
      otherExponent - exponent := by omega
  unfold AtMost at le ⊢
  rw [up, down, Nat.mul_right_comm, Nat.mul_right_comm other]
  exact Nat.mul_le_mul_right factor le

theorem AtMost.mul_pow_le (le : AtMost significand exponent other otherExponent) {rise fall : Nat}
    (shift : (rise : Int) - fall = exponent - otherExponent) :
    significand * 2 ^ rise ≤ other * 2 ^ fall := by
  obtain ⟨common, risen⟩ := Nat.le.dest (show (exponent - otherExponent).toNat ≤ rise by omega)
  have fallen : (otherExponent - exponent).toNat + common = fall := by omega
  rw [← risen, ← fallen, Nat.pow_add, Nat.pow_add, ← Nat.mul_assoc, ← Nat.mul_assoc]
  exact Nat.mul_le_mul_right _ le

/-- A result that is not larger is rounded to no larger a number of units. -/
theorem AtMost.scaledRound_le (le : AtMost significand exponent other otherExponent)
    (unit : Int) :
    scaledRound significand 1 (exponent - unit) ≤ scaledRound other 1 (otherExponent - unit) := by
  rw [scaledRound_eq, scaledRound_eq]
  refine roundHalfEven_le_of_mul_le (Nat.mul_pos Nat.one_pos (Nat.two_pow_pos _))
    (Nat.mul_pos Nat.one_pos (Nat.two_pow_pos _)) ?_
  have scaled : significand *
        2 ^ ((exponent - unit).toNat + (-(otherExponent - unit)).toNat) ≤
      other * 2 ^ ((otherExponent - unit).toNat + (-(exponent - unit)).toNat) :=
    le.mul_pow_le (by omega)
  rw [Nat.pow_add, Nat.pow_add, ← Nat.mul_assoc, ← Nat.mul_assoc] at scaled
  rw [Nat.one_mul, Nat.one_mul]
  exact_mod_cast scaled

theorem AtMost.length_le (le : AtMost significand exponent other otherExponent)
    (positive : 0 < significand) :
    significand.log2 + exponent ≤ other.log2 + otherExponent := by
  have small := Nat.log2_self_le (Nat.ne_of_gt positive)
  have large := Nat.lt_log2_self (n := other)
  have lengths : 2 ^ (significand.log2 + (exponent - otherExponent).toNat) <
      2 ^ (other.log2 + 1 + (otherExponent - exponent).toNat) := by
    rw [Nat.pow_add, Nat.pow_add]
    calc 2 ^ significand.log2 * 2 ^ (exponent - otherExponent).toNat
        ≤ significand * 2 ^ (exponent - otherExponent).toNat := Nat.mul_le_mul_right _ small
      _ ≤ other * 2 ^ (otherExponent - exponent).toNat := le
      _ < 2 ^ (other.log2 + 1) * 2 ^ (otherExponent - exponent).toNat :=
        Nat.mul_lt_mul_of_pos_right large (Nat.two_pow_pos _)
  have exponents := (Nat.pow_lt_pow_iff_right (by decide)).mp lengths
  omega

/-- A result that is not larger has no larger bits. -/
theorem AtMost.roundedBits_le (le : AtMost significand exponent other otherExponent)
    (positive : 0 < significand) (otherPositive : 0 < other) :
    roundedBits significand exponent ≤ roundedBits other otherExponent := by
  have lengths := le.length_le positive
  have upper : roundedSignificand significand exponent ≤ 2 ^ 53 := roundedSignificand_le
  have lower := @le_roundedSignificand other otherExponent otherPositive
  have rounded := le.scaledRound_le (roundingExponent significand exponent)
  unfold roundedBits
  by_cases same : roundingExponent significand exponent = roundingExponent other otherExponent
  · have significands : roundedSignificand significand exponent ≤
        roundedSignificand other otherExponent := by
      rw [roundedSignificand, roundedSignificand, ← same]
      exact rounded
    omega
  · -- A significand that was rounded up counts as far as the next exponent starts.
    have less : roundingExponent significand exponent < roundingExponent other otherExponent := by
      unfold roundingExponent at same ⊢
      omega
    have full := lower (by unfold roundingExponent at less ⊢; omega)
    omega

end AtMost

section Finite

variable {negative otherNegative : Bool} {bits otherBits significand other : Nat}
  {exponent otherExponent : Int} {sign otherSign : Sign} {positive : 0 < significand}
  {otherPositive : 0 < other}
  (shaped : Shape negative bits (.finite sign significand exponent positive))
  (otherShaped :
    Shape otherNegative otherBits (.finite otherSign other otherExponent otherPositive))

include shaped otherShaped

/-- Of two finite doubles the one with smaller bits has, at the same exponent, the smaller
significand; the significand at a higher exponent is of full length. -/
theorem Shape.scaled_lt (less : bits < otherBits) :
    significand * 2 ^ (exponent - otherExponent).toNat <
      other * 2 ^ (otherExponent - exponent).toNat := by
  cases shaped with
  | finite _ short full least counted =>
    cases otherShaped with
    | finite _ otherShort otherFull otherLeast otherCounted =>
      have notHigher : exponent ≤ otherExponent := by omega
      rw [show (exponent - otherExponent).toNat = 0 by omega, Nat.pow_zero, Nat.mul_one]
      rcases Int.lt_or_eq_of_le notHigher with higher | same
      · have twice : 2 ^ 1 ≤ 2 ^ (otherExponent - exponent).toNat :=
          Nat.pow_le_pow_right (by decide) (by omega)
        calc significand
            < 2 ^ 52 * 2 ^ 1 := short
          _ ≤ other * 2 ^ (otherExponent - exponent).toNat := Nat.mul_le_mul (by omega) twice
      · rw [show (otherExponent - exponent).toNat = 0 by omega, Nat.pow_zero, Nat.mul_one]
        omega

theorem Shape.atMost (le : bits ≤ otherBits) : AtMost significand exponent other otherExponent := by
  rcases Nat.lt_or_eq_of_le le with less | same
  · exact Nat.le_of_lt (shaped.scaled_lt otherShaped less)
  · cases shaped with
    | finite _ short full least counted =>
      cases otherShaped with
      | finite _ otherShort otherFull otherLeast otherCounted =>
        have sameExponent : exponent = otherExponent := by omega
        have sameSignificand : significand = other := by omega
        rw [sameExponent, sameSignificand]
        exact Nat.le_refl _

/-- A product is long enough, since only the lowest doubles are not of full length. -/
theorem Shape.long_mul :
    exponent + otherExponent ≤
      roundingExponent (significand * other) (exponent + otherExponent) := by
  cases shaped with
  | finite _ short full least counted =>
    cases otherShaped with
    | finite _ otherShort otherFull otherLeast otherCounted =>
      have product : significand * other ≠ 0 := Nat.ne_of_gt (Nat.mul_pos positive otherPositive)
      have long : exponent + otherExponent ≤ -1074 ∨ 52 ≤ (significand * other).log2 := by
        by_cases low : exponent + otherExponent ≤ -1074
        · exact .inl low
        · right
          rw [Nat.le_log2 product]
          rcases full with lowest | long
          · exact Nat.le_trans (by omega) (Nat.le_mul_of_pos_left other positive)
          · exact Nat.le_trans long (Nat.le_mul_of_pos_right significand otherPositive)
      unfold roundingExponent
      omega

end Finite

/-- Multiplying by a positive double keeps the order of positive ones. -/
theorem Shape.mul_le {bits otherBits factorBits : Nat} {unpacked other factor : UnpackedFloat}
    (shaped : Shape false bits unpacked) (otherShaped : Shape false otherBits other)
    (factorShaped : Shape false factorBits factor) (positive : 0 < bits) (le : bits ≤ otherBits)
    (number : otherBits ≤ infinityBits) (factorPositive : 0 < factorBits)
    (factorFinite : factorBits < infinityBits) :
    ∃ product otherProduct,
      Shape false product
        (Float.Model.pack (UnpackedFloat.mul Format.binary64 unpacked factor)).unpack ∧
      Shape false otherProduct
        (Float.Model.pack (UnpackedFloat.mul Format.binary64 other factor)).unpack ∧
      product ≤ otherProduct ∧ otherProduct ≤ infinityBits := by
  have largest : Shape false infinityBits (Float.Model.pack (.infinity .positive)).unpack :=
    Shape.infinite.unpack_pack (Nat.le_refl _)
  cases factorShaped with
  | nan beyond => omega
  | infinite => omega
  | zero => omega
  | @finite _ factorSignificand factorExponent factorSome factorShort factorFull factorLeast
      factorCounted =>
    have factorShape : Shape false factorBits
        (.finite (signOf false) factorSignificand factorExponent factorSome) :=
      .finite factorSome factorShort factorFull factorLeast factorCounted factorFinite
    cases shaped with
    | nan beyond => omega
    | infinite =>
      cases otherShaped with
      | nan beyond => omega
      | infinite => exact ⟨_, _, largest, largest, Nat.le_refl _, Nat.le_refl _⟩
      | zero => omega
      | finite otherSome otherShort otherFull otherLeast otherCounted otherWithin => omega
    | zero => omega
    | @finite _ significand exponent some short full least counted within =>
      have shape : Shape false bits (.finite (signOf false) significand exponent some) :=
        .finite some short full least counted within
      have product := shape_roundWithAccuracy false (Nat.mul_pos some factorSome)
        (shape.long_mul factorShape)
      cases otherShaped with
      | nan beyond => omega
      | infinite =>
        exact ⟨_, _, product, largest, Nat.min_le_left _ _, Nat.le_refl _⟩
      | zero => omega
      | @finite _ otherSignificand otherExponent otherSome otherShort otherFull otherLeast
          otherCounted otherWithin =>
        have otherShape : Shape false otherBits
            (.finite (signOf false) otherSignificand otherExponent otherSome) :=
          .finite otherSome otherShort otherFull otherLeast otherCounted otherWithin
        have otherProduct := shape_roundWithAccuracy false (Nat.mul_pos otherSome factorSome)
          (otherShape.long_mul factorShape)
        have exact_le : AtMost (significand * factorSignificand) (exponent + factorExponent)
            (otherSignificand * factorSignificand) (otherExponent + factorExponent) :=
          (shape.atMost otherShape le).mul factorSignificand factorExponent
        have rounded := exact_le.roundedBits_le (Nat.mul_pos some factorSome)
          (Nat.mul_pos otherSome factorSome)
        refine ⟨_, _, product, otherProduct, ?_, Nat.min_le_left _ _⟩
        omega

theorem shape_of_pos {x : Float} (positive : 0 < x) :
    ∃ bits, Shape false bits x.toModel.unpack ∧ 0 < bits ∧ bits ≤ infinityBits := by
  have none : Shape false 0 (0 : Float).toModel.unpack := .zero
  obtain ⟨_, number, above⟩ := (float_lt_iff none (shape x)).mp positive
  have shaped := shape x
  cases negative : decide (2 ^ 63 ≤ x.toBits.toNat) with
  | true =>
    rw [negative] at above
    simp only [rank, if_true, Bool.false_eq_true, if_false] at above
    omega
  | false =>
    rw [negative] at above shaped
    simp only [rank, Bool.false_eq_true, if_false] at above
    exact ⟨_, shaped, by omega, number⟩

theorem float_lt_of_lt_of_le {x y z : Float} (lt : x < y) (le : y ≤ z) : x < z := by
  obtain ⟨xNumber, _, lower⟩ := (float_lt_iff (shape x) (shape y)).mp lt
  obtain ⟨_, zNumber, upper⟩ := (float_le_iff (shape y) (shape z)).mp le
  exact (float_lt_iff (shape x) (shape z)).mpr ⟨xNumber, zNumber, Int.lt_of_lt_of_le lower upper⟩

theorem scaledRound_zero (exponent : Int) : scaledRound 0 1 exponent = 0 := by
  have none := roundHalfEven_mul 0 (Nat.mul_pos Nat.one_pos (Nat.two_pow_pos (-exponent).toNat))
  rw [Int.zero_mul] at none
  rw [scaledRound_eq, Int.zero_mul]
  exact none

/-- A double is rounded to a whole number as its significand is at its exponent. -/
theorem nearestInt_eq (x : Float) :
    nearestInt x =
      match x.toModel.unpack with
      | .notANumber => .error .nan
      | .infinity _ => .error .infinite
      | .zero _ => .ok 0
      | .finite sign significand exponent _ =>
        .ok (scaledRound (sign.apply significand) 1 exponent) := by
  have shaped := shape x
  unfold nearestInt parts
  dsimp only
  generalize x.toBits.toNat = bits at shaped ⊢
  generalize decide (2 ^ 63 ≤ bits) = negative at shaped ⊢
  generalize rest : bits % 2 ^ 63 = low at shaped
  generalize x.toModel.unpack = unpacked at shaped ⊢
  cases shaped with
  | nan beyond =>
    unfold infinityBits at beyond
    rw [if_pos (by omega), if_neg (by omega)]
  | infinite =>
    unfold infinityBits at rest
    rw [if_pos (by omega), if_pos (by omega)]
  | zero =>
    have none : bits % 2 ^ 52 = 0 := by omega
    rw [if_neg (by omega), if_pos (by omega), none]
    simp [scaledRound_zero]
  | @finite _ significand exponent positive short full least counted within =>
    unfold infinityBits at within
    have signed : (signOf negative).apply significand =
        if negative = true then -(significand : Int) else significand := by
      cases negative <;> rfl
    rw [if_neg (by omega)]
    by_cases lowest : bits / 2 ^ 52 % 2 ^ 11 = 0
    · rw [if_pos lowest]
      have sameExponent : exponent = -1074 := by omega
      have sameSignificand : bits % 2 ^ 52 = significand := by omega
      simp only [sameExponent, sameSignificand, signed]
    · rw [if_neg lowest]
      have sameExponent : ((bits / 2 ^ 52 % 2 ^ 11 : Nat) : Int) - 1075 = exponent := by omega
      have sameSignificand : 2 ^ 52 + bits % 2 ^ 52 = significand := by omega
      simp only [sameExponent, sameSignificand, signed]

theorem scaledRound_nonneg (significand : Nat) (exponent : Int) :
    0 ≤ scaledRound significand 1 exponent := by
  have least := scaledRound_mono Nat.one_pos (Int.natCast_nonneg significand) exponent
  rwa [scaledRound_zero] at least

/-- Rounding positive doubles to whole numbers keeps the order. -/
theorem nearestInt_le {x y : Float} {bits otherBits : Nat} {whole more : Int}
    (shaped : Shape false bits x.toModel.unpack)
    (otherShaped : Shape false otherBits y.toModel.unpack) (le : bits ≤ otherBits)
    (rounded : nearestInt x = .ok whole) (otherRounded : nearestInt y = .ok more) :
    whole ≤ more := by
  rw [nearestInt_eq] at rounded otherRounded
  generalize x.toModel.unpack = unpacked at shaped rounded
  generalize y.toModel.unpack = other at otherShaped otherRounded
  cases otherShaped with
  | nan | infinite => cases otherRounded
  | zero =>
    obtain rfl : bits = 0 := by omega
    cases shaped with
    | nan => cases rounded
    | zero =>
      cases rounded
      cases otherRounded
      exact Int.le_refl 0
    | finite positive short full least counted within => omega
  | @finite _ significand exponent positive short full least counted within =>
    have otherShape : Shape false otherBits
        (.finite (signOf false) significand exponent positive) :=
      .finite positive short full least counted within
    cases otherRounded
    cases shaped with
    | nan | infinite => cases rounded
    | zero =>
      cases rounded
      exact scaledRound_nonneg significand exponent
    | @finite _ significandToo exponentToo positiveToo shortToo fullToo leastToo countedToo
        withinToo =>
      cases rounded
      have shape : Shape false bits
          (.finite (signOf false) significandToo exponentToo positiveToo) :=
        .finite positiveToo shortToo fullToo leastToo countedToo withinToo
      have scaled := (shape.atMost otherShape le).scaledRound_le 0
      rw [Int.sub_zero, Int.sub_zero] at scaled
      exact scaled

/-- Multiplying by a positive double and rounding to whole numbers keeps the order. -/
theorem nearestInt_mul_le {x y factor : Float} {factorBits : Nat} {whole more : Int}
    (positive : 0 < x) (le : x ≤ y)
    (factorShaped : Shape false factorBits factor.toModel.unpack) (factorPositive : 0 < factorBits)
    (factorFinite : factorBits < infinityBits) (rounded : nearestInt (x * factor) = .ok whole)
    (otherRounded : nearestInt (y * factor) = .ok more) : whole ≤ more := by
  obtain ⟨bits, shaped, some, _⟩ := shape_of_pos positive
  obtain ⟨otherBits, otherShaped, _, number⟩ := shape_of_pos (float_lt_of_lt_of_le positive le)
  have bitsLe : bits ≤ otherBits := by
    obtain ⟨_, _, ranks⟩ := (float_le_iff shaped otherShaped).mp le
    simpa [rank] using ranks
  obtain ⟨product, otherProduct, productShaped, otherProductShaped, productLe, _⟩ :=
    shaped.mul_le otherShaped factorShaped some bitsLe number factorPositive factorFinite
  exact nearestInt_le (x := x * factor) (y := y * factor) productShaped otherProductShaped
    productLe rounded otherRounded

/-- A result that is not below the lowest doubles is not rounded to zero. -/
theorem roundedBits_pos {significand : Nat} {exponent : Int} (positive : 0 < significand)
    (least : -1074 ≤ exponent) : 0 < roundedBits significand exponent := by
  unfold roundedBits
  by_cases normal : -1074 < roundingExponent significand exponent
  · have full := le_roundedSignificand positive normal
    omega
  · have lowest : roundingExponent significand exponent = -1074 := by
      unfold roundingExponent at normal ⊢
      omega
    have whole : roundedSignificand significand exponent =
        significand * 2 ^ (exponent + 1074).toNat := by
      have down : (-(exponent - -1074)).toNat = 0 := by omega
      have up : exponent - -1074 = exponent + 1074 := by omega
      have rounded := roundHalfEven_mul
        ((significand : Int) * 2 ^ (exponent + 1074).toNat) Nat.one_pos
      rw [roundedSignificand, lowest, scaledRound_eq, down, up, Nat.pow_zero, Nat.mul_one]
      simpa using rounded
    have some : (0 : Int) < significand * 2 ^ (exponent + 1074).toNat :=
      Int.mul_pos (by omega) (Int.pow_pos (by decide))
    omega

/-- A short significand is first extended down to the exponent to which it is rounded. -/
theorem long_decreaseExponent {significand : Nat} {exponent rounding : Int}
    (positive : 0 < significand) (above : rounding < exponent)
    (same : roundingExponent significand exponent = rounding) :
    rounding ≤ roundingExponent (significand * 2 ^ (exponent - rounding).toNat) rounding := by
  have small := Nat.log2_self_le (Nat.ne_of_gt positive)
  have shifted : significand.log2 + (exponent - rounding).toNat ≤
      (significand * 2 ^ (exponent - rounding).toNat).log2 := by
    refine (Nat.le_log2 (Nat.ne_of_gt (Nat.mul_pos positive (Nat.two_pow_pos _)))).mpr ?_
    rw [Nat.pow_add]
    exact Nat.mul_le_mul_right _ small
  unfold roundingExponent at same ⊢
  omega

/-- A result that is not below the lowest doubles keeps its sign. -/
theorem exists_shape_round (negative : Bool) {significand : Nat} {exponent : Int}
    (positive : 0 < significand) (least : -1074 ≤ exponent) :
    ∃ bits, Shape negative bits (Float.Model.pack (UnpackedFloat.round Format.binary64
        (signOf negative) significand exponent)).unpack ∧ 0 < bits ∧ bits ≤ infinityBits := by
  have bounded : ∀ {bits : Int}, 0 < bits →
      0 < min infinityBits bits.toNat ∧ min infinityBits bits.toNat ≤ infinityBits := by
    intro bits some
    have limit : 0 < infinityBits := by decide
    omega
  unfold UnpackedFloat.round decreaseExponent
  dsimp only
  rw [targetExponent_eq]
  generalize same : roundingExponent significand exponent = rounding
  have lowest : -1074 ≤ rounding := by
    unfold roundingExponent at same
    omega
  by_cases long : exponent ≤ rounding
  · have stays : (exponent - rounding).toNat = 0 := by omega
    rw [stays, Nat.shiftLeft_zero, Int.natCast_zero, Int.sub_zero]
    exact ⟨_, shape_roundWithAccuracy negative positive (same ▸ long),
      bounded (roundedBits_pos positive least)⟩
  · have above : rounding < exponent := Int.not_le.mp long
    have lowered : exponent - ((exponent - rounding).toNat : Int) = rounding := by omega
    rw [Nat.shiftLeft_eq, lowered]
    have extended : 0 < significand * 2 ^ (exponent - rounding).toNat :=
      Nat.mul_pos positive (Nat.two_pow_pos _)
    exact ⟨_, shape_roundWithAccuracy negative extended (long_decreaseExponent positive above same),
      bounded (roundedBits_pos extended lowest)⟩

theorem rank_false (bits : Nat) : rank false bits = bits := rfl

theorem rank_true (bits : Nat) : rank true bits = -(bits : Int) := rfl

theorem rank_bounds (negative : Bool) (bits : Nat) :
    -(bits : Int) ≤ rank negative bits ∧ rank negative bits ≤ bits := by
  cases negative with
  | false =>
    rw [rank_false]
    omega
  | true =>
    rw [rank_true]
    omega

theorem Shape.sign_eq {negative : Bool} {bits significand : Nat} {exponent : Int} {sign : Sign}
    {positive : 0 < significand}
    (shaped : Shape negative bits (.finite sign significand exponent positive)) :
    sign = signOf negative := by
  cases shaped
  rfl

/-- The exact difference of a finite double and a smaller one, in units of the lower exponent. -/
theorem Shape.difference_pos {negative otherNegative : Bool}
    {bits otherBits significand other : Nat} {exponent otherExponent : Int}
    {sign otherSign : Sign} {positive : 0 < significand} {otherPositive : 0 < other}
    (shaped : Shape negative bits (.finite sign significand exponent positive))
    (otherShaped :
      Shape otherNegative otherBits (.finite otherSign other otherExponent otherPositive))
    (less : rank negative bits < rank otherNegative otherBits) :
    0 < otherSign.apply (other <<< (otherExponent - min otherExponent exponent).toNat : Nat) -
      sign.apply (significand <<< (exponent - min otherExponent exponent).toNat : Nat) := by
  have otherShift : (otherExponent - min otherExponent exponent).toNat =
      (otherExponent - exponent).toNat := by omega
  have shift : (exponent - min otherExponent exponent).toNat =
      (exponent - otherExponent).toNat := by omega
  have some : 0 < significand * 2 ^ (exponent - otherExponent).toNat :=
    Nat.mul_pos positive (Nat.two_pow_pos _)
  have otherSome : 0 < other * 2 ^ (otherExponent - exponent).toNat :=
    Nat.mul_pos otherPositive (Nat.two_pow_pos _)
  have above := shaped.scaled_lt otherShaped
  have below := otherShaped.scaled_lt shaped
  rw [shaped.sign_eq, otherShaped.sign_eq, otherShift, shift, Nat.shiftLeft_eq, Nat.shiftLeft_eq]
  generalize significand * 2 ^ (exponent - otherExponent).toNat = scaled at some above below ⊢
  generalize other * 2 ^ (otherExponent - exponent).toNat = otherScaled at otherSome above below ⊢
  cases negative <;> cases otherNegative <;>
    simp only [rank, Bool.false_eq_true, if_true, if_false] at less <;>
    simp only [signOf, Sign.apply] <;> omega

/-- The difference of a double and a smaller one is positive. -/
theorem Shape.sub_pos {negative otherNegative : Bool} {bits otherBits : Nat}
    {unpacked other : UnpackedFloat} (shaped : Shape negative bits unpacked)
    (otherShaped : Shape otherNegative otherBits other) (number : bits ≤ infinityBits)
    (otherNumber : otherBits ≤ infinityBits)
    (less : rank negative bits < rank otherNegative otherBits) :
    ∃ difference, Shape false difference
        (Float.Model.pack (UnpackedFloat.sub Format.binary64 other unpacked)).unpack ∧
      0 < difference ∧ difference ≤ infinityBits := by
  have largest : ∃ difference, Shape false difference
      (Float.Model.pack (.infinity .positive)).unpack ∧
        0 < difference ∧ difference ≤ infinityBits :=
    ⟨_, Shape.infinite.unpack_pack (Nat.le_refl _), by decide, Nat.le_refl _⟩
  have limit : 0 < infinityBits := by decide
  have itself : ∀ {bits : Nat} {kept : UnpackedFloat}, Shape false bits kept → 0 < bits →
      bits ≤ infinityBits → ∃ difference,
        Shape false difference (Float.Model.pack kept).unpack ∧
          0 < difference ∧ difference ≤ infinityBits :=
    fun kept some bounded => ⟨_, kept.unpack_pack bounded, some, bounded⟩
  have low := rank_bounds negative bits
  have high := rank_bounds otherNegative otherBits
  -- What is above another double is not the least one, and what is below is not the greatest.
  cases otherShaped with
  | nan beyond => omega
  | infinite =>
    cases otherNegative with
    | true =>
      rw [rank_true] at less
      omega
    | false =>
      cases shaped with
      | nan beyond => omega
      | infinite =>
        cases negative with
        | true => exact largest
        | false => exact absurd less (Int.lt_irrefl _)
      | zero => exact largest
      | finite => exact largest
  | zero =>
    cases negative with
    | false =>
      rw [rank_false] at less
      omega
    | true =>
      cases shaped with
      | nan beyond => omega
      | infinite => exact largest
      | zero =>
        rw [rank_true] at less
        omega
      | finite positive short full least counted within =>
        exact itself (.finite positive short full least counted within) (by omega) number
  | @finite _ otherSignificand otherExponent otherPositive otherShort otherFull otherLeast
      otherCounted otherWithin =>
    have otherShape : Shape otherNegative otherBits
        (.finite (signOf otherNegative) otherSignificand otherExponent otherPositive) :=
      .finite otherPositive otherShort otherFull otherLeast otherCounted otherWithin
    cases shaped with
    | nan beyond => omega
    | infinite =>
      cases negative with
      | true => exact largest
      | false =>
        rw [rank_false] at less
        omega
    | zero =>
      cases otherNegative with
      | true =>
        rw [rank_true] at less
        have none := rank_bounds negative 0
        omega
      | false => exact itself otherShape (by omega) otherNumber
    | @finite _ significand exponent positive short full least counted within =>
      have shape : Shape negative bits (.finite (signOf negative) significand exponent positive) :=
        .finite positive short full least counted within
      have some := shape.difference_pos otherShape less
      unfold UnpackedFloat.sub UnpackedFloat.normalize decreaseExponent
      dsimp only
      rw [Int.compare_eq_gt.mpr some]
      exact exists_shape_round false (by omega) (by omega)

theorem float_sub_pos {x y : Float} (less : x < y) : 0 < y - x := by
  obtain ⟨number, otherNumber, ranks⟩ := (float_lt_iff (shape x) (shape y)).mp less
  obtain ⟨difference, shaped, some, bounded⟩ :=
    (shape x).sub_pos (shape y) number otherNumber ranks
  have none : Shape false 0 (0 : Float).toModel.unpack := .zero
  refine (float_lt_iff (y := y - x) none shaped).mpr ⟨Nat.zero_le _, bounded, ?_⟩
  simpa [rank] using some

end Number

/-- Fewer seconds are no more microseconds. -/
theorem microsOfSeconds_le {seconds longer : Float} {micros more : Int} (positive : 0 < seconds)
    (le : seconds ≤ longer) (counted : microsOfSeconds seconds = .ok micros)
    (longerCounted : microsOfSeconds longer = .ok more) : micros ≤ more := by
  have million : Number.Shape false 4696837146684686336 (1000000 : Float).toModel.unpack := by
    have shaped := Number.shape (1000000 : Float)
    have negative : decide (2 ^ 63 ≤ (1000000 : Float).toBits.toNat) = false := by decide +kernel
    have bits : (1000000 : Float).toBits.toNat % 2 ^ 63 = 4696837146684686336 := by decide +kernel
    rwa [negative, bits] at shaped
  have rounds : ∀ {seconds : Float} {micros : Int}, microsOfSeconds seconds = .ok micros →
      Number.nearestInt (seconds * 1000000) = .ok micros := by
    intro seconds micros counted
    unfold microsOfSeconds at counted
    cases rounded : Number.nearestInt (seconds * 1000000) with
    | error problem =>
      rw [rounded] at counted
      cases counted
    | ok whole =>
      rw [rounded] at counted
      cases counted
      rfl
  exact Number.nearestInt_mul_le positive le million (by decide) (by decide) (rounds counted)
    (rounds longerCounted)

end Checkup
