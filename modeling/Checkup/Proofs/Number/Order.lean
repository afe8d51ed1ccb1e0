import Checkup.Proofs.Number.Rounding

/-!
# The order of doubles

The bits of a double tell where it stands among the others. Main statements: the order of doubles is
that of their bits, so that it is transitive, and seconds are in the order of their microseconds.
-/

namespace Checkup.Number

open Float.Model Float.Model.UnpackedFloat

def signOf : Bool → Sign
  | true => .negative
  | false => .positive

/-- How a double is taken apart, by its sign and the other bits. A finite one counts its significand
from the start of its exponent. -/
inductive Shape (negative : Bool) : Nat → UnpackedFloat → Prop where
  | nan {bits : Nat} (beyond : infinityBits < bits) : Shape negative bits .notANumber
  | infinite : Shape negative infinityBits (.infinity (signOf negative))
  | zero : Shape negative 0 (.zero (signOf negative))
  | finite {bits significand : Nat} {exponent : Int} (positive : 0 < significand)
      (short : significand < 2 ^ 53) (full : exponent = -1074 ∨ 2 ^ 52 ≤ significand)
      (least : -1074 ≤ exponent) (counted : (bits : Int) = (exponent + 1074) * 2 ^ 52 + significand)
      (within : bits < infinityBits) :
      Shape negative bits (.finite (signOf negative) significand exponent positive)

theorem toNat_unpackMantissa (b : BitVec Format.binary64.numBits) :
    (unpackMantissa b).toNat = b.toNat % 2 ^ 52 := by
  simp [unpackMantissa]

theorem toNat_unpackExponent (b : BitVec Format.binary64.numBits) :
    (unpackExponent b).toNat = b.toNat / 2 ^ 52 % 2 ^ 11 := by
  simp [unpackExponent, Nat.shiftRight_eq_div_pow]

theorem toNat_unpackSign (b : BitVec Format.binary64.numBits) :
    (unpackSign b).toNat = b.toNat / 2 ^ 63 := by
  have below : b.toNat < 2 ^ 64 := b.isLt
  show (b.toNat >>> 63) % 2 = b.toNat / 2 ^ 63
  rw [Nat.shiftRight_eq_div_pow]
  omega

theorem ofBitVec_unpackSign (b : BitVec Format.binary64.numBits) :
    Sign.ofBitVec (unpackSign b) = signOf (decide (2 ^ 63 ≤ b.toNat)) := by
  have signBit := toNat_unpackSign b
  have below : b.toNat < 2 ^ 64 := b.isLt
  unfold Sign.ofBitVec
  by_cases large : 2 ^ 63 ≤ b.toNat
  · rw [decide_eq_true large, signOf, if_neg]
    intro zero
    have zeroBit : b.toNat / 2 ^ 63 = 0 := signBit.symm.trans (congrArg BitVec.toNat zero)
    omega
  · rw [decide_eq_false large, signOf, if_pos]
    apply BitVec.eq_of_toNat_eq
    rw [signBit, Nat.div_eq_of_lt (by omega)]
    rfl

theorem toNat_implicit (mantissa : BitVec 52) :
    (1#1 ++ mantissa).toNat = 2 ^ 52 + mantissa.toNat := by
  rw [BitVec.toNat_append, ← Nat.shiftLeft_add_eq_or_of_lt mantissa.isLt]
  rfl

/-- Bits have the shape that they stand for. -/
theorem shape_unpack (b : BitVec Format.binary64.numBits) :
    Shape (decide (2 ^ 63 ≤ b.toNat)) (b.toNat % 2 ^ 63)
      (UnpackedFloat.unpack Format.binary64 b) := by
  have mantissaOf := toNat_unpackMantissa b
  have exponentOf := toNat_unpackExponent b
  have implicit := toNat_implicit (unpackMantissa b)
  have below : b.toNat < 2 ^ 64 := b.isLt
  have bias : (Format.binary64.exponentBias : Int) = 1023 := rfl
  unfold UnpackedFloat.unpack
  dsimp only
  rw [ofBitVec_unpackSign]
  by_cases top : unpackExponent b = -1#11
  · have all : (unpackExponent b).toNat = 2047 := congrArg BitVec.toNat top
    rw [if_pos top]
    by_cases whole : unpackMantissa b = 0#52
    · have none : (unpackMantissa b).toNat = 0 := congrArg BitVec.toNat whole
      rw [if_pos whole, show b.toNat % 2 ^ 63 = infinityBits by unfold infinityBits; omega]
      exact .infinite
    · have some : (unpackMantissa b).toNat ≠ 0 := fun none => whole (BitVec.eq_of_toNat_eq none)
      rw [if_neg whole]
      exact .nan (by unfold infinityBits; omega)
  · have less : (unpackExponent b).toNat ≠ 2047 := fun all => top (BitVec.eq_of_toNat_eq all)
    rw [if_neg top]
    by_cases bottom : unpackExponent b = 0#11
    · have least : (unpackExponent b).toNat = 0 := congrArg BitVec.toNat bottom
      rw [if_pos bottom]
      by_cases whole : unpackMantissa b = 0#52
      · have none : (unpackMantissa b).toNat = 0 := congrArg BitVec.toNat whole
        rw [dif_pos whole, show b.toNat % 2 ^ 63 = 0 by omega]
        exact .zero
      · rw [dif_neg whole]
        exact .finite _ (by omega) (by omega) (by omega) (by omega) (by unfold infinityBits; omega)
    · have more : (unpackExponent b).toNat ≠ 0 := fun none => bottom (BitVec.eq_of_toNat_eq none)
      rw [if_neg bottom]
      exact .finite _ (by omega) (by omega) (by omega) (by omega) (by unfold infinityBits; omega)

theorem toNat_packComponents (negative : Bool) (exponent : BitVec 11) (mantissa : BitVec 52) :
    (packComponents Format.binary64 (signOf negative) exponent mantissa).toNat =
      negative.toNat * 2 ^ 63 + exponent.toNat * 2 ^ 52 + mantissa.toNat := by
  have short : exponent.toNat < 2 ^ 11 := exponent.isLt
  unfold packComponents
  rw [BitVec.toNat_append, BitVec.toNat_append, ← Nat.shiftLeft_add_eq_or_of_lt mantissa.isLt,
    ← Nat.shiftLeft_add_eq_or_of_lt exponent.isLt, Nat.shiftLeft_eq, Nat.shiftLeft_eq]
  cases negative <;> simp [signOf, Sign.toBitVec] <;> omega

theorem log2_eq_iff_of_lt {significand : Nat} (positive : 0 < significand)
    (short : significand < 2 ^ 53) : significand.log2 = 52 ↔ 2 ^ 52 ≤ significand := by
  have lower := Nat.le_log2 (k := 52) (Nat.ne_of_gt positive)
  have upper := Nat.log2_lt (k := 53) (Nat.ne_of_gt positive)
  omega

/-- What has the shape of bits is put together from them. -/
theorem Shape.toNat_pack {negative : Bool} {bits : Nat} {unpacked : UnpackedFloat}
    (shape : Shape negative bits unpacked) (number : bits ≤ infinityBits) :
    (UnpackedFloat.pack Format.binary64 unpacked).toNat = negative.toNat * 2 ^ 63 + bits := by
  cases shape with
  | nan beyond => omega
  | infinite => cases negative <;> decide
  | zero => cases negative <;> decide
  | finite positive short full least counted within =>
    rename_i significand exponent
    have normal := log2_eq_iff_of_lt positive short
    have bias : (Format.binary64.exponentBias : Int) = 1023 := rfl
    have length : Format.binary64.mantissaBits = 53 := rfl
    unfold infinityBits at within
    unfold UnpackedFloat.pack
    dsimp only
    rw [if_neg (by omega)]
    by_cases implicit : 2 ^ 52 ≤ significand
    · rw [if_pos (by omega), toNat_packComponents]
      rw [BitVec.toNat_ofNat, BitVec.toNat_ofNat]
      omega
    · rw [if_neg (by omega), toNat_packComponents]
      rw [BitVec.toNat_ofNat, BitVec.toNat_ofNat]
      omega

def rank (negative : Bool) (bits : Nat) : Int :=
  if negative then -(bits : Int) else bits

theorem compare_then_eq {bits otherBits significand otherSignificand : Nat}
    {exponent otherExponent : Int} (short : significand < 2 ^ 53)
    (full : exponent = -1074 ∨ 2 ^ 52 ≤ significand) (least : -1074 ≤ exponent)
    (counted : (bits : Int) = (exponent + 1074) * 2 ^ 52 + significand)
    (otherShort : otherSignificand < 2 ^ 53)
    (otherFull : otherExponent = -1074 ∨ 2 ^ 52 ≤ otherSignificand)
    (otherLeast : -1074 ≤ otherExponent)
    (otherCounted : (otherBits : Int) = (otherExponent + 1074) * 2 ^ 52 + otherSignificand) :
    (compare exponent otherExponent).then (compare significand otherSignificand) =
      compare (bits : Int) otherBits := by
  -- The significand at a higher exponent is of full length, so that its bits are further on.
  rcases Int.lt_trichotomy exponent otherExponent with lower | same | higher
  · rw [Int.compare_eq_lt.mpr lower, Int.compare_eq_lt.mpr (show (bits : Int) < otherBits by omega)]
    rfl
  · rw [Int.compare_eq_eq.mpr same]
    rcases Nat.lt_trichotomy significand otherSignificand with less | equal | more
    · rw [Nat.compare_eq_lt.mpr less, Int.compare_eq_lt.mpr (show (bits : Int) < otherBits by omega)]
      rfl
    · rw [Nat.compare_eq_eq.mpr equal,
        Int.compare_eq_eq.mpr (show (bits : Int) = otherBits by omega)]
      rfl
    · rw [Nat.compare_eq_gt.mpr more, Int.compare_eq_gt.mpr (show (otherBits : Int) < bits by omega)]
      rfl
  · rw [Int.compare_eq_gt.mpr higher, Int.compare_eq_gt.mpr (show (otherBits : Int) < bits by omega)]
    rfl

theorem compare_neg_neg (a b : Int) : compare (-a) (-b) = (compare a b).swap := by
  rcases Int.lt_trichotomy a b with less | same | more
  · rw [Int.compare_eq_lt.mpr less, Int.compare_eq_gt.mpr (show -b < -a by omega)]
    rfl
  · rw [same, Int.compare_eq_eq.mpr rfl, Int.compare_eq_eq.mpr rfl]
    rfl
  · rw [Int.compare_eq_gt.mpr more, Int.compare_eq_lt.mpr (show -a < -b by omega)]
    rfl

/-- Two numbers compare as their ranks do. -/
theorem Shape.compare_eq {negative otherNegative : Bool} {bits otherBits : Nat}
    {unpacked other : UnpackedFloat} (shape : Shape negative bits unpacked)
    (otherShape : Shape otherNegative otherBits other) (number : bits ≤ infinityBits)
    (otherNumber : otherBits ≤ infinityBits) :
    unpacked.compare other =
      some (compare (rank negative bits) (rank otherNegative otherBits)) := by
  have limit : 0 < infinityBits := by decide
  symm
  cases shape with
  | nan beyond => omega
  | infinite =>
    cases otherShape with
    | nan beyond => omega
    | infinite | zero | finite =>
      cases negative <;> cases otherNegative <;>
        dsimp only [signOf, UnpackedFloat.compare] <;>
        simp [rank, Int.compare_eq_lt, Int.compare_eq_gt] <;> first | decide | omega
  | zero =>
    cases otherShape with
    | nan beyond => omega
    | infinite | zero | finite =>
      cases negative <;> cases otherNegative <;>
        dsimp only [signOf, UnpackedFloat.compare] <;>
        simp [rank, Int.compare_eq_lt, Int.compare_eq_gt] <;> omega
  | finite positive short full least counted within =>
    cases otherShape with
    | nan beyond => omega
    | infinite | zero =>
      cases negative <;> cases otherNegative <;>
        dsimp only [signOf, UnpackedFloat.compare] <;>
        simp [rank, Int.compare_eq_lt, Int.compare_eq_gt] <;> omega
    | finite otherPositive otherShort otherFull otherLeast otherCounted otherWithin =>
      have compared := compare_then_eq short full least counted otherShort otherFull otherLeast
        otherCounted
      cases negative <;> cases otherNegative <;>
        dsimp only [signOf, UnpackedFloat.compare] <;>
        simp [rank, compared, compare_neg_neg, Int.compare_eq_lt, Int.compare_eq_gt] <;> omega

/-- What is not a number does not compare. -/
theorem Shape.compare_eq_none {negative otherNegative : Bool} {bits otherBits : Nat}
    {unpacked other : UnpackedFloat} (shape : Shape negative bits unpacked)
    (otherShape : Shape otherNegative otherBits other)
    (beyond : ¬(bits ≤ infinityBits ∧ otherBits ≤ infinityBits)) :
    unpacked.compare other = none := by
  have limit : 0 < infinityBits := by decide
  cases shape with
  | nan => rfl
  | infinite | zero | finite =>
    cases otherShape with
    | nan => rfl
    | infinite | zero | finite => omega

/-- Doubles are in the order of their ranks. -/
theorem Shape.le_iff {negative otherNegative : Bool} {bits otherBits : Nat}
    {unpacked other : UnpackedFloat} (shape : Shape negative bits unpacked)
    (otherShape : Shape otherNegative otherBits other) :
    unpacked.le other = true ↔
      bits ≤ infinityBits ∧ otherBits ≤ infinityBits ∧
        rank negative bits ≤ rank otherNegative otherBits := by
  unfold UnpackedFloat.le
  by_cases numbers : bits ≤ infinityBits ∧ otherBits ≤ infinityBits
  · rw [shape.compare_eq otherShape numbers.1 numbers.2]
    simp [Int.isLE_compare, numbers]
  · rw [shape.compare_eq_none otherShape numbers]
    simp
    omega

/-- A double is strictly less than another one if its rank is. -/
theorem Shape.lt_iff {negative otherNegative : Bool} {bits otherBits : Nat}
    {unpacked other : UnpackedFloat} (shape : Shape negative bits unpacked)
    (otherShape : Shape otherNegative otherBits other) :
    unpacked.lt other = true ↔
      bits ≤ infinityBits ∧ otherBits ≤ infinityBits ∧
        rank negative bits < rank otherNegative otherBits := by
  unfold UnpackedFloat.lt
  by_cases numbers : bits ≤ infinityBits ∧ otherBits ≤ infinityBits
  · rw [shape.compare_eq otherShape numbers.1 numbers.2]
    simp [Int.compare_eq_lt, numbers]
  · rw [shape.compare_eq_none otherShape numbers]
    simp
    omega

theorem shape (x : Float) :
    Shape (decide (2 ^ 63 ≤ x.toBits.toNat)) (x.toBits.toNat % 2 ^ 63) x.toModel.unpack :=
  shape_unpack x.toBits.toBitVec

/-- What is put together from a shape has this shape. -/
theorem Shape.unpack_pack {negative : Bool} {bits : Nat} {unpacked : UnpackedFloat}
    (shaped : Shape negative bits unpacked) (number : bits ≤ infinityBits) :
    Shape negative bits (Float.Model.pack unpacked).unpack := by
  have packed := shape_unpack (UnpackedFloat.pack Format.binary64 unpacked)
  have small : bits < 2 ^ 63 := Nat.lt_of_le_of_lt number (by decide)
  rw [shaped.toNat_pack number] at packed
  cases negative with
  | false =>
    rw [decide_eq_false (by simp; omega), show (false.toNat * 2 ^ 63 + bits) % 2 ^ 63 = bits by
      simp; omega] at packed
    exact packed
  | true =>
    rw [decide_eq_true (by simp), show (true.toNat * 2 ^ 63 + bits) % 2 ^ 63 = bits by
      simp; omega] at packed
    exact packed

theorem shape_ofBits {bits : Nat} (number : bits ≤ infinityBits) :
    Shape false bits (Float.ofBits bits.toUInt64).toModel.unpack := by
  have small : bits < 2 ^ 63 := Nat.lt_of_le_of_lt number (by decide)
  have unpacked := shape_unpack bits.toUInt64.toBitVec
  have kept : bits.toUInt64.toBitVec.toNat = bits := by
    show bits % 2 ^ 64 = bits
    omega
  rw [kept, decide_eq_false (by omega), Nat.mod_eq_of_lt small] at unpacked
  exact unpacked.unpack_pack number

theorem Shape.neg {bits : Nat} {unpacked : UnpackedFloat} (shaped : Shape false bits unpacked) :
    Shape true bits unpacked.neg := by
  cases shaped with
  | nan beyond => exact .nan beyond
  | infinite => exact .infinite
  | zero => exact .zero
  | finite positive short full least counted within =>
    exact .finite positive short full least counted within

theorem shape_withSign {x : Float} {bits : Nat} (negative : Bool)
    (shaped : Shape false bits x.toModel.unpack) (number : bits ≤ infinityBits) :
    Shape negative bits (withSign negative x).toModel.unpack := by
  cases negative with
  | false => exact shaped
  | true => exact shaped.neg.unpack_pack number

theorem float_le_iff {x y : Float} {negative otherNegative : Bool} {bits otherBits : Nat}
    (shaped : Shape negative bits x.toModel.unpack)
    (otherShaped : Shape otherNegative otherBits y.toModel.unpack) :
    x ≤ y ↔
      bits ≤ infinityBits ∧ otherBits ≤ infinityBits ∧
        rank negative bits ≤ rank otherNegative otherBits := by
  rw [← shaped.le_iff otherShaped]
  show decide (x.toModel ≤ y.toModel) = true ↔ _
  rw [decide_eq_true_iff]
  rfl

/-- The order of doubles is transitive. -/
theorem float_le_trans {x y z : Float} (first : x ≤ y) (second : y ≤ z) : x ≤ z := by
  obtain ⟨xNumber, _, lower⟩ := (float_le_iff (shape x) (shape y)).mp first
  obtain ⟨_, zNumber, upper⟩ := (float_le_iff (shape y) (shape z)).mp second
  exact (float_le_iff (shape x) (shape z)).mpr ⟨xNumber, zNumber, Int.le_trans lower upper⟩

/-- Seconds are in the order of their microseconds. -/
theorem secondsOfMicros_mono {micros more : Int} (le : micros ≤ more) :
    secondsOfMicros micros ≤ secondsOfMicros more := by
  have bounded := secondBits_le micros.natAbs
  have moreBounded := secondBits_le more.natAbs
  refine (float_le_iff (shape_withSign _ (shape_ofBits bounded) bounded)
    (shape_withSign _ (shape_ofBits moreBounded) moreBounded)).mpr ⟨bounded, moreBounded, ?_⟩
  unfold rank
  by_cases negative : micros < 0 <;> by_cases moreNegative : more < 0 <;>
    simp [negative, moreNegative]
  · exact secondBits_mono (by omega)
  · omega
  · exact secondBits_mono (by omega)

def Unsigned : UnpackedFloat → Prop
  | .notANumber => True
  | .infinity sign | .zero sign | .finite sign .. => sign = .positive

theorem dite_rec {P : UnpackedFloat → Prop} {condition : Prop} [Decidable condition]
    {first : condition → UnpackedFloat} {other : ¬condition → UnpackedFloat}
    (first_holds : ∀ holds, P (first holds)) (other_holds : ∀ fails, P (other fails)) :
    P (dite condition first other) := by
  by_cases holds : condition
  · rw [dif_pos holds]
    exact first_holds holds
  · rw [dif_neg holds]
    exact other_holds holds

theorem unsigned_roundWithAccuracy (significand : Nat) (exponent : Int) (accuracy : Accuracy) :
    Unsigned (roundWithAccuracy Format.binary64 .positive significand exponent accuracy) := by
  unfold roundWithAccuracy
  exact dite_rec (fun _ => rfl) (fun _ => rfl)

theorem Unsigned.mul {unpacked other : UnpackedFloat} (unsigned : Unsigned unpacked)
    (otherUnsigned : Unsigned other) :
    Unsigned (UnpackedFloat.mul Format.binary64 unpacked other) := by
  cases unpacked with
  | notANumber => trivial
  | infinity sign | zero sign | finite sign =>
    obtain rfl : sign = .positive := unsigned
    cases other with
    | notANumber => trivial
    | infinity otherSign | zero otherSign | finite otherSign =>
      obtain rfl : otherSign = .positive := otherUnsigned
      first
        | rfl
        | trivial
        | exact unsigned_roundWithAccuracy _ _ _

/-- What has no negative sign is put together without the bit for it. -/
theorem Unsigned.toNat_pack_lt {unpacked : UnpackedFloat} (unsigned : Unsigned unpacked) :
    (UnpackedFloat.pack Format.binary64 unpacked).toNat < 2 ^ 63 := by
  have small : ∀ (exponent : BitVec 11) (mantissa : BitVec 52),
      (packComponents Format.binary64 .positive exponent mantissa).toNat < 2 ^ 63 := by
    intro exponent mantissa
    have components := toNat_packComponents false exponent mantissa
    have exponentShort := exponent.isLt
    have mantissaShort := mantissa.isLt
    rw [show signOf false = .positive from rfl] at components
    rw [components]
    simp only [Bool.toNat_false]
    omega
  cases unpacked with
  | notANumber => exact small _ _
  | infinity sign =>
    obtain rfl : sign = .positive := unsigned
    exact small _ _
  | zero sign =>
    obtain rfl : sign = .positive := unsigned
    exact small _ _
  | finite sign =>
    obtain rfl : sign = .positive := unsigned
    unfold UnpackedFloat.pack
    dsimp only
    split
    · exact small _ _
    · split
      · exact small _ _
      · exact small _ _

theorem unsigned_of_pos {x : Float} (positive : 0 < x) : Unsigned x.toModel.unpack := by
  have above : UnpackedFloat.lt (.zero .positive) x.toModel.unpack = true := by
    have decided : decide ((0 : Float).toModel < x.toModel) = true := positive
    exact of_decide_eq_true decided
  cases unpacked : x.toModel.unpack with
  | notANumber => trivial
  | infinity sign | zero sign | finite sign =>
    rw [unpacked] at above
    cases sign with
    | negative => cases above
    | positive => rfl

/-- A double without a negative sign has no negative nearest whole number. -/
theorem nearestInt_nonneg {x : Float} {whole : Int} (unsigned : x.toBits.toNat < 2 ^ 63)
    (rounded : nearestInt x = .ok whole) : 0 ≤ whole := by
  have positive : decide (2 ^ 63 ≤ x.toBits.toNat) = false := decide_eq_false (by omega)
  have scaled : ∀ (significand : Nat) (exponent : Int), 0 ≤ scaledRound significand 1 exponent := by
    intro significand exponent
    rw [scaledRound_eq]
    refine le_roundHalfEven_of_mul_le (Nat.mul_pos Nat.one_pos (Nat.two_pow_pos _)) ?_
    rw [Int.zero_mul]
    exact Int.mul_nonneg (Int.natCast_nonneg _) (Int.le_of_lt (Int.pow_pos (by decide)))
  unfold nearestInt parts at rounded
  dsimp only at rounded
  rw [positive] at rounded
  split at rounded
  · cases rounded
  · cases rounded
  · rename_i decomposed
    split at decomposed
    · split at decomposed <;> cases decomposed
    · split at decomposed
      · cases decomposed
        rw [← Except.ok.inj rounded, if_neg Bool.false_ne_true]
        exact scaled _ _
      · cases decomposed
        rw [← Except.ok.inj rounded, if_neg Bool.false_ne_true]
        exact scaled _ _

/-- A number of microseconds above zero seconds is not negative. -/
theorem nearestInt_mul_nonneg {x factor : Float} {whole : Int} (positive : 0 < x)
    (scale : 0 < factor) (rounded : nearestInt (x * factor) = .ok whole) : 0 ≤ whole := by
  have unsigned := ((unsigned_of_pos positive).mul (unsigned_of_pos scale)).toNat_pack_lt
  exact nearestInt_nonneg (x := x * factor) unsigned rounded

end Checkup.Number
