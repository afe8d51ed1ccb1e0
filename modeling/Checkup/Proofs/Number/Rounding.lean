import Checkup.Number.Double

/-!
# Rounding keeps the order

Main statements: rounding a quotient to a whole number, to the bits of a double, and a number of
microseconds to the bits of its seconds keeps the order.
-/

namespace Checkup.Number

theorem roundHalfEven_mul (count : Int) {den : Nat} (positive : 0 < den) :
    roundHalfEven (count * den) den = count := by
  have rest : count * (den : Int) % den = 0 := Int.mul_emod_left count den
  have whole : count * (den : Int) / den = count := Int.mul_ediv_cancel count (by omega)
  unfold roundHalfEven
  dsimp only
  rw [rest, whole, if_pos (by omega)]

theorem roundHalfEven_mono {num more : Int} {den : Nat} (positive : 0 < den) (le : num ≤ more) :
    roundHalfEven num den ≤ roundHalfEven more den := by
  by_cases below : roundHalfEven num den ≤ roundHalfEven more den
  · exact below
  · have above := @roundHalfEven_le num den positive
    have under := @le_roundHalfEven more den positive
    have gap : 2 * (den : Int) * (roundHalfEven more den + 1) ≤
        2 * den * roundHalfEven num den :=
      Int.mul_le_mul_of_nonneg_left (by omega) (by omega)
    rw [Int.mul_add] at gap
    have same : num = more := by omega
    rw [same] at below
    exact absurd (Int.le_refl _) below

theorem le_roundHalfEven_of_mul_le {count num : Int} {den : Nat} (positive : 0 < den)
    (le : count * den ≤ num) : count ≤ roundHalfEven num den := by
  rw [← roundHalfEven_mul count positive]
  exact roundHalfEven_mono positive le

theorem roundHalfEven_le_of_le_mul {count num : Int} {den : Nat} (positive : 0 < den)
    (le : num ≤ count * den) : roundHalfEven num den ≤ count := by
  rw [← roundHalfEven_mul count positive]
  exact roundHalfEven_mono positive le

/-- Scaling by a power of two multiplies the numerator or the denominator. -/
theorem scaledRound_eq (num : Int) (den : Nat) (exponent : Int) :
    scaledRound num den exponent =
      roundHalfEven (num * 2 ^ exponent.toNat) (den * 2 ^ (-exponent).toNat) := by
  unfold scaledRound
  split
  · rw [show (-exponent).toNat = 0 by omega, Nat.pow_zero, Nat.mul_one]
  · rw [show exponent.toNat = 0 by omega, Int.pow_zero, Int.mul_one]

theorem scaledRound_mono {num more : Int} {den : Nat} (positive : 0 < den) (le : num ≤ more)
    (exponent : Int) : scaledRound num den exponent ≤ scaledRound more den exponent := by
  rw [scaledRound_eq, scaledRound_eq]
  refine roundHalfEven_mono (Nat.mul_pos positive (Nat.two_pow_pos _)) ?_
  exact Int.mul_le_mul_of_nonneg_right le (Int.le_of_lt (Int.pow_pos (by decide)))

theorem pow_le_scaledRound {size den bits : Nat} {exponent : Int} (positive : 0 < den)
    (le : 2 ^ bits * (den * 2 ^ (-exponent).toNat) ≤ size * 2 ^ exponent.toNat) :
    2 ^ bits ≤ scaledRound size den exponent := by
  rw [scaledRound_eq]
  refine le_roundHalfEven_of_mul_le (Nat.mul_pos positive (Nat.two_pow_pos _)) ?_
  exact_mod_cast le

theorem scaledRound_le_pow {size den bits : Nat} {exponent : Int} (positive : 0 < den)
    (le : size * 2 ^ exponent.toNat ≤ 2 ^ bits * (den * 2 ^ (-exponent).toNat)) :
    scaledRound size den exponent ≤ 2 ^ bits := by
  rw [scaledRound_eq]
  refine roundHalfEven_le_of_le_mul (Nat.mul_pos positive (Nat.two_pow_pos _)) ?_
  exact_mod_cast le

/-- Half of a quotient that rounds to at least twice a number rounds to at least the number. -/
theorem le_roundHalfEven_half {num half count : Int} {den wide : Nat} (positive : 0 < den)
    (halved : num = 2 * half ∧ wide = den ∨ half = num ∧ wide = 2 * den)
    (le : 2 * count ≤ roundHalfEven num den) : count ≤ roundHalfEven half wide := by
  by_cases below : count ≤ roundHalfEven half wide
  · exact below
  · have widePositive : 0 < wide := by omega
    have above := @roundHalfEven_le num den positive
    have under := @le_roundHalfEven half wide widePositive
    have twice : 2 * (den : Int) * (2 * count) ≤ 2 * den * roundHalfEven num den :=
      Int.mul_le_mul_of_nonneg_left le (by omega)
    have less : 2 * (wide : Int) * (roundHalfEven half wide + 1) ≤ 2 * wide * count :=
      Int.mul_le_mul_of_nonneg_left (by omega) (by omega)
    rw [Int.mul_add] at less
    have product : 2 * (den : Int) * (2 * count) = 4 * (den * count) := by
      rw [Int.mul_assoc, Int.mul_left_comm (den : Int), ← Int.mul_assoc]
      rfl
    rcases halved with ⟨rfl, rfl⟩ | ⟨rfl, rfl⟩
    · rw [Int.mul_assoc 2 (wide : Int) count] at less
      omega
    · rw [show (2 : Int) * ((2 * den : Nat) : Int) * count = 4 * (den * count) by
        rw [Int.natCast_mul, ← Int.mul_assoc, Int.mul_assoc]; rfl] at less
      omega

theorem le_scaledRound_half {size den bits : Nat} {exponent : Int} (positive : 0 < den)
    (le : 2 ^ (bits + 1) ≤ scaledRound size den exponent) :
    2 ^ bits ≤ scaledRound size den (exponent - 1) := by
  rw [scaledRound_eq] at le ⊢
  rw [Int.pow_succ, Int.mul_comm] at le
  refine le_roundHalfEven_half (Nat.mul_pos positive (Nat.two_pow_pos _)) ?_ le
  by_cases up : 1 ≤ exponent
  · left
    rw [show exponent.toNat = (exponent - 1).toNat + 1 by omega,
      show (-(exponent - 1)).toNat = (-exponent).toNat by omega, Int.pow_succ]
    exact ⟨by rw [← Int.mul_assoc, Int.mul_comm], rfl⟩
  · right
    rw [show exponent.toNat = (exponent - 1).toNat by omega,
      show (-(exponent - 1)).toNat = (-exponent).toNat + 1 by omega, Nat.pow_succ]
    exact ⟨rfl, by rw [← Nat.mul_assoc, Nat.mul_comm]⟩

theorem log2_mono {size more : Nat} (size_pos : 0 < size) (le : size ≤ more) :
    size.log2 ≤ more.log2 :=
  (Nat.le_log2 (Nat.ne_of_gt (Nat.lt_of_lt_of_le size_pos le))).mpr
    (Nat.le_trans (Nat.log2_self_le (Nat.ne_of_gt size_pos)) le)

section Quotient

variable {size more den : Nat}

/-- At the exponent that the lengths of a quotient suggest, its significand is long enough. -/
theorem pow_le_scaledRound_guess (size_pos : 0 < size) (den_pos : 0 < den) :
    2 ^ 52 ≤ scaledRound size den (-((size.log2 : Int) - den.log2 - 53)) := by
  have large := Nat.log2_self_le (Nat.ne_of_gt size_pos)
  have small := Nat.lt_log2_self (n := den)
  refine pow_le_scaledRound den_pos ?_
  generalize size.log2 = sizeLength at large ⊢
  generalize den.log2 = denLength at small ⊢
  generalize up : (-((sizeLength : Int) - denLength - 53)).toNat = rise
  generalize down : (-(-((sizeLength : Int) - denLength - 53))).toNat = fall
  calc 2 ^ 52 * (den * 2 ^ fall)
      ≤ 2 ^ 52 * (2 ^ (denLength + 1) * 2 ^ fall) :=
        Nat.mul_le_mul_left _ (Nat.mul_le_mul_right _ (Nat.le_of_lt small))
    _ = 2 ^ (52 + (denLength + 1 + fall)) := by rw [← Nat.pow_add, ← Nat.pow_add]
    _ = 2 ^ (sizeLength + rise) := by
        congr 1
        omega
    _ = 2 ^ sizeLength * 2 ^ rise := Nat.pow_add ..
    _ ≤ size * 2 ^ rise := Nat.mul_le_mul_right _ large

theorem scaledRound_guess_le_pow (den_pos : 0 < den) :
    scaledRound size den (-((size.log2 : Int) - den.log2 - 53) - 1) ≤ 2 ^ 53 := by
  have large := Nat.lt_log2_self (n := size)
  have small := Nat.log2_self_le (Nat.ne_of_gt den_pos)
  refine scaledRound_le_pow den_pos ?_
  generalize size.log2 = sizeLength at large ⊢
  generalize den.log2 = denLength at small ⊢
  generalize up : (-((sizeLength : Int) - denLength - 53) - 1).toNat = rise
  generalize down : (-(-((sizeLength : Int) - denLength - 53) - 1)).toNat = fall
  calc size * 2 ^ rise
      ≤ 2 ^ (sizeLength + 1) * 2 ^ rise := Nat.mul_le_mul_right _ (Nat.le_of_lt large)
    _ = 2 ^ (sizeLength + 1 + rise) := (Nat.pow_add ..).symm
    _ = 2 ^ (53 + (denLength + fall)) := by
        congr 1
        omega
    _ = 2 ^ 53 * (2 ^ denLength * 2 ^ fall) := by rw [Nat.pow_add, Nat.pow_add]
    _ ≤ 2 ^ 53 * (den * 2 ^ fall) :=
        Nat.mul_le_mul_left _ (Nat.mul_le_mul_right _ small)

/-- The exponent of a quotient that is not too small for a significand of full length. -/
theorem nearestExponent_eq (size : Nat) (short : den.log2 ≤ 1000) :
    nearestExponent size den =
      if 2 ^ 53 ≤ scaledRound size den (-((size.log2 : Int) - den.log2 - 53)) then
        (size.log2 : Int) - den.log2 - 52
      else (size.log2 : Int) - den.log2 - 53 := by
  unfold nearestExponent
  dsimp only
  split <;> rename_i fine <;> simp only [decide_eq_true_eq] at fine
  · rw [if_pos fine]
    omega
  · rw [if_neg fine]
    omega

variable (size_pos : 0 < size) (den_pos : 0 < den) (short : den.log2 ≤ 1000)

include size_pos den_pos short

/-- A significand of full length, which may have been rounded up to the next power of two. -/
theorem significand_bounds :
    -1074 < nearestExponent size den ∧
      2 ^ 52 ≤ scaledRound size den (-nearestExponent size den) ∧
        scaledRound size den (-nearestExponent size den) ≤ 2 ^ 53 := by
  rw [nearestExponent_eq size short]
  split
  · rename_i fine
    have lower := le_scaledRound_half den_pos fine
    have upper := @scaledRound_guess_le_pow size den den_pos
    rw [show -((size.log2 : Int) - den.log2 - 52) = -((size.log2 : Int) - den.log2 - 53) - 1 by
      omega]
    exact ⟨by omega, lower, upper⟩
  · rename_i fine
    exact ⟨by omega, pow_le_scaledRound_guess size_pos den_pos, by omega⟩

/-- The bits of a double count its significand from the start of its exponent. -/
theorem nearestBits_eq :
    (nearestBits size den : Int) =
      (nearestExponent size den + 1074) * 2 ^ 52 +
        scaledRound size den (-nearestExponent size den) := by
  obtain ⟨normal, lower, upper⟩ := significand_bounds size_pos den_pos short
  unfold nearestBits
  dsimp only
  rw [if_neg (by omega)]
  omega

theorem nearestExponent_mono (le : size ≤ more) :
    nearestExponent size den ≤ nearestExponent more den := by
  have more_pos : 0 < more := Nat.lt_of_lt_of_le size_pos le
  have lengths := log2_mono size_pos le
  rw [nearestExponent_eq size short, nearestExponent_eq more short]
  by_cases same : size.log2 = more.log2
  · have rounded := scaledRound_mono den_pos (Int.ofNat_le.mpr le)
      (-((more.log2 : Int) - den.log2 - 53))
    rw [same]
    split <;> split <;> omega
  · split <;> split <;> omega

/-- A larger quotient has no smaller bits. -/
theorem nearestBits_mono (le : size ≤ more) : nearestBits size den ≤ nearestBits more den := by
  have more_pos : 0 < more := Nat.lt_of_lt_of_le size_pos le
  have exponents := nearestExponent_mono size_pos den_pos short le
  have bits := nearestBits_eq size_pos den_pos short
  have moreBits := nearestBits_eq more_pos den_pos short
  obtain ⟨_, _, upper⟩ := significand_bounds size_pos den_pos short
  obtain ⟨_, lower, _⟩ := significand_bounds more_pos den_pos short
  -- A significand that was rounded up to a power of two counts as far as the next exponent starts.
  by_cases same : nearestExponent size den = nearestExponent more den
  · have rounded := scaledRound_mono den_pos (Int.ofNat_le.mpr le) (-nearestExponent more den)
    rw [same] at bits
    omega
  · omega

end Quotient

theorem nearestWhole_le_pow {size length : Nat} (le : size ≤ 2 ^ length)
    (long : size.log2 - 52 ≤ length) : nearestWhole size ≤ 2 ^ length := by
  have split : 2 ^ length = 2 ^ (length - (size.log2 - 52)) * 2 ^ (size.log2 - 52) := by
    rw [← Nat.pow_add]
    congr 1
    omega
  have rounded : roundHalfEven size (2 ^ (size.log2 - 52)) ≤ 2 ^ (length - (size.log2 - 52)) := by
    refine roundHalfEven_le_of_le_mul (Nat.two_pow_pos _) ?_
    rw [split] at le
    exact_mod_cast le
  rw [nearestWhole, split]
  refine Nat.mul_le_mul_right _ ?_
  rw [Int.toNat_le]
  exact_mod_cast rounded

theorem pow_le_nearestWhole {size length : Nat} (le : 2 ^ length ≤ size)
    (long : size.log2 - 52 ≤ length) : 2 ^ length ≤ nearestWhole size := by
  have split : 2 ^ length = 2 ^ (length - (size.log2 - 52)) * 2 ^ (size.log2 - 52) := by
    rw [← Nat.pow_add]
    congr 1
    omega
  have rounded : 2 ^ (length - (size.log2 - 52)) ≤ roundHalfEven size (2 ^ (size.log2 - 52)) := by
    refine le_roundHalfEven_of_mul_le (Nat.two_pow_pos _) ?_
    rw [split] at le
    exact_mod_cast le
  rw [nearestWhole, split]
  refine Nat.mul_le_mul_right _ ?_
  have counted : ((2 ^ (length - (size.log2 - 52)) : Nat) : Int) ≤
      roundHalfEven size (2 ^ (size.log2 - 52)) := by
    exact_mod_cast rounded
  omega

/-- Rounding natural numbers to fifty-three bits keeps the order. -/
theorem nearestWhole_mono {size more : Nat} (le : size ≤ more) :
    nearestWhole size ≤ nearestWhole more := by
  rcases Nat.eq_zero_or_pos size with rfl | size_pos
  · exact Nat.zero_le _
  · have lengths := log2_mono size_pos le
    by_cases same : size.log2 - 52 = more.log2 - 52
    · have rounded := roundHalfEven_mono (Nat.two_pow_pos (more.log2 - 52))
        (Int.ofNat_le.mpr le)
      rw [nearestWhole, nearestWhole, same]
      refine Nat.mul_le_mul_right _ ?_
      omega
    · have upper : nearestWhole size ≤ 2 ^ (size.log2 + 1) :=
        nearestWhole_le_pow (Nat.le_of_lt Nat.lt_log2_self) (by omega)
      have lower : 2 ^ more.log2 ≤ nearestWhole more :=
        pow_le_nearestWhole (Nat.log2_self_le (by omega)) (Nat.sub_le _ _)
      have between : 2 ^ (size.log2 + 1) ≤ 2 ^ more.log2 :=
        Nat.pow_le_pow_right (by decide) (by omega)
      exact Nat.le_trans upper (Nat.le_trans between lower)

theorem nearestBits_le_infinityBits {whole : Nat} (whole_pos : 0 < whole)
    (finite : whole ≤ 2 ^ 1024) : nearestBits whole 1000000 ≤ infinityBits := by
  have largest : nearestBits (2 ^ 1024) 1000000 ≤ infinityBits := by decide +kernel
  exact Nat.le_trans (nearestBits_mono whole_pos (by decide) (by decide +kernel) finite) largest

theorem secondBits_le (micros : Nat) : secondBits micros ≤ infinityBits := by
  unfold secondBits
  dsimp only
  split
  · exact Nat.zero_le _
  · split
    · exact Nat.le_refl _
    · exact nearestBits_le_infinityBits (by omega) (by omega)

/-- More microseconds have no smaller bits in seconds. -/
theorem secondBits_mono {micros more : Nat} (le : micros ≤ more) :
    secondBits micros ≤ secondBits more := by
  have whole := nearestWhole_mono le
  have bounded := secondBits_le micros
  unfold secondBits at bounded ⊢
  dsimp only at bounded ⊢
  by_cases zero : nearestWhole micros = 0
  · rw [if_pos zero]
    exact Nat.zero_le _
  · rw [if_neg zero] at bounded ⊢
    rw [if_neg (show nearestWhole more ≠ 0 by omega)]
    by_cases infinite : 2 ^ 1024 ≤ nearestWhole more
    · rw [if_pos infinite]
      exact bounded
    · rw [if_neg infinite, if_neg (show ¬ 2 ^ 1024 ≤ nearestWhole micros by omega)]
      exact nearestBits_mono (Nat.pos_of_ne_zero zero) (by decide) (by decide +kernel) whole

end Checkup.Number
