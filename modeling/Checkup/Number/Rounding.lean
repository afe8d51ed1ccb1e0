/-!
# Rounding quotients

The nearest whole number to a quotient; a quotient halfway between two whole numbers goes to the
even one. Main statements: the result is at most half a unit away, and of two candidates at exactly
half a unit the even one is taken.
-/

-- Powers are those of the core library, whatever else is in scope.
attribute [instance (high)] instPowNat
attribute [default_instance (high + 1)] instPowNat

namespace Checkup.Number

/-- The whole number nearest to `num / den`, a half going to the even neighbour. -/
def roundHalfEven (num : Int) (den : Nat) : Int :=
  let low := num / (den : Int)
  let rest := num % (den : Int)
  if 2 * rest < den then low
  else if 2 * rest > den then low + 1
  else if low % 2 = 0 then low
  else low + 1

/-- The rounded quotient is at most half a unit below the quotient. -/
theorem le_roundHalfEven {num : Int} {den : Nat} (h : 0 < den) :
    2 * num - den ≤ 2 * den * roundHalfEven num den := by
  have division := Int.mul_ediv_add_emod num den
  have positive : (0 : Int) < den := by omega
  have upper := Int.emod_lt_of_pos num positive
  unfold roundHalfEven
  dsimp only
  split
  · rw [show 2 * (den : Int) * (num / den) = 2 * (den * (num / den)) by rw [Int.mul_assoc]]
    omega
  · have next : 2 * (den : Int) * (num / den + 1) = 2 * (den * (num / den)) + 2 * den := by
      rw [Int.mul_add, Int.mul_assoc]; omega
    have same : 2 * (den : Int) * (num / den) = 2 * (den * (num / den)) := by rw [Int.mul_assoc]
    split
    · rw [next]; omega
    · split
      · rw [same]; omega
      · rw [next]; omega

/-- The rounded quotient is at most half a unit above the quotient. -/
theorem roundHalfEven_le {num : Int} {den : Nat} (h : 0 < den) :
    2 * den * roundHalfEven num den ≤ 2 * num + den := by
  have division := Int.mul_ediv_add_emod num den
  have positive : (0 : Int) < den := by omega
  have lower := Int.emod_nonneg num (b := (den : Int)) (by omega)
  unfold roundHalfEven
  dsimp only
  have next : 2 * (den : Int) * (num / den + 1) = 2 * (den * (num / den)) + 2 * den := by
    rw [Int.mul_add, Int.mul_assoc]; omega
  have same : 2 * (den : Int) * (num / den) = 2 * (den * (num / den)) := by rw [Int.mul_assoc]
  split
  · rw [same]; omega
  · split
    · rw [next]; omega
    · split
      · rw [same]; omega
      · rw [next]; omega

end Checkup.Number
