import Checkup.Number.Double

/-!
# The fewest digits that read back

The decimal with the fewest digits in the interval of reals that round to a given double; of two
such decimals the nearer one, and of two equally near ones the even one.
-/

namespace Checkup.Number

/-- A decimal number `coefficient * 10 ^ exponent`. -/
structure Decimal where
  coefficient : Nat
  exponent : Int
deriving DecidableEq, Repr

/-- Raises an estimate until `num < 10 ^ result * den`. -/
def raiseMagnitude (num den : Nat) : Nat → Int → Int
  | 0, estimate => estimate
  | fuel + 1, estimate =>
    if num * 10 ^ (-estimate).toNat < den * 10 ^ estimate.toNat then estimate
    else raiseMagnitude num den fuel (estimate + 1)

/-- The least exponent with `num / den < 10 ^ exponent`, for a positive quotient. -/
def magnitude (num den : Nat) : Int :=
  let estimate := (((num.log2 : Int) - (den.log2 : Int) - 1) * 30103) / 100000
  raiseMagnitude num den 4 estimate

/-- The reals that round to a double, as numerators over one denominator. The ends belong to the
interval when the significand is even. -/
structure RoundingInterval where
  low : Nat
  value : Nat
  high : Nat
  den : Nat
  closed : Bool

/-- The interval of the reals that round to `significand * 2 ^ exponent`. -/
def roundingInterval (significand : Nat) (exponent : Int) : RoundingInterval :=
  let gapBelow := if significand = 2 ^ 52 ∧ -1074 < exponent then 1 else 2
  let scale := 2 ^ (exponent - 2).toNat
  { low := (4 * significand - gapBelow) * scale
    value := 4 * significand * scale
    high := (4 * significand + 2) * scale
    den := 2 ^ (2 - exponent).toNat
    closed := significand % 2 = 0 }

/-- The decimal of the grid `10 ^ exponent` that lies in the interval and is nearest to the value. -/
def nearestOnGrid? (interval : RoundingInterval) (exponent : Int) : Option Decimal :=
  let up := 10 ^ (-exponent).toNat
  let unit := interval.den * 10 ^ exponent.toNat
  let value := interval.value * up
  let below := value / unit
  let lowFits := if interval.closed then interval.low * up ≤ below * unit
    else interval.low * up < below * unit
  let highFits := if interval.closed then (below + 1) * unit ≤ interval.high * up
    else (below + 1) * unit < interval.high * up
  let takeBelow := 2 * value < (2 * below + 1) * unit ∨
    (2 * value = (2 * below + 1) * unit ∧ below % 2 = 0)
  if lowFits then
    if highFits then some ⟨if takeBelow then below else below + 1, exponent⟩
    else some ⟨below, exponent⟩
  else if highFits then some ⟨below + 1, exponent⟩
  else none

/-- Tries finer and finer grids. -/
def firstGrid (interval : RoundingInterval) : Nat → Int → Decimal
  | 0, exponent => ⟨interval.value * 10 ^ (-exponent).toNat / (interval.den * 10 ^ exponent.toNat), exponent⟩
  | fuel + 1, exponent =>
    match nearestOnGrid? interval exponent with
    | some decimal => decimal
    | none => firstGrid interval fuel (exponent - 1)

/-- The shortest decimal that reads back as the positive double `significand * 2 ^ exponent`. -/
def shortest (significand : Nat) (exponent : Int) : Decimal :=
  let interval := roundingInterval significand exponent
  firstGrid interval 17 (magnitude interval.value interval.den - 1)

end Checkup.Number
