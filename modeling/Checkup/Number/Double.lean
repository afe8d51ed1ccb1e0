import Checkup.Number.Rounding

/-!
# Doubles as exact numbers

A double is taken apart into its sign, significand and exponent, and put together from an exact
quotient or an exact decimal, both correctly rounded.
-/

namespace Checkup.Number

/-- What the sixty-four bits of a double stand for. A finite one is `significand * 2 ^ exponent`,
with its sign. -/
inductive Parts where
  | nan
  | infinite (negative : Bool)
  | finite (negative : Bool) (significand : Nat) (exponent : Int)
deriving DecidableEq, Repr

def parts (x : Float) : Parts :=
  let bits : Nat := x.toBits.toNat
  let negative := decide (2 ^ 63 ≤ bits)
  let field : Nat := bits / 2 ^ 52 % 2 ^ 11
  let fraction : Nat := bits % 2 ^ 52
  if field = 2047 then
    if fraction = 0 then .infinite negative else .nan
  else if field = 0 then
    .finite negative fraction (-1074)
  else
    .finite negative (2 ^ 52 + fraction) ((field : Int) - 1075)

def infinityBits : Nat := 2047 * 2 ^ 52

def infinity : Float := Float.ofBits infinityBits.toUInt64

def notANumber : Float := Float.ofBits (infinityBits + 2 ^ 51).toUInt64

def withSign (negative : Bool) (x : Float) : Float :=
  if negative then -x else x

/-- `significand * 2 ^ exponent` rounded to a whole number by `roundHalfEven`. -/
def scaledRound (significand : Int) (den : Nat) (exponent : Int) : Int :=
  if 0 ≤ exponent then roundHalfEven (significand * 2 ^ exponent.toNat) den
  else roundHalfEven significand (den * 2 ^ (-exponent).toNat)

/-- The exponent of the double nearest to a positive quotient: the least one at which the significand
has at most fifty-three bits. -/
def nearestExponent (size den : Nat) : Int :=
  let guess : Int := (size.log2 : Int) - (den.log2 : Int) - 53
  let tooFine := decide (2 ^ 53 ≤ scaledRound size den (-guess))
  max (-1074) (if tooFine then guess + 1 else guess)

/-- The bits of the double nearest to a positive quotient; those of infinity or more if the quotient
is too large. -/
def nearestBits (size den : Nat) : Nat :=
  let exponent := nearestExponent size den
  let significand := (scaledRound size den (-exponent)).toNat
  if significand < 2 ^ 52 then significand
  else (exponent + 1075).toNat * 2 ^ 52 + (significand - 2 ^ 52)

/-- The double nearest to `num / den`, or nothing if the quotient is too large for one. -/
def nearest? (num : Int) (den : Nat) : Option Float :=
  if num = 0 || den = 0 then some 0
  else
    let bits := nearestBits num.natAbs den
    if infinityBits ≤ bits then none
    else some (withSign (decide (num < 0)) (Float.ofBits bits.toUInt64))

/-- The double nearest to a whole number, or nothing if the number is too large for one. -/
def ofInt? (n : Int) : Option Float :=
  nearest? n 1

/-- The double nearest to a whole number, infinite if the number is too large. -/
def ofInt (n : Int) : Float :=
  (ofInt? n).getD (withSign (decide (n < 0)) infinity)

/-- The number with at most fifty-three bits nearest to a natural number. -/
def nearestWhole (size : Nat) : Nat :=
  let unit := 2 ^ (size.log2 - 52)
  (roundHalfEven size unit).toNat * unit

/-- The bits of a number of microseconds in seconds: the double nearest to the number is divided by a
million, and the quotient rounded again. -/
def secondBits (micros : Nat) : Nat :=
  let whole := nearestWhole micros
  if whole = 0 then 0
  else if 2 ^ 1024 ≤ whole then infinityBits
  else nearestBits whole 1000000

def secondsOfMicros (micros : Int) : Float :=
  withSign (decide (micros < 0)) (Float.ofBits (secondBits micros.natAbs).toUInt64)

/-- The double nearest to `coefficient * 10 ^ exponent`. Numbers too large become infinite, and
exponents too far from the range of doubles are decided without computing the power. -/
def ofDecimal (negative : Bool) (coefficient : Nat) (exponent : Int) : Float :=
  let length : Int := (coefficient.log2 : Int) / 4
  if coefficient = 0 then withSign negative 0
  else if 400 < length + exponent then withSign negative infinity
  else if (coefficient.log2 : Int) + exponent < -400 then withSign negative 0
  else
    let num := coefficient * 10 ^ exponent.toNat
    let den := 10 ^ (-exponent).toNat
    withSign negative ((nearest? num den).getD infinity)

/-- Why a double has no nearest whole number. -/
inductive NotWhole where
  | nan
  | infinite
deriving DecidableEq, Repr

/-- The whole number nearest to a double, a half going to the even neighbour. -/
def nearestInt (x : Float) : Except NotWhole Int :=
  match parts x with
  | .nan => .error .nan
  | .infinite _ => .error .infinite
  | .finite negative significand exponent =>
    .ok (scaledRound (if negative then -(significand : Int) else significand) 1 exponent)

/-- A double as its whole part, cut off toward zero, and the rest. -/
def wholeAndRest (x : Float) : Except NotWhole (Int × Float) :=
  match parts x with
  | .nan => .error .nan
  | .infinite _ => .error .infinite
  | .finite negative significand exponent =>
    let sign (n : Nat) : Int := if negative then -(n : Int) else n
    if 0 ≤ exponent then .ok (sign (significand * 2 ^ exponent.toNat), 0)
    else
      let unit := 2 ^ (-exponent).toNat
      .ok (sign (significand / unit), (nearest? (sign (significand % unit)) unit).getD 0)

end Checkup.Number
