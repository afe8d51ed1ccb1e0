import Checkup.Number.Shortest

/-!
# Numbers as texts

Whole numbers are written in decimal digits, doubles either with the fewest digits that read back or
with a fixed number of places.
-/

namespace Checkup.Number

def digits (n : Nat) : List Char :=
  Nat.toDigits 10 n

/-- A text filled up with zeros on the left. -/
def padded (width : Nat) (n : Nat) : List Char :=
  let shown := digits n
  List.replicate (width - shown.length) '0' ++ shown

def showInt (n : Int) : String :=
  String.ofList ((if n < 0 then ['-'] else []) ++ digits n.natAbs)

/-- The decisions that a text of a double rests on. -/
structure RealFormat where
  /-- The least decimal exponent that is written positionally. -/
  leastPositional : Int
  /-- The first decimal exponent that is not written positionally. -/
  firstScientific : Int
  /-- The least number of digits of an exponent. -/
  exponentWidth : Nat
  nan : String
  infinity : String
deriving Repr

/-- Doubles are positional from 0.0001 to below 10 ^ 16 and always show a point or an exponent. -/
def realFormat : RealFormat :=
  { leastPositional := -4
    firstScientific := 16
    exponentWidth := 2
    nan := "nan"
    infinity := "inf" }

/-- The digits of a coefficient without the zeros at its end, and how many zeros there were. -/
def significantDigits (coefficient : Nat) : List Char × Nat :=
  let reversed := (digits coefficient).reverse
  let kept := reversed.dropWhile (· == '0')
  (kept.reverse, reversed.length - kept.length)

def RealFormat.decimal (format : RealFormat) (value : Decimal) : List Char :=
  let (shown, zeros) := significantDigits value.coefficient
  let point : Int := shown.length + zeros + value.exponent
  let exponent := point - 1
  if format.leastPositional ≤ exponent ∧ exponent < format.firstScientific then
    if point ≤ 0 then
      '0' :: '.' :: (List.replicate (-point).toNat '0' ++ shown)
    else if (shown.length : Int) ≤ point then
      shown ++ List.replicate (point - shown.length).toNat '0' ++ ['.', '0']
    else
      shown.take point.toNat ++ '.' :: shown.drop point.toNat
  else
    let fraction := shown.drop 1
    shown.take 1 ++ (if fraction.isEmpty then [] else '.' :: fraction) ++
      'e' :: (if exponent < 0 then '-' else '+') :: padded format.exponentWidth exponent.natAbs

def RealFormat.render (format : RealFormat) (x : Float) : String :=
  let sign (negative : Bool) : String := if negative then "-" else ""
  match parts x with
  | .nan => format.nan
  | .infinite negative => sign negative ++ format.infinity
  | .finite negative 0 _ => sign negative ++ "0.0"
  | .finite negative significand exponent =>
    sign negative ++ String.ofList (format.decimal (shortest significand exponent))

/-- A double with the fewest digits that read back. -/
def showReal (x : Float) : String :=
  realFormat.render x

/-- A double with a fixed number of places. The exact binary value is rounded, a tie going to the
even digit. -/
def showFixed (places : Nat) (x : Float) : String :=
  let sign (negative : Bool) : String := if negative then "-" else ""
  match parts x with
  | .nan => "nan"
  | .infinite negative => sign negative ++ "inf"
  | .finite negative significand exponent =>
    let scaled := (scaledRound ((significand * 10 ^ places : Nat) : Int) 1 exponent).toNat
    let whole := digits (scaled / 10 ^ places)
    let fraction := if places = 0 then [] else '.' :: padded places (scaled % 10 ^ places)
    sign negative ++ String.ofList (whole ++ fraction)

end Checkup.Number
