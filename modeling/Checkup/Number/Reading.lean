import Checkup.Number.Double
import Checkup.Text.Blank
import Checkup.Text.Digit

/-!
# Numbers from texts

A run of digits may hold single underscores between its digits. Which characters count as digits is
a parameter: a setting takes the digits 0 to 9, a command line those of every script.
-/

namespace Checkup.Number

/-- Reads the remainder of a run of digits, after its first digit. -/
def digitRunFrom (digit? : Char → Option Nat) : List Char → List Nat × List Char
  | [] => ([], [])
  | '_' :: c :: rest =>
    match digit? c with
    | some d => let (more, left) := digitRunFrom digit? rest; (d :: more, left)
    | none => ([], '_' :: c :: rest)
  | c :: rest =>
    match digit? c with
    | some d => let (more, left) := digitRunFrom digit? rest; (d :: more, left)
    | none => ([], c :: rest)

/-- Reads a run of digits and gives it with the characters after it. No digit gives an empty run. -/
def digitRun (digit? : Char → Option Nat) : List Char → List Nat × List Char
  | [] => ([], [])
  | c :: rest =>
    match digit? c with
    | some d => let (more, left) := digitRunFrom digit? rest; (d :: more, left)
    | none => ([], c :: rest)

def digitsValue (run : List Nat) : Nat :=
  run.foldl (fun total d => 10 * total + d) 0

/-- Splits off a sign; the flag tells whether it is a minus. -/
def takeSign : List Char → Bool × List Char
  | '-' :: rest => (true, rest)
  | '+' :: rest => (false, rest)
  | rest => (false, rest)

def signed (negative : Bool) (n : Nat) : Int :=
  if negative then -(n : Int) else n

/-- The most digits that a component of a version may have. -/
def digitLimit : Nat := 4300

/-- Reads a whole number: white space around it, one sign, a run of digits of any script. -/
def readInt? (chars : List Char) : Option Int :=
  let (negative, unsigned) := takeSign (Text.trimBy Text.isWhiteSpace chars)
  match digitRun Text.digit? unsigned with
  | ([], _) => none
  | (run, []) => if run.length ≤ digitLimit then some (signed negative (digitsValue run)) else none
  | (_, _ :: _) => none

/-- Reads a whole number of a setting, which may end in a point and zeros. -/
def readIntSetting? (chars : List Char) : Option Int :=
  let (negative, unsigned) := takeSign (Text.trimBy Text.isWhiteSpace chars)
  match digitRun Text.asciiDigit? unsigned with
  | ([], _) => none
  | (run, []) => some (signed negative (digitsValue run))
  | (run, '.' :: '0' :: rest) =>
    if rest.all (· == '0') then some (signed negative (digitsValue run)) else none
  | _ => none

/-- Reads an exponent mark and a signed run of digits; nothing at all stands for exponent zero. -/
def readExponent? (digit? : Char → Option Nat) (chars : List Char) : Option Int :=
  match chars with
  | [] => some 0
  | c :: rest =>
    if c == 'e' || c == 'E' then
      let (negative, unsigned) := takeSign rest
      match digitRun digit? unsigned with
      | ([], _) => none
      | (run, []) => some (signed negative (digitsValue run))
      | _ => none
    else none

/-- Reads an unsigned decimal with at least one digit. -/
def readUnsignedReal? (digit? : Char → Option Nat) (negative : Bool) (chars : List Char) :
    Option Float :=
  let (whole, afterWhole) := digitRun digit? chars
  let (fraction, afterFraction) := match afterWhole with
    | '.' :: rest => digitRun digit? rest
    | rest => ([], rest)
  if whole.isEmpty && fraction.isEmpty then none
  else
    (readExponent? digit? afterFraction).map fun exponent =>
      ofDecimal negative (digitsValue (whole ++ fraction)) (exponent - fraction.length)

/-- Reads a double: white space around it, one sign, then a decimal or a name of infinity or of
not-a-number in any case. -/
def readReal? (digit? : Char → Option Nat) (chars : List Char) : Option Float :=
  let (negative, unsigned) := takeSign (Text.trimBy Text.isWhiteSpace chars)
  let name := String.ofList (unsigned.map Char.toLower)
  if name == "inf" || name == "infinity" then some (withSign negative infinity)
  else if name == "nan" then some notANumber
  else readUnsignedReal? digit? negative unsigned

end Checkup.Number
