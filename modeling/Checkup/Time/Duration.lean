import Checkup.Number.Layout

/-!
# Durations

A duration is a whole number of microseconds. Durations are built from numbers of weeks down to
microseconds; fractions are added up and rounded once, a half going to the even microsecond.
-/

namespace Checkup

inductive TimeFault where
  | notANumber
  | infinite
  | numberTooLarge
  | uncountableDays
  | tooManyDays (days : Int)
  | dateOutOfRange
deriving DecidableEq, Repr

/-- The number that a caller gives for a time: a whole number or a double. -/
inductive Amount where
  | whole (n : Int)
  | real (x : Float)
deriving Repr

def Amount.toFloat : Amount → Except TimeFault Float
  | whole n => match Number.ofInt? n with
    | some x => .ok x
    | none => .error .numberTooLarge
  | real x => .ok x

structure Duration where
  micros : Int
deriving DecidableEq, Repr

namespace Duration

def dayMicros : Int := 86400000000

/-- The most days that a duration may have, in both directions. -/
def dayLimit : Int := 999999999

/-- The duration of a number of microseconds, if its days are within the limit. -/
def ofMicros (micros : Int) : Except TimeFault Duration :=
  let days := micros / dayMicros
  if days < -2147483648 ∨ 2147483647 < days then .error .uncountableDays
  else if days < -dayLimit ∨ dayLimit < days then .error (.tooManyDays days)
  else .ok ⟨micros⟩

/-- Microseconds that are being added up: the whole ones, and the sum of the fractions. -/
structure Tally where
  whole : Int := 0
  rest : Float := 0

def ofNotWhole : Number.NotWhole → TimeFault
  | .nan => .notANumber
  | .infinite => .infinite

/-- Adds a number of units to a sum. The whole units are exact; only the fraction of a unit goes
through a multiplication of doubles. -/
def Tally.add (tally : Tally) (unit : Nat) : Amount → Except TimeFault Tally
  | .whole n => .ok { tally with whole := tally.whole + n * unit }
  | .real x => do
    let (units, fraction) ← (Number.wholeAndRest x).mapError ofNotWhole
    let (more, rest) ← (Number.wholeAndRest (Number.ofInt unit * fraction)).mapError ofNotWhole
    .ok { whole := tally.whole + units * unit + more, rest := tally.rest + rest }

/-- The nearest whole number of microseconds to a sum. -/
def Tally.total (tally : Tally) : Int :=
  match Number.parts tally.rest with
  | .finite negative significand exponent =>
    let unit : Nat := 2 ^ (-exponent).toNat
    let rest : Int := (if negative then -(significand : Int) else significand) * 2 ^ exponent.toNat
    Number.roundHalfEven (tally.whole * unit + rest) unit
  | _ => tally.whole

structure Fields where
  weeks : Option Amount := none
  days : Option Amount := none
  hours : Option Amount := none
  minutes : Option Amount := none
  seconds : Option Amount := none
  milliseconds : Option Amount := none
  microseconds : Option Amount := none

def sum (parts : List (Option Amount × Nat)) : Except TimeFault Duration := do
  let tally ← parts.foldlM (fun (tally : Tally) (amount?, unit) => match amount? with
    | some amount => tally.add unit amount
    | none => .ok tally) {}
  ofMicros tally.total

def ofFields (fields : Fields) : Except TimeFault Duration :=
  sum [(fields.microseconds, 1), (fields.milliseconds, 1000), (fields.seconds, 1000000),
    (fields.minutes, 60000000), (fields.hours, 3600000000), (fields.days, 86400000000),
    (fields.weeks, 604800000000)]

def ofSeconds (seconds : Amount) : Except TimeFault Duration :=
  sum [(some seconds, 1000000)]

/-- The seconds of a duration, correctly rounded. -/
def seconds (duration : Duration) : Float :=
  (Number.nearest? duration.micros 1000000).getD 0

/-- Hours, minutes, seconds and microseconds of a part of a day. -/
def clockText (micros : Nat) : List Char :=
  let whole := micros / 1000000
  let fraction := micros % 1000000
  Number.digits (whole / 3600) ++ ':' :: Number.padded 2 (whole / 60 % 60) ++
    ':' :: Number.padded 2 (whole % 60) ++
    (if fraction = 0 then [] else '.' :: Number.padded 6 fraction)

/-- A duration as days and a time of day; the days are rounded down, so that the time of day is
never negative. -/
def toText (duration : Duration) : String :=
  let days := duration.micros / dayMicros
  let clock := String.ofList (clockText (duration.micros % dayMicros).toNat)
  if days = 0 then clock
  else Number.showInt days ++ (if days.natAbs = 1 then " day, " else " days, ") ++ clock

end Duration

/-- A time that a caller gives: a number of seconds, or the parts of a duration. -/
inductive Span where
  | seconds (amount : Amount)
  | parts (fields : Duration.Fields)

namespace Span

def duration : Span → Except TimeFault Duration
  | seconds amount => Duration.ofSeconds amount
  | parts fields => Duration.ofFields fields

def toFloat : Span → Except TimeFault Float
  | seconds amount => amount.toFloat
  | parts fields => (Duration.ofFields fields).map Duration.seconds

end Span

end Checkup
