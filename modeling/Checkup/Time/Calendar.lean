import Checkup.Time.Duration

/-!
# Dates and moments

A moment is a date and a time of day in the calendar of the years 1 to 9999, with or without an
offset from universal time. Two moments with offsets are compared as instants; a moment without an
offset can only be compared with another one without.
-/

namespace Checkup

structure Date where
  year : Nat
  month : Nat
  day : Nat
deriving DecidableEq, Repr

namespace Date

/-- Every fourth year is a leap year, but of the full centuries only every fourth. -/
def isLeap (year : Nat) : Bool :=
  year % 4 = 0 && (year % 100 ≠ 0 || year % 400 = 0)

def monthLength (year month : Nat) : Nat :=
  if month = 2 then (if isLeap year then 29 else 28)
  else if month = 4 || month = 6 || month = 9 || month = 11 then 30
  else 31

/-- The number of days between the first of January of the year 1 and that of a later year. -/
def daysBeforeYear (year : Nat) : Nat :=
  let past := year - 1
  past * 365 + past / 4 - past / 100 + past / 400

def daysBeforeMonth (year : Nat) : Nat → Nat
  | 0 => 0
  | 1 => 0
  | month + 1 => daysBeforeMonth year month + monthLength year month

/-- The number of days since the first of January of the year 1. -/
def ordinal (date : Date) : Nat :=
  daysBeforeYear date.year + daysBeforeMonth date.year date.month + (date.day - 1)

/-- Takes whole months off a number of days. -/
def monthAndDay (year : Nat) : Nat → Nat → Nat → Nat × Nat
  | 0, month, days => (month, days + 1)
  | fuel + 1, month, days =>
    if days < monthLength year month then (month, days + 1)
    else monthAndDay year fuel (month + 1) (days - monthLength year month)

/-- The date that lies a number of days after the first of January of the year 1. -/
def ofOrdinal (days : Nat) : Date :=
  let guess := days / 366 + 1
  let year := (List.range (days / 365 + 2 - guess)).foldl
    (fun best step => if daysBeforeYear (guess + step) ≤ days then guess + step else best) guess
  let (month, day) := monthAndDay year 11 1 (days - daysBeforeYear year)
  ⟨year, month, day⟩

def valid (date : Date) : Bool :=
  1 ≤ date.year && date.year ≤ 9999 && 1 ≤ date.month && date.month ≤ 12 && 1 ≤ date.day &&
    date.day ≤ monthLength date.year date.month

end Date

/-- A date and a time of day on some clock: the microseconds since the start of the year 1 on that
clock, and how far the clock is ahead of universal time, if that is known. -/
structure Moment where
  micros : Int
  offset : Option Int
deriving DecidableEq, Repr

namespace Moment

/-- The end of the calendar. -/
def limit : Int := Date.daysBeforeYear 10000 * Duration.dayMicros

/-- The moment at which clocks start: the first of January 2030 in universal time. -/
def start : Moment := ⟨Date.daysBeforeYear 2030 * Duration.dayMicros, some 0⟩

/-- The moment a number of microseconds after the start of the clocks. -/
def atMicros (micros : Int) : Moment :=
  { start with micros := start.micros + micros }

/-- The microseconds since the start of the year 1 in universal time; a clock with unknown offset
shows universal time. -/
def instant (moment : Moment) : Int :=
  moment.micros - moment.offset.getD 0

def add (moment : Moment) (duration : Duration) : Except TimeFault Moment :=
  let micros := moment.micros + duration.micros
  if 0 ≤ micros ∧ micros < limit then .ok { moment with micros } else .error .dateOutOfRange

/-- Compares two moments; nothing if only one of them has an offset. -/
def isBefore? (a b : Moment) : Option Bool :=
  if a.offset.isSome = b.offset.isSome then some (a.instant < b.instant) else none

def offsetText (offset : Int) : List Char :=
  let size := offset.natAbs
  let seconds := size / 1000000
  (if offset < 0 then '-' else '+') :: Number.padded 2 (seconds / 3600) ++
    ':' :: Number.padded 2 (seconds / 60 % 60) ++
    (if seconds % 60 = 0 && size % 1000000 = 0 then [] else ':' :: Number.padded 2 (seconds % 60)) ++
    (if size % 1000000 = 0 then [] else '.' :: Number.padded 6 (size % 1000000))

/-- A moment in the extended format: date, the letter T, time of day, offset. -/
def toText (moment : Moment) : String :=
  let date := Date.ofOrdinal (moment.micros / Duration.dayMicros).toNat
  let micros := (moment.micros % Duration.dayMicros).toNat
  let seconds := micros / 1000000
  let fraction := micros % 1000000
  String.ofList (
    Number.padded 4 date.year ++ '-' :: Number.padded 2 date.month ++
      '-' :: Number.padded 2 date.day ++
      'T' :: Number.padded 2 (seconds / 3600) ++ ':' :: Number.padded 2 (seconds / 60 % 60) ++
      ':' :: Number.padded 2 (seconds % 60) ++
      (if fraction = 0 then [] else '.' :: Number.padded 6 fraction) ++
      (moment.offset.map offsetText).getD [])

/-- Reads a fixed number of digits. -/
def takeNumber? : Nat → Nat → List Char → Option (Nat × List Char)
  | 0, value, rest => some (value, rest)
  | count + 1, value, c :: rest =>
    if c.isDigit then takeNumber? count (value * 10 + (c.toNat - '0'.toNat)) rest else none
  | _ + 1, _, [] => none

/-- Reads a date with or without dashes. -/
def takeDate? (chars : List Char) : Option (Date × List Char) := do
  let (year, rest) ← takeNumber? 4 0 chars
  match rest with
  | '-' :: rest =>
    let (month, rest) ← takeNumber? 2 0 rest
    match rest with
    | '-' :: rest =>
      let (day, rest) ← takeNumber? 2 0 rest
      some (⟨year, month, day⟩, rest)
    | _ => none
  | rest =>
    let (month, rest) ← takeNumber? 2 0 rest
    let (day, rest) ← takeNumber? 2 0 rest
    some (⟨year, month, day⟩, rest)

/-- Reads the decimals of a second as microseconds; more than six decimals are cut off. -/
def takeFraction? (chars : List Char) : Option (Nat × List Char) :=
  let shown := chars.takeWhile Char.isDigit
  if shown.isEmpty then none
  else
    let six := (shown ++ List.replicate 6 '0').take 6
    some (six.foldl (fun value c => value * 10 + (c.toNat - '0'.toNat)) 0, chars.drop shown.length)

/-- Reads hours, then minutes, then seconds with decimals, as microseconds. Later parts may be
missing. -/
def takeClock? (chars : List Char) : Option (Int × List Char) := do
  let (hours, rest) ← takeNumber? 2 0 chars
  let afterColon : List Char → Option (List Char) := fun
    | ':' :: rest => some rest
    | c :: rest => if c.isDigit then some (c :: rest) else none
    | [] => none
  let hourMicros : Int := hours * 3600000000
  match afterColon rest with
  | none => some (hourMicros, rest)
  | some minuteChars =>
    let (minutes, rest) ← takeNumber? 2 0 minuteChars
    let minuteMicros : Int := hourMicros + minutes * 60000000
    match afterColon rest with
    | none => some (minuteMicros, rest)
    | some secondChars =>
      let (seconds, rest) ← takeNumber? 2 0 secondChars
      if 24 ≤ hours || 60 ≤ minutes || 60 ≤ seconds then none
      else
        let secondMicros : Int := minuteMicros + seconds * 1000000
        match rest with
        | mark :: fractionChars =>
          if mark == '.' || mark == ',' then
            let (fraction, rest) ← takeFraction? fractionChars
            some (secondMicros + fraction, rest)
          else some (secondMicros, rest)
        | [] => some (secondMicros, [])

/-- Reads an offset from universal time that ends the text. One of less than a second counts as no
offset from universal time. -/
def readOffset? : List Char → Option (Option Int)
  | [] => some none
  | ['Z'] => some (some 0)
  | sign :: rest => do
    let (shown, rest) ← takeClock? rest
    let size := if shown < 1000000 then 0 else shown
    if !rest.isEmpty || Duration.dayMicros ≤ size then none
    else if sign == '+' then some (some size)
    else if sign == '-' then some (some (-size))
    else none

/-- Reads a moment: a date, and after one more character a time of day and an offset. -/
def read? (s : String) : Option Moment := do
  let (date, rest) ← takeDate? s.toList
  if !date.valid then none
  else
    let midnight : Int := date.ordinal * Duration.dayMicros
    match rest with
    | [] => some ⟨midnight, none⟩
    | _ :: clock =>
      let (time, rest) ← takeClock? clock
      if Duration.dayMicros ≤ time then none
      else
        let offset ← readOffset? rest
        some ⟨midnight + time, offset⟩

end Moment

end Checkup
