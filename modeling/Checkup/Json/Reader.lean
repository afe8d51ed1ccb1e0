import Checkup.Number.Reading
import Checkup.Value

/-!
# Reading JSON

A reader takes characters and gives a value with the characters after it. Numbers without a point
and without an exponent are whole numbers, all others are doubles. Fields keep their order.
-/

namespace Checkup.Json

/-- Drops the white space that JSON allows between tokens. -/
def skipSpace (chars : List Char) : List Char :=
  chars.dropWhile fun c => c == ' ' || c == '\n' || c == '\r' || c == '\t'

def hexDigit? (c : Char) : Option Nat :=
  if c.isDigit then some (c.toNat - '0'.toNat)
  else if 'a' ≤ c ∧ c ≤ 'f' then some (c.toNat - 'a'.toNat + 10)
  else if 'A' ≤ c ∧ c ≤ 'F' then some (c.toNat - 'A'.toNat + 10)
  else none

def fourHex? : List Char → Option (Nat × List Char)
  | a :: b :: c :: d :: rest => do
    let a ← hexDigit? a
    let b ← hexDigit? b
    let c ← hexDigit? c
    let d ← hexDigit? d
    some (((a * 16 + b) * 16 + c) * 16 + d, rest)
  | _ => none

/-- Reads the four digits of an escape, and a second escape if the first one is the first half of
a pair. -/
def codePoint? (chars : List Char) : Option (Char × List Char) := do
  let (unit, rest) ← fourHex? chars
  if 0xD800 ≤ unit ∧ unit < 0xDC00 then
    match rest with
    | '\\' :: 'u' :: rest =>
      let (second, rest) ← fourHex? rest
      if 0xDC00 ≤ second ∧ second < 0xE000 then
        some (Char.ofNat (0x10000 + (unit - 0xD800) * 0x400 + (second - 0xDC00)), rest)
      else none
    | _ => none
  else if 0xDC00 ≤ unit ∧ unit < 0xE000 then none
  else some (Char.ofNat unit, rest)

/-- The character that a one-letter escape stands for. -/
def shortEscape? (c : Char) : Option Char :=
  match c with
  | '"' => some '"'
  | '\\' => some '\\'
  | '/' => some '/'
  | 'b' => some '\x08'
  | 'f' => some '\x0c'
  | 'n' => some '\n'
  | 'r' => some '\r'
  | 't' => some '\t'
  | _ => none

/-- Reads the characters of a text up to its closing quote. -/
def readText : Nat → List Char → Option (List Char × List Char)
  | 0, _ => none
  | _ + 1, [] => none
  | _ + 1, '"' :: rest => some ([], rest)
  | fuel + 1, '\\' :: 'u' :: rest => do
    let (c, rest) ← codePoint? rest
    let (more, rest) ← readText fuel rest
    some (c :: more, rest)
  | fuel + 1, '\\' :: c :: rest => do
    let c ← shortEscape? c
    let (more, rest) ← readText fuel rest
    some (c :: more, rest)
  | _ + 1, ['\\'] => none
  | fuel + 1, c :: rest => do
    if c.toNat < 0x20 then none
    else
      let (more, rest) ← readText fuel rest
      some (c :: more, rest)

def isNumberChar (c : Char) : Bool :=
  c.isDigit || c == '-' || c == '+' || c == '.' || c == 'e' || c == 'E'

def number? (token : List Char) : Option Value :=
  let (negative, unsigned) := Number.takeSign token
  if unsigned.isEmpty then none
  else if unsigned.all Char.isDigit then
    some (.int (Number.signed negative (Number.digitsValue (unsigned.map fun c => c.toNat - '0'.toNat))))
  else
    (Number.readUnsignedReal? Text.asciiDigit? negative unsigned).map .real

mutual

def readValue : Nat → List Char → Option (Value × List Char)
  | 0, _ => none
  | fuel + 1, chars =>
    match skipSpace chars with
    | 'n' :: 'u' :: 'l' :: 'l' :: rest => some (.null, rest)
    | 't' :: 'r' :: 'u' :: 'e' :: rest => some (.flag true, rest)
    | 'f' :: 'a' :: 'l' :: 's' :: 'e' :: rest => some (.flag false, rest)
    | '"' :: rest => do
      let (shown, rest) ← readText fuel rest
      some (.text (String.ofList shown), rest)
    | '[' :: rest =>
      match skipSpace rest with
      | ']' :: rest => some (.list [], rest)
      | rest => do
        let (item, rest) ← readValue fuel rest
        let (more, rest) ← readItems fuel rest
        some (.list (item :: more), rest)
    | '\x7b' :: rest =>
      match skipSpace rest with
      | '\x7d' :: rest => some (.record [], rest)
      | rest => do
        let (field, rest) ← readField fuel rest
        let (more, rest) ← readFields fuel rest
        some (.record (field :: more), rest)
    | rest => do
      let value ← number? (rest.takeWhile isNumberChar)
      some (value, rest.dropWhile isNumberChar)

/-- Reads the items after the first one and the closing bracket. -/
def readItems : Nat → List Char → Option (List Value × List Char)
  | 0, _ => none
  | fuel + 1, chars =>
    match skipSpace chars with
    | ']' :: rest => some ([], rest)
    | ',' :: rest => do
      let (item, rest) ← readValue fuel rest
      let (more, rest) ← readItems fuel rest
      some (item :: more, rest)
    | _ => none

def readField : Nat → List Char → Option ((String × Value) × List Char)
  | 0, _ => none
  | fuel + 1, chars =>
    match skipSpace chars with
    | '"' :: rest => do
      let (name, rest) ← readText fuel rest
      match skipSpace rest with
      | ':' :: rest =>
        let (value, rest) ← readValue fuel rest
        some ((String.ofList name, value), rest)
      | _ => none
    | _ => none

/-- Reads the fields after the first one and the closing brace. -/
def readFields : Nat → List Char → Option (List (String × Value) × List Char)
  | 0, _ => none
  | fuel + 1, chars =>
    match skipSpace chars with
    | '\x7d' :: rest => some ([], rest)
    | ',' :: rest => do
      let (field, rest) ← readField fuel rest
      let (more, rest) ← readFields fuel rest
      some (field :: more, rest)
    | _ => none

end

/-- Reads a text that holds one value and nothing else but white space. -/
def read? (s : String) : Option Value :=
  let chars := s.toList
  match readValue (2 * chars.length + 2) chars with
  | some (value, rest) => if (skipSpace rest).isEmpty then some value else none
  | none => none

end Checkup.Json
