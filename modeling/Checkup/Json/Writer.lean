import Checkup.Number.Layout
import Checkup.Text.Quoted
import Checkup.Value

/-!
# Writing JSON

Compact text has no spaces. Indented text puts every item on its own line and a space after the
colon; empty lists and records stay on one line. Texts escape the quote, the backslash and the
control characters below U+0020 and nothing else. Numbers that are not finite become texts.
-/

namespace Checkup.Json

/-- One character inside a JSON text. -/
def escapeChar (c : Char) : List Char :=
  if c == '"' then ['\\', '"']
  else if c == '\\' then ['\\', '\\']
  else if c == '\n' then ['\\', 'n']
  else if c == '\r' then ['\\', 'r']
  else if c == '\t' then ['\\', 't']
  else if c.toNat == 8 then ['\\', 'b']
  else if c.toNat == 12 then ['\\', 'f']
  else if c.toNat < 0x20 then '\\' :: 'u' :: Text.hexadecimal 4 c.toNat
  else [c]

def quotedText (s : String) : List Char :=
  '"' :: (s.toList.flatMap escapeChar ++ ['"'])

def real (x : Float) : List Char :=
  match Number.parts x with
  | .finite .. => (Number.showReal x).toList
  | _ => quotedText (Number.showReal x)

/-- The start of a new line at a depth, when the text is indented. -/
def lineBreak (indent : Option Nat) (depth : Nat) : List Char :=
  match indent with
  | none => []
  | some width => '\n' :: List.replicate (width * depth) ' '

/-- What stands between a field's name and its value. -/
def colon (indent : Option Nat) : List Char :=
  if indent.isSome then [':', ' '] else [':']

mutual

def chars (indent : Option Nat) (depth : Nat) : Value → List Char
  | .null => "null".toList
  | .flag b => (if b then "true" else "false").toList
  | .int n => (Number.showInt n).toList
  | .real x => real x
  | .text s => quotedText s
  | .list [] => ['[', ']']
  | .list (item :: rest) =>
    '[' :: (lineBreak indent (depth + 1) ++ chars indent (depth + 1) item ++
      moreItems indent (depth + 1) rest ++ lineBreak indent depth ++ [']'])
  | .record [] => ['\x7b', '\x7d']
  | .record ((name, value) :: rest) =>
    '\x7b' :: (lineBreak indent (depth + 1) ++ quotedText name ++ colon indent ++
      chars indent (depth + 1) value ++
      moreFields indent (depth + 1) rest ++ lineBreak indent depth ++ ['\x7d'])

def moreItems (indent : Option Nat) (depth : Nat) : List Value → List Char
  | [] => []
  | item :: rest =>
    ',' :: (lineBreak indent depth ++ chars indent depth item ++ moreItems indent depth rest)

def moreFields (indent : Option Nat) (depth : Nat) : List (String × Value) → List Char
  | [] => []
  | (name, value) :: rest =>
    ',' :: (lineBreak indent depth ++ quotedText name ++ colon indent ++
      chars indent depth value ++ moreFields indent depth rest)

end

/-- A value as JSON, indented by the given number of spaces per level or compact. -/
def write (indent : Option Nat) (value : Value) : String :=
  String.ofList (chars indent 0 value)

end Checkup.Json
