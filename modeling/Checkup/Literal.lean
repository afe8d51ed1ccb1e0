import Checkup.Number.Layout
import Checkup.Text.Quoted
import Checkup.Value

/-!
# Values in messages

A value in a message stands as its literal, except that a text on its own stands without quotes.
-/

namespace Checkup.Value

def commaSeparated (shown : List String) : String :=
  String.intercalate ", " shown

mutual

def literal : Value → String
  | null => "None"
  | flag b => if b then "True" else "False"
  | int n => Number.showInt n
  | real x => Number.showReal x
  | text s => Text.quoted s
  | list items => "[" ++ commaSeparated (literals items) ++ "]"
  | record fields => "\x7b" ++ commaSeparated (fieldLiterals fields) ++ "\x7d"

def literals : List Value → List String
  | [] => []
  | value :: rest => literal value :: literals rest

def fieldLiterals : List (String × Value) → List String
  | [] => []
  | (name, value) :: rest => (Text.quoted name ++ ": " ++ literal value) :: fieldLiterals rest

end

/-- A value as it stands on its own in a message. -/
def shown : Value → String
  | text s => s
  | value => literal value

/-- Several values between parentheses, with a comma after a single one. -/
def group : List Value → String
  | [value] => "(" ++ literal value ++ ",)"
  | values => "(" ++ commaSeparated (literals values) ++ ")"

end Checkup.Value
