import Checkup.Keyed

/-!
# Values

Values without a fixed type: what a probe returns, what the shared store holds, what a fault carries
and what a report is written as. The fields of a record keep their order.
-/

namespace Checkup

inductive Value where
  | null
  | flag (b : Bool)
  | int (n : Int)
  | real (x : Float)
  | text (s : String)
  | list (items : List Value)
  | record (fields : List (String × Value))
deriving Inhabited, Repr

namespace Value

/-- The name of a value's kind in messages. -/
def kind : Value → String
  | null => "NoneType"
  | flag _ => "bool"
  | int _ => "int"
  | real _ => "float"
  | text _ => "str"
  | list _ => "list"
  | record _ => "dict"

def field? (name : String) : Value → Option Value
  | record fields => Keyed.get? fields name
  | _ => none

def items? : Value → Option (List Value)
  | list items => some items
  | _ => none

def text? : Value → Option String
  | text s => some s
  | _ => none

def flag? : Value → Option Bool
  | flag b => some b
  | _ => none

def int? : Value → Option Int
  | int n => some n
  | _ => none

end Value

end Checkup
