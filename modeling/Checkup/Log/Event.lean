import Checkup.Literal
import Checkup.Log.Level

/-!
# Events of the log

An event has a name and named values. It is written either as a record or as a line for people: the
severity in brackets, the name, and the values in the order of their names.
-/

namespace Checkup.Log

structure Event where
  severity : Severity
  name : String
  fields : List (String × Value) := []
deriving Inhabited, Repr

inductive Style where
  | record
  | plain
deriving DecidableEq, Repr, Inhabited

/-- A line of the log: an event and the style in force when it was written. -/
structure Line where
  event : Event
  style : Style
deriving Inhabited, Repr

/-- Fills up a text with spaces on the right. -/
def padRight (width : Nat) (s : String) : String :=
  s ++ String.ofList (List.replicate (width - s.length) ' ')

/-- A text needs quotes if it holds a space, another separator or a quote. -/
def needsQuotes (s : String) : Bool :=
  s.toList.any fun c =>
    c == ' ' || c == '\t' || c == '=' || c == '\r' || c == '\n' || c == '"' || c == '\''

def plainValue : Value → String
  | .text s => if needsQuotes s then Text.quoted s else s
  | value => value.literal

/-- The names that every line uses itself. -/
def ownNames : List String := ["event", "level", "timestamp"]

/-- The values of an event that do not have one of the lines' own names. -/
def Event.details (event : Event) : List (String × Value) :=
  event.fields.filter fun field => !ownNames.contains field.1

def Event.toRecord (event : Event) : Value :=
  .record (("event", .text event.name) :: ("level", .text event.severity.name) :: event.details)

def Event.toPlain (event : Event) : String :=
  let pairs := event.details.mergeSort fun a b => decide (a.1 ≤ b.1)
  let start := "[" ++ padRight 9 event.severity.name ++ "] "
  if pairs.isEmpty then start ++ event.name
  else start ++ padRight 30 event.name ++
    String.join (pairs.map fun (name, value) => " " ++ name ++ "=" ++ plainValue value)

def Line.shown (line : Line) : Value :=
  match line.style with
  | .record => line.event.toRecord
  | .plain => .text line.event.toPlain

end Checkup.Log
