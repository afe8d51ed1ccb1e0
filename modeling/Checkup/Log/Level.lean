import Checkup.Fault
import Checkup.Text.Blank

/-!
# Levels of the log

Every event has one of five severities. A level is a number, and an event passes a level that is not
above its severity. Levels are chosen by name, by number or by a truth value that counts as 0 or 1.
-/

namespace Checkup.Log

inductive Severity where
  | debug
  | info
  | warning
  | error
  | critical
deriving DecidableEq, Repr, Inhabited

def Severity.name : Severity → String
  | debug => "debug"
  | info => "info"
  | warning => "warning"
  | error => "error"
  | critical => "critical"

def Severity.rank : Severity → Int
  | debug => 10
  | info => 20
  | warning => 30
  | error => 40
  | critical => 50

inductive Level where
  | number (n : Int)
  | truth (b : Bool)
deriving DecidableEq, Repr, Inhabited

def Level.rank : Level → Int
  | number n => n
  | truth b => if b then 1 else 0

/-- An event passes a level that is not above its severity. -/
def Level.admits (level : Level) (severity : Severity) : Bool :=
  decide (level.rank ≤ severity.rank)

/-- The level of a log that nobody has configured. -/
def Level.unconfigured : Level := .number 30

/-- A level as a caller gives it. -/
inductive LevelChoice where
  | named (name : String)
  | exact (level : Level)
deriving DecidableEq, Repr

def levelNames : List (String × Int) :=
  [("CRITICAL", 50), ("FATAL", 50), ("ERROR", 40), ("WARN", 30), ("WARNING", 30), ("INFO", 20),
    ("DEBUG", 10), ("NOTSET", 0)]

/-- The name of the level that admits everything; messages do not offer it. -/
def unsetName : String := "NOTSET"

/-- The names of levels that messages offer. -/
def offeredNames : List String :=
  (levelNames.map (·.1)).filter (· != unsetName)

/-- The level of a name, whatever its case and the white space around it. -/
def levelOfName? (name : String) : Option Level :=
  (Keyed.get? levelNames (Text.upper (Text.strip name))).map .number

def LevelChoice.resolve : LevelChoice → Except Fault Level
  | exact level => .ok level
  | named name =>
    match levelOfName? name with
    | some level => .ok level
    | none => .error (.unusable "log_level" ("unknown level " ++ Text.quoted name ++
        ", expected one of " ++ String.intercalate ", " offeredNames))

end Checkup.Log
