import Checkup.Fault.Kind
import Checkup.Literal
import Checkup.Text.Letter
import Checkup.Time.Duration

/-!
# Faults

A fault is what a probe, a service of the host or this library signals when something goes wrong.
The faults of this library are cases of their own; every other fault has its kind and the details it
was raised with. Whoever handles faults handles those of some family.
-/

namespace Checkup

/-- An object of a cluster, identified by kind, group and name. -/
structure Resource where
  kind : String
  name : String
  group : String := ""
deriving DecidableEq, Repr

def Resource.toText (resource : Resource) : String :=
  let groupKind := if resource.group.isEmpty then resource.kind
    else resource.kind ++ "." ++ resource.group
  Text.lower groupKind ++ "/" ++ resource.name

inductive SettingType where
  | real
  | whole
  | truth
deriving DecidableEq, Repr

structure SettingProblem where
  field : String
  expected : SettingType
deriving DecidableEq, Repr

def SettingType.problem : SettingType → String
  | real => "float_parsing"
  | whole => "int_parsing"
  | truth => "bool_parsing"

inductive Fault where
  /-- A check failed, for a reason that has no kind of its own. -/
  | check (details : List Value)
  /-- A check of a category failed, with the fault that caused it. -/
  | inCategory (category : String) (cause : Fault)
  /-- A check failed and will be tried again. -/
  | pending (details : List Value)
  /-- The scope of an operation was cancelled. -/
  | cancelled
  /-- The deadline of an operation has passed. -/
  | deadlineExceeded
  /-- Something that the user configured cannot be used. -/
  | configuration (field reason : Value)
  /-- Resources were found that should not exist. -/
  | resources (name : String) (found : List Resource)
  /-- Settings of the environment cannot be read. -/
  | settings (schema : String) (problems : List SettingProblem)
  /-- A fault of another kind, with the details it was raised with. -/
  | foreign (kind : Kind) (details : List Value)
deriving Inhabited, Repr

namespace Fault

def failed (reason : String) : Fault := check [.text reason]

def unusable (field reason : String) : Fault := configuration (.text field) (.text reason)

/-- An argument has the right type and an impossible value. -/
def badValue (message : String) : Fault := foreign "ValueError" [.text message]

/-- An argument has the wrong type. -/
def badType (message : String) : Fault := foreign "TypeError" [.text message]

def overflow (message : String) : Fault := foreign "OverflowError" [.text message]

def missingKey (name : String) : Fault := foreign "KeyError" [.text name]

def ofTime : TimeFault → Fault
  | .notANumber => badValue "cannot convert float NaN to integer"
  | .infinite => overflow "cannot convert float infinity to integer"
  | .numberTooLarge => overflow "int too large to convert to float"
  | .uncountableDays => overflow "Python int too large to convert to C int"
  | .tooManyDays days =>
    overflow ("days=" ++ Number.showInt days ++ "; must have magnitude <= 999999999")
  | .dateOutOfRange => overflow "date value out of range"

def kind : Fault → String
  | check _ => "HealthCheckError"
  | inCategory _ _ => "CategoryError"
  | pending _ => "CheckPendingError"
  | cancelled => "CancelledError"
  | deadlineExceeded => "DeadlineExceededError"
  | configuration _ _ => "InvalidConfigurationError"
  | resources _ _ => "ResourceError"
  | settings _ _ => "ValidationError"
  | foreign kind _ => kind.name

/-- A fault is handled by whoever handles the faults of a family. -/
def isA (fault : Fault) (family : Family) : Bool :=
  match fault with
  | configuration _ _ => Family.configuration.lineage.contains family
  | settings _ _ => Family.ordinary.lineage.contains family
  | foreign kind _ => kind.isA family
  | _ => Family.own.lineage.contains family

/-- A fault is ordinary when a check that raises it has merely failed. -/
def isOrdinary (fault : Fault) : Bool := fault.isA .ordinary

def isConfiguration (fault : Fault) : Bool := fault.isA .configuration

def isOwn (fault : Fault) : Bool := fault.isA .own

/-- The kinds that the operating system's error numbers stand for. -/
def kindOfErrorNumber : List (Int × String) :=
  [(1, "PermissionError"), (2, "FileNotFoundError"), (3, "ProcessLookupError"),
    (4, "InterruptedError"), (10, "ChildProcessError"), (11, "BlockingIOError"),
    (13, "PermissionError"), (17, "FileExistsError"), (20, "NotADirectoryError"),
    (21, "IsADirectoryError"), (32, "BrokenPipeError"), (103, "ConnectionAbortedError"),
    (104, "ConnectionResetError"), (108, "BrokenPipeError"), (110, "TimeoutError"),
    (111, "ConnectionRefusedError"), (114, "BlockingIOError"), (115, "BlockingIOError")]

/-- A fault of a named kind. A fault of the operating system with an error number and more details
takes the kind that the number stands for. -/
def ofKind (kind : String) (details : List Value) : Fault :=
  match kind, details with
  | "OSError", .int number :: _ :: _ =>
    foreign (Kind.ofName (((kindOfErrorNumber.find? (·.1 == number)).map (·.2)).getD kind)) details
  | _, _ => foreign kind details

def plainMessage : List Value → String
  | [] => ""
  | [detail] => detail.shown
  | details => Value.group details

def foreignMessage (kind : Kind) (details : List Value) : String :=
  if kind.isA .missingKey then
    match details with
    | [detail] => detail.literal
    | _ => plainMessage details
  else if kind.isA .system then
    match details with
    | [number, reason] => "[Errno " ++ number.shown ++ "] " ++ reason.shown
    | [number, reason, file] =>
      "[Errno " ++ number.shown ++ "] " ++ reason.shown ++ ": " ++ file.literal
    | _ => plainMessage details
  else plainMessage details

/-- What a check that will be tried again is said to be doing. -/
def waiting : String := "waiting for check to complete"

/-- The message of a fault. A fault in a category has the message of its cause. -/
def message : Fault → String
  | check details => plainMessage details
  | inCategory _ cause => cause.message
  | pending [] => waiting
  | pending details => plainMessage details
  | cancelled => "context canceled"
  | deadlineExceeded => "context deadline exceeded"
  | configuration field reason =>
    "Invalid configuration for " ++ field.shown ++ ": " ++ reason.shown
  | resources name found =>
    name ++ " found but should not exist: " ++ String.intercalate " " (found.map (·.name))
  | settings schema problems =>
    Number.showInt problems.length ++ " validation error" ++
      (if problems.length = 1 then "" else "s") ++ " for " ++ schema ++
      String.join (problems.map fun problem =>
        "\n" ++ problem.field ++ "\n  " ++ problem.expected.problem)
  | foreign kind details => foreignMessage kind details

@[simp] theorem message_inCategory (category : String) (cause : Fault) :
    (inCategory category cause).message = cause.message := rfl

end Fault

/-- Two answers in a row give a value if both do. -/
theorem bind_eq_ok {first : Except Fault α} {next : α → Except Fault β} {result : β} :
    (first >>= next) = .ok result ↔ ∃ value, first = .ok value ∧ next value = .ok result := by
  cases first <;> simp [bind, Except.bind]

/-- Two answers in a row end in the fault of the first one, or else in that of the second. -/
theorem bind_eq_error {first : Except Fault α} {next : α → Except Fault β} {fault : Fault} :
    (first >>= next) = .error fault ↔
      first = .error fault ∨ ∃ value, first = .ok value ∧ next value = .error fault := by
  cases first <;> simp [bind, Except.bind]

end Checkup
