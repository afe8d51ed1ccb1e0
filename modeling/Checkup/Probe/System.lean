import Checkup.Checker
import Checkup.Probe.Path

/-!
# Probes of the machine

Four probes look at the machine itself and at the shared store: the version of the runtime, the free
space of a disk, a variable of the environment, and a name that an earlier check should have stored.
-/

namespace Checkup.Machine

/-- Reads a version: numbers with points between them. -/
def readVersion (version : String) : Except Fault (List Int) :=
  match (version.toList.splitOn '.').mapM Number.readInt? with
  | some numbers => .ok numbers
  | none => .error (.unusable "min_python_version"
      ("expected dotted numbers like 3.11, got " ++ Text.quoted version))

/-- Tells whether a running version is below a required one. The parts are compared up to the first
two that differ; a stage of a release cannot be compared with a number. -/
def isOlder : List Value → List Int → Except Fault Bool
  | _, [] => .ok false
  | [], _ :: _ => .ok true
  | .int running :: later, required :: more =>
    if running = required then isOlder later more else .ok (decide (running < required))
  | .text _ :: _, _ :: _ =>
    .error (.badType "'<' not supported between instances of 'str' and 'int'")
  | other :: _, _ :: _ =>
    .error (.badType
      ("'<' not supported between instances of '" ++ other.kind ++ "' and 'int'"))

/-- The first three parts of a version, with points between them. -/
def releaseText (version : List Value) : String :=
  String.intercalate "." ((version.take 3).map Value.shown)

def versionKey : String := "python_version"

def compareVersion (minimum : String) (required : List Int) : Probe := fun _ => do
  let version ← Action.look (·.host.runtimeVersion)
  let running := releaseText version
  Action.record versionKey (.text running)
  if ← Action.lift (isOlder (version.take required.length) required) then
    pure (.outcome (.failed ("Python " ++ running ++ " is older than required " ++ minimum)))
  else pure (.outcome (.verbose ("Python " ++ running)))

def versionChecker (minimum : String) (policy : Policy) : Except Fault Checker := do
  let required ← readVersion minimum
  .ok { description := "python is at least " ++ minimum
        hintAnchor := "python-version"
        policy
        probe := some (compareVersion minimum required) }

def gibibyte : Nat := 1024 ^ 3

/-- A number of bytes in gibibytes with two places. -/
def gibibytes (bytes : Int) : Except Fault String :=
  match Number.nearest? bytes gibibyte with
  | some size => .ok (Number.showFixed 2 size ++ " GB")
  | none => .error (.overflow "integer division result too large for a float")

/-- Compares the free space of a disk with what is needed. -/
def measureSpace (path : String) (needed : Int) : Probe := fun _ => do
  let answer ← Action.settle <|
    Action.consult (.freeSpace path) (.freeSpace path) fun machine => machine.freeSpace path
  match answer with
  | .error fault =>
    if fault.isA .missingFile then pure (.outcome (.failed (path ++ " does not exist")))
    else Action.raise fault
  | .ok free =>
    let shown ← Action.lift (gibibytes free)
    if free < needed then
      let least ← Action.lift (gibibytes needed)
      pure (.outcome (.failed
        ("only " ++ shown ++ " free on " ++ path ++ ", need " ++ least)))
    else pure (.outcome (.verbose (shown ++ " free")))

def spaceChecker (path : String) (needed : Int) (policy : Policy) : Checker :=
  { description := "enough free disk space on " ++ path
    hintAnchor := "disk-space"
    policy
    probe := some (measureSpace path needed) }

def environmentKey (name : String) : String := "env:" ++ name

def lookForVariable (name : String) (required : Bool) : Probe := fun _ => do
  match ← Action.look (·.host.lookup? name) with
  | none =>
    if required then
      pure (.outcome (.failed ("environment variable " ++ name ++ " is not set")))
    else pure (.outcome (.skip (name ++ " not set")))
  | some content =>
    if (Text.strip content).isEmpty then
      pure (.outcome (.failed ("environment variable " ++ name ++ " is empty")))
    else
      Action.record (environmentKey name) (.text content)
      pure (.outcome .ok)

/-- Checks that a variable of the environment is set. A variable that is not required may be
missing. -/
def variableChecker (name : String) (required : Bool) (policy : Policy) : Checker :=
  { description := name ++ " is set"
    hintAnchor := "env-vars"
    policy
    probe := some (lookForVariable name required) }

def lookForKey (key : String) : Probe := fun _ => do
  if ← Action.look (·.store.contains key) then pure (.outcome .ok)
  else pure (.outcome (.failed (key ++ " was not recorded by a previous check")))

def keyChecker (key : String) (description : Option String) (policy : Policy) : Checker :=
  { description := match description with
      | some text => if text.isEmpty then key ++ " is available" else text
      | none => key ++ " is available"
    hintAnchor := "state"
    policy
    probe := some (lookForKey key) }

end Checkup.Machine
