import Checkup.Command.Invocation
import Checkup.Report.Printed
import Checkup.Session.Defaults
import Checkup.Suite.Local
import Checkup.Suite.Reference

/-!
# Running commands

A command ends with an exit code: 0 for success, 1 for checks that failed, 2 for input that cannot be
used. A fault that nobody handles also gives the code 1.
-/

namespace Checkup.Command

structure Exit where
  code : Int
  output : String := ""
  /-- What the user is told about input that cannot be used. -/
  complaint : Option String := none
  /-- The fault that nobody has handled. -/
  fault : Option Fault := none

namespace Exit

def unusable (complaint : String) : Exit :=
  { code := 2, complaint := some ("Erro: " ++ complaint ++ "\n") }

/-- The exit code that a fault asks for which ends the program. -/
def codeOfDetails : List Value → Int
  | [] => 0
  | [.null] => 0
  | [.int code] => code
  | [.flag b] => if b then 1 else 0
  | _ => 1

/-- The number of the system's fault of writing to somebody who no longer reads. -/
def brokenPipe : Int := 32

/-- The details of the system's fault have its number and a reason. -/
def isBrokenPipe : List Value → Bool
  | .int number :: _ :: _ => number == brokenPipe
  | _ => false

/-- The codes for faults that are not faults of the command, by their families; the first one counts.
A broken pipe, an interrupt and an end of the input or of the program end a command, and so do the
problems that the reader of the command line tells in its own words. -/
def familyCodes (details : List Value) : List (Family × Option Int) :=
  [(.endOfInput, some 1),
    (.interrupt, some 130),
    (.usageProblem, some 2),
    (.commandProblem, some 1),
    (.system, if isBrokenPipe details then some 1 else none),
    (.commandExit, some (codeOfDetails details)),
    (.commandAbort, some 1),
    (.programExit, some (codeOfDetails details))]

def ofFault : Fault → Exit
  | .foreign kind details =>
    match (familyCodes details).findSome? fun (family, code) =>
        if kind.isA family then code else none with
    | some code => { code }
    | none => { code := 1, fault := some (.foreign kind details) }
  | fault => { code := 1, fault := some fault }

end Exit

/-- A choice that is not empty. -/
def chosen (choice : Option String) : Option String :=
  choice.filter fun s => !s.isEmpty

namespace CheckRequest

/-- Sets up the log, the configuration and the suite of a check. -/
def prepare (request : CheckRequest) (catalogue : Catalogue) (settings : EngineSettings) :
    Action Engine := do
  let _ ← Action.configureLog
    { level := .named ((chosen request.logLevel).getD settings.logLevel)
      style := if settings.logJson then .record else .plain }
  let configuration ← Action.configurationOfSeconds (request.retryWindow.map .real)
    (request.timeout.map .real)
  let categories ← match chosen request.suite with
    | some path => SuiteReference.load catalogue path
    | none => LocalTargets.suite { urls := request.urls, hosts := request.hosts }
  pure { categories, configuration }

/-- Runs the checks of an engine and renders the report. -/
def execute (request : CheckRequest) (engine : Engine) (limit : Nat) : Action Exit := do
  let reporter ← engine.report limit
  let output ← reporter.render request.output
  pure { code := if reporter.standing.success then 0 else 1, output }

/-- Runs a check. The output format is looked at first; what the user has configured wrongly is
told as a complaint. -/
def run (request : CheckRequest) (catalogue : Catalogue) (limit : Nat) : Action Exit := do
  match Output.ofName? request.output with
  | none =>
    pure (.unusable ("formato invalido " ++ Text.quoted request.output ++
      " (" ++ Output.names ++ ")"))
  | some _ => do
    let settings ← Action.lift (EngineSettings.read (← Action.look (·.host.environment)))
    match ← Action.settle (request.prepare catalogue settings) with
    | .ok engine => request.execute engine limit
    | .error fault =>
      if fault.isConfiguration then pure (.unusable fault.message) else Action.raise fault

end CheckRequest

def run (catalogue : Catalogue) (args : List String) (session : Session)
    (limit : Nat := Engine.attemptLimit) : Exit × Session :=
  match Invocation.read args with
  | .version => ({ code := 0, output := "healthcheck version " ++ version ++ "\n" }, session)
  | .help => ({ code := 0 }, session)
  | .usageError => ({ code := 2 }, session)
  | .check request =>
    match request.run catalogue limit session with
    | (.ok ending, after) => (ending, after)
    | (.error fault, after) => (.ofFault fault, after)

end Checkup.Command
