import Checkup.Command.Arguments

/-!
# Invocations

What a command line asks for: the version, the help, or a check of a suite. Everything else is a
usage error.
-/

namespace Checkup.Command

inductive GlobalKey where
  | version
  | help
deriving DecidableEq, Repr

def globalOptions : List (OptionSpec GlobalKey) :=
  [{ key := .version, long := "--version", short := some 'v', takesValue := false },
    { key := .help, long := "--help", takesValue := false }]

inductive CheckKey where
  | suite
  | url
  | host
  | output
  | timeout
  | retryWindow
  | logLevel
  | help
deriving DecidableEq, Repr

def checkOptions : List (OptionSpec CheckKey) :=
  [{ key := .suite, long := "--suite", short := some 's' },
    { key := .url, long := "--url", short := some 'u' },
    { key := .host, long := "--host" },
    { key := .output, long := "--output", short := some 'o' },
    { key := .timeout, long := "--timeout" },
    { key := .retryWindow, long := "--retry-window" },
    { key := .logLevel, long := "--log-level" },
    { key := .help, long := "--help", takesValue := false }]

structure CheckRequest where
  suite : Option String := none
  urls : List String := []
  hosts : List String := []
  output : String := "table"
  timeout : Option Float := none
  retryWindow : Option Float := none
  logLevel : Option String := none
deriving Repr

inductive Invocation where
  | version
  | help
  | usageError
  | check (request : CheckRequest)
deriving Repr

/-- Reads the arguments of the command that checks. Help is given even if other arguments are
wrong, as long as all options are known and have their values. -/
def readCheck (args : List String) : Invocation :=
  match parse? checkOptions true args with
  | none => .usageError
  | some parsed =>
    if parsed.has .help then .help
    else
      match parsed.real? .timeout, parsed.real? .retryWindow, parsed.others with
      | some timeout, some retryWindow, [] =>
        .check
          { suite := parsed.value? .suite
            urls := parsed.values .url
            hosts := parsed.values .host
            output := (parsed.value? .output).getD "table"
            timeout
            retryWindow
            logLevel := parsed.value? .logLevel }
      | _, _, _ => .usageError

/-- Reads a command line. The first of the options for version and help counts. -/
def Invocation.read (args : List String) : Invocation :=
  match parse? globalOptions false args with
  | none => .usageError
  | some parsed =>
    match parsed.given, parsed.others with
    | ⟨.version, _⟩ :: _, _ => .version
    | ⟨.help, _⟩ :: _, _ => .help
    | [], command :: rest => if command == "check" then readCheck rest else .usageError
    | [], [] => .usageError

end Checkup.Command
