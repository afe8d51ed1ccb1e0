import Checkup.Report.Document

/-!
# The printed report

People read a report in one of three formats: the table, the wide table, which shows where to find
help also for checks that passed, and the short table, which leaves out the checks that passed. Every
format ends in a line with the verdict.
-/

namespace Checkup

inductive Colour where
  | red
  | green
  | yellow
deriving DecidableEq, Repr

def Colour.code : Colour → String
  | red => "31"
  | green => "32"
  | yellow => "33"

def escapeSequence (code : String) : String := "\x1b[" ++ code ++ "m"

def coloured (colour : Colour) (bold : Bool) (s : String) : String :=
  escapeSequence colour.code ++ (if bold then escapeSequence "1" else "") ++ s ++ escapeSequence "0"

def Status.icon : Status → String
  | success => coloured .green true "√"
  | warning => coloured .yellow true "‼"
  | error => coloured .red true "×"

inductive Format where
  | table
  | wide
  | short
deriving DecidableEq, Repr

namespace Format

/-- The format of a name; a report is a table unless the name says otherwise. -/
def named (name : String) : Format :=
  if name == "wide" then wide else if name == "short" then short else table

/-- A result is shown unless it is a success in the short format. -/
def shows (format : Format) (result : CheckResult) : Bool :=
  !(format == short && result.fault.isNone)

def headLine (result : CheckResult) : String :=
  "[" ++ result.status.icon ++ "] " ++ result.category ++ "/" ++ result.description ++ "\n"

def faultLine (result : CheckResult) : String :=
  match result.fault with
  | some fault => coloured .red false ("\tErr: " ++ fault.message ++ "\n")
  | none => ""

/-- The line that tells where to find help. -/
def hintLine (format : Format) (result : CheckResult) : String :=
  if !result.hintUrl.isEmpty && (result.fault.isSome || format == wide) then
    "\tSee: " ++ result.hintUrl ++ "\n"
  else ""

def lines (format : Format) (result : CheckResult) : String :=
  if format.shows result then headLine result ++ faultLine result ++ format.hintLine result
  else ""

end Format

def Verdict.line (verdict : Verdict) : String :=
  (if verdict.success && !verdict.warning then coloured .green true "Ok"
    else if verdict.success then coloured .yellow true "Warning"
    else coloured .red true "Error") ++ "\n"

namespace Reporter

def print (reporter : Reporter) (format : Format) : String :=
  String.join (reporter.final.map format.lines) ++ reporter.verdict.line

end Reporter

inductive Output where
  | printed (format : Format)
  | json
deriving DecidableEq, Repr

namespace Output

def byName : List (String × Output) :=
  [("table", .printed .table), ("wide", .printed .wide), ("short", .printed .short),
    ("json", .json)]

/-- The names of the formats, in the order in which messages list them. -/
def names : String := String.intercalate ", " (byName.map (·.1))

def ofName? (name : String) : Option Output :=
  Keyed.get? byName name

def name (output : Output) : String :=
  ((byName.find? (·.2 == output)).map (·.1)).getD ""

def text (output : Output) (reporter : Reporter) : String :=
  match output with
  | printed format => reporter.print format
  | json => Json.write none (Document.ofReporter reporter).toValue ++ "\n"

end Output

/-- Renders a report in a named format and notes it in the log. -/
def Reporter.render (reporter : Reporter) (name : String) : Action String :=
  match Output.ofName? name with
  | none => Action.raise (.unusable "output"
      ("unsupported format " ++ Text.quoted name ++ ", expected one of " ++ Output.names))
  | some output => do
    Action.log .debug "health_report_rendered"
      [("output", .text name), ("results", .int reporter.results.length)]
    pure (output.text reporter)

end Checkup
