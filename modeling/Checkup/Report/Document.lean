import Checkup.Json.Writer
import Checkup.Report.Reporter

/-!
# The structured report

The final results stand in groups of neighbours of one category. An entry names the fault of its
check, and where to find help if there is a fault.
-/

namespace Checkup

structure ReportEntry where
  description : String
  hint : Option String
  error : Option String
  status : Status
deriving DecidableEq, Repr

/-- The entries of neighbouring results of one category. -/
structure ReportGroup where
  category : String
  entries : List ReportEntry
deriving DecidableEq, Repr

structure Document where
  verdict : Verdict
  groups : List ReportGroup
deriving DecidableEq, Repr

def ReportEntry.ofResult (result : CheckResult) : ReportEntry :=
  { description := result.description
    hint := if result.fault.isSome && !result.hintUrl.isEmpty then some result.hintUrl else none
    error := result.fault.map Fault.message
    status := result.status }

/-- Puts an entry in front of groups; it joins the first group if that has the same category. -/
def ReportGroup.consEntry (category : String) (entry : ReportEntry) :
    List ReportGroup → List ReportGroup
  | [] => [⟨category, [entry]⟩]
  | group :: rest =>
    if group.category = category then ⟨category, entry :: group.entries⟩ :: rest
    else ⟨category, [entry]⟩ :: group :: rest

def ReportGroup.ofResults : List CheckResult → List ReportGroup
  | [] => []
  | result :: rest => consEntry result.category (.ofResult result) (ofResults rest)

def ReportGroup.allEntries (groups : List ReportGroup) : List ReportEntry :=
  groups.flatMap (·.entries)

@[simp] theorem ReportGroup.allEntries_consEntry (category : String) (entry : ReportEntry)
    (groups : List ReportGroup) :
    allEntries (consEntry category entry groups) = entry :: allEntries groups := by
  cases groups with
  | nil => rfl
  | cons group rest =>
    by_cases same : group.category = category <;> simp [consEntry, allEntries, same]

/-- Grouping keeps every result, in order. -/
@[simp] theorem ReportGroup.allEntries_ofResults (results : List CheckResult) :
    allEntries (ofResults results) = results.map ReportEntry.ofResult := by
  induction results with
  | nil => rfl
  | cons result rest inductionHypothesis => simp [ofResults, inductionHypothesis]

namespace Document

def ofReporter (reporter : Reporter) : Document :=
  { verdict := reporter.verdict
    groups := ReportGroup.ofResults reporter.final }

/-- A field that is only there if it has a value. -/
def optionalField (name : String) (text : Option String) : List (String × Value) :=
  match text with
  | some text => [(name, .text text)]
  | none => []

def entryValue (entry : ReportEntry) : Value :=
  .record ([("description", .text entry.description)] ++ optionalField "hint" entry.hint ++
    optionalField "error" entry.error ++ [("result", .text entry.status.name)])

def groupValue (group : ReportGroup) : Value :=
  .record [("categoryName", .text group.category),
    ("checks", .list (group.entries.map entryValue))]

def toValue (document : Document) : Value :=
  .record [("success", .flag document.verdict.success),
    ("warning", .flag document.verdict.warning),
    ("categories", .list (document.groups.map groupValue))]

/-- A report in JSON, compact or with a number of spaces for each level. -/
def toJson (indent : Option Int) (document : Document) : Except Fault String :=
  match indent with
  | none => .ok (Json.write none document.toValue)
  | some (.ofNat width) => .ok (Json.write (some width) document.toValue)
  | some (.negSucc _) => .error (.overflow "can't convert negative int to unsigned")

end Document

end Checkup
