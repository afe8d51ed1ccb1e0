import Checkup.Proofs.Probe.Hearing
import Checkup.Report.Printed

/-!
# Views of one report

All formats show one report. Main statement: provisional results are invisible in every format, also
to a reporter that is filled by telling the results again; the short format is the table of the checks
that have failed; and the table is the wide table without the help on checks that passed.
-/

namespace Checkup

/-- A list of results with provisional ones inserted in any places. -/
inductive CheckResult.Interspersed : List CheckResult → List CheckResult → Prop where
  | nil : Interspersed [] []
  | keep (result : CheckResult) {results more : List CheckResult}
      (interspersed : Interspersed results more) : Interspersed (result :: results) (result :: more)
  | insert {echo : CheckResult} (provisional : echo.retry = true) {results more : List CheckResult}
      (interspersed : Interspersed results more) : Interspersed results (echo :: more)

/-- Provisional results that are inserted are no final ones. -/
theorem CheckResult.Interspersed.filter_eq {results more : List CheckResult}
    (interspersed : Interspersed results more) :
    more.filter (fun result => !result.retry) = results.filter fun result => !result.retry := by
  induction interspersed with
  | nil => rfl
  | keep result _ inductionHypothesis =>
    rw [List.filter_cons, List.filter_cons, inductionHypothesis]
  | insert provisional _ inductionHypothesis =>
    rw [List.filter_cons, provisional, inductionHypothesis]
    rfl

/-- An observer keeps a reporter in the session and fills it with the results that it is told. -/
def Observer.Fills (observer : Observer) (kept : Session → Reporter) : Prop :=
  ∀ result session, ∃ after, observer result session = (.ok (), after) ∧
    kept after = (kept session).observe result

/-- Results that are told one after the other are kept in that order. -/
theorem Observer.Fills.exists_forM_eq {observer : Observer} {kept : Session → Reporter}
    (fills : observer.Fills kept) (results : List CheckResult) (session : Session) :
    ∃ after, results.forM observer session = (.ok (), after) ∧
      (kept after).results = (kept session).results ++ results := by
  induction results generalizing session with
  | nil => exact ⟨session, rfl, (List.append_nil _).symm⟩
  | cons result later inductionHypothesis =>
    obtain ⟨between, told, filled⟩ := fills result session
    obtain ⟨after, toldLater, filledLater⟩ := inductionHypothesis between
    refine ⟨after, ?_, ?_⟩
    · exact (Action.bind_of_ok told).trans toldLater
    · rw [filledLater, filled, Reporter.observe, List.append_assoc]
      rfl

namespace Reporter

/-- Two reporters look the same in every format. -/
structure LooksLike (reporter other : Reporter) : Prop where
  print : ∀ format, reporter.print format = other.print format
  document : Document.ofReporter reporter = Document.ofReporter other
  text : ∀ output : Output, output.text reporter = output.text other
  render : ∀ name session, (reporter.render name session).1 = (other.render name session).1

/-- What a reporter shows depends on its final results only. -/
theorem looksLike_of_final_eq {reporter other : Reporter} (same : reporter.final = other.final) :
    reporter.LooksLike other := by
  have verdict : reporter.verdict = other.verdict := congrArg (List.foldl Verdict.take {}) same
  have printed : ∀ format, reporter.print format = other.print format := by
    intro format
    rw [print, print, same, verdict]
  have document : Document.ofReporter reporter = Document.ofReporter other := by
    rw [Document.ofReporter, Document.ofReporter, same, verdict]
  have text : ∀ output : Output, output.text reporter = output.text other := by
    intro output
    cases output with
    | printed format => exact printed format
    | json => rw [Output.text, Output.text, document]
  refine ⟨printed, document, text, ?_⟩
  intro name session
  cases known : Output.ofName? name with
  | none => simp only [render, known, Action.raise]
  | some output =>
    simp only [render, known, bind, Action.log, Action.change, pure, text output]

def failing (reporter : Reporter) : List CheckResult :=
  reporter.results.filter fun result => !result.retry && result.fault.isSome

end Reporter

inductive ReportLine where
  | head (result : CheckResult)
  | fault (cause : Fault)
  | hint (result : CheckResult)

namespace ReportLine

def ofResult (result : CheckResult) : List ReportLine :=
  .head result :: (result.fault.toList.map .fault ++
    if result.hintUrl.isEmpty then [] else [.hint result])

def text : ReportLine → String
  | head result => Format.headLine result
  | fault cause => coloured .red false ("\tErr: " ++ cause.message ++ "\n")
  | hint result => "\tSee: " ++ result.hintUrl ++ "\n"

/-- The line tells where to find help on a check that passed. -/
def isSpare : ReportLine → Bool
  | hint result => result.fault.isNone
  | _ => false

end ReportLine

namespace Format

theorem lines_wide (result : CheckResult) :
    wide.lines result = String.join ((ReportLine.ofResult result).map ReportLine.text) := by
  cases fault : result.fault <;> cases bare : result.hintUrl.isEmpty <;>
    simp [lines, shows, faultLine, hintLine, ReportLine.ofResult, ReportLine.text, fault, bare,
      String.append_assoc]

theorem lines_table (result : CheckResult) :
    table.lines result =
      String.join (((ReportLine.ofResult result).filter (!·.isSpare)).map ReportLine.text) := by
  cases fault : result.fault <;> cases bare : result.hintUrl.isEmpty <;>
    simp [lines, shows, faultLine, hintLine, ReportLine.ofResult, ReportLine.text,
      ReportLine.isSpare, fault, bare, String.append_assoc]

/-- The short format shows the failures alone, as the table does. -/
theorem lines_short (result : CheckResult) :
    short.lines result = if result.fault.isSome then table.lines result else "" := by
  cases fault : result.fault <;> simp [lines, shows, faultLine, hintLine, fault]

theorem lines_wide_eq_table {result : CheckResult}
    (plain : result.fault = none → result.hintUrl = "") : wide.lines result = table.lines result := by
  cases fault : result.fault with
  | none => simp [lines, shows, hintLine, plain fault]
  | some cause => simp [lines, shows, hintLine, fault]

end Format

/-- The texts of some items, one after the other: the others count as empty texts. -/
theorem join_map_filter (keeps : α → Bool) (text : α → String) (items : List α) :
    String.join ((items.filter keeps).map text) =
      String.join (items.map fun item => if keeps item then text item else "") := by
  induction items with
  | nil => rfl
  | cons item later inductionHypothesis =>
    cases kept : keeps item <;> simp [kept, inductionHypothesis]

theorem join_map_flatMap (parts : α → List β) (text : β → String) (items : List α) :
    String.join ((items.flatMap parts).map text) =
      String.join (items.map fun item => String.join ((parts item).map text)) := by
  induction items with
  | nil => rfl
  | cons item later inductionHypothesis =>
    rw [List.flatMap_cons, List.map_append, String.join_append, inductionHypothesis, List.map_cons,
      String.join_cons]

namespace Reporter

theorem final_failing (reporter : Reporter) :
    ({ results := reporter.failing } : Reporter).final =
      reporter.final.filter fun result => result.fault.isSome := by
  simp only [final, failing, List.filter_filter]
  congr 1
  funext result
  cases result.retry <;> cases result.fault.isSome <;> rfl

/-- The verdict depends on the failures only. -/
theorem verdict_failing (reporter : Reporter) :
    ({ results := reporter.failing } : Reporter).verdict = reporter.verdict := by
  rw [verdict, verdict, final_failing, List.foldl_filter]
  congr 1
  funext verdict result
  cases fault : result.fault.isSome <;> simp [Verdict.take, fault]

/-- The short format is the table of the failures. -/
theorem print_short (reporter : Reporter) :
    reporter.print .short = ({ results := reporter.failing } : Reporter).print .table := by
  rw [print, print, verdict_failing, final_failing, join_map_filter, funext Format.lines_short]

/-- The lines of the wide table, in order. -/
def wideLines (reporter : Reporter) : List ReportLine :=
  reporter.final.flatMap ReportLine.ofResult

theorem print_wide (reporter : Reporter) :
    reporter.print .wide =
      String.join (reporter.wideLines.map ReportLine.text) ++ reporter.verdict.line := by
  rw [print, wideLines, join_map_flatMap, funext Format.lines_wide]

/-- The table is the wide table without the lines that are spare. -/
theorem print_table (reporter : Reporter) :
    reporter.print .table =
      String.join ((reporter.wideLines.filter fun line => !line.isSpare).map ReportLine.text) ++
        reporter.verdict.line := by
  rw [print, wideLines, List.filter_flatMap, join_map_flatMap, funext Format.lines_table]

theorem print_wide_eq_table {reporter : Reporter}
    (plain : ∀ result ∈ reporter.results, result.retry = false → result.fault = none →
      result.hintUrl = "") :
    reporter.print .wide = reporter.print .table := by
  have same : reporter.final.map Format.wide.lines = reporter.final.map Format.table.lines := by
    refine List.map_congr_left ?_
    intro result member
    obtain ⟨told, final⟩ := List.mem_filter.mp member
    exact Format.lines_wide_eq_table (plain result told (by simpa using final))
  rw [print, print, same]

/-- All formats are views of one report. Provisional results are invisible in each of them, wherever
they are inserted, and a second reporter that is filled by telling the results again looks the same.
The short format is the table of the failures alone, verdict included. The table is the wide table
without exactly the lines that tell where to find help on checks that passed; the two are equal if
there are none. -/
theorem views_agree (reporter : Reporter) :
    (∀ other : Reporter, CheckResult.Interspersed reporter.results other.results →
        other.LooksLike reporter) ∧
      reporter.LooksLike { results := reporter.results.filter fun result => !result.retry } ∧
      (∀ (observer : Observer) (kept : Session → Reporter) (session : Session),
        observer.Fills kept → (kept session).results = [] →
          ∃ after, reporter.replay observer session = (.ok reporter.verdict, after) ∧
            (kept after).LooksLike reporter) ∧
      reporter.print .short =
        ({ results := reporter.results.filter fun result =>
            !result.retry && result.fault.isSome } : Reporter).print .table ∧
      ((∀ result ∈ reporter.results, result.retry = false → result.fault = none →
          result.hintUrl = "") →
        reporter.print .wide = reporter.print .table) ∧
      ∃ lines : List ReportLine,
        lines = (reporter.results.filter fun result => !result.retry).flatMap ReportLine.ofResult ∧
          reporter.print .wide =
            String.join (lines.map ReportLine.text) ++ reporter.verdict.line ∧
          reporter.print .table =
            String.join ((lines.filter fun line => !line.isSpare).map ReportLine.text) ++
              reporter.verdict.line := by
  refine ⟨?_, ?_, ?_, reporter.print_short, print_wide_eq_table, reporter.wideLines, rfl,
    reporter.print_wide, reporter.print_table⟩
  · intro other interspersed
    exact looksLike_of_final_eq interspersed.filter_eq
  · refine looksLike_of_final_eq ?_
    simp only [final, List.filter_filter, Bool.and_self]
  · intro observer kept session fills empty
    obtain ⟨after, told, filled⟩ := fills.exists_forM_eq reporter.final session
    refine ⟨after, ?_, looksLike_of_final_eq ?_⟩
    · exact Action.bind_of_ok told
    · rw [final, filled, empty, List.nil_append]
      simp only [final, List.filter_filter, Bool.and_self]

end Reporter

/-- The results in the journal, the oldest first, as a reporter keeps them. -/
def Session.heard (session : Session) : Reporter :=
  { results := session.journal.reverse.filterMap fun
      | .observed result _ => some result
      | _ => none }

/-- A listener that only listens fills the reporter that the journal is. -/
theorem Listener.observer_fills (script : Nat) :
    Observer.Fills (({} : Listener).observer script) Session.heard := by
  intro result session
  refine ⟨_, rfl, ?_⟩
  simp [Session.heard, Reporter.observe, Session.countAsked]

/-- A check that has passed, one that has failed and one that merely warns. -/
def harbour : Reporter :=
  { results :=
      [{ category := "harbour", description := "crane turns" },
        { category := "harbour", description := "locks close", hintUrl := "https://help/locks"
          fault := some (.failed "jammed") },
        { category := "lights", description := "buoys lit", warning := true
          fault := some (.failed "two dark") }] }

/-- What the second check is said to be doing while it is tried again. -/
def locksPending : CheckResult :=
  { category := "harbour", description := "locks close", retry := true, fault := some (.pending []) }

/-- The same results with provisional ones between them. -/
def busyHarbour : Reporter :=
  { results :=
      locksPending :: (harbour.results.take 1 ++
        locksPending :: locksPending :: harbour.results.drop 1) }

theorem busyHarbour_views :
    busyHarbour.LooksLike harbour ∧
      (∃ after, busyHarbour.replay (({} : Listener).observer 0) {} =
          (.ok busyHarbour.verdict, after) ∧ after.heard.LooksLike busyHarbour) ∧
        busyHarbour.print .wide = busyHarbour.print .table := by
  obtain ⟨echoes, _⟩ := harbour.views_agree
  obtain ⟨_, _, refilled, _, plain, _⟩ := busyHarbour.views_agree
  refine ⟨echoes busyHarbour ?_, ?_, plain ?_⟩
  · exact .insert rfl (.keep _ (.insert rfl (.insert rfl (.keep _ (.keep _ .nil)))))
  · exact refilled _ Session.heard {} (Listener.observer_fills 0) rfl
  · simp [busyHarbour, harbour, locksPending]

end Checkup
