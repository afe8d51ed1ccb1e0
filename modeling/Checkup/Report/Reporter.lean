import Checkup.Engine.Suite

/-!
# Reporters

A reporter keeps the results that it was told. Provisional results are kept, but no report shows
them. The verdict is the one that was recorded with the results, or else it follows from them.
-/

namespace Checkup

/-- Results in the order in which they came, and the verdict recorded with them. -/
structure Reporter where
  results : List CheckResult := []
  recorded : Option Verdict := none
deriving Inhabited, Repr

namespace Reporter

def observe (reporter : Reporter) (result : CheckResult) : Reporter :=
  { reporter with results := reporter.results ++ [result] }

def record (reporter : Reporter) (verdict : Verdict) : Reporter :=
  { reporter with recorded := some verdict }

def final (reporter : Reporter) : List CheckResult :=
  reporter.results.filter fun result => !result.retry

/-- The verdict that follows from the final results. -/
def verdict (reporter : Reporter) : Verdict :=
  reporter.final.foldl Verdict.take {}

/-- The verdict that was recorded, or else the one that follows from the results. -/
def standing (reporter : Reporter) : Verdict :=
  reporter.recorded.getD reporter.verdict

/-- Tells an observer of the final results, and gives the verdict that follows from them. -/
def replay (reporter : Reporter) (observer : Observer) : Action Verdict := do
  reporter.final.forM observer
  pure reporter.verdict

end Reporter

namespace Engine

/-- Runs all checks and gives a reporter with their results and the verdict. -/
def report (engine : Engine) (limit : Nat := attemptLimit) : Action Reporter := fun session =>
  let (run, after) := engine.runChecks (fun _ => pure ()) session limit
  (run.ending.answer.map fun verdict => { results := run.results, recorded := some verdict }, after)

end Engine

end Checkup
