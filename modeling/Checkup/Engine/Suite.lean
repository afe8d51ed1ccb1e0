import Checkup.Engine.Check

/-!
# Running a suite

A suite runs the checks of its enabled categories in order. The failure of a fatal check ends the
run. The verdict is a success if only checks that merely warn have failed.
-/

namespace Checkup

inductive Item where
  | passOver (category : Category)
  | check (task : CheckTask)

/-- The checks of a category; a checker without a probe gives none. -/
def Category.tasks (category : Category) : List CheckTask :=
  category.checkers.filterMap fun checker =>
    checker.probe.map fun probe => { category, checker, probe }

/-- What a suite has to do: a disabled category is passed over as a whole. -/
def agenda (categories : List Category) : List Item :=
  categories.flatMap fun category =>
    if category.enabled then category.tasks.map .check else [.passOver category]

/-- The run of a suite: the runs of its checks, and the verdict. -/
structure SuiteRun where
  checks : List CheckRun
  ending : Ending Verdict
deriving Repr

namespace SuiteRun

def prepend (check : CheckRun) (run : SuiteRun) : SuiteRun :=
  { run with checks := check :: run.checks }

def results (run : SuiteRun) : List CheckResult :=
  run.checks.flatMap (·.results)

@[simp] theorem results_prepend (check : CheckRun) (run : SuiteRun) :
    (run.prepend check).results = check.results ++ run.results := rfl

end SuiteRun

structure Engine where
  categories : List Category := []
  configuration : Configuration

namespace Engine

/-- The most attempts of one check, where a caller sets no other limit. -/
def attemptLimit : Nat := 1000000000

/-- Does what is left to do, with the verdict on what has been done. A check that needs more attempts
than the limit leaves the run unfinished. -/
def runItems (configuration : Configuration) (observer : Observer) (limit : Nat) :
    List Item → Verdict → Session → SuiteRun × Session
  | [], verdict, session =>
    (⟨[], .finished verdict⟩, session.logged .info "run_checks_finished"
      [("success", .flag verdict.success), ("warning", .flag verdict.warning)])
  | .passOver category :: later, verdict, session =>
    runItems configuration observer limit later verdict
      (session.logged .debug "category_disabled" [("category", .text category.id)])
  | .check task :: later, verdict, session =>
    let (check, after) := task.run configuration observer limit 1 session
    match check.ending with
    | .escaped fault => (⟨[check], .escaped fault⟩, after)
    | .unfinished => (⟨[check], .unfinished⟩, after)
    | .finished true =>
      let (rest, final) := runItems configuration observer limit later verdict after
      (rest.prepend check, final)
    | .finished false =>
      let verdict := verdict.fail task.checker.policy.warning
      if task.checker.policy.fatal then
        (⟨[check], .finished verdict⟩, after.logged .warning "fatal_check_failed"
          [("category", .text task.category.id), ("check", .text task.checker.description)])
      else
        let (rest, final) := runItems configuration observer limit later verdict after
        (rest.prepend check, final)

/-- Runs all checks and tells the observer of every result. -/
def runChecks (engine : Engine) (observer : Observer) (session : Session)
    (limit : Nat := attemptLimit) : SuiteRun × Session :=
  runItems engine.configuration observer limit (agenda engine.categories) {} session

def append (engine : Engine) (categories : List Category) : Engine :=
  { engine with categories := engine.categories ++ categories }

end Engine

end Checkup
