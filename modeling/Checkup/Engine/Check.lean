import Checkup.Engine.Turn

/-!
# Running one check

A check is attempted until it passes, is skipped, or fails without being allowed another attempt.
The run of a check keeps every attempt that was made. A run that is given too few attempts stays
unfinished.
-/

namespace Checkup

inductive Ending (α : Type) where
  | finished (value : α)
  | escaped (fault : Fault)
  | unfinished
deriving Repr

/-- What a run gives to the one who started it. -/
def Ending.answer : Ending α → Except Fault α
  | finished value => .ok value
  | escaped fault => .error fault
  | unfinished => .error (.failed "too many attempts")

/-- The run of one check: its attempts, and whether it passed. -/
structure CheckRun where
  turns : List Turn
  ending : Ending Bool
deriving Repr

namespace CheckRun

def prepend (turn : Turn) (run : CheckRun) : CheckRun :=
  { run with turns := turn :: run.turns }

/-- The results that the observer was told, in order. -/
def results (run : CheckRun) : List CheckResult :=
  run.turns.filterMap (·.result)

@[simp] theorem results_prepend (turn : Turn) (run : CheckRun) :
    (run.prepend turn).results = turn.result.toList ++ run.results := by
  cases h : turn.result <;> simp [results, prepend, h]

end CheckRun

/-- What a run of a check depends on. -/
structure CheckTask where
  category : Category
  checker : Checker
  probe : Probe

/-- Runs a check with at most the given number of attempts; `number` counts the attempts from 1. -/
def CheckTask.run (task : CheckTask) (configuration : Configuration) (observer : Observer) :
    Nat → Nat → Session → CheckRun × Session
  | 0, _, session => (⟨[], .unfinished⟩, session)
  | fuel + 1, number, session =>
    match task.category.attempt task.checker configuration.timeout task.probe session with
    | (.error fault, ended) => (⟨[], .escaped fault⟩, ended)
    | (.ok outcome, ended) =>
      match task.category.retries task.checker outcome ended with
      | .error fault => (⟨[], .escaped fault⟩, ended)
      | .ok retry =>
        let turn : Turn :=
          { outcome
            startedAt := session.micros
            endedAt := ended.micros
            result := task.category.resultOf? task.checker retry outcome }
        match task.category.deliver task.checker observer configuration.retryWindow number outcome
            retry ended with
        | (.error fault, after) => (⟨[turn], .escaped fault⟩, after)
        | (.ok (), after) =>
          if retry then
            let (rest, final) := task.run configuration observer fuel (number + 1) after
            (rest.prepend turn, final)
          else (⟨[turn], .finished outcome.passed⟩, after)

end Checkup
