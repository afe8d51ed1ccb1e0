import Checkup.Proofs.Engine.Sweep
import Checkup.Report.Reporter

/-!
# Results and verdicts

The engine counts checks that have failed, a reporter counts final results that show a fault. Main
statement: both come to the same verdict, also for the results of several runs in any order.
-/

namespace Checkup

/-- A final result that shows a fault and counts as a warning or as an error. -/
def CheckResult.countsAs (result : CheckResult) (warning : Bool) : Prop :=
  result.retry = false ∧ result.fault.isSome = true ∧ result.warning = warning

/-- A verdict says that some of these results count as errors, and some as warnings. -/
def Verdict.Counts (verdict : Verdict) (results : List CheckResult) : Prop :=
  (verdict.success = false ↔ ∃ result ∈ results, result.countsAs false) ∧
    (verdict.warning = true ↔ ∃ result ∈ results, result.countsAs true)

namespace Verdict

theorem Counts.unique {verdict other : Verdict} {results : List CheckResult}
    (counts : verdict.Counts results) (others : other.Counts results) : verdict = other := by
  obtain ⟨success, warning⟩ := verdict
  obtain ⟨otherSuccess, otherWarning⟩ := other
  have sameSuccess : success = false ↔ otherSuccess = false := counts.1.trans others.1.symm
  have sameWarning : warning = true ↔ otherWarning = true := counts.2.trans others.2.symm
  rw [Bool.eq_iff_iff.mpr sameWarning]
  cases success <;> cases otherSuccess <;> simp_all

theorem foldl_take (results : List CheckResult) (verdict : Verdict) :
    ((results.foldl take verdict).success = false ↔
      verdict.success = false ∨
        ∃ result ∈ results, result.fault.isSome = true ∧ result.warning = false) ∧
    ((results.foldl take verdict).warning = true ↔
      verdict.warning = true ∨
        ∃ result ∈ results, result.fault.isSome = true ∧ result.warning = true) := by
  induction results generalizing verdict with
  | nil => simp
  | cons result later inductionHypothesis =>
    obtain ⟨success, warning⟩ := inductionHypothesis (verdict.take result)
    rw [List.foldl_cons, success, warning]
    cases fault : result.fault.isSome <;> cases warns : result.warning <;>
      simp [take, fail, fault, warns]

end Verdict

/-- The verdict of a reporter counts its results. -/
theorem Reporter.verdict_counts (reporter : Reporter) :
    reporter.verdict.Counts reporter.results := by
  obtain ⟨success, warning⟩ := Verdict.foldl_take reporter.final {}
  have found : ∀ warning, (∃ result ∈ reporter.final,
      result.fault.isSome = true ∧ result.warning = warning) ↔
      ∃ result ∈ reporter.results, result.countsAs warning := by
    intro warning
    simp [final, CheckResult.countsAs, and_assoc]
  rw [found] at success warning
  exact ⟨by simpa [verdict] using success, by simpa [verdict] using warning⟩

/-- A check that has come to its end has a result that counts if and only if it failed. -/
theorem CheckTask.Block.countsAs_iff {task : CheckTask} {run : CheckRun} {passed : Bool}
    {earlier : List Turn} {last : Turn} (block : task.Block run passed earlier last)
    (warning : Bool) :
    (∃ result ∈ run.results, result.countsAs warning) ↔
      passed = false ∧ task.checker.policy.warning = warning := by
  constructor
  · rintro ⟨result, member, final, shown, warns⟩
    obtain ⟨_, _, marked⟩ := block.marks result member
    obtain ⟨turn, attempted, told⟩ := List.mem_filterMap.mp member
    rw [block.turns, List.mem_append, List.mem_singleton] at attempted
    refine ⟨?_, marked.symm.trans warns⟩
    rcases attempted with before | rfl
    · obtain ⟨cause, echo, _, emitted, provisional, _⟩ := block.echoes turn before
      rw [told] at emitted
      cases emitted
      rw [final] at provisional
      cases provisional
    · exact block.failed.mpr (block.concludes.failure_of_shown told shown)
  · rintro ⟨failed, warns⟩
    obtain ⟨cause, outcome⟩ := block.failed.mp failed
    have concludes := block.concludes
    simp only [Concludes, outcome] at concludes
    obtain ⟨result, emitted, final, _, shown⟩ := concludes
    have member : result ∈ run.results := by
      refine List.mem_filterMap.mpr ⟨last, ?_, emitted⟩
      rw [block.turns]
      exact List.mem_append_right earlier (List.mem_singleton_self last)
    obtain ⟨_, _, marked⟩ := block.marks result member
    exact ⟨result, member, final, by rw [shown]; rfl, marked.trans warns⟩

namespace Engine

/-- The results of a run count as its checks do. -/
theorem Progress.countsAs_iff {tasks left : List CheckTask} {performed : List Performance}
    (progress : Progress tasks performed left) (warning : Bool) :
    (∃ result ∈ performed.flatMap (·.run.results), result.countsAs warning) ↔
      ∃ done ∈ performed, done.countsAs warning := by
  have each : ∀ done ∈ performed, (∃ result ∈ done.run.results, result.countsAs warning) ↔
      done.countsAs warning := by
    intro done member
    obtain ⟨passed, earlier, last, finished, block⟩ := progress.finished done member
    rw [block.countsAs_iff, Performance.countsAs, Performance.failed_of_finished done finished]
    cases passed <;> simp
  constructor
  · rintro ⟨result, member, counts⟩
    obtain ⟨done, known, told⟩ := List.mem_flatMap.mp member
    exact ⟨done, known, (each done known).mp ⟨result, told, counts⟩⟩
  · rintro ⟨done, known, counts⟩
    obtain ⟨result, told, counted⟩ := (each done known).mpr counts
    exact ⟨result, List.mem_flatMap.mpr ⟨done, known, told⟩, counted⟩

/-- The verdict of a run counts its results. -/
theorem verdict_counts {engine : Engine} {observer : Observer} {limit : Nat}
    {session final : Session} {run : SuiteRun} {verdict : Verdict}
    (ran : engine.runChecks observer session limit = (run, final))
    (finished : run.ending = .finished verdict) : verdict.Counts run.results := by
  obtain ⟨performed, sweep, checks⟩ := exists_sweep ran
  obtain ⟨left, progress⟩ := sweep.exists_progress finished
  have results : run.results = performed.flatMap (·.run.results) := by
    rw [SuiteRun.results, checks, List.flatMap_map]
  rw [Verdict.Counts, results, progress.countsAs_iff, progress.countsAs_iff]
  exact sweep.verdict_iff finished

end Engine

end Checkup
