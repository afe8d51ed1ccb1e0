import Checkup.Engine.Suite
import Checkup.Proofs.Engine.Block
import Checkup.Proofs.Session.Log

/-!
# The sweep of a suite

The sweep of a suite shows every check that it runs with the sessions before and after. Main
statements: every run of a suite has a sweep; the checks of a run that has come to its end are the
tasks of the suite up to the first fatal one that has failed, and the verdict follows from which of
them have failed.
-/

namespace Checkup

/-- A check that a suite has run, with the sessions around it. -/
structure Performance where
  task : CheckTask
  run : CheckRun
  started : Session
  ended : Session

namespace Performance

def failed (done : Performance) : Bool :=
  done.run.ending.value? == some false

/-- The failure of the check ends the run of the suite. -/
def stops (done : Performance) : Bool :=
  done.failed && done.task.checker.policy.fatal

/-- The check failed and counts as a warning or as an error. -/
def countsAs (done : Performance) (warning : Bool) : Prop :=
  done.failed = true ∧ done.task.checker.policy.warning = warning

def addTo (verdict : Verdict) (done : Performance) : Verdict :=
  if done.failed then verdict.fail done.task.checker.policy.warning else verdict

theorem failed_of_finished (done : Performance) {passed : Bool}
    (finished : done.run.ending = .finished passed) : done.failed = !passed := by
  cases passed <;> simp [failed, finished, Ending.value?]

theorem addTo_of_finished (verdict : Verdict) (done : Performance) {passed : Bool}
    (finished : done.run.ending = .finished passed) :
    addTo verdict done =
      if passed then verdict else verdict.fail done.task.checker.policy.warning := by
  rw [addTo, failed_of_finished done finished]
  cases passed <;> rfl

theorem foldl_addTo (performed : List Performance) (verdict : Verdict) :
    ((performed.foldl addTo verdict).success = false ↔
      verdict.success = false ∨ ∃ done ∈ performed, done.countsAs false) ∧
    ((performed.foldl addTo verdict).warning = true ↔
      verdict.warning = true ∨ ∃ done ∈ performed, done.countsAs true) := by
  induction performed generalizing verdict with
  | nil => simp
  | cons done later inductionHypothesis =>
    obtain ⟨success, warning⟩ := inductionHypothesis (addTo verdict done)
    rw [List.foldl_cons, success, warning]
    cases failed : done.failed <;> cases warns : done.task.checker.policy.warning <;>
      simp [addTo, countsAs, failed, warns, Verdict.fail]

end Performance

def Item.task? : Item → Option CheckTask
  | passOver _ => none
  | check task => some task

def enabledTasks (categories : List Category) : List CheckTask :=
  (categories.filter (·.enabled)).flatMap Category.tasks

@[simp] theorem agenda_tasks (categories : List Category) :
    (agenda categories).filterMap Item.task? = enabledTasks categories := by
  have tasks : ∀ tasks : List CheckTask, (tasks.map Item.check).filterMap Item.task? = tasks := by
    intro tasks
    rw [List.filterMap_map]
    exact List.filterMap_some
  induction categories with
  | nil => rfl
  | cons category later inductionHypothesis =>
    have split : agenda (category :: later) =
        (if category.enabled then category.tasks.map .check else [.passOver category]) ++
          agenda later := rfl
    rw [split, List.filterMap_append, inductionHypothesis]
    cases enabled : category.enabled with
    | false => simp [enabledTasks, enabled, Item.task?]
    | true => simp [enabledTasks, enabled, tasks]

namespace Engine

/-- The sweep of a suite: what it has to do, the verdict before, the session before, the checks
that are run, how it ends, and the session after. -/
inductive Sweep (configuration : Configuration) (observer : Observer) (limit : Nat) :
    List Item → Verdict → Session → List Performance → Ending Verdict → Session → Prop where
  | complete {verdict : Verdict} {session final : Session} (same : session.SameButLog final) :
      Sweep configuration observer limit [] verdict session [] (.finished verdict) final
  | passedOver {category : Category} {later : List Item} {verdict : Verdict}
      {session noted final : Session} {performed : List Performance} {ending : Ending Verdict}
      (same : session.SameButLog noted)
      (onward : Sweep configuration observer limit later verdict noted performed ending final) :
      Sweep configuration observer limit (.passOver category :: later) verdict session performed
        ending final
  /-- The run ends with a fault of the check. -/
  | escaped {task : CheckTask} {later : List Item} {verdict : Verdict} {session ended : Session}
      {run : CheckRun} {fault : Fault}
      (ran : task.run configuration observer limit 1 session = (run, ended))
      (broken : run.ending = .escaped fault) :
      Sweep configuration observer limit (.check task :: later) verdict session
        [⟨task, run, session, ended⟩] (.escaped fault) ended
  /-- The run ends with a check that needs more attempts than the limit. -/
  | unfinished {task : CheckTask} {later : List Item} {verdict : Verdict} {session ended : Session}
      {run : CheckRun} (ran : task.run configuration observer limit 1 session = (run, ended))
      (broken : run.ending = .unfinished) :
      Sweep configuration observer limit (.check task :: later) verdict session
        [⟨task, run, session, ended⟩] .unfinished ended
  /-- The run ends with a fatal check that has failed. -/
  | halted {task : CheckTask} {later : List Item} {verdict : Verdict}
      {session ended final : Session} {run : CheckRun}
      (ran : task.run configuration observer limit 1 session = (run, ended))
      (failed : run.ending = .finished false) (fatal : task.checker.policy.fatal = true)
      (same : ended.SameButLog final) :
      Sweep configuration observer limit (.check task :: later) verdict session
        [⟨task, run, session, ended⟩] (.finished (verdict.fail task.checker.policy.warning)) final
  /-- A check ends and the run goes on. -/
  | next {task : CheckTask} {later : List Item} {verdict : Verdict} {session ended final : Session}
      {run : CheckRun} {passed : Bool} {performed : List Performance} {ending : Ending Verdict}
      (ran : task.run configuration observer limit 1 session = (run, ended))
      (finished : run.ending = .finished passed)
      (goesOn : passed = true ∨ task.checker.policy.fatal = false)
      (onward : Sweep configuration observer limit later
        (Performance.addTo verdict ⟨task, run, session, ended⟩) ended performed ending final) :
      Sweep configuration observer limit (.check task :: later) verdict session
        (⟨task, run, session, ended⟩ :: performed) ending final

variable {configuration : Configuration} {observer : Observer} {limit : Nat}

/-- Every run of a suite has a sweep, and the run keeps its checks. -/
theorem exists_sweep {items : List Item} {verdict : Verdict} {session final : Session}
    {run : SuiteRun}
    (ran : runItems configuration observer limit items verdict session = (run, final)) :
    ∃ performed, Sweep configuration observer limit items verdict session performed run.ending
        final ∧
      run.checks = performed.map (·.run) := by
  induction items generalizing verdict session run final with
  | nil =>
    rw [runItems, Prod.mk.injEq] at ran
    obtain ⟨rfl, rfl⟩ := ran
    exact ⟨[], .complete (.logged ..), rfl⟩
  | cons item later inductionHypothesis =>
    cases item with
    | passOver category =>
      obtain ⟨performed, sweep, checks⟩ := inductionHypothesis ran
      exact ⟨performed, .passedOver (.logged ..) sweep, checks⟩
    | check task =>
      rcases checked : task.run configuration observer limit 1 session with ⟨check, ended⟩
      rw [runItems, checked] at ran
      cases ending : check.ending with
      | escaped fault =>
        simp only [ending, Prod.mk.injEq] at ran
        obtain ⟨rfl, rfl⟩ := ran
        exact ⟨_, .escaped checked ending, rfl⟩
      | unfinished =>
        simp only [ending, Prod.mk.injEq] at ran
        obtain ⟨rfl, rfl⟩ := ran
        exact ⟨_, .unfinished checked ending, rfl⟩
      | finished passed =>
        cases passed with
        | true =>
          rcases swept : runItems configuration observer limit later verdict ended with
            ⟨rest, after⟩
          simp only [ending, swept, Prod.mk.injEq] at ran
          obtain ⟨rfl, rfl⟩ := ran
          obtain ⟨performed, sweep, checks⟩ := inductionHypothesis swept
          refine ⟨_, .next checked ending (.inl rfl) ?_, congrArg _ checks⟩
          rw [Performance.addTo_of_finished verdict ⟨task, check, session, ended⟩ ending]
          exact sweep
        | false =>
          cases fatal : task.checker.policy.fatal with
          | true =>
            simp only [ending, fatal, if_true, Prod.mk.injEq] at ran
            obtain ⟨rfl, rfl⟩ := ran
            exact ⟨_, .halted checked ending fatal (.logged ..), rfl⟩
          | false =>
            rcases swept : runItems configuration observer limit later
              (verdict.fail task.checker.policy.warning) ended with ⟨rest, after⟩
            simp only [ending, fatal, swept, Bool.false_eq_true, if_false, Prod.mk.injEq] at ran
            obtain ⟨rfl, rfl⟩ := ran
            obtain ⟨performed, sweep, checks⟩ := inductionHypothesis swept
            refine ⟨_, .next checked ending (.inr fatal) ?_, congrArg _ checks⟩
            rw [Performance.addTo_of_finished verdict ⟨task, check, session, ended⟩ ending]
            exact sweep

/-- The tasks of a suite whose run has come to its end: those that were run, of which at most the
last one stops the run, and those that are left after that one. -/
structure Progress (tasks : List CheckTask) (performed : List Performance)
    (left : List CheckTask) : Prop where
  split : tasks = performed.map (·.task) ++ left
  finished : ∀ done ∈ performed, ∃ passed earlier last,
    done.run.ending = .finished passed ∧ done.task.Block done.run passed earlier last
  onward : ∀ earlier done later, performed = earlier ++ done :: later → done.stops = true →
    later = []
  stopped : left ≠ [] → ∃ earlier done, performed = earlier ++ [done] ∧ done.stops = true

theorem Progress.halt (done : Performance) (left : List CheckTask)
    (ran : done.task.run configuration observer limit 1 done.started = (done.run, done.ended))
    (finished : done.run.ending = .finished false)
    (fatal : done.task.checker.policy.fatal = true) :
    Progress (done.task :: left) [done] left := by
  have stops : done.stops = true := by
    simp [Performance.stops, Performance.failed_of_finished done finished, fatal]
  refine ⟨rfl, ?_, ?_, fun _ => ⟨[], done, rfl, stops⟩⟩
  · intro other member
    rw [List.mem_singleton] at member
    obtain ⟨earlier, last, block⟩ := CheckTask.exists_block ran finished
    exact ⟨false, earlier, last, member ▸ finished, member ▸ block⟩
  · intro earlier other later split _
    have counted := congrArg List.length split
    simp only [List.length_append, List.length_cons, List.length_nil] at counted
    exact List.eq_nil_of_length_eq_zero (by omega)

theorem Progress.next (done : Performance) {tasks left : List CheckTask}
    {performed : List Performance} {passed : Bool} (progress : Progress tasks performed left)
    (ran : done.task.run configuration observer limit 1 done.started = (done.run, done.ended))
    (finished : done.run.ending = .finished passed)
    (goesOn : passed = true ∨ done.task.checker.policy.fatal = false) :
    Progress (done.task :: tasks) (done :: performed) left := by
  have stays : done.stops = false := by
    rw [Performance.stops, Performance.failed_of_finished done finished]
    rcases goesOn with rfl | harmless
    · rfl
    · rw [harmless, Bool.and_false]
  refine ⟨?_, ?_, ?_, ?_⟩
  · rw [progress.split]
    rfl
  · intro other member
    rcases List.mem_cons.mp member with rfl | later
    · obtain ⟨earlier, last, block⟩ := CheckTask.exists_block ran finished
      exact ⟨passed, earlier, last, finished, block⟩
    · exact progress.finished other later
  · intro earlier other later split stops
    cases earlier with
    | nil =>
      cases split
      rw [stays] at stops
      cases stops
    | cons first earlier =>
      cases split
      exact progress.onward earlier other later rfl stops
  · intro more
    obtain ⟨earlier, other, split, stops⟩ := progress.stopped more
    exact ⟨done :: earlier, other, congrArg (done :: ·) split, stops⟩

/-- The sweep of a run that has come to its end makes its way through the tasks of the suite. -/
theorem Sweep.exists_progress {items : List Item} {verdict last : Verdict}
    {session final : Session} {performed : List Performance} {ending : Ending Verdict}
    (sweep : Sweep configuration observer limit items verdict session performed ending final)
    (finished : ending = .finished last) :
    ∃ left, Progress (items.filterMap Item.task?) performed left := by
  induction sweep with
  | complete => exact ⟨[], rfl, by simp, by simp, by simp⟩
  | passedOver same onward inductionHypothesis => exact inductionHypothesis finished
  | escaped => cases finished
  | unfinished => cases finished
  | @halted task later verdict session ended final run ran failed fatal same =>
    exact ⟨_, .halt ⟨task, run, session, ended⟩ (later.filterMap Item.task?) ran failed fatal⟩
  | @next task later verdict session ended final run passed performed ending ran finishes goesOn
      onward inductionHypothesis =>
    obtain ⟨left, progress⟩ := inductionHypothesis finished
    exact ⟨left, progress.next ⟨task, run, session, ended⟩ ran finishes goesOn⟩

/-- The verdict of a run that has come to its end counts the checks that have failed. -/
theorem Sweep.verdict_eq {items : List Item} {verdict last : Verdict} {session final : Session}
    {performed : List Performance} {ending : Ending Verdict}
    (sweep : Sweep configuration observer limit items verdict session performed ending final)
    (finished : ending = .finished last) : last = performed.foldl Performance.addTo verdict := by
  induction sweep with
  | complete => cases finished; rfl
  | passedOver same onward inductionHypothesis => exact inductionHypothesis finished
  | escaped => cases finished
  | unfinished => cases finished
  | @halted task later verdict session ended final run ran failed fatal same =>
    cases finished
    exact (Performance.addTo_of_finished verdict ⟨task, run, session, ended⟩ failed).symm
  | next ran ended goesOn onward inductionHypothesis => exact inductionHypothesis finished

/-- A suite adds exactly the notices of its checks, in order. -/
theorem Sweep.notices_eq {κ : Type} {recorder : Recorder κ observer} {caller : CheckTask → κ}
    {items : List Item} {verdict last : Verdict} {session final : Session}
    {performed : List Performance} {ending : Ending Verdict}
    (heard : ∀ task ∈ items.filterMap Item.task?, recorder.Hears (caller task) task.probe)
    (sweep : Sweep configuration observer limit items verdict session performed ending final)
    (finished : ending = .finished last) :
    recorder.notices final.journal =
      recorder.notices session.journal ++
        performed.flatMap fun done => done.run.notices (caller done.task) := by
  induction sweep with
  | complete same => simp [same.journal_eq]
  | passedOver same onward inductionHypothesis =>
    rw [inductionHypothesis heard finished, same.journal_eq]
  | escaped => cases finished
  | unfinished => cases finished
  | @halted task later verdict session ended final run ran failed fatal same =>
    have noticed := CheckTask.notices_run (heard task List.mem_cons_self) ran failed
    simp [same.journal_eq, noticed]
  | @next task later verdict session ended final run passed performed ending ran finishes goesOn
      onward inductionHypothesis =>
    have noticed := CheckTask.notices_run (heard task List.mem_cons_self) ran finishes
    have heardLater := fun task member => heard task (List.mem_cons_of_mem _ member)
    rw [inductionHypothesis heardLater finished, noticed]
    simp

theorem Sweep.verdict_iff {items : List Item} {last : Verdict} {session final : Session}
    {performed : List Performance} {ending : Ending Verdict}
    (sweep : Sweep configuration observer limit items {} session performed ending final)
    (finished : ending = .finished last) :
    (last.success = false ↔ ∃ done ∈ performed, done.countsAs false) ∧
      (last.warning = true ↔ ∃ done ∈ performed, done.countsAs true) := by
  obtain ⟨success, warning⟩ := Performance.foldl_addTo performed {}
  rw [← sweep.verdict_eq finished] at success warning
  exact ⟨by simpa using success, by simpa using warning⟩

/-- A sweep goes along a relation if the runs of its checks do, and writing to the log; the checks
follow each other along it. -/
theorem Sweep.along {R : Session → Session → Prop} (onward : Session.Onward R)
    (logs : ∀ session other : Session, session.SameButLog other → R session other)
    {items : List Item} {verdict : Verdict} {session final : Session}
    {performed : List Performance} {ending : Ending Verdict}
    (runs : ∀ task ∈ items.filterMap Item.task?, ∀ started,
      R started (task.run configuration observer limit 1 started).2)
    (sweep : Sweep configuration observer limit items verdict session performed ending final) :
    R session final ∧ (∀ done ∈ performed, R session done.started ∧ R done.ended final) ∧
      performed.Pairwise fun done next => R done.ended next.started := by
  have ended : ∀ {task : CheckTask} {later : List Item} {started ended : Session} {run : CheckRun},
      (∀ other ∈ (Item.check task :: later).filterMap Item.task?, ∀ started,
        R started (other.run configuration observer limit 1 started).2) →
        task.run configuration observer limit 1 started = (run, ended) → R started ended := by
    intro task later started ended run runs ran
    have along := runs task List.mem_cons_self started
    rwa [ran] at along
  induction sweep with
  | complete same => exact ⟨logs _ _ same, by simp⟩
  | passedOver same rest inductionHypothesis =>
    obtain ⟨toFinal, toChecks, follow⟩ := inductionHypothesis runs
    exact ⟨onward.goOn (logs _ _ same) toFinal,
      fun done member => ⟨onward.goOn (logs _ _ same) (toChecks done member).1,
        (toChecks done member).2⟩, follow⟩
  | escaped ran | unfinished ran =>
    exact ⟨ended runs ran, by simpa using ⟨onward.stay _, onward.stay _⟩,
      List.pairwise_singleton _ _⟩
  | halted ran failed fatal same =>
    exact ⟨onward.goOn (ended runs ran) (logs _ _ same),
      by simpa using ⟨onward.stay _, logs _ _ same⟩, List.pairwise_singleton _ _⟩
  | next ran finished goesOn rest inductionHypothesis =>
    obtain ⟨toFinal, toChecks, follow⟩ :=
      inductionHypothesis fun task member => runs task (List.mem_cons_of_mem _ member)
    have toNext := ended runs ran
    refine ⟨onward.goOn toNext toFinal, ?_,
      List.pairwise_cons.mpr ⟨fun done member => (toChecks done member).1, follow⟩⟩
    intro done member
    rcases List.mem_cons.mp member with rfl | later
    · exact ⟨onward.stay _, toFinal⟩
    · exact ⟨onward.goOn toNext (toChecks done later).1, (toChecks done later).2⟩

end Engine

end Checkup
