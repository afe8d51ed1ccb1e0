import Checkup.Proofs.Engine.Mirroring
import Checkup.Proofs.Engine.Sweep

/-!
# Suites without idle parts

Disabled categories and checkers without a probe are idle. Main statement: the run of a suite makes
its way through the tasks of the enabled categories up to the first fatal one that fails, and a suite
with other idle parts has the same run and leaves the same session, but for the log.
-/

namespace Checkup

/-- A category without the checkers that have no probe. -/
def Category.stripped (category : Category) : Category :=
  { category with checkers := category.checkers.filter (·.probe.isSome) }

/-- A suite without disabled categories and without checkers that have no probe. -/
def pruned (categories : List Category) : List Category :=
  (categories.filter (·.enabled)).map Category.stripped

def CheckTask.stripped (task : CheckTask) : CheckTask :=
  { task with category := task.category.stripped }

theorem pruned_pruned (categories : List Category) :
    pruned (pruned categories) = pruned categories := by
  simp [pruned, Category.stripped, List.filter_map, Function.comp_def]

theorem Category.tasks_stripped (category : Category) :
    category.stripped.tasks = category.tasks.map CheckTask.stripped := by
  obtain ⟨id, checkers, enabled, hintBaseUrl, scope⟩ := category
  simp only [tasks, stripped, List.map_filterMap, List.filterMap_filter]
  congr 1
  funext checker
  cases probe : checker.probe <;> simp [CheckTask.stripped, stripped]

theorem enabledTasks_pruned (categories : List Category) :
    enabledTasks (pruned categories) = (enabledTasks categories).map CheckTask.stripped := by
  have enabled : (pruned categories).filter (·.enabled) = pruned categories := by
    rw [List.filter_eq_self]
    intro category member
    obtain ⟨original, kept, rfl⟩ := List.mem_map.mp member
    exact (List.mem_filter.mp kept).2
  rw [enabledTasks, enabled, pruned, List.flatMap_map, enabledTasks, List.map_flatMap]
  simp only [Category.tasks_stripped]

namespace Category

theorem attempt_ignoresLog (category : Category) (checker : Checker) (timeout : Duration)
    {probe : Probe} (blind : ∀ scope, (probe scope).IgnoresLog) :
    (category.attempt checker timeout probe).IgnoresLog := by
  have entering : (Action.underFor category.scope timeout.seconds).IgnoresLog :=
    fun _ desk => ⟨rfl, desk, rfl⟩
  have lifted : ∀ {α : Type} (answer : Except Fault α), (Action.lift answer).IgnoresLog :=
    fun answer => Action.ignoresLog_observable.lift answer
  have noting : ∀ answer, (category.logRaised checker answer).IgnoresLog :=
    fun answer => Action.ignoresLog_iff.mpr (logRaised_mirrors Action.log_mirrors answer)
  have leaving : ∀ scope, (Action.release scope).IgnoresLog := fun _ _ desk => ⟨rfl, desk, rfl⟩
  exact entering.bind fun scope =>
    (Action.ignoresLog_observable.settle ((blind scope).bind fun _ => lifted _)).bind fun answer =>
      (noting answer).bind fun _ => (leaving scope).bind fun _ => lifted _

end Category

namespace CheckTask

variable {task : CheckTask} {configuration : Configuration} {observer : Observer}

/-- The other checkers of a category do not matter to a task. -/
theorem run_stripped (task : CheckTask) (limit number : Nat) (session : Session) :
    task.stripped.run configuration observer limit number session =
      task.run configuration observer limit number session :=
  task.run_with task.category.stripped.checkers task.checker.probe limit number session

/-- The run of a check is the same for sessions that differ in the log only. -/
theorem run_same (blind : ∀ scope, (task.probe scope).IgnoresLog)
    (deaf : ∀ result, (observer result).IgnoresLog) (limit number : Nat)
    {session other : Session} (same : session.SameButLog other) :
    (task.run configuration observer limit number other).1 =
        (task.run configuration observer limit number session).1 ∧
      (task.run configuration observer limit number session).2.SameButLog
        (task.run configuration observer limit number other).2 := by
  have sameMicros : ∀ session other : Session, session.SameButLog other →
      other.micros = session.micros := by
    rintro session other ⟨desk, rfl⟩
    rfl
  have decides : ∀ outcome (session other : Session), session.SameButLog other →
      task.category.retries task.checker outcome other =
        task.category.retries task.checker outcome session := by
    rintro outcome session other ⟨desk, rfl⟩
    rfl
  have attempts := attempt_mirrors (Action.ignoresLog_iff.mp
    (task.category.attempt_ignoresLog task.checker configuration.timeout blind)) decides
  have deliveries : ∀ number outcome retry,
      Action.Mirrors Session.SameButLog Session.SameButLog
        (task.deliver configuration observer number outcome retry)
        (task.deliver configuration observer number outcome retry) :=
    Category.deliver_mirrors Action.log_mirrors
      (Action.ignoresLog_iff.mp
        (Action.ignoresLog_wait task.category.scope configuration.retryWindow.seconds))
      (fun result => Action.ignoresLog_iff.mp (deaf result))
  exact run_mirrors sameMicros attempts deliveries limit number same

end CheckTask

namespace Engine

variable {configuration : Configuration} {observer : Observer} {limit : Nat}

def strippedItems (items : List Item) : List Item :=
  (items.filterMap Item.task?).map fun task => .check task.stripped

/-- A suite runs the same without its idle parts. -/
theorem runItems_stripped (configuration : Configuration) (limit : Nat) {items : List Item}
    (verdict : Verdict) {session other : Session}
    (blind : ∀ task ∈ items.filterMap Item.task?, ∀ scope, (task.probe scope).IgnoresLog)
    (deaf : ∀ result, (observer result).IgnoresLog) (same : session.SameButLog other) :
    (runItems configuration observer limit (strippedItems items) verdict other).1 =
        (runItems configuration observer limit items verdict session).1 ∧
      (runItems configuration observer limit items verdict session).2.SameButLog
        (runItems configuration observer limit (strippedItems items) verdict other).2 := by
  -- Both runs go through the same checks; an item that is passed over only adds to one of the logs.
  induction items generalizing verdict session other with
  | nil => exact ⟨rfl, (Action.log_mirrors _ _ _ session other same).2⟩
  | cons item later inductionHypothesis =>
    cases item with
    | passOver category =>
      exact inductionHypothesis verdict blind ((Session.SameButLog.logged ..).symm.trans same)
    | check task =>
      have blindLater : ∀ task ∈ later.filterMap Item.task?, ∀ scope,
          (task.probe scope).IgnoresLog :=
        fun other member => blind other (List.mem_cons_of_mem task member)
      obtain ⟨sameRun, sameEnd⟩ :=
        CheckTask.run_same (blind task List.mem_cons_self) deaf limit 1 same
      rw [← CheckTask.run_stripped task limit 1 other] at sameRun sameEnd
      exact runItems_mirrors Action.log_mirrors verdict rfl rfl rfl sameRun sameEnd
        fun verdict ended endedToo sameEnd => inductionHypothesis verdict blindLater sameEnd

theorem strippedItems_agenda (categories : List Category) :
    strippedItems (agenda categories) = (enabledTasks (pruned categories)).map .check := by
  rw [strippedItems, agenda_tasks, enabledTasks_pruned, List.map_map]
  rfl

/-- Suites that differ in their idle parts run the same. -/
theorem runChecks_pruned (engine : Engine) (limit : Nat) (session : Session)
    {others : List Category} (alike : pruned others = pruned engine.categories)
    (blind : ∀ task ∈ enabledTasks engine.categories, ∀ scope, (task.probe scope).IgnoresLog)
    (deaf : ∀ result, (observer result).IgnoresLog) :
    (runChecks ⟨others, engine.configuration⟩ observer session limit).1 =
        (engine.runChecks observer session limit).1 ∧
      (engine.runChecks observer session limit).2.SameButLog
        (runChecks ⟨others, engine.configuration⟩ observer session limit).2 := by
  have blindToo : ∀ task ∈ enabledTasks others, ∀ scope, (task.probe scope).IgnoresLog := by
    intro task member scope
    have stripped : task.stripped ∈ (enabledTasks engine.categories).map CheckTask.stripped := by
      rw [← enabledTasks_pruned, ← alike, enabledTasks_pruned]
      exact List.mem_map_of_mem member
    obtain ⟨found, known, same⟩ := List.mem_map.mp stripped
    have sameProbe : found.stripped.probe = task.stripped.probe := congrArg _ same
    exact (show found.probe = task.probe from sameProbe) ▸ blind found known scope
  have canonical : ∀ categories, (∀ task ∈ enabledTasks categories, ∀ scope,
      (task.probe scope).IgnoresLog) → ∀ task ∈ (agenda categories).filterMap Item.task?,
        ∀ scope, (task.probe scope).IgnoresLog := by
    intro categories known
    rwa [agenda_tasks]
  obtain ⟨run, left⟩ :=
    runItems_stripped engine.configuration limit {} (canonical _ blind) deaf (.refl session)
  obtain ⟨runToo, leftToo⟩ :=
    runItems_stripped engine.configuration limit {} (canonical _ blindToo) deaf (.refl session)
  rw [strippedItems_agenda] at run left runToo leftToo
  rw [alike] at runToo leftToo
  exact ⟨runToo.symm.trans run, left.trans leftToo.symm⟩

/-- The run of a suite that comes to its end makes its way through the tasks of the enabled
categories, tells of the results of the checks it has run and of nothing else, and gives the verdict
that counts their failures. Idle parts leave no trace. -/
theorem runChecks_aggregates {engine : Engine} {limit : Nat} {session final : Session}
    {run : SuiteRun} {verdict : Verdict}
    (ran : engine.runChecks observer session limit = (run, final))
    (finished : run.ending = .finished verdict) :
    (∃ performed left,
      Sweep engine.configuration observer limit (agenda engine.categories) {} session performed
          run.ending final ∧
        Progress (enabledTasks engine.categories) performed left ∧
          run.checks = performed.map (·.run) ∧
            run.results = performed.flatMap (·.run.results) ∧
              (verdict.success = false ↔ ∃ done ∈ performed, done.countsAs false) ∧
                (verdict.warning = true ↔ ∃ done ∈ performed, done.countsAs true) ∧
                  ∀ {κ : Type} (recorder : Recorder κ observer) (caller : CheckTask → κ),
                    (∀ task ∈ enabledTasks engine.categories,
                      recorder.Hears (caller task) task.probe) →
                      recorder.notices final.journal =
                        recorder.notices session.journal ++
                          performed.flatMap fun done => done.run.notices (caller done.task)) ∧
      ∀ others : List Category, pruned others = pruned engine.categories →
        (∀ task ∈ enabledTasks engine.categories, ∀ scope, (task.probe scope).IgnoresLog) →
          (∀ result, (observer result).IgnoresLog) →
            ∃ after,
              runChecks ⟨others, engine.configuration⟩ observer session limit = (run, after) ∧
                final.SameButLog after := by
  constructor
  · obtain ⟨performed, sweep, checks⟩ := exists_sweep ran
    obtain ⟨left, progress⟩ := sweep.exists_progress finished
    rw [agenda_tasks] at progress
    obtain ⟨success, warning⟩ := sweep.verdict_iff finished
    refine ⟨performed, left, sweep, progress, checks, ?_, success, warning, ?_⟩
    · rw [SuiteRun.results, checks, List.flatMap_map]
    · intro κ recorder caller heard
      rw [← agenda_tasks] at heard
      exact sweep.notices_eq heard finished
  · intro others alike blind deaf
    obtain ⟨same, left⟩ := engine.runChecks_pruned limit session alike blind deaf
    rw [ran] at same left
    rcases ranToo : runChecks ⟨others, engine.configuration⟩ observer session limit with
      ⟨found, after⟩
    rw [ranToo] at same left
    exact ⟨after, congrArg (·, after) same, left⟩

/-- A suite with a disabled category and a checker without a probe. A check fails and is skipped the
third time, another one merely warns, a fatal one fails, and one is not run. -/
def clusterSuite : Engine :=
  { categories :=
      [{ id := "cloud", enabled := false, scope := 0
         checkers :=
          [{ description := "quota left", probe := some (scriptedProbe "quota left" 1 []) }] },
        { id := "cluster", hintBaseUrl := "https://help/", scope := 0
          checkers :=
            [{ CheckTask.podsRun.checker with probe := some CheckTask.podsRun.probe },
              { description := "nodes drained" },
              { description := "images fresh"
                policy := { warning := true }
                probe := some (scriptedProbe "images fresh" 2
                  [{ acts := [.increment "stale"], reaction := .raise (.failed "old") }]) },
              { description := "volumes bound"
                policy := { fatal := true }
                probe := some (scriptedProbe "volumes bound" 3
                  [{ acts := [.get "stale" .null], reaction := .raise (.failed "lost") }]) },
              { description := "jobs done", probe := some (scriptedProbe "jobs done" 4 []) }] }]
    configuration := CheckTask.briefly }

/-- How this suite runs when its checks may be attempted three times. -/
def clusterRunning : SuiteRun × Session :=
  clusterSuite.runChecks (({} : Listener).observer 0) CheckTask.quiet 3

theorem clusterSuite_scripted : ∀ task ∈ enabledTasks clusterSuite.categories,
    ∃ description script attempts, task.probe = scriptedProbe description script attempts := by
  intro task member
  simp only [enabledTasks, clusterSuite, Category.tasks, List.filter_cons, List.filter_nil,
    Bool.false_eq_true, if_false, if_true, List.flatMap_cons, List.flatMap_nil,
    List.filterMap_cons, List.filterMap_nil, Option.map_some, Option.map_none, List.append_nil,
    List.mem_cons, List.not_mem_nil, or_false] at member
  rcases member with rfl | rfl | rfl | rfl <;> exact ⟨_, _, _, rfl⟩

theorem clusterSuite_blind : ∀ task ∈ enabledTasks clusterSuite.categories, ∀ scope,
    (task.probe scope).IgnoresLog := by
  intro task member scope
  obtain ⟨description, script, attempts, scripted⟩ := clusterSuite_scripted task member
  rw [scripted]
  exact scriptedProbe_ignoresLog description script attempts scope

theorem clusterRunning_aggregates :
    clusterRunning.1.ending = .finished ⟨false, true⟩ ∧
      (∃ performed left, Progress (enabledTasks clusterSuite.categories) performed left ∧
        clusterRunning.1.checks = performed.map (·.run) ∧ performed.length = 3) ∧
        ∃ after,
          runChecks ⟨pruned clusterSuite.categories, CheckTask.briefly⟩
              (({} : Listener).observer 0) CheckTask.quiet 3 = (clusterRunning.1, after) ∧
            clusterRunning.2.SameButLog after := by
  have finished : clusterRunning.1.ending = .finished ⟨false, true⟩ :=
    Ending.eq_finished (by decide +kernel)
  obtain ⟨⟨performed, left, _, progress, checks, _⟩, alike⟩ :=
    runChecks_aggregates (Prod.eta clusterRunning).symm finished
  have counted : clusterRunning.1.checks.length = 3 := by decide +kernel
  rw [checks, List.length_map] at counted
  exact ⟨finished, ⟨performed, left, progress, checks, counted⟩,
    alike (pruned clusterSuite.categories) (pruned_pruned _) clusterSuite_blind
      fun result => Listener.observer_ignoresLog {} 0 result⟩

end Engine

end Checkup
