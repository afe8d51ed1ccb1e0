import Checkup.Proofs.Engine.Parallel
import Checkup.Proofs.Engine.Pruning

/-!
# What the flags of a policy do

A check that only warns counts as a warning when it fails, and a fatal one ends the run. Main
statement: to make checks warn changes neither attempts nor results but for their flag, and it makes
the verdict milder; to make checks harmless only adds results at the end, and it makes the verdict
stricter.
-/

namespace Checkup

open Checkup.Action (Mirrors)

/-- The same checker, or one that only warns. -/
def Checker.Warned (checker other : Checker) : Prop :=
  other = checker ∨ other = { checker with policy := { checker.policy with warning := true } }

/-- The same checker, or one that is not fatal. -/
def Checker.Relented (checker other : Checker) : Prop :=
  other = checker ∨ other = { checker with policy := { checker.policy with fatal := false } }

/-- The same result, or that of a check that only warns. -/
def CheckResult.Softened (result other : CheckResult) : Prop :=
  other = result ∨ other = { result with warning := true }

/-- The flag shows in the status of a failure and nowhere else. -/
theorem CheckResult.Softened.status {result other : CheckResult} (softened : result.Softened other) :
    other.status = result.status ∨ result.status = .error ∧ other.status = .warning := by
  rcases softened with rfl | rfl
  · exact .inl rfl
  · unfold CheckResult.status
    cases result.fault with
    | none => exact .inl rfl
    | some fault =>
      cases result.warning with
      | false => exact .inr ⟨rfl, rfl⟩
      | true => exact .inl rfl

structure Turn.Softened (turn other : Turn) : Prop where
  outcome : other.outcome = turn.outcome
  startedAt : other.startedAt = turn.startedAt
  endedAt : other.endedAt = turn.endedAt
  result : Option.Rel CheckResult.Softened turn.result other.result

/-- A verdict that is a success and warns if the other one does. -/
structure Verdict.Milder (verdict other : Verdict) : Prop where
  success : verdict.success = true → other.success = true
  warning : verdict.warning = true → other.warning = true

theorem Verdict.Milder.fail {verdict other : Verdict} (milder : verdict.Milder other)
    {checker checkerToo : Checker} (warned : checker.Warned checkerToo) :
    (verdict.fail checker.policy.warning).Milder (other.fail checkerToo.policy.warning) := by
  have flags : checker.policy.warning = true → checkerToo.policy.warning = true := by
    intro warns
    rcases warned with rfl | rfl
    · exact warns
    · rfl
  cases first : checker.policy.warning with
  | true =>
    rw [flags first]
    exact ⟨milder.success, fun _ => rfl⟩
  | false =>
    cases checkerToo.policy.warning with
    | true => exact ⟨fun failed => absurd failed Bool.false_ne_true, fun _ => rfl⟩
    | false => exact ⟨fun failed => absurd failed Bool.false_ne_true, milder.warning⟩

namespace CheckTask

variable {related : Session → Session → Prop} {configuration : Configuration} {observer : Observer}
  {task other : CheckTask}

theorem Paired.softened (paired : task.Paired Checker.Warned other) (retry : Bool)
    (outcome : Outcome) :
    Option.Rel CheckResult.Softened (task.category.resultOf? task.checker retry outcome)
      (other.category.resultOf? other.checker retry outcome) := by
  obtain ⟨checkers, sameCategory⟩ := paired.category
  rw [sameCategory]
  rcases paired.checker with same | warned
  · rw [same]
    cases outcome with
    | skip reason => exact .none
    | ok | verbose | failure => exact .some (.inl rfl)
  · rw [warned]
    cases outcome with
    | skip reason => exact .none
    | ok | verbose | failure => exact .some (.inr rfl)

theorem Paired.probe_eq (paired : task.Paired Checker.Warned other) : other.probe = task.probe := by
  have held : other.checker.probe = task.checker.probe := by
    rcases paired.checker with same | warned
    · rw [same]
    · rw [warned]
  rw [paired.held, paired.heldToo] at held
  exact Option.some.inj held

theorem tell_softened
    (watches : ∀ result resultToo : CheckResult, result.Softened resultToo →
      Mirrors related related (observer result) (observer resultToo))
    {result resultToo : Option CheckResult}
    (softened : Option.Rel CheckResult.Softened result resultToo) :
    Mirrors related related (Category.tell observer result)
      (Category.tell observer resultToo) := by
  cases softened with
  | none => exact Action.mirrors_pure ()
  | some softened => exact watches _ _ softened

/-- A check that only warns makes the attempts of the check, if probe and observer do not look at the
flag. -/
theorem Paired.abreast_of_warned (paired : task.Paired Checker.Warned other)
    (likeness : Session.Likeness related)
    (probes : ∀ scope, Mirrors related related (task.probe scope) (task.probe scope))
    (watches : ∀ result resultToo : CheckResult, result.Softened resultToo →
      Mirrors related related (observer result) (observer resultToo))
    {stage : Stage}
    (attempted : task.attempt configuration stage.started = (stage.answer, stage.ended))
    {startedToo : Session} (alike : related stage.started startedToo) :
    Abreast related Turn.Softened configuration observer task other startedToo stage := by
  have entered := likeness.entered alike task.category.scope configuration.timeout
  have sameProbe := paired.probe_eq
  have sameRule : other.checker.policy.allowsRetry = task.checker.policy.allowsRetry := by
    rcases paired.checker with same | warned
    · rw [same]
    · rw [warned]
      rfl
  obtain ⟨sameAnswer, called⟩ := probes stage.started.nextScope _ _ entered
  have judged := task.attempt_eq_decided configuration stage.started
  have calledToo : related
      (task.probe stage.started.nextScope
        (stage.started.entered task.category.scope configuration.timeout)).2
      (other.probe stage.started.nextScope
        (startedToo.entered task.category.scope configuration.timeout)).2 := by
    rw [sameProbe]
    exact called
  obtain ⟨left, answered⟩ := paired.attempt_alike sameRule likeness alike calledToo
  rw [sameProbe, sameAnswer, ← judged] at answered
  rw [attempted] at left answered
  have attemptedToo : other.attempt configuration startedToo =
      (stage.answer, (other.attempt configuration startedToo).2) := Prod.ext answered rfl
  refine CheckTask.abreast_of_answer ?_ ?_ attemptedToo left
  · intro outcome retry
    exact tell_softened watches (paired.softened retry outcome)
  · intro outcome retry startedAt endedAt
    exact ⟨rfl, rfl, rfl, paired.softened retry outcome⟩

theorem Paired.run_relented (paired : task.Paired Checker.Relented other) (limit number : Nat)
    (session : Session) :
    other.run configuration observer limit number session =
      task.run configuration observer limit number session := by
  obtain ⟨category, checker, probe⟩ := task
  obtain ⟨categoryToo, checkerToo, probeToo⟩ := other
  obtain ⟨⟨checkers, sameCategory⟩, relented, held, heldToo⟩ := paired
  obtain ⟨fatal, sameChecker⟩ : ∃ fatal,
      checkerToo = { checker with policy := { checker.policy with fatal } } := by
    rcases relented with same | relented
    · exact ⟨checker.policy.fatal, same⟩
    · exact ⟨false, relented⟩
  -- Nothing in a run reads the fatal flag, so that the two runs unfold to the same.
  dsimp only at sameCategory held heldToo
  subst sameCategory sameChecker
  obtain rfl : probeToo = probe := Option.some.inj (heldToo.symm.trans held)
  induction limit generalizing number session with
  | zero => rfl
  | succ limit inductionHypothesis =>
    rw [run, run]
    simp only [inductionHypothesis]
    rfl

end CheckTask

namespace Engine

variable {configuration : Configuration} {observer : Observer} {limit : Nat}

/-- A verdict that has failed or warned still does after more checks. -/
theorem Sweep.stricter {items : List Item} {verdict last : Verdict} {session final : Session}
    {performed : List Performance} {ending : Ending Verdict}
    (sweep : Sweep configuration observer limit items verdict session performed ending final)
    (finished : ending = .finished last) :
    (last.success = true → verdict.success = true) ∧
      (last.warning = false → verdict.warning = false) := by
  obtain ⟨success, warning⟩ := Performance.foldl_addTo performed verdict
  rw [← sweep.verdict_eq finished] at success warning
  constructor
  · intro passes
    by_contra failed
    rw [success.mpr (.inl (eq_false_of_ne_true failed))] at passes
    cases passes
  · intro silent
    by_contra warns
    rw [warning.mpr (.inl (eq_true_of_ne_false warns))] at silent
    cases silent

/-- One run of a suite goes on as another one does, and maybe further; the verdict on it is not
better. If the other one does not come to its end, the two are the same. -/
structure Outlasts (run other : SuiteRun) : Prop where
  checks : run.checks <+: other.checks
  verdict : ∀ last, other.ending = .finished last → ∃ first, run.ending = .finished first ∧
    (last.success = true → first.success = true) ∧ (last.warning = false → first.warning = false)
  broken : (∀ first, run.ending ≠ .finished first) → other = run

theorem Outlasts.refl (run : SuiteRun) : Outlasts run run :=
  ⟨List.prefix_rfl, fun last finished => ⟨last, finished, id, id⟩, fun _ => rfl⟩

theorem Outlasts.results {run other : SuiteRun} (outlasts : Outlasts run other) :
    run.results <+: other.results := by
  obtain ⟨more, extended⟩ := outlasts.checks
  refine ⟨more.flatMap CheckRun.results, ?_⟩
  rw [SuiteRun.results, SuiteRun.results, ← extended, List.flatMap_append]

theorem Outlasts.prepend {run other : SuiteRun} (outlasts : Outlasts run other)
    (check : CheckRun) : Outlasts (run.prepend check) (other.prepend check) where
  checks := List.prefix_cons_inj check |>.mpr outlasts.checks
  verdict := outlasts.verdict
  broken unfinished := congrArg (SuiteRun.prepend check) (outlasts.broken unfinished)

/-- A run that a fatal check ends outlives it where that check is not fatal. -/
theorem outlasts_halted (check : CheckRun) (items : List Item) (verdict : Verdict)
    (session : Session) :
    Outlasts ⟨[check], .finished verdict⟩
      ((runItems configuration observer limit items verdict session).1.prepend check) where
  checks := (List.prefix_cons_inj check).mpr List.nil_prefix
  verdict last finished := by
    obtain ⟨performed, sweep, _⟩ :=
      exists_sweep (Prod.eta (runItems configuration observer limit items verdict session)).symm
    exact ⟨verdict, rfl, sweep.stricter finished⟩
  broken unfinished := absurd rfl (unfinished verdict)

/-- A suite without some of its fatal flags goes on as the suite does, and maybe further. -/
theorem runItems_relented {items others : List Item}
    (paired : List.Forall₂ (Item.Paired Checker.Relented) items others) (verdict : Verdict)
    (session : Session) :
    Outlasts (runItems configuration observer limit items verdict session).1
      (runItems configuration observer limit others verdict session).1 := by
  induction paired generalizing verdict session with
  | nil => exact .refl _
  | @cons item other later laterToo first rest inductionHypothesis =>
    cases first with
    | passOver same =>
      rw [runItems, runItems, same]
      exact inductionHypothesis verdict _
    | @check task other pair =>
      rcases ran : task.run configuration observer limit 1 session with ⟨check, ended⟩
      have ranToo := (pair.run_relented limit 1 session).trans ran
      obtain ⟨sameWarning, relents⟩ :
          other.checker.policy.warning = task.checker.policy.warning ∧
            (task.checker.policy.fatal = false → other.checker.policy.fatal = false) := by
        rcases pair.checker with same | relented
        · rw [same]
          exact ⟨rfl, id⟩
        · rw [relented]
          exact ⟨rfl, fun _ => rfl⟩
      rw [runItems, runItems, ran, ranToo]
      cases ending : check.ending with
      | escaped | unfinished =>
        simp only [ending]
        exact .refl _
      | finished passed =>
        cases passed with
        | true =>
          simp only [ending]
          exact (inductionHypothesis verdict ended).prepend check
        | false =>
          simp only [ending, sameWarning]
          -- Only where the flag was taken away does the second run outlive the first one.
          cases fatal : task.checker.policy.fatal with
          | false =>
            rw [relents fatal]
            exact (inductionHypothesis _ ended).prepend check
          | true =>
            cases other.checker.policy.fatal with
            | true => exact .refl _
            | false => exact outlasts_halted check _ _ _

/-- The flags of policies act only as they say. If neither probes nor observer look at it, to make
some checks warn leaves the checks that are run, their attempts and the results as they are, but for
the flag, and makes the verdict milder at most. To make some fatal checks harmless adds checks at the
end, and makes the verdict stricter at most. -/
theorem runChecks_flags {engine : Engine} {session final : Session} {run : SuiteRun}
    (ran : engine.runChecks observer session limit = (run, final)) :
    (∃ performed,
      Sweep engine.configuration observer limit (agenda engine.categories) {} session performed
          run.ending final ∧
        run.checks = performed.map (·.run) ∧
          ∀ related, Session.Likeness related →
            (∀ task ∈ enabledTasks engine.categories, ∀ scope,
              Mirrors related related (task.probe scope) (task.probe scope)) →
            (∀ result resultToo : CheckResult, result.Softened resultToo →
              Mirrors related related (observer result) (observer resultToo)) →
              ∀ others, List.Forall₂ (Category.Paired Checker.Warned) engine.categories others →
                ∃ runToo finalToo performedToo,
                  runChecks ⟨others, engine.configuration⟩ observer session limit =
                      (runToo, finalToo) ∧
                    Sweep engine.configuration observer limit (agenda others) {} session
                        performedToo runToo.ending finalToo ∧
                      runToo.checks = performedToo.map (·.run) ∧
                        List.Forall₂ (fun done other => done.task.Paired Checker.Warned other.task)
                            performed performedToo ∧
                          List.Forall₂ (CheckRun.Abreast Turn.Softened) run.checks runToo.checks ∧
                            List.Forall₂ CheckResult.Softened run.results runToo.results ∧
                              Ending.Abreast Verdict.Milder run.ending runToo.ending ∧
                                related final finalToo) ∧
      ∀ others, List.Forall₂ (Category.Paired Checker.Relented) engine.categories others →
        ∃ runToo finalToo,
          runChecks ⟨others, engine.configuration⟩ observer session limit = (runToo, finalToo) ∧
            run.results <+: runToo.results ∧ Outlasts run runToo := by
  obtain ⟨performed, sweep, checks⟩ := exists_sweep ran
  refine ⟨⟨performed, sweep, checks, ?_⟩, ?_⟩
  · intro related likeness probes watches others paired
    have probed : ∀ checker other : Checker, checker.Warned other →
        other.probe.isSome = checker.probe.isSome := by
      rintro checker other (rfl | rfl) <;> rfl
    have sameFatal : ∀ checker other : Checker, checker.Warned other →
        other.policy.fatal = checker.policy.fatal := by
      rintro checker other (rfl | rfl) <;> rfl
    have steps : ∀ pair ∈ performed.zip (enabledTasks others),
        pair.1.task.Paired Checker.Warned pair.2 →
          ∀ stages, pair.1.Attempts engine.configuration observer limit stages →
            ∀ stage ∈ stages, ∀ startedToo, related stage.started startedToo →
              CheckTask.Abreast related Turn.Softened engine.configuration observer pair.1.task
                pair.2 startedToo stage := by
      intro pair member tasksPaired stages attempts stage stageMember startedToo alike
      obtain ⟨known, _⟩ := sweep.ran pair.1 (List.of_mem_zip member).1
      rw [agenda_tasks] at known
      exact tasksPaired.abreast_of_warned likeness (probes pair.1.task known) watches
        (attempts.course.attempted stage stageMember) alike
    have counts : ∀ checker other : Checker, checker.Warned other →
        ∀ verdict verdictToo : Verdict, verdict.Milder verdictToo →
          (verdict.fail checker.policy.warning).Milder (verdictToo.fail other.policy.warning) :=
      fun _ _ warned _ _ milder => milder.fail warned
    obtain ⟨runToo, finalToo, ranToo, abreast, endings, sameFinal⟩ :=
      runChecks_abreast likeness probed sameFatal counts ⟨id, id⟩ paired sweep checks steps
        (likeness.refl session)
    obtain ⟨performedToo, sweepToo, checksToo⟩ := exists_sweep ranToo
    have sameLength : performedToo.length = performed.length := by
      have counted := abreast.length_eq
      rw [checks, checksToo, List.length_map, List.length_map] at counted
      exact counted.symm
    have tasks := sweep.tasks_paired (agenda_paired probed paired) sweepToo sameLength
    have results := SuiteRun.results_abreast (fun _ _ softened => softened.result) abreast
    exact ⟨runToo, finalToo, performedToo, ranToo, sweepToo, checksToo, tasks, abreast, results,
      endings, sameFinal⟩
  · intro others paired
    have probed : ∀ checker other : Checker, checker.Relented other →
        other.probe.isSome = checker.probe.isSome := by
      rintro checker other (rfl | rfl) <;> rfl
    have outlasts : Outlasts (engine.runChecks observer session limit).1
        (runChecks ⟨others, engine.configuration⟩ observer session limit).1 :=
      runItems_relented (agenda_paired probed paired) {} session
    rw [ran] at outlasts
    exact ⟨_, _, rfl, outlasts.results, outlasts⟩

end Engine

section Flagless

/-- An entry of the journal without the flag of its result. -/
def Entry.unflagged : Entry → Entry
  | observed result second => observed { result with warning := false } second
  | entry => entry

/-- Two sessions differ at most in their logs and in the flags of the results in their journals. -/
def Session.SameButFlags (session other : Session) : Prop :=
  ∃ desk journal, other = { session with desk, journal } ∧
    journal.map Entry.unflagged = session.journal.map Entry.unflagged

theorem Session.likeness_sameButFlags : Session.Likeness SameButFlags where
  refl session := ⟨session.desk, session.journal, rfl, rfl⟩
  frame := by
    rintro session other ⟨desk, journal, rfl, _⟩
    rfl
  moved := by
    rintro session other ⟨desk, journal, rfl, same⟩ frame
    exact ⟨desk, journal, rfl, same⟩
  logged := by
    rintro session other ⟨_, journal, rfl, same⟩ desk deskToo
    exact ⟨deskToo, journal, rfl, same⟩

namespace Action

theorem note_mirrors {entry other : Entry} (same : other.unflagged = entry.unflagged) :
    Mirrors Session.SameButFlags Session.SameButFlags (note entry) (note other) := by
  rintro session _ ⟨desk, journal, rfl, flagless⟩
  refine ⟨rfl, desk, other :: journal, rfl, ?_⟩
  show other.unflagged :: journal.map Entry.unflagged =
    entry.unflagged :: session.journal.map Entry.unflagged
  rw [same, flagless]

theorem flagless_observable : Observable fun action =>
    Mirrors Session.SameButFlags Session.SameButFlags action action where
  pure value := mirrors_pure value
  raise _ := fun _ _ same => ⟨rfl, same⟩
  look view elsewhere := by
    rintro session _ ⟨desk, journal, rfl, same⟩
    exact ⟨congrArg Except.ok (elsewhere session desk journal), desk, journal, rfl, same⟩
  bind start rest := start.bind (fun _ _ same => same) rest
  wait scope seconds := Session.likeness_sameButFlags.mirrors (framed_wait scope seconds)
  cancel _ := by
    rintro session _ ⟨desk, journal, rfl, same⟩
    exact ⟨rfl, desk, journal, rfl, same⟩
  record _ _ := by
    rintro session _ ⟨desk, journal, rfl, same⟩
    exact ⟨rfl, desk, journal, rfl, same⟩
  settle start := start.settle
  ordinal _ := by
    rintro session _ ⟨desk, journal, rfl, same⟩
    exact ⟨rfl, desk, journal, rfl, same⟩
  note _ := note_mirrors rfl

end Action

theorem scriptedProbe_flagless (description : String) (script : Nat)
    (attempts : List ScriptedAttempt) (scope : ScopeId) :
    Mirrors Session.SameButFlags Session.SameButFlags
      (scriptedProbe description script attempts scope)
      (scriptedProbe description script attempts scope) :=
  scriptedProbe_observable Action.flagless_observable description script attempts scope
    fun _ _ seconds _ => Session.likeness_sameButFlags.mirrors (Action.framed_advance seconds)

/-- Listeners note the results that they are told, and do not look at flags otherwise. -/
theorem Listener.observer_flagless (listener : Listener) (script : Nat)
    {result other : CheckResult} (softened : result.Softened other) :
    Mirrors Session.SameButFlags Session.SameButFlags (listener.observer script result)
      (listener.observer script other) := by
  have same : ∀ session other : Session, session.SameButFlags other → session.SameButFlags other :=
    fun _ _ alike => alike
  have observable := Action.flagless_observable
  have observes : Mirrors Session.SameButFlags Session.SameButFlags (Action.observe result)
      (Action.observe other) := by
    refine (observable.look Session.now fun _ _ _ => rfl).bind same fun second => ?_
    refine Action.note_mirrors ?_
    rcases softened with rfl | rfl <;> rfl
  exact (observable.ordinal _).bind same fun before =>
    observes.bind same fun _ => listener.react_composable observable.toComposable (before + 1)

end Flagless

def Category.repoliced (change : Policy → Policy) (category : Category) : Category :=
  { category with
    checkers := category.checkers.map fun checker =>
      { checker with policy := change checker.policy } }

theorem Category.paired_repoliced {pairs : Checker → Checker → Prop} {change : Policy → Policy}
    (changed : ∀ checker : Checker, pairs checker { checker with policy := change checker.policy })
    (categories : List Category) :
    List.Forall₂ (Category.Paired pairs) categories
      (categories.map (Category.repoliced change)) := by
  rw [List.forall₂_map_right_iff, List.forall₂_same]
  intro category _
  refine ⟨_, rfl, ?_⟩
  rw [List.forall₂_map_right_iff, List.forall₂_same]
  exact fun checker _ => changed checker

def Policy.warned (policy : Policy) : Policy :=
  { policy with warning := true }

def Policy.relented (policy : Policy) : Policy :=
  { policy with fatal := false }

namespace Engine

/-- How the cluster runs with other policies when its checks may be attempted three times. -/
def clusterRepoliced (change : Policy → Policy) : SuiteRun × Session :=
  runChecks ⟨clusterSuite.categories.map (Category.repoliced change), CheckTask.briefly⟩
    (({} : Listener).observer 0) CheckTask.quiet 3

theorem clusterRunning_flags :
    clusterRunning.1.ending = .finished ⟨false, true⟩ ∧
      (clusterRepoliced Policy.warned).1.ending = .finished ⟨true, true⟩ ∧
        List.Forall₂ CheckResult.Softened clusterRunning.1.results
            (clusterRepoliced Policy.warned).1.results ∧
          clusterRunning.1.results.length = 3 ∧
            clusterRunning.1.results <+: (clusterRepoliced Policy.relented).1.results ∧
              (clusterRepoliced Policy.relented).1.results.length = 4 := by
  obtain ⟨⟨performed, _, _, warned⟩, relented⟩ := runChecks_flags (Prod.eta clusterRunning).symm
  have probes : ∀ task ∈ enabledTasks clusterSuite.categories, ∀ scope,
      Mirrors Session.SameButFlags Session.SameButFlags (task.probe scope) (task.probe scope) := by
    intro task member scope
    obtain ⟨description, script, attempts, scripted⟩ := clusterSuite_scripted task member
    rw [scripted]
    exact scriptedProbe_flagless description script attempts scope
  have softened : List.Forall₂ CheckResult.Softened clusterRunning.1.results
      (clusterRepoliced Policy.warned).1.results := by
    have paired : List.Forall₂ (Category.Paired Checker.Warned) clusterSuite.categories
        (clusterSuite.categories.map (Category.repoliced Policy.warned)) :=
      Category.paired_repoliced (fun _ => .inr rfl) clusterSuite.categories
    obtain ⟨runToo, _, _, ranToo, _, _, _, _, results, _⟩ :=
      warned _ Session.likeness_sameButFlags probes
        (fun _ _ softened => Listener.observer_flagless {} 0 softened) _ paired
    rw [show clusterRepoliced Policy.warned = _ from ranToo]
    exact results
  have prolonged : clusterRunning.1.results <+: (clusterRepoliced Policy.relented).1.results := by
    have paired : List.Forall₂ (Category.Paired Checker.Relented) clusterSuite.categories
        (clusterSuite.categories.map (Category.repoliced Policy.relented)) :=
      Category.paired_repoliced (fun _ => .inr rfl) clusterSuite.categories
    obtain ⟨runToo, _, ranToo, results, _⟩ := relented _ paired
    rw [show clusterRepoliced Policy.relented = _ from ranToo]
    exact results
  exact ⟨Ending.eq_finished (by decide +kernel), Ending.eq_finished (by decide +kernel), softened,
    by decide +kernel, prolonged, by decide +kernel⟩

end Engine

end Checkup
