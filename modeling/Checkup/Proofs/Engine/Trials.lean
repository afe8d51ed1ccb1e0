import Checkup.Proofs.Engine.Confinement

/-!
# The attempts of a run

A run takes its session through one attempt after the other, over all its checks. After an attempt
the observer is told, and there may be a wait; between two checks only the log is written. Main
statements: every run has such a passage, and what holds of a session through every attempt and
every telling holds all the way.
-/

namespace Checkup

structure Trial where
  task : CheckTask
  configuration : Configuration
  stage : Stage

namespace Trial

def entered (trial : Trial) : Session :=
  trial.task.entered trial.configuration trial.stage

def scope (trial : Trial) : ScopeId :=
  trial.stage.scope

/-- The attempt was made, and the observer was told of it unless it ended in a fault. -/
structure Made (observer : Observer) (trial : Trial) : Prop where
  attempted : trial.task.attempt trial.configuration trial.stage.started =
    (trial.stage.answer, trial.stage.ended)
  told : trial.stage.left = trial.stage.ended ∨ ∃ number outcome retry,
    (trial.task.deliver trial.configuration observer number outcome retry trial.stage.ended).2 =
      trial.stage.left

variable {observer : Observer} {trial : Trial}

theorem Made.exists_ended_eq (made : trial.Made observer) :
    ∃ desk, trial.stage.ended =
      ({ (trial.task.probe trial.scope trial.entered).2 with desk } : Session).released
        trial.scope := by
  obtain ⟨desk, ended⟩ := trial.task.exists_attempt_eq trial.configuration trial.stage.started
  rw [made.attempted] at ended
  exact ⟨desk, ended⟩

/-- Telling of an attempt goes along a relation if the observer and waiting do, and writing to the
log. -/
theorem Made.along_left {R : Session → Session → Prop} (made : trial.Made observer)
    (onward : Session.Onward R)
    (logs : ∀ session other : Session, session.SameButLog other → R session other)
    (waits : ∀ scope seconds, (Action.wait scope seconds).Along R)
    (watches : ∀ result, (observer result).Along R) : R trial.stage.ended trial.stage.left := by
  rcases made.told with untold | ⟨number, outcome, retry, delivered⟩
  · rw [untold]
    exact onward.stay _
  · rw [← delivered]
    exact Category.deliver_along onward logs (waits _ _) watches number outcome retry _

end Trial

inductive Passage (observer : Observer) : Session → List Trial → Session → Prop where
  | stay {session final : Session} (same : session.SameButLog final) :
      Passage observer session [] final
  | trial {session final : Session} {trial : Trial} {later : List Trial}
      (same : session.SameButLog trial.stage.started) (made : trial.Made observer)
      (onward : Passage observer trial.stage.left later final) :
      Passage observer session (trial :: later) final

namespace Passage

variable {observer : Observer} {session final : Session} {trials : List Trial}

theorem logged {earlier : Session} (same : earlier.SameButLog session)
    (passage : Passage observer session trials final) : Passage observer earlier trials final := by
  cases passage with
  | stay sameToo => exact .stay (same.trans sameToo)
  | trial sameToo made onward => exact .trial (same.trans sameToo) made onward

theorem append {between : Session} {later : List Trial}
    (passage : Passage observer session trials between)
    (onward : Passage observer between later final) :
    Passage observer session (trials ++ later) final := by
  induction passage with
  | stay same => exact onward.logged same
  | trial same made _ inductionHypothesis => exact .trial same made (inductionHypothesis onward)

theorem made (passage : Passage observer session trials final) :
    ∀ trial ∈ trials, trial.Made observer := by
  induction passage with
  | stay same => simp
  | trial same made onward inductionHypothesis =>
    exact List.forall_mem_cons.mpr ⟨made, inductionHypothesis⟩

/-- What holds of the attempts so far and the session holds all the way, if every attempt and every
telling keeps it, and writing to the log. -/
theorem invariant {P : List Trial → Session → Prop}
    (passage : Passage observer session trials final)
    (logs : ∀ earlier session other, session.SameButLog other → P earlier session →
      P earlier other)
    (attempts : ∀ earlier, ∀ trial ∈ trials, trial.Made observer →
      P earlier trial.stage.started → P (earlier ++ [trial]) trial.stage.ended)
    (tellings : ∀ earlier, ∀ trial ∈ trials, trial.Made observer →
      P earlier trial.stage.ended → P earlier trial.stage.left)
    {past : List Trial} (holds : P past session) :
    P (past ++ trials) final ∧ ∀ before trial after, trials = before ++ trial :: after →
      P (past ++ before) trial.stage.started ∧
        P (past ++ before ++ [trial]) trial.stage.ended ∧
          P (past ++ before ++ [trial]) trial.stage.left := by
  -- The past grows by the first attempt of the passage before the others are made.
  induction passage generalizing past with
  | stay same =>
    refine ⟨?_, by simp⟩
    rw [List.append_nil]
    exact logs past _ _ same holds
  | @trial session final first later same made onward inductionHypothesis =>
    have started := logs past _ _ same holds
    have ended := attempts past first List.mem_cons_self made started
    have left := tellings _ first List.mem_cons_self made ended
    obtain ⟨atEnd, between⟩ := inductionHypothesis
      (fun earlier next member => attempts earlier next (List.mem_cons_of_mem first member))
      (fun earlier next member => tellings earlier next (List.mem_cons_of_mem first member)) left
    refine ⟨by simpa using atEnd, ?_⟩
    intro before next after split
    cases before with
    | nil =>
      obtain ⟨rfl, rfl⟩ := List.cons.inj split
      rw [List.append_nil]
      exact ⟨started, ended, left⟩
    | cons other before =>
      obtain ⟨rfl, rest⟩ := List.cons.inj split
      simpa using between before next after rest

end Passage

/-- A course takes its session through its attempts. -/
theorem CheckTask.Course.passage {task : CheckTask} {configuration : Configuration}
    {observer : Observer} {number : Nat} {session final : Session} {stages : List Stage}
    {ending : Ending Bool}
    (course : task.Course configuration observer number session stages ending final) :
    Passage observer session (stages.map fun stage => ⟨task, configuration, stage⟩) final := by
  induction course with
  | cut number session => exact .stay (.refl session)
  | raised attempted => exact .trial (.refl _) ⟨attempted, .inl rfl⟩ (.stay (.refl _))
  | untold attempted delivered | last attempted delivered =>
    have told := congrArg Prod.snd delivered
    exact .trial (.refl _) ⟨attempted, .inr ⟨_, _, _, told⟩⟩ (.stay (.refl _))
  | again attempted delivered onward inductionHypothesis =>
    have told := congrArg Prod.snd delivered
    exact .trial (.refl _) ⟨attempted, .inr ⟨_, _, _, told⟩⟩ inductionHypothesis

theorem forall_enabledTasks {P : Probe → Prop} {categories : List Category}
    (holds : ∀ category ∈ categories, ∀ checker ∈ category.checkers, ∀ probe,
      checker.probe = some probe → P probe) :
    ∀ task ∈ enabledTasks categories, P task.probe := by
  intro task member
  obtain ⟨category, enabled, among⟩ := List.mem_flatMap.mp member
  obtain ⟨checker, checks, probed⟩ := List.mem_filterMap.mp among
  obtain ⟨probe, held, rfl⟩ := Option.map_eq_some_iff.mp probed
  exact holds category (List.mem_of_mem_filter enabled) checker checks probe held

/-- A check that a suite has run, with its attempts. -/
structure Round (configuration : Configuration) (observer : Observer) (limit : Nat) where
  done : Performance
  stages : List Stage
  attempts : done.Attempts configuration observer limit stages

def Round.trials {configuration : Configuration} {observer : Observer} {limit : Nat}
    (round : Round configuration observer limit) : List Trial :=
  round.stages.map fun stage => ⟨round.done.task, configuration, stage⟩

namespace Engine

variable {configuration : Configuration} {observer : Observer} {limit : Nat}

theorem Sweep.exists_rounds {items : List Item} {verdict : Verdict} {session final : Session}
    {performed : List Performance} {ending : Ending Verdict}
    (sweep : Sweep configuration observer limit items verdict session performed ending final) :
    ∃ rounds : List (Round configuration observer limit), rounds.map (·.done) = performed ∧
      Passage observer session (rounds.flatMap (·.trials)) final := by
  have checked : ∀ (task : CheckTask) (started : Session) {ended : Session} {run : CheckRun},
      task.run configuration observer limit 1 started = (run, ended) →
        ∃ round : Round configuration observer limit, round.done = ⟨task, run, started, ended⟩ ∧
          Passage observer started round.trials ended := by
    intro task started ended run ran
    obtain ⟨stages, course, turns, _, unfinished⟩ := CheckTask.exists_course ran
    exact ⟨⟨⟨task, run, started, ended⟩, stages, ⟨ran, course, turns, unfinished⟩⟩, rfl,
      course.passage⟩
  -- Only the checks that are run are rounds; a category that is passed over adds none.
  induction sweep with
  | complete same => exact ⟨[], rfl, .stay same⟩
  | passedOver same onward inductionHypothesis =>
    obtain ⟨rounds, performed, passage⟩ := inductionHypothesis
    exact ⟨rounds, performed, passage.logged same⟩
  | escaped ran | unfinished ran =>
    obtain ⟨round, done, passage⟩ := checked _ _ ran
    exact ⟨[round], by rw [List.map_singleton, done], by simpa using passage⟩
  | halted ran failed fatal same =>
    obtain ⟨round, done, passage⟩ := checked _ _ ran
    refine ⟨[round], by rw [List.map_singleton, done], ?_⟩
    simpa using passage.append (.stay same)
  | next ran finished goesOn onward inductionHypothesis =>
    obtain ⟨round, done, passage⟩ := checked _ _ ran
    obtain ⟨rounds, performed, passageToo⟩ := inductionHypothesis
    refine ⟨round :: rounds, by rw [List.map_cons, done, performed], ?_⟩
    rw [List.flatMap_cons]
    exact passage.append passageToo

/-- A run comprises rounds: they are its checks, in order, and it takes its session through their
attempts. -/
structure Comprises (engine : Engine) (observer : Observer) (limit : Nat) (session : Session)
    (run : SuiteRun) (final : Session) (rounds : List (Round engine.configuration observer limit)) :
    Prop where
  ran : engine.runChecks observer session limit = (run, final)
  sweep : Sweep engine.configuration observer limit (agenda engine.categories) {} session
    (rounds.map (·.done)) run.ending final
  checks : run.checks = rounds.map (·.done.run)
  passage : Passage observer session (rounds.flatMap (·.trials)) final

theorem exists_comprises {engine : Engine} {session final : Session} {run : SuiteRun}
    (ran : engine.runChecks observer session limit = (run, final)) :
    ∃ rounds : List (Round engine.configuration observer limit),
      engine.Comprises observer limit session run final rounds := by
  obtain ⟨performed, sweep, checks⟩ := exists_sweep ran
  obtain ⟨rounds, rfl, passage⟩ := sweep.exists_rounds
  exact ⟨rounds, ran, sweep, checks.trans (List.map_map ..), passage⟩

theorem Comprises.known {engine : Engine} {session final : Session} {run : SuiteRun}
    {rounds : List (Round engine.configuration observer limit)}
    (comprises : engine.Comprises observer limit session run final rounds) :
    ∀ trial ∈ rounds.flatMap (·.trials), trial.task ∈ enabledTasks engine.categories := by
  intro trial member
  obtain ⟨round, among, stage, _, rfl⟩ := by simpa [Round.trials] using member
  rw [← agenda_tasks]
  exact (comprises.sweep.ran round.done (List.mem_map_of_mem among)).1

end Engine

end Checkup
