import Checkup.Proofs.Engine.Parallel
import Mathlib.Logic.Relation

/-!
# How probes signal failures

A probe may raise a fault, return it, or return it as a failure. Main statements: for ordinary faults
it makes no difference to a run which of these a probe does; a fault that is not ordinary ends the run
of a suite at once if it is raised, and is a failure like any other if it is returned.
-/

namespace Checkup

/-- One way to signal something replaced by another one. -/
inductive Resignals : Except Fault Returned → Except Fault Returned → Prop where
  | returned {fault : Fault} (ordinary : fault.isOrdinary = true) :
      Resignals (.error fault) (.ok (.fault fault))
  | failure {fault : Fault} (ordinary : fault.isOrdinary = true) :
      Resignals (.error fault) (.ok (.outcome (.failure fault)))
  | refused {value : Value} (unsupported : value ≠ .null) :
      Resignals (.ok (.value value))
        (.error (.badType ("check returned unsupported value of type " ++ value.kind)))

theorem Resignals.same_outcome {answer other : Except Fault Returned}
    (signals : Relation.EqvGen Resignals answer other) :
    Outcome.ofAnswer (Category.judged other) = Outcome.ofAnswer (Category.judged answer) := by
  induction signals with
  | rel answer other resignals =>
    cases resignals with
    | returned ordinary | failure ordinary => exact (if_pos ordinary).symm
    | @refused value unsupported =>
      cases value with
      | null => exact absurd rfl unsupported
      | flag | int | real | text | list | record => rfl
  | refl => rfl
  | symm _ _ _ inductionHypothesis => exact inductionHypothesis.symm
  | trans _ _ _ _ _ first second => exact second.trans first

/-- A probe that returns the ordinary faults that it would raise. -/
def Probe.returning (probe : Probe) : Probe := fun scope session =>
  match probe scope session with
  | (.error fault, after) =>
    (if fault.isOrdinary then .ok (.fault fault) else .error fault, after)
  | called => called

namespace CheckTask

variable {task : CheckTask} {configuration : Configuration} {observer : Observer}

theorem mimics_of_agrees {answers : Except Fault Returned → Except Fault Returned → Prop}
    (ignores : ∀ scope, (task.probe scope).IgnoresLog) {probe : Probe}
    (agrees : ∀ scope session, (probe scope session).2 = (task.probe scope session).2 ∧
      answers (task.probe scope session).1 (probe scope session).1) (stage : Stage) :
    task.Mimics answers configuration stage probe := by
  rintro entered ⟨desk, rfl⟩
  obtain ⟨sameAnswer, left⟩ := ignores stage.started.nextScope
    (stage.started.entered task.category.scope configuration.timeout) desk
  obtain ⟨sameEnd, related⟩ := agrees stage.started.nextScope
    { stage.started.entered task.category.scope configuration.timeout with desk }
  rw [sameEnd, ← sameAnswer]
  exact ⟨left, related⟩

theorem returning_mimics (ignores : ∀ scope, (task.probe scope).IgnoresLog) (stage : Stage) :
    task.Mimics (Relation.EqvGen Resignals) configuration stage task.probe.returning := by
  refine mimics_of_agrees ignores ?_ stage
  intro scope session
  unfold Probe.returning
  rcases task.probe scope session with ⟨fault | returned, after⟩
  · refine ⟨rfl, ?_⟩
    by_cases ordinary : fault.isOrdinary = true
    · simp only [ordinary, if_true]
      exact .rel _ _ (.returned ordinary)
    · simp only [ordinary]
      exact .refl _
  · exact ⟨rfl, .refl _⟩

theorem mimics_self {answers : Except Fault Returned → Except Fault Returned → Prop}
    (ignores : ∀ scope, (task.probe scope).IgnoresLog) (same : ∀ answer, answers answer answer)
    (stage : Stage) : task.Mimics answers configuration stage task.probe :=
  mimics_of_agrees ignores (fun _ _ => ⟨rfl, same _⟩) stage

def Answers (task : CheckTask) (configuration : Configuration) (stage : Stage)
    (answer : Except Fault Returned) (after : Session) : Prop :=
  task.probe stage.started.nextScope
    (stage.started.entered task.category.scope configuration.timeout) = (answer, after)

/-- A raised fault that is not ordinary ends the attempt, and nothing but the scope of the attempt is
changed after that. -/
theorem attempt_of_raised {stage : Stage} {fault : Fault} {after : Session}
    (raised : task.Answers configuration stage (.error fault) after)
    (grave : fault.isOrdinary = false) :
    task.attempt configuration stage.started =
      (.error fault, after.released stage.started.nextScope) := by
  rw [attempt, Category.attempt_eq, raised]
  simp only [Category.judged, Except.bind, Outcome.ofAnswer, Category.logRaised, grave,
    Bool.false_eq_true, if_false]
  rfl

theorem attempt_snd (task : CheckTask) (configuration : Configuration) (session : Session) :
    (task.attempt configuration session).2 =
      (task.category.attempt task.checker configuration.timeout task.probe session).2 := by
  rw [attempt]
  rcases task.category.attempt task.checker configuration.timeout task.probe session with
    ⟨fault | outcome, ended⟩ <;> rfl

theorem fails_of_answer {stage : Stage} {answer : Except Fault Returned} {after : Session}
    {cause : Fault} (answered : task.Answers configuration stage answer after)
    (failed : Outcome.ofAnswer (Category.judged answer) = .ok (.failure cause))
    (attempted : task.attempt configuration stage.started = (stage.answer, stage.ended)) :
    task.Fails configuration stage cause := by
  have ended := task.attempt_snd configuration stage.started
  rw [attempted] at ended
  refine Prod.ext ?_ ended.symm
  rw [Category.attempt_eq, answered]
  exact failed

theorem Course.of_error {number : Nat} {session final : Session} {earlier later : List Stage}
    {stage : Stage} {ending : Ending Bool} {fault : Fault}
    (course : task.Course configuration observer number session (earlier ++ stage :: later) ending
      final)
    (broken : stage.answer = .error fault) :
    later = [] ∧ ending = .escaped fault ∧ final = stage.ended := by
  obtain ⟨_, rest⟩ := course.exists_rest
  obtain ⟨started, ended, answer, left⟩ := stage
  cases rest with
  | raised attempted =>
    cases broken
    exact ⟨rfl, rfl, rfl⟩
  | untold | last | again => cases broken

theorem Course.notices_earlier {κ : Type} (caller : κ) {number : Nat} {session final : Session}
    {earlier : List Stage} {stage : Stage} {ending : Ending Bool} {fault : Fault}
    (course : task.Course configuration observer number session (earlier ++ [stage]) ending final)
    (broken : stage.answer = .error fault) :
    (earlier ++ [stage]).flatMap (task.notices caller) =
      (task.turns (earlier ++ [stage])).flatMap (Turn.notices caller) ++
        [.called caller stage.started.now] := by
  -- The attempt that is broken off leaves its call only: the observer is told of those before it.
  have unkept : task.turn? stage = none := by
    rw [turn?, broken]
  induction earlier generalizing number session with
  | nil => simp [turns, notices, unkept]
  | cons first earlier inductionHypothesis =>
    generalize rest : earlier ++ [stage] = stages at inductionHypothesis course
    rw [List.cons_append, rest] at course
    rw [List.cons_append, rest]
    cases course with
    | again attempted delivered onward =>
      rw [List.flatMap_cons, inductionHypothesis onward]
      simp [notices, turn?]
    | raised | untold | last => simp at rest

/-- Why a check escapes: its probe raises a fault that is not ordinary, or after a failed attempt it
cannot be told whether the check is tried again, or telling of the attempt ends in a fault. -/
inductive Escapes (task : CheckTask) (configuration : Configuration) (observer : Observer)
    (stage : Stage) (fault : Fault) : Prop where
  | raised {after : Session} (answered : task.Answers configuration stage (.error fault) after)
      (grave : fault.isOrdinary = false)
  | undecided {cause : Fault} (failed : task.Fails configuration stage cause)
      (asked : task.category.retries task.checker (.failure cause) stage.ended = .error fault)
  | untold {number : Nat} {outcome : Outcome} {retry : Bool}
      (judged : stage.answer = .ok (outcome, retry))
      (delivered : (task.deliver configuration observer number outcome retry stage.ended).1 =
        .error fault)

theorem grave_of_judged {answer : Except Fault Returned} {fault : Fault}
    (judged : Outcome.ofAnswer (Category.judged answer) = .error fault) :
    answer = .error fault ∧ fault.isOrdinary = false := by
  cases answer with
  | error found =>
    by_cases ordinary : found.isOrdinary = true
    · rw [show Outcome.ofAnswer (Category.judged (.error found)) = _ from if_pos ordinary] at judged
      cases judged
    · rw [show Outcome.ofAnswer (Category.judged (.error found)) = _ from if_neg ordinary] at judged
      cases judged
      exact ⟨rfl, Bool.eq_false_iff.mpr ordinary⟩
  | ok returned =>
    cases returned with
    | outcome classified => cases judged
    | fault cause => cases judged
    | value other =>
      cases other with
      | null => cases judged
      | flag | int | real | text | list | record => cases judged

theorem escapes_of_attempt {stage : Stage} {fault : Fault}
    (attempted : task.attempt configuration stage.started = (.error fault, stage.ended)) :
    task.Escapes configuration observer stage fault := by
  rcases called : task.probe stage.started.nextScope
    (stage.started.entered task.category.scope configuration.timeout) with ⟨answer, after⟩
  have outcome := congrArg Prod.fst
    (Category.attempt_eq task.category task.checker configuration.timeout task.probe stage.started)
  rw [called] at outcome
  rcases found : task.category.attempt task.checker configuration.timeout task.probe stage.started
    with ⟨raised | judged, ended⟩
  · rw [found] at outcome
    rw [attempt, found] at attempted
    cases attempted
    obtain ⟨rfl, grave⟩ := grave_of_judged outcome.symm
    exact .raised called grave
  · rw [attempt, found, Prod.mk.injEq] at attempted
    obtain ⟨asked, rfl⟩ := attempted
    cases decision : task.category.retries task.checker judged stage.ended with
    | ok retry =>
      rw [decision] at asked
      cases asked
    | error undecided =>
      rw [decision] at asked
      cases asked
      cases judged with
      | failure cause => exact .undecided found decision
      | ok | skip | verbose => cases decision

/-- A course that escapes does so with its last attempt. -/
theorem Course.escapes {number : Nat} {session final : Session} {stages : List Stage}
    {ending : Ending Bool} {fault : Fault}
    (course : task.Course configuration observer number session stages ending final)
    (escaped : ending = .escaped fault) :
    ∃ earlier stage, stages = earlier ++ [stage] ∧
      task.Escapes configuration observer stage fault := by
  induction course with
  | cut | last => cases escaped
  | raised attempted =>
    cases escaped
    exact ⟨[], _, rfl, escapes_of_attempt attempted⟩
  | untold attempted delivered =>
    cases escaped
    exact ⟨[], _, rfl, .untold rfl (congrArg Prod.fst delivered)⟩
  | again attempted delivered onward inductionHypothesis =>
    obtain ⟨earlier, stage, rfl, escapes⟩ := inductionHypothesis escaped
    exact ⟨_ :: earlier, stage, rfl, escapes⟩

end CheckTask

theorem Performance.Attempts.exists_first {configuration : Configuration} {observer : Observer}
    {limit : Nat} {done : Performance} {stages : List Stage}
    (attempts : done.Attempts configuration observer limit stages) (some : 0 < limit) :
    ∃ stage later, stages = stage :: later ∧ stage.started = done.started := by
  cases stages with
  | nil =>
    obtain ⟨task, ⟨turns, ending⟩, started, ended⟩ := done
    obtain ⟨_, course, _, unfinished⟩ := attempts
    cases course
    exact absurd (unfinished rfl) (Nat.ne_of_lt some)
  | cons stage later => exact ⟨stage, later, rfl, attempts.course.start_eq⟩

namespace Engine

variable {configuration : Configuration} {observer : Observer} {limit : Nat}

theorem Sweep.of_escaped {items : List Item} {verdict : Verdict} {session final : Session}
    {performed before after : List Performance} {done : Performance} {ending : Ending Verdict}
    {fault : Fault}
    (sweep : Sweep configuration observer limit items verdict session performed ending final)
    (split : performed = before ++ done :: after) (escaped : done.run.ending = .escaped fault) :
    after = [] ∧ ending = .escaped fault ∧ final = done.ended := by
  -- No other check than the escaped one can stand where the sweep ends.
  induction sweep generalizing before with
  | complete => simp at split
  | passedOver same onward inductionHypothesis => exact inductionHypothesis split
  | escaped ran broken =>
    cases before with
    | nil =>
      cases split
      rw [escaped] at broken
      cases broken
      exact ⟨rfl, rfl, rfl⟩
    | cons first rest => simp at split
  | unfinished ran ended | halted ran ended =>
    cases before with
    | nil =>
      cases split
      rw [escaped] at ended
      cases ended
    | cons first rest => simp at split
  | next ran finished goesOn onward inductionHypothesis =>
    cases before with
    | nil =>
      cases split
      rw [escaped] at finished
      cases finished
    | cons first rest =>
      cases split
      exact inductionHypothesis rfl

/-- A run that escapes does so with its last check. -/
theorem Sweep.exists_escaped {items : List Item} {verdict : Verdict} {session final : Session}
    {performed : List Performance} {ending : Ending Verdict} {fault : Fault}
    (sweep : Sweep configuration observer limit items verdict session performed ending final)
    (escaped : ending = .escaped fault) :
    ∃ before done, performed = before ++ [done] ∧ done.run.ending = .escaped fault := by
  induction sweep with
  | complete | unfinished | halted => cases escaped
  | passedOver same onward inductionHypothesis => exact inductionHypothesis escaped
  | escaped ran broken =>
    cases escaped
    exact ⟨[], _, rfl, broken⟩
  | next ran finished goesOn onward inductionHypothesis =>
    obtain ⟨before, done, rfl, broken⟩ := inductionHypothesis escaped
    exact ⟨_ :: before, done, rfl, broken⟩

/-- Before a check starts, exactly the checks before it have been noticed. -/
theorem Sweep.notices_started {κ : Type} {recorder : Recorder κ observer} {caller : CheckTask → κ}
    {items : List Item} {verdict : Verdict} {session final : Session}
    {performed before after : List Performance} {done : Performance} {ending : Ending Verdict}
    (heard : ∀ task ∈ items.filterMap Item.task?, recorder.Hears (caller task) task.probe)
    (sweep : Sweep configuration observer limit items verdict session performed ending final)
    (split : performed = before ++ done :: after) :
    recorder.notices done.started.journal =
      recorder.notices session.journal ++
        before.flatMap fun earlier => earlier.run.notices (caller earlier.task) := by
  induction sweep generalizing before with
  | complete => simp at split
  | passedOver same onward inductionHypothesis =>
    rw [inductionHypothesis heard split, same.journal_eq]
  | escaped | unfinished | halted =>
    cases before with
    | nil =>
      cases split
      simp
    | cons first rest => simp at split
  | @next task later verdict session ended final run passed performed ending ran finished goesOn
      onward inductionHypothesis =>
    cases before with
    | nil =>
      cases split
      simp
    | cons first rest =>
      cases split
      have noticed := CheckTask.notices_run (heard task List.mem_cons_self) ran finished
      have heardLater := fun task member => heard task (List.mem_cons_of_mem _ member)
      rw [inductionHypothesis heardLater rfl, noticed]
      simp

/-- What becomes of a run in which an attempt of a check raises a fault that is not ordinary: it ends
there with this fault, in the session that the probe leaves. The attempts before it are what the
observer was told of, and what others notice but for the last call. -/
structure BreaksOff (engine : Engine) (observer : Observer) (session final : Session)
    (run : SuiteRun) (before after : List Performance) (done : Performance)
    (earlier later : List Stage) (stage : Stage) (fault : Fault) (left : Session) : Prop where
  lastCheck : after = []
  lastAttempt : later = []
  ending : run.ending = .escaped fault
  reached : final = left.released stage.started.nextScope
  results : run.results = before.flatMap (·.run.results) ++
    (done.task.turns earlier).filterMap (·.result)
  noticed : ∀ {κ : Type} (recorder : Recorder κ observer) (caller : CheckTask → κ),
    (∀ task ∈ enabledTasks engine.categories, recorder.Hears (caller task) task.probe) →
      recorder.notices final.journal = recorder.notices session.journal ++
        before.flatMap (fun done => done.run.notices (caller done.task)) ++
          (done.task.turns earlier).flatMap (Turn.notices (caller done.task)) ++
            [.called (caller done.task) stage.started.now]

theorem breaksOff_of_raised {engine : Engine} {session final : Session} {run : SuiteRun}
    {performed before after : List Performance} {done : Performance}
    {earlier later : List Stage} {stage : Stage} {fault : Fault} {left : Session}
    (sweep : Sweep engine.configuration observer limit (agenda engine.categories) {} session
      performed run.ending final)
    (checks : run.checks = performed.map (·.run)) (split : performed = before ++ done :: after)
    (attempts : done.Attempts engine.configuration observer limit (earlier ++ stage :: later))
    (raised : done.task.Answers engine.configuration stage (.error fault) left)
    (grave : fault.isOrdinary = false) :
    BreaksOff engine observer session final run before after done earlier later stage fault
      left := by
  have attempted := attempts.course.attempted stage (by simp)
  rw [CheckTask.attempt_of_raised raised grave, Prod.mk.injEq] at attempted
  obtain ⟨answered, ended⟩ := attempted
  obtain ⟨rfl, escaped, finalStage⟩ := attempts.course.of_error answered.symm
  obtain ⟨rfl, suiteEscaped, finalCheck⟩ := sweep.of_escaped split escaped
  have kept : done.run.turns = done.task.turns earlier := by
    rw [attempts.turns, CheckTask.turns, CheckTask.turns, List.filterMap_append]
    simp [CheckTask.turn?, ← answered]
  refine ⟨rfl, rfl, suiteEscaped, finalCheck.trans (finalStage.trans ended.symm), ?_, ?_⟩
  · rw [SuiteRun.results, checks, split]
    simp [CheckRun.results, kept, List.flatMap_map]
  · intro κ recorder caller heard
    rw [← agenda_tasks] at heard
    have member : done ∈ performed := split ▸ List.mem_append_right before List.mem_cons_self
    have heardHere := heard done.task (sweep.ran done member).1
    rw [finalCheck, attempts.course.notices_eq heardHere,
      attempts.course.notices_earlier (caller done.task) answered.symm, ← attempts.turns, kept,
      sweep.notices_started heard split]
    simp

/-- How probes signal failures makes no difference: a suite whose probes signal the same in other
ways has the same run, and leaves the same session but for the log. An attempt fails whose probe
raises an ordinary fault or returns any fault. A fault that is not ordinary breaks the run off where
it is raised, and no other fault of a probe escapes. -/
theorem runChecks_signals {engine : Engine} {session final : Session} {run : SuiteRun}
    (ran : engine.runChecks observer session limit = (run, final)) :
    ∃ performed,
      Sweep engine.configuration observer limit (agenda engine.categories) {} session performed
          run.ending final ∧
        run.checks = performed.map (·.run) ∧
          ((∀ result, (observer result).IgnoresLog) →
            ∀ others, List.Forall₂ (Category.Paired Checker.Reprobed) engine.categories others →
              (∀ pair ∈ performed.zip (enabledTasks others), ∀ stages,
                pair.1.Attempts engine.configuration observer limit stages → ∀ stage ∈ stages,
                  pair.1.task.Mimics (Relation.EqvGen Resignals) engine.configuration stage
                    pair.2.probe) →
                ∃ finalToo,
                  runChecks ⟨others, engine.configuration⟩ observer session limit =
                      (run, finalToo) ∧
                    final.SameButLog finalToo) ∧
          (∀ done ∈ performed, ∀ stages,
            done.Attempts engine.configuration observer limit stages → ∀ stage ∈ stages,
              ∀ answer left fault,
                done.task.Answers engine.configuration stage answer left →
                  (answer = .error fault ∧ fault.isOrdinary = true ∨ answer = .ok (.fault fault) ∨
                    answer = .ok (.outcome (.failure fault))) →
                    done.task.Fails engine.configuration stage fault) ∧
          (∀ before done after, performed = before ++ done :: after → ∀ earlier stage later,
            done.Attempts engine.configuration observer limit (earlier ++ stage :: later) →
              ∀ fault left,
                done.task.Answers engine.configuration stage (.error fault) left →
                  fault.isOrdinary = false →
                    BreaksOff engine observer session final run before after done earlier later
                      stage fault left) ∧
          ∀ fault, run.ending = .escaped fault →
            ∃ before done earlier stage, performed = before ++ [done] ∧
              done.Attempts engine.configuration observer limit (earlier ++ [stage]) ∧
                done.task.Escapes engine.configuration observer stage fault := by
  obtain ⟨performed, sweep, checks⟩ := exists_sweep ran
  refine ⟨performed, sweep, checks, ?_, ?_, ?_, ?_⟩
  · intro watches others paired mimics
    -- Answers that signal the same come to one outcome, so that the turns of the two runs are equal.
    have steps : ∀ pair ∈ performed.zip (enabledTasks others),
        pair.1.task.Paired Checker.Reprobed pair.2 →
          ∀ stages, pair.1.Attempts engine.configuration observer limit stages →
            ∀ stage ∈ stages, ∀ startedToo, stage.started.SameButLog startedToo →
              CheckTask.Abreast Session.SameButLog Eq engine.configuration observer pair.1.task
                pair.2 startedToo stage := by
      intro pair member tasksPaired stages attempts stage stageMember startedToo same
      obtain ⟨answer, answerToo, endedToo, signals, judged, attemptedToo, left⟩ :=
        tasksPaired.exists_attempt (mimics pair member stages attempts stage stageMember)
          (attempts.course.attempted stage stageMember) same
      rw [Resignals.same_outcome signals, ← judged] at attemptedToo
      exact tasksPaired.abreast_of_answer (fun _ => rfl) watches attemptedToo left
    obtain ⟨runToo, finalToo, ranToo, abreast, sameEnding, sameFinal⟩ :=
      runChecks_reprobed paired sweep checks steps
    have sameChecks : run.checks = runToo.checks :=
      List.forall₂_eq_eq_eq ▸ abreast.imp fun _ _ same => same.eq.symm
    refine ⟨finalToo, ?_, sameFinal⟩
    rw [ranToo, show runToo = ⟨runToo.checks, runToo.ending⟩ from rfl, ← sameChecks, sameEnding]
  · intro done member stages attempts stage stageMember answer left fault answered signalled
    have failed : Outcome.ofAnswer (Category.judged answer) = .ok (.failure fault) := by
      rcases signalled with ⟨rfl, ordinary⟩ | rfl | rfl
      · exact if_pos ordinary
      · rfl
      · rfl
    exact CheckTask.fails_of_answer answered failed (attempts.course.attempted stage stageMember)
  · intro before done after split earlier stage later attempts fault left raised grave
    exact breaksOff_of_raised sweep checks split attempts raised grave
  · intro fault escaped
    obtain ⟨before, done, rfl, broken⟩ := sweep.exists_escaped escaped
    have member : done ∈ before ++ [done] :=
      List.mem_append_right before (List.mem_singleton_self done)
    obtain ⟨stages, attempts⟩ := sweep.exists_attempts member
    obtain ⟨earlier, stage, rfl, escapes⟩ := attempts.course.escapes broken
    exact ⟨before, done, earlier, stage, rfl, attempts, escapes⟩

/-- The sweep of what is left after a check that did not end the run. -/
theorem Sweep.rest {task : CheckTask} {later : List Item} {verdict : Verdict}
    {session final : Session} {first : Performance} {performed : List Performance}
    {ending : Ending Verdict} {passed : Bool}
    (sweep : Sweep configuration observer limit (.check task :: later) verdict session
      (first :: performed) ending final)
    (finished : first.run.ending = .finished passed)
    (goesOn : first.task.checker.policy.fatal = false) :
    Sweep configuration observer limit later (Performance.addTo verdict first) first.ended performed
      ending final := by
  cases sweep with
  | escaped ran broken | unfinished ran broken =>
    rw [finished] at broken
    cases broken
  | halted ran failed fatal same =>
    rw [goesOn] at fatal
    cases fatal
  | next ran ended goesOn onward => exact onward

theorem Sweep.started_eq {task : CheckTask} {later : List Item} {verdict : Verdict}
    {session final : Session} {first : Performance} {performed : List Performance}
    {ending : Ending Verdict}
    (sweep : Sweep configuration observer limit (.check task :: later) verdict session
      (first :: performed) ending final) : first.started = session := by
  cases sweep <;> rfl

/-- A suite of two checks, of which the second one is interrupted. -/
def consoleSuite (probe : Probe) : Engine :=
  { categories :=
      [{ id := "console", scope := 0
         checkers :=
          [{ description := "lamp lit", probe := some probe },
            { description := "console free"
              probe := some (scriptedProbe "console free" 1
                [{ acts := [.set "used" (.flag true)]
                   reaction := .raise (.foreign "KeyboardInterrupt" []) }]) }] }]
    configuration := CheckTask.briefly }

def lampProbe : Probe :=
  scriptedProbe "lamp lit" 0 [{ reaction := .raise (.failed "dark") }]

/-- How the suite runs when its checks may be attempted five times. -/
def consoleRunning (probe : Probe) : SuiteRun × Session :=
  (consoleSuite probe).runChecks (({} : Listener).observer 2) CheckTask.quiet 5

theorem consoleRunning_signals :
    (∃ finalToo, consoleRunning lampProbe.returning = ((consoleRunning lampProbe).1, finalToo) ∧
        (consoleRunning lampProbe).2.SameButLog finalToo) ∧
      ∃ before done stage left,
        BreaksOff (consoleSuite lampProbe) (({} : Listener).observer 2) CheckTask.quiet
            (consoleRunning lampProbe).2 (consoleRunning lampProbe).1 before [] done [] [] stage
            (.foreign "KeyboardInterrupt" []) left ∧
          left.store.contains "used" = true ∧ before.length = 1 := by
  obtain ⟨performed, sweep, _, same, _, breaks, _⟩ :=
    runChecks_signals (Prod.eta (consoleRunning lampProbe)).symm
  obtain ⟨first, rest, rfl, firstTask, firstRan⟩ := sweep.exists_first
  have finished : first.run.ending = .finished false := by
    rw [show first.run = _ from congrArg Prod.fst firstRan.symm]
    exact Ending.eq_finished (by decide +kernel)
  -- The second check starts in the session that the first one leaves, which can be computed.
  have onward := sweep.rest finished (by rw [firstTask])
  obtain ⟨second, others, rfl, secondTask, secondRan⟩ := onward.exists_first
  have secondStarted : second.started = _ :=
    onward.started_eq.trans (congrArg Prod.snd firstRan).symm
  obtain ⟨stages, attempts⟩ := sweep.exists_attempts (List.mem_cons_of_mem _ List.mem_cons_self)
  obtain ⟨stage, later, rfl, started⟩ := attempts.exists_first (by decide)
  have raised : (second.task.probe stage.started.nextScope (stage.started.entered
      second.task.category.scope CheckTask.briefly.timeout)).1 =
        .error (.foreign "KeyboardInterrupt" []) := by
    rw [started, secondStarted, secondTask]
    rfl
  have answered : second.task.Answers CheckTask.briefly stage
      (.error (.foreign "KeyboardInterrupt" [])) _ := Prod.ext raised rfl
  have breaksOff := breaks [first] second others rfl [] stage later attempts _ _ answered rfl
  obtain rfl := breaksOff.lastCheck
  obtain rfl := breaksOff.lastAttempt
  have paired : List.Forall₂ (Category.Paired Checker.Reprobed) (consoleSuite lampProbe).categories
      (consoleSuite lampProbe.returning).categories :=
    .cons ⟨_, rfl, .cons ⟨rfl, rfl⟩ (.cons ⟨rfl, rfl⟩ .nil)⟩ .nil
  refine ⟨?_, [first], second, stage, _, breaksOff, ?_, rfl⟩
  · obtain ⟨finalToo, ranToo, sameFinal⟩ := same (Listener.observer_ignoresLog {} 2) _ paired <| by
      intro pair member stages _ stage _
      rcases List.mem_cons.mp member with rfl | memberLater
      · dsimp only
        rw [firstTask]
        exact CheckTask.returning_mimics (scriptedProbe_ignoresLog _ _ _) stage
      · obtain rfl := List.mem_singleton.mp memberLater
        dsimp only
        rw [secondTask]
        exact CheckTask.mimics_self (scriptedProbe_ignoresLog _ _ _) (fun _ => .refl _) stage
    exact ⟨finalToo, ranToo, sameFinal⟩
  · rw [started, secondStarted, secondTask]
    rfl

end Engine

end Checkup
