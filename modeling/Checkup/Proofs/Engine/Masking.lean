import Checkup.Proofs.Engine.Parallel

/-!
# What provisional results reveal

A provisional result hides why its attempt failed, unless the policy of the check says otherwise. Main
statement: two suites whose probes differ in hidden causes only have the same results and the same
ending, and leave the same session but for the log.
-/

namespace Checkup

/-- Nothing but its outcome sets an attempt apart from another one: the observer is told the same at
the same time. -/
def Turn.ToldAs (turn other : Turn) : Prop :=
  other = { turn with outcome := other.outcome }

theorem Turn.ToldAs.refl (turn : Turn) : turn.ToldAs turn := rfl

theorem Turn.ToldAs.result_eq {turn other : Turn} (same : turn.ToldAs other) :
    other.result = turn.result := by
  rw [same]

namespace CheckTask

variable {task other : CheckTask} {configuration : Configuration} {observer : Observer}

/-- At an attempt of a check, one answer of the probe may stand for another: they come to the same, or
both are failures, the check is tried again, and its policy hides the cause. -/
inductive Conceals (task : CheckTask) (stage : Stage) (answer other : Except Fault Returned) :
    Prop where
  | same (equal : Outcome.ofAnswer (Category.judged other) =
      Outcome.ofAnswer (Category.judged answer))
  | hidden {cause causeToo : Fault} (hides : task.checker.policy.surfaceFault = false)
      (retried : stage.answer = .ok (.failure cause, true))
      (failed : Outcome.ofAnswer (Category.judged other) = .ok (.failure causeToo))

theorem decided_failure {answer : Except Fault Outcome} {cause : Fault} {ended : Session}
    (retried : task.decided answer ended = .ok (.failure cause, true)) (causeToo : Fault) :
    task.decided (.ok (.failure causeToo)) ended = .ok (.failure causeToo, true) := by
  cases answer with
  | error fault => cases retried
  | ok outcome =>
    have asked : (task.category.retries task.checker outcome ended).map (fun retry =>
        (outcome, retry)) = .ok (.failure cause, true) := retried
    cases decision : task.category.retries task.checker outcome ended with
    | error fault =>
      rw [decision] at asked
      cases asked
    | ok retry =>
      rw [decision] at asked
      cases asked
      -- Whether a failed check is tried again does not depend on why it failed.
      have sameDecision : task.category.retries task.checker (.failure causeToo) ended = .ok true :=
        decision
      show (task.category.retries task.checker (.failure causeToo) ended).map _ = _
      rw [sameDecision]
      rfl

theorem shown_of_hidden (hides : task.checker.policy.surfaceFault = false)
    (cause causeToo : Fault) :
    task.category.resultOf? task.checker true (.failure causeToo) =
      task.category.resultOf? task.checker true (.failure cause) := by
  simp only [Category.resultOf?, Category.shownFault, hides, Bool.not_false, Bool.and_self, if_true]

theorem Paired.abreast_of_conceals (paired : task.Paired Checker.Reprobed other)
    (watches : ∀ result, (observer result).IgnoresLog) {stage : Stage}
    (attempted : task.attempt configuration stage.started = (stage.answer, stage.ended))
    (mimics : task.Mimics (task.Conceals stage) configuration stage other.probe)
    {startedToo : Session} (same : stage.started.SameButLog startedToo) :
    Abreast Session.SameButLog Turn.ToldAs configuration observer task other startedToo stage := by
  obtain ⟨answer, answerToo, endedToo, conceals, judged, attemptedToo, left⟩ :=
    paired.exists_attempt mimics attempted same
  cases conceals with
  | same equal =>
    rw [equal, ← judged] at attemptedToo
    exact paired.abreast_of_answer Turn.ToldAs.refl watches attemptedToo left
  | @hidden cause causeToo hides retried failed =>
    rw [failed, decided_failure (judged.symm.trans retried)] at attemptedToo
    obtain ⟨started, ended, answer, after⟩ := stage
    cases retried
    have sameResult := (paired.resultOf_eq true (.failure causeToo)).trans
      (shown_of_hidden hides cause causeToo)
    refine .judged attemptedToo left rfl ?_ ?_
    · rw [sameResult]
      exact tell_mirrors watches _
    · rw [sameResult]
      rfl

/-- What the observer is told provisionally: that the check is pending, or the fault of this very
attempt if the policy of the check surfaces it. -/
theorem Course.provisional {number : Nat} {session final : Session} {stages : List Stage}
    {ending : Ending Bool}
    (course : task.Course configuration observer number session stages ending final) {turn : Turn}
    (member : turn ∈ task.turns stages) {result : CheckResult} (told : turn.result = some result)
    (provisional : result.retry = true) :
    ∃ cause, turn.outcome = .failure cause ∧
      result = task.category.result task.checker task.checker.description true
        (some (if task.checker.policy.surfaceFault then .inCategory task.category.id cause
          else .pending [])) := by
  obtain ⟨⟨started, ended, answer, left⟩, stageMember, kept⟩ := List.mem_filterMap.mp member
  have attempted := course.attempted _ stageMember
  cases answer with
  | error fault => cases kept
  | ok judged =>
    obtain ⟨outcome, retry⟩ := judged
    cases kept
    have retried := retry_resultOf told
    rw [provisional] at retried
    subst retried
    obtain ⟨cause, rfl⟩ := failure_of_retried attempted
    refine ⟨cause, rfl, ?_⟩
    cases told
    cases surfaces : task.checker.policy.surfaceFault <;>
      simp [Category.shownFault, surfaces]

theorem attempt_sameButLog (task : CheckTask) (configuration : Configuration) (session : Session) :
    ((task.probe session.nextScope
      (session.entered task.category.scope configuration.timeout)).2.released
        session.nextScope).SameButLog (task.attempt configuration session).2 := by
  obtain ⟨desk, ended⟩ := task.exists_attempt_eq configuration session
  rw [ended]
  exact ⟨desk, rfl⟩

theorem decided_sameButLog {session other : Session} (same : session.SameButLog other)
    (answer : Except Fault Outcome) : task.decided answer other = task.decided answer session := by
  obtain ⟨desk, rfl⟩ := same
  rfl

/-- The probe of a check, but for the cause of a failure that is hidden. -/
def disguised (task : CheckTask) (cause : Fault) : Probe := fun scope session =>
  let called := task.probe scope session
  match task.decided (Outcome.ofAnswer (Category.judged called.1)) (called.2.released scope) with
  | .ok (.failure _, true) =>
    if task.checker.policy.surfaceFault then called else (.ok (.fault cause), called.2)
  | _ => called

theorem disguised_eq {cause : Fault} {scope : ScopeId} {session : Session} :
    (task.disguised cause scope session).2 = (task.probe scope session).2 ∧
      ((task.disguised cause scope session).1 = (task.probe scope session).1 ∨
        task.checker.policy.surfaceFault = false ∧
          (task.disguised cause scope session).1 = .ok (.fault cause) ∧
            ∃ revealed, task.decided (Outcome.ofAnswer (Category.judged (task.probe scope session).1))
              ((task.probe scope session).2.released scope) = .ok (.failure revealed, true)) := by
  unfold disguised
  dsimp only
  split
  · rename_i revealed retried
    cases surfaces : task.checker.policy.surfaceFault with
    | true => exact ⟨rfl, .inl rfl⟩
    | false => exact ⟨rfl, .inr ⟨rfl, rfl, revealed, retried⟩⟩
  · exact ⟨rfl, .inl rfl⟩

theorem disguised_mimics (ignores : ∀ scope, (task.probe scope).IgnoresLog) (cause : Fault)
    {stage : Stage}
    (attempted : task.attempt configuration stage.started = (stage.answer, stage.ended)) :
    task.Mimics (task.Conceals stage) configuration stage (task.disguised cause) := by
  rintro entered ⟨desk, rfl⟩
  obtain ⟨sameAnswer, left⟩ := ignores stage.started.nextScope
    (stage.started.entered task.category.scope configuration.timeout) desk
  obtain ⟨sameEnd, answered⟩ := @disguised_eq task cause stage.started.nextScope
    { stage.started.entered task.category.scope configuration.timeout with desk }
  refine ⟨sameEnd ▸ left, ?_⟩
  rcases answered with same | ⟨hides, concealed, revealed, retried⟩
  · rw [same, sameAnswer]
    exact .same rfl
  · -- Whether the check is tried again is asked after the attempt has written to the log, which
    -- makes no difference to the answer.
    have likeness := Session.likeness_sameButLog
    have ended := task.attempt_sameButLog configuration stage.started
    have judged := task.attempt_eq_decided configuration stage.started
    rw [attempted] at ended judged
    have sameSession := ended.symm.trans (likeness.released left stage.started.nextScope)
    have decision : stage.answer = .ok (.failure revealed, true) := by
      rw [sameAnswer, decided_sameButLog sameSession] at retried
      exact judged.trans retried
    have failed : Outcome.ofAnswer (Category.judged (.ok (.fault cause))) =
      .ok (.failure cause) := rfl
    rw [concealed]
    exact .hidden hides decision failed

end CheckTask

def SuiteRun.reasons (run : SuiteRun) : List (Option String) :=
  run.checks.flatMap fun check => check.turns.map fun turn => turn.outcome.fault?.map Fault.message

namespace Engine

variable {configuration : Configuration} {observer : Observer} {limit : Nat}

/-- Provisional results reveal nothing. A suite with other probes, which at every attempt leave the
same session and differ at most in causes that are hidden, tells the observer the same results, ends
in the same way and leaves the same session but for the log. Where causes are not hidden, a
provisional result carries the one of its own attempt. -/
theorem runChecks_masks {engine : Engine} {session final : Session} {run : SuiteRun}
    (ran : engine.runChecks observer session limit = (run, final))
    (watches : ∀ result, (observer result).IgnoresLog) :
    ∃ performed,
      Sweep engine.configuration observer limit (agenda engine.categories) {} session performed
          run.ending final ∧
        run.checks = performed.map (·.run) ∧
          (∀ others, List.Forall₂ (Category.Paired Checker.Reprobed) engine.categories others →
            (∀ pair ∈ performed.zip (enabledTasks others), ∀ stages,
              pair.1.Attempts engine.configuration observer limit stages → ∀ stage ∈ stages,
                pair.1.task.Mimics (pair.1.task.Conceals stage) engine.configuration stage
                  pair.2.probe) →
              ∃ runToo finalToo,
                runChecks ⟨others, engine.configuration⟩ observer session limit =
                    (runToo, finalToo) ∧
                  List.Forall₂ (CheckRun.Abreast Turn.ToldAs) run.checks runToo.checks ∧
                    runToo.results = run.results ∧ runToo.ending = run.ending ∧
                      final.SameButLog finalToo) ∧
            ∀ done ∈ performed, ∀ turn ∈ done.run.turns, ∀ result, turn.result = some result →
              result.retry = true →
                ∃ cause, turn.outcome = .failure cause ∧
                  result = done.task.category.result done.task.checker
                    done.task.checker.description true
                    (some (if done.task.checker.policy.surfaceFault then
                        .inCategory done.task.category.id cause
                      else .pending [])) := by
  obtain ⟨performed, sweep, checks⟩ := exists_sweep ran
  refine ⟨performed, sweep, checks, ?_, ?_⟩
  · intro others paired mimics
    obtain ⟨runToo, finalToo, ranToo, abreast, sameEnding, sameFinal⟩ :=
      runChecks_reprobed paired sweep checks fun pair member tasksPaired stages attempts stage
        stageMember startedToo same =>
          tasksPaired.abreast_of_conceals watches (attempts.course.attempted stage stageMember)
            (mimics pair member stages attempts stage stageMember) same
    have sameResults := SuiteRun.results_eq_of_abreast (fun _ _ same => same.result_eq) abreast
    exact ⟨runToo, finalToo, ranToo, abreast, sameResults, sameEnding, sameFinal⟩
  · intro done member turn turnMember result told provisional
    obtain ⟨stages, attempts⟩ := sweep.exists_attempts member
    rw [attempts.turns] at turnMember
    exact attempts.course.provisional turnMember told provisional

def vaultTask (probe : Probe) : CheckTask :=
  let checker : Checker :=
    { description := "vault open"
      policy := { retryDeadline := some (Moment.atMicros 60000000) }
      probe := some probe }
  { category := { id := "vault", scope := 0, checkers := [checker] }, checker, probe }

def vaultSuite (probe : Probe) : Engine :=
  { categories := [(vaultTask probe).category], configuration := CheckTask.briefly }

/-- A probe that fails twice, for reasons that are nobody's business. -/
def sealedProbe : Probe :=
  scriptedProbe "vault open" 0
    [{ acts := [.sleep (.real 2)], reaction := .raise (.failed "first share missing") },
      { reaction := .give (.fault (.failed "second share missing")) }, {}]

/-- A probe that fails for another reason wherever that is hidden. -/
def mutedProbe : Probe :=
  (vaultTask sealedProbe).disguised (.badType "wrong share")

/-- How the suite runs when its check may be attempted five times. -/
def vaultRunning (probe : Probe) : SuiteRun × Session :=
  (vaultSuite probe).runChecks (({} : Listener).observer 1) CheckTask.quiet 5

theorem vaultRunning_masks :
    (vaultRunning sealedProbe).1.reasons =
        [some "first share missing", some "second share missing", none] ∧
      (vaultRunning mutedProbe).1.reasons = [some "wrong share", some "wrong share", none] ∧
        (vaultRunning mutedProbe).1.results = (vaultRunning sealedProbe).1.results ∧
          (vaultRunning mutedProbe).1.ending = (vaultRunning sealedProbe).1.ending ∧
            (vaultRunning sealedProbe).2.SameButLog (vaultRunning mutedProbe).2 := by
  obtain ⟨performed, sweep, _, masks, _⟩ := runChecks_masks (Prod.eta (vaultRunning sealedProbe)).symm
    fun result => Listener.observer_ignoresLog {} 1 result
  obtain ⟨first, rest, rfl, sameTask, _⟩ := sweep.exists_first
  have paired : List.Forall₂ (Category.Paired Checker.Reprobed) (vaultSuite sealedProbe).categories
      (vaultSuite mutedProbe).categories :=
    .cons ⟨_, rfl, .cons ⟨rfl, rfl⟩ .nil⟩ .nil
  have zipped : (first :: rest).zip (enabledTasks (vaultSuite mutedProbe).categories) =
      [(first, vaultTask mutedProbe)] :=
    congrArg ((first, _) :: ·) List.zip_nil_right
  obtain ⟨runToo, finalToo, ranToo, _, sameResults, sameEnding, sameFinal⟩ := masks _ paired <| by
    intro pair member stages attempts stage stageMember
    rw [zipped, List.mem_singleton] at member
    subst member
    have attempted := attempts.course.attempted stage stageMember
    dsimp only at attempted ⊢
    rw [sameTask] at attempted ⊢
    exact CheckTask.disguised_mimics (scriptedProbe_ignoresLog _ _ _) _ attempted
  refine ⟨by decide +kernel, by decide +kernel, ?_⟩
  rw [show vaultRunning mutedProbe = (runToo, finalToo) from ranToo]
  exact ⟨sameResults, sameEnding, sameFinal⟩

end Engine

end Checkup
