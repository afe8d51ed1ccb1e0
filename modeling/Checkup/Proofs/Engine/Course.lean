import Checkup.Engine.Check
import Checkup.Proofs.Engine.Attempt
import Checkup.Proofs.Session.Composable

/-!
# The course of a check

The course of a check shows every attempt with the sessions in which it starts and ends, also one
that ends in a fault. Main statements: every run of a check has a course, and a course that has come
to its end is that of every run with enough attempts; hence a run that has ended is the same under
every larger limit.
-/

namespace Checkup

/-- An attempt with the sessions around it. Its answer is how it came out and whether the check is
tried again, or the fault that it ended in. -/
structure Stage where
  started : Session
  ended : Session
  answer : Except Fault (Outcome × Bool)
  /-- The session after the observer was told, and after the wait for another attempt. -/
  left : Session

namespace CheckTask

variable {task : CheckTask} {configuration : Configuration} {observer : Observer}

def attempt (task : CheckTask) (configuration : Configuration) : Action (Outcome × Bool) :=
  fun session =>
    match task.category.attempt task.checker configuration.timeout task.probe session with
    | (.error fault, ended) => (.error fault, ended)
    | (.ok outcome, ended) =>
      ((task.category.retries task.checker outcome ended).map fun retry => (outcome, retry), ended)

/-- An attempt leaves the session in which the probe ends, with the scope detached. -/
theorem exists_attempt_eq (task : CheckTask) (configuration : Configuration) (session : Session) :
    ∃ desk, (task.attempt configuration session).2 =
      ({ (task.probe session.nextScope
          (session.entered task.category.scope configuration.timeout)).2 with desk } :
        Session).released session.nextScope := by
  obtain ⟨desk, noted⟩ := task.category.exists_logRaised_eq task.checker
    (Category.judged (task.probe session.nextScope
      (session.entered task.category.scope configuration.timeout)).1)
    (task.probe session.nextScope (session.entered task.category.scope configuration.timeout)).2
  refine ⟨desk, ?_⟩
  rw [attempt, Category.attempt_eq]
  dsimp only
  rw [noted]
  rcases Outcome.ofAnswer _ with fault | outcome <;> rfl

def deliver (task : CheckTask) (configuration : Configuration) (observer : Observer)
    (number : Nat) (outcome : Outcome) (retry : Bool) : Action Unit :=
  task.category.deliver task.checker observer configuration.retryWindow number outcome retry

def turn? (task : CheckTask) (stage : Stage) : Option Turn :=
  match stage.answer with
  | .error _ => none
  | .ok (outcome, retry) =>
    some
      { outcome
        startedAt := stage.started.micros
        endedAt := stage.ended.micros
        result := task.category.resultOf? task.checker retry outcome }

def turns (task : CheckTask) (stages : List Stage) : List Turn :=
  stages.filterMap task.turn?

/-- The course of a check from one session to another: the number of its first attempt, its
attempts, and its ending. -/
inductive Course (task : CheckTask) (configuration : Configuration) (observer : Observer) :
    Nat → Session → List Stage → Ending Bool → Session → Prop where
  /-- No attempt is left. -/
  | cut (number : Nat) (session : Session) :
      Course task configuration observer number session [] .unfinished session
  /-- An attempt ends in a fault that is not an ordinary one. -/
  | raised {number : Nat} {started ended : Session} {fault : Fault}
      (attempted : task.attempt configuration started = (.error fault, ended)) :
      Course task configuration observer number started
        [⟨started, ended, .error fault, ended⟩] (.escaped fault) ended
  /-- The observer ends in a fault. -/
  | untold {number : Nat} {started ended left : Session} {outcome : Outcome} {retry : Bool}
      {fault : Fault}
      (attempted : task.attempt configuration started = (.ok (outcome, retry), ended))
      (delivered : task.deliver configuration observer number outcome retry ended =
        (.error fault, left)) :
      Course task configuration observer number started
        [⟨started, ended, .ok (outcome, retry), left⟩] (.escaped fault) left
  /-- The check is not tried again. -/
  | last {number : Nat} {started ended left : Session} {outcome : Outcome}
      (attempted : task.attempt configuration started = (.ok (outcome, false), ended))
      (delivered : task.deliver configuration observer number outcome false ended =
        (.ok (), left)) :
      Course task configuration observer number started
        [⟨started, ended, .ok (outcome, false), left⟩] (.finished outcome.passed) left
  /-- The check is tried again. -/
  | again {number : Nat} {started ended left final : Session} {outcome : Outcome}
      {later : List Stage} {ending : Ending Bool}
      (attempted : task.attempt configuration started = (.ok (outcome, true), ended))
      (delivered : task.deliver configuration observer number outcome true ended = (.ok (), left))
      (onward : Course task configuration observer (number + 1) left later ending final) :
      Course task configuration observer number started
        (⟨started, ended, .ok (outcome, true), left⟩ :: later) ending final

@[simp] theorem turns_nil : task.turns [] = [] := rfl

@[simp] theorem turns_cons_ok (started ended left : Session) (outcome : Outcome) (retry : Bool)
    (later : List Stage) :
    task.turns (⟨started, ended, .ok (outcome, retry), left⟩ :: later) =
      { outcome
        startedAt := started.micros
        endedAt := ended.micros
        result := task.category.resultOf? task.checker retry outcome } :: task.turns later := rfl

/-- A run makes an attempt and tells of it, and goes on if the check is tried again. -/
theorem run_succ (limit number : Nat) (session : Session) :
    task.run configuration observer (limit + 1) number session =
      match task.attempt configuration session with
      | (.error fault, ended) => (⟨[], .escaped fault⟩, ended)
      | (.ok (outcome, retry), ended) =>
        let turn : Turn :=
          { outcome
            startedAt := session.micros
            endedAt := ended.micros
            result := task.category.resultOf? task.checker retry outcome }
        match task.deliver configuration observer number outcome retry ended with
        | (.error fault, left) => (⟨[turn], .escaped fault⟩, left)
        | (.ok (), left) =>
          if retry then
            let (rest, final) := task.run configuration observer limit (number + 1) left
            (rest.prepend turn, final)
          else (⟨[turn], .finished outcome.passed⟩, left) := by
  rw [run, attempt]
  rcases task.category.attempt task.checker configuration.timeout task.probe session with
    ⟨fault | outcome, ended⟩
  · rfl
  · cases decision : task.category.retries task.checker outcome ended with
    | error fault => simp only [decision, Except.map]
    | ok retry =>
      simp only [decision, Except.map]
      rfl

/-- Every run has a course, and the run keeps its attempts. A run that is left unfinished has made
all the attempts it was allowed. -/
theorem exists_course {limit number : Nat} {session final : Session} {run : CheckRun}
    (ran : task.run configuration observer limit number session = (run, final)) :
    ∃ stages, task.Course configuration observer number session stages run.ending final ∧
      run.turns = task.turns stages ∧ stages.length ≤ limit ∧
      (run.ending = .unfinished → stages.length = limit) := by
  induction limit generalizing number session run final with
  | zero =>
    rw [CheckTask.run, Prod.mk.injEq] at ran
    obtain ⟨rfl, rfl⟩ := ran
    exact ⟨[], .cut number session, rfl, Nat.le_refl 0, fun _ => rfl⟩
  | succ limit inductionHypothesis =>
    rw [run_succ] at ran
    rcases attempted : task.attempt configuration session with ⟨fault | ⟨outcome, retry⟩, ended⟩
    · simp only [attempted, Prod.mk.injEq] at ran
      obtain ⟨rfl, rfl⟩ := ran
      exact ⟨_, .raised attempted, rfl, by simp, by simp⟩
    · rcases delivered : task.deliver configuration observer number outcome retry ended with
        ⟨fault | _, left⟩
      · simp only [attempted, delivered, Prod.mk.injEq] at ran
        obtain ⟨rfl, rfl⟩ := ran
        exact ⟨_, .untold attempted delivered, rfl, by simp, by simp⟩
      · cases retry with
        | false =>
          simp only [attempted, delivered, Bool.false_eq_true, if_false, Prod.mk.injEq] at ran
          obtain ⟨rfl, rfl⟩ := ran
          exact ⟨_, .last attempted delivered, rfl, by simp, by simp⟩
        | true =>
          simp only [attempted, delivered, if_true, Prod.mk.injEq] at ran
          obtain ⟨rfl, rfl⟩ := ran
          obtain ⟨later, onward, turns, within, all⟩ := inductionHypothesis rfl
          refine ⟨_, .again attempted delivered onward, ?_, ?_, ?_⟩
          · rw [turns_cons_ok, ← turns]
            rfl
          · simpa using within
          · intro unfinished
            simpa using all unfinished

/-- A course that has come to its end is that of every run with enough attempts. -/
theorem Course.run_eq {number limit : Nat} {session final : Session} {stages : List Stage}
    {ending : Ending Bool}
    (course : task.Course configuration observer number session stages ending final)
    (ended : ending ≠ .unfinished) (enough : stages.length ≤ limit) :
    task.run configuration observer limit number session =
      (⟨task.turns stages, ending⟩, final) := by
  induction course generalizing limit with
  | cut => exact absurd rfl ended
  | raised attempted =>
    obtain ⟨limit, rfl⟩ := Nat.exists_eq_add_one_of_ne_zero (Nat.ne_of_gt enough)
    rw [run_succ, attempted]
    rfl
  | untold attempted delivered =>
    obtain ⟨limit, rfl⟩ := Nat.exists_eq_add_one_of_ne_zero (Nat.ne_of_gt enough)
    simp only [run_succ, attempted, delivered]
    rfl
  | last attempted delivered =>
    obtain ⟨limit, rfl⟩ := Nat.exists_eq_add_one_of_ne_zero (Nat.ne_of_gt enough)
    simp only [run_succ, attempted, delivered]
    rfl
  | again attempted delivered onward inductionHypothesis =>
    have some : limit ≠ 0 := Nat.ne_of_gt (Nat.zero_lt_of_lt enough)
    obtain ⟨limit, rfl⟩ := Nat.exists_eq_add_one_of_ne_zero some
    have rest := inductionHypothesis ended (Nat.le_of_succ_le_succ enough)
    simp only [run_succ, attempted, delivered, rest]
    rfl

theorem run_eq_of_le {limit larger number : Nat} {session final : Session} {run : CheckRun}
    (ran : task.run configuration observer limit number session = (run, final))
    (ended : run.ending ≠ .unfinished) (le : limit ≤ larger) :
    task.run configuration observer larger number session = (run, final) := by
  obtain ⟨stages, course, turns, within, _⟩ := exists_course ran
  rw [course.run_eq ended (Nat.le_trans within le), ← turns]

theorem Course.start_eq {number : Nat} {session final : Session} {stage : Stage}
    {later : List Stage} {ending : Ending Bool}
    (course : task.Course configuration observer number session (stage :: later) ending final) :
    stage.started = session := by
  cases course <;> rfl

/-- The attempts of a course are those of the check. -/
theorem Course.attempted {number : Nat} {session final : Session} {stages : List Stage}
    {ending : Ending Bool}
    (course : task.Course configuration observer number session stages ending final) :
    ∀ stage ∈ stages, task.attempt configuration stage.started = (stage.answer, stage.ended) := by
  induction course with
  | cut number session => simp
  | raised attempted | untold attempted delivered | last attempted delivered =>
    simpa using attempted
  | again attempted delivered rest inductionHypothesis =>
    exact List.forall_mem_cons.mpr ⟨attempted, inductionHypothesis⟩

/-- A course goes along a relation if the attempts of the check do, and telling of them. -/
theorem Course.along {R : Session → Session → Prop} (onward : Session.Onward R)
    (attempts : (task.attempt configuration).Along R)
    (deliveries : ∀ number outcome retry,
      (task.deliver configuration observer number outcome retry).Along R)
    {number : Nat} {session final : Session} {stages : List Stage} {ending : Ending Bool}
    (course : task.Course configuration observer number session stages ending final) :
    R session final ∧ ∀ stage ∈ stages, R session stage.started ∧ R stage.ended final := by
  have ended : ∀ {started ended : Session} {answer : Except Fault (Outcome × Bool)},
      task.attempt configuration started = (answer, ended) → R started ended := by
    intro started ended answer attempted
    have along := attempts started
    rwa [attempted] at along
  have left : ∀ {number : Nat} {outcome : Outcome} {retry : Bool} {ended left : Session}
      {answer : Except Fault Unit},
      task.deliver configuration observer number outcome retry ended = (answer, left) →
        R ended left := by
    intro number outcome retry ended left answer delivered
    have along := deliveries number outcome retry ended
    rwa [delivered] at along
  induction course with
  | cut number session => exact ⟨onward.stay session, by simp⟩
  | raised attempted => exact ⟨ended attempted, by simpa using ⟨onward.stay _, onward.stay _⟩⟩
  | untold attempted delivered | last attempted delivered =>
    exact ⟨onward.goOn (ended attempted) (left delivered),
      by simpa using ⟨onward.stay _, left delivered⟩⟩
  | again attempted delivered rest inductionHypothesis =>
    obtain ⟨toFinal, toStages⟩ := inductionHypothesis
    have toNext := onward.goOn (ended attempted) (left delivered)
    refine ⟨onward.goOn toNext toFinal, ?_⟩
    intro stage member
    rcases List.mem_cons.mp member with rfl | later
    · exact ⟨onward.stay _, onward.goOn (left delivered) toFinal⟩
    · exact ⟨onward.goOn toNext (toStages stage later).1, (toStages stage later).2⟩

theorem run_along {R : Session → Session → Prop} (onward : Session.Onward R)
    (attempts : (task.attempt configuration).Along R)
    (deliveries : ∀ number outcome retry,
      (task.deliver configuration observer number outcome retry).Along R)
    (limit number : Nat) (session : Session) :
    R session (task.run configuration observer limit number session).2 := by
  obtain ⟨_, course, _⟩ := exists_course (Prod.eta (task.run configuration observer limit number
    session)).symm
  exact (course.along onward attempts deliveries).1

end CheckTask

end Checkup
