import Checkup.Engine.Suite
import Checkup.Proofs.Engine.Course
import Checkup.Proofs.Session.Mirroring

/-!
# Checks that mirror each other

Main statement: if the attempts of a check mirror those of another one that differs in its probe, and
telling of them mirrors itself, then the two checks have the same runs from sessions that are related.
-/

namespace Checkup

open Checkup.Action (Mirrors mirrors_pure)

variable {related : Session → Session → Prop}

namespace Category

variable {category : Category} {checker : Checker} {observer : Observer} {retryWindow : Duration}

theorem logRaised_mirrors
    (logs : ∀ severity name fields, Mirrors related related (Action.log severity name fields)
      (Action.log severity name fields))
    (answer : Except Fault Outcome) :
    Mirrors related related (category.logRaised checker answer)
      (category.logRaised checker answer) := by
  unfold logRaised
  split
  · exact mirrors_pure ()
  · split
    · exact logs _ _ _
    · exact mirrors_pure ()

theorem deliver_mirrors
    (logs : ∀ severity name fields, Mirrors related related (Action.log severity name fields)
      (Action.log severity name fields))
    (waits : Mirrors related related (Action.wait category.scope retryWindow.seconds)
      (Action.wait category.scope retryWindow.seconds))
    (tells : ∀ result, Mirrors related related (observer result) (observer result))
    (number : Nat) (outcome : Outcome) (retry : Bool) :
    Mirrors related related
      (category.deliver checker observer retryWindow number outcome retry)
      (category.deliver checker observer retryWindow number outcome retry) := by
  have same : ∀ session other, related session other → related session other :=
    fun _ _ alike => alike
  have nothing : Mirrors related related (pure () : Action Unit) (pure ()) := mirrors_pure ()
  have noting : Mirrors related related (category.logOutcome checker number retry outcome)
      (category.logOutcome checker number retry outcome) := by
    unfold logOutcome
    split
    · exact logs _ _ _
    · split
      · exact logs _ _ _
      · exact nothing
    · exact nothing
  have waiting : Mirrors related related
      (if retry then do
        let _ ← Action.wait category.scope retryWindow.seconds
        pure ()
      else pure () : Action Unit)
      (if retry then do
        let _ ← Action.wait category.scope retryWindow.seconds
        pure ()
      else pure () : Action Unit) := by
    split
    · exact waits.bind same fun _ => nothing
    · exact nothing
  refine noting.bind same fun _ => ?_
  cases category.resultOf? checker retry outcome with
  | none => exact waiting
  | some result => exact (tells result).bind same fun _ => waiting

end Category

namespace CheckTask

def probedBy (task : CheckTask) (probe : Probe) : CheckTask :=
  { task with probe }

variable {task : CheckTask} {configuration : Configuration} {observer : Observer} {mirror : Probe}

/-- Attempts mirror each other if they do before it is asked whether the check is tried again, and
the answer to that is the same. -/
theorem attempt_mirrors {before after : Session → Session → Prop}
    (attempts : Mirrors before after
      (task.category.attempt task.checker configuration.timeout task.probe)
      (task.category.attempt task.checker configuration.timeout mirror))
    (decides : ∀ outcome session other, after session other →
      task.category.retries task.checker outcome other =
        task.category.retries task.checker outcome session) :
    Mirrors before after (task.attempt configuration)
      ((task.probedBy mirror).attempt configuration) := by
  intro session other alike
  obtain ⟨answered, left⟩ := attempts session other alike
  rw [attempt, attempt]
  dsimp only [probedBy]
  rcases attempted : task.category.attempt task.checker configuration.timeout task.probe session
      with ⟨fault | outcome, ended⟩ <;>
    rcases mirrored : task.category.attempt task.checker configuration.timeout mirror other
      with ⟨answer, endedToo⟩ <;>
    rw [attempted, mirrored] at answered left <;>
    cases answered
  · exact ⟨rfl, left⟩
  · exact ⟨congrArg (Except.map _) (decides outcome ended endedToo left), left⟩

/-- A run of a check mirrors the run with the other probe: it makes the same attempts. -/
theorem run_mirrors
    (sameMicros : ∀ session other, related session other → other.micros = session.micros)
    (attempts : Mirrors related related (task.attempt configuration)
      ((task.probedBy mirror).attempt configuration))
    (deliveries : ∀ number outcome retry,
      Mirrors related related (task.deliver configuration observer number outcome retry)
        (task.deliver configuration observer number outcome retry))
    (limit number : Nat) {session other : Session} (alike : related session other) :
    ((task.probedBy mirror).run configuration observer limit number other).1 =
        (task.run configuration observer limit number session).1 ∧
      related (task.run configuration observer limit number session).2
        ((task.probedBy mirror).run configuration observer limit number other).2 := by
  induction limit generalizing number session other with
  | zero => exact ⟨rfl, alike⟩
  | succ limit inductionHypothesis =>
    obtain ⟨sameAnswer, sameEnd⟩ := attempts session other alike
    rw [run_succ, run_succ]
    rcases attempted : task.attempt configuration session with ⟨fault | ⟨outcome, retry⟩, ended⟩ <;>
      rcases mirrored : (task.probedBy mirror).attempt configuration other with
        ⟨answer, endedToo⟩ <;>
      rw [attempted, mirrored] at sameAnswer sameEnd <;>
      cases sameAnswer
    · exact ⟨rfl, sameEnd⟩
    · obtain ⟨sameTold, sameLeft⟩ := deliveries number outcome retry ended endedToo sameEnd
      have sameDelivery : (task.probedBy mirror).deliver configuration observer number outcome
          retry endedToo = task.deliver configuration observer number outcome retry endedToo := rfl
      simp only [sameMicros session other alike, sameMicros ended endedToo sameEnd, sameDelivery]
      rcases delivered : task.deliver configuration observer number outcome retry ended with
          ⟨fault | _, left⟩ <;>
        rcases deliveredToo : task.deliver configuration observer number outcome retry endedToo with
          ⟨told, leftToo⟩ <;>
        rw [delivered, deliveredToo] at sameTold sameLeft <;>
        cases sameTold
      · exact ⟨rfl, sameLeft⟩
      · cases retry with
        | false => exact ⟨rfl, sameLeft⟩
        | true =>
          obtain ⟨sameRest, sameFinal⟩ := inductionHypothesis (number + 1) sameLeft
          exact ⟨congrArg (CheckRun.prepend _) sameRest, sameFinal⟩

/-- The other checkers of a category do not matter to a run, nor does the probe that the checker has
itself. -/
theorem run_with (task : CheckTask) (checkers : List Checker) (held : Option Probe)
    (limit number : Nat) (session : Session) :
    CheckTask.run
        { category := { task.category with checkers }
          checker := { task.checker with probe := held }
          probe := task.probe }
        configuration observer limit number session =
      task.run configuration observer limit number session := by
  induction limit generalizing number session with
  | zero => rfl
  | succ limit inductionHypothesis =>
    rw [run, run]
    simp only [inductionHypothesis]
    rfl

end CheckTask

namespace Engine

variable {configuration : Configuration} {observer : Observer} {limit : Nat}

/-- Suites that start with checks that have the same run go on in the same way. -/
theorem runItems_mirrors
    (logs : ∀ severity name fields, Mirrors related related (Action.log severity name fields)
      (Action.log severity name fields))
    {task mirror : CheckTask} {later mirrored : List Item} (verdict : Verdict)
    {session other : Session} (sameId : mirror.category.id = task.category.id)
    (sameDescription : mirror.checker.description = task.checker.description)
    (samePolicy : mirror.checker.policy = task.checker.policy)
    (sameRun : (mirror.run configuration observer limit 1 other).1 =
      (task.run configuration observer limit 1 session).1)
    (sameEnd : related (task.run configuration observer limit 1 session).2
      (mirror.run configuration observer limit 1 other).2)
    (onward : ∀ verdict ended endedToo, related ended endedToo →
      (runItems configuration observer limit mirrored verdict endedToo).1 =
          (runItems configuration observer limit later verdict ended).1 ∧
        related (runItems configuration observer limit later verdict ended).2
          (runItems configuration observer limit mirrored verdict endedToo).2) :
    (runItems configuration observer limit (.check mirror :: mirrored) verdict other).1 =
        (runItems configuration observer limit (.check task :: later) verdict session).1 ∧
      related (runItems configuration observer limit (.check task :: later) verdict session).2
        (runItems configuration observer limit (.check mirror :: mirrored) verdict other).2 := by
  rcases ran : task.run configuration observer limit 1 session with ⟨check, ended⟩
  rcases ranToo : mirror.run configuration observer limit 1 other with ⟨checkToo, endedToo⟩
  rw [ran, ranToo] at sameRun sameEnd
  cases sameRun
  rw [runItems, runItems, ran, ranToo]
  simp only [sameId, sameDescription, samePolicy]
  cases ending : check.ending with
  | escaped fault => exact ⟨rfl, sameEnd⟩
  | unfinished => exact ⟨rfl, sameEnd⟩
  | finished passed =>
    cases passed with
    | true =>
      obtain ⟨sameRest, sameFinal⟩ := onward verdict ended endedToo sameEnd
      exact ⟨congrArg (SuiteRun.prepend check) sameRest, sameFinal⟩
    | false =>
      cases fatal : task.checker.policy.fatal with
      | true => exact ⟨rfl, (logs _ _ _ ended endedToo sameEnd).2⟩
      | false =>
        obtain ⟨sameRest, sameFinal⟩ :=
          onward (verdict.fail task.checker.policy.warning) ended endedToo sameEnd
        exact ⟨congrArg (SuiteRun.prepend check) sameRest, sameFinal⟩

end Engine

end Checkup
