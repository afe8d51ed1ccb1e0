import Checkup.Proofs.Engine.Attempt
import Checkup.Proofs.Engine.Course

/-!
# What others notice of a check

A recorder reads the journal as a list of notices: a probe was called, or the observer was told a
result. Main statement: if probe and observer note all that they notice, then a check adds exactly
one call for each attempt, with the attempt's result after it.
-/

namespace Checkup

/-- What others notice of a run: a call of a probe, or a result that the observer is told, at a
second of the clock. -/
inductive Notice (κ : Type) where
  | called (caller : κ) (second : Float)
  | told (result : CheckResult) (second : Float)

/-- A way to read the journal by which the observer notes every result that it is told. -/
structure Recorder (κ : Type) (observer : Observer) where
  notices : List Entry → List (Notice κ)
  told : ∀ (result : CheckResult) (session : Session),
    notices (observer result session).2.journal =
      notices session.journal ++ [.told result session.now]

/-- A probe notes under a name that it is called, and nothing else that a recorder reads. -/
def Recorder.Hears {κ : Type} {observer : Observer} (recorder : Recorder κ observer) (caller : κ)
    (probe : Probe) : Prop :=
  ∀ (scope : ScopeId) (session : Session),
    recorder.notices (probe scope session).2.journal =
      recorder.notices session.journal ++ [.called caller session.now]

def Turn.notices {κ : Type} (caller : κ) (turn : Turn) : List (Notice κ) :=
  .called caller (Number.secondsOfMicros turn.startedAt) ::
    turn.result.toList.map fun result => .told result (Number.secondsOfMicros turn.endedAt)

def CheckRun.notices {κ : Type} (caller : κ) (run : CheckRun) : List (Notice κ) :=
  run.turns.flatMap (Turn.notices caller)

namespace CheckTask

variable {κ : Type} {task : CheckTask} {configuration : Configuration} {observer : Observer}
  {recorder : Recorder κ observer} {caller : κ}

/-- The notices of an attempt. One that ends in a fault has no result. -/
def notices (task : CheckTask) (caller : κ) (stage : Stage) : List (Notice κ) :=
  match task.turn? stage with
  | some turn => turn.notices caller
  | none => [.called caller stage.started.now]

theorem notices_attempt (configuration : Configuration)
    (heard : recorder.Hears caller task.probe) (session : Session) :
    recorder.notices (task.attempt configuration session).2.journal =
      recorder.notices session.journal ++ [.called caller session.now] := by
  refine Eq.trans ?_
    (heard session.nextScope (session.entered task.category.scope configuration.timeout))
  rw [attempt, Category.attempt_eq]
  rcases task.probe session.nextScope
    (session.entered task.category.scope configuration.timeout) with ⟨returned, after⟩
  obtain ⟨desk, noted⟩ := task.category.exists_logRaised_eq task.checker
    (Category.judged returned) after
  simp only [noted]
  cases Outcome.ofAnswer (Category.judged returned) <;> rfl

theorem notices_deliver (task : CheckTask) (configuration : Configuration)
    (recorder : Recorder κ observer) (number : Nat) (outcome : Outcome) (retry : Bool)
    (session : Session) :
    recorder.notices (task.deliver configuration observer number outcome retry session).2.journal =
      recorder.notices session.journal ++
        (task.category.resultOf? task.checker retry outcome).toList.map
          fun result => .told result session.now := by
  obtain ⟨desk, noted⟩ :=
    task.category.exists_logOutcome_eq task.checker number retry outcome session
  have told : recorder.notices (Category.tell observer
        (task.category.resultOf? task.checker retry outcome) { session with desk }).2.journal =
      recorder.notices session.journal ++
        (task.category.resultOf? task.checker retry outcome).toList.map
          fun result => .told result session.now := by
    cases task.category.resultOf? task.checker retry outcome with
    | none => simp [Category.tell]
    | some result => exact recorder.told result { session with desk }
  rw [deliver, Category.deliver_eq, noted, ← told]
  rcases Category.tell observer (task.category.resultOf? task.checker retry outcome)
    { session with desk } with ⟨fault | _, after⟩
  · rfl
  · cases retry with
    | false => rfl
    | true =>
      obtain ⟨micros, timers, scopes, waited⟩ := Action.exists_wait_eq task.category.scope
        configuration.retryWindow.seconds after
      rcases answered : Action.wait task.category.scope configuration.retryWindow.seconds after
        with ⟨fault | _, left⟩ <;>
        simp [answered] at waited <;> simp [answered, waited]

theorem notices_stage (heard : recorder.Hears caller task.probe) {number : Nat}
    {started ended left : Session} {outcome : Outcome} {retry : Bool} {told : Except Fault Unit}
    (attempted : task.attempt configuration started = (.ok (outcome, retry), ended))
    (delivered : task.deliver configuration observer number outcome retry ended = (told, left)) :
    recorder.notices left.journal =
      recorder.notices started.journal ++
        task.notices caller ⟨started, ended, .ok (outcome, retry), left⟩ := by
  have afterAttempt := notices_attempt configuration heard started
  have afterDelivery := notices_deliver task configuration recorder number outcome retry ended
  rw [attempted] at afterAttempt
  rw [delivered] at afterDelivery
  simp only at afterAttempt afterDelivery
  rw [afterDelivery, afterAttempt]
  simp [notices, turn?, Turn.notices, Session.now]

/-- A check adds exactly the notices of its attempts, in order. -/
theorem Course.notices_eq {number : Nat} {session final : Session} {stages : List Stage}
    {ending : Ending Bool} (heard : recorder.Hears caller task.probe)
    (course : task.Course configuration observer number session stages ending final) :
    recorder.notices final.journal =
      recorder.notices session.journal ++ stages.flatMap (task.notices caller) := by
  induction course with
  | cut number session => simp
  | @raised number started ended fault attempted =>
    have called := notices_attempt configuration heard started
    rw [attempted] at called
    simpa [notices, turn?] using called
  | untold attempted delivered =>
    simpa using notices_stage heard attempted delivered
  | last attempted delivered =>
    simpa using notices_stage heard attempted delivered
  | again attempted delivered onward inductionHypothesis =>
    rw [inductionHypothesis, notices_stage heard attempted delivered]
    simp

end CheckTask

end Checkup
