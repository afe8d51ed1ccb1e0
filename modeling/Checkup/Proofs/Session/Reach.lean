import Checkup.Proofs.Number.Order
import Checkup.Proofs.Scope.Cancellation
import Checkup.Proofs.Session.Log

/-!
# Sessions that are reached

A session reaches another one by letting time pass, by making, cancelling and detaching scopes, and
by changing what is neither clock nor scope; the clock is never set back. Main statements: a scope
that is done stays done in every session that is reached; scripted probes that do not sleep
backwards and listeners take a session to one that it reaches.
-/

namespace Checkup

namespace Scopes

/-- Scopes that came from others: those that were there before keep their deadlines and stay
cancelled if they were. -/
structure Kept (before after : Scopes) : Prop where
  deadline : ∀ id moment, before.deadline? id = some moment → after.deadline? id = some moment
  cancelled : ∀ id, before.isCancelled id = true → after.isCancelled id = true

theorem AgeTo.kept {scopes later : Scopes} (age : scopes.AgeTo later) : scopes.Kept later where
  deadline id moment has := by
    cases found : scopes.get? id with
    | none => simp [deadline?, found] at has
    | some scope => rw [age.deadline?_eq (lt_size_of_get? found), has]
  cancelled _ := age.isCancelled

end Scopes

namespace Session

inductive Moves : Session → Session → Prop where
  /-- Time passes, and somebody may be waiting for a scope. -/
  | pass {session : Session} (awaited : Option ScopeId) {target : Int}
      (forward : session.micros ≤ target) : Moves session (session.passTo awaited target)
  | cancel (session : Session) (id : ScopeId) : Moves session (session.cancel id)
  | release (session : Session) (id : ScopeId) :
      Moves session { session with scopes := session.scopes.release id }
  | background (session : Session) (deadline : Option Float) :
      Moves session { session with scopes := (session.scopes.addRoot deadline).1 }
  | under (session : Session) (parent : ScopeId) (deadline : Option Float) :
      Moves session { session with scopes := (session.scopes.addChild parent deadline).1 }
  /-- Something changes that is neither the clock, what drives it, nor a scope. -/
  | elsewhere {session other : Session} (sameMicros : other.micros = session.micros)
      (sameScopes : other.scopes = session.scopes)
      (sameClockwork : other.clockwork = session.clockwork) : Moves session other

def Reaches : Session → Session → Prop :=
  Relation.ReflTransGen Moves

theorem Moves.reaches {session other : Session} (moves : session.Moves other) :
    session.Reaches other :=
  Relation.ReflTransGen.single moves

theorem Reaches.refl (session : Session) : session.Reaches session :=
  Relation.ReflTransGen.refl

theorem Reaches.trans {first second third : Session} (reaches : first.Reaches second)
    (reachesToo : second.Reaches third) : first.Reaches third :=
  Relation.ReflTransGen.trans reaches reachesToo

theorem SameButLog.reaches {session other : Session} (same : session.SameButLog other) :
    session.Reaches other := by
  obtain ⟨desk, rfl⟩ := same
  exact (show session.Moves { session with desk } from .elsewhere rfl rfl rfl).reaches

theorem onward_reaches : Onward Reaches :=
  ⟨Reaches.refl, Reaches.trans⟩

theorem le_micros_passTimers (awaited : Option ScopeId) {target : Int} (waiting : List Timer)
    (session : Session) (forward : session.micros ≤ target) :
    session.micros ≤ (passTimers awaited target waiting session).micros := by
  induction waiting generalizing session with
  | nil => exact forward
  | cons timer later inductionHypothesis =>
    rw [passTimers]
    split
    · rename_i due
      dsimp only
      have clock : (({ session with timers := later } : Session).fire timer).micros =
          max session.micros timer.due := by
        unfold fire
        dsimp only
        split <;> rfl
      split
      · omega
      · have onward :=
          inductionHypothesis (({ session with timers := later } : Session).fire timer) (by omega)
        omega
    · exact forward

theorem Moves.le_micros {session other : Session} (moves : session.Moves other) :
    session.micros ≤ other.micros := by
  cases moves with
  | pass awaited forward => exact le_micros_passTimers awaited session.timers session forward
  | cancel | release | background | under => exact Int.le_refl _
  | elsewhere sameMicros => exact Int.le_of_eq sameMicros.symm

theorem Moves.ageTo {session other : Session} (moves : session.Moves other) :
    session.scopes.AgeTo other.scopes := by
  cases moves with
  | pass awaited forward =>
    exact (passTimers_cancels awaited _ session.timers session).handled.grows.ageTo
  | cancel id => exact session.scopes.ageTo_cancel id
  | release id => exact session.scopes.ageTo_release id
  | background deadline => exact session.scopes.ageTo_push _
  | under parent deadline => exact session.scopes.ageTo_push _
  | elsewhere _ sameScopes => exact sameScopes ▸ .refl session.scopes

theorem Reaches.ageTo {session other : Session} (reaches : session.Reaches other) :
    session.scopes.AgeTo other.scopes := by
  induction reaches with
  | refl => exact .refl session.scopes
  | tail before moves inductionHypothesis => exact inductionHypothesis.trans moves.ageTo

/-- The clock of a session that is reached is not behind, and its scopes are kept. -/
theorem Reaches.onward {session other : Session} (reaches : session.Reaches other) :
    session.micros ≤ other.micros ∧ session.scopes.Kept other.scopes := by
  refine ⟨?_, reaches.ageTo.kept⟩
  induction reaches with
  | refl => exact Int.le_refl _
  | tail before moves inductionHypothesis => exact Int.le_trans inductionHypothesis moves.le_micros

theorem Moves.clockwork_eq {session other : Session} (moves : session.Moves other) :
    other.clockwork = session.clockwork := by
  cases moves with
  | pass awaited forward =>
    obtain ⟨micros, timers, scopes, passed⟩ := session.exists_passTo_eq awaited _
    rw [passed]
  | cancel | release | background | under => rfl
  | elsewhere _ _ sameClockwork => exact sameClockwork

theorem Reaches.clockwork_eq {session other : Session} (reaches : session.Reaches other) :
    other.clockwork = session.clockwork := by
  induction reaches with
  | refl => rfl
  | tail before moves inductionHypothesis => exact moves.clockwork_eq.trans inductionHypothesis

theorem Reaches.isCancelled {session other : Session} {id : ScopeId}
    (reaches : session.Reaches other) (cancelled : session.scopes.isCancelled id = true) :
    other.scopes.isCancelled id = true :=
  reaches.onward.2.cancelled id cancelled

theorem Reaches.isExpired {session other : Session} {id : ScopeId}
    (reaches : session.Reaches other) (expired : session.isExpired id = true) :
    other.isExpired id = true := by
  obtain ⟨clock, kept⟩ := reaches.onward
  unfold Session.isExpired at expired ⊢
  cases has : session.scopes.deadline? id with
  | none => simp [has] at expired
  | some deadline =>
    rw [has, Option.any_some, decide_eq_true_iff] at expired
    rw [kept.deadline id deadline has, Option.any_some, decide_eq_true_iff]
    exact Number.float_le_trans expired (Number.secondsOfMicros_mono clock)

/-- A scope that is done stays done. -/
theorem Reaches.isDone {session other : Session} {id : ScopeId} (reaches : session.Reaches other)
    (done : session.isDone id = true) : other.isDone id = true := by
  rw [Session.isDone, Bool.or_eq_true] at done ⊢
  exact done.imp reaches.isCancelled reaches.isExpired

end Session

namespace Action

open Session

/-- A number of microseconds above zero seconds does not lead back. -/
theorem microsOfSeconds_nonneg {seconds : Float} {micros : Int} (positive : 0 < seconds)
    (rounded : microsOfSeconds seconds = .ok micros) : 0 ≤ micros := by
  unfold microsOfSeconds at rounded
  cases whole : Number.nearestInt (seconds * 1000000) with
  | error problem =>
    rw [whole] at rounded
    cases rounded
  | ok found =>
    rw [whole] at rounded
    cases rounded
    exact Number.nearestInt_mul_nonneg positive (by decide +kernel) whole

theorem hold_along (id : ScopeId) (seconds : Float) : (hold id seconds).Along Reaches := by
  intro session
  unfold hold
  split
  · exact .refl session
  · split
    · rename_i positive
      split
      · rename_i micros counted
        have forward :=
          microsOfSeconds_nonneg positive (Clockwork.microsOfWait_eq_ok.mp counted).2
        exact (Moves.pass (some id) (by omega)).reaches
      · exact .refl session
    · exact .refl session

theorem wait_along (id : ScopeId) (seconds : Float) : (wait id seconds).Along Reaches := by
  intro session
  have held := hold_along id (boundedBy (session.remaining? id) seconds) session
  rw [wait_eq]
  rcases found : hold id (boundedBy (session.remaining? id) seconds) session with
    ⟨fault | _, after⟩ <;>
    rw [found] at held <;> exact held

/-- Sleeping for more than no time only lets time pass. -/
theorem advance_along {seconds : Amount}
    (forward : ∀ length, seconds.toFloat = .ok length → 0 < length) :
    (advance seconds).Along Reaches := by
  intro session
  unfold advance
  split
  · rename_i micros answered
    have nonneg : 0 ≤ micros := by
      cases known : seconds.toFloat with
      | error fault =>
        rw [known] at answered
        cases answered
      | ok length =>
        rw [known] at answered
        exact microsOfSeconds_nonneg (forward length known) answered
    exact (Moves.pass none (by omega)).reaches
  · exact .refl session

theorem change_along {update : Session → Session}
    (sameMicros : ∀ session, (update session).micros = session.micros)
    (sameScopes : ∀ session, (update session).scopes = session.scopes)
    (sameClockwork : ∀ session, (update session).clockwork = session.clockwork) :
    (change update).Along Reaches := by
  intro session
  exact (Moves.elsewhere (sameMicros session) (sameScopes session)
    (sameClockwork session)).reaches

theorem along_reaches_observable : Observable fun action => action.Along Reaches where
  toComposable := along_composable onward_reaches wait_along
    (fun id session => (Moves.cancel session id).reaches)
    (fun _ _ => change_along (fun _ => rfl) (fun _ => rfl) fun _ => rfl)
  settle start := start
  ordinal source session :=
    (show session.Moves (session.countAsked source) from .elsewhere rfl rfl rfl).reaches
  note _ := change_along (fun _ => rfl) (fun _ => rfl) fun _ => rfl

end Action

/-- Scripted probes that do not sleep backwards take a session to one that it reaches. -/
theorem scriptedProbe_along (description : String) (script : Nat)
    (attempts : List ScriptedAttempt)
    (forward : ∀ attempt ∈ attempts, ∀ seconds, .sleep seconds ∈ attempt.acts →
      ∀ length, seconds.toFloat = .ok length → 0 < length) (scope : ScopeId) :
    (scriptedProbe description script attempts scope).Along Session.Reaches :=
  scriptedProbe_observable Action.along_reaches_observable description script attempts scope
    fun attempt member seconds sleeps =>
      Action.advance_along (forward attempt member seconds sleeps)

/-- Listeners take a session to one that it reaches. -/
theorem Listener.observer_along (listener : Listener) (script : Nat) (result : CheckResult) :
    (listener.observer script result).Along Session.Reaches :=
  observer_observable Action.along_reaches_observable listener script result

end Checkup
