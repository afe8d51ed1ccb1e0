import Checkup.Proofs.Engine.Retry
import Checkup.Proofs.Scope.Detachment
import Checkup.Proofs.Scope.Narrowing

/-!
# The scopes of attempts

An attempt is given a scope of its own; its probe may cancel and detach scopes, but makes none. Main
statements: the scope of an attempt is done whenever that of its category is, and expires with the
timeout; cancelling it cancels no other scope; it is detached when the attempt is over, however that
ends.
-/

namespace Checkup

namespace Action

/-- An action that makes no scopes; it may cancel and detach some. -/
def MakesNoScopes (action : Action α) : Prop :=
  action.Along fun session after => session.scopes.Handled after.scopes

def DetachesNoScopes (action : Action α) : Prop :=
  action.Along fun session after => session.scopes.Holds after.scopes

/-- An action that does nothing to scopes but making, cancelling and detaching them. -/
def AgesScopes (action : Action α) : Prop :=
  action.Along fun session after => session.scopes.AgeTo after.scopes

theorem MakesNoScopes.agesScopes {action : Action α} (handles : action.MakesNoScopes) :
    action.AgesScopes :=
  fun session => (handles session).grows.ageTo

theorem along_cancels_observable : Observable fun action =>
    action.Along fun session after => session.scopes.Cancels after.scopes where
  toComposable := along_composable
    ⟨fun _ => Relation.ReflTransGen.refl, Relation.ReflTransGen.trans⟩ wait_cancels
    (fun id session => session.scopes.cancels_cancel id)
    (fun _ _ _ => Relation.ReflTransGen.refl)
  settle start := start
  ordinal _ _ := Relation.ReflTransGen.refl
  note _ _ := Relation.ReflTransGen.refl

end Action

/-- Scripted probes cancel scopes, and neither make nor detach any. -/
theorem scriptedProbe_scopes (description : String) (script : Nat)
    (attempts : List ScriptedAttempt) (scope : ScopeId) :
    (scriptedProbe description script attempts scope).MakesNoScopes ∧
      (scriptedProbe description script attempts scope).DetachesNoScopes := by
  have cancels := scriptedProbe_observable Action.along_cancels_observable description script
    attempts scope fun _ _ seconds _ => Action.advance_cancels seconds
  exact ⟨fun session => (cancels session).handled, fun session => (cancels session).holds⟩

/-- Listeners cancel scopes, and neither make nor detach any. -/
theorem Listener.observer_scopes (listener : Listener) (script : Nat) (result : CheckResult) :
    (listener.observer script result).MakesNoScopes ∧
      (listener.observer script result).DetachesNoScopes := by
  have cancels := observer_observable Action.along_cancels_observable listener script result
  exact ⟨fun session => (cancels session).handled, fun session => (cancels session).holds⟩

def Stage.scope (stage : Stage) : ScopeId :=
  stage.started.nextScope

namespace Session

variable {session instant : Session} {parent : ScopeId} {timeout : Duration}

/-- The scope of the next attempt is attached to that of the category and narrows its deadline. -/
theorem get?_entered (session : Session) (parent id : ScopeId) (timeout : Duration) :
    (session.entered parent timeout).scopes.get? id =
      if id = session.nextScope then some
        { parent := some parent
          attached := true
          deadline := Scopes.narrowed (session.scopes.deadline? parent)
            (some (session.now + timeout.seconds))
          cancelled := session.scopes.isCancelled parent }
      else session.scopes.get? id :=
  session.scopes.get?_push _ id

theorem size_entered (session : Session) (parent : ScopeId) (timeout : Duration) :
    (session.entered parent timeout).scopes.all.size = session.nextScope + 1 :=
  Array.size_push _

theorem attached_entered (session : Session) (parent : ScopeId) (timeout : Duration) :
    (session.entered parent timeout).scopes.Attached parent session.nextScope :=
  ⟨_, by rw [get?_entered, if_pos rfl], rfl, rfl⟩

theorem ageTo_entered (session : Session) (parent : ScopeId) (timeout : Duration) :
    session.scopes.AgeTo (session.entered parent timeout).scopes :=
  session.scopes.ageTo_push _

section During

variable (during : (session.entered parent timeout).scopes.Handled instant.scopes)

include during

theorem size_during : instant.scopes.all.size = session.nextScope + 1 :=
  during.size_eq.trans (session.size_entered parent timeout)

theorem deadline?_during :
    instant.scopes.deadline? session.nextScope =
      Scopes.narrowed (session.scopes.deadline? parent)
        (some (session.now + timeout.seconds)) := by
  have known : session.nextScope < (session.entered parent timeout).scopes.all.size := by
    rw [size_entered]
    exact Nat.lt_succ_self _
  rw [during.grows.ageTo.deadline?_eq known, Scopes.deadline?, get?_entered, if_pos rfl]
  rfl

theorem isExpired_during (reached : session.now + timeout.seconds ≤ instant.now) :
    instant.isExpired session.nextScope = true := by
  rw [isExpired_iff, deadline?_during during]
  exact Scopes.exists_narrowed_le _ reached

variable (known : parent < session.scopes.all.size)

include known

theorem isExpired_during_of_above (expired : instant.isExpired parent = true) :
    instant.isExpired session.nextScope = true := by
  rw [isExpired_iff] at expired
  obtain ⟨above, found, reached⟩ := expired
  have ages := (session.ageTo_entered parent timeout).trans during.grows.ageTo
  rw [ages.deadline?_eq known] at found
  -- If the sum were not a number, it would stand next to any deadline above it, and never come.
  have aboveNumber := (Number.isNaN_of_le reached).1
  have ownNumber : (session.now + timeout.seconds).isNaN = false := by
    obtain ⟨negative, bits, shaped, finite⟩ := Number.shape_seconds timeout
    exact Number.isNaN_add (Number.isNaN_secondsOfMicros session.micros) shaped finite
  have number : (if above < session.now + timeout.seconds then above
      else session.now + timeout.seconds).isNaN = false := by
    split
    · exact aboveNumber
    · exact ownNumber
  have taken := deadline?_during during
  rw [found] at taken
  rw [isExpired_iff]
  have narrowed : Scopes.narrowed (some above) (some (session.now + timeout.seconds)) =
      some (if above < session.now + timeout.seconds then above
        else session.now + timeout.seconds) := rfl
  exact ⟨_, taken.trans narrowed, Scopes.narrowed_le narrowed number reached⟩

theorem isDone_during (attached : instant.scopes.Attached parent session.nextScope)
    (done : instant.isDone parent = true) : instant.isDone session.nextScope = true := by
  rw [isDone, Bool.or_eq_true] at done ⊢
  rcases done with cancelled | expired
  · left
    have different : parent ≠ session.nextScope := Nat.ne_of_lt known
    have together : (session.entered parent timeout).scopes.isCancelled parent = true →
        (session.entered parent timeout).scopes.isCancelled session.nextScope = true := by
      intro before
      rw [Scopes.isCancelled, get?_entered, if_neg different] at before
      rw [Scopes.isCancelled, get?_entered, if_pos rfl]
      exact before
    exact during.downward known together attached cancelled
  · exact .inr (isExpired_during_of_above during known expired)

end During

end Session

namespace CheckTask

variable {task : CheckTask} {configuration : Configuration}

/-- The session with which an attempt calls the probe. -/
def entered (task : CheckTask) (configuration : Configuration) (stage : Stage) : Session :=
  stage.started.entered task.category.scope configuration.timeout

/-- A session that may come about while a probe runs that makes no scopes, at any instant of the
clock. -/
def During (task : CheckTask) (configuration : Configuration) (stage : Stage)
    (instant : Session) : Prop :=
  (task.entered configuration stage).scopes.Handled instant.scopes

structure Confined (task : CheckTask) (configuration : Configuration) (stage : Stage) : Prop where
  attached : (task.entered configuration stage).scopes.Attached task.category.scope stage.scope
  /-- The probe is called with it. -/
  called : task.During configuration stage
    (task.probe stage.scope (task.entered configuration stage)).2
  ended : ∃ desk, stage.ended =
    ({ (task.probe stage.scope (task.entered configuration stage)).2 with desk } :
      Session).released stage.scope
  /-- As long as nobody has detached it, it is done whenever the scope of the category is. -/
  done : ∀ instant, task.During configuration stage instant →
    instant.scopes.Attached task.category.scope stage.scope →
      instant.isDone task.category.scope = true → instant.isDone stage.scope = true
  expired : ∀ instant, task.During configuration stage instant →
    instant.isExpired task.category.scope = true → instant.isExpired stage.scope = true
  /-- It is expired when the timeout is over, whatever deadline the category has. -/
  timed : ∀ instant, task.During configuration stage instant →
    stage.started.now + configuration.timeout.seconds ≤ instant.now →
      instant.isExpired stage.scope = true
  /-- Cancelling it cancels no other scope. -/
  alone : ∀ instant, task.During configuration stage instant → ∀ id, id ≠ stage.scope →
    (instant.cancel stage.scope).scopes.get? id = instant.scopes.get? id
  /-- It is detached for good, -/
  detached : ∀ later, stage.ended.scopes.AgeTo later → later.Loose stage.scope
  /-- so that no later cancellation of another scope reaches it. -/
  spared : ∀ later, stage.ended.scopes.AgeTo later → ∀ top, top ≠ stage.scope →
    (later.cancel top).get? stage.scope = later.get? stage.scope

section Probes

variable (probes : ∀ scope, (task.probe scope).MakesNoScopes)

include probes

theorem confined {stage : Stage} (known : task.category.scope < stage.started.scopes.all.size)
    (attempted : task.attempt configuration stage.started = (stage.answer, stage.ended)) :
    task.Confined configuration stage := by
  have during := probes stage.scope (task.entered configuration stage)
  obtain ⟨desk, ended⟩ := task.exists_attempt_eq configuration stage.started
  rw [attempted] at ended
  have released : stage.ended.scopes =
      (task.probe stage.scope (task.entered configuration stage)).2.scopes.release stage.scope :=
    congrArg (·.scopes) ended
  have loose : stage.ended.scopes.Loose stage.scope := by
    rw [released]
    exact Scopes.loose_release _ _
  have size : stage.scope < stage.ended.scopes.all.size := by
    rw [released, Scopes.size_release, Session.size_during during]
    exact Nat.lt_succ_self _
  have free : ∀ later, stage.ended.scopes.AgeTo later → later.Loose stage.scope :=
    fun later ages => loose.ageTo size ages
  refine
    { attached := stage.started.attached_entered task.category.scope configuration.timeout
      called := during
      ended := ⟨desk, ended⟩
      detached := free
      done := ?done
      expired := ?expired
      timed := ?timed
      alone := ?alone
      spared := ?spared }
  case done => exact fun instant reached => Session.isDone_during reached known
  case expired => exact fun instant reached => Session.isExpired_during_of_above reached known
  case timed => exact fun instant reached => Session.isExpired_during reached
  case alone =>
    intro instant reached id other
    have newest := Session.size_during reached
    exact Scopes.get?_cancel_newest (Nat.le_of_eq newest) other
  case spared =>
    intro later ages top other
    exact (free later ages).get?_cancel (Ne.symm other)

theorem attempt_settles (configuration : Configuration) :
    (task.attempt configuration).Along fun session after =>
      session.scopes.Settles after.scopes := by
  intro session
  have during := probes session.nextScope
    (session.entered task.category.scope configuration.timeout)
  obtain ⟨desk, ended⟩ := task.exists_attempt_eq configuration session
  rw [ended]
  refine ⟨?_, ?_⟩
  · exact ((session.ageTo_entered _ _).trans during.grows.ageTo).trans
      (Scopes.ageTo_release _ _)
  · -- The probe makes none, so that the scope of the attempt is the only new one.
    intro id made
    by_cases own : id = session.nextScope
    · subst own
      exact Scopes.loose_release _ _
    · refine Scopes.loose_of_size_le ?_
      have beyond : session.nextScope + 1 ≤ id := Nat.lt_of_le_of_ne made (Ne.symm own)
      have size := Session.size_during during
      exact (Scopes.size_release _ _).trans size ▸ beyond

end Probes

theorem attempt_holds
    (holds : ∀ scope, (task.probe scope).DetachesNoScopes) (configuration : Configuration) :
    (task.attempt configuration).DetachesNoScopes := by
  intro session parent child attached
  obtain ⟨desk, ended⟩ := task.exists_attempt_eq configuration session
  rw [ended]
  have older : child ≠ session.nextScope := Nat.ne_of_lt attached.lt_size
  have entered : (session.entered task.category.scope configuration.timeout).scopes.Attached
      parent child := by
    obtain ⟨scope, found, both⟩ := attached
    exact ⟨scope, by rw [Session.get?_entered, if_neg older, found], both⟩
  exact Scopes.attached_release (holds _ _ parent child entered) (Ne.symm older)

end CheckTask

namespace Engine

variable {configuration : Configuration} {observer : Observer} {limit : Nat}

/-- The attempts of a suite follow each other along a relation of scopes if attempts and observer go
along it, and cancellations. -/
theorem Sweep.along_scopes (R : Scopes → Scopes → Prop)
    (goOn : ∀ {first second third}, R first second → R second third → R first third)
    (cancels : ∀ scopes later, scopes.Cancels later → R scopes later)
    {items : List Item} {verdict : Verdict} {session final : Session}
    {performed : List Performance} {ending : Ending Verdict}
    (attempts : ∀ task ∈ items.filterMap Item.task?,
      (task.attempt configuration).Along fun session after => R session.scopes after.scopes)
    (watches : ∀ result, (observer result).Along fun session after =>
      R session.scopes after.scopes)
    (sweep : Sweep configuration observer limit items verdict session performed ending final) :
    R session.scopes final.scopes ∧ ∀ done ∈ performed, ∀ stages,
      done.Attempts configuration observer limit stages → ∀ stage ∈ stages,
        R session.scopes stage.started.scopes ∧ R stage.ended.scopes final.scopes := by
  have stay : ∀ scopes, R scopes scopes := fun scopes => cancels _ _ Relation.ReflTransGen.refl
  have onward : Session.Onward fun session after => R session.scopes after.scopes :=
    ⟨fun session => stay session.scopes, goOn⟩
  have logs : ∀ session other : Session, session.SameButLog other →
      R session.scopes other.scopes := by
    rintro session other ⟨desk, rfl⟩
    exact stay session.scopes
  have deliveries : ∀ (task : CheckTask) number outcome retry,
      (task.deliver configuration observer number outcome retry).Along fun session after =>
        R session.scopes after.scopes := by
    intro task
    exact Category.deliver_along onward logs
      (fun session => cancels _ _ (Action.wait_cancels _ _ session)) watches
  obtain ⟨toFinal, toChecks, _⟩ := sweep.along_attempts onward logs attempts deliveries
  exact ⟨toFinal, fun done member => (toChecks done member).2⟩

end Engine

end Checkup
