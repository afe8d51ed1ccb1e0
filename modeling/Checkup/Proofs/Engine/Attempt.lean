import Checkup.Engine.Turn
import Checkup.Proofs.Session.Log
import Checkup.Proofs.Session.Waiting

/-!
# The parts of an attempt

An attempt opens a scope, calls the probe in it, and detaches the scope; delivering its outcome
writes to the log, tells the observer, and waits. Main statements: both are these parts in this
order, and apart from the probe, the observer and the wait they touch nothing but scopes and log.
-/

namespace Checkup

/-- A session with a new scope for an attempt, which expires after the timeout. -/
def Session.entered (session : Session) (parent : ScopeId) (timeout : Duration) : Session :=
  { session with
    scopes := (session.scopes.addChild parent (some (session.now + timeout.seconds))).1 }

def Session.nextScope (session : Session) : ScopeId := session.scopes.all.size

def Session.released (session : Session) (id : ScopeId) : Session :=
  { session with scopes := session.scopes.release id }

namespace Category

/-- What a probe answers in the engine's terms. -/
def judged (returned : Except Fault Returned) : Except Fault Outcome :=
  returned.bind Returned.classify

theorem exists_logRaised_eq (category : Category) (checker : Checker)
    (answer : Except Fault Outcome) (session : Session) :
    ∃ desk, category.logRaised checker answer session = (.ok (), { session with desk }) := by
  unfold logRaised
  split
  · exact ⟨_, rfl⟩
  · split
    · exact ⟨_, rfl⟩
    · exact ⟨_, rfl⟩

/-- An attempt opens a scope, calls the probe, notes a fault in the log and detaches the scope. -/
theorem attempt_eq (category : Category) (checker : Checker) (timeout : Duration) (probe : Probe)
    (session : Session) :
    category.attempt checker timeout probe session =
      let (returned, after) :=
        probe session.nextScope (session.entered category.scope timeout)
      (Outcome.ofAnswer (judged returned),
        (category.logRaised checker (judged returned) after).2.released session.nextScope) := by
  let probing : Action Outcome := do
    let returned ← probe session.nextScope
    Action.lift returned.classify
  have settled : ∀ entered, probing entered =
      (judged (probe session.nextScope entered).1, (probe session.nextScope entered).2) := by
    intro entered
    simp only [probing, bind]
    rcases probe session.nextScope entered with ⟨fault | returned, after⟩ <;> rfl
  obtain ⟨desk, noted⟩ := category.exists_logRaised_eq checker
    (judged (probe session.nextScope (session.entered category.scope timeout)).1)
    (probe session.nextScope (session.entered category.scope timeout)).2
  calc category.attempt checker timeout probe session
      = (do
          let answer ← Action.settle probing
          category.logRaised checker answer
          Action.release session.nextScope
          Action.lift (Outcome.ofAnswer answer))
          (session.entered category.scope timeout) := rfl
    _ = _ := by
      simp only [bind, Action.settle, settled, noted]
      rfl

theorem exists_logOutcome_eq (category : Category) (checker : Checker) (number : Nat)
    (retry : Bool) (outcome : Outcome) (session : Session) :
    ∃ desk, category.logOutcome checker number retry outcome session =
      (.ok (), { session with desk }) := by
  unfold logOutcome
  split
  · exact ⟨_, rfl⟩
  · split
    · exact ⟨_, rfl⟩
    · exact ⟨_, rfl⟩
  · exact ⟨_, rfl⟩

def tell (observer : Observer) (result : Option CheckResult) : Action Unit :=
  match result with
  | some result => observer result
  | none => pure ()

/-- Delivering an outcome notes it in the log, tells the observer of its result, and waits if the
check is tried again. -/
theorem deliver_eq (category : Category) (checker : Checker) (observer : Observer)
    (retryWindow : Duration) (number : Nat) (outcome : Outcome) (retry : Bool)
    (session : Session) :
    category.deliver checker observer retryWindow number outcome retry session =
      match tell observer (category.resultOf? checker retry outcome)
          (category.logOutcome checker number retry outcome session).2 with
      | (.error fault, told) => (.error fault, told)
      | (.ok (), told) =>
        if retry then
          match Action.wait category.scope retryWindow.seconds told with
          | (.error fault, left) => (.error fault, left)
          | (.ok _, left) => (.ok (), left)
        else (.ok (), told) := by
  obtain ⟨desk, noted⟩ := category.exists_logOutcome_eq checker number retry outcome session
  simp only [deliver, bind, noted]
  have waited : ∀ told, (if retry then do
        let _ ← Action.wait category.scope retryWindow.seconds
        pure ()
      else pure () : Action Unit) told =
      if retry then
        match Action.wait category.scope retryWindow.seconds told with
        | (.error fault, left) => (.error fault, left)
        | (.ok _, left) => (.ok (), left)
      else (.ok (), told) := by
    intro told
    cases retry with
    | false => rfl
    | true =>
      rcases waited : Action.wait category.scope retryWindow.seconds told with ⟨fault | _, left⟩
      · simp [bind, waited]
      · simp [bind, waited]
  cases category.resultOf? checker retry outcome with
  | none => exact waited _
  | some result =>
    rcases told : observer result { session with desk } with ⟨fault | _, after⟩
    · simp only [tell, told]
    · simp only [tell, told]
      exact waited after

theorem tell_along {observer : Observer} {R : Session → Session → Prop}
    (onward : Session.Onward R) (watches : ∀ result, (observer result).Along R)
    (result : Option CheckResult) : (tell observer result).Along R := by
  cases result with
  | none => exact onward.stay
  | some result => exact watches result

/-- Delivering goes along a relation if the wait and the observer do, and writing to the log. -/
theorem deliver_along {category : Category} {checker : Checker} {observer : Observer}
    {retryWindow : Duration} {R : Session → Session → Prop} (onward : Session.Onward R)
    (logs : ∀ session other : Session, session.SameButLog other → R session other)
    (waits : (Action.wait category.scope retryWindow.seconds).Along R)
    (watches : ∀ result, (observer result).Along R) (number : Nat) (outcome : Outcome)
    (retry : Bool) :
    (category.deliver checker observer retryWindow number outcome retry).Along R := by
  intro session
  obtain ⟨desk, noted⟩ := category.exists_logOutcome_eq checker number retry outcome session
  have told : R session
      (tell observer (category.resultOf? checker retry outcome) { session with desk }).2 :=
    onward.goOn (logs session { session with desk } ⟨desk, rfl⟩)
      (tell_along onward watches _ { session with desk })
  rw [deliver_eq, noted]
  rcases answered : tell observer (category.resultOf? checker retry outcome) { session with desk }
    with ⟨fault | _, after⟩
  · rw [answered] at told
    exact told
  · rw [answered] at told
    cases retry with
    | false => exact told
    | true =>
      have waited := waits after
      rcases held : Action.wait category.scope retryWindow.seconds after with
        ⟨fault | _, left⟩ <;>
        rw [held] at waited <;> simp only [if_true, held] <;> exact onward.goOn told waited

end Category

end Checkup
