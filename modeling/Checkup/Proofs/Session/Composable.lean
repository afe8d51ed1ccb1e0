import Checkup.Probe.Script

/-!
# Properties of actions that are put together

A composable property holds of every action that is put together from actions that have it. Main
statements: scripted probes and listeners have every composable property that sleeping and counting
have; a relation of sessions that can be followed from step to step gives such a property.
-/

namespace Checkup

/-- A property of actions that holds of the steps of scripts and of what is put together from them;
sleeping apart, which may set the clock back. -/
structure Action.Composable (P : ∀ {α : Type}, Action α → Prop) : Prop where
  pure : ∀ {α : Type} (value : α), P (Pure.pure value : Action α)
  raise : ∀ {α : Type} (fault : Fault), P (Action.raise fault : Action α)
  /-- Nothing that is read off a session depends on its log or on its journal. -/
  look : ∀ {α : Type} (view : Session → α),
    (∀ session desk journal, view { session with desk, journal } = view session) →
      P (Action.look view)
  bind : ∀ {α β : Type} {first : Action α} {next : α → Action β},
    P first → (∀ value, P (next value)) → P (first >>= next)
  wait : ∀ scope seconds, P (Action.wait scope seconds)
  cancel : ∀ id, P (Action.cancel id)
  record : ∀ key value, P (Action.record key value)

/-- Such a property also holds of settling, of counting questions and of noting. -/
structure Action.Observable (P : ∀ {α : Type}, Action α → Prop) : Prop
    extends Action.Composable P where
  settle : ∀ {α : Type} {action : Action α}, P action → P (Action.settle action)
  ordinal : ∀ source, P (Action.ordinal source)
  note : ∀ entry, P (Action.note entry)

section Composable

variable {P : ∀ {α : Type}, Action α → Prop} (composable : Action.Composable P)

include composable

theorem Action.Composable.lift {α : Type} (answer : Except Fault α) : P (Action.lift answer) := by
  cases answer with
  | ok value => exact composable.pure value
  | error fault => exact composable.raise fault

theorem Action.Composable.named (name : String) : P (Action.named name) := by
  refine composable.bind (composable.look _ fun _ _ _ => rfl) ?_
  intro found
  cases found with
  | none => exact composable.raise _
  | some id => exact composable.pure id

theorem Action.Composable.scopeOfAct (scope : ScopeId) (name : String) :
    P (scopeOfAct scope name) := by
  unfold Checkup.scopeOfAct
  split
  · exact composable.pure scope
  · exact composable.named name

/-- The acts of a script, apart from sleeping. -/
theorem Act.perform_composable (scope : ScopeId) (act : Act)
    (sleeps : ∀ seconds, act = .sleep seconds → P (Action.advance seconds)) :
    P (act.perform scope) := by
  have seen : ∀ sights : List Sight, P (pure sights : Action (List Sight)) := composable.pure
  cases act with
  | sleep seconds => exact composable.bind (sleeps seconds rfl) fun _ => seen _
  | wait span =>
    exact composable.bind (composable.lift _) fun seconds =>
      composable.bind (composable.wait scope seconds) fun _ => seen _
  | set key value => exact composable.bind (composable.record key value) fun _ => seen _
  | get key default => exact composable.bind (composable.look _ fun _ _ _ => rfl) fun _ => seen _
  | has key => exact composable.bind (composable.look _ fun _ _ _ => rfl) fun _ => seen _
  | increment key =>
    exact composable.bind (composable.look _ fun _ _ _ => rfl) fun found =>
      composable.bind (composable.lift _) fun value =>
        composable.bind (composable.record key value) fun _ => seen _
  | cancel name =>
    exact composable.bind (composable.scopeOfAct scope name) fun id =>
      composable.bind (composable.cancel id) fun _ => seen _
  | look => exact composable.bind (composable.look _ fun _ _ _ => rfl) fun _ => seen _

theorem performAll_composable (scope : ScopeId) (acts : List Act)
    (sleeps : ∀ seconds, .sleep seconds ∈ acts → P (Action.advance seconds)) :
    P (performAll scope acts) := by
  induction acts with
  | nil => exact composable.pure []
  | cons act later inductionHypothesis =>
    have first := Act.perform_composable composable scope act fun seconds same =>
      sleeps seconds (same ▸ List.mem_cons_self)
    have rest := inductionHypothesis fun seconds member =>
      sleeps seconds (List.mem_cons_of_mem act member)
    exact composable.bind first fun _ => composable.bind rest fun _ => composable.pure _

theorem Reaction.take_composable (scope : ScopeId) (reaction : Reaction) :
    P (reaction.take scope) := by
  cases reaction with
  | give returned => exact composable.pure returned
  | raise fault => exact composable.raise fault
  | giveScopeFault =>
    refine composable.bind (composable.look _ fun _ _ _ => rfl) ?_
    intro found
    cases found with
    | none => exact composable.pure _
    | some fault => exact composable.pure _

namespace Listener

omit composable in
/-- What a listener does after it has noted the result of a number. -/
def react (listener : Listener) (number : Nat) : Action Unit := do
  match entryAt? number listener.cancels with
  | some name => Action.cancel (← Action.named name)
  | none => pure ()
  match entryAt? number listener.raises with
  | some fault => Action.raise fault
  | none => pure ()

theorem react_composable (listener : Listener) (number : Nat) : P (listener.react number) := by
  have raises : P (match entryAt? number listener.raises with
      | some fault => Action.raise fault
      | none => pure () : Action Unit) := by
    cases entryAt? number listener.raises with
    | none => exact composable.pure ()
    | some fault => exact composable.raise fault
  unfold react
  cases entryAt? number listener.cancels with
  | none => exact raises
  | some name =>
    exact composable.bind (composable.named name) fun id =>
      composable.bind (composable.cancel id) fun _ => raises

end Listener

end Composable

/-- What a script does at a call: one of its attempts, or nothing if it has none. -/
theorem mem_or_idle (attempts : List ScriptedAttempt) (before : Nat) :
    (attempts[before]?).getD (attempts.getLastD {}) ∈ attempts ∨
      (attempts[before]?).getD (attempts.getLastD {}) = {} := by
  cases found : attempts[before]? with
  | some attempt => exact .inl (List.mem_of_getElem? found)
  | none =>
    cases attempts with
    | nil => exact .inr rfl
    | cons attempt later =>
      refine .inl ?_
      rw [Option.getD_none, List.getLastD_cons]
      exact List.getLastD_mem_cons

section Observable

variable {P : ∀ {α : Type}, Action α → Prop} (observable : Action.Observable P)

include observable

/-- A scripted probe whose sleeps have the property has it. -/
theorem scriptedProbe_observable (description : String) (script : Nat)
    (attempts : List ScriptedAttempt) (scope : ScopeId)
    (sleeps : ∀ attempt ∈ attempts, ∀ seconds, .sleep seconds ∈ attempt.acts →
      P (Action.advance seconds)) :
    P (scriptedProbe description script attempts scope) := by
  have composable := observable.toComposable
  refine composable.bind (observable.ordinal _) ?_
  intro before
  have performed : P (performAll scope
      ((attempts[before]?).getD (attempts.getLastD {})).acts) := by
    refine performAll_composable composable scope _ ?_
    intro seconds member
    rcases mem_or_idle attempts before with known | empty
    · exact sleeps _ known seconds member
    · rw [empty] at member
      cases member
  refine composable.bind (composable.look _ fun _ _ _ => rfl) fun start => ?_
  refine composable.bind (observable.settle performed) fun settled => ?_
  cases settled with
  | error fault => exact composable.bind (observable.note _) fun _ => composable.raise fault
  | ok seen =>
    exact composable.bind (observable.note _) fun _ => Reaction.take_composable composable scope _

theorem Listener.observer_observable (listener : Listener) (script : Nat) (result : CheckResult) :
    P (listener.observer script result) :=
  observable.bind (observable.ordinal _) fun before =>
    observable.bind
      (observable.bind (observable.look _ fun _ _ _ => rfl) fun _ => observable.note _)
      fun _ => listener.react_composable observable.toComposable (before + 1)

end Observable

/-- A relation of sessions that can be followed from step to step. -/
structure Session.Onward (R : Session → Session → Prop) : Prop where
  stay : ∀ session, R session session
  goOn : ∀ {first second third}, R first second → R second third → R first third

namespace Action

/-- An action takes every session to one that it is related to, also if it ends in a fault. -/
def Along (R : Session → Session → Prop) (action : Action α) : Prop :=
  ∀ session, R session (action session).2

section Along

variable {R : Session → Session → Prop} (onward : Session.Onward R)

include onward

/-- Two steps after each other; the second one is only taken if the first one gives a value. -/
theorem Along.bind {first : Action α} {next : α → Action β} (start : first.Along R)
    (rest : ∀ value, (next value).Along R) : (first >>= next).Along R := by
  intro session
  have started := start session
  rcases taken : first session with ⟨fault | value, after⟩
  · rw [taken] at started
    rw [bind_of_error taken]
    exact started
  · rw [taken] at started
    rw [bind_of_ok taken]
    exact onward.goOn started (rest value after)

/-- Going along a relation is composable if waiting, cancelling and storing go along it. -/
theorem along_composable (waits : ∀ scope seconds, (wait scope seconds).Along R)
    (cancels : ∀ id, (cancel id).Along R) (records : ∀ key value, (record key value).Along R) :
    Composable fun action => action.Along R where
  pure _ := onward.stay
  raise _ := onward.stay
  look _ _ := onward.stay
  bind start rest := start.bind onward rest
  wait := waits
  cancel := cancels
  record := records

end Along

end Action

end Checkup
