import Checkup.Probe.Network
import Checkup.Proofs.Number.Arithmetic
import Checkup.Proofs.Number.Range
import Checkup.Proofs.Probe.Hearing
import Checkup.Proofs.Session.Pausing

/-!
# Probes that ask services

A probe of the network looks at its scope, measures the time that is left, and asks its service; the
machine may pause before each of these steps. Main statements: a probe that finds its scope done makes
no call and fails with the reason why the scope is done; otherwise it makes one call, which is not
given more time than the scope had left when it was measured.
-/

namespace Checkup

def Entry.call? : Entry → Option Call
  | called call => some call
  | _ => none

/-- The calls in the journal of a session, the oldest first. -/
def Session.calls (session : Session) : List Call :=
  session.journal.reverse.filterMap Entry.call?

def Session.SameCalls (session after : Session) : Prop :=
  after.calls = session.calls

/-- The timeout of a call, and the most that its kind allows. -/
def Call.timeout? : Call → Option (Float × Float)
  | connect _ _ timeout => some (timeout, Network.connectTimeout)
  | request _ _ timeout _ _ => some (timeout, Network.requestTimeout)
  | resolve _ | freeSpace _ => none

/-- A call that has a timeout is not given more time than its kind allows, nor more than there is
left. -/
def Call.Bounded (call : Call) (left : Float) : Prop :=
  ∀ timeout most, call.timeout? = some (timeout, most) →
    0 ≤ timeout ∧ timeout ≤ most ∧ timeout ≤ left

/-- A call that has a timeout is given some time, but not more than its kind allows, nor more than
there is left. -/
def Call.Timely (call : Call) (left : Float) : Prop :=
  ∀ timeout most, call.timeout? = some (timeout, most) →
    0 < timeout ∧ timeout ≤ most ∧ timeout ≤ left

namespace Session

theorem sameCalls_onward : Onward SameCalls where
  stay _ := rfl
  goOn first second := second.trans first

theorem calls_eq_of_journal_eq {session after : Session} (same : after.journal = session.journal) :
    after.calls = session.calls := by
  rw [calls, same]
  rfl

theorem calls_of_called {session after : Session} {call : Call}
    (noted : after.journal = .called call :: session.journal) :
    after.calls = session.calls ++ [call] := by
  rw [calls, noted, List.reverse_cons, List.filterMap_append]
  rfl

end Session

theorem Listener.observer_sameCalls (listener : Listener) (script : Nat) (result : CheckResult) :
    (listener.observer script result).Along Session.SameCalls := by
  intro session
  rw [Session.SameCalls, Session.calls, observer_journal, List.reverse_cons,
    List.filterMap_append]
  exact List.append_nil _

namespace Action

/-- What asking a service does after the call has been noted. -/
def ask (source : Source) (reply : Host → Nat → Reply β) : Action β := do
  let host ← look (·.host)
  let before ← ordinal source
  match (reply host before).takes with
  | some seconds => advance seconds
  | none => pure ()
  lift (reply host before).answer

theorem ask_along {R : Session → Session → Prop} (onward : Session.Onward R)
    (counts : ∀ source, (ordinal source).Along R) (passes : ∀ seconds, (advance seconds).Along R)
    (source : Source) (reply : Host → Nat → Reply β) : (ask source reply).Along R := by
  have looks : ∀ {γ : Type} (view : Session → γ), (look view).Along R :=
    fun view session => onward.stay session
  have answers : ∀ answer : Except Fault β, (lift answer).Along R :=
    fun answer session => onward.stay session
  refine (looks _).bind onward fun host => (counts source).bind onward fun before => ?_
  cases (reply host before).takes with
  | none => exact answers _
  | some seconds => exact (passes seconds).bind onward fun _ => answers _

theorem Along.settle {R : Session → Session → Prop} {action : Action α} (start : action.Along R) :
    (Action.settle action).Along R :=
  start

theorem consult_along {R : Session → Session → Prop} (onward : Session.Onward R)
    (notes : ∀ entry, (note entry).Along R) (counts : ∀ source, (ordinal source).Along R)
    (passes : ∀ seconds, (advance seconds).Along R) (source : Source) (call : Call)
    (reply : Host → Nat → Reply β) : (consult source call reply).Along R :=
  (notes (.called call)).bind onward fun _ => ask_along onward counts passes source reply

/-- An action taken in one session asks a service in another one, `called`. Afterwards nothing is
added to the journal. -/
def Asks (action : Action α) (session : Session) (call : Call) (called : Session) : Prop :=
  ∃ (β : Type) (source : Source) (reply : Host → Nat → Reply β) (next : Except Fault β → Action α),
    action session = (settle (consult source call reply) >>= next) called ∧
      ∀ answer, (next answer).Along Session.SameJournal

section Asks

variable {action : Action α} {session called : Session} {call : Call}

theorem Asks.calls_eq (asks : action.Asks session call called) :
    (action session).2.calls = called.calls ++ [call] := by
  obtain ⟨β, source, reply, next, asked, silent⟩ := asks
  let noted : Session := { called with journal := .called call :: called.journal }
  -- The call is noted first; waiting for the answer and judging it add nothing.
  have answered : (ask source reply noted).2.journal = noted.journal :=
    ask_along Session.sameJournal_onward (fun _ _ => rfl) advance_sameJournal source reply noted
  apply Session.calls_of_called
  rw [asked]
  exact (silent _ _).trans answered

theorem asks_read {view : Session → β} {next : β → Action α}
    (asks : (next (view session.paused)).Asks session.paused call called) :
    (read view >>= next).Asks session call called := by
  obtain ⟨γ, source, reply, judge, asked, silent⟩ := asks
  refine ⟨γ, source, reply, judge, ?_, silent⟩
  rw [bind_of_ok (session.read_eq view), asked]

end Asks

end Action

namespace Network

inductive Inquiry where
  | resolve (host : String) (stored : Bool)
  | connect (host : String) (portNumber : Int)
  | request (request : Request)

namespace Inquiry

def probe : Inquiry → Probe
  | resolve host stored => Network.resolve host stored
  | connect host portNumber => Network.connect host portNumber
  | request wanted => wanted.send

def call (remaining : Option Float) : Inquiry → Call
  | resolve host _ => .resolve host
  | connect host portNumber => .connect host portNumber (boundedBy remaining connectTimeout)
  | request wanted =>
    .request wanted.method wanted.url (boundedBy remaining requestTimeout) wanted.headers true

end Inquiry

theorem inquire_eq (source : Source) (call : Call) (reply : Host → Nat → Reply α)
    (session : Session) :
    inquire source call reply session =
      Action.settle (Action.consult source call reply) session.paused :=
  Action.bind_of_ok session.pause_eq

theorem asks_inquire {source : Source} {call : Call} {reply : Host → Nat → Reply β}
    {next : Except Fault β → Action α} (silent : ∀ answer, (next answer).Along Session.SameJournal)
    (session : Session) :
    (inquire source call reply >>= next).Asks session call session.paused := by
  refine ⟨β, source, reply, next, ?_, silent⟩
  simp only [bind, inquire_eq]

section UnlessDone

variable {scope : ScopeId} {session : Session} {action : Action Outcome}

theorem bind_unlessDone_of_not_done {looked : Session}
    (undone : Action.askDone scope session = (.ok false, looked)) (next : Outcome → Action α) :
    (unlessDone scope action >>= next) session = (action >>= next) looked := by
  have acts : unlessDone scope action session = action looked := by
    rw [unlessDone, Action.bind_of_ok undone]
    rfl
  simp only [bind, acts]

/-- A scope that is done has a reason why, so that the failure never needs another one. -/
theorem exists_unlessDone_eq (done : (Action.askDone scope session).1 = .ok true) :
    ∃ found after, session.Rests found ∧ found.Rests after ∧ found.isDone scope = true ∧
      unlessDone scope action session =
        (.ok (.failure
          (if found.scopes.isCancelled scope then .cancelled else .deadlineExceeded)), after) := by
  rcases Action.askDone_cases scope session with ⟨looked, asked, rests, _, doneThen⟩ | ⟨asked, _⟩
  · obtain ⟨found, after, restsToo, onward, isDone, why⟩ := Action.exists_askFault_eq doneThen
    refine ⟨found, after, rests.trans restsToo, onward, isDone, ?_⟩
    rw [unlessDone, Action.bind_of_ok asked, if_pos rfl, Action.bind_of_ok why]
    rfl
  · rw [asked] at done
    cases done

end UnlessDone

/-- A probe that finds its scope done fails with the reason why it is done, and does nothing. -/
theorem Inquiry.exists_probe_eq (inquiry : Inquiry) {scope : ScopeId} {session : Session}
    (done : (Action.askDone scope session).1 = .ok true) :
    ∃ found after, session.Rests found ∧ found.Rests after ∧ found.isDone scope = true ∧
      inquiry.probe scope session =
        (.ok (.outcome (.failure
          (if found.scopes.isCancelled scope then .cancelled else .deadlineExceeded))), after) := by
  have refused : ∀ action : Action Outcome,
      ∃ found after, session.Rests found ∧ found.Rests after ∧ found.isDone scope = true ∧
        (unlessDone scope action >>= fun outcome => pure (Returned.outcome outcome)) session =
          (.ok (.outcome (.failure
            (if found.scopes.isCancelled scope then .cancelled else .deadlineExceeded))),
            after) := by
    intro action
    obtain ⟨found, after, rests, onward, isDone, failed⟩ := @exists_unlessDone_eq _ _ action done
    exact ⟨found, after, rests, onward, isDone, Action.bind_of_ok failed⟩
  cases inquiry <;> exact refused _

theorem orElse_along {R : Session → Session → Prop} (onward : Session.Onward R)
    (fails? : Fault → Option Outcome) {next : α → Action Outcome}
    (judges : ∀ value, (next value).Along R) (answer : Except Fault α) :
    (orElse answer fails? next).Along R := by
  cases answer with
  | ok value => exact judges value
  | error fault =>
    intro session
    rw [orElse]
    cases fails? fault with
    | some outcome => exact onward.stay session
    | none => exact onward.stay session

theorem asks_unlessDone {scope : ScopeId} {session looked called : Session}
    {action : Action Outcome} {call : Call}
    (undone : Action.askDone scope session = (.ok false, looked))
    (asks : action.Asks looked call called) :
    Action.Asks (unlessDone scope action >>= fun outcome => pure (Returned.outcome outcome)) session
      call called := by
  obtain ⟨β, source, reply, next, asked, silent⟩ := asks
  refine ⟨β, source, reply, fun answer => next answer >>= fun outcome => pure (.outcome outcome),
    ?_, fun answer => (silent answer).bind Session.sameJournal_onward fun _ => fun _ => rfl⟩
  rw [bind_unlessDone_of_not_done undone, ← bind_assoc]
  simp only [bind] at asked ⊢
  rw [asked]

theorem sameJournal_paused (session : Session) : session.SameJournal session.paused := by
  obtain ⟨micros, timers, scopes, asked, paused⟩ := session.exists_paused_eq
  rw [paused]
  rfl

/-- A probe that does not find its scope done measures what is left and makes its call. -/
theorem Inquiry.exists_asks (inquiry : Inquiry) {scope : ScopeId} {session looked : Session}
    (undone : Action.askDone scope session = (.ok false, looked)) :
    ∃ measured called, looked.Rests measured ∧ measured.Rests called ∧
      (inquiry.probe scope).Asks session (inquiry.call (measured.remaining? scope)) called := by
  have composable := sameJournal_composable
  have pauses := looked.rests_paused
  -- Whatever the answer is judged to be, nothing is added to the journal.
  have judges := fun {β : Type} fails? next =>
    @orElse_along β _ Session.sameJournal_onward fails? next
  cases inquiry with
  | resolve host stored =>
    refine ⟨looked, looked.paused, .refl looked, pauses,
      asks_unlessDone undone (asks_inquire (judges _ _ fun addresses => ?_) looked)⟩
    dsimp only
    split
    · exact composable.pure _
    · cases stored with
      | false => exact composable.pure _
      | true => exact composable.bind (composable.record _ _) fun _ => composable.pure _
  | connect host portNumber =>
    exact ⟨looked.paused, looked.paused.paused, pauses, looked.paused.rests_paused,
      asks_unlessDone undone
        (Action.asks_read (asks_inquire (judges _ _ fun _ => composable.pure _) _))⟩
  | request wanted =>
    refine ⟨looked.paused, looked.paused.paused.paused, pauses,
      looked.paused.rests_paused.paused,
      asks_unlessDone undone (Action.asks_read (Action.asks_read
        (asks_inquire (judges _ _ fun status => ?_) _)))⟩
    refine composable.bind (Session.read_along sameJournal_paused _) fun ended => ?_
    dsimp only
    split
    · exact composable.pure _
    · refine composable.bind (fun _ => rfl) fun _ => ?_
      refine composable.bind (fun _ => rfl) fun environment => ?_
      exact composable.bind (composable.lift _) fun settings => composable.pure _

theorem boundedBy_some_cases (left most : Float) :
    boundedBy (some left) most = left ∨ boundedBy (some left) most = most := by
  rw [boundedBy]
  by_cases less : left < most
  · exact .inl (if_pos less)
  · exact .inr (if_neg less)

theorem boundedBy_some_le {left most : Float} (number : left.isNaN = false)
    (mostNumber : most.isNaN = false) :
    boundedBy (some left) most ≤ most ∧ boundedBy (some left) most ≤ left := by
  rw [boundedBy]
  by_cases less : left < most
  · rw [if_pos less]
    exact ⟨Number.float_le_of_lt less, Number.float_le_refl number⟩
  · rw [if_neg less]
    exact ⟨Number.float_le_refl mostNumber, Number.float_le_of_not_lt number mostNumber less⟩

theorem Inquiry.timeout_call (inquiry : Inquiry) {left timeout most : Float}
    (bound : (inquiry.call (some left)).timeout? = some (timeout, most)) :
    timeout = boundedBy (some left) most ∧ 0 < most := by
  cases inquiry with
  | resolve host stored => cases bound
  | connect host portNumber =>
    cases bound
    exact ⟨rfl, by decide +kernel⟩
  | request wanted =>
    cases bound
    exact ⟨rfl, by decide +kernel⟩

theorem Inquiry.bounded_call (inquiry : Inquiry) {left : Float} (some : 0 ≤ left) :
    (inquiry.call (.some left)).Bounded left := by
  intro timeout most bound
  obtain ⟨rfl, positive⟩ := inquiry.timeout_call bound
  have below := Number.float_le_of_lt positive
  have bounds := boundedBy_some_le (Number.isNaN_of_le some).2 (Number.isNaN_of_le below).2
  refine ⟨?_, bounds⟩
  rcases boundedBy_some_cases left most with same | same
  · rwa [same]
  · rwa [same]

theorem Inquiry.timely_call (inquiry : Inquiry) {left : Float} (some : 0 < left) :
    (inquiry.call (.some left)).Timely left := by
  intro timeout most bound
  have bounds := inquiry.bounded_call (Number.float_le_of_lt some) timeout most bound
  obtain ⟨rfl, positive⟩ := inquiry.timeout_call bound
  refine ⟨?_, bounds.2⟩
  rcases boundedBy_some_cases left most with same | same
  · rwa [same]
  · rwa [same]

end Network

end Checkup
