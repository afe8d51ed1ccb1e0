import Checkup.Scope.Wait

/-!
# What passing time changes

Time that passes moves the clock, takes timers off and cancels scopes; everything else in a session
stays. The same holds of a wait, which ends with the time that it is given unless its scope is
cancelled or has a deadline.
-/

namespace Checkup

namespace Session

theorem exists_fire_eq (session : Session) (timer : Timer) :
    ∃ micros scopes, session.fire timer = { session with micros, scopes } := by
  unfold fire
  dsimp only
  split
  · exact ⟨_, _, rfl⟩
  · exact ⟨_, session.scopes, rfl⟩

theorem exists_passTimers_eq (awaited : Option ScopeId) (target : Int) (waiting : List Timer)
    (session : Session) :
    ∃ micros timers scopes,
      passTimers awaited target waiting session = { session with micros, timers, scopes } := by
  induction waiting generalizing session with
  | nil => exact ⟨_, _, _, rfl⟩
  | cons timer later inductionHypothesis =>
    rw [passTimers]
    split
    · obtain ⟨micros, scopes, fired⟩ := exists_fire_eq { session with timers := later } timer
      dsimp only
      split
      · exact ⟨micros, later, scopes, fired⟩
      · rw [fired]
        exact inductionHypothesis _
    · exact ⟨_, _, _, rfl⟩

/-- Somebody who waits for a scope is woken when it is cancelled, or else when the time is over. -/
theorem passTimers_awaited (id : ScopeId) (target : Int) (waiting : List Timer)
    (session : Session) :
    (passTimers (some id) target waiting session).scopes.isCancelled id = true ∨
      (passTimers (some id) target waiting session).micros = target := by
  induction waiting generalizing session with
  | nil => exact .inr rfl
  | cons timer later inductionHypothesis =>
    rw [passTimers]
    split
    · dsimp only
      split
      · rename_i woken
        exact .inl woken
      · exact inductionHypothesis _
    · exact .inr rfl

theorem exists_passTo_eq (session : Session) (awaited : Option ScopeId) (target : Int) :
    ∃ micros timers scopes,
      session.passTo awaited target = { session with micros, timers, scopes } :=
  exists_passTimers_eq awaited target session.timers session

end Session

namespace Action

theorem exists_hold_eq (id : ScopeId) (seconds : Float) (session : Session) :
    ∃ micros timers scopes,
      (hold id seconds session).2 = { session with micros, timers, scopes } := by
  unfold hold
  split
  · exact ⟨_, _, _, rfl⟩
  · split
    · split
      · exact session.exists_passTo_eq (some id) _
      · exact ⟨_, _, _, rfl⟩
    · exact ⟨_, _, _, rfl⟩

/-- A wait holds on for the time it is given, or for what the scope has left if that is less. -/
theorem wait_eq (id : ScopeId) (seconds : Float) (session : Session) :
    wait id seconds session =
      match hold id (boundedBy (session.remaining? id) seconds) session with
      | (.error fault, held) => (.error fault, held)
      | (.ok (), held) =>
        (.ok ((session.remaining? id).any (fun left => decide (left < seconds)) || held.isDone id),
          held) := by
  simp only [wait, look, bind, pure]
  cases session.remaining? id with
  | none =>
    rcases held : hold id seconds session with ⟨fault | _, after⟩ <;> simp [boundedBy, held]
  | some left =>
    by_cases short : left < seconds
    · rcases held : hold id left session with ⟨fault | _, after⟩ <;> simp [boundedBy, short, held]
    · rcases held : hold id seconds session with ⟨fault | _, after⟩ <;>
        simp [boundedBy, short, held]

theorem exists_wait_eq (id : ScopeId) (seconds : Float) (session : Session) :
    ∃ micros timers scopes,
      (wait id seconds session).2 = { session with micros, timers, scopes } := by
  rw [wait_eq]
  obtain ⟨micros, timers, scopes, same⟩ :=
    exists_hold_eq id (boundedBy (session.remaining? id) seconds) session
  rcases held : hold id (boundedBy (session.remaining? id) seconds) session with
    ⟨fault | _, after⟩ <;>
    exact ⟨micros, timers, scopes, by rw [← same, held]⟩

/-- A wait in a scope without a deadline ends when the scope is cancelled, or else when the time is
over. -/
theorem exists_wait_of_unbounded {id : ScopeId} {seconds : Float} {micros : Int}
    {session : Session} (unbounded : session.scopes.deadline? id = none) (positive : 0 < seconds)
    (counted : session.clockwork.microsOfWait seconds = .ok micros) :
    ∃ done left, wait id seconds session = (.ok done, left) ∧
      (left.scopes.isCancelled id = true ∨ left.micros = session.micros + micros) := by
  have remaining : session.remaining? id = none := by
    rw [Session.remaining?, unbounded]
    rfl
  have held : ∃ left, hold id seconds session = (.ok (), left) ∧
      (left.scopes.isCancelled id = true ∨ left.micros = session.micros + micros) := by
    unfold hold
    by_cases cancelled : session.scopes.isCancelled id = true
    · rw [if_pos cancelled]
      exact ⟨session, rfl, .inl cancelled⟩
    · rw [if_neg cancelled, if_pos positive, counted]
      exact ⟨_, rfl, session.passTimers_awaited id _ session.timers⟩
  obtain ⟨left, holds, ended⟩ := held
  rw [wait_eq, remaining]
  simp only [boundedBy, holds]
  exact ⟨_, left, rfl, ended⟩

end Action

end Checkup
