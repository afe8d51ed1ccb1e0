import Checkup.Proofs.Session.Mirroring

/-!
# Actions and the log

The log is written and never read: sessions that are the same but for the log stay so. Main
statements: ignoring the log is composable, so that scripted probes and listeners do it.
-/

namespace Checkup

/-- Two sessions differ at most in the log. -/
def Session.SameButLog (session other : Session) : Prop :=
  ∃ desk, other = { session with desk }

namespace Session.SameButLog

theorem refl (session : Session) : session.SameButLog session :=
  ⟨session.desk, rfl⟩

theorem symm {session other : Session} (same : session.SameButLog other) :
    other.SameButLog session := by
  obtain ⟨desk, rfl⟩ := same
  exact ⟨session.desk, rfl⟩

theorem trans {first second third : Session} (same : first.SameButLog second)
    (next : second.SameButLog third) : first.SameButLog third := by
  obtain ⟨desk, rfl⟩ := same
  obtain ⟨later, rfl⟩ := next
  exact ⟨later, rfl⟩

theorem logged (session : Session) (severity : Log.Severity) (name : String)
    (fields : List (String × Value)) : session.SameButLog (session.logged severity name fields) :=
  ⟨_, rfl⟩

theorem journal_eq {session other : Session} (same : session.SameButLog other) :
    other.journal = session.journal := by
  obtain ⟨desk, rfl⟩ := same
  rfl

end Session.SameButLog

namespace Session

theorem passTimers_desk (awaited : Option ScopeId) (target : Int) (waiting : List Timer)
    (session : Session) (desk : Log.Desk) :
    passTimers awaited target waiting { session with desk } =
      { passTimers awaited target waiting session with desk } := by
  have fired : ∀ (session : Session) (timer : Timer),
      ({ session with desk } : Session).fire timer = { session.fire timer with desk } := by
    intro session timer
    unfold fire named?
    dsimp only
    split <;> rfl
  induction waiting generalizing session with
  | nil => rfl
  | cons timer later inductionHypothesis =>
    rw [passTimers, passTimers]
    split
    · simp only [fired { session with timers := later } timer]
      split
      · rfl
      · exact inductionHypothesis _
    · rfl

end Session

namespace Action

/-- An action gives the same whatever the log is, and does the same to the rest of a session. -/
def IgnoresLog (action : Action α) : Prop :=
  ∀ (session : Session) (desk : Log.Desk), (action { session with desk }).1 = (action session).1 ∧
    (action session).2.SameButLog (action { session with desk }).2

theorem ignoresLog_look {view : Session → α}
    (elsewhere : ∀ (session : Session) desk, view { session with desk } = view session) :
    (look view).IgnoresLog :=
  fun session desk => ⟨congrArg Except.ok (elsewhere session desk), desk, rfl⟩

theorem IgnoresLog.bind {first : Action α} {next : α → Action β} (start : first.IgnoresLog)
    (rest : ∀ value, (next value).IgnoresLog) : (first >>= next).IgnoresLog := by
  intro session desk
  obtain ⟨answered, changed, left⟩ := start session desk
  rcases taken : first session with ⟨fault | value, after⟩ <;>
    rcases other : first { session with desk } with ⟨otherAnswer, otherAfter⟩ <;>
    rw [taken, other] at answered left <;>
    cases answered <;> cases left
  · rw [bind_of_error taken, bind_of_error other]
    exact ⟨rfl, changed, rfl⟩
  · rw [bind_of_ok taken, bind_of_ok other]
    exact rest value after changed

/-- An action ignores the log if it mirrors itself from sessions that differ in the log only. -/
theorem ignoresLog_iff {action : Action α} :
    action.IgnoresLog ↔ Mirrors Session.SameButLog Session.SameButLog action action := by
  constructor
  · rintro ignores session other ⟨desk, rfl⟩
    exact ignores session desk
  · intro mirrors session desk
    exact mirrors session { session with desk } ⟨desk, rfl⟩

theorem ignoresLog_advance (seconds : Amount) : (advance seconds).IgnoresLog := by
  intro session desk
  unfold advance
  split
  · exact ⟨rfl, desk, session.passTimers_desk none _ session.timers desk⟩
  · exact ⟨rfl, desk, rfl⟩

theorem ignoresLog_hold (id : ScopeId) (seconds : Float) : (hold id seconds).IgnoresLog := by
  intro session desk
  unfold hold
  dsimp only
  split
  · exact ⟨rfl, desk, rfl⟩
  · split
    · split
      · exact ⟨rfl, desk, session.passTimers_desk (some id) _ session.timers desk⟩
      · exact ⟨rfl, desk, rfl⟩
    · exact ⟨rfl, desk, rfl⟩

theorem ignoresLog_wait (id : ScopeId) (seconds : Float) : (wait id seconds).IgnoresLog := by
  have done : (look (·.isDone id)).IgnoresLog := ignoresLog_look fun _ _ => rfl
  refine (ignoresLog_look fun _ _ => rfl).bind ?_
  intro remaining
  cases remaining with
  | none => exact (ignoresLog_hold id seconds).bind fun _ => done
  | some left =>
    dsimp only
    split
    · exact (ignoresLog_hold id left).bind fun _ => ignoresLog_look fun _ _ => rfl
    · exact (ignoresLog_hold id seconds).bind fun _ => done

theorem ignoresLog_log (severity : Log.Severity) (name : String)
    (fields : List (String × Value)) : (log severity name fields).IgnoresLog :=
  fun _ desk => ⟨rfl, desk.emit { severity, name, fields }, rfl⟩

theorem log_mirrors (severity : Log.Severity) (name : String) (fields : List (String × Value)) :
    Mirrors Session.SameButLog Session.SameButLog (log severity name fields)
      (log severity name fields) :=
  ignoresLog_iff.mp (ignoresLog_log severity name fields)

theorem ignoresLog_observable : Observable IgnoresLog where
  pure _ := fun _ desk => ⟨rfl, desk, rfl⟩
  raise _ := fun _ desk => ⟨rfl, desk, rfl⟩
  look _ elsewhere := ignoresLog_look fun session desk => elsewhere session desk session.journal
  bind := IgnoresLog.bind
  wait := ignoresLog_wait
  cancel _ := fun _ desk => ⟨rfl, desk, rfl⟩
  record _ _ := fun _ desk => ⟨rfl, desk, rfl⟩
  settle start := fun session desk =>
    ⟨congrArg Except.ok (start session desk).1, (start session desk).2⟩
  ordinal _ := fun _ desk => ⟨rfl, desk, rfl⟩
  note _ := fun _ desk => ⟨rfl, desk, rfl⟩

end Action

theorem scriptedProbe_ignoresLog (description : String) (script : Nat)
    (attempts : List ScriptedAttempt) (scope : ScopeId) :
    (scriptedProbe description script attempts scope).IgnoresLog :=
  scriptedProbe_observable Action.ignoresLog_observable description script attempts scope
    fun _ _ seconds _ => Action.ignoresLog_advance seconds

theorem Listener.observer_ignoresLog (listener : Listener) (script : Nat) (result : CheckResult) :
    (listener.observer script result).IgnoresLog :=
  observer_observable Action.ignoresLog_observable listener script result

end Checkup
