import Checkup.Proofs.Scope.Cancellation
import Checkup.Proofs.Session.Reach

/-!
# Pauses between steps

Before a step of a probe the machine may pause. A pause moves the clock on, if it takes any time,
and on its way timers may cancel scopes; it changes nothing else. Main statements: a scope that is
done is found done and has a reason why; where no time passes, scopes stay as they were.
-/

namespace Checkup

/-- A machine that takes no time for itself. -/
def Clockwork.Prompt (clockwork : Clockwork) : Prop :=
  ∀ before, clockwork.pause before = 0

namespace Session

def paused (session : Session) : Session :=
  (Action.pause session).2

theorem pause_apply (session : Session) :
    Action.pause session =
      match session.clockwork.pause (session.timesAsked .pause) with
      | 0 => (.ok (), session.countAsked .pause)
      | micros + 1 =>
        (.ok (), (session.countAsked .pause).passTo none (session.micros + micros + 1)) := by
  have counted : Action.ordinal .pause session =
      (.ok (session.timesAsked .pause), session.countAsked .pause) := rfl
  have looked : Action.look (·.clockwork) (session.countAsked .pause) =
      (.ok session.clockwork, session.countAsked .pause) := rfl
  rw [Action.pause, Action.bind_of_ok counted, Action.bind_of_ok looked]
  cases session.clockwork.pause (session.timesAsked .pause) <;> rfl

/-- A pause counts, and then nothing happens or the clock moves on. -/
theorem pause_cases (session : Session) :
    Action.pause session = (.ok (), session.countAsked .pause) ∨
      ∃ target, session.micros < target ∧
        Action.pause session = (.ok (), (session.countAsked .pause).passTo none target) := by
  rw [pause_apply]
  split
  · exact .inl rfl
  · exact .inr ⟨_, by omega, rfl⟩

theorem pause_eq (session : Session) : Action.pause session = (.ok (), session.paused) := by
  rw [paused]
  rcases session.pause_cases with same | ⟨target, _, passed⟩
  · rw [same]
  · rw [passed]

theorem read_eq {α : Type} (view : Session → α) (session : Session) :
    Action.read view session = (.ok (view session.paused), session.paused) := by
  rw [Action.read, Action.bind_of_ok session.pause_eq]
  rfl

theorem pause_along {R : Session → Session → Prop}
    (rests : ∀ session : Session, R session session.paused) : Action.pause.Along R := by
  intro session
  rw [pause_eq]
  exact rests session

theorem read_along {R : Session → Session → Prop} {α : Type}
    (rests : ∀ session : Session, R session session.paused) (view : Session → α) :
    (Action.read view).Along R := by
  intro session
  rw [read_eq]
  exact rests session

theorem paused_cases (session : Session) :
    session.paused = session.countAsked .pause ∨ ∃ target, session.micros < target ∧
      session.paused = (session.countAsked .pause).passTo none target := by
  rw [paused]
  rcases session.pause_cases with same | ⟨target, later, passed⟩
  · rw [same]
    exact .inl rfl
  · rw [passed]
    exact .inr ⟨target, later, rfl⟩

theorem exists_paused_eq (session : Session) :
    ∃ micros timers scopes asked,
      session.paused = { session with micros, timers, scopes, asked } := by
  rcases session.paused_cases with same | ⟨target, _, passed⟩
  · exact ⟨_, _, _, _, same⟩
  · obtain ⟨micros, timers, scopes, moved⟩ :=
      (session.countAsked .pause).exists_passTo_eq none target
    exact ⟨micros, timers, scopes, _, passed.trans moved⟩

theorem reaches_paused (session : Session) : session.Reaches session.paused := by
  have counted : session.Reaches (session.countAsked .pause) :=
    (show session.Moves (session.countAsked .pause) from .elsewhere rfl rfl rfl).reaches
  rcases session.paused_cases with same | ⟨target, later, passed⟩
  · rw [same]
    exact counted
  · rw [passed]
    have forward : (session.countAsked .pause).micros ≤ target := Int.le_of_lt later
    exact counted.trans (Moves.pass none forward).reaches

theorem cancels_paused (session : Session) : session.scopes.Cancels session.paused.scopes := by
  rcases session.paused_cases with same | ⟨target, _, passed⟩
  · rw [same]
    exact Relation.ReflTransGen.refl
  · rw [passed]
    exact passTimers_cancels none target session.timers (session.countAsked .pause)

theorem micros_passTimers_none (target : Int) (waiting : List Timer) (session : Session) :
    (passTimers none target waiting session).micros = target := by
  induction waiting generalizing session with
  | nil => rfl
  | cons timer later inductionHypothesis =>
    rw [passTimers]
    split
    · exact inductionHypothesis _
    · rfl

/-- A pause that takes no time cancels nothing. -/
theorem scopes_paused {session : Session} (still : session.paused.micros = session.micros) :
    session.paused.scopes = session.scopes := by
  rcases session.paused_cases with same | ⟨target, later, passed⟩
  · rw [same]
    rfl
  · have moved : session.paused.micros = target := by
      rw [passed]
      exact micros_passTimers_none target _ _
    omega

theorem micros_paused_of_prompt {session : Session} (prompt : session.clockwork.Prompt) :
    session.paused.micros = session.micros := by
  rw [paused, pause_apply, prompt]
  rfl

theorem timesAsked_paused (session : Session) {source : Source} (other : source ≠ .pause) :
    session.paused.timesAsked source = session.timesAsked source := by
  have counted : (session.countAsked .pause).timesAsked source = session.timesAsked source := by
    have spared : ∀ asked : List (Source × Nat),
        (asked.filter (·.1 != .pause)).find? (·.1 == source) = asked.find? (·.1 == source) := by
      intro asked
      rw [List.find?_filter]
      refine congrArg (List.find? · asked) (funext fun entry => ?_)
      by_cases same : entry.1 = source
      · simp [same, other]
      · simp [same]
    unfold timesAsked countAsked
    rw [List.find?_cons_of_neg (by simpa using Ne.symm other), spared]
  rcases session.paused_cases with same | ⟨target, _, passed⟩
  · rw [same, counted]
  · obtain ⟨micros, timers, scopes, moved⟩ :=
      (session.countAsked .pause).exists_passTo_eq none target
    rw [passed, moved, ← counted]
    rfl

/-- Nothing happens between two sessions but pauses. -/
def Rests : Session → Session → Prop :=
  Relation.ReflTransGen fun session other => other = session.paused

theorem rests_paused (session : Session) : session.Rests session.paused :=
  Relation.ReflTransGen.single rfl

theorem Rests.refl (session : Session) : session.Rests session :=
  Relation.ReflTransGen.refl

theorem Rests.trans {first second third : Session} (rests : first.Rests second)
    (restsToo : second.Rests third) : first.Rests third :=
  Relation.ReflTransGen.trans rests restsToo

section Rests

variable {session other : Session} (rests : session.Rests other)

include rests

theorem Rests.paused : session.Rests other.paused :=
  rests.trans other.rests_paused

theorem Rests.reaches : session.Reaches other := by
  induction rests with
  | refl => exact .refl session
  | tail before step inductionHypothesis =>
    exact inductionHypothesis.trans (step ▸ reaches_paused _)

theorem Rests.cancels : session.scopes.Cancels other.scopes := by
  induction rests with
  | refl => exact Relation.ReflTransGen.refl
  | tail before step inductionHypothesis =>
    exact Relation.ReflTransGen.trans inductionHypothesis (step ▸ cancels_paused _)

theorem Rests.exists_eq :
    ∃ micros timers scopes asked, other = { session with micros, timers, scopes, asked } := by
  induction rests with
  | refl => exact ⟨_, _, _, _, rfl⟩
  | tail before step inductionHypothesis =>
    obtain ⟨_, _, _, _, rfl⟩ := inductionHypothesis
    obtain ⟨micros, timers, scopes, asked, paused⟩ := exists_paused_eq _
    exact ⟨micros, timers, scopes, asked, step.trans paused⟩

theorem Rests.timesAsked_eq {source : Source} (known : source ≠ .pause) :
    other.timesAsked source = session.timesAsked source := by
  induction rests with
  | refl => rfl
  | tail before step inductionHypothesis =>
    rw [step, timesAsked_paused _ known, inductionHypothesis]

theorem Rests.micros_eq_of_prompt (prompt : session.clockwork.Prompt) :
    other.micros = session.micros := by
  induction rests with
  | refl => rfl
  | tail before step inductionHypothesis =>
    have same := (Rests.reaches before).clockwork_eq
    rw [step, micros_paused_of_prompt (same ▸ prompt), inductionHypothesis]

/-- If two pauses together take no time, the first one takes none. -/
theorem Rests.micros_eq_of_still {later : Session} (onward : other.Rests later)
    (still : later.micros = session.micros) : other.micros = session.micros := by
  have first := rests.reaches.onward.1
  have second := onward.reaches.onward.1
  omega

section Still

variable (still : other.micros = session.micros)

include still

/-- Where no time passes, no scope is cancelled. -/
theorem Rests.scopes_eq : other.scopes = session.scopes := by
  induction rests with
  | refl => rfl
  | @tail between after before step inductionHypothesis =>
    subst step
    have first := (Rests.reaches before).onward.1
    have second := (reaches_paused between).onward.1
    rw [scopes_paused (by omega), inductionHypothesis (by omega)]

theorem Rests.isDone_eq (id : ScopeId) : other.isDone id = session.isDone id := by
  rw [isDone, isDone, isExpired, isExpired, now, now, rests.scopes_eq still, still]

theorem Rests.remaining?_eq (id : ScopeId) : other.remaining? id = session.remaining? id := by
  rw [remaining?, remaining?, now, now, rests.scopes_eq still, still]

end Still

end Rests

end Session

namespace Action

open Session

variable {id : ScopeId} {session : Session}

/-- A scope is found done or not when it is looked at. One that is found done is done from then on;
one that is not was not done when the flag was looked at. -/
theorem askDone_cases (id : ScopeId) (session : Session) :
    (∃ after, askDone id session = (.ok true, after) ∧ session.Rests after ∧
        after.Rests session.paused.paused ∧ after.isDone id = true) ∨
      askDone id session = (.ok false, session.paused.paused) ∧
        session.paused.isDone id = false := by
  rw [askDone, bind_of_ok (read_eq _ session)]
  by_cases cancelled : session.paused.scopes.isCancelled id = true
  · left
    refine ⟨session.paused, by rw [if_pos cancelled]; rfl, session.rests_paused,
      session.paused.rests_paused, ?_⟩
    rw [Session.isDone, cancelled, Bool.true_or]
  · rw [if_neg cancelled, read_eq]
    cases expired : session.paused.paused.isExpired id with
    | true =>
      left
      refine ⟨_, rfl, session.rests_paused.paused, .refl _, ?_⟩
      rw [Session.isDone, expired, Bool.or_true]
    | false =>
      right
      refine ⟨rfl, ?_⟩
      have early : session.paused.isExpired id = false := by
        by_contra before
        rw [Bool.not_eq_false] at before
        rw [(reaches_paused session.paused).isExpired before] at expired
        cases expired
      rw [Session.isDone, early, Bool.eq_false_iff.mpr cancelled, Bool.or_false]

theorem askDone_answer (id : ScopeId) (session : Session) :
    (askDone id session).1 = .ok true ∨ (askDone id session).1 = .ok false := by
  rcases askDone_cases id session with ⟨after, asked, _⟩ | ⟨asked, _⟩
  · exact .inl (by rw [asked])
  · exact .inr (by rw [asked])

theorem exists_askDone_eq {answer : Bool} (asked : (askDone id session).1 = .ok answer) :
    ∃ looked, askDone id session = (.ok answer, looked) ∧ session.Rests looked := by
  rcases askDone_cases id session with ⟨after, found, rests, _, _⟩ | ⟨found, _⟩
  · rw [found] at asked
    cases asked
    exact ⟨after, found, rests⟩
  · rw [found] at asked
    cases asked
    exact ⟨_, found, session.rests_paused.paused⟩

theorem exists_look_of_not_done (undone : (askDone id session).1 = .ok false) :
    ∃ looked checked, askDone id session = (.ok false, checked) ∧ session.Rests looked ∧
      looked.Rests checked ∧ looked.isDone id = false := by
  rcases askDone_cases id session with ⟨after, found, _, _, _⟩ | ⟨found, live⟩
  · rw [found] at undone
    cases undone
  · exact ⟨_, _, found, session.rests_paused, session.paused.rests_paused, live⟩

/-- A scope that is done is found so. -/
theorem askDone_of_isDone (done : session.isDone id = true) :
    (askDone id session).1 = .ok true := by
  rcases askDone_cases id session with ⟨after, asked, _⟩ | ⟨_, undone⟩
  · rw [asked]
  · rw [(reaches_paused session).isDone done] at undone
    cases undone

/-- A scope that is not done is found so if no time passes meanwhile. -/
theorem askDone_of_not_isDone (still : session.paused.paused.micros = session.micros)
    (undone : session.isDone id = false) : (askDone id session).1 = .ok false := by
  rcases askDone_cases id session with ⟨after, _, rests, onward, done⟩ | ⟨asked, _⟩
  · have first := rests.reaches.onward.1
    have second := onward.reaches.onward.1
    rw [rests.isDone_eq (by omega), undone] at done
    cases done
  · rw [asked]

/-- There is a reason why a scope is done. -/
theorem exists_askFault_eq (done : session.isDone id = true) :
    ∃ asked after, session.Rests asked ∧ asked.Rests after ∧ asked.isDone id = true ∧
      askFault id session =
        (.ok (some (if asked.scopes.isCancelled id then .cancelled else .deadlineExceeded)),
          after) := by
  have stillDone := (reaches_paused session).isDone done
  rw [askFault, bind_of_ok (read_eq _ session)]
  by_cases cancelled : session.paused.scopes.isCancelled id = true
  · refine ⟨session.paused, _, session.rests_paused, .refl _, stillDone, ?_⟩
    rw [if_pos cancelled, if_pos cancelled]
    rfl
  · have expired : session.paused.isExpired id = true := by
      rw [Session.isDone, Bool.or_eq_true] at stillDone
      exact stillDone.resolve_left cancelled
    refine ⟨session.paused, _, session.rests_paused, session.paused.rests_paused, stillDone, ?_⟩
    rw [if_neg cancelled, if_neg cancelled, bind_of_ok (read_eq _ session.paused),
      (reaches_paused session.paused).isExpired expired]
    rfl

end Action

end Checkup
