import Checkup.Proofs.Engine.Attempt

/-!
# Sessions that look alike to the engine

The engine itself reads the clock with its timers, the scopes and their names, and nothing else of a
session. A likeness relates sessions in which these are the same, whatever they differ in otherwise.
Main statement: opening and detaching scopes, waiting and writing to the log keep a likeness.
-/

namespace Checkup

namespace Session

/-- The contents of a session under the clock with its timers, the scopes and the names of another
one. -/
def frames (frame contents : Session) : Session :=
  { contents with
    micros := frame.micros
    timers := frame.timers
    scopes := frame.scopes
    names := frame.names
    clockwork := frame.clockwork }

theorem fire_frames (session contents : Session) (timer : Timer) :
    (session.frames contents).fire timer = (session.fire timer).frames contents := by
  unfold fire named? frames
  dsimp only
  split <;> rfl

theorem passTimers_frames (awaited : Option ScopeId) (target : Int) (waiting : List Timer)
    (session contents : Session) :
    passTimers awaited target waiting (session.frames contents) =
      (passTimers awaited target waiting session).frames contents := by
  induction waiting generalizing session with
  | nil => rfl
  | cons timer later inductionHypothesis =>
    have fired : ({ session.frames contents with timers := later } : Session).fire timer =
        (({ session with timers := later } : Session).fire timer).frames contents :=
      fire_frames { session with timers := later } contents timer
    rw [passTimers, passTimers]
    by_cases due : timer.due ≤ target
    · rw [if_pos due, if_pos due, fired]
      generalize ({ session with timers := later } : Session).fire timer = next
      show (if awaited.any next.scopes.isCancelled then next.frames contents
          else passTimers awaited target later (next.frames contents)) =
        (if awaited.any next.scopes.isCancelled then next
          else passTimers awaited target later next).frames contents
      split
      · rfl
      · exact inductionHypothesis next
    · rw [if_neg due, if_neg due]
      rfl

end Session

namespace Action

/-- An action that reads and changes nothing but clock, timers, scopes and names. -/
def Framed (action : Action α) : Prop :=
  ∀ session contents, action (session.frames contents) =
    ((action session).1, (action session).2.frames contents)

theorem framed_hold (id : ScopeId) (seconds : Float) : (hold id seconds).Framed := by
  intro session contents
  have passed : ∀ micros, (session.frames contents).passTo (some id) (session.micros + micros) =
      (session.passTo (some id) (session.micros + micros)).frames contents :=
    fun micros => session.passTimers_frames (some id) _ session.timers contents
  have same : (session.frames contents).scopes = session.scopes := rfl
  have sameClockwork : (session.frames contents).clockwork = session.clockwork := rfl
  unfold hold
  rw [same, sameClockwork]
  split
  · rfl
  · split
    · split
      · exact congrArg (Except.ok (), ·) (passed _)
      · rfl
    · rfl

theorem framed_wait (id : ScopeId) (seconds : Float) : (wait id seconds).Framed := by
  intro session contents
  have remaining : (session.frames contents).remaining? id = session.remaining? id := rfl
  rw [wait_eq, wait_eq, remaining, framed_hold]
  rcases hold id (boundedBy (session.remaining? id) seconds) session with ⟨fault | _, held⟩
  · rfl
  · rfl

theorem framed_advance (seconds : Amount) : (advance seconds).Framed := by
  intro session contents
  unfold advance
  split
  · exact congrArg (Except.ok (), ·) (session.passTimers_frames none _ session.timers contents)
  · rfl

end Action

namespace Session

/-- A relation of sessions that the engine cannot tell from one another. What it changes itself may
change in both alike, and the log in each on its own. -/
structure Likeness (related : Session → Session → Prop) : Prop where
  refl : ∀ session, related session session
  frame : ∀ {session other : Session}, related session other → other = session.frames other
  moved : ∀ {session other : Session}, related session other → ∀ frame : Session,
    related (frame.frames session) (frame.frames other)
  logged : ∀ {session other : Session}, related session other → ∀ desk deskToo,
    related { session with desk } { other with desk := deskToo }

theorem likeness_sameButLog : Likeness SameButLog where
  refl := .refl
  frame := by
    rintro session other ⟨desk, rfl⟩
    rfl
  moved := by
    rintro session other ⟨desk, rfl⟩ frame
    exact ⟨desk, rfl⟩
  logged := by
    rintro session other ⟨_, rfl⟩ desk deskToo
    exact ⟨deskToo, rfl⟩

namespace Likeness

variable {related : Session → Session → Prop} (likeness : Likeness related)
  {session other : Session} (alike : related session other)

include likeness alike

theorem micros_eq : other.micros = session.micros := by
  rw [likeness.frame alike]
  rfl

theorem nextScope_eq : other.nextScope = session.nextScope := by
  rw [likeness.frame alike]
  rfl

theorem sameButLog {noted notedToo : Session} (same : session.SameButLog noted)
    (sameToo : other.SameButLog notedToo) : related noted notedToo := by
  obtain ⟨desk, rfl⟩ := same
  obtain ⟨deskToo, rfl⟩ := sameToo
  exact likeness.logged alike desk deskToo

theorem retries_eq (category : Category) (checker : Checker) (outcome : Outcome) :
    category.retries checker outcome other = category.retries checker outcome session := by
  rw [likeness.frame alike]
  rfl

/-- What the engine changes in one session it changes in the other one. -/
theorem changed (micros : Int) (timers : List Timer) (scopes : Scopes) :
    related { session with micros, timers, scopes } { other with micros, timers, scopes } := by
  have sameNames : other.names = session.names := by
    rw [likeness.frame alike]
    rfl
  have sameClockwork : other.clockwork = session.clockwork := by
    rw [likeness.frame alike]
    rfl
  have moved := likeness.moved alike { session with micros, timers, scopes }
  simpa only [frames, sameNames.symm, sameClockwork.symm] using moved

theorem entered (parent : ScopeId) (timeout : Duration) :
    related (session.entered parent timeout) (other.entered parent timeout) := by
  have added := likeness.changed alike session.micros session.timers
    (session.entered parent timeout).scopes
  rw [likeness.frame alike] at added ⊢
  exact added

theorem released (id : ScopeId) : related (session.released id) (other.released id) := by
  have detached := likeness.changed alike session.micros session.timers
    (session.scopes.release id)
  rw [likeness.frame alike] at detached ⊢
  exact detached

end Likeness

/-- An action that changes nothing else mirrors itself from sessions that look alike. -/
theorem Likeness.mirrors {related : Session → Session → Prop} (likeness : Likeness related)
    {action : Action α} (framed : action.Framed) : Action.Mirrors related related action action := by
  intro session other alike
  have sameEnd : (action session).2 = (action session).2.frames session :=
    congrArg Prod.snd (framed session session)
  have left := likeness.moved alike (action session).2
  rw [← sameEnd] at left
  rw [likeness.frame alike, framed]
  exact ⟨rfl, left⟩

end Session

end Checkup
