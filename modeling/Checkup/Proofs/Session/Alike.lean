import Checkup.Proofs.Scope.Growth
import Checkup.Proofs.Session.Mirroring
import Checkup.Proofs.Session.Waiting

/-!
# Sessions that are alike but for cancellations

Sessions are alike if they differ at most in whether scopes are cancelled that are hidden. Main
statements: cancelling a scope makes no difference if only hidden scopes hang under it; time passes
alike, and waits for scopes that are not hidden end alike.
-/

namespace Checkup

/-- A scope, whether it is cancelled or not. -/
def Scope.bare (scope : Scope) : Scope :=
  { scope with cancelled := false }

namespace Scopes

/-- Two trees of scopes differ at most in whether hidden ones are cancelled. -/
structure Alike (hidden : ScopeId → Prop) (scopes other : Scopes) : Prop where
  bare : ∀ id, (other.get? id).map Scope.bare = (scopes.get? id).map Scope.bare
  cancelled : ∀ id, ¬hidden id → other.isCancelled id = scopes.isCancelled id

theorem Alike.refl (hidden : ScopeId → Prop) (scopes : Scopes) : scopes.Alike hidden scopes :=
  ⟨fun _ => rfl, fun _ _ => rfl⟩

theorem Alike.mono {hidden more : ScopeId → Prop} {scopes other : Scopes}
    (alike : scopes.Alike hidden other) (wider : ∀ id, hidden id → more id) :
    scopes.Alike more other :=
  ⟨alike.bare, fun id seen => alike.cancelled id fun has => seen (wider id has)⟩

theorem any_bare (scopes : Scopes) (id : ScopeId) {test : Scope → Bool}
    (elsewhere : ∀ scope, test scope.bare = test scope) :
    (scopes.get? id).any test = ((scopes.get? id).map Scope.bare).any test := by
  cases scopes.get? id with
  | none => rfl
  | some scope => exact (elsewhere scope).symm

theorem bare_cancel (scopes : Scopes) (top id : ScopeId) :
    ((scopes.cancel top).get? id).map Scope.bare = (scopes.get? id).map Scope.bare := by
  rw [get?_cancel]
  cases scopes.get? id with
  | none => rfl
  | some scope => by_cases member : id ∈ scopes.below top <;> simp [member, Scope.bare]

theorem bare_release (scopes : Scopes) (released id : ScopeId) :
    ((scopes.release released).get? id).map Scope.bare =
      ((scopes.get? id).map Scope.bare).map fun scope =>
        if released = id then { scope with attached := false } else scope := by
  rw [get?_release]
  cases scopes.get? id with
  | none => rfl
  | some scope => by_cases same : released = id <;> simp [same, Scope.bare]

section Alike

variable {hidden : ScopeId → Prop} {scopes other : Scopes} (alike : scopes.Alike hidden other)

include alike

theorem Alike.isSome_eq (id : ScopeId) : (other.get? id).isSome = (scopes.get? id).isSome := by
  rw [← Option.isSome_map, alike.bare id, Option.isSome_map]

theorem Alike.size_eq : other.all.size = scopes.all.size := by
  have known : ∀ id, id < other.all.size ↔ id < scopes.all.size := by
    intro id
    have some : ∀ tree : Scopes, (tree.get? id).isSome = true ↔ id < tree.all.size := by
      simp [get?]
    rw [← some, ← some, alike.isSome_eq]
  have first := known other.all.size
  have second := known scopes.all.size
  omega

theorem Alike.deadline?_eq (id : ScopeId) : other.deadline? id = scopes.deadline? id := by
  have bare : ∀ tree : Scopes,
      tree.deadline? id = ((tree.get? id).map Scope.bare).bind (·.deadline) := by
    intro tree
    rw [deadline?]
    cases tree.get? id <;> rfl
  rw [bare, bare, alike.bare]

theorem Alike.children_eq (id : ScopeId) : other.children id = scopes.children id := by
  rw [children, children, alike.size_eq]
  refine List.filter_congr fun child _ => ?_
  rw [any_bare other child fun _ => rfl, any_bare scopes child fun _ => rfl, alike.bare]

theorem Alike.below_eq (id : ScopeId) : other.below id = scopes.below id :=
  below_congr alike.children_eq id

theorem Alike.cancel (top : ScopeId) : (scopes.cancel top).Alike hidden (other.cancel top) where
  bare id := by rw [bare_cancel, bare_cancel, alike.bare]
  cancelled id seen := by
    rw [isCancelled_cancel, isCancelled_cancel, alike.cancelled id seen, alike.isSome_eq,
      alike.below_eq]

theorem Alike.release (released : ScopeId) :
    (scopes.release released).Alike hidden (other.release released) where
  bare id := by rw [bare_release, bare_release, alike.bare]
  cancelled id seen := by rw [isCancelled_release, isCancelled_release, alike.cancelled id seen]

/-- Cancelling makes no difference if it reaches hidden scopes only. -/
theorem Alike.cancel_hidden {more : ScopeId → Prop} {top : ScopeId}
    (wider : ∀ id, hidden id → more id) (only : ∀ id ∈ scopes.below top, more id) :
    (scopes.cancel top).Alike more other where
  bare id := by rw [bare_cancel, alike.bare]
  cancelled id seen := by
    have outside : id ∉ scopes.below top := fun member => seen (only id member)
    rw [isCancelled_cancel, decide_eq_false outside, Bool.and_false, Bool.or_false]
    exact (alike.mono wider).cancelled id seen

/-- Scopes that are made under a scope that is not hidden are the same. -/
theorem Alike.addChild {parent : ScopeId} (seen : ¬hidden parent) (deadline : Option Float) :
    (scopes.addChild parent deadline).1.Alike (fun id => hidden id ∧ id ≠ scopes.all.size)
      (other.addChild parent deadline).1 := by
  have grown : ∀ id, (scopes.addChild parent deadline).1.get? id =
      if id = scopes.all.size then some
        { parent := some parent
          attached := true
          deadline := narrowed (scopes.deadline? parent) deadline
          cancelled := scopes.isCancelled parent }
      else scopes.get? id := fun id => scopes.get?_push _ id
  have grownToo : ∀ id, (other.addChild parent deadline).1.get? id =
      if id = scopes.all.size then some
        { parent := some parent
          attached := true
          deadline := narrowed (scopes.deadline? parent) deadline
          cancelled := scopes.isCancelled parent }
      else other.get? id := by
    intro id
    rw [← alike.deadline?_eq, ← alike.cancelled parent seen, ← alike.size_eq]
    exact other.get?_push _ id
  refine ⟨fun id => ?_, fun id shown => ?_⟩
  · rw [grown, grownToo]
    by_cases newest : id = scopes.all.size
    · rw [if_pos newest, if_pos newest]
    · rw [if_neg newest, if_neg newest, alike.bare]
  · rw [isCancelled, isCancelled, grown, grownToo]
    by_cases newest : id = scopes.all.size
    · rw [if_pos newest, if_pos newest]
    · rw [if_neg newest, if_neg newest]
      exact alike.cancelled id fun has => shown ⟨has, newest⟩

end Alike

end Scopes

namespace Session

/-- Two sessions differ at most in whether hidden scopes are cancelled. -/
def Alike (hidden : ScopeId → Prop) (session other : Session) : Prop :=
  ∃ scopes, other = { session with scopes } ∧ session.scopes.Alike hidden scopes

theorem Alike.refl (hidden : ScopeId → Prop) (session : Session) : session.Alike hidden session :=
  ⟨session.scopes, rfl, .refl hidden session.scopes⟩

theorem Alike.mono {hidden more : ScopeId → Prop} {session other : Session}
    (alike : session.Alike hidden other) (wider : ∀ id, hidden id → more id) :
    session.Alike more other := by
  obtain ⟨scopes, rfl, same⟩ := alike
  exact ⟨scopes, rfl, same.mono wider⟩

section Alike

variable {hidden : ScopeId → Prop} {session other : Session}

theorem Alike.isDone_eq (alike : session.Alike hidden other) {id : ScopeId} (seen : ¬hidden id) :
    other.isDone id = session.isDone id := by
  obtain ⟨scopes, rfl, same⟩ := alike
  simp only [isDone, isExpired, same.cancelled id seen, same.deadline?_eq]
  rfl

theorem Alike.remaining?_eq (alike : session.Alike hidden other) (id : ScopeId) :
    other.remaining? id = session.remaining? id := by
  obtain ⟨scopes, rfl, same⟩ := alike
  simp only [remaining?, same.deadline?_eq]
  rfl

theorem Alike.cancel (alike : session.Alike hidden other) (id : ScopeId) :
    (session.cancel id).Alike hidden (other.cancel id) := by
  obtain ⟨scopes, rfl, same⟩ := alike
  exact ⟨scopes.cancel id, rfl, same.cancel id⟩

theorem Alike.cancel_hidden (alike : session.Alike hidden other) {more : ScopeId → Prop}
    {top : ScopeId} (wider : ∀ id, hidden id → more id)
    (only : ∀ id ∈ session.scopes.below top, more id) : (session.cancel top).Alike more other := by
  obtain ⟨scopes, rfl, same⟩ := alike
  exact ⟨scopes, rfl, same.cancel_hidden wider only⟩

theorem Alike.fire (alike : session.Alike hidden other) (timer : Timer) :
    (session.fire timer).Alike hidden (other.fire timer) := by
  obtain ⟨scopes, rfl, same⟩ := alike
  -- Names are the same in both sessions, so that the timer cancels the same scope, hidden or not.
  unfold Session.fire named?
  dsimp only
  split
  · exact ⟨scopes.cancel _, rfl, same.cancel _⟩
  · exact ⟨scopes, rfl, same⟩

/-- Time passes alike, as long as nobody waits for a hidden scope. -/
theorem Alike.passTimers (awaited : Option ScopeId) (seen : ∀ id ∈ awaited, ¬hidden id)
    (target : Int) (waiting : List Timer) (alike : session.Alike hidden other) :
    (passTimers awaited target waiting session).Alike hidden
      (passTimers awaited target waiting other) := by
  induction waiting generalizing session other with
  | nil =>
    obtain ⟨scopes, rfl, same⟩ := alike
    exact ⟨scopes, rfl, same⟩
  | cons timer later inductionHypothesis =>
    have taken : ({ session with timers := later } : Session).Alike hidden
        { other with timers := later } := by
      obtain ⟨scopes, rfl, same⟩ := alike
      exact ⟨scopes, rfl, same⟩
    have fired := taken.fire timer
    have woken : awaited.any
          (({ other with timers := later } : Session).fire timer).scopes.isCancelled =
        awaited.any (({ session with timers := later } : Session).fire timer).scopes.isCancelled := by
      obtain ⟨scopes, left, same⟩ := fired
      cases awaited with
      | none => rfl
      | some id =>
        rw [left]
        exact same.cancelled id (seen id rfl)
    rw [Session.passTimers, Session.passTimers]
    split
    · dsimp only
      rw [woken]
      split
      · exact fired
      · exact inductionHypothesis fired
    · obtain ⟨scopes, rfl, same⟩ := alike
      exact ⟨scopes, rfl, same⟩

theorem Alike.passTo (awaited : Option ScopeId) (seen : ∀ id ∈ awaited, ¬hidden id) (target : Int)
    (alike : session.Alike hidden other) :
    (session.passTo awaited target).Alike hidden (other.passTo awaited target) := by
  have sameTimers : other.timers = session.timers := by
    obtain ⟨scopes, rfl, same⟩ := alike
    rfl
  rw [Session.passTo, Session.passTo, sameTimers]
  exact alike.passTimers awaited seen target session.timers

theorem Alike.micros_eq (alike : session.Alike hidden other) : other.micros = session.micros := by
  obtain ⟨scopes, rfl, same⟩ := alike
  rfl

end Alike

end Session

namespace Action

/-- An action that does not look at hidden scopes: it gives the same and does the same to sessions
that are alike. -/
def Blind (hidden : ScopeId → Prop) (action : Action α) : Prop :=
  Mirrors (Session.Alike hidden) (Session.Alike hidden) action action

variable {hidden : ScopeId → Prop}

theorem Blind.bind {first : Action α} {next : α → Action β} (start : first.Blind hidden)
    (rest : ∀ value, (next value).Blind hidden) : (first >>= next).Blind hidden :=
  Mirrors.bind (fun _ _ alike => alike) start rest

theorem blind_pure (value : α) : (pure value : Action α).Blind hidden :=
  mirrors_pure value

theorem blind_raise (fault : Fault) : (raise fault : Action α).Blind hidden :=
  mirrors_lift (.error fault)

theorem blind_look {view : Session → α}
    (elsewhere : ∀ (session : Session) scopes, view { session with scopes } = view session) :
    (look view).Blind hidden := by
  rintro session other ⟨scopes, rfl, same⟩
  exact ⟨congrArg Except.ok (elsewhere session scopes), scopes, rfl, same⟩

theorem blind_cancel (id : ScopeId) : (cancel id).Blind hidden :=
  fun _ _ alike => ⟨rfl, alike.cancel id⟩

theorem blind_release (id : ScopeId) : (release id).Blind hidden := by
  rintro session other ⟨scopes, rfl, same⟩
  exact ⟨rfl, scopes.release id, rfl, same.release id⟩

theorem blind_change {update : Session → Session}
    (elsewhere : ∀ (session : Session) scopes,
      update { session with scopes } = { update session with scopes })
    (kept : ∀ session, (update session).scopes = session.scopes) : (change update).Blind hidden := by
  rintro session other ⟨scopes, rfl, same⟩
  exact ⟨rfl, scopes, elsewhere session scopes, (kept session).symm ▸ same⟩

theorem blind_log (severity : Log.Severity) (name : String) (fields : List (String × Value)) :
    (log severity name fields).Blind hidden :=
  blind_change (fun _ _ => rfl) fun _ => rfl

theorem blind_note (entry : Entry) : (note entry).Blind hidden :=
  blind_change (fun _ _ => rfl) fun _ => rfl

theorem blind_ordinal (source : Source) : (ordinal source).Blind hidden := by
  rintro session other ⟨scopes, rfl, same⟩
  exact ⟨rfl, scopes, rfl, same⟩

theorem blind_record (key : String) (value : Value) : (record key value).Blind hidden :=
  blind_change (fun _ _ => rfl) fun _ => rfl

theorem blind_hold {id : ScopeId} (seen : ¬hidden id) (seconds : Float) :
    (hold id seconds).Blind hidden := by
  intro session other alike
  have sameFlag : other.scopes.isCancelled id = session.scopes.isCancelled id := by
    obtain ⟨scopes, rfl, same⟩ := alike
    exact same.cancelled id seen
  have sameClockwork : other.clockwork = session.clockwork := by
    obtain ⟨scopes, rfl, same⟩ := alike
    rfl
  unfold hold
  rw [sameFlag, alike.micros_eq, sameClockwork]
  split
  · exact ⟨rfl, alike⟩
  · split
    · split
      · exact ⟨rfl, alike.passTo (some id) (by simpa using seen) _⟩
      · exact ⟨rfl, alike⟩
    · exact ⟨rfl, alike⟩

theorem blind_wait {id : ScopeId} (seen : ¬hidden id) (seconds : Float) :
    (wait id seconds).Blind hidden := by
  intro session other alike
  obtain ⟨answered, left⟩ :=
    blind_hold seen (boundedBy (session.remaining? id) seconds) session other alike
  rw [wait_eq, wait_eq, alike.remaining?_eq]
  rcases held : hold id (boundedBy (session.remaining? id) seconds) session with
      ⟨fault | _, after⟩ <;>
    rcases heldToo : hold id (boundedBy (session.remaining? id) seconds) other with
      ⟨answer, afterToo⟩ <;>
    rw [held, heldToo] at answered left <;>
    cases answered
  · exact ⟨rfl, left⟩
  · have sameEnd : afterToo.isDone id = after.isDone id := left.isDone_eq seen
    refine ⟨?_, left⟩
    dsimp only
    rw [sameEnd]

end Action

/-- Listeners do not look at scopes. -/
theorem Listener.observer_blind {hidden : ScopeId → Prop} (listener : Listener) (script : Nat)
    (result : CheckResult) : (listener.observer script result).Blind hidden := by
  have named : ∀ name, (Action.named name).Blind hidden := by
    intro name
    refine (Action.blind_look fun _ _ => rfl).bind fun found => ?_
    cases found with
    | none => exact Action.blind_raise _
    | some id => exact Action.blind_pure id
  have cancels : ∀ (name : String) {last : Action Unit}, last.Blind hidden →
      (do
        let id ← Action.named name
        Action.cancel id
        last).Blind hidden :=
    fun name _ blind => (named name).bind fun id => (Action.blind_cancel id).bind fun _ => blind
  have reacts : ∀ number, (listener.react number).Blind hidden := by
    intro number
    unfold react
    cases entryAt? number listener.raises with
    | none =>
      cases entryAt? number listener.cancels with
      | none => exact Action.blind_pure ()
      | some name => exact cancels name (Action.blind_pure ())
    | some fault =>
      cases entryAt? number listener.cancels with
      | none => exact Action.blind_raise fault
      | some name => exact cancels name (Action.blind_raise fault)
  have observes : (Action.observe result).Blind hidden :=
    (Action.blind_look fun _ _ => rfl).bind fun now => Action.blind_note _
  exact (Action.blind_ordinal _).bind fun before => observes.bind fun _ => reacts (before + 1)

end Checkup
