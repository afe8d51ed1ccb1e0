import Checkup.Proofs.Scope.Growth
import Checkup.Proofs.Session.Waiting

/-!
# Cancelling trees of scopes

Sessions make scopes, cancel and detach them, and let time pass. Main statement: in every session
that comes about in this way, what is attached to a cancelled scope is cancelled, and cancelling a
scope cancels exactly what hangs under it.
-/

namespace Checkup

namespace Session

theorem fire_cancels (session : Session) (timer : Timer) :
    session.scopes.Cancels (session.fire timer).scopes := by
  unfold fire
  dsimp only
  split
  · exact session.scopes.cancels_cancel _
  · exact Relation.ReflTransGen.refl

/-- Time that passes does nothing to scopes but cancelling some. -/
theorem passTimers_cancels (awaited : Option ScopeId) (target : Int) (waiting : List Timer)
    (session : Session) :
    session.scopes.Cancels (passTimers awaited target waiting session).scopes := by
  induction waiting generalizing session with
  | nil => exact Relation.ReflTransGen.refl
  | cons timer later inductionHypothesis =>
    rw [passTimers]
    split
    · have fired := fire_cancels { session with timers := later } timer
      dsimp only
      split
      · exact fired
      · exact fired.trans (inductionHypothesis _)
    · exact Relation.ReflTransGen.refl

end Session

namespace Action

theorem advance_cancels (seconds : Amount) (session : Session) :
    session.scopes.Cancels (advance seconds session).2.scopes := by
  unfold advance
  split
  · exact session.passTimers_cancels none _ session.timers
  · exact Relation.ReflTransGen.refl

theorem wait_cancels (id : ScopeId) (seconds : Float) (session : Session) :
    session.scopes.Cancels (wait id seconds session).2.scopes := by
  have held : ∀ length : Float, session.scopes.Cancels (hold id length session).2.scopes := by
    intro length
    unfold hold
    split
    · exact Relation.ReflTransGen.refl
    · split
      · split
        · exact session.passTimers_cancels (some id) _ session.timers
        · exact Relation.ReflTransGen.refl
      · exact Relation.ReflTransGen.refl
  have waited := held (boundedBy (session.remaining? id) seconds)
  rw [wait_eq]
  rcases found : hold id (boundedBy (session.remaining? id) seconds) session with
    ⟨fault | _, after⟩ <;>
    rw [found] at waited <;> exact waited

end Action

namespace Session

/-- One operation of those who use scopes. Scopes are made under known ones. -/
inductive Operates : Session → Session → Prop where
  | background (session : Session) (deadline : Option Float) :
      Operates session (Action.background deadline session).2
  | under {session : Session} {parent : ScopeId} (known : parent < session.scopes.all.size)
      (deadline : Option Float) : Operates session (Action.under parent deadline session).2
  | underFor {session : Session} {parent : ScopeId} (known : parent < session.scopes.all.size)
      (seconds : Float) : Operates session (Action.underFor parent seconds session).2
  | cancel (session : Session) (id : ScopeId) : Operates session (Action.cancel id session).2
  | release (session : Session) (id : ScopeId) : Operates session (Action.release id session).2
  | advance (session : Session) (seconds : Amount) :
      Operates session (Action.advance seconds session).2
  | wait (session : Session) (id : ScopeId) (seconds : Float) :
      Operates session (Action.wait id seconds session).2
  /-- The clock is moved, a scope gets a name, or something else changes that is not a scope. -/
  | elsewhere {session later : Session} (same : later.scopes = session.scopes) :
      Operates session later

/-- A session comes from one without scopes by such operations, in any order. -/
def Operated (session : Session) : Prop :=
  ∃ start, start.scopes = {} ∧ Relation.ReflTransGen Operates start session

theorem Operates.grows {session later : Session} (operates : session.Operates later) :
    session.scopes.Grows later.scopes := by
  cases operates with
  | background deadline => exact Relation.ReflTransGen.single (.root session.scopes deadline)
  | under known deadline => exact Relation.ReflTransGen.single (.child known deadline)
  | underFor known seconds => exact Relation.ReflTransGen.single (.child known _)
  | cancel id => exact Relation.ReflTransGen.single (.handled (.cancel session.scopes id))
  | release id => exact Relation.ReflTransGen.single (.handled (.release session.scopes id))
  | advance seconds => exact (Action.advance_cancels seconds session).handled.grows
  | wait id seconds => exact (Action.wait_cancels id seconds session).handled.grows
  | elsewhere same =>
    rw [same]
    exact Relation.ReflTransGen.refl

theorem Operated.sound {session : Session} (operated : session.Operated) :
    session.scopes.Sound := by
  obtain ⟨start, empty, operations⟩ := operated
  induction operations with
  | refl =>
    rw [empty]
    exact Scopes.sound_empty
  | tail before operates inductionHypothesis => exact inductionHypothesis.grows operates.grows

end Session

namespace Scopes

/-- What cancelling a scope makes of a tree of scopes. -/
structure CancelledFrom (top : ScopeId) (before after : Scopes) : Prop where
  /-- First the scope is cancelled, and then its children are, one after the other. -/
  inTurn : after = (before.children top).foldl cancel (before.mark top)
  exactly : ∀ id, after.isCancelled id = true ↔
    before.isCancelled id = true ∨ id < before.all.size ∧ before.Hangs top id
  deadlines : ∀ id, after.deadline? id = before.deadline? id
  attachments : ∀ parent child, after.Attached parent child ↔ before.Attached parent child
  above : ∀ id, before.Hangs id top → id ≠ top → after.get? id = before.get? id
  beside : ∀ parent sibling id, before.Attached parent top → before.Attached parent sibling →
    top ≠ sibling → before.Hangs sibling id → after.get? id = before.get? id
  /-- Detached scopes are spared with all that hangs under them. -/
  loose : ∀ free id, before.Loose free → ¬before.Hangs free top → before.Hangs free id →
    after.get? id = before.get? id

theorem get?_cancel_of_not_hangs {scopes : Scopes} (ordered : scopes.Ordered) {top id : ScopeId}
    (spared : ¬scopes.Hangs top id) : (scopes.cancel top).get? id = scopes.get? id :=
  get?_cancel_of_not_mem fun member => spared ((mem_below_iff ordered).mp member)

theorem cancelledFrom_cancel {scopes : Scopes} (ordered : scopes.Ordered) (top : ScopeId) :
    CancelledFrom top scopes (scopes.cancel top) where
  inTurn := scopes.cancel_eq_foldl top
  exactly _ := isCancelled_cancel_iff ordered
  deadlines := scopes.deadline?_cancel top
  attachments _ _ := attached_cancel
  above _ hangs different :=
    get?_cancel_of_not_hangs ordered (not_hangs_of_above ordered hangs different)
  beside _ _ _ attached sibling different hangs :=
    get?_cancel_of_not_hangs ordered
      (not_hangs_of_sibling ordered attached sibling different hangs)
  loose _ _ free outside hangs :=
    get?_cancel_of_not_hangs ordered (free.not_hangs outside hangs)

end Scopes

namespace Session

def Makes (session : Session) (parent id : ScopeId) (later : Session) : Prop :=
  (∃ deadline, Action.under parent deadline session = (.ok id, later)) ∨
    ∃ seconds, Action.underFor parent seconds session = (.ok id, later)

theorem Makes.isCancelled {session later : Session} {parent id : ScopeId}
    (makes : session.Makes parent id later)
    (cancelled : session.scopes.isCancelled parent = true) :
    later.scopes.isCancelled id = true := by
  have child : ∀ deadline, (session.scopes.addChild parent deadline).1.isCancelled
      (session.scopes.addChild parent deadline).2 = true := by
    intro deadline
    rw [Scopes.isCancelled, Scopes.get?_addChild_self, Option.any_some]
    exact cancelled
  rcases makes with ⟨deadline, made⟩ | ⟨seconds, made⟩
  · cases made
    exact child deadline
  · cases made
    exact child _

/-- In every session that comes about by operations on scopes, what is attached to a cancelled scope
is cancelled, and what is made under one starts cancelled. Cancelling a scope ends, and cancels
exactly what hangs under it. No operation takes a cancellation back or changes a deadline. -/
theorem Operated.cancellation {session : Session} (operated : session.Operated) :
    (∀ parent child, session.scopes.Attached parent child →
      session.scopes.isCancelled parent = true → session.scopes.isCancelled child = true) ∧
    (∀ top, top < session.scopes.all.size →
      ∃ after, Action.cancel top session = (.ok (), { session with scopes := after }) ∧
        Scopes.CancelledFrom top session.scopes after) ∧
    (∀ later, session.Operates later → ∀ id, id < session.scopes.all.size →
      later.scopes.deadline? id = session.scopes.deadline? id ∧
        (session.scopes.isCancelled id = true → later.scopes.isCancelled id = true)) ∧
    ∀ parent id later, session.Makes parent id later →
      session.scopes.isCancelled parent = true → later.scopes.isCancelled id = true := by
  have sound := operated.sound
  refine ⟨sound.downward, ?_, ?_, ?_⟩
  · intro top _
    exact ⟨session.scopes.cancel top, rfl, Scopes.cancelledFrom_cancel sound.ordered top⟩
  · intro later operates id known
    have age := operates.grows.ageTo
    exact ⟨age.deadline?_eq known, age.isCancelled⟩
  · intro parent id later makes
    exact makes.isCancelled

/-- A root with two children. One of them has a child that expires after half a minute; the other one
is detached and gets a child after that. -/
def grove : Session :=
  ((do
    let root ← Action.background none
    let job ← Action.under root none
    let _ ← Action.underFor job 30
    let left ← Action.under root none
    Action.release left
    let _ ← Action.under left none : Action Unit) {}).2

theorem grove_operated : grove.Operated := by
  refine ⟨{}, rfl, ?_⟩
  have root : Relation.ReflTransGen Operates {} _ := .single (.background {} none)
  have job := root.tail (.under (show 0 < _ by decide) none)
  have short := job.tail (.underFor (show 1 < _ by decide) 30)
  have left := short.tail (.under (show 0 < _ by decide) none)
  have detached := left.tail (.release _ 3)
  exact detached.tail (.under (show 3 < _ by decide +kernel) none)

theorem grove_cancellation :
    ∃ after, Action.cancel 0 grove = (.ok (), { grove with scopes := after }) ∧
      Scopes.CancelledFrom 0 grove.scopes after ∧
        (List.range 5).map after.isCancelled = [true, true, true, false, false] := by
  obtain ⟨_, cancels, _, _⟩ := grove_operated.cancellation
  obtain ⟨after, cancelled, exactly⟩ := cancels 0 (by decide +kernel)
  have same : after = grove.scopes.cancel 0 := (congrArg (·.2.scopes) cancelled).symm
  exact ⟨after, cancelled, exactly, by rw [same]; decide +kernel⟩

end Session

end Checkup
