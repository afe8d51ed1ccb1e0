import Checkup.Proofs.Engine.Notices
import Checkup.Proofs.Session.Composable

/-!
# The journal as a recorder

The journal keeps every call of a scripted probe and every result that a listener is told. Main
statement: read for these entries, the journal records a listener, and scripted probes are heard.
-/

namespace Checkup

def Entry.notice? : Entry → Option (Notice String)
  | probed description _ second _ => some (.called description second)
  | observed result second => some (.told result second)
  | called _ => none

/-- The notices in the journal, the oldest first. -/
def journalNotices (journal : List Entry) : List (Notice String) :=
  journal.reverse.filterMap Entry.notice?

@[simp] theorem journalNotices_cons (entry : Entry) (journal : List Entry) :
    journalNotices (entry :: journal) = journalNotices journal ++ entry.notice?.toList := by
  rw [journalNotices, List.reverse_cons, List.filterMap_append]
  cases noticed : entry.notice? <;> simp [journalNotices, noticed]

def Session.SameJournal (session after : Session) : Prop :=
  after.journal = session.journal

namespace Session

theorem sameJournal_onward : Onward SameJournal where
  stay _ := rfl
  goOn first second := second.trans first

end Session

namespace Action

theorem advance_sameJournal (seconds : Amount) : (advance seconds).Along Session.SameJournal := by
  intro session
  unfold advance
  split
  · obtain ⟨micros, timers, scopes, passed⟩ := session.exists_passTo_eq none _
    rw [passed]
    rfl
  · rfl

theorem wait_sameJournal (id : ScopeId) (seconds : Float) :
    (wait id seconds).Along Session.SameJournal := by
  intro session
  obtain ⟨micros, timers, scopes, waited⟩ := exists_wait_eq id seconds session
  rw [waited]
  rfl

end Action

theorem sameJournal_composable : Action.Composable fun action => action.Along Session.SameJournal :=
  Action.along_composable Session.sameJournal_onward Action.wait_sameJournal (fun _ _ => rfl)
    fun _ _ _ => rfl

/-- A scripted probe adds one entry to the journal: the second at which it was called. -/
theorem exists_scriptedProbe_journal (description : String) (script : Nat)
    (attempts : List ScriptedAttempt) (scope : ScopeId) (session : Session) :
    ∃ seen, (scriptedProbe description script attempts scope session).2.journal =
      .probed description (session.timesAsked (.script script) + 1) session.now seen ::
        session.journal := by
  let before := session.timesAsked (.script script)
  let attempt := (attempts[before]?).getD (attempts.getLastD {})
  have kept := performAll_composable sameJournal_composable scope attempt.acts
    (fun seconds _ => Action.advance_sameJournal seconds) (session.countAsked (.script script))
  have taken : ∀ after : Session, (attempt.reaction.take scope after).2.journal = after.journal :=
    Reaction.take_composable sameJournal_composable scope attempt.reaction
  rcases performed : performAll scope attempt.acts (session.countAsked (.script script)) with
    ⟨fault | seen, after⟩
  · rw [performed] at kept
    refine ⟨none, ?_⟩
    simp only [scriptedProbe, bind, Action.ordinal, Action.now, Action.look, Action.settle]
    simp only [before, attempt] at performed
    simp only [performed]
    exact congrArg _ kept
  · rw [performed] at kept
    refine ⟨if seen.isEmpty then none else some seen, ?_⟩
    simp only [scriptedProbe, bind, Action.ordinal, Action.now, Action.look, Action.settle]
    simp only [before, attempt] at performed
    simp only [performed]
    exact (taken _).trans (congrArg _ kept)

namespace Listener

/-- A listener adds one entry to the journal: the result and the second at which it was told. -/
theorem observer_journal (listener : Listener) (script : Nat) (result : CheckResult)
    (session : Session) :
    (listener.observer script result session).2.journal =
      .observed result session.now :: session.journal := by
  exact listener.react_composable sameJournal_composable
    (session.timesAsked (.script script) + 1)
    { session.countAsked (.script script) with
      journal := .observed result session.now :: session.journal }

/-- The journal as a recorder of a listener. -/
def recorder (listener : Listener) (script : Nat) : Recorder String (listener.observer script) where
  notices := journalNotices
  told result session := by
    rw [observer_journal, journalNotices_cons]
    rfl

@[simp] theorem recorder_notices (listener : Listener) (script : Nat) :
    (listener.recorder script).notices = journalNotices := rfl

/-- The journal tells when a scripted probe is called. -/
theorem recorder_hears (listener : Listener) (script : Nat) (description : String) (number : Nat)
    (attempts : List ScriptedAttempt) :
    (listener.recorder script).Hears description (scriptedProbe description number attempts) := by
  intro scope session
  obtain ⟨seen, noted⟩ :=
    exists_scriptedProbe_journal description number attempts scope session
  exact (congrArg journalNotices noted).trans (journalNotices_cons _ _)

end Listener

end Checkup
