import Checkup.Proofs.Engine.Signals
import Checkup.Proofs.Engine.Trials
import Checkup.Proofs.Probe.Asking

/-!
# The calls of a run

Main statement: in every run of a suite of network probes, an attempt makes at most one call. It makes
none if it finds its scope done, and says why; otherwise the scope of the category was not done
either when the probe looked, and the call has no more time than the scope of the attempt then had
left. If no time passes between the look and the call, all this holds at the call; if time passes, a
call may come too late.
-/

namespace Checkup

theorem Scopes.exists_narrowed_number (above : Option Float) {own : Float}
    (number : own.isNaN = false) :
    ∃ deadline, narrowed above (some own) = some deadline ∧ deadline.isNaN = false := by
  cases above with
  | none => exact ⟨own, rfl, number⟩
  | some above =>
    refine ⟨_, rfl, ?_⟩
    by_cases earlier : above < own
    · rw [if_pos earlier]
      exact (Number.isNaN_of_le (Number.float_le_of_lt earlier)).1
    · rw [if_neg earlier]
      exact number

namespace Session

variable {session later : Session} {parent : ScopeId} {timeout : Duration}
  (rests : (session.entered parent timeout).Rests later)

include rests

/-- The scope of an attempt has a number of seconds left, and some time unless it is expired. -/
theorem exists_remaining_entered :
    ∃ left, later.remaining? session.nextScope = some left ∧ 0 ≤ left ∧
      (later.isExpired session.nextScope = false → 0 < left) := by
  have own : (session.now + timeout.seconds).isNaN = false := by
    obtain ⟨negative, bits, shaped, finite⟩ := Number.shape_seconds timeout
    exact Number.isNaN_add (Number.isNaN_secondsOfMicros session.micros) shaped finite
  obtain ⟨deadline, narrowed, number⟩ :=
    Scopes.exists_narrowed_number (session.scopes.deadline? parent) own
  have taken := (deadline?_during rests.cancels.handled).trans narrowed
  refine ⟨if 0 < deadline - later.now then deadline - later.now else 0, ?_, ?_, ?_⟩
  · rw [remaining?, taken]
    rfl
  · by_cases positive : 0 < deadline - later.now
    · rw [if_pos positive]
      exact Number.float_le_of_lt positive
    · rw [if_neg positive]
      exact Number.float_le_refl (by decide +kernel)
  · intro running
    -- Both are numbers, so that a deadline that has not come is above the clock.
    have early : later.now < deadline := by
      by_contra late
      have reached : deadline ≤ later.now :=
        Number.float_le_of_not_lt (Number.isNaN_secondsOfMicros later.micros) number late
      have expired : later.isExpired session.nextScope = true :=
        isExpired_iff.mpr ⟨deadline, taken, reached⟩
      rw [expired] at running
      cases running
    have positive : 0 < deadline - later.now := Number.float_sub_pos early
    rwa [if_pos positive]

/-- The scope of an attempt is done if that of the category is, until the probe does something. -/
theorem isDone_entered (done : later.isDone parent = true) :
    later.isDone session.nextScope = true := by
  have during := rests.cancels.handled
  rcases Nat.lt_trichotomy parent session.nextScope with known | same | unknown
  · have attached := rests.cancels.holds _ _ (session.attached_entered parent timeout)
    exact isDone_during during known attached done
  · rwa [same] at done
  · -- A scope that does not exist is not done.
    cases found : later.scopes.get? parent with
    | none =>
      rw [isDone, isExpired, Scopes.isCancelled, Scopes.deadline?, found] at done
      cases done
    | some scope =>
      have known := Scopes.lt_size_of_get? found
      rw [size_during during] at known
      exact absurd (Nat.le_of_lt_succ known) (Nat.not_le.mpr unknown)

end Session

namespace Trial

variable {observer : Observer} {trial : Trial}

def calls (trial : Trial) : List Call :=
  trial.stage.ended.calls.drop trial.stage.started.calls.length

/-- An attempt that asks nothing: pauses after its start, its probe finds the scope done. Nothing is
stored, and the attempt fails with the reason why the scope is done then. -/
structure Refuses (trial : Trial) (found : Session) : Prop where
  rests : trial.entered.Rests found
  done : found.isDone trial.scope = true
  silent : trial.calls = []
  kept : trial.stage.ended.store = trial.stage.started.store
  fails : trial.task.Fails trial.configuration trial.stage
    (if found.scopes.isCancelled trial.scope then .cancelled else .deadlineExceeded)
  /-- If no time has passed, this is also why the scope was done at the start. -/
  still : found.micros = trial.entered.micros → found.scopes = trial.entered.scopes

/-- An attempt that makes one call. There are only pauses from its start to the look at the scope,
from there to the moment at which the time left is measured, and from there to the call. -/
structure Inquires (trial : Trial) (inquiry : Network.Inquiry) (looked measured called : Session)
    (left : Float) : Prop where
  looks : trial.entered.Rests looked
  measures : looked.Rests measured
  calls : measured.Rests called
  undone : looked.isDone trial.scope = false
  undoneAbove : looked.isDone trial.task.category.scope = false
  remaining : measured.remaining? trial.scope = some left
  asks : (trial.task.probe trial.scope).Asks trial.entered (inquiry.call (some left)) called
  once : trial.calls = [inquiry.call (some left)]
  bounded : (inquiry.call (some left)).Bounded left
  timely : measured.isExpired trial.scope = false → (inquiry.call (some left)).Timely left
  /-- If no time passes between the look and the call, the call is made at an instant at which
  neither scope is done, with no more time than is left at that instant. -/
  still : called.micros = looked.micros →
    called.isDone trial.scope = false ∧ called.isDone trial.task.category.scope = false ∧
      called.remaining? trial.scope = some left ∧ (inquiry.call (some left)).Timely left

/-- What an attempt asks, and when. -/
structure Respects (trial : Trial) (inquiry : Network.Inquiry) : Prop where
  /-- In a scope that is done from the start nothing is asked. -/
  refused : trial.entered.isDone trial.scope = true → ∃ found, trial.Refuses found
  refusesOrInquires : (∃ found, trial.Refuses found) ∨
    ∃ looked measured called left, trial.Inquires inquiry looked measured called left
  /-- On a machine that takes no time for itself, an attempt whose scope is not done at the start makes
  its call at that instant, and the scope of the category is not done either. -/
  prompt : trial.entered.clockwork.Prompt → trial.entered.isDone trial.scope = false →
    trial.entered.isDone trial.task.category.scope = false ∧
      ∃ called left, called.micros = trial.entered.micros ∧
        called.scopes = trial.entered.scopes ∧
        trial.entered.remaining? trial.scope = some left ∧
        (trial.task.probe trial.scope).Asks trial.entered (inquiry.call (some left)) called ∧
        trial.calls = [inquiry.call (some left)] ∧ (inquiry.call (some left)).Timely left
  kept : trial.stage.ended.calls = trial.stage.started.calls ++ trial.calls

theorem calls_of_probe {called : List Call} (made : trial.Made observer)
    (probed : (trial.task.probe trial.scope trial.entered).2.calls =
      trial.entered.calls ++ called) :
    trial.calls = called ∧ trial.stage.ended.calls = trial.stage.started.calls ++ called := by
  obtain ⟨desk, ended⟩ := made.exists_ended_eq
  have after : trial.stage.ended.calls = trial.stage.started.calls ++ called := by
    rw [ended]
    exact probed
  refine ⟨?_, after⟩
  rw [calls, after, List.drop_left]

theorem Made.exists_refuses {inquiry : Network.Inquiry} (made : trial.Made observer)
    (probes : trial.task.probe = inquiry.probe)
    (done : (Action.askDone trial.scope trial.entered).1 = .ok true) :
    (∃ found, trial.Refuses found) ∧
      trial.stage.ended.calls = trial.stage.started.calls ++ trial.calls := by
  obtain ⟨found, after, rests, onward, doneThen, refusal⟩ := inquiry.exists_probe_eq done
  rw [← probes] at refusal
  obtain ⟨micros, timers, scopes, asked, paused⟩ := (rests.trans onward).exists_eq
  have silent : (trial.task.probe trial.scope trial.entered).2.calls =
      trial.entered.calls ++ [] := by
    rw [refusal, paused, List.append_nil]
    rfl
  obtain ⟨none, kept⟩ := calls_of_probe made silent
  refine ⟨⟨found, rests, doneThen, none, ?_, ?_, rests.scopes_eq⟩, none ▸ kept⟩
  · obtain ⟨desk, ended⟩ := made.exists_ended_eq
    rw [ended, refusal, paused]
    rfl
  · exact CheckTask.fails_of_answer refusal rfl made.attempted

theorem Made.exists_inquires {inquiry : Network.Inquiry} (made : trial.Made observer)
    (probes : trial.task.probe = inquiry.probe)
    (undone : (Action.askDone trial.scope trial.entered).1 = .ok false) :
    (∃ looked measured called left, trial.Inquires inquiry looked measured called left) ∧
      trial.stage.ended.calls = trial.stage.started.calls ++ trial.calls := by
  obtain ⟨looked, checked, asked, looks, checks, live⟩ := Action.exists_look_of_not_done undone
  obtain ⟨measured, called, measures, calls, asks⟩ := inquiry.exists_asks asked
  obtain ⟨left, remaining, nonneg, positive⟩ :
      ∃ left, measured.remaining? trial.scope = some left ∧ 0 ≤ left ∧
        (measured.isExpired trial.scope = false → 0 < left) :=
    Session.exists_remaining_entered ((looks.trans checks).trans measures)
  rw [← probes, remaining] at asks
  have before : called.calls = trial.entered.calls := by
    obtain ⟨_, _, _, _, rfl⟩ := (((looks.trans checks).trans measures).trans calls).exists_eq
    rfl
  obtain ⟨one, kept⟩ := calls_of_probe made (before ▸ asks.calls_eq)
  -- If the category's scope were done, so would be that of the attempt under it.
  have liveAbove : looked.isDone trial.task.category.scope = false := by
    by_contra finished
    rw [Bool.not_eq_false] at finished
    have doneToo : looked.isDone trial.scope = true := Session.isDone_entered looks finished
    rw [live] at doneToo
    cases doneToo
  refine ⟨⟨looked, measured, called, left,
    { looks
      measures := checks.trans measures
      calls
      undone := live
      undoneAbove := liveAbove
      remaining
      asks
      once := one
      bounded := inquiry.bounded_call nonneg
      timely := fun running => inquiry.timely_call (positive running)
      still := ?_ }⟩, one ▸ kept⟩
  intro still
  have whole := (checks.trans measures).trans calls
  have early : measured.micros = looked.micros :=
    (checks.trans measures).micros_eq_of_still calls still
  have running : measured.isExpired trial.scope = false := by
    have undoneThen := (checks.trans measures).isDone_eq early trial.scope
    rw [live, Session.isDone, Bool.or_eq_false_iff] at undoneThen
    exact undoneThen.2
  refine ⟨?_, ?_, ?_, inquiry.timely_call (positive running)⟩
  · rw [whole.isDone_eq still, live]
  · rw [whole.isDone_eq still, liveAbove]
  · rw [calls.remaining?_eq (still.trans early.symm), remaining]

theorem Made.respects {inquiry : Network.Inquiry} (made : trial.Made observer)
    (probes : trial.task.probe = inquiry.probe) : trial.Respects inquiry := by
  refine ⟨?refused, ?refusesOrInquires, ?prompt, ?kept⟩
  case refused =>
    intro done
    exact (made.exists_refuses probes (Action.askDone_of_isDone done)).1
  case refusesOrInquires =>
    rcases Action.askDone_answer trial.scope trial.entered with done | undone
    · exact .inl (made.exists_refuses probes done).1
    · exact .inr (made.exists_inquires probes undone).1
  case prompt =>
    intro prompt undone
    have pauses := trial.entered.rests_paused.paused
    have found :=
      Action.askDone_of_not_isDone (pauses.micros_eq_of_prompt prompt) undone
    obtain ⟨looked, measured, called, left, inquires⟩ := (made.exists_inquires probes found).1
    have toMeasured := inquires.looks.trans inquires.measures
    have toCalled := toMeasured.trans inquires.calls
    have atOnce := toCalled.micros_eq_of_prompt prompt
    have looksAtOnce := inquires.looks.micros_eq_of_prompt prompt
    obtain ⟨_, undoneAbove, _, timely⟩ := inquires.still (atOnce.trans looksAtOnce.symm)
    refine ⟨?_, called, left, atOnce, toCalled.scopes_eq atOnce, ?_, inquires.asks, inquires.once,
      timely⟩
    · rw [← toCalled.isDone_eq atOnce, undoneAbove]
    · rw [← toMeasured.remaining?_eq (toMeasured.micros_eq_of_prompt prompt), inquires.remaining]
  case kept =>
    rcases Action.askDone_answer trial.scope trial.entered with done | undone
    · exact (made.exists_refuses probes done).2
    · exact (made.exists_inquires probes undone).2

end Trial

namespace Engine

variable {observer : Observer} {limit : Nat}

/-- A run adds the calls of its attempts, in order, if each of them only adds to the calls before it
and the observer makes none. -/
theorem Comprises.calls_eq {engine : Engine} {session final : Session} {run : SuiteRun}
    {rounds : List (Round engine.configuration observer limit)}
    (comprises : engine.Comprises observer limit session run final rounds)
    (watches : ∀ result, (observer result).Along Session.SameCalls)
    (kept : ∀ trial ∈ rounds.flatMap (·.trials),
      trial.stage.ended.calls = trial.stage.started.calls ++ trial.calls) :
    final.calls = session.calls ++ (rounds.flatMap (·.trials)).flatMap (·.calls) := by
  have logs : ∀ session other : Session, session.SameButLog other → session.SameCalls other :=
    fun _ _ same => Session.calls_eq_of_journal_eq same.journal_eq
  have waits : ∀ scope seconds, (Action.wait scope seconds).Along Session.SameCalls :=
    fun scope seconds started =>
      Session.calls_eq_of_journal_eq (Action.wait_sameJournal scope seconds started)
  -- All the way the calls are those of the attempts so far.
  obtain ⟨atEnd, _⟩ := @Passage.invariant observer session final _
    (fun earlier reached => reached.calls = session.calls ++ earlier.flatMap (·.calls))
    comprises.passage
    (fun earlier started other same counted => (logs started other same).trans counted)
    (fun earlier trial member made counted => by
      rw [kept trial member, counted]
      simp)
    (fun earlier trial member made counted =>
      (made.along_left Session.sameCalls_onward logs waits watches).trans counted)
    [] (by simp)
  exact atEnd

/-- Every attempt of a suite of network probes makes one call, or none if it finds its scope done.
The calls of a run are those of its attempts, in order, if the observer makes none. -/
theorem runChecks_respects {engine : Engine} {session final : Session} {run : SuiteRun}
    (ran : engine.runChecks observer session limit = (run, final))
    (suite : ∀ task ∈ enabledTasks engine.categories,
      ∃ inquiry : Network.Inquiry, task.probe = inquiry.probe) :
    ∃ rounds : List (Round engine.configuration observer limit),
      engine.Comprises observer limit session run final rounds ∧
        (∀ trial ∈ rounds.flatMap (·.trials), ∃ inquiry : Network.Inquiry,
          trial.task.probe = inquiry.probe ∧ trial.Respects inquiry) ∧
          ((∀ result, (observer result).Along Session.SameCalls) →
            final.calls = session.calls ++ (rounds.flatMap (·.trials)).flatMap (·.calls)) := by
  obtain ⟨rounds, comprises⟩ := exists_comprises ran
  have respects : ∀ trial ∈ rounds.flatMap (·.trials), ∃ inquiry : Network.Inquiry,
      trial.task.probe = inquiry.probe ∧ trial.Respects inquiry := by
    intro trial member
    obtain ⟨inquiry, probes⟩ := suite trial.task (comprises.known trial member)
    exact ⟨inquiry, probes, (comprises.passage.made trial member).respects probes⟩
  refine ⟨rounds, comprises, respects, ?_⟩
  intro watches
  refine comprises.calls_eq watches ?_
  intro trial member
  obtain ⟨_, _, respected⟩ := respects trial member
  exact respected.kept

def gatewaySuite : Engine :=
  { categories :=
      [{ id := "gateway", scope := 0
         checkers :=
          [Network.resolveChecker "db" {}, Network.connectChecker "db" 5432 {},
            Network.requestChecker "db answers" { url := "https://db/" } {}] }]
    configuration := CheckTask.briefly }

/-- A session whose only scope expires after four seconds. Resolving takes three of them, connecting
two, and the machine pauses for an eighth before every step. -/
def gateway : Session :=
  { scopes := ⟨#[{ deadline := some 4 }]⟩
    clockwork := { pause := fun _ => 125000 }
    host :=
      { resolve := fun _ _ => { takes := some (.real 3), answer := .ok ["10.0.0.5"] }
        connect := fun _ _ => { takes := some (.real 2), answer := .ok () } } }

def gatewayRunning : SuiteRun × Session :=
  gatewaySuite.runChecks (({} : Listener).observer 0) gateway 5

theorem gatewayRunning_respected :
    gatewayRunning.1.results.map (fun result => result.fault.isNone) = [true, true, false] ∧
      gatewayRunning.2.calls.length = 2 ∧
        (gatewayRunning.2.calls.filterMap Call.timeout?).map (fun bound => bound.1 == 0.25) =
          [true] ∧
          ∃ rounds : List (Round CheckTask.briefly (({} : Listener).observer 0) 5),
            gatewayRunning.1.checks = rounds.map (·.done.run) ∧
              (∀ trial ∈ rounds.flatMap (·.trials), ∃ inquiry, trial.Respects inquiry) ∧
                gatewayRunning.2.calls = (rounds.flatMap (·.trials)).flatMap (·.calls) := by
  have suite : ∀ task ∈ enabledTasks gatewaySuite.categories,
      ∃ inquiry : Network.Inquiry, task.probe = inquiry.probe := by
    refine @forall_enabledTasks (fun probe => ∃ inquiry : Network.Inquiry, probe = inquiry.probe)
      gatewaySuite.categories ?_
    simp only [gatewaySuite, Network.resolveChecker, Network.connectChecker,
      Network.requestChecker, List.forall_mem_cons, Option.some.injEq, forall_eq',
      List.not_mem_nil, false_imp_iff, implies_true, and_true]
    exact ⟨⟨.resolve "db" true, rfl⟩, ⟨.connect "db" 5432, rfl⟩,
      ⟨.request { url := "https://db/" }, rfl⟩⟩
  obtain ⟨rounds, comprises, respects, counted⟩ :=
    runChecks_respects (Prod.eta gatewayRunning).symm suite
  refine ⟨by decide +kernel, by decide +kernel, by decide +kernel, rounds, comprises.checks, ?_,
    counted (Listener.observer_sameCalls {} 0)⟩
  intro trial member
  obtain ⟨inquiry, _, respected⟩ := respects trial member
  exact ⟨inquiry, respected⟩

/-- A session whose only scope expires after ten seconds, on a machine that pauses for all of them
after a probe has found the scope not done and before it measures what is left. -/
def hesitant : Session :=
  { scopes := ⟨#[{ deadline := some 10 }]⟩
    clockwork := { pause := fun before => if before = 5 then 10000000 else 0 }
    host :=
      { resolve := fun _ _ => { answer := .ok ["10.0.0.5"] }
        connect := fun _ _ => { answer := .ok () } } }

/-- A session whose only scope is cancelled by a timer that is due now. -/
def doomed : Session :=
  { scopes := ⟨#[{}]⟩
    names := [("gateway", 0)]
    timers := [⟨0, "gateway"⟩]
    host := { resolve := fun _ _ => { takes := some (.real 0), answer := .ok ["10.0.0.5"] } } }

/-- A probe that has found its scope not done may make its call when the deadline has come, and then
gives it no time. Another one makes its call at the instant at which a timer cancels the scope. -/
theorem gatewaySuite_misled :
    let late := (gatewaySuite.runChecks (({} : Listener).observer 0) hesitant 5).2
    let early := (gatewaySuite.runChecks (({} : Listener).observer 0) doomed 5).2
    (¬∀ call ∈ late.calls, ∀ timeout most,
        call.timeout? = some (timeout, most) → 0 < timeout) ∧
      late.micros = 10000000 ∧ late.isExpired 0 = true ∧
      early.calls.length = 1 ∧ early.micros = 0 ∧ early.scopes.isCancelled 0 = true := by
  refine ⟨?_, by decide +kernel, by decide +kernel, by decide +kernel, by decide +kernel,
    by decide +kernel⟩
  intro given
  have bounds : ((gatewaySuite.runChecks (({} : Listener).observer 0) hesitant 5).2.calls.filterMap
      Call.timeout?).all (fun bound => decide (0 < bound.1)) = true := by
    rw [List.all_eq_true]
    intro bound member
    obtain ⟨call, made, has⟩ := List.mem_filterMap.mp member
    exact decide_eq_true (given call made bound.1 bound.2 has)
  exact absurd bounds (by decide +kernel)

end Engine

end Checkup
