import Checkup.Proofs.Number.Arithmetic
import Checkup.Proofs.Scope.Cancellation
import Checkup.Proofs.Session.Reach

/-!
# What a wait tells

A wait in a scope ends when the scope is cancelled, when its time is over, or when what the scope
has left is over. Main statement: it ends at the instant at which the first timer cancels the scope,
or else after its time in whole microseconds, never later than asked for; and what it tells is true,
but for a wait that is cut short by a deadline to which the clock does not get. A wait that is too
long for the machine is refused at once.
-/

namespace Checkup

/-- The microseconds of a number of seconds that somebody waits; none of a number that is not
positive. -/
def countedMicros (seconds : Float) : Except Fault Int :=
  if 0 < seconds then microsOfSeconds seconds else .ok 0

/-- The same if the machine allows such a wait. -/
def Clockwork.heldMicros (clockwork : Clockwork) (seconds : Float) : Except Fault Int :=
  if 0 < seconds then clockwork.microsOfWait seconds else .ok 0

theorem Clockwork.heldMicros_eq_ok {clockwork : Clockwork} {seconds : Float} {micros : Int} :
    clockwork.heldMicros seconds = .ok micros ↔
      (0 < seconds → clockwork.Allows seconds) ∧ countedMicros seconds = .ok micros := by
  unfold heldMicros countedMicros
  by_cases positive : 0 < seconds
  · rw [if_pos positive, if_pos positive, microsOfWait_eq_ok]
    simp only [positive, forall_const]
  · rw [if_neg positive, if_neg positive]
    simp only [positive, false_implies, true_and]

theorem countedMicros_le {seconds longer : Float} {micros more : Int} (positive : 0 < seconds)
    (le : seconds ≤ longer) (counted : countedMicros seconds = .ok micros)
    (longerCounted : countedMicros longer = .ok more) : micros ≤ more := by
  have longerPositive : 0 < longer := Number.float_lt_of_lt_of_le positive le
  rw [countedMicros, if_pos positive] at counted
  rw [countedMicros, if_pos longerPositive] at longerCounted
  exact microsOfSeconds_le positive le counted longerCounted

theorem boundedBy_cases (remaining : Option Float) (seconds : Float) :
    boundedBy remaining seconds = seconds ∨ boundedBy remaining seconds < seconds := by
  cases remaining with
  | none => exact .inl rfl
  | some left =>
    by_cases less : left < seconds
    · rw [boundedBy, if_pos less]
      exact .inr less
    · rw [boundedBy, if_neg less]
      exact .inl rfl

theorem countedMicros_nonneg {seconds : Float} {micros : Int}
    (counted : countedMicros seconds = .ok micros) : 0 ≤ micros := by
  unfold countedMicros at counted
  split at counted
  · rename_i positive
    exact Action.microsOfSeconds_nonneg positive counted
  · cases counted
    exact Int.le_refl 0

namespace Session

/-- A timer cancels a scope or one above it to which the scope is attached. -/
def Strikes (session : Session) (id : ScopeId) (timer : Timer) : Prop :=
  ∃ top, session.named? timer.scope = some top ∧ session.scopes.Hangs top id

/-- A timer is the first one that cancels a scope, and it is due until an instant. -/
def Interrupts (session : Session) (id : ScopeId) (target : Int) (timer : Timer) : Prop :=
  ∃ earlier later, session.timers = earlier ++ timer :: later ∧
    (∀ other ∈ earlier, ¬session.Strikes id other) ∧ session.Strikes id timer ∧ timer.due ≤ target

section Fire

variable (session : Session) (timer : Timer) {id : ScopeId}

theorem fire_cases :
    (∃ top, session.named? timer.scope = some top ∧
      session.fire timer =
        { session with
          micros := max session.micros timer.due
          scopes := session.scopes.cancel top }) ∨
      session.named? timer.scope = none ∧
        session.fire timer = { session with micros := max session.micros timer.due } := by
  unfold fire
  cases named : session.named? timer.scope with
  | none =>
    right
    refine ⟨rfl, ?_⟩
    have still : ({ session with micros := max session.micros timer.due } : Session).named?
        timer.scope = none := named
    simp only [still]
  | some top =>
    left
    refine ⟨top, rfl, ?_⟩
    have still : ({ session with micros := max session.micros timer.due } : Session).named?
        timer.scope = some top := named
    simp only [still]
    rfl

theorem micros_fire : (session.fire timer).micros = max session.micros timer.due := by
  rcases fire_cases session timer with ⟨top, _, fired⟩ | ⟨_, fired⟩
  · rw [fired]
  · rw [fired]

theorem sound_fire (sound : session.scopes.Sound) : (session.fire timer).scopes.Sound :=
  sound.grows (session.fire_cancels timer).handled.grows

theorem size_fire : (session.fire timer).scopes.all.size = session.scopes.all.size :=
  (session.fire_cancels timer).handled.size_eq

/-- Firing a timer leaves who is attached to whom, so that other timers strike as they did. -/
theorem strikes_fire {other : Timer} :
    (session.fire timer).Strikes id other ↔ session.Strikes id other := by
  rcases fire_cases session timer with ⟨top, _, fired⟩ | ⟨_, fired⟩
  · have same : (session.scopes.cancel top).Attached = session.scopes.Attached := by
      funext parent child
      exact propext Scopes.attached_cancel
    rw [fired]
    unfold Strikes named? Scopes.Hangs
    rw [same]
  · rw [fired]
    exact Iff.rfl

theorem isCancelled_fire_iff (sound : session.scopes.Sound)
    (known : id < session.scopes.all.size) :
    (session.fire timer).scopes.isCancelled id = true ↔
      session.scopes.isCancelled id = true ∨ session.Strikes id timer := by
  rcases fire_cases session timer with ⟨top, named, fired⟩ | ⟨unnamed, fired⟩
  · have strikes : session.Strikes id timer ↔ session.scopes.Hangs top id := by
      unfold Strikes
      rw [named]
      simp
    rw [fired, strikes, Scopes.isCancelled_cancel_iff sound.ordered]
    simp only [known, true_and]
  · have spares : ¬session.Strikes id timer := by
      intro strikes
      obtain ⟨top, named, _⟩ := strikes
      rw [unnamed] at named
      cases named
    rw [fired]
    simp only [spares, or_false]

end Fire

section Pass

variable {id : ScopeId} {target : Int}

theorem passTimers_of_spared {waiting : List Timer} {session : Session}
    (sound : session.scopes.Sound) (known : id < session.scopes.all.size)
    (free : session.scopes.isCancelled id = false)
    (spared : ∀ timer ∈ waiting, timer.due ≤ target → ¬session.Strikes id timer) :
    (passTimers (some id) target waiting session).micros = target ∧
      (passTimers (some id) target waiting session).scopes.isCancelled id = false := by
  induction waiting generalizing session with
  | nil => exact ⟨rfl, free⟩
  | cons timer later inductionHypothesis =>
    rw [passTimers]
    by_cases due : timer.due ≤ target
    · obtain ⟨sparedFirst, sparedLater⟩ := List.forall_mem_cons.mp spared
      let taken : Session := { session with timers := later }
      have freeStill : (taken.fire timer).scopes.isCancelled id = false := by
        refine Bool.eq_false_iff.mpr fun cancelled => ?_
        rcases (taken.isCancelled_fire_iff timer sound known).mp cancelled with before | strikes
        · exact Bool.eq_false_iff.mp free before
        · exact sparedFirst due strikes
      rw [if_pos due]
      dsimp only
      rw [Option.any_some, freeStill]
      refine inductionHypothesis (taken.sound_fire timer sound)
        ((taken.size_fire timer).symm ▸ known) freeStill ?_
      intro other member dueToo strikes
      exact sparedLater other member dueToo ((taken.strikes_fire timer).mp strikes)
    · rw [if_neg due]
      exact ⟨rfl, free⟩

/-- The first timer that strikes stops the clock, if it is due before the end. -/
theorem passTimers_of_strikes {earlier : List Timer} (later : List Timer) {timer : Timer}
    {session : Session} (sound : session.scopes.Sound) (known : id < session.scopes.all.size)
    (free : session.scopes.isCancelled id = false)
    (spared : ∀ other ∈ earlier, ¬session.Strikes id other) (strikes : session.Strikes id timer)
    (sorted : ∀ other ∈ earlier, other.due ≤ timer.due) (due : timer.due ≤ target) :
    (passTimers (some id) target (earlier ++ timer :: later) session).micros =
        max session.micros timer.due ∧
      (passTimers (some id) target (earlier ++ timer :: later) session).scopes.isCancelled id =
        true := by
  induction earlier generalizing session with
  | nil =>
    let taken : Session := { session with timers := later }
    have struck : (taken.fire timer).scopes.isCancelled id = true :=
      (taken.isCancelled_fire_iff timer sound known).mpr (.inr strikes)
    rw [List.nil_append, passTimers, if_pos due]
    dsimp only
    rw [Option.any_some, struck]
    exact ⟨taken.micros_fire timer, struck⟩
  | cons first earlier inductionHypothesis =>
    obtain ⟨sparedFirst, sparedLater⟩ := List.forall_mem_cons.mp spared
    obtain ⟨firstDue, sortedLater⟩ := List.forall_mem_cons.mp sorted
    let taken : Session := { session with timers := earlier ++ timer :: later }
    have freeStill : (taken.fire first).scopes.isCancelled id = false := by
      refine Bool.eq_false_iff.mpr fun cancelled => ?_
      rcases (taken.isCancelled_fire_iff first sound known).mp cancelled with before | struck
      · exact Bool.eq_false_iff.mp free before
      · exact sparedFirst struck
    obtain ⟨clock, struck⟩ := inductionHypothesis (taken.sound_fire first sound)
      ((taken.size_fire first).symm ▸ known) freeStill
      (fun other member struck => sparedLater other member ((taken.strikes_fire first).mp struck))
      ((taken.strikes_fire first).mpr strikes) sortedLater
    -- The timers before move the clock, but not beyond the one that strikes.
    have firstClock : (taken.fire first).micros = max session.micros first.due :=
      taken.micros_fire first
    rw [List.cons_append, passTimers, if_pos (Int.le_trans firstDue due)]
    dsimp only
    rw [Option.any_some, freeStill]
    refine ⟨?_, struck⟩
    refine clock.trans ?_
    omega

theorem micros_passTimers_le {awaited : Option ScopeId} {waiting : List Timer} {session : Session}
    (forward : session.micros ≤ target) :
    (passTimers awaited target waiting session).micros ≤ target := by
  induction waiting generalizing session with
  | nil => exact Int.le_refl target
  | cons timer later inductionHypothesis =>
    rw [passTimers]
    by_cases due : timer.due ≤ target
    · let taken : Session := { session with timers := later }
      have fired : (taken.fire timer).micros ≤ target := by
        have clock : (taken.fire timer).micros = max session.micros timer.due :=
          taken.micros_fire timer
        omega
      rw [if_pos due]
      dsimp only
      split
      · exact fired
      · exact inductionHypothesis fired
    · simp [due]

end Pass

/-- The microseconds that a wait in a scope takes if nobody interrupts it. -/
def waitMicros (session : Session) (id : ScopeId) (seconds : Float) : Except Fault Int :=
  session.clockwork.heldMicros (boundedBy (session.remaining? id) seconds)

theorem counted_of_waitMicros {session : Session} {id : ScopeId} {seconds : Float} {micros : Int}
    (counted : session.waitMicros id seconds = .ok micros) :
    countedMicros (boundedBy (session.remaining? id) seconds) = .ok micros :=
  (Clockwork.heldMicros_eq_ok.mp counted).2

/-- A wait for longer than a scope has left takes what it has left, and the deadline has not come by
then: it lies between two ticks of the clock, or compares with nothing. -/
def FallsShort (session : Session) (id : ScopeId) (seconds : Float) : Prop :=
  ∃ left micros, session.remaining? id = some left ∧ left < seconds ∧
    countedMicros left = .ok micros ∧
    ({ session with micros := session.micros + micros } : Session).isExpired id = false

/-- How a wait that comes to its end leaves a session. -/
inductive Held (session : Session) (id : ScopeId) (seconds : Float) : Session → Prop where
  | cancelled (before : session.scopes.isCancelled id = true) : Held session id seconds session
  | empty (free : session.scopes.isCancelled id = false)
      (none : ¬0 < boundedBy (session.remaining? id) seconds)
      (counted : session.waitMicros id seconds = .ok 0) : Held session id seconds session
  | passed {micros : Int} (free : session.scopes.isCancelled id = false)
      (some : 0 < boundedBy (session.remaining? id) seconds)
      (counted : session.waitMicros id seconds = .ok micros) :
      Held session id seconds (session.passTo (.some id) (session.micros + micros))

theorem hold_of_free {session : Session} {id : ScopeId}
    (free : session.scopes.isCancelled id = false) (length : Float) :
    Action.hold id length session =
      match session.clockwork.heldMicros length with
      | .error fault => (.error fault, session)
      | .ok micros =>
        (.ok (), if 0 < length then session.passTo (some id) (session.micros + micros)
          else session) := by
  unfold Action.hold Clockwork.heldMicros
  rw [free, if_neg Bool.false_ne_true]
  by_cases positive : 0 < length
  · simp only [if_pos positive]
    cases session.clockwork.microsOfWait length <;> rfl
  · simp only [if_neg positive]

theorem held_of_wait {session after : Session} {id : ScopeId} {seconds : Float} {answer : Bool}
    (waited : Action.wait id seconds session = (.ok answer, after)) :
    session.Held id seconds after ∧
      answer = ((session.remaining? id).any (fun left => decide (left < seconds)) ||
        after.isDone id) := by
  rw [Action.wait_eq] at waited
  cases cancelled : session.scopes.isCancelled id with
  | true =>
    have stays : Action.hold id (boundedBy (session.remaining? id) seconds) session =
        (.ok (), session) := by
      rw [Action.hold, if_pos cancelled]
    rw [stays] at waited
    cases waited
    exact ⟨.cancelled cancelled, rfl⟩
  | false =>
    rw [hold_of_free cancelled] at waited
    cases counted : session.clockwork.heldMicros (boundedBy (session.remaining? id) seconds) with
    | error fault =>
      rw [counted] at waited
      cases waited
    | ok micros =>
      rw [counted] at waited
      by_cases positive : 0 < boundedBy (session.remaining? id) seconds
      · simp only [if_pos positive, Prod.mk.injEq, Except.ok.injEq] at waited
        obtain ⟨rfl, rfl⟩ := waited
        exact ⟨.passed cancelled positive counted, rfl⟩
      · simp only [if_neg positive, Prod.mk.injEq, Except.ok.injEq] at waited
        obtain ⟨rfl, rfl⟩ := waited
        have none : session.waitMicros id seconds = .ok 0 := if_neg positive
        exact ⟨.empty cancelled positive none, rfl⟩

/-- A wait that is too long for the machine, or too long to be counted, is refused at once. -/
theorem wait_eq_error {session after : Session} {id : ScopeId} {seconds : Float} {fault : Fault} :
    Action.wait id seconds session = (.error fault, after) ↔
      after = session ∧ session.scopes.isCancelled id = false ∧
        session.waitMicros id seconds = .error fault := by
  rw [Action.wait_eq]
  unfold waitMicros
  cases cancelled : session.scopes.isCancelled id with
  | true =>
    have stays : Action.hold id (boundedBy (session.remaining? id) seconds) session =
        (.ok (), session) := by
      rw [Action.hold, if_pos cancelled]
    simp [stays]
  | false =>
    rw [hold_of_free cancelled]
    cases session.clockwork.heldMicros (boundedBy (session.remaining? id) seconds) <;>
      simp [and_comm, eq_comm]

/-- A wait comes to its end if the scope is cancelled, or else if the machine allows to wait for so
long and the time can be counted. -/
theorem exists_wait_iff {session : Session} {id : ScopeId} {seconds : Float} :
    (∃ answer after, Action.wait id seconds session = (.ok answer, after)) ↔
      session.scopes.isCancelled id = true ∨
        (0 < boundedBy (session.remaining? id) seconds →
            session.clockwork.Allows (boundedBy (session.remaining? id) seconds)) ∧
          ∃ micros, countedMicros (boundedBy (session.remaining? id) seconds) = .ok micros := by
  have counts : (∃ micros, session.waitMicros id seconds = .ok micros) ↔
      (0 < boundedBy (session.remaining? id) seconds →
          session.clockwork.Allows (boundedBy (session.remaining? id) seconds)) ∧
        ∃ micros, countedMicros (boundedBy (session.remaining? id) seconds) = .ok micros := by
    simp only [waitMicros, Clockwork.heldMicros_eq_ok, exists_and_left]
  rw [← counts]
  rcases waited : Action.wait id seconds session with ⟨fault | answer, after⟩
  · obtain ⟨_, free, refused⟩ := wait_eq_error.mp waited
    simp [free, refused]
  · obtain ⟨held, _⟩ := held_of_wait waited
    refine iff_of_true ⟨answer, after, rfl⟩ ?_
    cases held with
    | cancelled before => exact .inl before
    | empty _ _ counted | passed _ _ counted => exact .inr ⟨_, counted⟩

namespace Held

variable {session after : Session} {id : ScopeId} {seconds : Float}

theorem along (held : session.Held id seconds after) : session.scopes.Cancels after.scopes := by
  cases held with
  | cancelled | empty => exact Relation.ReflTransGen.refl
  | passed free some counted =>
    exact session.passTimers_cancels (.some id) _ session.timers

/-- A scope that is not cancelled by the end of a wait has been waited for as long as it takes. -/
theorem exists_micros (held : session.Held id seconds after)
    (free : after.scopes.isCancelled id = false) :
    ∃ micros, session.waitMicros id seconds = .ok micros ∧
      after.micros = session.micros + micros := by
  cases held with
  | cancelled before =>
    rw [before] at free
    cases free
  | empty _ none counted => exact ⟨0, counted, (Int.add_zero _).symm⟩
  | @passed micros _ some counted =>
    refine ⟨micros, counted, ?_⟩
    rcases session.passTimers_awaited id (session.micros + micros) session.timers with
      woken | elapsed
    · have cancelled : (session.passTo (.some id) (session.micros + micros)).scopes.isCancelled id =
          true := woken
      rw [cancelled] at free
      cases free
    · exact elapsed

theorem deadline?_eq (held : session.Held id seconds after) (known : id < session.scopes.all.size) :
    after.scopes.deadline? id = session.scopes.deadline? id :=
  held.along.handled.grows.ageTo.deadline?_eq known

theorem fallsShort_iff (held : session.Held id seconds after)
    (known : id < session.scopes.all.size) (free : after.scopes.isCancelled id = false) :
    session.FallsShort id seconds ↔
      ((session.remaining? id).any fun left => decide (left < seconds)) = true ∧
        after.isExpired id = false := by
  obtain ⟨micros, counted, clock⟩ := held.exists_micros free
  have sameExpired : after.isExpired id =
      ({ session with micros := session.micros + micros } : Session).isExpired id := by
    unfold isExpired now
    rw [held.deadline?_eq known, clock]
  rw [sameExpired]
  replace counted := counted_of_waitMicros counted
  constructor
  · intro short
    obtain ⟨left, leftMicros, remaining, less, leftCounted, notExpired⟩ := short
    rw [remaining, boundedBy, if_pos less, leftCounted] at counted
    cases counted
    refine ⟨?_, notExpired⟩
    rw [remaining, Option.any_some, decide_eq_true less]
  · intro short
    obtain ⟨cut, notExpired⟩ := short
    rw [Option.any_eq_true] at cut
    obtain ⟨left, remaining, less⟩ := cut
    have lessToo : left < seconds := of_decide_eq_true less
    rw [remaining, boundedBy, if_pos lessToo] at counted
    exact ⟨left, micros, remaining, lessToo, counted, notExpired⟩

/-- A wait tells the truth exactly if the scope is cancelled by its end, or if it does not fall
short of the deadline. -/
theorem truthful_iff (held : session.Held id seconds after)
    (known : id < session.scopes.all.size) :
    ((((session.remaining? id).any fun left => decide (left < seconds)) ||
        after.isDone id) = true ↔ after.isDone id = true) ↔
      after.scopes.isCancelled id = true ∨ ¬session.FallsShort id seconds := by
  cases cancelled : after.scopes.isCancelled id with
  | true =>
    have done : after.isDone id = true := by
      rw [isDone, cancelled, Bool.true_or]
    simp [done]
  | false =>
    have done : after.isDone id = after.isExpired id := by
      rw [isDone, cancelled, Bool.false_or]
    -- Only an answer that was cut short can differ from whether the scope has expired.
    rw [held.fallsShort_iff known cancelled, done]
    cases (session.remaining? id).any fun left => decide (left < seconds) <;>
      cases after.isExpired id <;> simp

theorem micros_le (held : session.Held id seconds after) {requested : Int}
    (asked : countedMicros seconds = .ok requested) :
    after.micros ≤ session.micros + requested := by
  have forward := countedMicros_nonneg asked
  cases held with
  | cancelled | empty => omega
  | @passed micros free some counted =>
    replace counted := counted_of_waitMicros counted
    have nonneg := countedMicros_nonneg counted
    have within : (session.passTo (.some id) (session.micros + micros)).micros ≤
        session.micros + micros := micros_passTimers_le (by omega)
    have less : micros ≤ requested := by
      rcases boundedBy_cases (session.remaining? id) seconds with same | shorter
      · rw [same, asked] at counted
        cases counted
        exact Int.le_refl _
      · exact countedMicros_le some (Number.float_le_of_lt shorter) counted asked
    omega

/-- The first timer that cancels the scope before the time is over ends the wait. -/
theorem of_interrupts (held : session.Held id seconds after) (sound : session.scopes.Sound)
    (known : id < session.scopes.all.size)
    (sorted : session.timers.Pairwise fun timer later => timer.due ≤ later.due) {micros : Int}
    {timer : Timer} (free : session.scopes.isCancelled id = false)
    (some : 0 < boundedBy (session.remaining? id) seconds)
    (counted : session.waitMicros id seconds = .ok micros)
    (interrupts : session.Interrupts id (session.micros + micros) timer) :
    after.scopes.isCancelled id = true ∧ after.micros = max session.micros timer.due := by
  cases held with
  | cancelled before =>
    rw [before] at free
    cases free
  | empty _ none => exact absurd some none
  | passed _ _ countedToo =>
    rw [counted] at countedToo
    cases countedToo
    obtain ⟨earlier, later, split, spared, strikes, due⟩ := interrupts
    rw [split] at sorted
    have before : ∀ other ∈ earlier, other.due ≤ timer.due := by
      intro other member
      exact (List.pairwise_append.mp sorted).2.2 other member timer List.mem_cons_self
    obtain ⟨clock, struck⟩ :=
      passTimers_of_strikes later sound known free spared strikes before due
    rw [← split] at clock struck
    exact ⟨struck, clock⟩

theorem of_spared (held : session.Held id seconds after) (sound : session.scopes.Sound)
    (known : id < session.scopes.all.size) {micros : Int}
    (free : session.scopes.isCancelled id = false)
    (counted : session.waitMicros id seconds = .ok micros)
    (spared : ∀ timer ∈ session.timers, timer.due ≤ session.micros + micros →
      ¬session.Strikes id timer) :
    after.scopes.isCancelled id = false ∧ after.micros = session.micros + micros := by
  cases held with
  | cancelled before =>
    rw [before] at free
    cases free
  | empty _ none countedToo =>
    rw [counted] at countedToo
    cases countedToo
    exact ⟨free, (Int.add_zero _).symm⟩
  | passed _ _ countedToo =>
    rw [counted] at countedToo
    cases countedToo
    obtain ⟨clock, spared⟩ := passTimers_of_spared sound known free spared
    exact ⟨spared, clock⟩

end Held

/-- What is known of a wait that comes to its end. -/
structure Waited (session : Session) (id : ScopeId) (seconds : Float) (answer : Bool)
    (after : Session) : Prop where
  atOnce : session.scopes.isCancelled id = true → answer = true ∧ after = session
  /-- It is never missed that the scope is done. -/
  heard : after.isDone id = true → answer = true
  truthful : (answer = true ↔ after.isDone id = true) ↔
    after.scopes.isCancelled id = true ∨ ¬session.FallsShort id seconds
  /-- The first timer that cancels the scope before the time is over ends the wait. -/
  woken : ∀ micros timer, session.scopes.isCancelled id = false →
    0 < boundedBy (session.remaining? id) seconds → session.waitMicros id seconds = .ok micros →
      session.Interrupts id (session.micros + micros) timer →
        answer = true ∧ after.scopes.isCancelled id = true ∧
          after.micros = max session.micros timer.due
  /-- If no timer does, the wait takes its time. -/
  elapsed : ∀ micros, session.scopes.isCancelled id = false →
    session.waitMicros id seconds = .ok micros →
      (∀ timer ∈ session.timers, timer.due ≤ session.micros + micros →
        ¬session.Strikes id timer) →
        after.scopes.isCancelled id = false ∧ after.micros = session.micros + micros
  bounded : ∀ requested, countedMicros seconds = .ok requested →
    session.micros ≤ after.micros ∧ after.micros ≤ session.micros + requested

theorem Operated.waits {session : Session} (operated : session.Operated) {id : ScopeId}
    (known : id < session.scopes.all.size)
    (sorted : session.timers.Pairwise fun timer later => timer.due ≤ later.due) (seconds : Float) :
    ((∃ answer after, Action.wait id seconds session = (.ok answer, after)) ↔
      session.scopes.isCancelled id = true ∨
        (0 < boundedBy (session.remaining? id) seconds →
            session.clockwork.Allows (boundedBy (session.remaining? id) seconds)) ∧
          ∃ micros, countedMicros (boundedBy (session.remaining? id) seconds) = .ok micros) ∧
    (∀ fault after, Action.wait id seconds session = (.error fault, after) → after = session) ∧
    ∀ answer after, Action.wait id seconds session = (.ok answer, after) →
      session.Waited id seconds answer after := by
  refine ⟨exists_wait_iff, fun fault after refused => (wait_eq_error.mp refused).1, ?_⟩
  intro answer after waited
  have sound := operated.sound
  obtain ⟨held, rfl⟩ := held_of_wait waited
  constructor
  case atOnce =>
    intro cancelled
    cases held with
    | cancelled =>
      have done : session.isDone id = true := by
        rw [isDone, cancelled, Bool.true_or]
      rw [done, Bool.or_true]
      exact ⟨rfl, rfl⟩
    | empty free | passed free =>
      rw [cancelled] at free
      cases free
  case heard =>
    intro done
    rw [done, Bool.or_true]
  case truthful => exact held.truthful_iff known
  case woken =>
    intro micros timer free some counted interrupts
    obtain ⟨struck, clock⟩ :=
      held.of_interrupts sound known sorted free some counted interrupts
    have done : after.isDone id = true := by
      rw [isDone, struck, Bool.true_or]
    rw [done, Bool.or_true]
    exact ⟨rfl, struck, clock⟩
  case elapsed =>
    intro micros free counted spared
    exact held.of_spared sound known free counted spared
  case bounded =>
    intro requested asked
    have reached := Action.wait_along id seconds session
    rw [waited] at reached
    exact ⟨reached.onward.1, held.micros_le asked⟩

/-- A scope whose deadline compares with nothing, and one that expires between two ticks. -/
def restless : Session :=
  ((do
    let _ ← Action.background (some Number.notANumber)
    let _ ← Action.background (some 4e-7) : Action Unit) {}).2

/-- A wait of a second in either of them tells that it is done, and it is not. -/
theorem restless_misled :
    (∃ after, Action.wait 0 1 restless = (.ok true, after) ∧ after.isDone 0 = false) ∧
      ∃ after, Action.wait 1 1 restless = (.ok true, after) ∧ after.isDone 1 = false := by
  have told : ∀ id, id = 0 ∨ id = 1 →
      (match (Action.wait id 1 restless).1 with
        | .ok answer => answer
        | .error _ => false) = true ∧ (Action.wait id 1 restless).2.isDone id = false := by
    intro id which
    rcases which with rfl | rfl
    · decide +kernel
    · decide +kernel
  have ended : ∀ id, id = 0 ∨ id = 1 →
      ∃ after, Action.wait id 1 restless = (.ok true, after) ∧ after.isDone id = false := by
    intro id which
    obtain ⟨answered, notDone⟩ := told id which
    rcases waited : Action.wait id 1 restless with ⟨fault | answer, after⟩
    · rw [waited] at answered
      cases answered
    · rw [waited] at answered notDone
      cases answered
      exact ⟨after, rfl, notDone⟩
  exact ⟨ended 0 (.inl rfl), ended 1 (.inr rfl)⟩

/-- A scope under a root that is cancelled after two seconds. -/
def lookout : Session :=
  ((do
    let root ← Action.background none
    let _ ← Action.underFor root 8
    Action.change fun session =>
      { session with
        names := [("root", root)]
        timers := [⟨2000000, "root"⟩] } : Action Unit) {}).2

theorem lookout_operated : lookout.Operated := by
  refine ⟨{}, rfl, ?_⟩
  have root : Relation.ReflTransGen Operates {} _ := .single (.background {} none)
  have child := root.tail (.underFor (show 0 < _ by decide) 8)
  exact child.tail (.elsewhere rfl)

theorem lookout_waits :
    ∃ after, Action.wait 1 5 lookout = (.ok true, after) ∧
      lookout.Waited 1 5 true after ∧ after.micros = 2000000 := by
  have known : 1 < lookout.scopes.all.size := by decide +kernel
  have single : lookout.timers = [⟨2000000, "root"⟩] := by decide +kernel
  have sorted : lookout.timers.Pairwise fun timer later => timer.due ≤ later.due := by
    rw [single]
    exact List.pairwise_singleton _ _
  obtain ⟨ends, _, waits⟩ := lookout_operated.waits known sorted 5
  have counted : lookout.waitMicros 1 5 = .ok 5000000 := by
    have known : (lookout.waitMicros 1 5).toOption = some 5000000 := by decide +kernel
    cases found : lookout.waitMicros 1 5 with
    | error fault =>
      rw [found] at known
      cases known
    | ok micros =>
      rw [found] at known
      cases known
      rfl
  obtain ⟨allowed, counts⟩ := Clockwork.heldMicros_eq_ok.mp counted
  obtain ⟨answer, after, waited⟩ := ends.mpr (.inr ⟨allowed, _, counts⟩)
  have told := waits answer after waited
  have strikes : lookout.Strikes 1 ⟨2000000, "root"⟩ := by
    have child : (lookout.scopes.get? 1).map (fun scope => (scope.attached, scope.parent)) =
        some (true, some 0) := by decide +kernel
    obtain ⟨scope, found, made⟩ := Option.map_eq_some_iff.mp child
    have attached : lookout.scopes.Attached 0 1 :=
      ⟨scope, found, congrArg Prod.fst made, congrArg Prod.snd made⟩
    exact ⟨0, by decide +kernel, Relation.ReflTransGen.single attached⟩
  have interrupts : lookout.Interrupts 1 (lookout.micros + 5000000) ⟨2000000, "root"⟩ :=
    ⟨[], [], single, nofun, strikes, by decide +kernel⟩
  obtain ⟨rfl, _, clock⟩ :=
    told.woken 5000000 ⟨2000000, "root"⟩ (by decide +kernel) (by decide +kernel) counted interrupts
  exact ⟨after, waited, told, clock.trans (by decide +kernel)⟩

end Session

end Checkup
