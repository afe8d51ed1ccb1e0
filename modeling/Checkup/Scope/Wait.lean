import Checkup.Session.Time

/-!
# Scopes in time

A scope is expired from its deadline on. A wait in a scope ends with the time it was given, with the
scope's deadline, or as soon as the scope is cancelled.
-/

namespace Checkup

/-- The time of an operation that must not take longer than a scope has left. -/
def boundedBy (remaining : Option Float) (seconds : Float) : Float :=
  match remaining with
  | none => seconds
  | some remaining => if remaining < seconds then remaining else seconds

def Fault.waitTooLong : Fault := .overflow "timestamp out of range for platform time_t"

/-- The microseconds of a wait for some seconds, if the machine allows it. -/
def Clockwork.microsOfWait (clockwork : Clockwork) (seconds : Float) : Except Fault Int :=
  if clockwork.longestWait.any fun longest => decide (longest < seconds) then .error .waitTooLong
  else microsOfSeconds seconds

def Clockwork.Allows (clockwork : Clockwork) (seconds : Float) : Prop :=
  ∀ longest, clockwork.longestWait = some longest → ¬longest < seconds

theorem Clockwork.microsOfWait_of_allows {clockwork : Clockwork} {seconds : Float}
    (allows : clockwork.Allows seconds) :
    clockwork.microsOfWait seconds = microsOfSeconds seconds := by
  refine if_neg ?_
  simpa [Allows, Option.any_eq_true] using allows

theorem Clockwork.microsOfWait_of_not_allows {clockwork : Clockwork} {seconds : Float}
    (long : ¬clockwork.Allows seconds) :
    clockwork.microsOfWait seconds = .error .waitTooLong := by
  refine if_pos ?_
  simpa [Allows, Option.any_eq_true] using long

theorem Clockwork.microsOfWait_eq_ok {clockwork : Clockwork} {seconds : Float} {micros : Int} :
    clockwork.microsOfWait seconds = .ok micros ↔
      clockwork.Allows seconds ∧ microsOfSeconds seconds = .ok micros := by
  by_cases allows : clockwork.Allows seconds
  · simp [microsOfWait_of_allows allows, allows]
  · simp [microsOfWait_of_not_allows allows, allows]

namespace Session

/-- A scope is expired from its deadline on. -/
def isExpired (session : Session) (id : ScopeId) : Bool :=
  (session.scopes.deadline? id).any fun deadline => decide (deadline ≤ session.now)

def isDone (session : Session) (id : ScopeId) : Bool :=
  session.scopes.isCancelled id || session.isExpired id

def scopeFault? (session : Session) (id : ScopeId) : Option Fault :=
  if session.scopes.isCancelled id then some .cancelled
  else if session.isExpired id then some .deadlineExceeded
  else none

/-- The seconds left until a scope's deadline, never less than none. -/
def remaining? (session : Session) (id : ScopeId) : Option Float :=
  (session.scopes.deadline? id).map fun deadline =>
    let left := deadline - session.now
    if 0 < left then left else 0

def scopeView (session : Session) (id : ScopeId) : ScopeView :=
  { deadline := session.scopes.deadline? id
    cancelled := session.scopes.isCancelled id
    expired := session.isExpired id
    fault := session.scopeFault? id
    remaining := session.remaining? id }

end Session

namespace Action

def background (deadline : Option Float) : Action ScopeId := fun session =>
  let (scopes, id) := session.scopes.addRoot deadline
  (.ok id, { session with scopes })

def under (parent : ScopeId) (deadline : Option Float) : Action ScopeId := fun session =>
  let (scopes, id) := session.scopes.addChild parent deadline
  (.ok id, { session with scopes })

/-- Makes a scope under another one that expires after a number of seconds. -/
def underFor (parent : ScopeId) (seconds : Float) : Action ScopeId := do
  under parent (some ((← now) + seconds))

def cancel (id : ScopeId) : Action Unit :=
  change (·.cancel id)

def release (id : ScopeId) : Action Unit :=
  change fun session => { session with scopes := session.scopes.release id }

/-- Lets a number of seconds pass, or less if the scope is cancelled before. No time passes in a
cancelled scope, and none for a number that is not positive. Who waits for more than the machine
allows is told so at once. -/
def hold (id : ScopeId) (seconds : Float) : Action Unit := fun session =>
  if session.scopes.isCancelled id then (.ok (), session)
  else if 0 < seconds then
    match session.clockwork.microsOfWait seconds with
    | .ok micros => (.ok (), session.passTo (some id) (session.micros + micros))
    | .error fault => (.error fault, session)
  else (.ok (), session)

/-- Waits in a scope and tells whether the scope is done. A scope whose deadline comes before the
time is over counts as done, even if the wait was too short for the clock to get there. -/
def wait (id : ScopeId) (seconds : Float) : Action Bool := do
  match ← look (·.remaining? id) with
  | some remaining =>
    if remaining < seconds then
      hold id remaining
      return true
    else
      hold id seconds
      look (·.isDone id)
  | none =>
    hold id seconds
    look (·.isDone id)

/-- Tells whether a scope is done: looks first whether it is cancelled, and then at the clock. -/
def askDone (id : ScopeId) : Action Bool := do
  if ← read (·.scopes.isCancelled id) then pure true else read (·.isExpired id)

/-- Tells why a scope is done, looking in the same order. -/
def askFault (id : ScopeId) : Action (Option Fault) := do
  if ← read (·.scopes.isCancelled id) then pure (some .cancelled)
  else if ← read (·.isExpired id) then pure (some .deadlineExceeded)
  else pure none

end Action

end Checkup
