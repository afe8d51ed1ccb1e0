import Checkup.Session.Basic
import Checkup.Time.Calendar

/-!
# Time in a session

The clock counts microseconds and moves only when something takes time. On its way it fires the
timers that are due; somebody who waits for a scope is woken by the timer that cancels it.
-/

namespace Checkup

namespace Session

/-- The seconds of the clock. -/
def now (session : Session) : Float :=
  Number.secondsOfMicros session.micros

/-- The moment on the wall clock, in universal time. -/
def wallClock (session : Session) : Except Fault Moment := do
  let elapsed ← (Duration.ofMicros session.micros).mapError Fault.ofTime
  (Moment.start.add elapsed).mapError Fault.ofTime

/-- What the clocks of a region show, in microseconds since the start of the year 1. -/
def timeIn (session : Session) (zone : Zone) : Except Fault Int := do
  let moment ← session.wallClock
  let shown ← (moment.add ⟨zone moment.micros⟩).mapError Fault.ofTime
  .ok shown.micros

def cancel (session : Session) (id : ScopeId) : Session :=
  { session with scopes := session.scopes.cancel id }

/-- Fires a timer. The clock is not set back; a timer whose scope does not exist does nothing. -/
def fire (session : Session) (timer : Timer) : Session :=
  let session := { session with micros := max session.micros timer.due }
  match session.named? timer.scope with
  | some id => session.cancel id
  | none => session

/-- Moves the clock to an instant, firing the timers that are due. If a scope is awaited, the clock
stops at the timer that cancels it. -/
def passTimers (awaited : Option ScopeId) (target : Int) : List Timer → Session → Session
  | [], session => { session with micros := target, timers := [] }
  | timer :: later, session =>
    if timer.due ≤ target then
      let fired := { session with timers := later }.fire timer
      if awaited.any fired.scopes.isCancelled then fired
      else passTimers awaited target later fired
    else { session with micros := target, timers := timer :: later }

def passTo (session : Session) (awaited : Option ScopeId) (target : Int) : Session :=
  passTimers awaited target session.timers session

end Session

/-- The microseconds nearest to a number of seconds. -/
def microsOfSeconds (seconds : Float) : Except Fault Int :=
  (Number.nearestInt (seconds * 1000000)).mapError fun problem =>
    .ofTime (Duration.ofNotWhole problem)

namespace Action

/-- The seconds of the clock. -/
def now : Action Float := look Session.now

def wallClock : Action Moment := fun session => (session.wallClock, session)

def advance (seconds : Amount) : Action Unit := fun session =>
  match (seconds.toFloat.mapError Fault.ofTime).bind microsOfSeconds with
  | .ok micros => (.ok (), session.passTo none (session.micros + micros))
  | .error fault => (.error fault, session)

def pause : Action Unit := do
  let before ← ordinal .pause
  let clockwork ← look (·.clockwork)
  match clockwork.pause before with
  | 0 => pure ()
  | micros + 1 => change fun session => session.passTo none (session.micros + micros + 1)

/-- Reads something off the session after a pause. -/
def read (view : Session → α) : Action α := do
  pause
  look view

/-- Asks a service of the host. The call is noted first; then the time that the answer takes passes;
then the answer is given. -/
def consult (source : Source) (call : Call) (reply : Host → Nat → Reply α) : Action α := do
  note (.called call)
  let host ← look (·.host)
  let before ← ordinal source
  let reply := reply host before
  match reply.takes with
  | some seconds => advance seconds
  | none => pure ()
  lift reply.answer

end Action

end Checkup
