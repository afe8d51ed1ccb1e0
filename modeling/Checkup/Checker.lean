import Checkup.Outcome
import Checkup.Scope.Wait

/-!
# Checkers and categories

A checker is one check together with the policy under which it runs. A category is a list of
checkers that share a scope and the beginning of the addresses where users find help.
-/

namespace Checkup

/-- A probe is called with the scope of an attempt. It may change the session in any way, and it
gives a value or ends in a fault. -/
abbrev Probe := ScopeId → Action Returned

/-- What a failure of a check leads to. -/
structure Policy where
  /-- A failure ends the run. -/
  fatal : Bool := false
  /-- A failure is reported but does not count against the run. -/
  warning : Bool := false
  /-- The moment until which a failed check is tried again. -/
  retryDeadline : Option Moment := none
  /-- The region in whose time that moment is given, unless it says so by its offset or is given in the
  machine's own time. -/
  region : Option Zone := none
  /-- Provisional results show the fault instead of hiding it. -/
  surfaceFault : Bool := false
deriving Inhabited

/-- One check. A checker without a probe is passed over. -/
structure Checker where
  description : String
  hintAnchor : String := ""
  policy : Policy := {}
  probe : Option Probe := none
deriving Inhabited

/-- The moment until which a check is tried again if it is to be tried for some time from now. -/
def Action.retryFor (span : Span) : Action Moment := do
  let duration ← lift (Configuration.ofSpan span)
  let moment ← wallClock
  lift ((moment.add duration).mapError .ofTime)

/-- The fault of comparing a moment that has an offset with one that has none. -/
def Fault.offsetsDiffer : Fault :=
  .badType "can't compare offset-naive and offset-aware datetimes"

namespace Policy

/-- The region in whose time a deadline is given. -/
def zone (policy : Policy) (clockwork : Clockwork) (deadline : Moment) : Zone :=
  policy.region.getD (deadline.offset.elim clockwork.region .fixed)

/-- A failed check may be tried again at a moment that is before the deadline for retries. -/
def allowsRetryAt (policy : Policy) (moment : Moment) : Except Fault Bool :=
  match policy.retryDeadline with
  | none => .ok false
  | some deadline =>
    match moment.isBefore? deadline with
    | some before => .ok before
    | none => .error .offsetsDiffer

/-- A failed check may be tried again as long as the clocks of the region in whose time the deadline
is given show less than the deadline. Clocks that are set back show the same time twice. -/
def allowsRetry (policy : Policy) (session : Session) : Except Fault Bool :=
  match policy.retryDeadline with
  | none => .ok false
  | some deadline => do
    let time ← session.timeIn (policy.zone session.clockwork deadline)
    .ok (decide (time < deadline.micros))

end Policy

structure Category where
  id : String
  checkers : List Checker := []
  enabled : Bool := true
  hintBaseUrl : String := ""
  scope : ScopeId
deriving Inhabited

def Category.hintUrl (category : Category) (checker : Checker) : String :=
  category.hintBaseUrl ++ checker.hintAnchor

end Checkup
