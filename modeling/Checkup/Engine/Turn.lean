import Checkup.Checker

/-!
# One attempt of a check

An attempt calls the probe in a scope of its own, which is detached afterwards. A failed attempt may
be followed by another one; then its result is provisional. A skipped check has no result.
-/

namespace Checkup

/-- Somebody who is told of every result. -/
abbrev Observer := CheckResult → Action Unit

/-- The outcome of an ordinary fault is a failure; other faults go on. -/
def Outcome.ofAnswer (answer : Except Fault Outcome) : Except Fault Outcome :=
  match answer with
  | .ok outcome => .ok outcome
  | .error fault => if fault.isOrdinary then .ok (.failure fault) else .error fault

namespace Category

/-- Notes in the log that a probe has raised an ordinary fault. -/
def logRaised (category : Category) (checker : Checker) (answer : Except Fault Outcome) :
    Action Unit :=
  match answer with
  | .ok _ => pure ()
  | .error fault =>
    if fault.isOrdinary then
      Action.log .warning "check_raised"
        [("category", .text category.id), ("check", .text checker.description),
          ("error", .text fault.message), ("exception", .flag true)]
    else pure ()

/-- Calls a probe in a scope that expires after the timeout, and detaches the scope. -/
def attempt (category : Category) (checker : Checker) (timeout : Duration) (probe : Probe) :
    Action Outcome := do
  let scope ← Action.underFor category.scope timeout.seconds
  let answer ← Action.settle do
    let returned ← probe scope
    Action.lift returned.classify
  category.logRaised checker answer
  Action.release scope
  Action.lift (Outcome.ofAnswer answer)

/-- A failed check is tried again as long as the category's scope is not done and the checker's
policy allows it. -/
def allowsRetry (category : Category) (checker : Checker) (session : Session) :
    Except Fault Bool :=
  if session.isDone category.scope then .ok false else checker.policy.allowsRetry session

/-- An attempt is followed by another one if it failed and the check may be tried again. -/
def retries (category : Category) (checker : Checker) (outcome : Outcome) (session : Session) :
    Except Fault Bool :=
  if outcome.passed then .ok false else category.allowsRetry checker session

/-- What a failed attempt shows: its fault in its category, or while the check is tried again that
the check is pending, unless the policy says otherwise. -/
def shownFault (category : Category) (checker : Checker) (retry : Bool) (cause : Fault) : Fault :=
  if retry && !checker.policy.surfaceFault then .pending [] else .inCategory category.id cause

def result (category : Category) (checker : Checker) (description : String) (retry : Bool)
    (fault : Option Fault) : CheckResult :=
  { category := category.id
    description
    hintUrl := category.hintUrl checker
    retry
    warning := checker.policy.warning
    fault }

def resultOf? (category : Category) (checker : Checker) (retry : Bool) :
    Outcome → Option CheckResult
  | .skip _ => none
  | .ok => some (category.result checker checker.description retry none)
  | .verbose detail =>
    some (category.result checker (checker.description ++ "\n" ++ detail) retry none)
  | .failure cause =>
    some (category.result checker checker.description retry
      (some (category.shownFault checker retry cause)))

/-- Notes in the log that a check was skipped or will be tried again. -/
def logOutcome (category : Category) (checker : Checker) (number : Nat) (retry : Bool) :
    Outcome → Action Unit
  | .skip reason =>
    Action.log .debug "check_skipped"
      [("category", .text category.id), ("check", .text checker.description),
        ("reason", .text reason)]
  | .failure cause =>
    if retry then
      Action.log .debug "check_retry_scheduled"
        [("category", .text category.id), ("check", .text checker.description),
          ("attempt", .int number), ("error", .text cause.message)]
    else pure ()
  | _ => pure ()

/-- Tells the observer of an outcome, and before another attempt waits for the retry window. -/
def deliver (category : Category) (checker : Checker) (observer : Observer)
    (retryWindow : Duration) (number : Nat) (outcome : Outcome) (retry : Bool) : Action Unit := do
  category.logOutcome checker number retry outcome
  match category.resultOf? checker retry outcome with
  | some result => observer result
  | none => pure ()
  if retry then
    let _ ← Action.wait category.scope retryWindow.seconds
    pure ()

end Category

/-- An attempt that was made: how it came out, when it started and ended, and the result that the
observer was told. -/
structure Turn where
  outcome : Outcome
  startedAt : Int
  endedAt : Int
  result : Option CheckResult
deriving Repr

end Checkup
