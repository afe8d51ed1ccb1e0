import Checkup.Fault

/-!
# Results

A result tells how a check stands: passed, failed, or failed and waiting to be tried again.
-/

namespace Checkup

inductive Status where
  | success
  | warning
  | error
deriving DecidableEq, Repr

def Status.name : Status → String
  | success => "success"
  | warning => "warning"
  | error => "error"

/-- The result of one attempt of a check. With `retry` it is provisional, because the check will be
tried again. -/
structure CheckResult where
  category : String
  description : String
  hintUrl : String := ""
  retry : Bool := false
  warning : Bool := false
  fault : Option Fault := none
deriving Inhabited, Repr

/-- A result without a fault is a success; the fault of a check that only warns is a warning. -/
def CheckResult.status (result : CheckResult) : Status :=
  if result.fault.isNone then .success
  else if result.warning then .warning
  else .error

/-- The verdict on several checks: whether none has failed, and whether one has warned. -/
structure Verdict where
  success : Bool := true
  warning : Bool := false
deriving DecidableEq, Repr

namespace Verdict

def fail (verdict : Verdict) (onlyWarns : Bool) : Verdict :=
  if onlyWarns then { verdict with warning := true } else { verdict with success := false }

def take (verdict : Verdict) (result : CheckResult) : Verdict :=
  if result.fault.isSome then verdict.fail result.warning else verdict

end Verdict

end Checkup
