import Checkup.Fault

/-!
# Outcomes of a probe

A probe may hand back an outcome, a fault, nothing, or any other value. `classify` brings all of these
into the four outcomes that the engine knows; a value that is none of them is refused.
-/

namespace Checkup

/-- How one call of a probe came out. -/
inductive Outcome where
  /-- The check passed. -/
  | ok
  /-- The check does not apply, and nothing is reported. -/
  | skip (reason : String)
  /-- The check passed, with a detail for its description. -/
  | verbose (detail : String)
  /-- The check failed. -/
  | failure (cause : Fault)
deriving Inhabited, Repr

namespace Outcome

def failed (reason : String) : Outcome :=
  failure (.failed reason)

def fault? : Outcome → Option Fault
  | failure cause => some cause
  | _ => none

/-- The check passed or did not apply. -/
def passed (outcome : Outcome) : Bool :=
  outcome.fault?.isNone

end Outcome

/-- What a probe hands back. -/
inductive Returned where
  | outcome (classified : Outcome)
  | fault (cause : Fault)
  | value (other : Value)
deriving Inhabited, Repr

/-- The outcome that a returned value stands for: nothing is a success, a fault is a failure. -/
def Returned.classify : Returned → Except Fault Outcome
  | outcome classified => .ok classified
  | fault cause => .ok (.failure cause)
  | value .null => .ok .ok
  | value other => .error (.badType ("check returned unsupported value of type " ++ other.kind))

end Checkup
