import Checkup.Result
import Checkup.Literal

/-!
# The journal

The journal keeps what a run did that others can notice: the calls to services of the host, the calls
of probes, and the results that were observed.
-/

namespace Checkup

inductive Call where
  | resolve (host : String)
  | connect (host : String) (portNumber : Int) (timeout : Float)
  | request (method url : String) (timeout : Float) (headers : Option (List (String × String)))
      (followRedirects : Bool)
  | freeSpace (path : String)
deriving Repr

/-- How a scope stands at some instant. -/
structure ScopeView where
  deadline : Option Float
  cancelled : Bool
  expired : Bool
  /-- Why the scope is done, if it is. -/
  fault : Option Fault
  /-- The seconds left until the deadline. -/
  remaining : Option Float
deriving Repr

def ScopeView.done (view : ScopeView) : Bool :=
  view.cancelled || view.expired

def truthWord (b : Bool) : String := (Value.flag b).literal

def ScopeView.toText (view : ScopeView) : String :=
  "ExecutionContext(deadline=" ++ (view.deadline.elim Value.null Value.real).literal ++
    ", cancelled=" ++ truthWord view.cancelled ++ ", expired=" ++ truthWord view.expired ++ ")"

inductive Sight where
  | value (value : Value)
  | scope (view : ScopeView)
deriving Repr

inductive Entry where
  | called (call : Call)
  | probed (description : String) (attempt : Nat) (second : Float) (seen : Option (List Sight))
  | observed (result : CheckResult) (second : Float)
deriving Repr

end Checkup
