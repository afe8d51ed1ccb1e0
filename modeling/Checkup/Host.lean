import Checkup.Fault
import Checkup.Keyed
import Checkup.Time.Duration

/-!
# The host

The host is the machine on which checks run: its environment, its runtime, and the services that
probes ask. How a service answers may depend on how often it has been asked before.
-/

namespace Checkup

/-- The answer of a service, and the seconds that it takes. -/
structure Reply (α : Type) where
  takes : Option Amount := none
  answer : Except Fault α

/-- What probes can see of the machine. Services are asked by a name, and are told how often they
have been asked by that name before. -/
structure Host where
  /-- The variables of the environment, in their order. -/
  environment : List (String × String) := []
  /-- The version of the runtime: three numbers, the stage of the release and its serial number. -/
  runtimeVersion : List Value := [.int 3, .int 11, .int 2, .text "final", .int 0]
  /-- The addresses of a host name. -/
  resolve : String → Nat → Reply (List String) := fun _ _ =>
    { answer := .error (.foreign "gaierror" [.int (-2), .text "Name or service not known"]) }
  /-- Connects to one of the ports of a machine. -/
  connect : String → Nat → Reply Unit := fun _ _ =>
    { answer := .error (.foreign "ConnectionRefusedError" [.int 111, .text "Connection refused"]) }
  /-- The status of the answer to a request. -/
  request : String → Nat → Reply Int := fun _ _ =>
    { answer := .error (.foreign "ConnectError" [.text "connection refused"]) }
  /-- The free bytes of the disk that holds a path. -/
  freeSpace : String → Nat → Reply Int := fun _ _ =>
    { answer := .error
        (.foreign "FileNotFoundError" [.int 2, .text "No such file or directory"]) }
  /-- Why a log file cannot be opened. -/
  logFault : String → Option Fault := fun _ => none
instance : Inhabited Host := ⟨{}⟩

namespace Host

def lookup? (host : Host) (name : String) : Option String :=
  Keyed.get? host.environment name

def setVariables (host : Host) (added : List (String × String)) : Host :=
  { host with environment := Keyed.setAll added host.environment }

end Host

end Checkup
