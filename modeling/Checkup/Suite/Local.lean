import Checkup.About
import Checkup.Probe.Network
import Checkup.Probe.System

/-!
# The local suite

Without a suite of its own a check looks at the machine it runs on, and at the hosts and addresses it
is given: first the runtime and the disk, then the network.
-/

namespace Checkup

structure LocalTargets where
  urls : List String := []
  hosts : List String := []
  hintBaseUrl : String := defaultHintBaseUrl
  diskPath : String := "."

namespace LocalTargets

/-- The checks of the machine. A runtime that is too old ends the run; a full disk only warns. -/
def systemCheckers (targets : LocalTargets) (settings : ProbeSettings) :
    Except Fault (List Checker) := do
  let version ← Machine.versionChecker settings.leastVersion { fatal := true }
  .ok [version, Machine.spaceChecker targets.diskPath settings.leastFreeBytes { warning := true }]

/-- The checks of the network: hosts first, then addresses. -/
def networkCheckers (targets : LocalTargets) : List Checker :=
  targets.hosts.map (fun host => Network.resolveChecker host {}) ++
    targets.urls.map fun url =>
      Network.requestChecker (url ++ " is reachable") { url } {} "http-endpoint"

/-- The categories of the local suite. The network is disabled if there is nothing to check. -/
def suite (targets : LocalTargets) : Action (List Category) := do
  let settings ← Action.lift (ProbeSettings.read (← Action.look (·.host.environment)))
  let system ← Action.lift (targets.systemCheckers settings)
  let network := targets.networkCheckers
  let systemScope ← Action.background none
  let networkScope ← Action.background none
  pure
    [{ id := "system"
       checkers := system
       hintBaseUrl := targets.hintBaseUrl
       scope := systemScope },
     { id := "network"
       checkers := network
       enabled := !network.isEmpty
       hintBaseUrl := targets.hintBaseUrl
       scope := networkScope }]

end LocalTargets

end Checkup
