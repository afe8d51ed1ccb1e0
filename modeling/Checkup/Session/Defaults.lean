import Checkup.Session.Basic

/-!
# The session's configuration

Engines that are given no configuration start from that of the session. It comes from the
environment when it is first needed, is valid, and changes as a whole or not at all.
-/

namespace Checkup.Action

def keepConfiguration (configuration : Configuration) : Action Unit :=
  change fun session => { session with configuration := some configuration }

/-- The configuration of the session; the first time it is made from the environment. -/
def configuration : Action Configuration := do
  match ← look (·.configuration) with
  | some configuration => pure configuration
  | none =>
    let environment ← look (·.host.environment)
    let built ← lift (Configuration.build environment none none)
    let configuration ← lift built.validate
    keepConfiguration configuration
    pure configuration

def resetConfiguration : Action Unit :=
  change fun session => { session with configuration := none }

/-- Changes the times that are given in the configuration of the session. -/
def configure (retryWindow timeout : Option Span) : Action Unit := do
  let current ← configuration
  let adjusted ← lift (current.adjust retryWindow timeout)
  keepConfiguration (← lift adjusted.validate)

/-- Sets the timeout of the session's configuration as it is, valid or not. -/
def overrideTimeout (timeout : Duration) : Action Unit := do
  let current ← configuration
  keepConfiguration { current with timeout }

def configurationOfSeconds (retryWindow timeout : Option Amount) : Action Configuration := do
  let environment ← look (·.host.environment)
  lift (Configuration.ofSeconds environment retryWindow timeout)

def configureLog (setup : Log.Setup) : Action Log.Level := fun session =>
  let (answer, desk) := session.desk.configure session.host.logFault setup
  (answer, { session with desk })

end Checkup.Action
