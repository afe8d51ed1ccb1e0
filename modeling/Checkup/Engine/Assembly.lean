import Checkup.Engine.Suite
import Checkup.Session.Defaults

/-!
# Making engines

An engine is made with the configuration that it is given, or else with that of the session. It
keeps this configuration, whatever becomes of that of the session.
-/

namespace Checkup.Engine

/-- The configuration that is given, or else that of the session. -/
def choose : Option Configuration → Action Configuration
  | some configuration => pure configuration
  | none => Action.configuration

/-- Makes an engine for categories. A configuration that cannot be used is refused. -/
def make (categories : List Category) (given : Option Configuration) : Action Engine := do
  let chosen ← choose given
  let configuration ← Action.lift chosen.validate
  pure { categories, configuration }

end Checkup.Engine
