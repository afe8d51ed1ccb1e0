import Checkup.Time.Zone

/-!
# Clockworks

What a machine does with time beyond counting it: where it is, how long it lets a program wait, and
how much time it takes for itself while a program runs.
-/

namespace Checkup

structure Clockwork where
  /-- The region in whose time the machine shows moments without an offset. -/
  region : Zone := .fixed 0
  /-- The most seconds that a wait may be asked to take. -/
  longestWait : Option Float := some 9223372036
  /-- The microseconds that pass before a probe does something for the n-th time. -/
  pause : Nat → Nat := fun _ => 0
deriving Inhabited

end Checkup
