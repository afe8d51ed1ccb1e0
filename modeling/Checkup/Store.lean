import Checkup.Keyed
import Checkup.Value

/-!
# The shared store

Probes leave values for later probes under names. Nothing is ever removed.
-/

namespace Checkup

/-- Named values, in the order in which the names were first set. -/
structure Store where
  entries : List (String × Value) := []
deriving Inhabited, Repr

namespace Store

def get? (store : Store) (key : String) : Option Value :=
  Keyed.get? store.entries key

def contains (store : Store) (key : String) : Bool :=
  Keyed.contains store.entries key

def set (store : Store) (key : String) (value : Value) : Store :=
  ⟨Keyed.set key value store.entries⟩

end Store

end Checkup
