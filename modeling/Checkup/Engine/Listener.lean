import Checkup.Engine.Turn

/-!
# Listeners

A listener is an observer that notes every result in the journal. At results of given numbers it
cancels a scope or raises a fault.
-/

namespace Checkup

/-- What a listener does, by the number of the result it is told, counted from 1. -/
structure Listener where
  cancels : List (Nat × String) := []
  raises : List (Nat × Fault) := []

namespace Action

def named (name : String) : Action ScopeId := do
  match ← look (·.named? name) with
  | some id => pure id
  | none => raise (.missingKey name)

def observe (result : CheckResult) : Action Unit := do
  note (.observed result (← now))

end Action

def entryAt? (number : Nat) (entries : List (Nat × α)) : Option α :=
  (entries.find? (·.1 == number)).map (·.2)

/-- The observer of a listener that counts results under a script number. -/
def Listener.observer (listener : Listener) (script : Nat) : Observer := fun result => do
  let number := (← Action.ordinal (.script script)) + 1
  Action.observe result
  match entryAt? number listener.cancels with
  | some name => Action.cancel (← Action.named name)
  | none => pure ()
  match entryAt? number listener.raises with
  | some fault => Action.raise fault
  | none => pure ()

end Checkup
