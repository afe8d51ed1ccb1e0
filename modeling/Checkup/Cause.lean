import Checkup.Fault

/-!
# Chains of causes

Every fault may have a cause and, where it has none, a context in which it arose. Following them
gives a chain, which may lead back to itself; a walk along it ends where it does.
-/

namespace Checkup

/-- A link of a chain of causes: the category of a fault, if it is the fault of one, and the numbers
of its cause and of its context. A cause that counts as nothing is none. -/
structure CauseLink where
  category : Option String := none
  cause : Option Nat := none
  context : Option Nat := none
deriving DecidableEq, Repr

/-- Faults that refer to one another by number. -/
abbrev CauseChain := Array CauseLink

namespace CauseChain

/-- The next fault: the cause, or where there is none the context. -/
def next? (link : CauseLink) : Option Nat :=
  link.cause <|> link.context

/-- The faults of a chain that a walk has not met. -/
def unmet (chain : CauseChain) (met : List Nat) : List Nat :=
  (List.range chain.size).filter (!met.contains ·)

/-- A fault that is met for the first time leaves fewer that have not been met. -/
theorem length_unmet_lt {chain : CauseChain} {met : List Nat} {id : Nat}
    (there : id < chain.size) (fresh : id ∉ met) :
    (chain.unmet (id :: met)).length < (chain.unmet met).length := by
  have fewer : chain.unmet (id :: met) = (chain.unmet met).filter (· ≠ id) := by
    rw [unmet, unmet, List.filter_filter]
    exact List.filter_congr fun other _ => by simp
  rw [fewer, List.length_filter_lt_length_iff_exists]
  exact ⟨id, by simp [unmet, there, fresh], by simp⟩

/-- Walks along a chain to the first fault of a category, and tells whether its category is the
given one. The walk stops at a fault that it has met before. -/
def belongsFrom (chain : CauseChain) (category : String) (met : List Nat) : Option Nat → Bool
  | none => false
  | some id =>
    if again : id ∈ met then false
    else if there : id < chain.size then
      match chain[id].category with
      | some found => found == category
      | none => chain.belongsFrom category (id :: met) (next? chain[id])
    else false
termination_by (chain.unmet met).length
decreasing_by exact length_unmet_lt there again

/-- Tells whether the first fault of a category in a chain is that of the given category. A chain
that leads back to itself without one has none. -/
def belongsTo (chain : CauseChain) (category : String) (start : Option Nat) : Bool :=
  chain.belongsFrom category [] start

/-- Adds a fault with all its causes, and gives its number. -/
def addFault (chain : CauseChain) : Fault → CauseChain × Nat
  | .inCategory category cause =>
    let (chain, id) := addFault chain cause
    (chain.push { category := some category, cause := some id }, chain.size)
  | _ => (chain.push {}, chain.size)

end CauseChain

end Checkup
