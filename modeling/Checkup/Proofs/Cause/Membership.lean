import Checkup.Cause
import Mathlib.Data.Nat.Find

/-!
# Membership in a chain of causes

A chain of causes holds a fault of a category if following causes, and contexts where there are no
causes, leads to one. Main statement: a walk along a chain ends, also if the chain leads back to
itself, and finds a fault of a category exactly if the chain holds one that no fault of another
category covers.
-/

namespace Checkup

/-- The categories that a fault was marked with, the last one first. -/
def Fault.categories : Fault → List String
  | inCategory category cause => category :: cause.categories
  | _ => []

namespace CauseChain

variable {chain : CauseChain} {category found : String} {start : Option Nat}

/-- The category of the fault to which a number of steps along a chain leads, if they lead to a
fault and it is the fault of a category. -/
def categoryAfter (chain : CauseChain) : Nat → Option Nat → Option String
  | 0, start => start.bind fun id => chain[id]?.bind (·.category)
  | steps + 1, start => chain.categoryAfter steps (start.bind fun id => chain[id]?.bind next?)

/-- A fault of a category is on a chain, after any number of steps. -/
def Holds (chain : CauseChain) (category : String) (start : Option Nat) : Prop :=
  ∃ steps, chain.categoryAfter steps start = some category

/-- The first fault on a chain that is the fault of a category, and the steps that lead to it. -/
structure Surfaces (chain : CauseChain) (steps : Nat) (found : String) (start : Option Nat) :
    Prop where
  reached : chain.categoryAfter steps start = some found
  first : ∀ before < steps, chain.categoryAfter before start = none

/-- The first fault of a category on a chain is that of another category than the given one. -/
def Covered (chain : CauseChain) (category : String) (start : Option Nat) : Prop :=
  ∃ steps other, chain.Surfaces steps other start ∧ other ≠ category

theorem Surfaces.unique {steps others : Nat} {other : String}
    (surfaces : chain.Surfaces steps found start) (later : chain.Surfaces others other start) :
    steps = others ∧ found = other := by
  have same : steps = others := by
    rcases Nat.lt_trichotomy steps others with earlier | same | earlier
    · cases surfaces.reached.symm.trans (later.first steps earlier)
    · exact same
    · cases later.reached.symm.trans (surfaces.first others earlier)
  subst same
  exact ⟨rfl, Option.some.inj (surfaces.reached.symm.trans later.reached)⟩

/-- A chain that holds a fault of some category has a first one. -/
theorem Holds.exists_surfaces (holds : chain.Holds category start) :
    ∃ steps found, chain.Surfaces steps found start := by
  have marked : ∃ steps, (chain.categoryAfter steps start).isSome = true := by
    obtain ⟨steps, reached⟩ := holds
    exact ⟨steps, by simp [reached]⟩
  obtain ⟨found, reached⟩ := Option.isSome_iff_exists.mp (Nat.find_spec marked)
  refine ⟨Nat.find marked, found, reached, ?_⟩
  intro before earlier
  simpa using Nat.find_min marked earlier

theorem surfaces_zero_iff {id : Nat} {link : CauseLink} (there : chain[id]? = some link) :
    chain.Surfaces 0 found (some id) ↔ link.category = some found := by
  constructor
  · intro surfaces
    simpa [categoryAfter, there] using surfaces.reached
  · intro marked
    exact ⟨by simp [categoryAfter, there, marked], fun before earlier => by omega⟩

theorem surfaces_succ_iff {id steps : Nat} {link : CauseLink} (there : chain[id]? = some link) :
    chain.Surfaces (steps + 1) found (some id) ↔
      link.category = none ∧ chain.Surfaces steps found (next? link) := by
  constructor
  · intro surfaces
    refine ⟨by simpa [categoryAfter, there] using surfaces.first 0 (Nat.zero_lt_succ steps), ?_, ?_⟩
    · simpa [categoryAfter, there] using surfaces.reached
    · intro before earlier
      simpa [categoryAfter, there] using surfaces.first (before + 1) (Nat.succ_lt_succ earlier)
  · rintro ⟨unmarked, reached, first⟩
    refine ⟨by simpa [categoryAfter, there] using reached, ?_⟩
    intro before earlier
    cases before with
    | zero => simpa [categoryAfter, there] using unmarked
    | succ before =>
      simpa [categoryAfter, there] using first before (Nat.lt_of_succ_lt_succ earlier)

theorem categoryAfter_none (steps : Nat) : chain.categoryAfter steps none = none := by
  induction steps with
  | zero => rfl
  | succ steps inductionHypothesis => exact inductionHypothesis

theorem Surfaces.exists_link {steps : Nat} (surfaces : chain.Surfaces steps found start) :
    ∃ id link, start = some id ∧ chain[id]? = some link := by
  have reached := surfaces.reached
  cases start with
  | none => cases (categoryAfter_none steps).symm.trans reached
  | some id =>
    cases there : chain[id]? with
    | some link => exact ⟨id, link, rfl, there⟩
    | none => cases steps <;> simp [categoryAfter, there, categoryAfter_none] at reached

/-- A walk that finds a fault of a category has come to the first fault of any. -/
theorem exists_surfaces_of_belongsFrom {met : List Nat}
    (belongs : chain.belongsFrom category met start = true) :
    ∃ steps, chain.Surfaces steps category start := by
  fun_induction belongsFrom chain category met start with
  | case1 => cases belongs
  | case2 => cases belongs
  | case3 met id fresh there marked is =>
    obtain rfl := beq_iff_eq.mp belongs
    exact ⟨0, (surfaces_zero_iff (Array.getElem?_eq_getElem there)).mpr is⟩
  | case4 met id fresh there unmarked inductionHypothesis =>
    obtain ⟨steps, surfaces⟩ := inductionHypothesis belongs
    have link := Array.getElem?_eq_getElem there
    exact ⟨steps + 1, (surfaces_succ_iff link).mpr ⟨unmarked, surfaces⟩⟩
  | case5 => cases belongs

/-- A walk comes to the first fault of any category. What it has met before does not stop it, since
the way from there is longer. -/
theorem belongsFrom_of_surfaces {steps : Nat} (surfaces : chain.Surfaces steps category start)
    {met : List Nat}
    (behind : ∀ id ∈ met, ∀ more, chain.Surfaces more category (some id) → steps < more) :
    chain.belongsFrom category met start = true := by
  induction steps generalizing start met with
  | zero =>
    obtain ⟨id, link, rfl, there⟩ := surfaces.exists_link
    have fresh : id ∉ met := fun again => Nat.lt_irrefl 0 (behind id again 0 surfaces)
    have marked := (surfaces_zero_iff there).mp surfaces
    obtain ⟨inside, rfl⟩ := Array.getElem?_eq_some_iff.mp there
    rw [belongsFrom]
    simp [fresh, inside, marked]
  | succ steps inductionHypothesis =>
    obtain ⟨id, link, rfl, there⟩ := surfaces.exists_link
    have fresh : id ∉ met := fun again => Nat.lt_irrefl _ (behind id again (steps + 1) surfaces)
    obtain ⟨unmarked, onward⟩ := (surfaces_succ_iff there).mp surfaces
    have walked : chain.belongsFrom category (id :: met) (next? link) = true := by
      apply inductionHypothesis onward
      intro other passed more farther
      rcases List.mem_cons.mp passed with rfl | earlier
      · have same := (surfaces.unique farther).1
        omega
      · have longer := behind other earlier more farther
        omega
    obtain ⟨inside, rfl⟩ := Array.getElem?_eq_some_iff.mp there
    rw [belongsFrom]
    simpa [fresh, inside, unmarked] using walked

/-- A walk finds the given category exactly if that is the one of the first fault of any. -/
theorem belongsTo_iff_surfaces :
    chain.belongsTo category start = true ↔ ∃ steps, chain.Surfaces steps category start := by
  constructor
  · exact exists_surfaces_of_belongsFrom
  · rintro ⟨steps, surfaces⟩
    exact belongsFrom_of_surfaces surfaces fun id met => absurd met List.not_mem_nil

/-- Whatever a chain is like and wherever a walk starts, it ends, and tells that a fault belongs to
a category exactly if the chain holds a fault of it and none of another category comes before. -/
theorem belongsTo_iff (chain : CauseChain) (category : String) (start : Option Nat) :
    chain.belongsTo category start = true ↔
      chain.Holds category start ∧ ¬chain.Covered category start := by
  rw [belongsTo_iff_surfaces]
  constructor
  · rintro ⟨steps, surfaces⟩
    refine ⟨⟨steps, surfaces.reached⟩, ?_⟩
    rintro ⟨others, other, before, different⟩
    exact different (before.unique surfaces).2
  · rintro ⟨holds, uncovered⟩
    obtain ⟨steps, found, surfaces⟩ := holds.exists_surfaces
    have same : found = category := by
      by_contra different
      exact uncovered ⟨steps, found, surfaces, different⟩
    exact ⟨steps, same ▸ surfaces⟩

/-- The faults that were added with a fault lead through its categories, the outermost first, also
when other faults are added later. -/
theorem categoryAfter_addFault (chain : CauseChain) (fault : Fault) {larger : CauseChain}
    (kept : ∀ id < (chain.addFault fault).1.size, larger[id]? = (chain.addFault fault).1[id]?)
    (steps : Nat) :
    larger.categoryAfter steps (some (chain.addFault fault).2) = fault.categories[steps]? := by
  induction fault generalizing larger steps with
  | inCategory category cause inductionHypothesis =>
    have grown : (chain.addFault (.inCategory category cause)).1.size =
        (chain.addFault cause).1.size + 1 := by
      simp [addFault]
    have link : larger[(chain.addFault cause).1.size]? =
        some { category := some category, cause := some (chain.addFault cause).2 } := by
      rw [kept _ (by omega)]
      simp [addFault]
    have keptBefore : ∀ id < (chain.addFault cause).1.size,
        larger[id]? = (chain.addFault cause).1[id]? := by
      intro id before
      rw [kept id (by omega)]
      simp [addFault, Array.getElem?_push, Nat.ne_of_lt before]
    cases steps with
    | zero => simp [categoryAfter, addFault, link, Fault.categories]
    | succ steps =>
      have onward := inductionHypothesis keptBefore steps
      simpa [categoryAfter, addFault, link, next?, Fault.categories] using onward
  | _ =>
    have link : larger[chain.size]? = some {} := by
      rw [kept _ (by simp [addFault])]
      simp [addFault]
    cases steps with
    | zero => simp [categoryAfter, addFault, link, Fault.categories]
    | succ steps =>
      simp [categoryAfter, addFault, link, next?, Fault.categories, categoryAfter_none]

theorem holds_addFault_iff (chain : CauseChain) (fault : Fault) :
    (chain.addFault fault).1.Holds category (some (chain.addFault fault).2) ↔
      category ∈ fault.categories := by
  simp only [Holds, categoryAfter_addFault chain fault fun _ _ => rfl, List.mem_iff_getElem?]

/-- A fault that was marked with several categories, one after the other, belongs to the one that it
was marked with last. -/
theorem belongsTo_addFault_iff (chain : CauseChain) (fault : Fault) :
    (chain.addFault fault).1.belongsTo category (some (chain.addFault fault).2) = true ↔
      fault.categories.head? = some category := by
  have along := categoryAfter_addFault chain fault (fun _ _ => rfl)
  rw [belongsTo_iff_surfaces, List.head?_eq_getElem?, ← along]
  constructor
  · rintro ⟨steps, reached, first⟩
    cases steps with
    | zero => exact reached
    | succ steps =>
      have unmarked := first 0 (Nat.zero_lt_succ steps)
      rw [along] at unmarked reached
      have empty : fault.categories = [] :=
        List.length_eq_zero_iff.mp (Nat.le_zero.mp (List.getElem?_eq_none_iff.mp unmarked))
      simp [empty] at reached
  · intro outermost
    exact ⟨0, outermost, fun before earlier => absurd earlier (Nat.not_lt_zero before)⟩

/-- A fault of the storage that the network's check reports as its own. -/
def reported : Fault :=
  .inCategory "network" (.inCategory "storage" (.failed "volume is detached"))

/-- The fault of the storage is on the chain and is not found. -/
theorem reported_missed :
    (addFault #[] reported).1.Holds "storage" (some (addFault #[] reported).2) ∧
      (addFault #[] reported).1.belongsTo "storage" (some (addFault #[] reported).2) = false := by
  constructor
  · rw [holds_addFault_iff]
    simp [reported, Fault.categories]
  · rw [Bool.eq_false_iff, Ne, belongsTo_addFault_iff]
    simp [reported, Fault.categories]

end CauseChain

end Checkup
