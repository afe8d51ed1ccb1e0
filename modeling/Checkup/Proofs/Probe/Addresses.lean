import Checkup.Proofs.Probe.Storing
import Mathlib.Data.List.Sort
import Mathlib.Data.String.Basic

/-!
# Addresses of a host

A resolver may answer with the addresses of a host in any order, and with some of them more than
once. They are stored in canonical form: in the order of their code points, each once. Main
statement: the check of a host stores exactly the addresses of the answer in canonical form and
names the first three of them, stores nothing if there are none, and does not depend on how the
answer was written.
-/

namespace Checkup.Network

/-- A list of addresses in canonical form: they are the given ones, and each comes before all that
follow it in the order of code points. -/
structure Canonical (addresses sorted : List String) : Prop where
  increasing : sorted.Pairwise (· < ·)
  same : ∀ address, address ∈ sorted ↔ address ∈ addresses

theorem mem_insertDistinct_iff {s address : String} {sorted : List String} :
    address ∈ insertDistinct s sorted ↔ address = s ∨ address ∈ sorted := by
  induction sorted with
  | nil => simp [insertDistinct]
  | cons first later inductionHypothesis =>
    rw [insertDistinct]
    by_cases same : s = first
    · simp [same]
    · by_cases before : s < first
      · simp [same, before]
      · simp [same, before, inductionHypothesis, or_left_comm]

theorem pairwise_insertDistinct {s : String} {sorted : List String}
    (increasing : sorted.Pairwise (· < ·)) : (insertDistinct s sorted).Pairwise (· < ·) := by
  induction sorted with
  | nil => simp [insertDistinct]
  | cons first later inductionHypothesis =>
    obtain ⟨least, increasingLater⟩ := List.pairwise_cons.mp increasing
    rw [insertDistinct]
    by_cases same : s = first
    · simpa [same] using increasing
    · by_cases before : s < first
      · rw [if_neg same, if_pos before, List.pairwise_cons]
        refine ⟨?_, increasing⟩
        intro address member
        rcases List.mem_cons.mp member with rfl | member
        · exact before
        · exact before.trans (least address member)
      · rw [if_neg same, if_neg before, List.pairwise_cons]
        refine ⟨?_, inductionHypothesis increasingLater⟩
        intro address member
        rcases mem_insertDistinct_iff.mp member with rfl | member
        · exact (lt_or_gt_of_ne same).resolve_left before
        · exact least address member

/-- Putting more addresses where they belong, one after the other, keeps the canonical form. -/
theorem Canonical.foldl {addresses sorted : List String} (canonical : Canonical addresses sorted)
    (more : List String) :
    Canonical (addresses ++ more)
      (more.foldl (fun sorted s => insertDistinct s sorted) sorted) := by
  induction more generalizing addresses sorted with
  | nil => simpa using canonical
  | cons s more inductionHypothesis =>
    have grown : Canonical (addresses ++ [s]) (insertDistinct s sorted) := by
      refine ⟨pairwise_insertDistinct canonical.increasing, ?_⟩
      intro address
      simp [mem_insertDistinct_iff, canonical.same, or_comm]
    simpa using inductionHypothesis grown

theorem canonical_sortedDistinct (addresses : List String) :
    Canonical addresses (sortedDistinct addresses) := by
  have empty : Canonical [] [] := ⟨List.Pairwise.nil, fun address => Iff.rfl⟩
  exact empty.foldl addresses

/-- Lists with the same addresses have one canonical form. -/
theorem Canonical.unique {addresses others sorted otherwise : List String}
    (canonical : Canonical addresses sorted) (other : Canonical others otherwise)
    (same : ∀ address, address ∈ addresses ↔ address ∈ others) : sorted = otherwise := by
  apply canonical.increasing.eq_of_mem_iff other.increasing
  intro address
  rw [canonical.same, other.same, same]

/-- What a check of a host comes to: what it returns, and the store that it leaves. -/
def comesTo (host : String) (stored : Bool) (scope : ScopeId) (session : Session) :
    Except Fault Returned × Store :=
  ((resolve host stored scope session).1, (resolve host stored scope session).2.store)

/-- Pausing and asking leave the store as it was: what a check comes to is judged by the answer
alone. -/
theorem comesTo_eq {host : String} {stored : Bool} {scope : ScopeId} {session : Session}
    (undone : (Action.askDone scope session).1 = .ok false) :
    comesTo host stored scope session =
      match (lookUp host session).1 with
      | .error fault =>
        (if fault.isA .unresolvedName then
            .ok (.outcome (.failed ("DNS resolution failed for " ++ host ++ ": " ++ fault.message)))
          else .error fault,
          session.store)
      | .ok addresses =>
        if (sortedDistinct addresses).isEmpty then
          (.ok (.outcome (.failed ("DNS resolution returned no addresses for " ++ host))),
            session.store)
        else
          (.ok (.outcome (.verbose
              ("Resolved to " ++ String.intercalate ", " ((sortedDistinct addresses).take 3)))),
            if stored then session.store.set (addressesKey host) (learned addresses)
            else session.store) := by
  obtain ⟨looked, found, rests⟩ := Action.exists_askDone_eq undone
  have kept := Session.sameStore_onward.goOn rests.paused.sameStore
    (lookUp_sameStore host looked.paused)
  rw [← lookUp_answer rests.paused, comesTo, resolve_eq found]
  rcases asked : lookUp host looked.paused with ⟨answer, after⟩
  rw [asked] at kept
  have sameStore : after.store = session.store := kept
  cases answer with
  | error fault => cases unresolved : fault.isA .unresolvedName <;> simp [unresolved, sameStore]
  | ok addresses =>
    cases empty : (sortedDistinct addresses).isEmpty <;> cases stored <;>
      simp [empty, sameStore, keeping]

theorem comesTo_of_answer {host : String} {stored : Bool} {scope : ScopeId} {session : Session}
    {addresses : List String} (undone : (Action.askDone scope session).1 = .ok false)
    (answered : (lookUp host session).1 = .ok addresses) (filled : addresses ≠ []) :
    comesTo host stored scope session =
      (.ok (.outcome (.verbose
          ("Resolved to " ++ String.intercalate ", " ((sortedDistinct addresses).take 3)))),
        if stored then session.store.set (addressesKey host) (learned addresses)
        else session.store) := by
  have some := List.isEmpty_eq_false_iff.mpr (sortedDistinct_ne_nil filled)
  simp [comesTo_eq undone, answered, some]

theorem comesTo_of_empty {host : String} {stored : Bool} {scope : ScopeId} {session : Session}
    (undone : (Action.askDone scope session).1 = .ok false)
    (answered : (lookUp host session).1 = .ok []) :
    comesTo host stored scope session =
      (.ok (.outcome (.failed ("DNS resolution returned no addresses for " ++ host))),
        session.store) := by
  rw [comesTo_eq undone, answered]
  rfl

theorem comesTo_of_fault {host : String} {stored : Bool} {scope : ScopeId} {session : Session}
    {fault : Fault} (undone : (Action.askDone scope session).1 = .ok false)
    (broken : (lookUp host session).1 = .error fault) :
    comesTo host stored scope session =
      (if fault.isA .unresolvedName then
          .ok (.outcome (.failed ("DNS resolution failed for " ++ host ++ ": " ++ fault.message)))
        else .error fault,
        session.store) := by
  rw [comesTo_eq undone, broken]

/-- In a scope that is not found done, the check of a host stores the addresses of the answer in
canonical form and names the first three of them. If there are none it fails, and if the resolver
ends in a fault it fails or ends in that fault; either way it stores nothing. Two answers with the
same addresses come to the same, wherever, in whatever order and however often they were given. -/
theorem resolve_canonical {host : String} {scope : ScopeId} {session : Session} (stored : Bool)
    (undone : (Action.askDone scope session).1 = .ok false) :
    (∀ addresses, (lookUp host session).1 = .ok addresses → addresses ≠ [] →
      ∃ sorted, Canonical addresses sorted ∧
        comesTo host stored scope session =
          (.ok (.outcome (.verbose
              ("Resolved to " ++ String.intercalate ", " (sorted.take 3)))),
            if stored then
              session.store.set ("dns:" ++ host) (.list (sorted.map .text))
            else session.store)) ∧
      ((lookUp host session).1 = .ok [] →
        comesTo host stored scope session =
          (.ok (.outcome (.failed ("DNS resolution returned no addresses for " ++ host))),
            session.store)) ∧
      (∀ fault, (lookUp host session).1 = .error fault →
        comesTo host stored scope session =
          (if fault.isA .unresolvedName then
              .ok (.outcome
                (.failed ("DNS resolution failed for " ++ host ++ ": " ++ fault.message)))
            else .error fault,
            session.store)) ∧
      ∀ (place : ScopeId) (other : Session) (addresses others : List String),
        (Action.askDone place other).1 = .ok false → other.store = session.store →
          (lookUp host session).1 = .ok addresses → (lookUp host other).1 = .ok others →
            (∀ address, address ∈ addresses ↔ address ∈ others) →
              comesTo host stored place other = comesTo host stored scope session := by
  refine ⟨?_, comesTo_of_empty undone, fun fault => comesTo_of_fault undone, ?_⟩
  · intro addresses answered filled
    exact ⟨sortedDistinct addresses, canonical_sortedDistinct addresses,
      comesTo_of_answer undone answered filled⟩
  · intro place other addresses others undoneThere sameStore answered answeredThere same
    cases addresses with
    | nil =>
      have empty : others = [] := by
        rw [List.eq_nil_iff_forall_not_mem]
        exact fun address member => List.not_mem_nil ((same address).mpr member)
      subst empty
      rw [comesTo_of_empty undone answered, comesTo_of_empty undoneThere answeredThere, sameStore]
    | cons first later =>
      have filled : others ≠ [] := List.ne_nil_of_mem ((same first).mp List.mem_cons_self)
      have one : sortedDistinct others = sortedDistinct (first :: later) :=
        ((canonical_sortedDistinct _).unique (canonical_sortedDistinct others) same).symm
      rw [comesTo_of_answer undone answered (List.cons_ne_nil first later),
        comesTo_of_answer undoneThere answeredThere filled, learned, learned, one, sameStore]

/-- A session with one scope, whose resolver gives the same answer to every host's name. -/
def answering (addresses : List String) : Session :=
  { scopes := ⟨#[{}]⟩
    host := { resolve := fun _ _ => { answer := .ok addresses } } }

/-- A resolver gives an address twice, and another one gives the same addresses in order. -/
theorem answering_canonical :
    comesTo "db" true 0 (answering ["10.0.0.2", "10.0.0.1", "10.0.0.2"]) =
        (.ok (.outcome (.verbose "Resolved to 10.0.0.1, 10.0.0.2")),
          ({} : Store).set "dns:db" (.list [.text "10.0.0.1", .text "10.0.0.2"])) ∧
      comesTo "db" true 0 (answering ["10.0.0.1", "10.0.0.2"]) =
        comesTo "db" true 0 (answering ["10.0.0.2", "10.0.0.1", "10.0.0.2"]) := by
  have undone : (Action.askDone 0 (answering ["10.0.0.2", "10.0.0.1", "10.0.0.2"])).1 = .ok false :=
    Action.askDone_of_not_isDone rfl rfl
  obtain ⟨filled, _, _, same⟩ := @resolve_canonical "db" 0 _ true undone
  refine ⟨?_, ?_⟩
  · obtain ⟨sorted, canonical, comes⟩ := filled _ rfl (List.cons_ne_nil _ _)
    have two : Canonical ["10.0.0.2", "10.0.0.1", "10.0.0.2"] ["10.0.0.1", "10.0.0.2"] :=
      ⟨by decide, fun address => by simp; tauto⟩
    rw [comes, canonical.unique two fun _ => Iff.rfl]
    rfl
  · exact same 0 _ _ _ rfl rfl rfl rfl fun address => by simp; tauto

end Checkup.Network
