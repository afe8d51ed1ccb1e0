import Checkup.Proofs.Scope.Growth

/-!
# Scopes that were detached

A detached scope is attached to nothing any more. Main statements: it stays so, and cancelling
another scope does not reach it; where all that was made has been detached, scopes have the children
that they had before, apart from those that were detached as well.
-/

namespace Checkup.Scopes

theorem Attached.lt_size {scopes : Scopes} {parent child : ScopeId}
    (attached : scopes.Attached parent child) : child < scopes.all.size := by
  obtain ⟨scope, found, _⟩ := attached
  exact lt_size_of_get? found

theorem AgeTo.attached {scopes later : Scopes} {parent child : ScopeId} (age : scopes.AgeTo later)
    (known : child < scopes.all.size) (attached : later.Attached parent child) :
    scopes.Attached parent child := by
  obtain ⟨scope, found⟩ := exists_get? known
  obtain ⟨now, foundToo, ages⟩ := age child scope found
  obtain ⟨other, foundOther, has, made⟩ := attached
  rw [foundToo] at foundOther
  cases foundOther
  exact ⟨scope, found, ages.attached has, ages.parent ▸ made⟩

theorem Loose.ageTo {scopes later : Scopes} {id : ScopeId} (loose : scopes.Loose id)
    (known : id < scopes.all.size) (age : scopes.AgeTo later) : later.Loose id :=
  fun parent attached => loose parent (age.attached known attached)

theorem loose_of_size_le {scopes : Scopes} {id : ScopeId} (unknown : scopes.all.size ≤ id) :
    scopes.Loose id :=
  fun _ attached => Nat.not_lt_of_le unknown attached.lt_size

theorem loose_release (scopes : Scopes) (id : ScopeId) : (scopes.release id).Loose id := by
  rintro parent ⟨scope, found, has, _⟩
  rw [get?_release, Option.map_eq_some_iff] at found
  obtain ⟨before, _, rfl⟩ := found
  rw [if_pos rfl] at has
  cases has

theorem attached_release {scopes : Scopes} {released parent child : ScopeId}
    (attached : scopes.Attached parent child) (other : released ≠ child) :
    (scopes.release released).Attached parent child := by
  obtain ⟨scope, found, has, made⟩ := attached
  refine ⟨scope, ?_, has, made⟩
  rw [get?_release, found, Option.map_some, if_neg other]

/-- No walk comes to a scope that is attached to nothing, unless it starts there. -/
theorem Loose.eq_of_mem_below {scopes : Scopes} {top id : ScopeId} (loose : scopes.Loose id)
    (member : id ∈ scopes.below top) : id = top := by
  induction top using Scopes.below.induct scopes with
  | case1 top inductionHypothesis =>
    rw [below_eq, List.mem_cons, List.mem_flatMap] at member
    rcases member with same | ⟨child, childMember, member⟩
    · exact same
    · have same := inductionHypothesis child childMember member
      subst same
      exact absurd (mem_children.mp childMember).2 (loose top)

theorem Loose.get?_cancel {scopes : Scopes} {top id : ScopeId} (loose : scopes.Loose id)
    (other : id ≠ top) : (scopes.cancel top).get? id = scopes.get? id :=
  get?_cancel_of_not_mem fun member => other (loose.eq_of_mem_below member)

theorem below_newest {scopes : Scopes} {id : ScopeId} (newest : scopes.all.size ≤ id + 1) :
    scopes.below id = [id] := by
  have none : scopes.children id = [] := by
    rw [children, Nat.sub_eq_zero_of_le newest]
    rfl
  rw [below_eq, none, List.flatMap_nil]

theorem get?_cancel_newest {scopes : Scopes} {top id : ScopeId}
    (newest : scopes.all.size ≤ top + 1) (other : id ≠ top) :
    (scopes.cancel top).get? id = scopes.get? id := by
  refine get?_cancel_of_not_mem ?_
  rw [below_newest newest, List.mem_singleton]
  exact other

def Holds (before after : Scopes) : Prop :=
  ∀ parent child, before.Attached parent child → after.Attached parent child

theorem Cancels.holds {scopes later : Scopes} (cancels : scopes.Cancels later) :
    scopes.Holds later := by
  intro parent child attached
  induction cancels with
  | refl => exact attached
  | tail before cancels inductionHypothesis =>
    obtain ⟨id, rfl⟩ := cancels
    exact attached_cancel.mpr inductionHypothesis

/-- All that was made is detached again. -/
structure Settles (before after : Scopes) : Prop where
  ages : before.AgeTo after
  loose : ∀ id, before.all.size ≤ id → after.Loose id

theorem Settles.trans {first second third : Scopes} (settles : first.Settles second)
    (settlesToo : second.Settles third) : first.Settles third where
  ages := settles.ages.trans settlesToo.ages
  loose id made := by
    by_cases known : id < second.all.size
    · exact (settles.loose id made).ageTo known settlesToo.ages
    · exact settlesToo.loose id (Nat.le_of_not_lt known)

theorem Handled.settles {before after : Scopes} (handled : before.Handled after) :
    before.Settles after where
  ages := handled.grows.ageTo
  loose _ unknown := loose_of_size_le (handled.size_eq ▸ unknown)

theorem Settles.refl (scopes : Scopes) : scopes.Settles scopes :=
  Handled.settles Relation.ReflTransGen.refl

/-- A scope that was there keeps its children, apart from those that were detached. -/
theorem Settles.children_eq {before after : Scopes} {id : Nat} (settles : before.Settles after)
    (known : id < before.all.size) :
    after.children id = (before.children id).filter fun child =>
      (after.get? child).any (·.attached) := by
  let attached : ScopeId → Bool := fun child =>
    (after.get? child).any fun scope => scope.attached && scope.parent == some id
  -- What was made since stands behind what was there, and none of it is attached.
  have grown := settles.ages.size_le
  have split : List.range' (id + 1) (after.all.size - (id + 1)) =
      List.range' (id + 1) (before.all.size - (id + 1)) ++
        List.range' before.all.size (after.all.size - before.all.size) := by
    rw [show after.all.size - (id + 1) =
        (before.all.size - (id + 1)) + (after.all.size - before.all.size) by omega,
      ← List.range'_append_1]
    congr 2
    omega
  have made : (List.range' before.all.size (after.all.size - before.all.size)).filter attached =
      [] := by
    rw [List.filter_eq_nil_iff]
    intro child member has
    obtain ⟨scope, found, both⟩ := Option.any_eq_true _ _ |>.mp has
    rw [Bool.and_eq_true, beq_iff_eq] at both
    exact settles.loose child (List.mem_range'_1.mp member).1 id ⟨scope, found, both⟩
  calc after.children id
      = (List.range' (id + 1) (before.all.size - (id + 1))).filter attached := by
        rw [children, split, List.filter_append, made, List.append_nil]
    _ = _ := by
        rw [children, List.filter_filter]
        refine List.filter_congr fun (child : Nat) member => ?_
        have older : child < before.all.size := by
          have bounds := List.mem_range'_1.mp member
          omega
        obtain ⟨scope, found⟩ := exists_get? older
        obtain ⟨now, foundToo, ages⟩ := settles.ages child scope found
        rw [found, foundToo]
        simp only [attached, foundToo, Option.any_some, ages.parent]
        cases has : now.attached with
        | false => simp
        | true => simp [ages.attached has]

theorem Settles.children_eq_of_holds {before after : Scopes} {id : ScopeId}
    (settles : before.Settles after) (holds : before.Holds after)
    (known : id < before.all.size) : after.children id = before.children id := by
  rw [settles.children_eq known, List.filter_eq_self]
  intro child member
  obtain ⟨scope, found, has, _⟩ := holds id child (mem_children.mp member).2
  rw [found, Option.any_some, has]

end Checkup.Scopes
