import Mathlib.Data.List.Basic
import Mathlib.Logic.Relation
import Checkup.Scope.Tree

/-!
# What hangs under a scope

A scope stays attached to the one under which it was made until it is detached. Main statements: if
every scope was made under an earlier one, then the walk of a cancellation goes exactly through what
hangs under a scope, and spares the scopes above it, those beside it, and those that were detached,
with all that hangs under them.
-/

namespace Checkup.Scopes

def Attached (scopes : Scopes) (parent child : ScopeId) : Prop :=
  ∃ scope, scopes.get? child = some scope ∧ scope.attached = true ∧ scope.parent = some parent

/-- A scope is another one, or hangs under it through attached scopes. -/
def Hangs (scopes : Scopes) (top id : ScopeId) : Prop :=
  Relation.ReflTransGen scopes.Attached top id

/-- Every scope was made under an earlier one. -/
def Ordered (scopes : Scopes) : Prop :=
  ∀ (id : Nat) (scope : Scope) (parent : Nat), scopes.get? id = some scope →
    scope.parent = some parent → parent < id

theorem Hangs.refl (scopes : Scopes) (id : ScopeId) : scopes.Hangs id id :=
  Relation.ReflTransGen.refl

theorem Attached.unique {scopes : Scopes} {parent other child : ScopeId}
    (attached : scopes.Attached parent child) (attachedToo : scopes.Attached other child) :
    parent = other := by
  obtain ⟨scope, found, _, has⟩ := attached
  obtain ⟨scopeToo, foundToo, _, hasToo⟩ := attachedToo
  rw [found] at foundToo
  cases foundToo
  rw [has] at hasToo
  exact Option.some.inj hasToo

section Ordered

variable {scopes : Scopes} (ordered : scopes.Ordered)

include ordered

theorem Attached.lt {parent child : Nat} (attached : scopes.Attached parent child) :
    parent < child := by
  obtain ⟨scope, found, _, has⟩ := attached
  exact ordered child scope parent found has

theorem mem_children_iff {parent child : ScopeId} :
    child ∈ scopes.children parent ↔ scopes.Attached parent child := by
  rw [mem_children]
  constructor
  · rintro ⟨_, attached⟩
    exact attached
  · intro attached
    exact ⟨attached.lt ordered, attached⟩

/-- The walk of a cancellation goes exactly through what hangs under a scope. -/
theorem mem_below_iff {top id : ScopeId} : id ∈ scopes.below top ↔ scopes.Hangs top id := by
  constructor
  · intro member
    induction top using Scopes.below.induct scopes with
    | case1 top inductionHypothesis =>
      rw [below_eq, List.mem_cons, List.mem_flatMap] at member
      rcases member with rfl | ⟨child, childMember, member⟩
      · exact .refl scopes id
      · have attached := (mem_children_iff ordered).mp childMember
        exact .head attached (inductionHypothesis child childMember member)
  · intro hangs
    induction hangs using Relation.ReflTransGen.head_induction_on with
    | refl =>
      rw [below_eq]
      exact List.mem_cons_self
    | head attached hangs inductionHypothesis =>
      rw [below_eq]
      have childMember := (mem_children_iff ordered).mpr attached
      exact List.mem_cons_of_mem _ (List.mem_flatMap.mpr ⟨_, childMember, inductionHypothesis⟩)

theorem Hangs.le {top id : Nat} (hangs : scopes.Hangs top id) : top ≤ id := by
  induction hangs with
  | refl => exact Nat.le_refl top
  | tail hangs attached inductionHypothesis =>
    exact Nat.le_trans inductionHypothesis (Nat.le_of_lt (attached.lt ordered))

end Ordered

/-- What hangs under a scope and is not that scope hangs under it through its own parent. -/
theorem Hangs.of_attached {scopes : Scopes} {top parent id : ScopeId} (hangs : scopes.Hangs top id)
    (attached : scopes.Attached parent id) (different : top ≠ id) : scopes.Hangs top parent := by
  cases hangs with
  | refl => exact absurd rfl different
  | tail hangs attachedToo => exact attachedToo.unique attached ▸ hangs

/-- Of two scopes above the same one, one is above the other. -/
theorem Hangs.total {scopes : Scopes} {top other id : ScopeId} (hangs : scopes.Hangs top id)
    (hangsToo : scopes.Hangs other id) : scopes.Hangs top other ∨ scopes.Hangs other top := by
  induction hangs with
  | refl => exact .inr hangsToo
  | @tail parent id hangs attached inductionHypothesis =>
    by_cases same : other = id
    · subst same
      exact .inl (.tail hangs attached)
    · exact inductionHypothesis (hangsToo.of_attached attached same)

/-- A scope was detached, or was made under no other one. -/
def Loose (scopes : Scopes) (id : ScopeId) : Prop :=
  ∀ parent, ¬scopes.Attached parent id

theorem Loose.eq_of_hangs {scopes : Scopes} {top id : ScopeId} (loose : scopes.Loose id)
    (hangs : scopes.Hangs top id) : top = id := by
  cases hangs with
  | refl => rfl
  | tail hangs attached => exact absurd attached (loose _)

theorem Loose.not_hangs {scopes : Scopes} {top loose id : ScopeId} (free : scopes.Loose loose)
    (outside : ¬scopes.Hangs loose top) (under : scopes.Hangs loose id) :
    ¬scopes.Hangs top id := by
  intro hangs
  rcases hangs.total under with above | within
  · have same := free.eq_of_hangs above
    subst same
    exact outside (.refl scopes top)
  · exact outside within

section Spared

variable {scopes : Scopes} (ordered : scopes.Ordered)

include ordered

theorem not_hangs_of_above {top above : ScopeId} (hangs : scopes.Hangs above top)
    (different : above ≠ top) : ¬scopes.Hangs top above :=
  fun back => different (Nat.le_antisymm (hangs.le ordered) (back.le ordered))

theorem not_hangs_sibling {parent top sibling : Nat} (attached : scopes.Attached parent top)
    (beside : scopes.Attached parent sibling) (different : top ≠ sibling) :
    ¬scopes.Hangs top sibling := by
  intro hangs
  have up := (hangs.of_attached beside different).le ordered
  have down := attached.lt ordered
  omega

theorem not_hangs_of_sibling {parent top sibling id : ScopeId}
    (attached : scopes.Attached parent top) (beside : scopes.Attached parent sibling)
    (different : top ≠ sibling) (under : scopes.Hangs sibling id) : ¬scopes.Hangs top id := by
  intro hangs
  rcases hangs.total under with above | above
  · exact not_hangs_sibling ordered attached beside different above
  · exact not_hangs_sibling ordered beside attached (Ne.symm different) above

end Spared

theorem get?_cancel_of_not_mem {scopes : Scopes} {top id : ScopeId}
    (spared : id ∉ scopes.below top) : (scopes.cancel top).get? id = scopes.get? id := by
  rw [get?_cancel]
  simp only [spared, if_false]
  exact Option.map_id'

theorem attached_cancel {scopes : Scopes} {top parent child : ScopeId} :
    (scopes.cancel top).Attached parent child ↔ scopes.Attached parent child := by
  unfold Attached
  rw [get?_cancel]
  cases scopes.get? child with
  | none => simp
  | some scope => by_cases member : child ∈ scopes.below top <;> simp [member]

theorem children_mark (scopes : Scopes) (marked id : ScopeId) :
    (scopes.mark marked).children id = scopes.children id := by
  rw [children, children, size_mark]
  refine List.filter_congr fun child _ => ?_
  rw [get?_mark]
  cases scopes.get? child with
  | none => rfl
  | some scope => by_cases same : marked = child <;> simp [same]

/-- The walk depends only on which scopes are attached. -/
theorem below_congr {scopes other : Scopes}
    (same : ∀ id, other.children id = scopes.children id) (id : ScopeId) :
    other.below id = scopes.below id := by
  induction id using Scopes.below.induct scopes with
  | case1 id inductionHypothesis =>
    rw [below_eq, below_eq, same]
    congr 1
    exact List.flatMap_congr inductionHypothesis

theorem below_mark (scopes : Scopes) (marked id : ScopeId) :
    (scopes.mark marked).below id = scopes.below id :=
  below_congr (scopes.children_mark marked) id

theorem below_foldl_mark (scopes : Scopes) (marked : List ScopeId) (id : ScopeId) :
    (marked.foldl mark scopes).below id = scopes.below id := by
  induction marked generalizing scopes with
  | nil => rfl
  | cons first later inductionHypothesis =>
    rw [List.foldl_cons, inductionHypothesis, below_mark]

/-- Cancelling a scope marks it and then cancels its children, one after the other. -/
theorem cancel_eq_foldl (scopes : Scopes) (top : ScopeId) :
    scopes.cancel top = (scopes.children top).foldl cancel (scopes.mark top) := by
  -- Marking changes no walk, so that the walks that are still to be made stay as they were.
  have onward : ∀ (children : List ScopeId) (marked : Scopes),
      (∀ id, marked.below id = scopes.below id) →
        (children.flatMap scopes.below).foldl mark marked = children.foldl cancel marked := by
    intro children
    induction children with
    | nil => intro marked _; rfl
    | cons child later inductionHypothesis =>
      intro marked same
      rw [List.flatMap_cons, List.foldl_append, List.foldl_cons, cancel, same]
      refine inductionHypothesis _ fun id => ?_
      rw [below_foldl_mark, same]
  rw [cancel, below_eq, List.foldl_cons]
  exact onward _ _ (below_mark scopes top)

end Checkup.Scopes
