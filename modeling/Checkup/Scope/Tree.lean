/-!
# Trees of scopes

A scope bounds an operation: it can be cancelled, and it may have a deadline. Scopes form trees. A
scope made under another one takes over its deadline if that is earlier, and as long as it is
attached it is cancelled together with it. Scopes are numbered in the order in which they are made,
so that a scope's number is above that of the scope it was made under.

Main statements: cancelling a scope cancels exactly what hangs under it and leaves all deadlines;
detaching a scope leaves deadlines and cancellations; a new scope leaves all other scopes.
-/

namespace Checkup

abbrev ScopeId := Nat

structure Scope where
  /-- The scope under which this one was made. -/
  parent : Option ScopeId := none
  /-- Cancelling the parent cancels this scope too. -/
  attached : Bool := false
  /-- The second of the clock from which on the scope is expired. -/
  deadline : Option Float := none
  cancelled : Bool := false
deriving Inhabited, Repr

structure Scopes where
  all : Array Scope := #[]
deriving Inhabited, Repr

namespace Scopes

def get? (scopes : Scopes) (id : ScopeId) : Option Scope :=
  scopes.all[id]?

def deadline? (scopes : Scopes) (id : ScopeId) : Option Float :=
  (scopes.get? id).bind (·.deadline)

def isCancelled (scopes : Scopes) (id : ScopeId) : Bool :=
  (scopes.get? id).any (·.cancelled)

/-- The earlier of the deadline of the scope above and a scope's own deadline; the own one stands
unless the other is strictly earlier. -/
def narrowed (above own : Option Float) : Option Float :=
  match above, own with
  | none, own => own
  | some above, none => some above
  | some above, some own => some (if above < own then above else own)

def addRoot (scopes : Scopes) (deadline : Option Float) : Scopes × ScopeId :=
  (⟨scopes.all.push { deadline }⟩, scopes.all.size)

/-- Makes a scope under another one. It starts cancelled if the other one is cancelled. -/
def addChild (scopes : Scopes) (parent : ScopeId) (deadline : Option Float) : Scopes × ScopeId :=
  let child : Scope :=
    { parent := some parent
      attached := true
      deadline := narrowed (scopes.deadline? parent) deadline
      cancelled := scopes.isCancelled parent }
  (⟨scopes.all.push child⟩, scopes.all.size)

/-- The scopes that are attached to a scope, in the order in which they were made. All of them were
made after it. -/
def children (scopes : Scopes) (id : ScopeId) : List ScopeId :=
  (List.range' (id + 1) (scopes.all.size - (id + 1))).filter fun child =>
    (scopes.get? child).any fun scope => scope.attached && scope.parent == some id

theorem mem_children {scopes : Scopes} {id child : Nat} :
    child ∈ scopes.children id ↔
      id < child ∧ ∃ scope, scopes.get? child = some scope ∧ scope.attached = true ∧
        scope.parent = some id := by
  have known : ∀ scope, scopes.get? child = some scope → child < scopes.all.size := by
    intro scope found
    exact (Array.getElem?_eq_some_iff.mp found).1
  rw [children, List.mem_filter, List.mem_range'_1]
  simp only [Option.any_eq_true, Bool.and_eq_true, beq_iff_eq]
  constructor
  · rintro ⟨made, scope, found, attached, parent⟩
    exact ⟨made.1, scope, found, attached, parent⟩
  · rintro ⟨made, scope, found, attached, parent⟩
    have later := known scope found
    exact ⟨by omega, scope, found, attached, parent⟩

theorem lt_of_mem_children {scopes : Scopes} {id child : Nat}
    (member : child ∈ scopes.children id) : id < child ∧ child < scopes.all.size := by
  obtain ⟨made, scope, found, _⟩ := mem_children.mp member
  exact ⟨made, (Array.getElem?_eq_some_iff.mp found).1⟩

/-- A scope and all that hang under it; every child is followed by what hangs under it. -/
def below (scopes : Scopes) (top : ScopeId) : List ScopeId :=
  top :: (scopes.children top).attach.flatMap fun ⟨child, _⟩ => scopes.below child
termination_by scopes.all.size - top
decreasing_by
  rename_i member
  have made := lt_of_mem_children member
  exact Nat.sub_lt_sub_left (Nat.lt_trans made.1 made.2) made.1

theorem below_eq (scopes : Scopes) (top : ScopeId) :
    scopes.below top = top :: (scopes.children top).flatMap scopes.below := by
  rw [Scopes.below]
  simp

/-- Cancels one scope and no other. -/
def mark (scopes : Scopes) (id : ScopeId) : Scopes :=
  ⟨scopes.all.modify id fun scope => { scope with cancelled := true }⟩

/-- Cancels a scope and then, one after the other, all that hang under it. -/
def cancel (scopes : Scopes) (top : ScopeId) : Scopes :=
  (scopes.below top).foldl mark scopes

/-- Detaches a scope from the one it was made under. -/
def release (scopes : Scopes) (id : ScopeId) : Scopes :=
  ⟨scopes.all.modify id fun scope => { scope with attached := false }⟩

/-- Scopes that were there before a new one are still the same. -/
theorem get?_addChild_of_lt {scopes : Scopes} {parent id : ScopeId} {deadline : Option Float}
    (old : id < scopes.all.size) :
    (scopes.addChild parent deadline).1.get? id = scopes.get? id := by
  simp [addChild, get?, Array.getElem?_push, Nat.ne_of_lt old]

/-- The scope that was just made. -/
@[simp] theorem get?_addChild_self (scopes : Scopes) (parent : ScopeId)
    (deadline : Option Float) :
    (scopes.addChild parent deadline).1.get? (scopes.addChild parent deadline).2 =
      some
        { parent := some parent
          attached := true
          deadline := narrowed (scopes.deadline? parent) deadline
          cancelled := scopes.isCancelled parent } := by
  simp [addChild, get?]

@[simp] theorem size_mark (scopes : Scopes) (id : ScopeId) :
    (scopes.mark id).all.size = scopes.all.size := by
  simp [mark]

theorem size_foldl_mark (scopes : Scopes) (marked : List ScopeId) :
    (marked.foldl mark scopes).all.size = scopes.all.size := by
  induction marked generalizing scopes with
  | nil => rfl
  | cons first later inductionHypothesis =>
    rw [List.foldl_cons, inductionHypothesis, size_mark]

@[simp] theorem size_cancel (scopes : Scopes) (top : ScopeId) :
    (scopes.cancel top).all.size = scopes.all.size :=
  scopes.size_foldl_mark (scopes.below top)

@[simp] theorem size_release (scopes : Scopes) (id : ScopeId) :
    (scopes.release id).all.size = scopes.all.size := by
  simp [release]

theorem get?_mark (scopes : Scopes) (marked id : ScopeId) :
    (scopes.mark marked).get? id =
      (scopes.get? id).map fun scope =>
        if marked = id then { scope with cancelled := true } else scope := by
  simp only [mark, get?, Array.getElem?_modify]
  by_cases same : marked = id
  · subst same
    simp
  · cases scopes.all[id]? <;> simp [same]

theorem get?_foldl_mark (scopes : Scopes) (marked : List ScopeId) (id : ScopeId) :
    (marked.foldl mark scopes).get? id =
      (scopes.get? id).map fun scope =>
        if id ∈ marked then { scope with cancelled := true } else scope := by
  induction marked generalizing scopes with
  | nil => simp
  | cons first later inductionHypothesis =>
    rw [List.foldl_cons, inductionHypothesis, get?_mark]
    cases scopes.get? id with
    | none => rfl
    | some scope =>
      by_cases same : first = id
      · simp [same]
      · simp [same, Ne.symm same]

/-- A scope after another one has been cancelled. -/
theorem get?_cancel (scopes : Scopes) (top id : ScopeId) :
    (scopes.cancel top).get? id =
      (scopes.get? id).map fun scope =>
        if id ∈ scopes.below top then { scope with cancelled := true } else scope :=
  scopes.get?_foldl_mark (scopes.below top) id

/-- Cancelling leaves all deadlines. -/
@[simp] theorem deadline?_cancel (scopes : Scopes) (top id : ScopeId) :
    (scopes.cancel top).deadline? id = scopes.deadline? id := by
  simp only [deadline?, get?_cancel]
  cases scopes.get? id with
  | none => rfl
  | some scope => by_cases member : id ∈ scopes.below top <;> simp [member]

/-- Cancelled are those that were cancelled before, and those that hang under the cancelled one. -/
theorem isCancelled_cancel (scopes : Scopes) (top id : ScopeId) :
    (scopes.cancel top).isCancelled id =
      (scopes.isCancelled id ||
        ((scopes.get? id).isSome && decide (id ∈ scopes.below top))) := by
  simp only [isCancelled, get?_cancel]
  cases scopes.get? id with
  | none => rfl
  | some scope => by_cases member : id ∈ scopes.below top <;> simp [member]

/-- A scope after one has been detached. -/
theorem get?_release (scopes : Scopes) (released id : ScopeId) :
    (scopes.release released).get? id =
      (scopes.get? id).map fun scope =>
        if released = id then { scope with attached := false } else scope := by
  simp only [release, get?, Array.getElem?_modify]
  by_cases same : released = id
  · subst same
    simp
  · cases scopes.all[id]? <;> simp [same]

/-- Detaching leaves all deadlines. -/
@[simp] theorem deadline?_release (scopes : Scopes) (released id : ScopeId) :
    (scopes.release released).deadline? id = scopes.deadline? id := by
  simp only [deadline?, get?_release]
  cases scopes.get? id with
  | none => rfl
  | some scope => by_cases same : released = id <;> simp [same]

/-- Detaching cancels nothing. -/
@[simp] theorem isCancelled_release (scopes : Scopes) (released id : ScopeId) :
    (scopes.release released).isCancelled id = scopes.isCancelled id := by
  simp only [isCancelled, get?_release]
  cases scopes.get? id with
  | none => rfl
  | some scope => by_cases same : released = id <;> simp [same]

end Scopes

end Checkup
