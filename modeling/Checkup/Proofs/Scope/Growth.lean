import Checkup.Proofs.Scope.Descent

/-!
# How trees of scopes grow

Trees of scopes grow by scopes that are made under no other one or under a known one; scopes that are
there are cancelled and detached. Main statements: a scope keeps its parent and its deadline, stays
cancelled and is not attached again; in a tree that has grown from nothing every scope was made under
an earlier one, has taken over its deadline, and is cancelled with it as long as it is attached.
-/

namespace Checkup

structure Scope.AgesTo (scope later : Scope) : Prop where
  parent : later.parent = scope.parent
  deadline : later.deadline = scope.deadline
  cancelled : scope.cancelled = true → later.cancelled = true
  attached : later.attached = true → scope.attached = true

theorem Scope.AgesTo.refl (scope : Scope) : scope.AgesTo scope :=
  ⟨rfl, rfl, id, id⟩

theorem Scope.AgesTo.trans {first second third : Scope} (ages : first.AgesTo second)
    (agesToo : second.AgesTo third) : first.AgesTo third where
  parent := agesToo.parent.trans ages.parent
  deadline := agesToo.deadline.trans ages.deadline
  cancelled has := agesToo.cancelled (ages.cancelled has)
  attached has := ages.attached (agesToo.attached has)

namespace Scopes

theorem lt_size_of_get? {scopes : Scopes} {id : ScopeId} {scope : Scope}
    (found : scopes.get? id = some scope) : id < scopes.all.size :=
  (Array.getElem?_eq_some_iff.mp found).1

theorem exists_get? {scopes : Scopes} {id : ScopeId} (known : id < scopes.all.size) :
    ∃ scope, scopes.get? id = some scope :=
  ⟨scopes.all[id], Array.getElem?_eq_getElem known⟩

theorem get?_push (scopes : Scopes) (scope : Scope) (id : ScopeId) :
    (Scopes.mk (scopes.all.push scope)).get? id =
      if id = scopes.all.size then some scope else scopes.get? id := by
  rw [get?, get?, Array.getElem?_push]

/-- All scopes that were there are still there. -/
def AgeTo (scopes later : Scopes) : Prop :=
  ∀ id scope, scopes.get? id = some scope → ∃ found, later.get? id = some found ∧ scope.AgesTo found

theorem AgeTo.refl (scopes : Scopes) : scopes.AgeTo scopes :=
  fun _ scope found => ⟨scope, found, .refl scope⟩

theorem AgeTo.trans {first second third : Scopes} (age : first.AgeTo second)
    (ageToo : second.AgeTo third) : first.AgeTo third := by
  intro id scope found
  obtain ⟨between, foundToo, ages⟩ := age id scope found
  obtain ⟨later, foundLater, agesToo⟩ := ageToo id between foundToo
  exact ⟨later, foundLater, ages.trans agesToo⟩

theorem AgeTo.size_le {scopes later : Scopes} (age : scopes.AgeTo later) :
    scopes.all.size ≤ later.all.size := by
  by_cases empty : scopes.all.size = 0
  · omega
  · have last : scopes.all.size - 1 < scopes.all.size := by omega
    obtain ⟨scope, found⟩ := exists_get? last
    obtain ⟨_, foundToo, _⟩ := age _ scope found
    have known : scopes.all.size - 1 < later.all.size := lt_size_of_get? foundToo
    omega

theorem AgeTo.deadline?_eq {scopes later : Scopes} {id : ScopeId} (age : scopes.AgeTo later)
    (known : id < scopes.all.size) : later.deadline? id = scopes.deadline? id := by
  obtain ⟨scope, found⟩ := exists_get? known
  obtain ⟨now, foundToo, ages⟩ := age id scope found
  simp [deadline?, found, foundToo, ages.deadline]

theorem AgeTo.isCancelled {scopes later : Scopes} {id : ScopeId} (age : scopes.AgeTo later)
    (cancelled : scopes.isCancelled id = true) : later.isCancelled id = true := by
  unfold Scopes.isCancelled at cancelled ⊢
  rw [Option.any_eq_true] at cancelled ⊢
  obtain ⟨scope, found, has⟩ := cancelled
  obtain ⟨now, foundToo, ages⟩ := age id scope found
  exact ⟨now, foundToo, ages.cancelled has⟩

theorem ageTo_push (scopes : Scopes) (scope : Scope) : scopes.AgeTo ⟨scopes.all.push scope⟩ := by
  intro id old found
  have known : id ≠ scopes.all.size := Nat.ne_of_lt (lt_size_of_get? found)
  exact ⟨old, by rw [get?_push, if_neg known, found], .refl old⟩

theorem ageTo_cancel (scopes : Scopes) (top : ScopeId) : scopes.AgeTo (scopes.cancel top) := by
  intro id scope found
  rw [get?_cancel, found]
  refine ⟨_, rfl, ?_⟩
  dsimp only
  by_cases member : id ∈ scopes.below top
  · rw [if_pos member]
    exact ⟨rfl, rfl, fun _ => rfl, fun has => has⟩
  · rw [if_neg member]
    exact .refl scope

theorem ageTo_release (scopes : Scopes) (released : ScopeId) :
    scopes.AgeTo (scopes.release released) := by
  intro id scope found
  rw [get?_release, found]
  refine ⟨_, rfl, ?_⟩
  dsimp only
  by_cases same : released = id
  · rw [if_pos same]
    exact ⟨rfl, rfl, fun has => has, fun has => nomatch has⟩
  · rw [if_neg same]
    exact .refl scope

inductive Handles : Scopes → Scopes → Prop where
  | cancel (scopes : Scopes) (id : ScopeId) : Handles scopes (scopes.cancel id)
  | release (scopes : Scopes) (id : ScopeId) : Handles scopes (scopes.release id)

/-- Scopes are cancelled and detached, any number of them and any number of times. -/
def Handled : Scopes → Scopes → Prop :=
  Relation.ReflTransGen Handles

/-- Scopes are cancelled, any number of them and any number of times. -/
def Cancels : Scopes → Scopes → Prop :=
  Relation.ReflTransGen fun scopes later => ∃ id, later = scopes.cancel id

inductive Step : Scopes → Scopes → Prop where
  | root (scopes : Scopes) (deadline : Option Float) : Step scopes (scopes.addRoot deadline).1
  | child {scopes : Scopes} {parent : ScopeId} (known : parent < scopes.all.size)
      (deadline : Option Float) : Step scopes (scopes.addChild parent deadline).1
  | handled {scopes later : Scopes} (handles : scopes.Handles later) : Step scopes later

def Grows : Scopes → Scopes → Prop :=
  Relation.ReflTransGen Step

theorem cancels_cancel (scopes : Scopes) (id : ScopeId) : scopes.Cancels (scopes.cancel id) :=
  Relation.ReflTransGen.single ⟨id, rfl⟩

theorem Cancels.handled {scopes later : Scopes} (cancels : scopes.Cancels later) :
    scopes.Handled later := by
  induction cancels with
  | refl => exact Relation.ReflTransGen.refl
  | tail before cancels inductionHypothesis =>
    obtain ⟨id, rfl⟩ := cancels
    exact inductionHypothesis.tail (.cancel _ id)

theorem Handled.grows {scopes later : Scopes} (handled : scopes.Handled later) :
    scopes.Grows later := by
  induction handled with
  | refl => exact Relation.ReflTransGen.refl
  | tail before handles inductionHypothesis => exact inductionHypothesis.tail (.handled handles)

theorem Handles.ageTo {scopes later : Scopes} (handles : scopes.Handles later) :
    scopes.AgeTo later := by
  cases handles with
  | cancel id => exact scopes.ageTo_cancel id
  | release id => exact scopes.ageTo_release id

theorem Step.ageTo {scopes later : Scopes} (step : scopes.Step later) : scopes.AgeTo later := by
  cases step with
  | root deadline => exact scopes.ageTo_push _
  | child known deadline => exact scopes.ageTo_push _
  | handled handles => exact handles.ageTo

theorem Grows.ageTo {scopes later : Scopes} (grows : scopes.Grows later) : scopes.AgeTo later := by
  induction grows with
  | refl => exact .refl scopes
  | tail before step inductionHypothesis => exact inductionHypothesis.trans step.ageTo

/-- What holds in a tree of scopes that has grown from nothing. -/
structure Sound (scopes : Scopes) : Prop where
  ordered : scopes.Ordered
  /-- What is attached to a cancelled scope is cancelled. -/
  downward : ∀ parent child, scopes.Attached parent child → scopes.isCancelled parent = true →
    scopes.isCancelled child = true
  /-- A scope has the deadline that it was given, or that of the scope under which it was made. -/
  narrowed : ∀ child scope parent, scopes.get? child = some scope → scope.parent = some parent →
    ∃ own, scope.deadline = Scopes.narrowed (scopes.deadline? parent) own

theorem sound_empty : Sound {} := by
  have none : ∀ id, Scopes.get? {} id = none := fun _ => rfl
  refine ⟨?_, ?_, ?_⟩
  · intro id scope parent found
    rw [none] at found
    cases found
  · rintro parent child ⟨scope, found, _⟩
    rw [none] at found
    cases found
  · intro id scope parent found
    rw [none] at found
    cases found

/-- A new scope is sound if it was made under a known one, with its deadline and cancelled with it. -/
theorem Sound.push {scopes : Scopes} (sound : scopes.Sound) {scope : Scope}
    (known : ∀ parent, scope.parent = some parent → parent < scopes.all.size)
    (cancelled : ∀ parent, scope.parent = some parent → scopes.isCancelled parent = true →
      scope.cancelled = true)
    (narrowed : ∀ parent, scope.parent = some parent →
      ∃ own, scope.deadline = Scopes.narrowed (scopes.deadline? parent) own) :
    Sound ⟨scopes.all.push scope⟩ := by
  have old : ∀ id, id < scopes.all.size →
      (Scopes.mk (scopes.all.push scope)).get? id = scopes.get? id := by
    intro id older
    rw [get?_push, if_neg (Nat.ne_of_lt older)]
  have sameCancelled : ∀ id, id < scopes.all.size →
      (Scopes.mk (scopes.all.push scope)).isCancelled id = scopes.isCancelled id := by
    intro id older
    rw [isCancelled, isCancelled, old id older]
  have sameDeadline : ∀ id, id < scopes.all.size →
      (Scopes.mk (scopes.all.push scope)).deadline? id = scopes.deadline? id := by
    intro id older
    rw [deadline?, deadline?, old id older]
  -- A scope of the larger tree is the new one, or one whose parent was there before.
  have split : ∀ (id : Nat) (found : Scope) (parent : Nat),
      (Scopes.mk (scopes.all.push scope)).get? id = some found → found.parent = some parent →
        parent < scopes.all.size ∧
          (id = scopes.all.size ∧ found = scope ∨
            id < scopes.all.size ∧ scopes.get? id = some found) := by
    intro id found parent has made
    rw [get?_push] at has
    by_cases newest : id = scopes.all.size
    · rw [if_pos newest] at has
      cases has
      exact ⟨known parent made, .inl ⟨newest, rfl⟩⟩
    · rw [if_neg newest] at has
      have older : id < scopes.all.size := lt_size_of_get? has
      have earlier := sound.ordered id found parent has made
      exact ⟨by omega, .inr ⟨older, has⟩⟩
  refine ⟨?_, ?_, ?_⟩
  · intro id found parent has made
    obtain ⟨older, ⟨newest, _⟩ | ⟨_, hasToo⟩⟩ := split id found parent has made
    · omega
    · exact sound.ordered id found parent hasToo made
  · rintro parent child ⟨found, has, attached, made⟩ done
    obtain ⟨older, ⟨newest, same⟩ | ⟨childOlder, hasToo⟩⟩ := split child found parent has made
    · rw [sameCancelled parent older] at done
      rw [isCancelled, has, Option.any_some, same]
      exact cancelled parent (same ▸ made) done
    · rw [sameCancelled parent older] at done
      rw [sameCancelled child childOlder]
      exact sound.downward parent child ⟨found, hasToo, attached, made⟩ done
  · intro child found parent has made
    obtain ⟨older, ⟨newest, same⟩ | ⟨_, hasToo⟩⟩ := split child found parent has made
    · rw [sameDeadline parent older, same]
      exact narrowed parent (same ▸ made)
    · rw [sameDeadline parent older]
      exact sound.narrowed child found parent hasToo made

theorem Handles.size_eq {scopes later : Scopes} (handles : scopes.Handles later) :
    later.all.size = scopes.all.size := by
  cases handles with
  | cancel id => exact scopes.size_cancel id
  | release id => exact scopes.size_release id

theorem Handles.exists_before {scopes later : Scopes} (handles : scopes.Handles later)
    {id : ScopeId} {scope : Scope} (found : later.get? id = some scope) :
    ∃ before, scopes.get? id = some before ∧ before.AgesTo scope := by
  have known : id < scopes.all.size := handles.size_eq ▸ lt_size_of_get? found
  obtain ⟨before, has⟩ := exists_get? known
  obtain ⟨now, foundToo, ages⟩ := handles.ageTo id before has
  rw [found] at foundToo
  cases foundToo
  exact ⟨before, has, ages⟩

theorem Handles.attached {scopes later : Scopes} (handles : scopes.Handles later)
    {parent child : ScopeId} (attached : later.Attached parent child) :
    scopes.Attached parent child := by
  obtain ⟨scope, found, has, made⟩ := attached
  obtain ⟨before, foundToo, ages⟩ := handles.exists_before found
  exact ⟨before, foundToo, ages.attached has, ages.parent ▸ made⟩

theorem Handled.size_eq {scopes later : Scopes} (handled : scopes.Handled later) :
    later.all.size = scopes.all.size := by
  induction handled with
  | refl => rfl
  | tail before handles inductionHypothesis => exact handles.size_eq.trans inductionHypothesis

theorem Handled.attached {scopes later : Scopes} (handled : scopes.Handled later)
    {parent child : ScopeId} (attached : later.Attached parent child) :
    scopes.Attached parent child := by
  induction handled with
  | refl => exact attached
  | tail before handles inductionHypothesis => exact inductionHypothesis (handles.attached attached)

theorem isCancelled_cancel_iff {scopes : Scopes} (ordered : scopes.Ordered) {top id : ScopeId} :
    (scopes.cancel top).isCancelled id = true ↔
      scopes.isCancelled id = true ∨ id < scopes.all.size ∧ scopes.Hangs top id := by
  have known : (scopes.get? id).isSome = true ↔ id < scopes.all.size := by
    simp [get?]
  rw [isCancelled_cancel, Bool.or_eq_true, Bool.and_eq_true, known, decide_eq_true_iff,
    mem_below_iff ordered]

theorem le_of_mem_below {scopes : Scopes} {top id : Nat} (member : id ∈ scopes.below top) :
    top ≤ id := by
  induction top using Scopes.below.induct scopes with
  | case1 top inductionHypothesis =>
    rw [below_eq, List.mem_cons, List.mem_flatMap] at member
    rcases member with rfl | ⟨child, childMember, member⟩
    · exact Nat.le_refl id
    · have above := (lt_of_mem_children childMember).1
      exact Nat.le_trans (Nat.le_of_lt above) (inductionHypothesis child childMember member)

theorem mem_below_of_attached {scopes : Scopes} {top parent child : ScopeId}
    (member : parent ∈ scopes.below top) (under : child ∈ scopes.children parent) :
    child ∈ scopes.below top := by
  induction top using Scopes.below.induct scopes with
  | case1 top inductionHypothesis =>
    rw [below_eq, List.mem_cons, List.mem_flatMap] at member
    rw [below_eq]
    refine List.mem_cons_of_mem _ (List.mem_flatMap.mpr ?_)
    rcases member with rfl | ⟨between, betweenMember, member⟩
    · refine ⟨child, under, ?_⟩
      rw [below_eq]
      exact List.mem_cons_self
    · exact ⟨between, betweenMember, inductionHypothesis between betweenMember member⟩

/-- A scope is cancelled together with the one that it is attached to. -/
theorem Handles.downward {scopes later : Scopes} (handles : scopes.Handles later)
    {parent child : Nat} (made : parent < child)
    (together : scopes.isCancelled parent = true → scopes.isCancelled child = true)
    (attached : later.Attached parent child) (cancelled : later.isCancelled parent = true) :
    later.isCancelled child = true := by
  have before := handles.attached attached
  cases handles with
  | cancel top =>
    rw [isCancelled_cancel, Bool.or_eq_true, Bool.and_eq_true, decide_eq_true_iff] at cancelled ⊢
    rcases cancelled with already | ⟨_, member⟩
    · exact .inl (together already)
    · obtain ⟨scope, found, _⟩ := id before
      exact .inr ⟨by rw [found]; rfl, mem_below_of_attached member (mem_children.mpr ⟨made, before⟩)⟩
  | release released =>
    rw [isCancelled_release] at cancelled ⊢
    exact together cancelled

theorem Handled.downward {scopes later : Scopes} (handled : scopes.Handled later)
    {parent child : ScopeId} (made : parent < child)
    (together : scopes.isCancelled parent = true → scopes.isCancelled child = true)
    (attached : later.Attached parent child) (cancelled : later.isCancelled parent = true) :
    later.isCancelled child = true := by
  induction handled with
  | refl => exact together cancelled
  | tail before handles inductionHypothesis =>
    exact handles.downward made (inductionHypothesis (handles.attached attached)) attached cancelled

theorem Sound.handles {scopes later : Scopes} (sound : scopes.Sound)
    (handles : scopes.Handles later) : later.Sound := by
  refine ⟨?_, ?_, ?_⟩
  · intro id scope parent found made
    obtain ⟨before, has, ages⟩ := handles.exists_before found
    exact sound.ordered id before parent has (ages.parent ▸ made)
  · intro parent child attached
    have before := handles.attached attached
    exact handles.downward (before.lt sound.ordered) (sound.downward parent child before) attached
  · intro child scope parent found made
    obtain ⟨before, has, ages⟩ := handles.exists_before found
    have older : parent < scopes.all.size :=
      Nat.lt_trans (sound.ordered child before parent has (ages.parent ▸ made))
        (lt_size_of_get? has)
    rw [handles.ageTo.deadline?_eq older, ages.deadline]
    exact sound.narrowed child before parent has (ages.parent ▸ made)

theorem Sound.step {scopes later : Scopes} (sound : scopes.Sound) (step : scopes.Step later) :
    later.Sound := by
  cases step with
  | root deadline => exact sound.push (fun _ => nofun) (fun _ => nofun) (fun _ => nofun)
  | @child made known deadline =>
    refine sound.push ?_ ?_ ?_
    · rintro parent ⟨⟩
      exact known
    · rintro parent ⟨⟩ cancelled
      exact cancelled
    · rintro parent ⟨⟩
      exact ⟨deadline, rfl⟩
  | handled handles => exact sound.handles handles

/-- A tree of scopes that has grown from a sound one is sound. -/
theorem Sound.grows {scopes later : Scopes} (sound : scopes.Sound) (grows : scopes.Grows later) :
    later.Sound := by
  induction grows with
  | refl => exact sound
  | tail before step inductionHypothesis => exact inductionHypothesis.step step

end Scopes

end Checkup
