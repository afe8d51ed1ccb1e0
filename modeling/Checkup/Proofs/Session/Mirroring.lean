import Checkup.Proofs.Session.Composable

/-!
# Actions that mirror each other

Two actions mirror each other from sessions that are related in one way to sessions that are related
in another way, if both give the same. Main statement: what is put together from actions that mirror
each other mirrors what is put together from the others.
-/

namespace Checkup.Action

/-- From sessions that are related, two actions give the same and lead to sessions that are related. -/
def Mirrors (before after : Session → Session → Prop) (action mirror : Action α) : Prop :=
  ∀ session other, before session other →
    (mirror other).1 = (action session).1 ∧ after (action session).2 (mirror other).2

variable {before between after : Session → Session → Prop}

theorem Mirrors.mono {action mirror : Action α} {earlier later : Session → Session → Prop}
    (mirrors : Mirrors before after action mirror)
    (stronger : ∀ session other, earlier session other → before session other)
    (weaker : ∀ session other, after session other → later session other) :
    Mirrors earlier later action mirror := by
  intro session other related
  obtain ⟨same, left⟩ := mirrors session other (stronger session other related)
  exact ⟨same, weaker _ _ left⟩

/-- What is known of a run of the first action says how the other one runs. -/
theorem Mirrors.exists_eq {action mirror : Action α} (mirrors : Mirrors before after action mirror)
    {session other left : Session} {answer : Except Fault α}
    (taken : action session = (answer, left)) (related : before session other) :
    ∃ leftToo, mirror other = (answer, leftToo) ∧ after left leftToo := by
  obtain ⟨same, sameLeft⟩ := mirrors session other related
  rw [taken] at same sameLeft
  exact ⟨(mirror other).2, Prod.ext same rfl, sameLeft⟩

/-- The second step is only taken if the first one gives a value, so that the relation after the
first one must lead to that after both. -/
theorem Mirrors.bind {first firstMirror : Action α} {next nextMirror : α → Action β}
    (weaker : ∀ session other, between session other → after session other)
    (start : Mirrors before between first firstMirror)
    (rest : ∀ value, Mirrors between after (next value) (nextMirror value)) :
    Mirrors before after (first >>= next) (firstMirror >>= nextMirror) := by
  intro session other related
  rcases taken : first session with ⟨fault | value, reached⟩
  · obtain ⟨reachedToo, mirrored, left⟩ := start.exists_eq taken related
    rw [bind_of_error taken, bind_of_error mirrored]
    exact ⟨rfl, weaker _ _ left⟩
  · obtain ⟨reachedToo, mirrored, left⟩ := start.exists_eq taken related
    rw [bind_of_ok taken, bind_of_ok mirrored]
    exact rest value _ _ left

theorem mirrors_pure (value : α) : Mirrors before before (pure value) (pure value) :=
  fun _ _ related => ⟨rfl, related⟩

theorem mirrors_lift (answer : Except Fault α) : Mirrors before before (lift answer) (lift answer) := by
  intro session other related
  cases answer <;> exact ⟨rfl, related⟩

theorem Mirrors.settle {action mirror : Action α} (mirrors : Mirrors before after action mirror) :
    Mirrors before after (Action.settle action) (Action.settle mirror) := by
  intro session other related
  obtain ⟨same, left⟩ := mirrors session other related
  exact ⟨congrArg Except.ok same, left⟩

/-- What an action keeps of its own may be added to the relations. -/
theorem Mirrors.keeping {action mirror : Action α} {kept : Session → Prop}
    (mirrors : Mirrors before after action mirror)
    (keeps : action.Along fun session left => kept session → kept left) :
    Mirrors (fun session other => before session other ∧ kept session)
      (fun session other => after session other ∧ kept session) action mirror := by
  rintro session other ⟨related, has⟩
  obtain ⟨same, left⟩ := mirrors session other related
  exact ⟨same, left, keeps session has⟩

end Checkup.Action
