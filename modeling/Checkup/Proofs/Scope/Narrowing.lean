import Checkup.Proofs.Number.Comparison
import Checkup.Proofs.Scope.Cancellation

/-!
# Deadlines in trees of scopes

A scope that is made under another one takes over its deadline, unless its own one is not later. Main
statements: a scope without a deadline was made under scopes without one; whatever was made under an
expired scope is expired, as long as no deadline on the way is not a number. One that is not a number
stands next to any other, and a scope that has it never expires.
-/

namespace Checkup

namespace Scopes

/-- A scope was made under another one. It need not be attached to it any more. -/
def MadeUnder (scopes : Scopes) (parent child : ScopeId) : Prop :=
  ∃ scope, scopes.get? child = some scope ∧ scope.parent = some parent

/-- A scope was made under another one, or under one that was, and so on. -/
def Descends (scopes : Scopes) : ScopeId → ScopeId → Prop :=
  Relation.ReflTransGen scopes.MadeUnder

theorem MadeUnder.parent_eq {scopes : Scopes} {parent child : ScopeId} {above : Option ScopeId}
    (made : scopes.MadeUnder parent child)
    (known : (scopes.get? child).map (·.parent) = some above) : above = some parent := by
  obtain ⟨scope, found, under⟩ := made
  rw [found, Option.map_some, Option.some.injEq] at known
  exact known.symm.trans under

theorem narrowed_eq_none {above own : Option Float} :
    narrowed above own = none ↔ above = none ∧ own = none := by
  cases above <;> cases own <;> simp [narrowed]

/-- When the deadline above has come, a narrowed one has come too. -/
theorem narrowed_le {above deadline instant : Float} {own : Option Float}
    (taken : narrowed (some above) own = some deadline) (number : deadline.isNaN = false)
    (reached : above ≤ instant) : deadline ≤ instant := by
  cases own with
  | none =>
    cases taken
    exact reached
  | some own =>
    rw [narrowed] at taken
    by_cases earlier : above < own
    · rw [if_pos earlier] at taken
      cases taken
      exact reached
    · rw [if_neg earlier] at taken
      cases taken
      have aboveNumber := (Number.isNaN_of_le reached).1
      exact Number.float_le_trans (Number.float_le_of_not_lt aboveNumber number earlier) reached

theorem exists_narrowed_le {own instant : Float} (above : Option Float) (reached : own ≤ instant) :
    ∃ deadline, narrowed above (some own) = some deadline ∧ deadline ≤ instant := by
  cases above with
  | none => exact ⟨own, rfl, reached⟩
  | some above =>
    refine ⟨_, rfl, ?_⟩
    by_cases earlier : above < own
    · rw [if_pos earlier]
      exact Number.float_le_trans (Number.float_le_of_lt earlier) reached
    · rw [if_neg earlier]
      exact reached

/-- No deadline is strictly earlier than one that is not a number. -/
theorem narrowed_of_isNaN (above : Option Float) {own : Float} (odd : own.isNaN = true) :
    narrowed above (some own) = some own := by
  cases above with
  | none => rfl
  | some above =>
    have notEarlier : ¬above < own := by
      intro earlier
      have number := (Number.isNaN_of_le (Number.float_le_of_lt earlier)).2
      rw [odd] at number
      cases number
    rw [narrowed, if_neg notEarlier]

theorem Sound.deadline?_of_madeUnder {scopes : Scopes} (sound : scopes.Sound)
    {parent child : ScopeId} (made : scopes.MadeUnder parent child) :
    ∃ own, scopes.deadline? child = Scopes.narrowed (scopes.deadline? parent) own := by
  obtain ⟨scope, found, under⟩ := made
  obtain ⟨own, taken⟩ := sound.narrowed child scope parent found under
  refine ⟨own, ?_⟩
  rw [deadline?, found]
  exact taken

theorem Sound.deadline?_eq_none {scopes : Scopes} (sound : scopes.Sound)
    {ancestor descendant : ScopeId} (descends : scopes.Descends ancestor descendant)
    (free : scopes.deadline? descendant = none) : scopes.deadline? ancestor = none := by
  induction descends with
  | refl => exact free
  | tail before made inductionHypothesis =>
    obtain ⟨own, taken⟩ := sound.deadline?_of_madeUnder made
    rw [free] at taken
    exact inductionHypothesis (narrowed_eq_none.mp taken.symm).1

/-- No deadline on the way from a scope down to another one is not a number. -/
def Numbered (scopes : Scopes) (ancestor descendant : ScopeId) : Prop :=
  ∀ between deadline, scopes.Descends ancestor between → scopes.Descends between descendant →
    scopes.deadline? between = some deadline → deadline.isNaN = false

end Scopes

namespace Session

theorem isExpired_iff {session : Session} {id : ScopeId} :
    session.isExpired id = true ↔
      ∃ deadline, session.scopes.deadline? id = some deadline ∧ deadline ≤ session.now := by
  rw [isExpired, Option.any_eq_true]
  simp only [decide_eq_true_iff]

theorem isExpired_of_madeUnder {session : Session} (sound : session.scopes.Sound)
    {parent child : ScopeId} (made : session.scopes.MadeUnder parent child)
    (number : ∀ deadline, session.scopes.deadline? child = some deadline → deadline.isNaN = false)
    (expired : session.isExpired parent = true) : session.isExpired child = true := by
  rw [isExpired_iff] at expired ⊢
  obtain ⟨above, found, reached⟩ := expired
  obtain ⟨own, taken⟩ := sound.deadline?_of_madeUnder made
  rw [found] at taken
  cases has : session.scopes.deadline? child with
  | none =>
    rw [has] at taken
    cases (Scopes.narrowed_eq_none.mp taken.symm).1
  | some deadline =>
    rw [has] at taken
    exact ⟨deadline, rfl, Scopes.narrowed_le taken.symm (number deadline has) reached⟩

/-- Whatever was made under an expired scope is expired, as long as all deadlines on the way are
numbers. -/
theorem isExpired_of_descends {session : Session} (sound : session.scopes.Sound)
    {ancestor descendant : ScopeId} (descends : session.scopes.Descends ancestor descendant)
    (numbered : session.scopes.Numbered ancestor descendant)
    (expired : session.isExpired ancestor = true) : session.isExpired descendant = true := by
  induction descends with
  | refl => exact expired
  | @tail between child before made inductionHypothesis =>
    have above : session.scopes.Numbered ancestor between := by
      intro other deadline down up has
      exact numbered other deadline down (up.tail made) has
    have number : ∀ deadline, session.scopes.deadline? child = some deadline →
        deadline.isNaN = false := by
      intro deadline has
      exact numbered child deadline (before.tail made) Relation.ReflTransGen.refl has
    exact isExpired_of_madeUnder sound made number (inductionHypothesis above)

/-- A deadline that is not a number stands, whatever the scope above has, and never comes. -/
theorem isExpired_of_under_isNaN {session later : Session} {parent id : ScopeId}
    {deadline : Float} (odd : deadline.isNaN = true)
    (made : Action.under parent (some deadline) session = (.ok id, later)) (micros : Int) :
    { later with micros := micros }.isExpired id = false := by
  cases made
  have kept : (session.scopes.addChild parent (some deadline)).1.deadline?
      (session.scopes.addChild parent (some deadline)).2 = some deadline := by
    rw [Scopes.deadline?, Scopes.get?_addChild_self]
    exact Scopes.narrowed_of_isNaN _ odd
  refine Bool.eq_false_iff.mpr fun expired => ?_
  obtain ⟨found, has, reached⟩ := isExpired_iff.mp expired
  have same : some deadline = some found := kept.symm.trans has
  cases same
  have number := (Number.isNaN_of_le reached).1
  rw [odd] at number
  cases number

/-- In every session that comes about by operations on scopes, a scope has no deadline only if none
of those above it has one. If no deadline on the way down is not a number, a scope is expired at every
instant at which one above it is. -/
theorem Operated.narrowing {session : Session} (operated : session.Operated) :
    ∀ ancestor descendant, session.scopes.Descends ancestor descendant →
      (session.scopes.deadline? descendant = none →
        session.scopes.deadline? ancestor = none) ∧
      (session.scopes.Numbered ancestor descendant →
        ∀ micros : Int, { session with micros := micros }.isExpired ancestor = true →
          { session with micros := micros }.isExpired descendant = true) := by
  intro ancestor descendant descends
  refine ⟨operated.sound.deadline?_eq_none descends, ?_⟩
  intro numbered micros
  have sound : ({ session with micros := micros } : Session).scopes.Sound := operated.sound
  exact isExpired_of_descends sound descends numbered

/-- A scope that expires after five seconds, with a child whose deadline is not a number and another
one that would expire after eight; six seconds have passed. -/
def outlived : Session :=
  ((do
    let root ← Action.background (some 5)
    let _ ← Action.under root (some Number.notANumber)
    let _ ← Action.underFor root 8
    Action.advance (.whole 6) : Action Unit) {}).2

theorem outlived_operated : outlived.Operated := by
  refine ⟨{}, rfl, ?_⟩
  have root : Relation.ReflTransGen Operates {} _ := .single (.background {} (some 5))
  have odd := root.tail (.under (show 0 < _ by decide) (some Number.notANumber))
  have short := odd.tail (.underFor (show 0 < _ by decide) 8)
  exact short.tail (.advance _ (.whole 6))

theorem outlived_descends : outlived.scopes.Descends 0 1 := by
  refine Relation.ReflTransGen.single ?_
  have made : (outlived.scopes.get? 1).map (·.parent) = some (some 0) := by decide +kernel
  exact Option.map_eq_some_iff.mp made

/-- The child without a number for a deadline outlives the scope above it. -/
theorem outlived_escapes :
    outlived.Operated ∧ outlived.scopes.Descends 0 1 ∧ outlived.isExpired 0 = true ∧
      outlived.isExpired 1 = false :=
  ⟨outlived_operated, outlived_descends, by decide +kernel, by decide +kernel⟩

theorem outlived_numbered : outlived.scopes.Numbered 0 2 := by
  have numbers : ∀ id deadline, id = 0 ∨ id = 2 → outlived.scopes.deadline? id = some deadline →
      deadline.isNaN = false := by
    have checked : ∀ id, id = 0 ∨ id = 2 →
        (outlived.scopes.deadline? id).all (!·.isNaN) = true := by
      rintro id (rfl | rfl) <;> decide +kernel
    intro id deadline which found
    have whole := checked id which
    rw [found] at whole
    simpa using whole
  intro between deadline _ up found
  refine numbers between deadline ?_ found
  rcases Relation.ReflTransGen.cases_tail up with same | ⟨above, further, made⟩
  · exact .inr same.symm
  · have first : (outlived.scopes.get? 2).map (·.parent) = some (some 0) := by decide +kernel
    cases made.parent_eq first
    rcases Relation.ReflTransGen.cases_tail further with same | ⟨_, _, madeToo⟩
    · exact .inl same.symm
    · have root : (outlived.scopes.get? 0).map (·.parent) = some none := by decide +kernel
      cases madeToo.parent_eq root

theorem outlived_narrowing :
    outlived.scopes.deadline? 0 ≠ none ∧ outlived.isExpired 0 = true ∧
      outlived.scopes.deadline? 2 ≠ none ∧ outlived.isExpired 2 = true := by
  have descends : outlived.scopes.Descends 0 2 := by
    have made : (outlived.scopes.get? 2).map (·.parent) = some (some 0) := by decide +kernel
    exact Relation.ReflTransGen.single (Option.map_eq_some_iff.mp made)
  obtain ⟨free, expires⟩ := outlived_operated.narrowing 0 2 descends
  have deadline : outlived.scopes.deadline? 0 ≠ none := by
    refine Option.isSome_iff_ne_none.mp ?_
    decide +kernel
  have expired : outlived.isExpired 0 = true := by decide +kernel
  exact ⟨deadline, expired, fun missing => deadline (free missing),
    expires outlived_numbered outlived.micros expired⟩

end Session

end Checkup
