import Checkup.Proofs.Engine.Retry
import Checkup.Proofs.Session.Likeness
import Mathlib.Data.List.Forall2

/-!
# Two suites side by side

Suites are paired if they have the same categories and their checkers are paired one by one. Main
statement: if every attempt of the first suite has a counterpart in the second one, from every
session that looks alike, then the second suite makes attempt for attempt the same way, and it ends in
the same way.
-/

namespace Checkup

open Checkup.Action (Mirrors)

section Pairs

variable {pairs : Checker → Checker → Prop}

/-- A category with other checkers, each paired with one of the first category. -/
def Category.Paired (pairs : Checker → Checker → Prop) (category other : Category) : Prop :=
  ∃ checkers, other = { category with checkers } ∧ List.Forall₂ pairs category.checkers checkers

/-- Two checks of paired checkers, in categories that differ at most in their checkers. -/
structure CheckTask.Paired (pairs : Checker → Checker → Prop) (task other : CheckTask) : Prop where
  category : ∃ checkers, other.category = { task.category with checkers }
  checker : pairs task.checker other.checker
  held : task.checker.probe = some task.probe
  heldToo : other.checker.probe = some other.probe

inductive Item.Paired (pairs : Checker → Checker → Prop) : Item → Item → Prop where
  | passOver {category other : Category} (same : other.id = category.id) :
      Paired pairs (.passOver category) (.passOver other)
  | check {task other : CheckTask} (paired : task.Paired pairs other) :
      Paired pairs (.check task) (.check other)

theorem CheckTask.Paired.scope_eq {task other : CheckTask} (paired : task.Paired pairs other) :
    other.category.scope = task.category.scope := by
  obtain ⟨checkers, same⟩ := paired.category
  rw [same]

theorem Category.Paired.tasks
    (probed : ∀ checker other, pairs checker other → other.probe.isSome = checker.probe.isSome)
    {category other : Category} (paired : category.Paired pairs other) :
    List.Forall₂ (CheckTask.Paired pairs) category.tasks other.tasks := by
  obtain ⟨checkers, rfl, checkersPaired⟩ := paired
  refine List.rel_filterMap (R := pairs) ?_ checkersPaired
  intro checker checkerToo alike
  have sameKind := probed checker checkerToo alike
  cases held : checker.probe with
  | none =>
    rw [held, Option.isSome_none, Option.isSome_eq_false_iff, Option.isNone_iff_eq_none] at sameKind
    simp only [held, sameKind, Option.map_none]
    exact .none
  | some probe =>
    rw [held, Option.isSome_some] at sameKind
    obtain ⟨probeToo, heldToo⟩ := Option.isSome_iff_exists.mp sameKind
    simp only [held, heldToo, Option.map_some]
    exact .some ⟨⟨checkers, rfl⟩, alike, held, heldToo⟩

theorem agenda_paired
    (probed : ∀ checker other, pairs checker other → other.probe.isSome = checker.probe.isSome)
    {categories others : List Category}
    (paired : List.Forall₂ (Category.Paired pairs) categories others) :
    List.Forall₂ (Item.Paired pairs) (agenda categories) (agenda others) := by
  refine List.rel_flatMap paired ?_
  intro category other alike
  have tasks := alike.tasks probed
  obtain ⟨sameEnabled, sameId⟩ : other.enabled = category.enabled ∧ other.id = category.id := by
    obtain ⟨checkers, rfl, _⟩ := alike
    exact ⟨rfl, rfl⟩
  dsimp only
  rw [sameEnabled]
  by_cases enabled : category.enabled = true
  · rw [if_pos enabled, if_pos enabled]
    exact List.rel_map (fun _ _ paired => .check paired) tasks
  · rw [if_neg enabled, if_neg enabled]
    exact .cons (.passOver sameId) .nil

theorem Item.Paired.exists_check {task : CheckTask} {later others : List Item}
    (paired : List.Forall₂ (Item.Paired pairs) (.check task :: later) others) :
    ∃ other rest, others = .check other :: rest ∧ task.Paired pairs other ∧
      List.Forall₂ (Item.Paired pairs) later rest := by
  cases paired with
  | cons first rest =>
    cases first with
    | check pair => exact ⟨_, _, rfl, pair, rest⟩

end Pairs

/-- The endings of two runs are alike: both finish with values that are alike, or both end in the same
fault, or both are left unfinished. -/
inductive Ending.Abreast (alike : α → β → Prop) : Ending α → Ending β → Prop where
  | finished {value : α} {other : β} (same : alike value other) :
      Abreast alike (.finished value) (.finished other)
  | escaped (fault : Fault) : Abreast alike (.escaped fault) (.escaped fault)
  | unfinished : Abreast alike .unfinished .unfinished

theorem Ending.Abreast.eq {ending other : Ending α} (abreast : Ending.Abreast Eq ending other) :
    other = ending := by
  cases abreast with
  | finished same => rw [same]
  | escaped | unfinished => rfl

/-- Two runs of checks have attempts that are alike one by one, and end in the same way. -/
structure CheckRun.Abreast (turns : Turn → Turn → Prop) (run other : CheckRun) : Prop where
  turns : List.Forall₂ turns run.turns other.turns
  ending : other.ending = run.ending

theorem CheckRun.Abreast.eq {run other : CheckRun} (abreast : run.Abreast Eq other) :
    other = run := by
  obtain ⟨turns, ending⟩ := run
  obtain ⟨sameTurns, sameEnding⟩ := abreast
  rw [List.forall₂_eq_eq_eq] at sameTurns
  cases sameTurns
  cases sameEnding
  rfl

theorem CheckRun.Abreast.results {turns : Turn → Turn → Prop}
    {results : CheckResult → CheckResult → Prop}
    (told : ∀ turn other, turns turn other → Option.Rel results turn.result other.result)
    {run other : CheckRun} (abreast : run.Abreast turns other) :
    List.Forall₂ results run.results other.results :=
  List.rel_filterMap (fun turn turnToo alike => told turn turnToo alike) abreast.turns

theorem SuiteRun.results_abreast {turns : Turn → Turn → Prop}
    {results : CheckResult → CheckResult → Prop}
    (told : ∀ turn other, turns turn other → Option.Rel results turn.result other.result)
    {run other : SuiteRun} (checks : List.Forall₂ (CheckRun.Abreast turns) run.checks other.checks) :
    List.Forall₂ results run.results other.results :=
  List.rel_flatMap checks fun _ _ abreast => abreast.results told

theorem SuiteRun.results_eq_of_abreast {turns : Turn → Turn → Prop}
    (sameResult : ∀ turn other, turns turn other → other.result = turn.result)
    {run other : SuiteRun} (checks : List.Forall₂ (CheckRun.Abreast turns) run.checks other.checks) :
    other.results = run.results := by
  have told : ∀ turn other, turns turn other → Option.Rel Eq turn.result other.result := by
    intro turn turnToo alike
    rw [sameResult turn turnToo alike]
    cases turn.result with
    | none => exact .none
    | some result => exact .some rfl
  have same := SuiteRun.results_abreast told checks
  rw [List.forall₂_eq_eq_eq] at same
  exact same.symm

namespace Session.Likeness

variable {related : Session → Session → Prop} {configuration : Configuration} {observer : Observer}
  {task other : CheckTask}

theorem deliver_mirrors (likeness : Likeness related)
    (sameScope : other.category.scope = task.category.scope) {number : Nat} {retry : Bool}
    {outcome outcomeToo : Outcome}
    (tells : Mirrors related related
      (Category.tell observer (task.category.resultOf? task.checker retry outcome))
      (Category.tell observer (other.category.resultOf? other.checker retry outcomeToo))) :
    Mirrors related related (task.deliver configuration observer number outcome retry)
      (other.deliver configuration observer number outcomeToo retry) := by
  intro session sessionToo alike
  obtain ⟨desk, noted⟩ :=
    task.category.exists_logOutcome_eq task.checker number retry outcome session
  obtain ⟨deskToo, notedToo⟩ :=
    other.category.exists_logOutcome_eq other.checker number retry outcomeToo sessionToo
  have logged := likeness.logged alike desk deskToo
  rw [CheckTask.deliver, CheckTask.deliver, Category.deliver_eq, Category.deliver_eq, noted,
    notedToo, sameScope]
  dsimp only
  rcases told : Category.tell observer (task.category.resultOf? task.checker retry outcome)
      { session with desk } with ⟨fault | _, after⟩
  · obtain ⟨afterToo, toldToo, left⟩ := tells.exists_eq told logged
    rw [toldToo]
    exact ⟨rfl, left⟩
  · obtain ⟨afterToo, toldToo, left⟩ := tells.exists_eq told logged
    rw [toldToo]
    cases retry with
    | false => exact ⟨rfl, left⟩
    | true =>
      have waits := likeness.mirrors (Action.framed_wait task.category.scope
        configuration.retryWindow.seconds)
      rcases waited : Action.wait task.category.scope configuration.retryWindow.seconds after with
        ⟨answer, held⟩
      obtain ⟨heldToo, waitedToo, sameLeft⟩ := waits.exists_eq waited left
      simp only [if_true, waited, waitedToo]
      cases answer <;> exact ⟨rfl, sameLeft⟩

end Session.Likeness

namespace CheckTask

/-- The answer of an attempt whose probe answered so: whether the check is tried again is asked after
an outcome, in the session that the attempt leaves. -/
def decided (task : CheckTask) (answer : Except Fault Outcome) (ended : Session) :
    Except Fault (Outcome × Bool) :=
  answer.bind fun outcome =>
    (task.category.retries task.checker outcome ended).map fun retry => (outcome, retry)

theorem attempt_eq_decided (task : CheckTask) (configuration : Configuration) (session : Session) :
    (task.attempt configuration session).1 =
      task.decided (Outcome.ofAnswer (Category.judged (task.probe session.nextScope
        (session.entered task.category.scope configuration.timeout)).1))
          (task.attempt configuration session).2 := by
  rw [attempt, Category.attempt_eq]
  dsimp only
  cases Outcome.ofAnswer (Category.judged (task.probe session.nextScope
    (session.entered task.category.scope configuration.timeout)).1) <;> rfl

variable {related : Session → Session → Prop} {turns : Turn → Turn → Prop}
  {pairs : Checker → Checker → Prop} {configuration : Configuration} {observer : Observer}
  {task other : CheckTask}

theorem Paired.attempt_alike (paired : task.Paired pairs other)
    (sameRule : other.checker.policy.allowsRetry = task.checker.policy.allowsRetry)
    (likeness : Session.Likeness related) {session sessionToo : Session}
    (alike : related session sessionToo)
    (called : related
      (task.probe session.nextScope
        (session.entered task.category.scope configuration.timeout)).2
      (other.probe session.nextScope
        (sessionToo.entered task.category.scope configuration.timeout)).2) :
    related (task.attempt configuration session).2 (other.attempt configuration sessionToo).2 ∧
      (other.attempt configuration sessionToo).1 =
        task.decided (Outcome.ofAnswer (Category.judged (other.probe session.nextScope
          (sessionToo.entered task.category.scope configuration.timeout)).1))
            (task.attempt configuration session).2 := by
  have sameScope := paired.scope_eq
  have sameNext := likeness.nextScope_eq alike
  -- After the probe an attempt only writes to the log and detaches its scope.
  have left : related (task.attempt configuration session).2
      (other.attempt configuration sessionToo).2 := by
    obtain ⟨desk, ended⟩ := task.exists_attempt_eq configuration session
    obtain ⟨deskToo, endedToo⟩ := other.exists_attempt_eq configuration sessionToo
    rw [ended, endedToo, sameNext, sameScope]
    exact likeness.released (likeness.logged called desk deskToo) session.nextScope
  have sameRetries : ∀ outcome ended, other.category.retries other.checker outcome ended =
      task.category.retries task.checker outcome ended := by
    intro outcome ended
    rw [Category.retries, Category.retries, Category.allowsRetry, Category.allowsRetry, sameScope,
      sameRule]
  refine ⟨left, ?_⟩
  rw [attempt_eq_decided, sameNext, sameScope, decided, decided]
  congr 1
  funext outcome
  rw [sameRetries, likeness.retries_eq left]

/-- From a session, another check makes an attempt as a stage shows it: it ends in the same fault, or
its outcome is one that passes if that of the stage does, it is tried again if the stage is, and
telling of it makes no difference. -/
inductive Abreast (related : Session → Session → Prop) (turns : Turn → Turn → Prop)
    (configuration : Configuration) (observer : Observer) (task other : CheckTask)
    (session : Session) : Stage → Prop where
  | raised {started ended left endedToo : Session} {fault : Fault}
      (attempted : other.attempt configuration session = (.error fault, endedToo))
      (alike : related ended endedToo) :
      Abreast related turns configuration observer task other session
        ⟨started, ended, .error fault, left⟩
  | judged {started ended left endedToo : Session} {outcome outcomeToo : Outcome} {retry : Bool}
      (attempted : other.attempt configuration session = (.ok (outcomeToo, retry), endedToo))
      (alike : related ended endedToo) (passed : outcomeToo.passed = outcome.passed)
      (tells : Mirrors related related
        (Category.tell observer (task.category.resultOf? task.checker retry outcome))
        (Category.tell observer (other.category.resultOf? other.checker retry outcomeToo)))
      (turn : turns
        { outcome
          startedAt := started.micros
          endedAt := ended.micros
          result := task.category.resultOf? task.checker retry outcome }
        { outcome := outcomeToo
          startedAt := started.micros
          endedAt := ended.micros
          result := other.category.resultOf? other.checker retry outcomeToo }) :
      Abreast related turns configuration observer task other session
        ⟨started, ended, .ok (outcome, retry), left⟩

/-- A check whose attempts have counterparts in another check runs as that one does. -/
theorem Course.abreast (likeness : Session.Likeness related)
    (sameScope : other.category.scope = task.category.scope) {number limit : Nat}
    {session sessionToo final : Session} {stages : List Stage} {ending : Ending Bool}
    (course : task.Course configuration observer number session stages ending final)
    (within : stages.length ≤ limit) (all : ending = .unfinished → stages.length = limit)
    (steps : ∀ stage ∈ stages, ∀ startedToo, related stage.started startedToo →
      Abreast related turns configuration observer task other startedToo stage)
    (alike : related session sessionToo) :
    ∃ turnsToo finalToo, other.run configuration observer limit number sessionToo =
        (⟨turnsToo, ending⟩, finalToo) ∧
      List.Forall₂ turns (task.turns stages) turnsToo ∧ related final finalToo := by
  -- The stages decide where the first run ends; `steps` lets the other one go as far and no further.
  induction course generalizing limit sessionToo with
  | cut number session =>
    obtain rfl : 0 = limit := all rfl
    exact ⟨[], sessionToo, rfl, .nil, alike⟩
  | raised attempted =>
    obtain ⟨limit, rfl⟩ := Nat.exists_eq_add_one_of_ne_zero (Nat.ne_of_gt within)
    cases steps _ List.mem_cons_self sessionToo alike with
    | @raised _ _ _ endedToo _ attemptedToo left =>
      refine ⟨[], endedToo, ?_, .nil, left⟩
      rw [run_succ, attemptedToo]
  | untold attempted delivered =>
    obtain ⟨limit, rfl⟩ := Nat.exists_eq_add_one_of_ne_zero (Nat.ne_of_gt within)
    cases steps _ List.mem_cons_self sessionToo alike with
    | judged attemptedToo left passed tells turn =>
      obtain ⟨leftToo, deliveredToo, sameLeft⟩ :=
        (likeness.deliver_mirrors sameScope tells).exists_eq delivered left
      refine ⟨_, leftToo, ?_, .cons turn .nil, sameLeft⟩
      rw [run_succ, attemptedToo]
      simp only [deliveredToo, likeness.micros_eq alike, likeness.micros_eq left]
  | last attempted delivered =>
    obtain ⟨limit, rfl⟩ := Nat.exists_eq_add_one_of_ne_zero (Nat.ne_of_gt within)
    cases steps _ List.mem_cons_self sessionToo alike with
    | judged attemptedToo left passed tells turn =>
      obtain ⟨leftToo, deliveredToo, sameLeft⟩ :=
        (likeness.deliver_mirrors sameScope tells).exists_eq delivered left
      refine ⟨_, leftToo, ?_, .cons turn .nil, sameLeft⟩
      rw [run_succ, attemptedToo]
      simp only [deliveredToo, likeness.micros_eq alike, likeness.micros_eq left, passed,
        Bool.false_eq_true, if_false]
  | again attempted delivered onward inductionHypothesis =>
    have some : limit ≠ 0 := Nat.ne_of_gt (Nat.zero_lt_of_lt within)
    obtain ⟨limit, rfl⟩ := Nat.exists_eq_add_one_of_ne_zero some
    obtain ⟨first, rest⟩ := List.forall_mem_cons.mp steps
    cases first sessionToo alike with
    | judged attemptedToo left passed tells turn =>
      obtain ⟨leftToo, deliveredToo, sameLeft⟩ :=
        (likeness.deliver_mirrors sameScope tells).exists_eq delivered left
      have allLater := fun unfinished => Nat.succ.inj (all unfinished)
      obtain ⟨turnsToo, finalToo, ranToo, turnsAlike, sameFinal⟩ :=
        inductionHypothesis (Nat.le_of_succ_le_succ within) allLater rest sameLeft
      refine ⟨_ :: turnsToo, finalToo, ?_, .cons turn turnsAlike, sameFinal⟩
      rw [run_succ, attemptedToo]
      simp only [deliveredToo, ranToo, likeness.micros_eq alike, likeness.micros_eq left, if_true]
      rfl

end CheckTask

structure Checker.Reprobed (checker other : Checker) : Prop where
  rest : other = { checker with probe := other.probe }
  probed : other.probe.isSome = checker.probe.isSome

namespace CheckTask

variable {configuration : Configuration} {observer : Observer} {task other : CheckTask}

/-- At an attempt, a probe leaves the session that the probe of the check leaves, but for the log, and
gives a related answer, whatever the log is. -/
def Mimics (answers : Except Fault Returned → Except Fault Returned → Prop)
    (configuration : Configuration) (task : CheckTask) (stage : Stage) (probe : Probe) : Prop :=
  ∀ entered, (stage.started.entered task.category.scope configuration.timeout).SameButLog entered →
    (task.probe stage.started.nextScope
        (stage.started.entered task.category.scope configuration.timeout)).2.SameButLog
      (probe stage.started.nextScope entered).2 ∧
    answers
      (task.probe stage.started.nextScope
        (stage.started.entered task.category.scope configuration.timeout)).1
      (probe stage.started.nextScope entered).1

theorem Paired.resultOf_eq (paired : task.Paired Checker.Reprobed other) (retry : Bool)
    (outcome : Outcome) :
    other.category.resultOf? other.checker retry outcome =
      task.category.resultOf? task.checker retry outcome := by
  obtain ⟨checkers, sameCategory⟩ := paired.category
  rw [sameCategory, paired.checker.rest]
  cases outcome <;> rfl

theorem Paired.exists_attempt {answers : Except Fault Returned → Except Fault Returned → Prop}
    (paired : task.Paired Checker.Reprobed other) {stage : Stage}
    (mimics : task.Mimics answers configuration stage other.probe)
    (attempted : task.attempt configuration stage.started = (stage.answer, stage.ended))
    {startedToo : Session} (same : stage.started.SameButLog startedToo) :
    ∃ answer answerToo endedToo, answers answer answerToo ∧
      stage.answer = task.decided (Outcome.ofAnswer (Category.judged answer)) stage.ended ∧
        other.attempt configuration startedToo =
          (task.decided (Outcome.ofAnswer (Category.judged answerToo)) stage.ended, endedToo) ∧
        stage.ended.SameButLog endedToo := by
  have likeness := Session.likeness_sameButLog
  obtain ⟨called, related⟩ :=
    mimics _ (likeness.entered same task.category.scope configuration.timeout)
  have sameRule : other.checker.policy.allowsRetry = task.checker.policy.allowsRetry := by
    rw [paired.checker.rest]
  obtain ⟨left, answered⟩ := paired.attempt_alike sameRule likeness same called
  have judged := task.attempt_eq_decided configuration stage.started
  rw [attempted] at left answered judged
  exact ⟨_, _, _, related, judged, Prod.ext answered rfl, left⟩

theorem tell_mirrors (watches : ∀ result, (observer result).IgnoresLog)
    (result : Option CheckResult) :
    Mirrors Session.SameButLog Session.SameButLog (Category.tell observer result)
      (Category.tell observer result) := by
  cases result with
  | none => exact Action.mirrors_pure ()
  | some result => exact Action.ignoresLog_iff.mp (watches result)

/-- A check makes the attempt of a stage if its attempt has the same answer, and telling of it makes no
difference. -/
theorem abreast_of_answer {related : Session → Session → Prop} {turns : Turn → Turn → Prop}
    {stage : Stage} {startedToo endedToo : Session}
    (tells : ∀ outcome retry, Mirrors related related
      (Category.tell observer (task.category.resultOf? task.checker retry outcome))
      (Category.tell observer (other.category.resultOf? other.checker retry outcome)))
    (same : ∀ outcome retry startedAt endedAt, turns
      ⟨outcome, startedAt, endedAt, task.category.resultOf? task.checker retry outcome⟩
      ⟨outcome, startedAt, endedAt, other.category.resultOf? other.checker retry outcome⟩)
    (attempted : other.attempt configuration startedToo = (stage.answer, endedToo))
    (left : related stage.ended endedToo) :
    Abreast related turns configuration observer task other startedToo stage := by
  obtain ⟨started, ended, answer, after⟩ := stage
  cases answer with
  | error fault => exact .raised attempted left
  | ok judged =>
    obtain ⟨outcome, retry⟩ := judged
    exact .judged attempted left rfl (tells outcome retry) (same outcome retry _ _)

theorem Paired.abreast_of_answer {turns : Turn → Turn → Prop} (same : ∀ turn, turns turn turn)
    (paired : task.Paired Checker.Reprobed other)
    (watches : ∀ result, (observer result).IgnoresLog) {stage : Stage}
    {startedToo endedToo : Session}
    (attempted : other.attempt configuration startedToo = (stage.answer, endedToo))
    (left : stage.ended.SameButLog endedToo) :
    Abreast Session.SameButLog turns configuration observer task other startedToo stage := by
  refine CheckTask.abreast_of_answer ?_ ?_ attempted left
  · intro outcome retry
    rw [paired.resultOf_eq]
    exact tell_mirrors watches _
  · intro outcome retry startedAt endedAt
    rw [paired.resultOf_eq]
    exact same _

end CheckTask

namespace Performance

variable {related : Session → Session → Prop} {turns : Turn → Turn → Prop}
  {pairs : Checker → Checker → Prop} {configuration : Configuration} {observer : Observer}
  {limit : Nat}

/-- From sessions that look alike, another check runs as a check did that was performed. -/
def RepeatedBy (related : Session → Session → Prop) (turns : Turn → Turn → Prop)
    (configuration : Configuration) (observer : Observer) (limit : Nat) (done : Performance)
    (other : CheckTask) : Prop :=
  ∀ startedToo, related done.started startedToo →
    ∃ runToo endedToo,
      other.run configuration observer limit 1 startedToo = (runToo, endedToo) ∧
        done.run.Abreast turns runToo ∧ related done.ended endedToo

theorem exists_repeated {first : Performance} {performed : List Performance}
    {later others : List Item} {startedToo : Session}
    (paired : List.Forall₂ (Item.Paired pairs) (.check first.task :: later) others)
    (checks : ∀ pair ∈ (first :: performed).zip (others.filterMap Item.task?),
      pair.1.task.Paired pairs pair.2 →
        pair.1.RepeatedBy related turns configuration observer limit pair.2)
    (alike : related first.started startedToo) :
    ∃ other rest runToo endedToo, others = .check other :: rest ∧
      List.Forall₂ (Item.Paired pairs) later rest ∧ first.task.Paired pairs other ∧
        other.run configuration observer limit 1 startedToo = (runToo, endedToo) ∧
          first.run.Abreast turns runToo ∧ related first.ended endedToo := by
  obtain ⟨other, rest, rfl, pair, laterPaired⟩ := Item.Paired.exists_check paired
  obtain ⟨runToo, endedToo, ran⟩ := checks (first, other) List.mem_cons_self pair _ alike
  exact ⟨other, rest, runToo, endedToo, rfl, laterPaired, pair, ran⟩

end Performance

namespace Engine

variable {related : Session → Session → Prop} {turns : Turn → Turn → Prop}
  {pairs : Checker → Checker → Prop} {verdicts : Verdict → Verdict → Prop}
  {configuration : Configuration} {observer : Observer} {limit : Nat}

/-- A suite whose checks have counterparts in another suite runs as that one does. -/
theorem Sweep.abreast (likeness : Session.Likeness related)
    (sameFatal : ∀ checker other, pairs checker other → other.policy.fatal = checker.policy.fatal)
    (counts : ∀ checker other, pairs checker other → ∀ verdict verdictToo,
      verdicts verdict verdictToo →
        verdicts (verdict.fail checker.policy.warning) (verdictToo.fail other.policy.warning))
    {items others : List Item} (paired : List.Forall₂ (Item.Paired pairs) items others)
    {verdict verdictToo : Verdict} {session sessionToo final : Session}
    {performed : List Performance} {ending : Ending Verdict}
    (sweep : Sweep configuration observer limit items verdict session performed ending final)
    (checks : ∀ pair ∈ performed.zip (others.filterMap Item.task?),
      pair.1.task.Paired pairs pair.2 →
        pair.1.RepeatedBy related turns configuration observer limit pair.2)
    (sameVerdict : verdicts verdict verdictToo) (alike : related session sessionToo) :
    ∃ runToo finalToo,
      runItems configuration observer limit others verdictToo sessionToo = (runToo, finalToo) ∧
        List.Forall₂ (CheckRun.Abreast turns) (performed.map (·.run)) runToo.checks ∧
          Ending.Abreast verdicts ending runToo.ending ∧ related final finalToo := by
  induction sweep generalizing others verdictToo sessionToo with
  | complete same =>
    cases paired
    exact ⟨_, _, rfl, .nil, .finished sameVerdict,
      likeness.sameButLog alike same (.logged ..)⟩
  | passedOver same onward inductionHypothesis =>
    cases paired with
    | cons first rest =>
      cases first
      exact inductionHypothesis rest checks sameVerdict
        (likeness.sameButLog alike same (.logged ..))
  | escaped ran broken =>
    obtain ⟨other, rest, runToo, endedToo, rfl, _, pair, ranToo, abreast, sameEnd⟩ :=
      Performance.exists_repeated paired checks alike
    have brokenToo := abreast.ending.trans broken
    refine ⟨⟨[runToo], .escaped _⟩, endedToo, ?_, .cons abreast .nil, .escaped _, sameEnd⟩
    rw [runItems, ranToo]
    simp only [brokenToo]
  | unfinished ran broken =>
    obtain ⟨other, rest, runToo, endedToo, rfl, _, pair, ranToo, abreast, sameEnd⟩ :=
      Performance.exists_repeated paired checks alike
    have brokenToo := abreast.ending.trans broken
    refine ⟨⟨[runToo], .unfinished⟩, endedToo, ?_, .cons abreast .nil, .unfinished, sameEnd⟩
    rw [runItems, ranToo]
    simp only [brokenToo]
  | halted ran failed fatal same =>
    obtain ⟨other, rest, runToo, endedToo, rfl, _, pair, ranToo, abreast, sameEnd⟩ :=
      Performance.exists_repeated paired checks alike
    have failedToo := abreast.ending.trans failed
    have fatalToo := (sameFatal _ _ pair.checker).trans fatal
    have noted := likeness.sameButLog sameEnd same (.logged endedToo .warning "fatal_check_failed"
      [("category", .text other.category.id), ("check", .text other.checker.description)])
    refine ⟨⟨[runToo], .finished (verdictToo.fail other.checker.policy.warning)⟩, _, ?_,
      .cons abreast .nil, .finished (counts _ _ pair.checker _ _ sameVerdict), noted⟩
    rw [runItems, ranToo]
    simp only [failedToo, fatalToo, if_true]
  | @next task later verdict session ended final run passed performed ending ran finished goesOn
      onward inductionHypothesis =>
    obtain ⟨other, rest, runToo, endedToo, rfl, laterPaired, pair, ranToo, abreast, sameEnd⟩ :=
      Performance.exists_repeated paired checks alike
    have finishedToo := abreast.ending.trans finished
    have checksLater := fun pair member => checks pair (List.mem_cons_of_mem _ member)
    have counted := Performance.addTo_of_finished verdict ⟨task, run, session, ended⟩ finished
    rw [counted] at inductionHypothesis
    -- A failure is counted before the suite goes on, and it goes on only past a harmless check.
    cases passed with
    | true =>
      obtain ⟨restToo, finalToo, sweptToo, abreastLater, sameEnding, sameFinal⟩ :=
        inductionHypothesis laterPaired checksLater sameVerdict sameEnd
      refine ⟨restToo.prepend runToo, finalToo, ?_, .cons abreast abreastLater, sameEnding,
        sameFinal⟩
      rw [runItems, ranToo]
      simp only [finishedToo, sweptToo]
    | false =>
      have harmless : task.checker.policy.fatal = false :=
        goesOn.resolve_left Bool.false_ne_true
      have harmlessToo := (sameFatal _ _ pair.checker).trans harmless
      obtain ⟨restToo, finalToo, sweptToo, abreastLater, sameEnding, sameFinal⟩ :=
        inductionHypothesis laterPaired checksLater (counts _ _ pair.checker _ _ sameVerdict)
          sameEnd
      refine ⟨restToo.prepend runToo, finalToo, ?_, .cons abreast abreastLater, sameEnding,
        sameFinal⟩
      rw [runItems, ranToo]
      simp only [finishedToo, harmlessToo, sweptToo, Bool.false_eq_true, if_false]

theorem Sweep.tasks_eq {items : List Item} {verdict : Verdict} {session final : Session}
    {performed : List Performance} {ending : Ending Verdict}
    (sweep : Sweep configuration observer limit items verdict session performed ending final) :
    performed.map (·.task) = (items.filterMap Item.task?).take performed.length := by
  induction sweep with
  | complete => rfl
  | passedOver same onward inductionHypothesis => exact inductionHypothesis
  | escaped | unfinished | halted => rfl
  | @next task later verdict session ended final run passed performed ending ran finished goesOn
      onward inductionHypothesis =>
    exact congrArg (task :: ·) inductionHypothesis

theorem Sweep.tasks_paired {items others : List Item}
    (paired : List.Forall₂ (Item.Paired pairs) items others) {verdict verdictToo : Verdict}
    {session sessionToo final finalToo : Session} {performed performedToo : List Performance}
    {ending endingToo : Ending Verdict}
    (sweep : Sweep configuration observer limit items verdict session performed ending final)
    (sweepToo : Sweep configuration observer limit others verdictToo sessionToo performedToo
      endingToo finalToo)
    (sameLength : performedToo.length = performed.length) :
    List.Forall₂ (fun done other => done.task.Paired pairs other.task) performed performedToo := by
  have tasks : List.Forall₂ (CheckTask.Paired pairs) (items.filterMap Item.task?)
      (others.filterMap Item.task?) := by
    refine List.rel_filterMap ?_ paired
    intro item other alike
    cases alike with
    | passOver same => exact .none
    | check alike => exact .some alike
  have first := List.forall₂_take performed.length tasks
  rw [← sweep.tasks_eq, ← sameLength, ← sweepToo.tasks_eq] at first
  rw [List.forall₂_map_left_iff, List.forall₂_map_right_iff] at first
  exact first

/-- A suite whose attempts have counterparts in another suite runs as that one does. -/
theorem runChecks_abreast {engine : Engine} {others : List Category}
    (likeness : Session.Likeness related)
    (probed : ∀ checker other, pairs checker other → other.probe.isSome = checker.probe.isSome)
    (sameFatal : ∀ checker other, pairs checker other → other.policy.fatal = checker.policy.fatal)
    (counts : ∀ checker other, pairs checker other → ∀ verdict verdictToo,
      verdicts verdict verdictToo →
        verdicts (verdict.fail checker.policy.warning) (verdictToo.fail other.policy.warning))
    (start : verdicts {} {}) (paired : List.Forall₂ (Category.Paired pairs) engine.categories others)
    {session sessionToo final : Session} {performed : List Performance} {run : SuiteRun}
    (sweep : Sweep engine.configuration observer limit (agenda engine.categories) {} session
      performed run.ending final)
    (checks : run.checks = performed.map (·.run))
    (steps : ∀ pair ∈ performed.zip (enabledTasks others), pair.1.task.Paired pairs pair.2 →
      ∀ stages, pair.1.Attempts engine.configuration observer limit stages →
        ∀ stage ∈ stages, ∀ startedToo, related stage.started startedToo →
          CheckTask.Abreast related turns engine.configuration observer pair.1.task pair.2
            startedToo stage)
    (alike : related session sessionToo) :
    ∃ runToo finalToo,
      runChecks ⟨others, engine.configuration⟩ observer sessionToo limit = (runToo, finalToo) ∧
        List.Forall₂ (CheckRun.Abreast turns) run.checks runToo.checks ∧
          Ending.Abreast verdicts run.ending runToo.ending ∧ related final finalToo := by
  rw [checks]
  refine sweep.abreast likeness sameFatal counts (agenda_paired probed paired) ?_ start alike
  rw [agenda_tasks]
  intro pair member tasksPaired startedToo sameStart
  have performedFirst : pair.1 ∈ performed := (List.of_mem_zip member).1
  obtain ⟨_, ran⟩ := sweep.ran pair.1 performedFirst
  obtain ⟨stages, course, kept, within, all⟩ := CheckTask.exists_course ran
  have attempts : pair.1.Attempts engine.configuration observer limit stages :=
    ⟨ran, course, kept, all⟩
  obtain ⟨turnsToo, endedToo, ranToo, turnsAlike, sameEnd⟩ :=
    course.abreast likeness tasksPaired.scope_eq within all
      (steps pair member tasksPaired stages attempts) sameStart
  rw [← kept] at turnsAlike
  exact ⟨_, endedToo, ranToo, ⟨turnsAlike, rfl⟩, sameEnd⟩

/-- A suite with other probes, whose attempts have counterparts whatever the log is. -/
theorem runChecks_reprobed {engine : Engine} {others : List Category}
    (paired : List.Forall₂ (Category.Paired Checker.Reprobed) engine.categories others)
    {session final : Session} {performed : List Performance} {run : SuiteRun}
    (sweep : Sweep engine.configuration observer limit (agenda engine.categories) {} session
      performed run.ending final)
    (checks : run.checks = performed.map (·.run))
    (steps : ∀ pair ∈ performed.zip (enabledTasks others),
      pair.1.task.Paired Checker.Reprobed pair.2 →
        ∀ stages, pair.1.Attempts engine.configuration observer limit stages →
          ∀ stage ∈ stages, ∀ startedToo, stage.started.SameButLog startedToo →
            CheckTask.Abreast Session.SameButLog turns engine.configuration observer pair.1.task
              pair.2 startedToo stage) :
    ∃ runToo finalToo,
      runChecks ⟨others, engine.configuration⟩ observer session limit = (runToo, finalToo) ∧
        List.Forall₂ (CheckRun.Abreast turns) run.checks runToo.checks ∧
          runToo.ending = run.ending ∧ final.SameButLog finalToo := by
  have sameFatal : ∀ checker other : Checker, checker.Reprobed other →
      other.policy.fatal = checker.policy.fatal := by
    intro checker other reprobed
    rw [reprobed.rest]
  have counts : ∀ checker other : Checker, checker.Reprobed other → ∀ verdict verdictToo : Verdict,
      verdict = verdictToo →
        verdict.fail checker.policy.warning = verdictToo.fail other.policy.warning := by
    rintro checker other reprobed verdict _ rfl
    rw [reprobed.rest]
  obtain ⟨runToo, finalToo, ranToo, abreast, sameEnding, sameFinal⟩ :=
    runChecks_abreast Session.likeness_sameButLog (fun _ _ reprobed => reprobed.probed) sameFatal
      counts rfl paired sweep checks steps (.refl session)
  exact ⟨runToo, finalToo, ranToo, abreast, sameEnding.eq, sameFinal⟩

end Engine

end Checkup
