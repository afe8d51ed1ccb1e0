import Checkup.Proofs.Engine.Sweep
import Checkup.Proofs.Session.Reach
import Checkup.Proofs.Session.WallClock

/-!
# Retries while they are permitted

A failed attempt permits another one as long as the scope of its category is not done and the wall
clock shows less than the deadline for retries, in the time in which the deadline is given. Main
statements: an attempt is followed by another one exactly if it failed and permits it, unless the run
is broken off; once the scope is done, a check that is on its way makes at most one more attempt, and
every later check of the scope at most one. The wall clock and the deadline compare as instants do
unless the wall clock is set back in between.
-/

namespace Checkup

namespace CheckTask

variable {task : CheckTask} {configuration : Configuration} {observer : Observer}

def zone (task : CheckTask) (session : Session) (deadline : Moment) : Zone :=
  task.checker.policy.zone session.clockwork deadline

/-- The wall clock can be read, and in the time in which the deadline for retries is given it shows
less than the deadline. -/
def BeforeDeadline (task : CheckTask) (session : Session) : Prop :=
  ∃ deadline, task.checker.policy.retryDeadline = some deadline ∧
    (task.zone session deadline).Readable session.instant ∧
      (task.zone session deadline).shown session.instant < deadline.micros

/-- A failed attempt that ends in a session permits another one. -/
def Permits (task : CheckTask) (session : Session) : Prop :=
  session.isDone task.category.scope = false ∧ task.BeforeDeadline session

def Fails (task : CheckTask) (configuration : Configuration) (stage : Stage) (cause : Fault) :
    Prop :=
  task.category.attempt task.checker configuration.timeout task.probe stage.started =
    (.ok (.failure cause), stage.ended)

theorem allowsRetry_iff (session : Session) :
    task.checker.policy.allowsRetry session = .ok true ↔ task.BeforeDeadline session := by
  unfold Policy.allowsRetry BeforeDeadline zone
  cases task.checker.policy.retryDeadline with
  | none => simp
  | some deadline =>
    simp only [bind_eq_ok, Session.timeIn_eq_ok, Except.ok.injEq, Option.some.injEq]
    constructor
    · rintro ⟨_, ⟨readable, rfl⟩, less⟩
      exact ⟨deadline, rfl, readable, of_decide_eq_true less⟩
    · rintro ⟨_, rfl, readable, less⟩
      exact ⟨_, ⟨readable, rfl⟩, decide_eq_true less⟩

/-- To be before a deadline for retries is a matter of instants if the clocks in whose time it is given
are not set back between the present and the instant at which they show it. Clocks with an offset that
the deadline carries never are. -/
structure ComparesInstants (task : CheckTask) (session : Session) (deadline : Moment) : Prop where
  steady : ∀ due, (task.zone session deadline).shown due = deadline.micros →
    (task.zone session deadline).Steady session.instant due →
      (task.BeforeDeadline session ↔ session.instant < due)
  fixed : task.checker.policy.region = none → deadline.offset.isSome = true →
    (task.BeforeDeadline session ↔ session.instant < deadline.instant)

theorem zone_of_offset {session : Session} {deadline : Moment} {offset : Int}
    (nowhere : task.checker.policy.region = none) (carries : deadline.offset = some offset) :
    task.zone session deadline = .fixed offset := by
  rw [zone, Policy.zone, nowhere, carries]
  rfl

theorem comparesInstants {session : Session} {deadline : Moment}
    (dated : task.checker.policy.retryDeadline = some deadline)
    (readable : (task.zone session deadline).Readable session.instant) :
    task.ComparesInstants session deadline := by
  have before : task.BeforeDeadline session ↔
      (task.zone session deadline).shown session.instant < deadline.micros := by
    constructor
    · rintro ⟨other, has, _, less⟩
      obtain rfl := Option.some.inj (dated.symm.trans has)
      exact less
    · intro less
      exact ⟨deadline, dated, readable, less⟩
  constructor
  · intro due shows steady
    rw [before, ← shows]
    exact steady.shown_lt_iff
  · intro nowhere carries
    obtain ⟨offset, carried⟩ := Option.isSome_iff_exists.mp carries
    rw [before, zone_of_offset nowhere carried, Moment.instant, carried]
    exact Zone.fixed_comesAt offset deadline.micros session.instant

/-- The engine allows another attempt exactly if the failed one permits it. -/
theorem retries_iff (cause : Fault) (session : Session) :
    task.category.retries task.checker (.failure cause) session = .ok true ↔
      task.Permits session := by
  unfold Category.retries Category.allowsRetry Permits
  rw [← allowsRetry_iff]
  cases done : session.isDone task.category.scope <;> simp [Outcome.passed, Outcome.fault?]

/-- An attempt that is followed by another one failed and permits it. -/
theorem permits_of_retried {started ended : Session} {outcome : Outcome}
    (attempted : task.attempt configuration started = (.ok (outcome, true), ended)) :
    ∃ cause, outcome = .failure cause ∧
      task.category.attempt task.checker configuration.timeout task.probe started =
        (.ok (.failure cause), ended) ∧ task.Permits ended := by
  obtain ⟨cause, rfl⟩ := failure_of_retried attempted
  rcases found : task.category.attempt task.checker configuration.timeout task.probe started with
    ⟨fault | judged, after⟩
  · simp [attempt, found] at attempted
  · simp only [attempt, found, Prod.mk.injEq] at attempted
    obtain ⟨answered, rfl⟩ := attempted
    cases decision : task.category.retries task.checker judged after with
    | error fault => simp [decision, Except.map] at answered
    | ok retry =>
      simp only [decision, Except.map, Except.ok.injEq, Prod.mk.injEq] at answered
      obtain ⟨rfl, rfl⟩ := answered
      exact ⟨cause, rfl, rfl, (retries_iff cause after).mp decision⟩

theorem attempt_of_permits {started ended : Session} {cause : Fault}
    (failed : task.category.attempt task.checker configuration.timeout task.probe started =
      (.ok (.failure cause), ended))
    (permits : task.Permits ended) :
    task.attempt configuration started = (.ok (.failure cause, true), ended) := by
  rw [attempt, failed]
  simp only [(retries_iff cause ended).mpr permits, Except.map]

/-- The rest of a course from one of its attempts on. -/
theorem Course.exists_rest {number : Nat} {session final : Session} {earlier later : List Stage}
    {stage : Stage} {ending : Ending Bool}
    (course : task.Course configuration observer number session (earlier ++ stage :: later) ending
      final) :
    ∃ reached, task.Course configuration observer reached stage.started (stage :: later) ending
      final := by
  induction earlier generalizing number session with
  | nil =>
    have start : session = stage.started := by
      cases course <;> rfl
    exact ⟨number, start ▸ course⟩
  | cons first earlier inductionHypothesis =>
    generalize rest : earlier ++ stage :: later = stages at inductionHypothesis course
    rw [List.cons_append, rest] at course
    cases course with
    | again attempted delivered onward => exact inductionHypothesis onward
    | raised | untold | last => simp at rest

/-- The run of a check is broken off after a failed attempt: no other attempt is left, or telling of
the failed one ends in a fault. -/
def BrokenOff (task : CheckTask) (configuration : Configuration) (observer : Observer)
    (stage : Stage) (cause : Fault) (ending : Ending Bool) : Prop :=
  ending = .unfinished ∨ ∃ number fault, ending = .escaped fault ∧
    (task.deliver configuration observer number (.failure cause) true stage.ended).1 = .error fault

theorem Course.permits_of_next {number : Nat} {session final : Session} {stage : Stage}
    {later : List Stage} {ending : Ending Bool}
    (course : task.Course configuration observer number session (stage :: later) ending final)
    (next : later ≠ []) :
    (∃ cause, task.Fails configuration stage cause) ∧ task.Permits stage.ended := by
  cases course with
  | again attempted delivered onward =>
    obtain ⟨cause, _, failed, permits⟩ := permits_of_retried attempted
    exact ⟨⟨cause, failed⟩, permits⟩
  | raised | untold | last => exact absurd rfl next

/-- A failed attempt that permits another one is followed by it unless the run is broken off. -/
theorem Course.next_of_permits {number : Nat} {session final : Session} {stage : Stage}
    {later : List Stage} {ending : Ending Bool} {cause : Fault}
    (course : task.Course configuration observer number session (stage :: later) ending final)
    (failed : task.Fails configuration stage cause) (permits : task.Permits stage.ended) :
    later ≠ [] ∨ task.BrokenOff configuration observer stage cause ending := by
  have retried := attempt_of_permits failed permits
  cases course with
  | raised attempted =>
    rw [attempted] at retried
    cases retried
  | @untold number started ended left outcome retry fault attempted delivered =>
    rw [attempted] at retried
    cases retried
    exact .inr (.inr ⟨number, fault, rfl, congrArg Prod.fst delivered⟩)
  | last attempted delivered =>
    rw [attempted] at retried
    cases retried
  | again attempted delivered onward =>
    cases onward with
    | cut => exact .inr (.inl rfl)
    | raised | untold | last | again => exact .inl (List.cons_ne_nil _ _)

theorem retry_resultOf {retry : Bool} {outcome : Outcome} {result : CheckResult}
    (emitted : task.category.resultOf? task.checker retry outcome = some result) :
    result.retry = retry := by
  cases outcome with
  | skip reason => cases emitted
  | ok | verbose | failure => cases emitted; rfl

/-- An attempt with a provisional result ended before the deadline for retries. -/
theorem Course.early {number : Nat} {session final : Session} {stage : Stage}
    {later : List Stage} {ending : Ending Bool} {turn : Turn} {result : CheckResult}
    (course : task.Course configuration observer number session (stage :: later) ending final)
    (kept : task.turn? stage = some turn) (told : turn.result = some result)
    (provisional : result.retry = true) : task.BeforeDeadline stage.ended := by
  have retried : ∀ {started ended outcome retry},
      task.attempt configuration started = (.ok (outcome, retry), ended) →
        task.category.resultOf? task.checker retry outcome = some result →
          task.BeforeDeadline ended := by
    intro started ended outcome retry attempted emitted
    rw [retry_resultOf emitted] at provisional
    subst provisional
    obtain ⟨_, _, _, permits⟩ := permits_of_retried attempted
    exact permits.2
  cases course with
  | raised attempted => cases kept
  | untold attempted | last attempted | again attempted =>
    cases kept
    exact retried attempted told

/-- The attempts of a check are repeated exactly while they permit it. -/
structure Repeats (task : CheckTask) (configuration : Configuration) (observer : Observer)
    (stages : List Stage) (ending : Ending Bool) : Prop where
  /-- In a run that has come to its end, a failed attempt is followed by another one exactly if it
  permits it. -/
  exactly : ∀ earlier stage later cause, stages = earlier ++ stage :: later →
    task.Fails configuration stage cause → (∃ passed, ending = .finished passed) →
      (later ≠ [] ↔ task.Permits stage.ended)
  /-- In every run, only a failed attempt that permits another one is followed by one. -/
  permitted : ∀ earlier stage later, stages = earlier ++ stage :: later → later ≠ [] →
    (∃ cause, task.Fails configuration stage cause) ∧ task.Permits stage.ended
  /-- In every run, a failed attempt that permits another one is followed by it unless the run is
  broken off. -/
  followed : ∀ earlier stage later cause, stages = earlier ++ stage :: later →
    task.Fails configuration stage cause → task.Permits stage.ended →
      later ≠ [] ∨ task.BrokenOff configuration observer stage cause ending
  /-- Without a deadline for retries there is only one attempt. -/
  once : task.checker.policy.retryDeadline = none → stages.length ≤ 1
  /-- No provisional result is told of an attempt that ends at or after the deadline. -/
  early : ∀ stage ∈ stages, ∀ turn result, task.turn? stage = some turn →
    turn.result = some result → result.retry = true → task.BeforeDeadline stage.ended

theorem Course.repeats {number : Nat} {session final : Session} {stages : List Stage}
    {ending : Ending Bool}
    (course : task.Course configuration observer number session stages ending final) :
    task.Repeats configuration observer stages ending := by
  have permitted : ∀ earlier stage later, stages = earlier ++ stage :: later → later ≠ [] →
      (∃ cause, task.Fails configuration stage cause) ∧ task.Permits stage.ended := by
    rintro earlier stage later rfl next
    obtain ⟨_, rest⟩ := course.exists_rest
    exact rest.permits_of_next next
  have followed : ∀ earlier stage later cause, stages = earlier ++ stage :: later →
      task.Fails configuration stage cause → task.Permits stage.ended →
        later ≠ [] ∨ task.BrokenOff configuration observer stage cause ending := by
    rintro earlier stage later cause rfl failed permits
    obtain ⟨_, rest⟩ := course.exists_rest
    exact rest.next_of_permits failed permits
  refine ⟨?_, permitted, followed, ?_, ?_⟩
  · rintro earlier stage later cause split failed ⟨passed, rfl⟩
    refine ⟨fun next => (permitted earlier stage later split next).2, fun permits => ?_⟩
    rcases followed earlier stage later cause split failed permits with next | broken | broken
    · exact next
    · cases broken
    · obtain ⟨_, _, escaped, _⟩ := broken
      cases escaped
  · intro never
    cases stages with
    | nil => exact Nat.zero_le 1
    | cons stage later =>
      by_cases next : later = []
      · rw [next]
        exact Nat.le_refl 1
      · obtain ⟨_, _, deadline, has, _⟩ := permitted [] stage later rfl next
        rw [never] at has
        cases has
  · intro stage member turn result kept told provisional
    obtain ⟨earlier, later, rfl⟩ := List.append_of_mem member
    obtain ⟨_, rest⟩ := course.exists_rest
    exact rest.early kept told provisional

/-- The observer, but for ending in a fault when it is told a provisional result at or after the
deadline for retries. -/
noncomputable def strict (task : CheckTask) (observer : Observer) : Observer :=
  fun result session =>
    open Classical in
    if result.retry = true ∧ ¬task.BeforeDeadline session then (.error .cancelled, session)
    else observer result session

theorem deliver_strict {number : Nat} {outcome : Outcome} {retry : Bool} {session : Session}
    (permitted : retry = true → task.BeforeDeadline session) :
    task.deliver configuration (task.strict observer) number outcome retry session =
      task.deliver configuration observer number outcome retry session := by
  obtain ⟨desk, noted⟩ :=
    task.category.exists_logOutcome_eq task.checker number retry outcome session
  have told : Category.tell (task.strict observer)
        (task.category.resultOf? task.checker retry outcome) { session with desk } =
      Category.tell observer (task.category.resultOf? task.checker retry outcome)
        { session with desk } := by
    cases emitted : task.category.resultOf? task.checker retry outcome with
    | none => rfl
    | some result =>
      refine if_neg ?_
      rintro ⟨provisional, late⟩
      rw [retry_resultOf emitted] at provisional
      exact late (permitted provisional)
  rw [deliver, deliver, Category.deliver_eq, Category.deliver_eq, noted, told]

/-- No provisional result is told at or after the deadline for retries: a check runs the same with a
strict observer. -/
theorem run_strict (limit number : Nat) (session : Session) :
    task.run configuration (task.strict observer) limit number session =
      task.run configuration observer limit number session := by
  induction limit generalizing number session with
  | zero => rfl
  | succ limit inductionHypothesis =>
    rw [run_succ, run_succ]
    rcases attempted : task.attempt configuration session with ⟨fault | ⟨outcome, retry⟩, ended⟩
    · rfl
    · have permitted : retry = true → task.BeforeDeadline ended := by
        rintro rfl
        obtain ⟨_, _, _, permits⟩ := permits_of_retried attempted
        exact permits.2
      simp only [deliver_strict permitted, inductionHypothesis]

section Forward

variable (probes : ∀ scope, (task.probe scope).Along Session.Reaches)
  (watches : ∀ result, (observer result).Along Session.Reaches)

include probes in
theorem attempt_along (configuration : Configuration) :
    (task.attempt configuration).Along Session.Reaches := by
  intro session
  have entered : session.Reaches (session.entered task.category.scope configuration.timeout) :=
    (Session.Moves.under session task.category.scope _).reaches
  have called := probes session.nextScope
    (session.entered task.category.scope configuration.timeout)
  obtain ⟨desk, ended⟩ := task.exists_attempt_eq configuration session
  rw [ended]
  have logged : ∀ after : Session, after.Reaches { after with desk } :=
    fun after => Session.SameButLog.reaches ⟨desk, rfl⟩
  exact (entered.trans called).trans
    ((logged _).trans (Session.Moves.release _ session.nextScope).reaches)

include watches in
theorem deliver_along (task : CheckTask) (configuration : Configuration) (number : Nat)
    (outcome : Outcome) (retry : Bool) :
    (task.deliver configuration observer number outcome retry).Along Session.Reaches :=
  Category.deliver_along Session.onward_reaches (fun _ _ same => same.reaches)
    (Action.wait_along _ _) watches number outcome retry

include probes in
theorem reaches_of_attempt {started ended : Session} {answer : Except Fault (Outcome × Bool)}
    (attempted : task.attempt configuration started = (answer, ended)) :
    started.Reaches ended := by
  have along := attempt_along probes configuration started
  rwa [attempted] at along

include watches in
theorem reaches_of_deliver {number : Nat} {outcome : Outcome} {retry : Bool}
    {ended left : Session} {answer : Except Fault Unit}
    (delivered : task.deliver configuration observer number outcome retry ended = (answer, left)) :
    ended.Reaches left := by
  have along := deliver_along watches task configuration number outcome retry ended
  rwa [delivered] at along

include probes watches in
theorem Course.reaches {number : Nat} {session final : Session} {stages : List Stage}
    {ending : Ending Bool}
    (course : task.Course configuration observer number session stages ending final) :
    session.Reaches final :=
  (course.along Session.onward_reaches (attempt_along probes configuration)
    (deliver_along watches task configuration)).1

variable {moment : Session} (done : moment.isDone task.category.scope = true)

include done in
theorem not_permits {session : Session} (reaches : moment.Reaches session) :
    ¬task.Permits session := by
  rintro ⟨undone, _⟩
  rw [reaches.isDone done] at undone
  cases undone

include probes done in
/-- A check that starts when the scope is done makes at most one attempt. -/
theorem Course.length_le_one {number : Nat} {session final : Session} {stages : List Stage}
    {ending : Ending Bool}
    (course : task.Course configuration observer number session stages ending final)
    (reaches : moment.Reaches session) : stages.length ≤ 1 := by
  cases course with
  | cut => exact Nat.zero_le 1
  | raised | untold | last => exact Nat.le_refl 1
  | again attempted delivered onward =>
    obtain ⟨_, _, _, permits⟩ := permits_of_retried attempted
    exact absurd permits
      (not_permits done (reaches.trans (reaches_of_attempt probes attempted)))

include probes done in
/-- A scope that is done by the end of an attempt ends the check there; one that is done by the end
of the wait after it leaves at most one more attempt. -/
theorem Course.after_done {number : Nat} {session final : Session} {earlier later : List Stage}
    {stage : Stage} {ending : Ending Bool}
    (course : task.Course configuration observer number session (earlier ++ stage :: later) ending
      final) :
    (moment.Reaches stage.ended → later = []) ∧ (moment.Reaches stage.left → later.length ≤ 1) := by
  obtain ⟨reached, rest⟩ := course.exists_rest
  constructor
  · intro reaches
    -- An attempt that is followed by another one permits it, but the scope was done by then.
    by_cases next : later = []
    · exact next
    · exact absurd (rest.permits_of_next next).2 (not_permits done reaches)
  · intro reaches
    -- The wait does not ask whether the scope is done, so that one more attempt may start after it.
    obtain ⟨started, ended, answer, left⟩ := stage
    cases rest with
    | raised | untold | last => exact Nat.zero_le 1
    | again attempted delivered onward => exact onward.length_le_one probes done reaches

end Forward

end CheckTask

namespace Performance

structure Attempts (configuration : Configuration) (observer : Observer) (limit : Nat)
    (done : Performance) (stages : List Stage) : Prop where
  ran : done.task.run configuration observer limit 1 done.started = (done.run, done.ended)
  course : done.task.Course configuration observer 1 done.started stages done.run.ending done.ended
  turns : done.run.turns = done.task.turns stages
  unfinished : done.run.ending = .unfinished → stages.length = limit

/-- The attempts of a check after a moment at which its scope is done: one that starts later is
attempted at most once, an attempt that ends later is the last one, and a wait that ends later is
followed by at most one more attempt. -/
structure Subsides (moment : Session) (done : Performance) (stages : List Stage) : Prop where
  started : moment.Reaches done.started → stages.length ≤ 1
  ended : ∀ earlier stage later, stages = earlier ++ stage :: later →
    moment.Reaches stage.ended → later = []
  left : ∀ earlier stage later, stages = earlier ++ stage :: later →
    moment.Reaches stage.left → later.length ≤ 1

theorem Attempts.subsides {configuration : Configuration} {observer : Observer} {limit : Nat}
    {done : Performance} {stages : List Stage} {moment : Session}
    (attempts : done.Attempts configuration observer limit stages)
    (probes : ∀ scope, (done.task.probe scope).Along Session.Reaches)
    (scopeDone : moment.isDone done.task.category.scope = true) : done.Subsides moment stages := by
  refine ⟨attempts.course.length_le_one probes scopeDone, ?_, ?_⟩
  · rintro earlier stage later rfl
    exact (attempts.course.after_done probes scopeDone).1
  · rintro earlier stage later rfl
    exact (attempts.course.after_done probes scopeDone).2

end Performance

namespace Engine

variable {configuration : Configuration} {observer : Observer} {limit : Nat}

theorem Sweep.ran {items : List Item} {verdict : Verdict} {session final : Session}
    {performed : List Performance} {ending : Ending Verdict}
    (sweep : Sweep configuration observer limit items verdict session performed ending final) :
    ∀ done ∈ performed, done.task ∈ items.filterMap Item.task? ∧
      done.task.run configuration observer limit 1 done.started = (done.run, done.ended) := by
  induction sweep with
  | complete => simp
  | passedOver same onward inductionHypothesis => exact inductionHypothesis
  | escaped ran | unfinished ran | halted ran =>
    intro done member
    rw [List.mem_singleton] at member
    subst member
    exact ⟨List.mem_cons_self, ran⟩
  | next ran finished goesOn onward inductionHypothesis =>
    intro done member
    rcases List.mem_cons.mp member with rfl | later
    · exact ⟨List.mem_cons_self, ran⟩
    · obtain ⟨known, ranToo⟩ := inductionHypothesis done later
      exact ⟨List.mem_cons_of_mem _ known, ranToo⟩

/-- The first check of a sweep starts where the sweep does. -/
theorem Sweep.exists_first {task : CheckTask} {later : List Item} {verdict : Verdict}
    {session final : Session} {performed : List Performance} {ending : Ending Verdict}
    (sweep : Sweep configuration observer limit (.check task :: later) verdict session performed
      ending final) :
    ∃ first rest, performed = first :: rest ∧ first.task = task ∧
      task.run configuration observer limit 1 session = (first.run, first.ended) := by
  cases sweep with
  | escaped ran | unfinished ran | halted ran | next ran => exact ⟨_, _, rfl, rfl, ran⟩

theorem Sweep.exists_attempts {items : List Item} {verdict : Verdict} {session final : Session}
    {performed : List Performance} {ending : Ending Verdict}
    (sweep : Sweep configuration observer limit items verdict session performed ending final)
    {done : Performance} (member : done ∈ performed) :
    ∃ stages, done.Attempts configuration observer limit stages := by
  obtain ⟨_, ran⟩ := sweep.ran done member
  obtain ⟨stages, course, turns, _, unfinished⟩ := CheckTask.exists_course ran
  exact ⟨stages, ran, course, turns, unfinished⟩

/-- A sweep and its attempts go along a relation if attempts and tellings do, and writing to the
log; the checks follow each other along it. -/
theorem Sweep.along_attempts {R : Session → Session → Prop} (onward : Session.Onward R)
    (logs : ∀ session other : Session, session.SameButLog other → R session other)
    {items : List Item} {verdict : Verdict} {session final : Session}
    {performed : List Performance} {ending : Ending Verdict}
    (attempts : ∀ task ∈ items.filterMap Item.task?, (task.attempt configuration).Along R)
    (deliveries : ∀ (task : CheckTask) number outcome retry,
      (task.deliver configuration observer number outcome retry).Along R)
    (sweep : Sweep configuration observer limit items verdict session performed ending final) :
    R session final ∧
      (∀ done ∈ performed, R session done.started ∧
        ∀ stages, done.Attempts configuration observer limit stages →
          ∀ stage ∈ stages, R session stage.started ∧ R stage.ended final) ∧
        performed.Pairwise fun done next => R done.ended next.started := by
  have runs : ∀ task ∈ items.filterMap Item.task?, ∀ started,
      R started (task.run configuration observer limit 1 started).2 := by
    intro task member
    exact CheckTask.run_along onward (attempts task member) (deliveries task) limit 1
  obtain ⟨toFinal, toChecks, follow⟩ := sweep.along onward logs runs
  refine ⟨toFinal, ?_, follow⟩
  intro done member
  obtain ⟨toStart, fromEnd⟩ := toChecks done member
  refine ⟨toStart, ?_⟩
  intro stages attempted stage stageMember
  obtain ⟨_, toStages⟩ := attempted.course.along onward
    (attempts done.task (sweep.ran done member).1) (deliveries done.task)
  obtain ⟨started, ended⟩ := toStages stage stageMember
  exact ⟨onward.goOn toStart started, onward.goOn ended fromEnd⟩

/-- A sweep takes a session to one that it reaches, and the checks follow each other. -/
theorem Sweep.reaches {items : List Item} {verdict : Verdict} {session final : Session}
    {performed : List Performance} {ending : Ending Verdict}
    (sweep : Sweep configuration observer limit items verdict session performed ending final)
    (probes : ∀ task ∈ items.filterMap Item.task?, ∀ scope,
      (task.probe scope).Along Session.Reaches)
    (watches : ∀ result, (observer result).Along Session.Reaches) :
    (∀ done ∈ performed, session.Reaches done.started) ∧
      performed.Pairwise fun done next => done.ended.Reaches next.started := by
  obtain ⟨_, toChecks, follow⟩ := sweep.along_attempts Session.onward_reaches
    (fun _ _ same => same.reaches)
    (fun task member => CheckTask.attempt_along (probes task member) configuration)
    fun task => CheckTask.deliver_along watches task configuration
  exact ⟨fun done member => (toChecks done member).1, follow⟩

/-- The attempts of every check of a suite are repeated exactly while they permit it, and no
provisional result is told at or after the deadline; the deadline and the wall clock compare as
instants do, unless the wall clock is set back in between. Where clocks are not set back and scopes
are only made, cancelled and detached, a scope that is done ends the repetition: the check that is on
its way makes at most one more attempt, and every later check of the scope makes at most one. -/
theorem runChecks_retries {engine : Engine} {session final : Session} {run : SuiteRun}
    (ran : engine.runChecks observer session limit = (run, final)) :
    ∃ performed,
      Sweep engine.configuration observer limit (agenda engine.categories) {} session performed
          run.ending final ∧
        run.checks = performed.map (·.run) ∧
          (∀ done ∈ performed,
            (∃ stages, done.Attempts engine.configuration observer limit stages) ∧
              (∀ stages, done.Attempts engine.configuration observer limit stages →
                done.task.Repeats engine.configuration observer stages done.run.ending) ∧
                (∀ (other : Session) (deadline : Moment),
                    done.task.checker.policy.retryDeadline = some deadline →
                      (done.task.zone other deadline).Readable other.instant →
                        done.task.ComparesInstants other deadline) ∧
                  done.task.run engine.configuration (done.task.strict observer) limit 1
                    done.started = (done.run, done.ended)) ∧
            ((∀ task ∈ enabledTasks engine.categories, ∀ scope,
                (task.probe scope).Along Session.Reaches) →
              (∀ result, (observer result).Along Session.Reaches) →
                ∀ (moment : Session) (scope : ScopeId), moment.isDone scope = true →
                  ∀ earlier done later, performed = earlier ++ done :: later →
                    (done.task.category.scope = scope → ∀ stages,
                      done.Attempts engine.configuration observer limit stages →
                        done.Subsides moment stages) ∧
                      (moment.Reaches done.ended → ∀ next ∈ later,
                        next.task.category.scope = scope → ∀ stages,
                          next.Attempts engine.configuration observer limit stages →
                            stages.length ≤ 1)) := by
  obtain ⟨performed, sweep, checks⟩ := exists_sweep ran
  refine ⟨performed, sweep, checks, ?_, ?_⟩
  · intro done member
    obtain ⟨_, checked⟩ := sweep.ran done member
    refine ⟨sweep.exists_attempts member, fun stages attempts => attempts.course.repeats,
      fun other deadline dated readable => CheckTask.comparesInstants dated readable, ?_⟩
    rw [CheckTask.run_strict, checked]
  · intro probes watches moment scope scopeDone earlier done later split
    rw [← agenda_tasks] at probes
    obtain ⟨_, follow⟩ := sweep.reaches probes watches
    constructor
    · rintro rfl stages attempts
      have member : done ∈ performed := by
        rw [split]
        exact List.mem_append_right earlier List.mem_cons_self
      exact attempts.subsides (probes done.task (sweep.ran done member).1) scopeDone
    · rintro reaches next member rfl stages attempts
      have known : next ∈ performed := by
        rw [split]
        exact List.mem_append_right earlier (List.mem_cons_of_mem done member)
      rw [split] at follow
      have later := (List.pairwise_cons.mp (List.pairwise_append.mp follow).2.1).1 next member
      exact (attempts.subsides (probes next.task (sweep.ran next known).1) scopeDone).started
        (reaches.trans later)

/-- A region whose clocks are two hours ahead of universal time, and after an hour are set back. -/
def autumn : Zone := fun instant =>
  if instant < Moment.start.micros + 3600000000 then 7200000000 else 3600000000

/-- A barn that is full at the second attempt, and may be tried again until half past two. -/
def harvestSuite : Engine :=
  { categories :=
      [{ id := "harvest", scope := 0
         checkers :=
          [{ description := "barn full"
             policy := { retryDeadline := some ⟨Moment.start.micros + 9000000000, none⟩ }
             probe := some (scriptedProbe "barn full" 0
              [{ reaction := .raise (.failed "empty") }, { reaction := .give (.outcome .ok) }]) }] }]
    configuration := CheckTask.briefly }

/-- How many attempts each check makes when the suite is run at some time in that region. -/
def harvestAttempts (observer : Observer) (micros : Int) : List Nat :=
  (harvestSuite.runChecks observer
    { CheckTask.quiet with micros, clockwork := { region := autumn } } 3).1.checks.map
      fun check => check.turns.length

/-- Where the clocks are set back, a failed attempt that ends at a quarter to three is the last one,
and one that ends at ten past two, but later, is not: no instant tells the one from the other. Nor is
the later one followed if the observer ends in a fault when it is told. -/
theorem harvestAttempts_misled :
    (¬∃ due : Int, ∀ micros ∈ ([2700000000, 4200000000] : List Int),
      harvestAttempts (({} : Listener).observer 1) micros = [2] ↔
        Moment.start.micros + micros < due) ∧
      harvestAttempts (fun _ => Action.raise (.failed "no console")) 4200000000 = [1] := by
  refine ⟨?_, by decide +kernel⟩
  rintro ⟨due, tells⟩
  have earlier := (tells 2700000000 (by simp)).not.mp (by decide +kernel)
  have later := (tells 4200000000 (by simp)).mp (by decide +kernel)
  omega

/-- A node that is never ready, and a pool that never is; both may be tried again for a minute. -/
def drainSuite : Engine :=
  { categories :=
      [{ id := "nodes", scope := 0
         checkers :=
          [{ description := "node ready"
             policy := { retryDeadline := some (Moment.atMicros 60000000) }
             probe := some (scriptedProbe "node ready" 0
              [{ acts := [.sleep (.real 2)], reaction := .raise (.failed "not ready") }]) },
            { description := "pool ready"
              policy := { retryDeadline := some ⟨Moment.start.micros + 60000000, none⟩ }
              probe := some (scriptedProbe "pool ready" 1
                [{ reaction := .raise (.failed "empty") }]) }] }]
    configuration := CheckTask.briefly }

/-- A session with a timer that cancels the scope of the nodes. -/
def draining : Session :=
  { CheckTask.quiet with names := [("nodes", 0)], timers := [⟨2500000, "nodes"⟩] }

/-- How this suite runs when its checks may be attempted five times. The timer fires in the wait
after the first attempt. -/
def drainRunning : SuiteRun × Session :=
  drainSuite.runChecks (({} : Listener).observer 2) draining 5

theorem drainSuite_forward : ∀ task ∈ enabledTasks drainSuite.categories, ∀ scope,
    (task.probe scope).Along Session.Reaches := by
  have seconds : ∀ length, (Amount.real 2).toFloat = .ok length → 0 < length := by
    intro length known
    cases known
    decide +kernel
  intro task member
  simp only [enabledTasks, drainSuite, Category.tasks, List.filter_cons, List.filter_nil, if_true,
    List.flatMap_cons, List.flatMap_nil, List.filterMap_cons, List.filterMap_nil, Option.map_some,
    List.append_nil, List.mem_cons, List.not_mem_nil, or_false] at member
  rcases member with rfl | rfl
  · exact scriptedProbe_along _ _ _ (by simpa using seconds)
  · exact scriptedProbe_along _ _ _ (by simp)

theorem drainRunning_retries :
    drainRunning.1.checks.map (fun check => check.turns.length) = [2, 1] ∧
      ∃ first rest, drainRunning.1.checks = (first :: rest).map Performance.run ∧
        first.ended.isDone 0 = true ∧
          (∃ stages, first.Attempts CheckTask.briefly (({} : Listener).observer 2) 5 stages ∧
            first.task.Repeats CheckTask.briefly (({} : Listener).observer 2) stages
              first.run.ending) ∧
            ∀ next ∈ rest, next.task.category.scope = 0 → ∀ stages,
              next.Attempts CheckTask.briefly (({} : Listener).observer 2) 5 stages →
                stages.length ≤ 1 := by
  obtain ⟨performed, sweep, checks, repeats, subsides⟩ :=
    runChecks_retries (Prod.eta drainRunning).symm
  obtain ⟨first, rest, rfl, same, ran⟩ := sweep.exists_first
  have scopeDone : first.ended.isDone 0 = true := by
    rw [show first.ended = _ from congrArg Prod.snd ran.symm]
    decide +kernel
  obtain ⟨⟨stages, attempts⟩, all, _⟩ := repeats first List.mem_cons_self
  obtain ⟨_, later⟩ := subsides drainSuite_forward (Listener.observer_along {} 2) first.ended 0
    scopeDone [] first rest rfl
  exact ⟨by decide +kernel, first, rest, checks, scopeDone,
    ⟨stages, attempts, all stages attempts⟩, later (.refl first.ended)⟩

end Engine

end Checkup
