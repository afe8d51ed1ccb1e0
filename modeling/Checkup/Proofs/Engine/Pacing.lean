import Mathlib.Algebra.Order.Floor.Div
import Checkup.Proofs.Engine.Retry
import Checkup.Proofs.Number.Comparison

/-!
# The pace of retries

Between two attempts of a check the engine waits for the retry window. Main statement: in a scope
without a deadline the attempts of a check come to an end; they are a window apart unless the scope
is cancelled; after the first one there are at most as many as windows start before the deadline for
retries, and exactly as many if all of them fail and take no time.
-/

namespace Checkup

namespace Session

theorem Reaches.instant_le {session other : Session} (reaches : session.Reaches other) :
    session.instant ≤ other.instant :=
  Int.add_le_add_left reaches.onward.1 Moment.start.micros

structure Unbounded (session : Session) (id : ScopeId) : Prop where
  known : id < session.scopes.all.size
  free : session.scopes.deadline? id = none

theorem Unbounded.reaches {session other : Session} {id : ScopeId}
    (unbounded : session.Unbounded id) (reaches : session.Reaches other) :
    other.Unbounded id where
  known := Nat.lt_of_lt_of_le unbounded.known reaches.ageTo.size_le
  free := (reaches.ageTo.deadline?_eq unbounded.known).trans unbounded.free

theorem Unbounded.isDone {session : Session} {id : ScopeId} (unbounded : session.Unbounded id) :
    session.isDone id = session.scopes.isCancelled id := by
  rw [Session.isDone, isExpired, unbounded.free, Option.any_none, Bool.or_false]

end Session

/-- A wait of a duration moves the clock by it. Beyond some centuries the machine does not allow it, or
the seconds of the duration are not precise enough for that. -/
def Clockwork.Exact (clockwork : Clockwork) (duration : Duration) : Prop :=
  clockwork.microsOfWait duration.seconds = .ok duration.micros

theorem Clockwork.Exact.seconds_pos {clockwork : Clockwork} {duration : Duration}
    (exact : clockwork.Exact duration) (positive : 1 ≤ duration.micros) : 0 < duration.seconds := by
  have counted := (Clockwork.microsOfWait_eq_ok.mp exact).2
  unfold Duration.seconds at counted ⊢
  cases near : Number.nearest? duration.micros 1000000 with
  | none =>
    have nothing : Number.nearestInt (0 * 1000000) = .ok 0 := by decide +kernel
    rw [near, Option.getD_none, microsOfSeconds, nothing] at counted
    have zero : 0 = duration.micros := Except.ok.inj counted
    omega
  | some x => exact Number.seconds_pos positive near

namespace CheckTask

variable {task : CheckTask} {configuration : Configuration} {observer : Observer}

/-- The deadline for retries comes at an instant, on the clocks in whose time it is given. -/
def DueAt (task : CheckTask) (session : Session) (due : Int) : Prop :=
  ∃ deadline, task.checker.policy.retryDeadline = some deadline ∧
    (task.zone session deadline).ComesAt deadline.micros due

/-- The wall clock can be read until an instant, in the time in which the deadline is given. -/
def ReadableUntil (task : CheckTask) (session : Session) (due : Int) : Prop :=
  ∀ deadline, task.checker.policy.retryDeadline = some deadline →
    ∀ instant, session.instant ≤ instant → instant < due →
      (task.zone session deadline).Readable instant

theorem instant_lt_of_permits {due : Int} {session : Session} (dueAt : task.DueAt session due)
    (permits : task.Permits session) : session.instant < due := by
  obtain ⟨_, other, has, _, less⟩ := permits
  obtain ⟨deadline, dated, comes⟩ := dueAt
  obtain rfl := Option.some.inj (dated.symm.trans has)
  exact (comes session.instant).mp less

/-- Before a deadline in the calendar, a failed attempt permits another one unless the scope is
done. -/
theorem permits_of_instant_lt {due : Int} {session : Session} (dueAt : task.DueAt session due)
    (readable : task.ReadableUntil session due) (early : session.instant < due)
    (undone : session.isDone task.category.scope = false) : task.Permits session := by
  obtain ⟨deadline, dated, comes⟩ := dueAt
  exact ⟨undone, deadline, dated, readable deadline dated session.instant (Int.le_refl _) early,
    (comes session.instant).mpr early⟩

/-- A deadline that carries an offset comes at its instant. -/
theorem dueAt_of_offset {deadline : Moment} {offset : Int} (session : Session)
    (dated : task.checker.policy.retryDeadline = some deadline)
    (nowhere : task.checker.policy.region = none) (carries : deadline.offset = some offset) :
    task.DueAt session deadline.instant := by
  refine ⟨deadline, dated, ?_⟩
  rw [zone_of_offset nowhere carries, Moment.instant, carries]
  exact Zone.fixed_comesAt offset deadline.micros

/-- Clocks that are not set back show a deadline at one instant. -/
theorem dueAt_of_steady {deadline : Moment} {due : Int} {session : Session}
    (dated : task.checker.policy.retryDeadline = some deadline)
    (shows : (task.zone session deadline).shown due = deadline.micros)
    (steady : ∀ instant, (task.zone session deadline).Steady instant due) :
    task.DueAt session due :=
  ⟨deadline, dated, shows ▸ Zone.comesAt_of_steady steady⟩

theorem readableUntil_of_offset {deadline : Moment} {offset : Int} {session : Session}
    (dated : task.checker.policy.retryDeadline = some deadline)
    (nowhere : task.checker.policy.region = none) (carries : deadline.offset = some offset)
    (started : 0 ≤ session.instant ∧ 0 ≤ session.instant + offset)
    (within : deadline.instant ≤ Moment.limit ∧ deadline.micros ≤ Moment.limit) :
    task.ReadableUntil session deadline.instant := by
  intro other has instant after before
  obtain rfl := Option.some.inj (dated.symm.trans has)
  rw [zone_of_offset nowhere carries]
  rw [Moment.instant, carries, Option.getD_some] at before within
  unfold Zone.Readable Moment.InCalendar Zone.shown Zone.fixed
  omega

theorem zone_eq_of_reaches {session other : Session} (reaches : session.Reaches other)
    (deadline : Moment) : task.zone other deadline = task.zone session deadline := by
  rw [zone, zone, reaches.clockwork_eq]

theorem ReadableUntil.reaches {due : Int} {session other : Session}
    (readable : task.ReadableUntil session due) (reaches : session.Reaches other) :
    task.ReadableUntil other due := by
  intro deadline dated instant after before
  rw [zone_eq_of_reaches reaches]
  exact readable deadline dated instant (Int.le_trans reaches.instant_le after) before

/-- The scope of a check has no deadline, a full wait between its attempts moves the clock by the
window, and its deadline for retries comes at an instant. -/
structure Paced (task : CheckTask) (configuration : Configuration) (due : Int) (session : Session) :
    Prop where
  unbounded : session.Unbounded task.category.scope
  exact : session.clockwork.Exact configuration.retryWindow
  dueAt : task.DueAt session due

theorem Paced.reaches {due : Int} {session other : Session}
    (paced : task.Paced configuration due session) (reaches : session.Reaches other) :
    task.Paced configuration due other where
  unbounded := paced.unbounded.reaches reaches
  exact := reaches.clockwork_eq ▸ paced.exact
  dueAt := by
    obtain ⟨deadline, dated, comes⟩ := paced.dueAt
    exact ⟨deadline, dated, zone_eq_of_reaches reaches deadline ▸ comes⟩

def Quick (observer : Observer) : Prop :=
  ∀ result session, ∃ told, observer result session = (.ok (), told) ∧
    told.micros = session.micros

/-- The next attempt starts a retry window after an attempt has ended, or in a cancelled scope. -/
def Apart (task : CheckTask) (configuration : Configuration) (stage next : Stage) : Prop :=
  stage.ended.micros + configuration.retryWindow.micros ≤ next.started.micros ∨
    next.started.scopes.isCancelled task.category.scope = true

theorem Course.ended_eq {number : Nat} {session final : Session} {stage : Stage}
    {later : List Stage} {ending : Ending Bool}
    (course : task.Course configuration observer number session (stage :: later) ending final) :
    stage.ended = (task.attempt configuration session).2 := by
  cases course with
  | raised attempted | untold attempted | last attempted | again attempted =>
    exact (congrArg Prod.snd attempted).symm

section Window

variable {due : Int} (positive : 1 ≤ configuration.retryWindow.micros)
  (probes : ∀ scope, (task.probe scope).Along Session.Reaches)
  (watches : ∀ result, (observer result).Along Session.Reaches)

include probes in
theorem Course.reaches_ended {number : Nat} {session final : Session} {stage : Stage}
    {later : List Stage} {ending : Ending Bool}
    (course : task.Course configuration observer number session (stage :: later) ending final) :
    session.Reaches stage.ended := by
  rw [course.ended_eq]
  exact attempt_along probes configuration session

include probes watches in
theorem Course.ended_reaches {number : Nat} {session final : Session} {stage : Stage}
    {later : List Stage} {ending : Ending Bool}
    (course : task.Course configuration observer number session (stage :: later) ending final) :
    stage.ended.Reaches final := by
  have along := course.along Session.onward_reaches (attempt_along probes configuration)
    (deliver_along watches task configuration)
  exact (along.2 stage List.mem_cons_self).2

include positive watches in
/-- After a failed attempt the observer is told, and then the window passes or the scope is
cancelled. -/
theorem exists_told {number : Nat} {outcome : Outcome} {ended left : Session}
    {answer : Except Fault Unit} (paced : task.Paced configuration due ended)
    (delivered : task.deliver configuration observer number outcome true ended = (answer, left)) :
    ∃ told, ended.Reaches told ∧ (Quick observer → told.micros = ended.micros ∧ answer = .ok ()) ∧
      (answer = .ok () → left.scopes.isCancelled task.category.scope = true ∨
        left.micros = told.micros + configuration.retryWindow.micros) := by
  obtain ⟨desk, noted⟩ :=
    task.category.exists_logOutcome_eq task.checker number true outcome ended
  have logged : ended.Reaches { ended with desk } := Session.SameButLog.reaches ⟨desk, rfl⟩
  have reached := Category.tell_along Session.onward_reaches watches
    (task.category.resultOf? task.checker true outcome) { ended with desk }
  have quickly : Quick observer → ∃ told,
      Category.tell observer (task.category.resultOf? task.checker true outcome)
          { ended with desk } = (.ok (), told) ∧ told.micros = ended.micros := by
    intro quick
    cases task.category.resultOf? task.checker true outcome with
    | none => exact ⟨_, rfl, rfl⟩
    | some result => exact quick result { ended with desk }
  rw [deliver, Category.deliver_eq, noted] at delivered
  dsimp only at delivered
  rcases telling : Category.tell observer (task.category.resultOf? task.checker true outcome)
    { ended with desk } with ⟨fault | _, told⟩
  · rw [telling] at reached delivered
    refine ⟨told, logged.trans reached, ?_, ?_⟩
    · intro quick
      obtain ⟨_, silent, _⟩ := quickly quick
      rw [telling] at silent
      cases silent
    · rintro rfl
      cases delivered
  · rw [telling] at reached delivered
    have toldPaced := paced.reaches (logged.trans reached)
    obtain ⟨done, after, waited, passed⟩ := Action.exists_wait_of_unbounded
      toldPaced.unbounded.free (toldPaced.exact.seconds_pos positive) toldPaced.exact
    simp only [if_true, waited, Prod.mk.injEq] at delivered
    obtain ⟨rfl, rfl⟩ := delivered
    refine ⟨told, logged.trans reached, ?_, fun _ => passed⟩
    intro quick
    obtain ⟨other, silent, same⟩ := quickly quick
    rw [telling] at silent
    cases silent
    exact ⟨same, rfl⟩

include positive probes watches in
theorem Course.isChain_apart {number : Nat} {session final : Session} {stages : List Stage}
    {ending : Ending Bool}
    (course : task.Course configuration observer number session stages ending final)
    (paced : task.Paced configuration due session) :
    stages.IsChain (task.Apart configuration) := by
  induction course with
  | cut => exact .nil
  | raised | untold | last => exact .singleton _
  | @again number started ended left final outcome later ending attempted delivered onward
      inductionHypothesis =>
    have attemptReaches := reaches_of_attempt probes attempted
    have toldReaches := reaches_of_deliver watches delivered
    obtain ⟨told, reaches, _, ends⟩ :=
      exists_told positive watches (paced.reaches attemptReaches) delivered
    have rest := inductionHypothesis (paced.reaches (attemptReaches.trans toldReaches))
    cases later with
    | nil => exact .singleton _
    | cons next later =>
      refine List.isChain_cons_cons.mpr ⟨?_, rest⟩
      have clock := reaches.onward.1
      rw [Apart, onward.start_eq]
      rcases ends rfl with cancelled | passed
      · exact .inr cancelled
      · exact .inl (by dsimp only; omega)

include positive probes watches in
/-- No more attempts follow the first one than windows lie between its end and the deadline. -/
theorem Course.length_le {number count : Nat} {session final : Session} {stage : Stage}
    {later : List Stage} {ending : Ending Bool}
    (course : task.Course configuration observer number session (stage :: later) ending final)
    (paced : task.Paced configuration due session)
    (reached : due ≤ stage.ended.instant + configuration.retryWindow.micros * count) :
    later.length ≤ count := by
  induction later generalizing number count session stage with
  | nil => exact Nat.zero_le count
  | cons next later inductionHypothesis =>
    have early := instant_lt_of_permits (paced.reaches (course.reaches_ended probes)).dueAt
      (course.permits_of_next (List.cons_ne_nil next later)).2
    cases course with
    | @again number started ended left final outcome _ ending attempted delivered onward =>
      have attemptReaches := reaches_of_attempt probes attempted
      have leftPaced :=
        (paced.reaches attemptReaches).reaches (reaches_of_deliver watches delivered)
      obtain ⟨told, reaches, _, ends⟩ :=
        exists_told positive watches (paced.reaches attemptReaches) delivered
      obtain ⟨count, rfl⟩ : ∃ fewer, count = fewer + 1 := by
        refine Nat.exists_eq_add_one_of_ne_zero ?_
        rintro rfl
        simp at reached
        dsimp only at early
        omega
      rcases ends rfl with cancelled | passed
      · -- The next attempt starts in a cancelled scope and is the last one.
        have done : left.isDone task.category.scope = true :=
          leftPaced.unbounded.isDone.trans cancelled
        have only := onward.length_le_one probes done (.refl left)
        exact Nat.le_trans only (Nat.le_add_left 1 count)
      · refine Nat.succ_le_succ (inductionHypothesis onward leftPaced ?_)
        have onto := (onward.reaches_ended probes).instant_le
        have before := reaches.instant_le
        have after : left.instant = told.instant + configuration.retryWindow.micros := by
          rw [Session.instant, Session.instant, passed, Int.add_assoc]
        rw [Int.natCast_succ, Int.mul_add, Int.mul_one] at reached
        dsimp only at reached
        omega

include positive probes watches in
/-- If all attempts fail and take no time, they go on until the deadline. -/
theorem Course.due_le {number : Nat} {session final : Session} {stage : Stage}
    {later : List Stage} {ending : Ending Bool} (quick : Quick observer)
    (course : task.Course configuration observer number session (stage :: later) ending final)
    (ended : ending ≠ .unfinished) (paced : task.Paced configuration due session)
    (readable : task.ReadableUntil stage.ended due)
    (undone : final.scopes.isCancelled task.category.scope = false)
    (fails : ∀ made ∈ stage :: later, (∃ cause, task.Fails configuration made cause) ∧
      made.ended.micros = made.started.micros) :
    due ≤ stage.ended.instant + configuration.retryWindow.micros * later.length := by
  have kept : ∀ {other : Session}, other.Reaches final →
      other.scopes.isCancelled task.category.scope = false := by
    intro other onto
    refine Bool.eq_false_iff.mpr fun cancelled => ?_
    rw [onto.ageTo.isCancelled cancelled] at undone
    cases undone
  induction later generalizing number session stage with
  | nil =>
    refine Int.not_lt.mp fun early => ?_
    have reaches := course.reaches_ended probes
    obtain ⟨⟨cause, failed⟩, _⟩ := fails stage List.mem_cons_self
    have endedPaced := paced.reaches reaches
    have permits : task.Permits stage.ended := by
      refine permits_of_instant_lt endedPaced.dueAt readable (by simpa using early) ?_
      rw [endedPaced.unbounded.isDone]
      exact kept (course.ended_reaches probes watches)
    rcases course.next_of_permits failed permits with next | broken | broken
    · exact next rfl
    · exact ended broken
    · obtain ⟨number, fault, _, delivered⟩ := broken
      rcases telling : task.deliver configuration observer number (.failure cause) true
        stage.ended with ⟨answer, left⟩
      obtain ⟨told, _, quickly, _⟩ :=
        exists_told positive watches endedPaced telling
      rw [telling, (quickly quick).2] at delivered
      cases delivered
  | cons next later inductionHypothesis =>
    cases course with
    | @again number started ended left final outcome _ ending attempted delivered onward =>
      have endedPaced := paced.reaches (reaches_of_attempt probes attempted)
      have toLeft := reaches_of_deliver watches delivered
      obtain ⟨told, _, quickly, ends⟩ := exists_told positive watches endedPaced delivered
      have silent : told.micros = ended.micros := (quickly quick).1
      rcases ends rfl with cancelled | passed
      · rw [kept (onward.reaches probes watches)] at cancelled
        cases cancelled
      · have same : next.ended.instant =
            ended.instant + configuration.retryWindow.micros := by
          have instantly := (fails next (List.mem_cons_of_mem _ List.mem_cons_self)).2
          rw [onward.start_eq] at instantly
          rw [Session.instant, Session.instant, instantly, passed, silent, Int.add_assoc]
        have leftPaced := endedPaced.reaches toLeft
        have rest := inductionHypothesis onward leftPaced
          (readable.reaches (toLeft.trans (onward.reaches_ended probes)))
          fun made member => fails made (List.mem_cons_of_mem _ member)
        rw [List.length_cons, Int.natCast_succ, Int.mul_add, Int.mul_one]
        dsimp only
        omega

end Window

/-- The most attempts of a check: the first one, and one more for each window that starts before the
deadline. -/
def attemptBound (configuration : Configuration) (due : Int) (first : Session) : Nat :=
  1 + (due - first.instant).toNat ⌈/⌉ configuration.retryWindow.micros.toNat

theorem windows_le_iff {gap window : Int} {count : Nat} (positive : 1 ≤ window) :
    gap.toNat ⌈/⌉ window.toNat ≤ count ↔ gap ≤ window * count := by
  rw [ceilDiv_le_iff_le_mul (by omega), Int.toNat_le, Int.natCast_mul,
    Int.toNat_of_nonneg (by omega)]

/-- In a scope without a deadline a check that may be tried again until some deadline comes to its
end. Its attempts are a window apart unless the scope is cancelled, and there are at most as many as
windows start before the deadline, counted from the end of the first attempt, and one more. These are
made if all attempts fail and take no time and the scope is not cancelled. -/
theorem exists_pacing {due : Int} {session : Session} (dueAt : task.DueAt session due)
    (unbounded : session.Unbounded task.category.scope)
    (positive : 1 ≤ configuration.retryWindow.micros)
    (exact : session.clockwork.Exact configuration.retryWindow)
    (probes : ∀ scope, (task.probe scope).Along Session.Reaches)
    (watches : ∀ result, (observer result).Along Session.Reaches) :
    ∃ stages ending final,
      task.Course configuration observer 1 session stages ending final ∧
        ending ≠ .unfinished ∧
          (∀ limit,
            attemptBound configuration due (task.attempt configuration session).2 ≤ limit →
              task.run configuration observer limit 1 session =
                (⟨task.turns stages, ending⟩, final)) ∧
            stages.IsChain (task.Apart configuration) ∧
              stages.length ≤
                attemptBound configuration due (task.attempt configuration session).2 ∧
                (task.ReadableUntil (task.attempt configuration session).2 due →
                  Quick observer →
                    final.scopes.isCancelled task.category.scope = false →
                      (∀ made ∈ stages, (∃ cause, task.Fails configuration made cause) ∧
                        made.ended.micros = made.started.micros) →
                        stages.length = attemptBound configuration due
                          (task.attempt configuration session).2) := by
  have paced : task.Paced configuration due session := ⟨unbounded, exact, dueAt⟩
  generalize first_eq : (task.attempt configuration session).2 = first
  generalize bound_eq : attemptBound configuration due first = bound
  rw [attemptBound] at bound_eq
  rcases ran : task.run configuration observer (bound + 1) 1 session with ⟨⟨turns, ending⟩, final⟩
  obtain ⟨stages, course, same, _, all⟩ := exists_course ran
  dsimp only at course same all
  have within : stages.length ≤ bound := by
    cases stages with
    | nil => exact Nat.zero_le bound
    | cons stage later =>
      generalize windows_eq : (due - first.instant).toNat ⌈/⌉
        configuration.retryWindow.micros.toNat = windows at bound_eq
      have filled := (windows_le_iff positive).mp (Nat.le_of_eq windows_eq)
      have reached : due ≤
          stage.ended.instant + configuration.retryWindow.micros * windows := by
        rw [course.ended_eq, first_eq]
        omega
      have count := course.length_le positive probes watches paced reached
      rw [List.length_cons]
      omega
  have ended : ending ≠ .unfinished := by
    intro unfinished
    have length := all unfinished
    omega
  refine ⟨stages, ending, final, course, ended, ?_, ?_, within, ?_⟩
  · intro limit enough
    exact course.run_eq ended (Nat.le_trans within enough)
  · exact course.isChain_apart positive probes watches paced
  · intro readable quick undone fails
    refine Nat.le_antisymm within ?_
    cases stages with
    | nil =>
      cases course
      exact absurd rfl ended
    | cons stage later =>
      have first_ended : stage.ended = first := course.ended_eq.trans first_eq
      have late := course.due_le positive probes watches quick ended paced
        (first_ended ▸ readable) undone fails
      rw [first_ended] at late
      have filled : due - first.instant ≤
          configuration.retryWindow.micros * later.length := by omega
      have windows := (windows_le_iff positive).mpr filled
      rw [List.length_cons]
      omega

/-- A check that always fails at once, and may be tried again for two and a half seconds. -/
def neverReady : CheckTask :=
  { category := { id := "cluster", scope := 0 }
    checker :=
      { description := "node ready"
        policy := { retryDeadline := some (Moment.atMicros 2500000) } }
    probe := fun _ => Action.raise (.failed "not ready") }

theorem neverReady_fails (started : Session) :
    ∃ cause ended,
      neverReady.category.attempt neverReady.checker briefly.timeout neverReady.probe started =
          (.ok (.failure cause), ended) ∧ ended.micros = started.micros := by
  have attempted := neverReady.category.attempt_eq neverReady.checker briefly.timeout
    neverReady.probe started
  exact ⟨_, _, attempted, rfl⟩

def inattentive : Observer := fun _ => pure ()

theorem neverReady_pacing :
    ∃ stages ending final,
      neverReady.Course briefly inattentive 1 quiet stages ending final ∧
        stages.IsChain (neverReady.Apart briefly) ∧ stages.length = 4 := by
  have unbounded : quiet.Unbounded neverReady.category.scope := ⟨by decide, rfl⟩
  have dueAt : neverReady.DueAt quiet (Moment.atMicros 2500000).instant :=
    dueAt_of_offset quiet rfl rfl rfl
  have exact : quiet.clockwork.Exact briefly.retryWindow := by
    have allowed : quiet.clockwork.Allows briefly.retryWindow.seconds := by
      rintro longest ⟨⟩
      decide +kernel
    have whole : Number.nearestInt (briefly.retryWindow.seconds * 1000000) = .ok 1000000 := by
      decide +kernel
    rw [Clockwork.Exact, Clockwork.microsOfWait_of_allows allowed, microsOfSeconds, whole]
    rfl
  have probes : ∀ scope, (neverReady.probe scope).Along Session.Reaches :=
    fun _ session => .refl session
  have watches : ∀ result, (inattentive result).Along Session.Reaches :=
    fun _ session => .refl session
  obtain ⟨stages, ending, final, course, _, runs, apart, _, all⟩ :=
    exists_pacing dueAt unbounded (by decide) exact probes watches
  have bound : attemptBound briefly (Moment.atMicros 2500000).instant
      (neverReady.attempt briefly quiet).2 = 4 := by
    decide +kernel
  have undone : (neverReady.run briefly inattentive 4 1 quiet).2.scopes.isCancelled 0 = false := by
    decide +kernel
  rw [runs 4 (Nat.le_of_eq bound)] at undone
  have fails : ∀ made ∈ stages, (∃ cause, neverReady.Fails briefly made cause) ∧
      made.ended.micros = made.started.micros := by
    intro made member
    obtain ⟨earlier, later, rfl⟩ := List.append_of_mem member
    obtain ⟨_, rest⟩ := course.exists_rest
    obtain ⟨cause, ended, failed, instantly⟩ := neverReady_fails made.started
    have same : made.ended = ended := by
      rw [rest.ended_eq, attempt, failed]
    rw [← same] at failed instantly
    exact ⟨⟨cause, failed⟩, instantly⟩
  have readable : neverReady.ReadableUntil (neverReady.attempt briefly quiet).2
      (Moment.atMicros 2500000).instant :=
    readableUntil_of_offset rfl rfl rfl (by decide +kernel) (by decide +kernel)
  have length := all readable (fun _ session => ⟨session, rfl, rfl⟩) undone fails
  exact ⟨stages, ending, final, course, apart, length.trans bound⟩

end CheckTask

end Checkup
