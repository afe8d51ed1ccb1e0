import Checkup.Proofs.Engine.Signals
import Checkup.Proofs.Number.Arithmetic
import Checkup.Proofs.Number.Range

/-!
# Runs that are broken off

Where probes end in ordinary faults only and the observer in none, and the retry window is a duration
within the limit, a run is broken off only by the machine. Main statement: the wall clock is out of
the calendar in the time of a deadline then, or the machine does not allow to wait for the retry
window.
-/

namespace Checkup

namespace Action

def Mild (action : Action α) : Prop :=
  ∀ session fault, (action session).1 = .error fault → fault.isOrdinary = true

theorem not_allows_of_le {clockwork : Clockwork} {seconds longer : Float}
    (long : ¬clockwork.Allows seconds) (le : seconds ≤ longer) : ¬clockwork.Allows longer := by
  intro allows
  exact long fun longest has less => allows longest has (Number.float_lt_of_lt_of_le less le)

/-- A wait of no more than a duration comes to its end, or the machine does not allow one of the
duration. -/
theorem hold_cases {duration : Duration} (bounded : duration.Bounded) (id : ScopeId)
    {seconds : Float} (le : 0 < seconds → seconds ≤ duration.seconds) (session : Session) :
    (∃ held, hold id seconds session = (.ok (), held)) ∨
      ¬session.clockwork.Allows duration.seconds ∧
        hold id seconds session = (.error .waitTooLong, session) := by
  unfold hold
  by_cases cancelled : session.scopes.isCancelled id = true
  · rw [if_pos cancelled]
    exact .inl ⟨session, rfl⟩
  · rw [if_neg cancelled]
    by_cases positive : 0 < seconds
    · rw [if_pos positive]
      by_cases allows : session.clockwork.Allows seconds
      · obtain ⟨micros, counted⟩ := bounded.exists_micros positive (le positive)
        rw [Clockwork.microsOfWait_of_allows allows, counted]
        exact .inl ⟨_, rfl⟩
      · rw [Clockwork.microsOfWait_of_not_allows allows]
        exact .inr ⟨not_allows_of_le allows (le positive), rfl⟩
    · rw [if_neg positive]
      exact .inl ⟨session, rfl⟩

theorem wait_cases {duration : Duration} (bounded : duration.Bounded) (id : ScopeId)
    (session : Session) :
    (∃ done held, wait id duration.seconds session = (.ok done, held)) ∨
      ¬session.clockwork.Allows duration.seconds ∧
        wait id duration.seconds session = (.error .waitTooLong, session) := by
  have whole : 0 < duration.seconds → duration.seconds ≤ duration.seconds := by
    intro positive
    exact Number.float_le_refl (Number.isNaN_of_le (Number.float_le_of_lt positive)).2
  -- The scope's deadline can only shorten the wait.
  have shorter : 0 < boundedBy (session.remaining? id) duration.seconds →
      boundedBy (session.remaining? id) duration.seconds ≤ duration.seconds := by
    cases session.remaining? id with
    | none => exact whole
    | some left =>
      unfold boundedBy
      dsimp only
      split
      · rename_i less
        exact fun _ => Number.float_le_of_lt less
      · exact whole
  rw [wait_eq]
  rcases hold_cases bounded id shorter session with ⟨held, holds⟩ | ⟨long, refused⟩
  · rw [holds]
    exact .inl ⟨_, held, rfl⟩
  · rw [refused]
    exact .inr ⟨long, rfl⟩

end Action

def Observer.Calm (observer : Observer) : Prop :=
  ∀ result session, ∃ told, observer result session = (.ok (), told)

namespace CheckTask

variable {task : CheckTask} {configuration : Configuration} {observer : Observer}

/-- The machine breaks the run of a check off: in the time of its deadline for retries the wall clock
cannot be read, or a wait for the retry window is not allowed. -/
inductive BreaksOff (task : CheckTask) (configuration : Configuration) (session : Session)
    (fault : Fault) : Prop where
  | unreadable {deadline : Moment} (dated : task.checker.policy.retryDeadline = some deadline)
      (unread : session.timeIn (task.zone session deadline) = .error fault)
  | unallowed (long : ¬session.clockwork.Allows configuration.retryWindow.seconds)
      (told : fault = .waitTooLong)

theorem deliver_cases (task : CheckTask) (bounded : configuration.retryWindow.Bounded)
    (calm : observer.Calm) (number : Nat) (outcome : Outcome) (retry : Bool) (session : Session) :
    ∃ left, task.deliver configuration observer number outcome retry session = (.ok (), left) ∨
      ¬left.clockwork.Allows configuration.retryWindow.seconds ∧
        task.deliver configuration observer number outcome retry session =
          (.error .waitTooLong, left) := by
  have telling : ∀ noted, ∃ told, Category.tell observer
      (task.category.resultOf? task.checker retry outcome) noted = (.ok (), told) := by
    intro noted
    cases task.category.resultOf? task.checker retry outcome with
    | none => exact ⟨noted, rfl⟩
    | some result => exact calm result noted
  obtain ⟨told, tells⟩ :=
    telling (task.category.logOutcome task.checker number retry outcome session).2
  rw [deliver, Category.deliver_eq, tells]
  cases retry with
  | false => exact ⟨told, .inl rfl⟩
  | true =>
    rcases Action.wait_cases bounded task.category.scope told with
      ⟨done, held, waits⟩ | ⟨long, refused⟩
    · simp only [if_true, waits]
      exact ⟨held, .inl rfl⟩
    · simp only [if_true, refused]
      exact ⟨told, .inr ⟨long, rfl⟩⟩

/-- Only the wall clock can leave it open whether a failed check is tried again. -/
theorem breaksOff_of_undecided {cause fault : Fault} {session : Session}
    (asked : task.category.retries task.checker (.failure cause) session = .error fault) :
    task.BreaksOff configuration session fault := by
  unfold Category.retries Category.allowsRetry Policy.allowsRetry at asked
  rw [if_neg (by simp [Outcome.passed, Outcome.fault?])] at asked
  split at asked
  · cases asked
  · split at asked
    · cases asked
    · rename_i deadline dated
      rcases bind_eq_error.mp asked with unread | ⟨_, _, compared⟩
      · exact .unreadable dated unread
      · cases compared

variable (bounded : configuration.retryWindow.Bounded) (calm : observer.Calm)
  (mild : ∀ scope, (task.probe scope).Mild)

include bounded calm mild in
theorem Course.breaksOff {number : Nat} {session final : Session} {stages : List Stage}
    {ending : Ending Bool} {fault : Fault}
    (course : task.Course configuration observer number session stages ending final)
    (escaped : ending = .escaped fault) : task.BreaksOff configuration final fault := by
  induction course with
  | cut | last => cases escaped
  | @raised number started ended broken attempted =>
    cases escaped
    have escapes : task.Escapes configuration observer ⟨started, ended, .error fault, ended⟩ fault :=
      escapes_of_attempt attempted
    cases escapes with
    | raised answered grave =>
      have ordinary := mild _ _ fault (congrArg Prod.fst answered)
      rw [ordinary] at grave
      cases grave
    | undecided failed asked => exact breaksOff_of_undecided asked
    | untold judged delivered => cases judged
  | @untold number started ended left outcome retry broken attempted delivered =>
    cases escaped
    obtain ⟨told, tells | ⟨long, refused⟩⟩ :=
      task.deliver_cases bounded calm number outcome retry ended
    · simp [delivered] at tells
    · rw [delivered] at refused
      cases refused
      exact .unallowed long rfl
  | again attempted delivered onward inductionHypothesis => exact inductionHypothesis escaped

end CheckTask

namespace Engine

variable {configuration : Configuration} {observer : Observer} {limit : Nat}

theorem Sweep.breaksOff {items : List Item} {verdict : Verdict} {session final : Session}
    {performed : List Performance} {ending : Ending Verdict} {fault : Fault}
    (bounded : configuration.retryWindow.Bounded) (calm : observer.Calm)
    (mild : ∀ task ∈ items.filterMap Item.task?, ∀ scope, (task.probe scope).Mild)
    (sweep : Sweep configuration observer limit items verdict session performed ending final)
    (escaped : ending = .escaped fault) :
    ∃ task ∈ items.filterMap Item.task?, task.BreaksOff configuration final fault := by
  induction sweep with
  | complete | unfinished | halted => cases escaped
  | passedOver same onward inductionHypothesis => exact inductionHypothesis mild escaped
  | escaped ran broken =>
    cases escaped
    obtain ⟨stages, course, _⟩ := CheckTask.exists_course ran
    exact ⟨_, List.mem_cons_self,
      course.breaksOff bounded calm (mild _ List.mem_cons_self) broken⟩
  | next ran finished goesOn onward inductionHypothesis =>
    obtain ⟨task, member, breaks⟩ :=
      inductionHypothesis (fun task member => mild task (List.mem_cons_of_mem _ member)) escaped
    exact ⟨task, List.mem_cons_of_mem _ member, breaks⟩

/-- Where probes end in ordinary faults only, a run escapes only if the machine breaks off the run of
one of its checks. -/
theorem exists_breaksOff {engine : Engine} {session final : Session} {run : SuiteRun}
    {fault : Fault} (bounded : engine.configuration.retryWindow.Bounded) (calm : observer.Calm)
    (mild : ∀ task ∈ enabledTasks engine.categories, ∀ scope, (task.probe scope).Mild)
    (ran : engine.runChecks observer session limit = (run, final))
    (escaped : run.ending = .escaped fault) :
    ∃ task ∈ enabledTasks engine.categories,
      task.BreaksOff engine.configuration final fault := by
  obtain ⟨performed, sweep, _⟩ := exists_sweep ran
  rw [← agenda_tasks] at mild ⊢
  exact sweep.breaksOff bounded calm mild escaped

end Engine

end Checkup
