import Checkup.Proofs.Engine.Confinement
import Checkup.Proofs.Engine.Mirroring
import Checkup.Proofs.Session.Alike

/-!
# Probes that cancel their own scopes

A probe may cancel the scope of its attempt. Main statement: if nobody looks at that scope afterwards,
a suite has the same run as with probes that do not cancel it, and leaves the same session, but for
whether scopes of attempts are cancelled.
-/

namespace Checkup

open Checkup.Action (Mirrors)

def Action.cancelIf (condition : Bool) (id : ScopeId) : Action Unit :=
  if condition then Action.cancel id else pure ()

/-- Two probes are the same, but at some point the first one may cancel its own scope. Neither looks
at scopes of other attempts, nor at its own one after that point. The scopes of attempts are those
that were made after the first ones. -/
inductive Probe.Spares (base : ScopeId) : Probe → Probe → Prop where
  | intro {α : Type} {first : ScopeId → Action α} {cancels : ScopeId → α → Bool}
      {rest : ScopeId → α → Action Returned}
      (before : ∀ scope, base ≤ scope → (first scope).Blind fun id => base ≤ id ∧ id ≠ scope)
      (after : ∀ scope value, base ≤ scope → (rest scope value).Blind fun id => base ≤ id) :
      Spares base
        (fun scope => do
          let value ← first scope
          Action.cancelIf (cancels scope value) scope
          rest scope value)
        (fun scope => do
          let value ← first scope
          rest scope value)

namespace Session

/-- Sessions that differ at most in whether scopes from a number on are cancelled. -/
def AlikeSince (base : ScopeId) (session other : Session) : Prop :=
  session.Alike (fun id => base ≤ id) other ∧ base ≤ session.scopes.all.size

theorem Alike.entered {hidden : ScopeId → Prop} {session other : Session}
    (alike : session.Alike hidden other) {parent : ScopeId} (seen : ¬hidden parent)
    (timeout : Duration) :
    other.nextScope = session.nextScope ∧
      (session.entered parent timeout).Alike (fun id => hidden id ∧ id ≠ session.nextScope)
        (other.entered parent timeout) := by
  obtain ⟨scopes, rfl, same⟩ := alike
  exact ⟨same.size_eq, _, rfl, same.addChild seen _⟩

end Session

namespace Action

theorem Blind.since {base : ScopeId} {action : Action α} (blind : action.Blind fun id => base ≤ id)
    (ages : action.AgesScopes) :
    Mirrors (Session.AlikeSince base) (Session.AlikeSince base) action action :=
  Mirrors.keeping blind fun session known => Nat.le_trans known (ages session).size_le

theorem log_since (base : ScopeId) (severity : Log.Severity) (name : String)
    (fields : List (String × Value)) :
    Mirrors (Session.AlikeSince base) (Session.AlikeSince base) (log severity name fields)
      (log severity name fields) :=
  (blind_log severity name fields).since fun session => .refl session.scopes

end Action

/-- From sessions that are alike but for other attempts, both probes give the same. Cancelling its
own scope reaches no other one that is not of an attempt. -/
theorem Probe.Spares.mirrors {base : ScopeId} {probe other : Probe} (spares : Spares base probe other)
    {scope : Nat} (own : base ≤ scope) :
    Mirrors (Session.Alike fun id => base ≤ id ∧ id ≠ scope) (Session.Alike fun id => base ≤ id)
      (probe scope) (other scope) := by
  have wider : ∀ id, base ≤ id ∧ id ≠ scope → base ≤ id := fun _ both => both.1
  cases spares with
  | @intro α first cancels rest before after =>
    refine Mirrors.bind (fun _ _ alike => alike.mono wider) (before scope own) fun value => ?_
    intro session other alike
    -- Here only the first probe cancels, and it reaches its own scope and later ones at most.
    cases cancelled : cancels scope value with
    | false => exact after scope value own session other (alike.mono wider)
    | true =>
      have only : ∀ id ∈ session.scopes.below scope, base ≤ id :=
        fun id member => Nat.le_trans own (Scopes.le_of_mem_below member)
      exact after scope value own (session.cancel scope) other (alike.cancel_hidden wider only)

namespace CheckTask

variable {task : CheckTask} {configuration : Configuration} {observer : Observer} {probe : Probe}
  {base : ScopeId}

theorem attempt_alike (spares : Probe.Spares base task.probe probe)
    (known : task.category.scope < base) :
    Mirrors (Session.AlikeSince base) (Session.Alike fun id => base ≤ id)
      (task.category.attempt task.checker configuration.timeout task.probe)
      (task.category.attempt task.checker configuration.timeout probe) := by
  rintro session other ⟨alike, older⟩
  have own : base ≤ session.nextScope := older
  -- The scope of the attempt starts the same in both sessions, so that the probes may look at it.
  obtain ⟨sameScope, entered⟩ := alike.entered (Nat.not_le_of_lt known) configuration.timeout
  obtain ⟨answered, left⟩ := spares.mirrors own _ _ entered
  have notes : ∀ answer, (task.category.logRaised task.checker answer).Blind fun id => base ≤ id :=
    Category.logRaised_mirrors Action.blind_log
  rw [Category.attempt_eq, Category.attempt_eq, sameScope]
  dsimp only
  rw [answered]
  have noted := notes (Category.judged (task.probe session.nextScope
    (session.entered task.category.scope configuration.timeout)).1) _ _ left
  exact ⟨rfl, (Action.blind_release session.nextScope _ _ noted.2).2⟩

theorem retries_alike {hidden : ScopeId → Prop} {session other : Session}
    (alike : session.Alike hidden other) (seen : ¬hidden task.category.scope) (outcome : Outcome) :
    task.category.retries task.checker outcome other =
      task.category.retries task.checker outcome session := by
  have sameDone := alike.isDone_eq seen
  have samePolicy : task.checker.policy.allowsRetry other =
      task.checker.policy.allowsRetry session := by
    obtain ⟨scopes, rfl, same⟩ := alike
    rfl
  rw [Category.retries, Category.retries, Category.allowsRetry, Category.allowsRetry, sameDone,
    samePolicy]

section Run

variable (spares : Probe.Spares base task.probe probe) (known : task.category.scope < base)
  (ages : (task.attempt configuration).AgesScopes) (watches : ∀ result, (observer result).AgesScopes)
  (blind : ∀ result, (observer result).Blind fun id => base ≤ id)

include spares known ages watches blind

theorem run_alike (limit number : Nat) {session other : Session}
    (alike : session.AlikeSince base other) :
    ((task.probedBy probe).run configuration observer limit number other).1 =
        (task.run configuration observer limit number session).1 ∧
      (task.run configuration observer limit number session).2.AlikeSince base
        ((task.probedBy probe).run configuration observer limit number other).2 := by
  have seen : ¬base ≤ task.category.scope := Nat.not_le_of_lt known
  have attempts : Mirrors (Session.AlikeSince base) (Session.AlikeSince base)
      (task.attempt configuration) ((task.probedBy probe).attempt configuration) := by
    have mirrored : Mirrors (Session.AlikeSince base) (Session.Alike fun id => base ≤ id)
        (task.attempt configuration) ((task.probedBy probe).attempt configuration) :=
      attempt_mirrors (attempt_alike spares known)
        fun outcome session other left => retries_alike left seen outcome
    exact (mirrored.keeping fun session older => Nat.le_trans older (ages session).size_le).mono
      (fun session other left => ⟨left, left.2⟩) fun session other left => left
  have waits : Mirrors (Session.AlikeSince base) (Session.AlikeSince base)
      (Action.wait task.category.scope configuration.retryWindow.seconds)
      (Action.wait task.category.scope configuration.retryWindow.seconds) :=
    (Action.blind_wait seen _).since fun session =>
      (Action.wait_cancels _ _ session).handled.grows.ageTo
  have deliveries : ∀ number outcome retry,
      Mirrors (Session.AlikeSince base) (Session.AlikeSince base)
        (task.deliver configuration observer number outcome retry)
        (task.deliver configuration observer number outcome retry) :=
    Category.deliver_mirrors (Action.log_since base) waits
      fun result => (blind result).since (watches result)
  have sameMicros : ∀ session other : Session, session.AlikeSince base other →
      other.micros = session.micros := fun session other left => left.1.micros_eq
  exact run_mirrors sameMicros attempts deliveries limit number alike

end Run

end CheckTask

section Recast

variable (replace : CheckTask → Probe)

def Category.recastChecker (category : Category) (checker : Checker) : Checker :=
  { checker with probe := checker.probe.map fun probe => replace { category, checker, probe } }

def Category.recast (category : Category) : Category :=
  { category with checkers := category.checkers.map (category.recastChecker replace) }

def CheckTask.recast (task : CheckTask) : CheckTask where
  category := task.category.recast replace
  checker := { task.checker with probe := some (replace task) }
  probe := replace task

def Item.recast : Item → Item
  | passOver category => passOver (category.recast replace)
  | check task => check (task.recast replace)

theorem Category.tasks_recast (category : Category) :
    (category.recast replace).tasks = category.tasks.map (CheckTask.recast replace) := by
  obtain ⟨id, checkers, enabled, hintBaseUrl, scope⟩ := category
  simp only [tasks, recast, List.filterMap_map, List.map_filterMap]
  congr 1
  funext checker
  cases held : checker.probe <;> simp [recastChecker, CheckTask.recast, recast, held]

theorem agenda_recast (categories : List Category) :
    agenda (categories.map (Category.recast replace)) =
      (agenda categories).map (Item.recast replace) := by
  rw [agenda, agenda, List.flatMap_map, List.map_flatMap]
  congr 1
  funext category
  have sameEnabled : (category.recast replace).enabled = category.enabled := rfl
  rw [sameEnabled, Category.tasks_recast]
  cases category.enabled with
  | false => rfl
  | true => simp [Item.recast]

theorem CheckTask.run_recast (task : CheckTask) (configuration : Configuration)
    (observer : Observer) (limit number : Nat) (session : Session) :
    (task.recast replace).run configuration observer limit number session =
      (task.probedBy (replace task)).run configuration observer limit number session :=
  (task.probedBy (replace task)).run_with (task.category.recast replace).checkers
    (some (replace task)) limit number session

end Recast

namespace Engine

variable {configuration : Configuration} {observer : Observer} {limit : Nat} {base : ScopeId}
  {replace : CheckTask → Probe}

theorem runItems_recast {items : List Item}
    (spares : ∀ task ∈ items.filterMap Item.task?, Probe.Spares base task.probe (replace task))
    (known : ∀ task ∈ items.filterMap Item.task?, task.category.scope < base)
    (ages : ∀ task ∈ items.filterMap Item.task?, (task.attempt configuration).AgesScopes)
    (watches : ∀ result, (observer result).AgesScopes)
    (blind : ∀ result, (observer result).Blind fun id => base ≤ id) (verdict : Verdict)
    {session other : Session} (alike : session.AlikeSince base other) :
    (runItems configuration observer limit (items.map (Item.recast replace)) verdict other).1 =
        (runItems configuration observer limit items verdict session).1 ∧
      (runItems configuration observer limit items verdict session).2.AlikeSince base
        (runItems configuration observer limit (items.map (Item.recast replace)) verdict
          other).2 := by
  induction items generalizing verdict session other with
  | nil => exact ⟨rfl, (Action.log_since base _ _ _ session other alike).2⟩
  | cons item later inductionHypothesis =>
    cases item with
    | passOver category =>
      exact inductionHypothesis spares known ages verdict
        (Action.log_since base _ _ _ session other alike).2
    | check task =>
      obtain ⟨sparesFirst, sparesLater⟩ := List.forall_mem_cons.mp spares
      obtain ⟨knownFirst, knownLater⟩ := List.forall_mem_cons.mp known
      obtain ⟨agesFirst, agesLater⟩ := List.forall_mem_cons.mp ages
      obtain ⟨sameRun, sameEnd⟩ :=
        CheckTask.run_alike sparesFirst knownFirst agesFirst watches blind limit 1 alike
      rw [← CheckTask.run_recast] at sameRun sameEnd
      exact runItems_mirrors (Action.log_since base) verdict rfl rfl rfl sameRun sameEnd
        fun verdict ended endedToo left =>
          inductionHypothesis sparesLater knownLater agesLater verdict left

/-- The scope of every attempt of a suite is confined by that of its category and by the timeout, and
it is detached when the attempt is over. Where the observer makes no scopes either, all scopes have
the children that they had before, apart from those that probes and observer detach. A suite whose
probes cancel their own scopes has the same run as one whose probes do not, if nobody looks at those
scopes afterwards. -/
theorem runChecks_confines {engine : Engine} {session final : Session} {run : SuiteRun}
    (ran : engine.runChecks observer session limit = (run, final))
    (known : ∀ task ∈ enabledTasks engine.categories,
      task.category.scope < session.scopes.all.size)
    (probes : ∀ task ∈ enabledTasks engine.categories, ∀ scope, (task.probe scope).MakesNoScopes)
    (watches : ∀ result, (observer result).AgesScopes) :
    (∃ performed,
      Sweep engine.configuration observer limit (agenda engine.categories) {} session performed
          run.ending final ∧
        run.checks = performed.map (·.run) ∧
          ∀ done ∈ performed,
            (∃ stages, done.Attempts engine.configuration observer limit stages) ∧
              ∀ stages, done.Attempts engine.configuration observer limit stages →
                ∀ stage ∈ stages, done.task.Confined engine.configuration stage ∧
                  stage.ended.scopes.AgeTo final.scopes) ∧
      ((∀ result, (observer result).MakesNoScopes) →
        ∀ id, id < session.scopes.all.size →
          (final.scopes.children id = (session.scopes.children id).filter fun child =>
              (final.scopes.get? child).any (·.attached)) ∧
            ((∀ task ∈ enabledTasks engine.categories, ∀ scope,
                (task.probe scope).DetachesNoScopes) →
              (∀ result, (observer result).DetachesNoScopes) →
                final.scopes.children id = session.scopes.children id)) ∧
        ∀ replace : CheckTask → Probe,
          (∀ task ∈ enabledTasks engine.categories,
            Probe.Spares session.scopes.all.size task.probe (replace task)) →
            (∀ result, (observer result).Blind fun id => session.scopes.all.size ≤ id) →
              ∃ after,
                runChecks ⟨engine.categories.map (Category.recast replace), engine.configuration⟩
                    observer session limit = (run, after) ∧
                  final.Alike (fun id => session.scopes.all.size ≤ id) after := by
  obtain ⟨performed, sweep, checks⟩ := exists_sweep ran
  rw [← agenda_tasks] at known probes
  have settles := fun task member =>
    CheckTask.attempt_settles (probes task member) engine.configuration
  refine ⟨⟨performed, sweep, checks, ?_⟩, ?_, ?_⟩
  · intro done member
    refine ⟨sweep.exists_attempts member, ?_⟩
    intro stages attempts stage stageMember
    obtain ⟨task, _⟩ := sweep.ran done member
    obtain ⟨_, along⟩ := sweep.along_scopes Scopes.AgeTo Scopes.AgeTo.trans
      (fun _ _ cancels => cancels.handled.grows.ageTo)
      (fun task member session => (settles task member session).ages) watches
    obtain ⟨started, ended⟩ := along done member stages attempts stage stageMember
    have there := Nat.lt_of_lt_of_le (known done.task task) started.size_le
    exact ⟨CheckTask.confined (probes done.task task) there
      (attempts.course.attempted stage stageMember), ended⟩
  · intro handles id older
    obtain ⟨settled, _⟩ := sweep.along_scopes Scopes.Settles Scopes.Settles.trans
      (fun _ _ cancels => cancels.handled.settles) settles fun result session =>
        (handles result session).settles
    refine ⟨settled.children_eq older, ?_⟩
    intro holds holdsToo
    rw [← agenda_tasks] at holds
    obtain ⟨held, _⟩ := sweep.along_scopes Scopes.Holds
      (fun first second parent child attached => second parent child (first parent child attached))
      (fun _ _ cancels => cancels.holds)
      (fun task member => CheckTask.attempt_holds (holds task member) engine.configuration) holdsToo
    exact settled.children_eq_of_holds held older
  · intro replace spares blind
    rw [← agenda_tasks] at spares
    obtain ⟨sameRun, alike, _⟩ := runItems_recast spares known
      (fun task member session => (settles task member session).ages) watches blind {}
      (⟨.refl _ session, Nat.le_refl _⟩ : session.AlikeSince session.scopes.all.size session)
    rw [show runItems engine.configuration observer limit (agenda engine.categories) {} session =
      (run, final) from ran] at sameRun alike
    dsimp only at sameRun alike
    rw [runChecks, agenda_recast]
    exact ⟨_, Prod.ext sameRun rfl, alike⟩

/-- What a probe does that passes when it is called again. -/
def secondTry (tried : Option Value) : Action Returned := do
  Action.record "tried" (.flag true)
  match tried with
  | none => Action.raise (.failed "not ready")
  | some _ => pure (.value .null)

def hasty : Probe := fun scope => do
  let tried ← Action.fetch "tried"
  Action.cancelIf true scope
  secondTry tried

def calm : Probe := fun _ => do
  let tried ← Action.fetch "tried"
  secondTry tried

/-- A suite with such a probe, for a category whose scope is the second one. -/
def hastySuite : Engine :=
  { categories :=
      [{ id := "nodes", scope := 1
         checkers :=
          [{ description := "node ready"
             policy := { retryDeadline := some (Moment.atMicros 60000000) }
             probe := some hasty }] }]
    configuration := CheckTask.briefly }

/-- A session with a scope and another one that is attached to it. -/
def sheltered : Session :=
  ((do
    let root ← Action.background none
    let _ ← Action.under root none : Action Unit) {}).2

/-- How this suite runs when its check may be attempted five times. -/
def hastyRunning : SuiteRun × Session :=
  hastySuite.runChecks (({} : Listener).observer 1) sheltered 5

theorem secondTry_blind (hidden : ScopeId → Prop) (tried : Option Value) :
    (secondTry tried).Blind hidden := by
  refine (Action.blind_record "tried" _).bind fun _ => ?_
  cases tried with
  | none => exact Action.blind_raise _
  | some value => exact Action.blind_pure _

theorem hasty_spares (base : ScopeId) : Probe.Spares base hasty calm :=
  @Probe.Spares.intro base (Option Value) (fun _ => Action.fetch "tried") (fun _ _ => true)
    (fun _ tried => secondTry tried) (fun _ _ => Action.blind_look fun _ _ => rfl)
    fun _ tried _ => secondTry_blind _ tried

theorem hasty_scopes (scope : ScopeId) :
    (hasty scope).MakesNoScopes ∧ (hasty scope).DetachesNoScopes := by
  have composable := Action.along_cancels_observable.toComposable
  have cancels : (hasty scope).Along fun session after =>
      session.scopes.Cancels after.scopes := by
    refine composable.bind (composable.look _ fun _ _ _ => rfl) fun tried => ?_
    refine composable.bind (composable.cancel scope) fun _ => ?_
    refine composable.bind (composable.record "tried" _) fun _ => ?_
    cases tried with
    | none => exact composable.raise _
    | some value => exact composable.pure _
  exact ⟨fun session => (cancels session).handled, fun session => (cancels session).holds⟩

/-- Both attempts of the check cancel their scopes. That does not keep it from being tried again. -/
theorem hastyRunning_confined :
    hastyRunning.1.checks.map (fun check => check.turns.length) = [2] ∧
      (List.range 4).map hastyRunning.2.scopes.isCancelled = [false, false, true, true] ∧
        hastyRunning.2.scopes.children 0 = [1] ∧ hastyRunning.2.scopes.children 1 = [] ∧
          (∃ (done : Performance) (stages : List Stage),
            hastyRunning.1.checks = [done.run] ∧
              done.Attempts CheckTask.briefly (({} : Listener).observer 1) 5 stages ∧
                ∀ stage ∈ stages, done.task.Confined CheckTask.briefly stage) ∧
            ∃ after,
              runChecks ⟨hastySuite.categories.map (Category.recast fun _ => calm),
                CheckTask.briefly⟩ (({} : Listener).observer 1) sheltered 5 =
                  (hastyRunning.1, after) := by
  have tasks : ∀ task ∈ enabledTasks hastySuite.categories,
      task.category.scope = 1 ∧ task.probe = hasty := by
    intro task member
    obtain rfl := List.mem_singleton.mp member
    exact ⟨rfl, rfl⟩
  have known : ∀ task ∈ enabledTasks hastySuite.categories,
      task.category.scope < sheltered.scopes.all.size := by
    intro task member
    rw [(tasks task member).1]
    decide
  have scopes : ∀ task ∈ enabledTasks hastySuite.categories, ∀ scope,
      (task.probe scope).MakesNoScopes ∧ (task.probe scope).DetachesNoScopes := by
    intro task member scope
    rw [(tasks task member).2]
    exact hasty_scopes scope
  have watches := fun result => Listener.observer_scopes {} 1 result
  obtain ⟨⟨performed, sweep, checks, confined⟩, kept, secluded⟩ :=
    runChecks_confines (Prod.eta hastyRunning).symm known
      (fun task member scope => (scopes task member scope).1)
      fun result => (watches result).1.agesScopes
  have children : ∀ id, id < 2 →
      hastyRunning.2.scopes.children id = sheltered.scopes.children id := by
    intro id older
    exact (kept (fun result => (watches result).1) id older).2
      (fun task member scope => (scopes task member scope).2) fun result => (watches result).2
  obtain ⟨done, rest, rfl, _⟩ := sweep.exists_first
  have single : rest = [] := by
    have count : hastyRunning.1.checks.length = 1 := by decide +kernel
    rw [checks, List.length_map, List.length_cons] at count
    exact List.eq_nil_of_length_eq_zero (Nat.succ.inj count)
  obtain ⟨⟨stages, attempts⟩, all⟩ := confined done List.mem_cons_self
  obtain ⟨after, same, _⟩ := secluded (fun _ => calm)
    (fun task member => (tasks task member).2 ▸ hasty_spares _)
    fun result => Listener.observer_blind {} 1 result
  refine ⟨by decide +kernel, by decide +kernel, (children 0 (by decide)).trans (by decide +kernel),
    (children 1 (by decide)).trans (by decide +kernel), ⟨done, stages, ?_, attempts, ?_⟩, after,
    same⟩
  · rw [checks, single]
    rfl
  · exact fun stage member => (all stages attempts stage member).1

end Engine

end Checkup
