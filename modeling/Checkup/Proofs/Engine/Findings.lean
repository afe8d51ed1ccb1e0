import Checkup.Proofs.Engine.Parallel
import Checkup.Proofs.Engine.Trials
import Checkup.Proofs.Probe.Storing

/-!
# What is known in the store

The store is shared by all checks of a suite and kept from one run to the next. Main statement:
where all probes are those that come with the library and nobody else stores anything, the store
holds at every moment exactly what the attempts so far have found out, each finding as it was found
out last.
-/

namespace Checkup

namespace Trial

variable {observer : Observer} {trial : Trial}

/-- What an attempt establishes: what its probe finds out. -/
def Establishes (trial : Trial) (topic : Topic) (value : Value) : Prop :=
  Probe.Finds trial.task.probe trial.scope trial.entered topic value

def Passes (trial : Trial) : Prop :=
  ∃ outcome retry, trial.stage.answer = .ok (outcome, retry) ∧ outcome.passed = true

def Succeeds (trial : Trial) : Prop :=
  ∃ outcome retry, trial.stage.answer = .ok (outcome, retry) ∧ outcome.passed = true ∧
    outcome.isSkip = false

theorem Made.store_eq (made : trial.Made observer) :
    trial.stage.ended.store = (trial.task.probe trial.scope trial.entered).2.store := by
  obtain ⟨desk, ended⟩ := made.exists_ended_eq
  rw [ended]
  rfl

/-- An attempt whose probe gives an outcome comes to this outcome, unless asking for another attempt
ends in a fault. -/
theorem Made.answer_eq {outcome : Outcome} (made : trial.Made observer)
    (returned : (trial.task.probe trial.scope trial.entered).1 = .ok (.outcome outcome)) :
    trial.stage.answer =
      (trial.task.category.retries trial.task.checker outcome trial.stage.ended).map
        fun retry => (outcome, retry) := by
  have decided := trial.task.attempt_eq_decided trial.configuration trial.stage.started
  rw [made.attempted] at decided
  have answered : trial.stage.answer = trial.task.decided
      (Outcome.ofAnswer (Category.judged (trial.task.probe trial.scope trial.entered).1))
        trial.stage.ended := decided
  rw [answered, returned]
  rfl

theorem Made.answer_of_passed {outcome : Outcome} (made : trial.Made observer)
    (returned : (trial.task.probe trial.scope trial.entered).1 = .ok (.outcome outcome))
    (passed : outcome.passed = true) : trial.stage.answer = .ok (outcome, false) := by
  rw [made.answer_eq returned, Category.retries, if_pos passed]
  rfl

theorem Made.passes_iff {outcome : Outcome} (made : trial.Made observer)
    (returned : (trial.task.probe trial.scope trial.entered).1 = .ok (.outcome outcome)) :
    trial.Passes ↔ outcome.passed = true := by
  constructor
  · rintro ⟨found, retry, answered, passed⟩
    rw [made.answer_eq returned] at answered
    cases decision :
      trial.task.category.retries trial.task.checker outcome trial.stage.ended with
    | error fault =>
      rw [decision] at answered
      cases answered
    | ok again =>
      rw [decision] at answered
      cases answered
      exact passed
  · intro passed
    exact ⟨outcome, false, made.answer_of_passed returned passed, passed⟩

end Trial

/-- An attempt changes a store: it stores what it establishes, or leaves the store as it is. -/
structure Trial.Stores (trial : Trial) (store after : Store) : Prop where
  stored : ∀ topic value, trial.Establishes topic value → after = store.set topic.key value
  kept : (∀ topic value, ¬trial.Establishes topic value) → after = store

namespace Trial.Stores

variable {trial : Trial} {store after : Store}

theorem same_or_exists (stores : trial.Stores store after) :
    after = store ∨
      ∃ topic value, trial.Establishes topic value ∧ after = store.set topic.key value := by
  by_cases some : ∃ topic value, trial.Establishes topic value
  · obtain ⟨topic, value, establishes⟩ := some
    exact .inr ⟨topic, value, establishes, stores.stored topic value establishes⟩
  · exact .inl (stores.kept fun topic value establishes => some ⟨topic, value, establishes⟩)

theorem contains_iff (stores : trial.Stores store after) (key : String) :
    after.contains key = true ↔ store.contains key = true ∨
      ∃ topic value, trial.Establishes topic value ∧ topic.key = key := by
  constructor
  · intro has
    rcases stores.same_or_exists with same | ⟨topic, value, establishes, same⟩
    · exact .inl (same ▸ has)
    · rw [same, Store.contains_set_iff] at has
      exact has.symm.imp_right fun sameKey => ⟨topic, value, establishes, sameKey.symm⟩
  · rintro (before | ⟨topic, value, establishes, rfl⟩)
    · rcases stores.same_or_exists with same | ⟨topic, value, _, same⟩
      · exact same ▸ before
      · rw [same, Store.contains_set_iff]
        exact .inr before
    · rw [stores.stored topic value establishes, Store.contains_set_iff]
      exact .inl rfl

theorem get?_eq (stores : trial.Stores store after) {topic : Topic}
    (silent : ∀ value, ¬trial.Establishes topic value) :
    after.get? topic.key = store.get? topic.key := by
  rcases stores.same_or_exists with same | ⟨other, value, establishes, same⟩
  · rw [same]
  · have different : topic.key ≠ other.key := by
      intro sameKey
      obtain rfl := Topic.key_injective sameKey
      exact silent value establishes
    rw [same, Store.get?_set_of_ne store value different]

end Trial.Stores

/-- What a store holds after attempts is what they have established. -/
structure Established (trials : List Trial) (store : Store) : Prop where
  known : ∀ topic, store.contains topic.key = true ↔
    ∃ trial ∈ trials, ∃ value, trial.Establishes topic value
  /-- There are no other names. -/
  others : ∀ key, store.contains key = true → ∃ topic, Topic.key topic = key
  /-- Every name has the value of the latest attempt that established it. -/
  latest : ∀ earlier trial later topic value, trials = earlier ++ trial :: later →
    trial.Establishes topic value → (∀ next ∈ later, ∀ other, ¬next.Establishes topic other) →
      store.get? topic.key = some value

namespace Established

variable {trials : List Trial} {trial : Trial} {store after : Store}

theorem of_empty (empty : store.entries = []) : Established [] store := by
  have nothing : ∀ key, store.contains key = false := by
    intro key
    rw [Store.contains, empty]
    rfl
  refine ⟨fun topic => ?_, fun key has => ?_, fun earlier trial later topic value split => ?_⟩
  · simp [nothing]
  · rw [nothing] at has
    cases has
  · simp at split

theorem known_concat (established : Established trials store)
    (stores : trial.Stores store after) (topic : Topic) :
    after.contains topic.key = true ↔
      ∃ made ∈ trials ++ [trial], ∃ value, made.Establishes topic value := by
  rw [stores.contains_iff, established.known]
  constructor
  · rintro (⟨made, member, establishes⟩ | ⟨found, value, establishes, same⟩)
    · exact ⟨made, List.mem_append_left _ member, establishes⟩
    · obtain rfl := Topic.key_injective same
      exact ⟨trial, List.mem_append_right _ (List.mem_singleton_self trial), value, establishes⟩
  · rintro ⟨made, member, value, establishes⟩
    rcases List.mem_append.mp member with before | last
    · exact .inl ⟨made, before, value, establishes⟩
    · obtain rfl := List.mem_singleton.mp last
      exact .inr ⟨topic, value, establishes, rfl⟩

theorem concat (established : Established trials store) (stores : trial.Stores store after) :
    Established (trials ++ [trial]) after := by
  refine ⟨established.known_concat stores, fun key has => ?_, ?_⟩
  · rcases (stores.contains_iff key).mp has with before | ⟨topic, _, _, same⟩
    · exact established.others key before
    · exact ⟨topic, same⟩
  · intro earlier found later topic value split establishes unchanged
    rcases List.eq_nil_or_concat later with rfl | ⟨between, last, rfl⟩
    · obtain ⟨rfl, same⟩ := List.append_inj' split rfl
      obtain rfl := List.head_eq_of_cons_eq same
      rw [stores.stored topic value establishes]
      exact Store.get?_set_self store topic.key value
    · -- The latest attempt of the kind was made before, and the last one leaves its value.
      rw [List.concat_eq_append] at split unchanged
      rw [← List.cons_append, ← List.append_assoc] at split
      obtain ⟨before, same⟩ := List.append_inj' split rfl
      obtain rfl := List.head_eq_of_cons_eq same
      have silent := unchanged trial (List.mem_append_right _ (List.mem_singleton_self trial))
      rw [stores.get?_eq silent]
      exact established.latest earlier found between topic value before establishes
        fun next member => unchanged next (List.mem_append_left _ member)

end Established

namespace Trial

structure Records (trial : Trial) (past : List Trial) : Prop where
  before : Established past trial.stage.started.store
  after : Established (past ++ [trial]) trial.stage.ended.store
  left : trial.stage.ended.SameStore trial.stage.left
  kept : ∀ key, trial.stage.started.store.contains key = true →
    trial.stage.ended.store.contains key = true
  /-- Looking for a name passes exactly if it is known at that moment. -/
  looked : ∀ key, trial.task.probe = Machine.lookForKey key →
    (trial.Passes ↔ trial.stage.started.store.contains key = true)
  /-- Resolving a host in a scope that is done, or without success, leaves the store as it was. -/
  unresolved : ∀ host, trial.task.probe = Network.resolve host true →
    trial.entered.isDone trial.scope = true ∨ ¬trial.Succeeds →
      trial.stage.started.SameStore trial.stage.ended
  /-- So does looking for a variable without success. -/
  unset : ∀ name required, trial.task.probe = Machine.lookForVariable name required →
    ¬trial.Succeeds → trial.stage.started.SameStore trial.stage.ended

variable {observer : Observer} {trial : Trial} {past : List Trial}

theorem Made.stores (made : trial.Made observer) (builtIn : Probe.BuiltIn trial.task.probe) :
    trial.Stores trial.stage.started.store trial.stage.ended.store where
  stored _ _ establishes := made.store_eq.trans (Probe.Finds.store_eq establishes)
  kept nothing := made.store_eq.trans (builtIn.sameStore nothing)

theorem Made.records (made : trial.Made observer) (builtIn : Probe.BuiltIn trial.task.probe)
    (watches : ∀ result, (observer result).Along Session.SameStore)
    (before : Established past trial.stage.started.store) : trial.Records past := by
  have stores := made.stores builtIn
  refine
    { before
      after := before.concat stores
      left := made.along_left Session.sameStore_onward
        (fun _ _ same => same.sameStore) Action.wait_sameStore watches
      kept := fun key has => (stores.contains_iff key).mpr (.inl has)
      looked := ?looked
      unresolved := ?unresolved
      unset := ?unset }
  case looked =>
    intro key probes
    have looked := Machine.lookForKey_eq key trial.scope trial.entered
    rw [← probes] at looked
    rw [made.passes_iff (congrArg Prod.fst looked)]
    have same : trial.entered.store = trial.stage.started.store := rfl
    rw [same]
    cases trial.stage.started.store.contains key <;>
      simp [Outcome.passed, Outcome.fault?, Outcome.failed]
  case unresolved =>
    intro host probes failed
    have nothing : ∀ addresses, ¬Network.Learns host trial.scope trial.entered addresses := by
      intro addresses learns
      -- An attempt that learns addresses is made in a live scope, and succeeds.
      rcases failed with done | failed
      · have found := learns.undone
        rw [Action.askDone_of_isDone done] at found
        cases found
      · obtain ⟨detail, after, resolved, _⟩ := learns.exists_resolve_eq
        rw [← probes] at resolved
        exact failed ⟨_, _, made.answer_of_passed (congrArg Prod.fst resolved) rfl, rfl, rfl⟩
    have kept := Network.resolve_sameStore nothing
    rw [← probes] at kept
    exact made.store_eq.trans kept
  case unset =>
    intro name required probes failed
    have nothing : ∀ content, ¬Machine.Holds name trial.entered content := by
      intro content holds
      have found := holds.lookForVariable_eq required trial.scope
      rw [← probes] at found
      exact failed ⟨_, _, made.answer_of_passed (congrArg Prod.fst found) rfl, rfl, rfl⟩
    have kept := @Machine.lookForVariable_sameStore name required trial.scope _ nothing
    rw [← probes] at kept
    exact made.store_eq.trans kept

end Trial

namespace Engine

variable {observer : Observer} {limit : Nat} {engine : Engine}

def BuiltIn (engine : Engine) : Prop :=
  ∀ task ∈ enabledTasks engine.categories, Probe.BuiltIn task.probe

/-- A run keeps what is known in the store up to date, attempt by attempt. -/
theorem Comprises.records {session final : Session} {run : SuiteRun}
    {rounds : List (Round engine.configuration observer limit)} {past : List Trial}
    (comprises : engine.Comprises observer limit session run final rounds)
    (builtIn : engine.BuiltIn)
    (watches : ∀ result, (observer result).Along Session.SameStore)
    (before : Established past session.store) :
    Established (past ++ rounds.flatMap (·.trials)) final.store ∧
      ∀ earlier trial later, rounds.flatMap (·.trials) = earlier ++ trial :: later →
        trial.Records (past ++ earlier) := by
  have probes : ∀ trial ∈ rounds.flatMap (·.trials), Probe.BuiltIn trial.task.probe :=
    fun trial member => builtIn trial.task (comprises.known trial member)
  obtain ⟨atEnd, between⟩ := @Passage.invariant observer session final _
    (fun earlier reached => Established earlier reached.store) comprises.passage
    (fun earlier reached other same established => same.sameStore ▸ established)
    (fun earlier trial member made established =>
      established.concat (made.stores (probes trial member)))
    (fun earlier trial member made established => by
      have left := made.along_left Session.sameStore_onward (fun _ _ same => same.sameStore)
        Action.wait_sameStore watches
      exact left ▸ established)
    past before
  refine ⟨atEnd, ?_⟩
  intro earlier trial later split
  have member : trial ∈ rounds.flatMap (·.trials) := by
    rw [split]
    exact List.mem_append_right earlier List.mem_cons_self
  exact (comprises.passage.made trial member).records (probes trial member) watches
    (between earlier trial later split).1

/-- The service of a store that was empty at first: runs of the library's probes, whose observers
store nothing, and between them whatever leaves the store as it is. -/
inductive Service : List Trial → Session → Prop where
  | fresh {session : Session} (empty : session.store.entries = []) : Service [] session
  | idle {trials : List Trial} {session other : Session} (service : Service trials session)
      (same : session.SameStore other) : Service trials other
  | run {trials : List Trial} {session final : Session} {engine : Engine} {observer : Observer}
      {limit : Nat} {run : SuiteRun} {rounds : List (Round engine.configuration observer limit)}
      (service : Service trials session) (builtIn : engine.BuiltIn)
      (watches : ∀ result, (observer result).Along Session.SameStore)
      (comprises : engine.Comprises observer limit session run final rounds) :
      Service (trials ++ rounds.flatMap (·.trials)) final

theorem Service.established {trials : List Trial} {session : Session}
    (service : Service trials session) : Established trials session.store := by
  induction service with
  | fresh empty => exact .of_empty empty
  | idle service same inductionHypothesis => exact same ▸ inductionHypothesis
  | run service builtIn watches comprises inductionHypothesis =>
    exact (comprises.records builtIn watches inductionHypothesis).1

/-- In the service of a store, every finding has a name of its own, and the store holds exactly what
the attempts so far have established. In a further run this is so before and after every attempt; no
name is removed, and looking for one passes exactly if it is known at that moment. -/
theorem Service.faithful {trials : List Trial} {session : Session}
    (service : Service trials session) :
    Function.Injective Topic.key ∧ Established trials session.store ∧
      ∀ {engine : Engine} {observer : Observer} {limit : Nat} {run : SuiteRun} {final : Session},
        engine.BuiltIn → (∀ result, (observer result).Along Session.SameStore) →
          engine.runChecks observer session limit = (run, final) →
            ∃ rounds : List (Round engine.configuration observer limit),
              engine.Comprises observer limit session run final rounds ∧
                Service (trials ++ rounds.flatMap (·.trials)) final ∧
                  (∀ key, session.store.contains key = true → final.store.contains key = true) ∧
                    ∀ earlier trial later,
                      rounds.flatMap (·.trials) = earlier ++ trial :: later →
                        trial.Records (trials ++ earlier) := by
  have established := service.established
  refine ⟨Topic.key_injective, established, ?_⟩
  intro engine observer limit run final builtIn watches ran
  obtain ⟨rounds, comprises⟩ := exists_comprises ran
  obtain ⟨atEnd, between⟩ := comprises.records builtIn watches established
  refine ⟨rounds, comprises, .run service builtIn watches comprises, ?_, between⟩
  intro key has
  obtain ⟨topic, rfl⟩ := established.others key has
  obtain ⟨trial, member, establishes⟩ := (established.known topic).mp has
  exact (atEnd.known topic).mpr ⟨trial, List.mem_append_left _ member, establishes⟩

/-- A suite that stores the version and the addresses of a host, fails to find a variable, and then
looks for the addresses and for the variable. -/
def releaseSuite : Engine :=
  { categories :=
      [{ id := "release", scope := 0
         checkers :=
          [{ description := "python is at least 3.11"
             probe := some (Machine.compareVersion "3.11" [3, 11]) },
            Network.resolveChecker "db" {}, Machine.variableChecker "TOKEN" true {},
            Machine.keyChecker "dns:db" none {}, Machine.keyChecker "env:TOKEN" none {}] }]
    configuration := CheckTask.briefly }

/-- A session with nothing stored, on a host that knows two addresses. -/
def releasing : Session :=
  { CheckTask.quiet with
    host := { resolve := fun _ _ => { answer := .ok ["10.0.0.2", "10.0.0.1"] } } }

def releaseRunning : SuiteRun × Session :=
  releaseSuite.runChecks (({} : Listener).observer 0) releasing 5

theorem releaseRunning_recorded :
    releaseRunning.1.results.map (fun result => result.fault.isNone) =
        [true, true, false, true, false] ∧
      releaseRunning.2.store.entries.map (·.1) = ["python_version", "dns:db"] ∧
        ∃ trials : List Trial, Service trials releaseRunning.2 ∧
          (∃ trial ∈ trials, ∃ value, trial.Establishes (.addresses "db") value) ∧
            (∀ trial ∈ trials, ∀ value, ¬trial.Establishes (.content "TOKEN") value) ∧
              ∀ earlier trial later, trials = earlier ++ trial :: later →
                trial.Records earlier := by
  have builtIn : releaseSuite.BuiltIn := by
    refine forall_enabledTasks ?_
    simp only [releaseSuite, Network.resolveChecker, Machine.variableChecker, Machine.keyChecker,
      List.forall_mem_cons, Option.some.injEq, forall_eq', List.not_mem_nil, false_imp_iff,
      implies_true, and_true]
    exact ⟨.version _ _, .addresses _, .content _ _, .key _, .key _⟩
  have service : Service [] releasing := .fresh rfl
  obtain ⟨_, _, onward⟩ := service.faithful
  obtain ⟨rounds, comprises, served, _, between⟩ :=
    onward builtIn (Listener.observer_sameStore {} 0) (Prod.eta releaseRunning).symm
  have known := served.established.known
  refine ⟨by decide +kernel, by decide +kernel, _, served, ?_, ?_, between⟩
  · exact (known (.addresses "db")).mp (by decide +kernel)
  · intro trial member value establishes
    have has := (known (.content "TOKEN")).mpr ⟨trial, member, value, establishes⟩
    exact absurd has (by decide +kernel)

end Engine

end Checkup
