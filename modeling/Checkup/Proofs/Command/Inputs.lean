import Checkup.Command.Run
import Checkup.Proofs.Number.Range
import Checkup.Proofs.Suite.Loading

/-!
# The input of a check

All input of a check can be used if the format of the report and the level of the log are known, the
settings can be read, the times in force are durations that a configuration may have, and the suite
leads to categories or the machine's own suite can be made. Main statements: a check is prepared
exactly if its input can be used, with the configuration in force; where it is not prepared, it
either tells what is wrong, or ends in a fault that is not handled.
-/

namespace Checkup

namespace Configuration

/-- A configuration that is in force when some times are given and the others come from the settings.
The settings must be durations even if they are not in force. -/
structure InForce (settings : EngineSettings) (retryWindow timeout : Option Float)
    (configuration : Configuration) : Prop where
  windowFits : ∃ duration, ofSetting settings.retryWindowSeconds = .ok duration
  timeoutFits : ∃ duration, ofSetting settings.timeoutSeconds = .ok duration
  retryWindow_eq : ofSetting (retryWindow.getD settings.retryWindowSeconds) =
    .ok configuration.retryWindow
  timeout_eq : ofSetting (timeout.getD settings.timeoutSeconds) = .ok configuration.timeout
  retryWindow_nonneg : 0 ≤ configuration.retryWindow.micros
  timeout_pos : 0 < configuration.timeout.micros

def secondsRead (settings : EngineSettings) (retryWindow timeout : Option Float) : List Float :=
  [settings.retryWindowSeconds, settings.timeoutSeconds] ++ retryWindow.toList ++ timeout.toList

theorem validate_eq_ok {configuration validated : Configuration} :
    configuration.validate = .ok validated ↔
      configuration = validated ∧ 0 ≤ validated.retryWindow.micros ∧
        0 < validated.timeout.micros := by
  unfold validate problem?
  by_cases negative : configuration.retryWindow.micros < 0
  · simp only [negative, if_true]
    constructor
    · intro refused
      cases refused
    · rintro ⟨rfl, nonneg, _⟩
      omega
  · by_cases empty : configuration.timeout.micros ≤ 0
    · simp only [negative, empty, if_true, if_false]
      constructor
      · intro refused
        cases refused
      · rintro ⟨rfl, _, positive⟩
        omega
    · simp only [negative, empty, if_false, Except.ok.injEq]
      constructor
      · rintro rfl
        exact ⟨rfl, by omega, by omega⟩
      · exact And.left

theorem fault_of_validate {configuration : Configuration} {fault : Fault}
    (broken : configuration.validate = .error fault) : fault.isConfiguration = true := by
  unfold validate problem? at broken
  by_cases negative : configuration.retryWindow.micros < 0
  · simp only [negative, if_true] at broken
    cases broken
    rfl
  · by_cases empty : configuration.timeout.micros ≤ 0
    · simp only [negative, empty, if_true, if_false] at broken
      cases broken
      rfl
    · simp [negative, empty] at broken

theorem build_default {environment : List (String × String)} {settings : EngineSettings}
    (set : EngineSettings.read environment = .ok settings) :
    build environment none none = (do
      let retryWindow ← ofSetting settings.retryWindowSeconds
      let timeout ← ofSetting settings.timeoutSeconds
      .ok { retryWindow, timeout }) := by
  simp only [build, given, defaultRetryWindow, defaultTimeout, set, bind, Except.bind]

def secondsOr (seconds : Option Float) (current : Duration) : Except Fault Duration :=
  seconds.elim (.ok current) ofSetting

theorem adjust_seconds (configuration : Configuration) (retryWindow timeout : Option Float) :
    configuration.adjust ((retryWindow.map .real).map .seconds) ((timeout.map .real).map .seconds) =
      (do
        let window ← secondsOr retryWindow configuration.retryWindow
        let longest ← secondsOr timeout configuration.timeout
        .ok ⟨window, longest⟩) := by
  unfold adjust secondsOr
  cases retryWindow <;> cases timeout <;> rfl

theorem secondsOr_eq_ok {seconds : Option Float} {setting : Float} {current duration : Duration}
    (known : ofSetting setting = .ok current) :
    secondsOr seconds current = .ok duration ↔
      ofSetting (seconds.getD setting) = .ok duration := by
  cases seconds with
  | none => simp [secondsOr, known]
  | some given => simp [secondsOr]

theorem exists_of_secondsOr {seconds : Option Float} {current : Duration} {fault : Fault}
    (unfit : secondsOr seconds current = .error fault) :
    ∃ given ∈ seconds.toList, ofSetting given = .error fault := by
  cases seconds with
  | none => cases unfit
  | some given => exact ⟨given, List.mem_singleton_self given, unfit⟩

section Seconds

variable {environment : List (String × String)} {settings : EngineSettings}
  (set : EngineSettings.read environment = .ok settings) {retryWindow timeout : Option Float}

include set in
theorem ofSeconds_eq_ok {configuration : Configuration} :
    ofSeconds environment (retryWindow.map .real) (timeout.map .real) = .ok configuration ↔
      InForce settings retryWindow timeout configuration := by
  simp only [ofSeconds, build_default set, adjust_seconds, bind_eq_ok, validate_eq_ok,
    Except.ok.injEq]
  constructor
  · rintro ⟨_, ⟨window, windowFits, longest, longestFits, rfl⟩, _,
      ⟨chosenWindow, windowChosen, chosenLongest, longestChosen, rfl⟩, rfl, nonneg, positive⟩
    exact ⟨⟨window, windowFits⟩, ⟨longest, longestFits⟩, (secondsOr_eq_ok windowFits).mp windowChosen,
      (secondsOr_eq_ok longestFits).mp longestChosen, nonneg, positive⟩
  · intro inForce
    obtain ⟨window, windowFits⟩ := inForce.windowFits
    obtain ⟨longest, longestFits⟩ := inForce.timeoutFits
    exact ⟨_, ⟨window, windowFits, longest, longestFits, rfl⟩, _,
      ⟨_, (secondsOr_eq_ok windowFits).mpr inForce.retryWindow_eq, _,
        (secondsOr_eq_ok longestFits).mpr inForce.timeout_eq, rfl⟩,
      rfl, inForce.retryWindow_nonneg, inForce.timeout_pos⟩

include set in
/-- Times that make no configuration are told to be unusable, or are no durations. -/
theorem fault_of_ofSeconds {fault : Fault}
    (broken : ofSeconds environment (retryWindow.map .real) (timeout.map .real) = .error fault) :
    fault.isConfiguration = true ∨
      ∃ seconds ∈ secondsRead settings retryWindow timeout, ofSetting seconds = .error fault := by
  simp only [ofSeconds, build_default set, adjust_seconds, bind_eq_error, reduceCtorEq, and_false,
    exists_false, or_false] at broken
  unfold secondsRead
  rcases broken with (unfit | ⟨_, _, unfit⟩) | ⟨_, _, (unfit | ⟨_, _, unfit⟩) | ⟨_, _, refused⟩⟩
  · exact .inr ⟨_, by simp, unfit⟩
  · exact .inr ⟨_, by simp, unfit⟩
  · obtain ⟨seconds, member, unfit⟩ := exists_of_secondsOr unfit
    exact .inr ⟨seconds, List.mem_append_left _ (List.mem_append_right _ member), unfit⟩
  · obtain ⟨seconds, member, unfit⟩ := exists_of_secondsOr unfit
    exact .inr ⟨seconds, List.mem_append_right _ member, unfit⟩
  · exact .inl (fault_of_validate refused)

end Seconds

theorem ofSetting_eq_ok {seconds : Float} {duration : Duration} :
    ofSetting seconds = .ok duration ↔ Duration.ofSeconds (.real seconds) = .ok duration := by
  unfold ofSetting
  cases Duration.ofSeconds (.real seconds) with
  | error overflow => exact ⟨nofun, nofun⟩
  | ok made => constructor <;> (rintro ⟨⟩; rfl)

theorem bounded_of_ofSetting {seconds : Float} {duration : Duration}
    (made : ofSetting seconds = .ok duration) : duration.Bounded :=
  Duration.bounded_of_ofSeconds (ofSetting_eq_ok.mp made)

end Configuration

namespace LocalTargets

/-- The machine's own suite can be made: the settings of the probes can be read, and so can the least
version in them. -/
def Makeable (environment : List (String × String)) : Prop :=
  ∃ settings required, ProbeSettings.read environment = .ok settings ∧
    Machine.readVersion settings.leastVersion = .ok required

theorem fault_of_readVersion {version : String} {fault : Fault}
    (broken : Machine.readVersion version = .error fault) : fault.isConfiguration = true := by
  unfold Machine.readVersion at broken
  split at broken
  · cases broken
  · cases broken
    rfl

variable {targets : LocalTargets} {session after : Session}

theorem exists_suite_eq (makeable : Makeable session.host.environment) :
    ∃ categories scopes, targets.suite session = (.ok categories, { session with scopes }) := by
  obtain ⟨settings, required, read, version⟩ := makeable
  simp only [suite, bind, Action.look, Action.lift, read, systemCheckers, Machine.versionChecker,
    version, Except.bind]
  exact ⟨_, _, rfl⟩

theorem makeable_of_suite {categories : List Category}
    (made : targets.suite session = (.ok categories, after)) :
    Makeable session.host.environment := by
  simp only [suite, Action.bind_eq_ok, Action.look, Action.lift, Prod.mk.injEq, Except.ok.injEq]
    at made
  obtain ⟨_, _, ⟨rfl, rfl⟩, settings, _, ⟨read, rfl⟩, system, _, ⟨checkers, rfl⟩, _⟩ := made
  simp only [systemCheckers, Machine.versionChecker, bind_eq_ok] at checkers
  obtain ⟨_, ⟨required, version, _⟩, _⟩ := checkers
  exact ⟨settings, required, read, version⟩

theorem fault_of_suite {fault : Fault} (broken : targets.suite session = (.error fault, after)) :
    (fault.isConfiguration = true ∨ ProbeSettings.read session.host.environment = .error fault) ∧
      after = session := by
  simp only [suite, Action.bind_eq_error, Action.look, Action.lift, Prod.mk.injEq, Except.ok.injEq,
    reduceCtorEq, false_and, false_or] at broken
  obtain ⟨_, _, ⟨rfl, rfl⟩, ⟨unread, rfl⟩ | ⟨settings, _, ⟨_, rfl⟩, broken⟩⟩ := broken
  · exact ⟨.inr unread, rfl⟩
  rcases broken with ⟨unmade, rfl⟩ | ⟨_, _, _, broken⟩
  · simp only [systemCheckers, Machine.versionChecker, bind_eq_error, reduceCtorEq, and_false,
      exists_false, or_false] at unmade
    exact ⟨.inl (fault_of_readVersion unmade), rfl⟩
  · simp [Action.background, pure] at broken

end LocalTargets

namespace Action

variable {name : String} (style : Log.Style) (session : Session)

theorem exists_configureLog_eq {level : Log.Level} (known : Log.levelOfName? name = some level) :
    ∃ desk, configureLog { level := .named name, style } session =
      (.ok level, { session with desk }) := by
  simp only [configureLog, Log.Desk.configure, Log.LevelChoice.resolve, known]
  exact ⟨_, rfl⟩

theorem exists_fault_of_configureLog (unknown : Log.levelOfName? name = none) :
    ∃ fault, configureLog { level := .named name, style } session = (.error fault, session) ∧
      fault.isConfiguration = true := by
  simp only [configureLog, Log.Desk.configure, Log.LevelChoice.resolve, unknown]
  exact ⟨_, rfl, rfl⟩

end Action

namespace Command.CheckRequest

structure Usable (request : CheckRequest) (catalogue : Catalogue) (session : Session)
    (output : Output) (settings : EngineSettings) (configuration : Configuration) : Prop where
  output_eq : Output.ofName? request.output = some output
  settings_eq : EngineSettings.read session.host.environment = .ok settings
  level : ∃ level, Log.levelOfName? ((chosen request.logLevel).getD settings.logLevel) = some level
  inForce : Configuration.InForce settings request.retryWindow request.timeout configuration
  suite : ∀ path, chosen request.suite = some path →
    ∃ categories, SuiteReference.LeadsTo catalogue session path categories
  ownSuite : chosen request.suite = none → LocalTargets.Makeable session.host.environment

/-- The faults of input that cannot be used which no one handles: settings that cannot be read, times
that are no durations, and what a module or a builder raises that nobody expects. -/
inductive Unhandled (request : CheckRequest) (catalogue : Catalogue) (session : Session)
    (fault : Fault) : Prop where
  | settings (unread : EngineSettings.read session.host.environment = .error fault)
  | time {settings : EngineSettings} {seconds : Float}
      (set : EngineSettings.read session.host.environment = .ok settings)
      (used : seconds ∈ Configuration.secondsRead settings request.retryWindow request.timeout)
      (unfit : Configuration.ofSetting seconds = .error fault)
  | suite {path : String} (asked : chosen request.suite = some path)
      (stumbles : SuiteReference.Stumbles catalogue path fault)
      (untold : fault.isConfiguration = false)
  | probes (unasked : chosen request.suite = none)
      (unread : ProbeSettings.read session.host.environment = .error fault)

variable {request : CheckRequest} {catalogue : Catalogue} {session : Session}
  {settings : EngineSettings}

def categories (request : CheckRequest) (catalogue : Catalogue) : Action (List Category) :=
  match chosen request.suite with
  | some path => SuiteReference.load catalogue path
  | none => LocalTargets.suite { urls := request.urls, hosts := request.hosts }

/-- A check that names no level is told so before anything else is looked at. -/
theorem exists_fault_of_level (catalogue : Catalogue) (session : Session)
    (unknown : Log.levelOfName? ((chosen request.logLevel).getD settings.logLevel) = none) :
    ∃ fault, request.prepare catalogue settings session = (.error fault, session) ∧
      fault.isConfiguration = true := by
  obtain ⟨fault, refused, told⟩ := Action.exists_fault_of_configureLog
    (if settings.logJson then .record else .plain) session unknown
  refine ⟨fault, ?_, told⟩
  unfold prepare
  exact Action.bind_of_error refused

/-- After its log, a check makes its configuration and then its suite. -/
theorem exists_prepare_eq (catalogue : Catalogue) (session : Session) {level : Log.Level}
    (known : Log.levelOfName? ((chosen request.logLevel).getD settings.logLevel) = some level) :
    ∃ desk, request.prepare catalogue settings session =
      match Configuration.ofSeconds session.host.environment (request.retryWindow.map .real)
          (request.timeout.map .real) with
      | .error fault => (.error fault, { session with desk })
      | .ok configuration =>
        match request.categories catalogue { session with desk } with
        | (.error fault, after) => (.error fault, after)
        | (.ok categories, after) => (.ok { categories, configuration }, after) := by
  obtain ⟨desk, configured⟩ := Action.exists_configureLog_eq
    (if settings.logJson then .record else .plain) session known
  refine ⟨desk, ?_⟩
  unfold prepare
  rw [Action.bind_of_ok configured]
  simp only [Action.configurationOfSeconds, bind, Action.look, Action.lift]
  cases Configuration.ofSeconds session.host.environment (request.retryWindow.map .real)
      (request.timeout.map .real) with
  | error fault => rfl
  | ok configuration =>
    dsimp only
    unfold categories
    cases chosen request.suite with
    | none =>
      dsimp only
      rcases LocalTargets.suite _ _ with ⟨fault | made, after⟩ <;> rfl
    | some path =>
      dsimp only
      rcases SuiteReference.load _ _ _ with ⟨fault | made, after⟩ <;> rfl

theorem exists_categories_eq (desk : Log.Desk)
    (suite : ∀ path, chosen request.suite = some path →
      ∃ categories, SuiteReference.LeadsTo catalogue session path categories)
    (ownSuite : chosen request.suite = none → LocalTargets.Makeable session.host.environment) :
    ∃ categories desk' asked scopes,
      request.categories catalogue { session with desk } =
          (.ok categories, { session with desk := desk', asked, scopes }) ∧
        ∀ path, chosen request.suite = some path →
          SuiteReference.LeadsTo catalogue session path categories := by
  unfold categories
  cases named : chosen request.suite with
  | none =>
    have makeable : LocalTargets.Makeable ({ session with desk } : Session).host.environment :=
      ownSuite named
    obtain ⟨categories, scopes, made⟩ := LocalTargets.exists_suite_eq makeable
    exact ⟨categories, desk, session.asked, scopes, made, by simp⟩
  | some path =>
    obtain ⟨categories, leads⟩ := suite path named
    obtain ⟨after, counted, loaded⟩ := SuiteReference.exists_load_eq (leads.logged desk)
    exact ⟨categories, after, counted, session.scopes, loaded, by simpa using leads⟩

theorem suite_of_categories {desk : Log.Desk} {listed : List Category} {after : Session}
    (made : request.categories catalogue { session with desk } = (.ok listed, after)) :
    (∀ path, chosen request.suite = some path →
        ∃ categories, SuiteReference.LeadsTo catalogue session path categories) ∧
      (chosen request.suite = none → LocalTargets.Makeable session.host.environment) := by
  unfold categories at made
  cases named : chosen request.suite with
  | none =>
    rw [named] at made
    exact ⟨by simp, fun _ => (LocalTargets.makeable_of_suite made :)⟩
  | some path =>
    rw [named] at made
    have leads := (SuiteReference.leadsTo_of_load made).logged session.desk
    refine ⟨?_, by simp⟩
    intro asked same
    cases same
    exact ⟨listed, leads⟩

theorem fault_of_categories {desk : Log.Desk} {fault : Fault} {after : Session}
    (broken : request.categories catalogue { session with desk } = (.error fault, after)) :
    (fault.isConfiguration = true ∨ request.Unhandled catalogue session fault) ∧
      ∃ asked, after = { session with desk, asked } := by
  unfold categories at broken
  cases named : chosen request.suite with
  | none =>
    rw [named] at broken
    obtain ⟨why, rfl⟩ := LocalTargets.fault_of_suite broken
    exact ⟨why.imp_right (.probes named), session.asked, rfl⟩
  | some path =>
    rw [named] at broken
    obtain ⟨why, asked, rfl⟩ := SuiteReference.fault_of_load broken
    refine ⟨?_, asked, rfl⟩
    by_cases told : fault.isConfiguration = true
    · exact .inl told
    · have stumbles := why.resolve_left fun refuses => told refuses.isConfiguration
      exact .inr (.suite named stumbles (Bool.eq_false_iff.mpr told))

/-- Where all input can be used, the check is prepared with the configuration in force. -/
theorem Usable.exists_engine {output : Output} {configuration : Configuration}
    (usable : request.Usable catalogue session output settings configuration) :
    ∃ categories desk asked scopes,
      request.prepare catalogue settings session =
          (.ok { categories, configuration }, { session with desk, asked, scopes }) ∧
        ∀ path, chosen request.suite = some path →
          SuiteReference.LeadsTo catalogue session path categories := by
  obtain ⟨level, known⟩ := usable.level
  obtain ⟨desk, prepared⟩ := exists_prepare_eq catalogue session known
  obtain ⟨categories, after, asked, scopes, made, leads⟩ :=
    exists_categories_eq desk usable.suite usable.ownSuite
  rw [(Configuration.ofSeconds_eq_ok usable.settings_eq).mpr usable.inForce] at prepared
  simp only [made] at prepared
  exact ⟨categories, after, asked, scopes, prepared, leads⟩

theorem usable_of_prepare {output : Output} {engine : Engine} {prepared : Session}
    (known : Output.ofName? request.output = some output)
    (set : EngineSettings.read session.host.environment = .ok settings)
    (ready : request.prepare catalogue settings session = (.ok engine, prepared)) :
    request.Usable catalogue session output settings engine.configuration := by
  cases found : Log.levelOfName? ((chosen request.logLevel).getD settings.logLevel) with
  | none =>
    obtain ⟨fault, refused, _⟩ := exists_fault_of_level catalogue session found
    simp [ready] at refused
  | some level =>
    obtain ⟨desk, prepares⟩ := exists_prepare_eq catalogue session found
    rw [ready] at prepares
    cases timed : Configuration.ofSeconds session.host.environment (request.retryWindow.map .real)
        (request.timeout.map .real) with
    | error fault => simp [timed] at prepares
    | ok configuration =>
      rcases made : request.categories catalogue { session with desk } with ⟨fault | listed, after⟩
      · simp [timed, made] at prepares
      · simp only [timed, made, Prod.mk.injEq, Except.ok.injEq] at prepares
        obtain ⟨rfl, rfl⟩ := prepares
        obtain ⟨suite, ownSuite⟩ := suite_of_categories made
        exact ⟨known, set, ⟨level, found⟩, (Configuration.ofSeconds_eq_ok set).mp timed, suite,
          ownSuite⟩

/-- A check that is not prepared tells what is wrong, or ends in a fault that is not handled. -/
theorem fault_of_prepare {fault : Fault} {after : Session}
    (set : EngineSettings.read session.host.environment = .ok settings)
    (broken : request.prepare catalogue settings session = (.error fault, after)) :
    (fault.isConfiguration = true ∨ request.Unhandled catalogue session fault) ∧
      ∃ desk asked, after = { session with desk, asked } := by
  cases found : Log.levelOfName? ((chosen request.logLevel).getD settings.logLevel) with
  | none =>
    obtain ⟨raised, refused, told⟩ := exists_fault_of_level catalogue session found
    simp only [broken, Prod.mk.injEq, Except.error.injEq] at refused
    obtain ⟨rfl, rfl⟩ := refused
    exact ⟨.inl told, after.desk, after.asked, rfl⟩
  | some level =>
    obtain ⟨desk, prepares⟩ := exists_prepare_eq catalogue session found
    rw [broken] at prepares
    cases timed : Configuration.ofSeconds session.host.environment (request.retryWindow.map .real)
        (request.timeout.map .real) with
    | error raised =>
      simp only [timed, Prod.mk.injEq, Except.error.injEq] at prepares
      obtain ⟨rfl, rfl⟩ := prepares
      refine ⟨?_, desk, session.asked, rfl⟩
      apply (Configuration.fault_of_ofSeconds set timed).imp_right
      rintro ⟨seconds, used, unfit⟩
      exact .time set used unfit
    | ok configuration =>
      rcases made : request.categories catalogue { session with desk } with ⟨raised | listed, left⟩
      · simp only [timed, made, Prod.mk.injEq, Except.error.injEq] at prepares
        obtain ⟨rfl, rfl⟩ := prepares
        obtain ⟨why, asked, left⟩ := fault_of_categories made
        exact ⟨why, desk, asked, left⟩
      · simp [timed, made] at prepares

end Command.CheckRequest

end Checkup
