import Checkup.Engine.Assembly
import Checkup.Proofs.Command.Inputs

/-!
# The configuration of a process

A process asks for the configuration of its session, changes and resets it, makes configurations
from seconds, and makes engines. Main statement: whatever it asks for, and in any order, the
configurations that it gets and those of its engines are valid; a change is made as a whole or
leaves no trace; and after a reset a change comes to the same as making the configuration from
seconds.
-/

namespace Checkup

namespace Configuration

/-- The wait between two attempts is not negative, and an attempt has some time. -/
def Valid (configuration : Configuration) : Prop :=
  0 ≤ configuration.retryWindow.micros ∧ 0 < configuration.timeout.micros

theorem valid_of_validate {configuration validated : Configuration}
    (passed : configuration.validate = .ok validated) : validated.Valid :=
  (validate_eq_ok.mp passed).2

theorem valid_of_ofSeconds {environment : List (String × String)}
    {retryWindow timeout : Option Amount} {configuration : Configuration}
    (made : ofSeconds environment retryWindow timeout = .ok configuration) :
    configuration.Valid := by
  obtain ⟨_, _, made⟩ := bind_eq_ok.mp made
  obtain ⟨_, _, passed⟩ := bind_eq_ok.mp made
  exact valid_of_validate passed

def ofEnvironment (environment : List (String × String)) : Except Fault Configuration := do
  let own ← build environment none none
  own.validate

theorem valid_of_ofEnvironment {environment : List (String × String)} {own : Configuration}
    (made : ofEnvironment environment = .ok own) : own.Valid := by
  obtain ⟨_, _, passed⟩ := bind_eq_ok.mp made
  exact valid_of_validate passed

def spanOr (given : Option Span) (current : Duration) : Except Fault Duration :=
  given.elim (.ok current) ofSpan

theorem adjust_eq (configuration : Configuration) (retryWindow timeout : Option Span) :
    configuration.adjust retryWindow timeout = (do
      let window ← spanOr retryWindow configuration.retryWindow
      let longest ← spanOr timeout configuration.timeout
      .ok ⟨window, longest⟩) := by
  unfold adjust spanOr
  cases retryWindow <;> cases timeout <;> rfl

theorem adjust_eq_ok {configuration changed : Configuration} {retryWindow timeout : Option Span} :
    configuration.adjust retryWindow timeout = .ok changed ↔
      spanOr retryWindow configuration.retryWindow = .ok changed.retryWindow ∧
        spanOr timeout configuration.timeout = .ok changed.timeout := by
  simp only [adjust_eq, bind_eq_ok, Except.ok.injEq]
  constructor
  · rintro ⟨window, windowFits, longest, longestFits, rfl⟩
    exact ⟨windowFits, longestFits⟩
  · intro fits
    exact ⟨changed.retryWindow, fits.1, changed.timeout, fits.2, rfl⟩

theorem adjust_validate_eq_ok {configuration changed : Configuration}
    {retryWindow timeout : Option Span} :
    (configuration.adjust retryWindow timeout).bind validate = .ok changed ↔
      spanOr retryWindow configuration.retryWindow = .ok changed.retryWindow ∧
        spanOr timeout configuration.timeout = .ok changed.timeout ∧ changed.Valid := by
  have bound : (configuration.adjust retryWindow timeout).bind validate = .ok changed ↔
      ∃ adjusted, configuration.adjust retryWindow timeout = .ok adjusted ∧
        adjusted.validate = .ok changed := bind_eq_ok
  rw [bound]
  constructor
  · intro made
    obtain ⟨adjusted, fits, passed⟩ := made
    obtain ⟨rfl, valid⟩ := validate_eq_ok.mp passed
    obtain ⟨windowFits, longestFits⟩ := adjust_eq_ok.mp fits
    exact ⟨windowFits, longestFits, valid⟩
  · intro fits
    obtain ⟨windowFits, longestFits, valid⟩ := fits
    exact ⟨changed, adjust_eq_ok.mpr ⟨windowFits, longestFits⟩, validate_eq_ok.mpr ⟨rfl, valid⟩⟩

theorem ofSeconds_of_own {environment : List (String × String)} {own : Configuration}
    (built : build environment none none = .ok own) (retryWindow timeout : Option Amount) :
    ofSeconds environment retryWindow timeout = (do
      let changed ← own.adjust (retryWindow.map .seconds) (timeout.map .seconds)
      changed.validate) := by
  rw [ofSeconds, built]
  rfl

end Configuration

/-- The configuration that a session keeps, if it keeps one, is valid. -/
def Session.Fit (session : Session) : Prop :=
  ∀ kept, session.configuration = some kept → kept.Valid

namespace Action

/-- The configuration of a session is the one that it keeps, or else the one that its environment
asks for, which is kept from then on. -/
theorem configuration_eq (session : Session) :
    configuration session =
      match session.configuration with
      | some kept => (.ok kept, session)
      | none =>
        match Configuration.ofEnvironment session.host.environment with
        | .ok own => (.ok own, { session with configuration := some own })
        | .error fault => (.error fault, session) := by
  unfold configuration Configuration.ofEnvironment
  cases kept : session.configuration with
  | some found => simp only [bind, look, kept, pure]
  | none =>
    simp only [bind, look, kept, lift]
    cases Configuration.build session.host.environment none none with
    | error fault => rfl
    | ok own =>
      simp only [Except.bind]
      cases own.validate <;> rfl

theorem configure_eq (retryWindow timeout : Option Span) (session : Session) :
    configure retryWindow timeout session =
      match configuration session with
      | (.error fault, after) => (.error fault, after)
      | (.ok current, after) =>
        match (current.adjust retryWindow timeout).bind Configuration.validate with
        | .error fault => (.error fault, after)
        | .ok changed => (.ok (), { after with configuration := some changed }) := by
  rcases asked : configuration session with ⟨fault | current, after⟩
  · exact bind_of_error asked
  · refine (bind_of_ok asked).trans ?_
    simp only [bind, lift]
    cases current.adjust retryWindow timeout with
    | error fault => rfl
    | ok adjusted =>
      simp only [Except.bind]
      cases adjusted.validate <;> rfl

/-- From a session with a valid configuration an action leads to such a session, and the value that
it gives has a property. -/
def Ensures (action : Action α) (property : α → Prop) : Prop :=
  ∀ session : Session, session.Fit →
    (∀ value, (action session).1 = .ok value → property value) ∧ (action session).2.Fit

theorem Ensures.bind {first : Action α} {next : α → Action β} {between : α → Prop}
    {property : β → Prop} (ensured : first.Ensures between)
    (continued : ∀ value, between value → (next value).Ensures property) :
    (first >>= next).Ensures property := by
  intro session fit
  obtain ⟨valueFits, afterFits⟩ := ensured session fit
  rcases taken : first session with ⟨fault | value, after⟩
  · rw [bind_of_error taken]
    rw [taken] at afterFits
    exact ⟨fun _ given => (nomatch given), afterFits⟩
  · rw [bind_of_ok taken]
    rw [taken] at valueFits afterFits
    exact continued value (valueFits value rfl) after afterFits

theorem ensures_pure {property : α → Prop} {value : α} (holds : property value) :
    (pure value : Action α).Ensures property := by
  intro session fit
  refine ⟨?_, fit⟩
  intro given same
  cases same
  exact holds

theorem ensures_lift {property : α → Prop} {answer : Except Fault α}
    (holds : ∀ value, answer = .ok value → property value) : (lift answer).Ensures property :=
  fun _ fit => ⟨holds, fit⟩

theorem ensures_look (view : Session → α) : (look view).Ensures fun _ => True :=
  fun _ fit => ⟨fun _ _ => trivial, fit⟩

theorem keepConfiguration_ensures {configuration : Configuration} (valid : configuration.Valid) :
    (keepConfiguration configuration).Ensures fun _ => True := by
  intro session _
  refine ⟨fun _ _ => trivial, ?_⟩
  intro kept same
  cases same
  exact valid

theorem configuration_ensures : configuration.Ensures Configuration.Valid := by
  intro session fit
  rw [configuration_eq]
  cases kept : session.configuration with
  | some found =>
    refine ⟨?_, fit⟩
    intro value same
    cases same
    exact fit found kept
  | none =>
    cases made : Configuration.ofEnvironment session.host.environment with
    | error fault => exact ⟨fun _ given => (nomatch given), fit⟩
    | ok own =>
      have valid : own.Valid := Configuration.valid_of_ofEnvironment made
      refine ⟨?_, ?_⟩
      · intro value same
        cases same
        exact valid
      · intro value same
        cases same
        exact valid

theorem configure_ensures (retryWindow timeout : Option Span) :
    (configure retryWindow timeout).Ensures fun _ => True := by
  have adjust_ensures (answer : Except Fault Configuration) : (lift answer).Ensures fun _ => True :=
    ensures_lift fun _ _ => trivial
  apply configuration_ensures.bind
  intro current _
  apply (adjust_ensures _).bind
  intro adjusted _
  apply (ensures_lift fun _ passed => Configuration.valid_of_validate passed).bind
  intro changed valid
  exact keepConfiguration_ensures valid

theorem resetConfiguration_ensures : resetConfiguration.Ensures fun _ => True :=
  fun _ _ => ⟨fun _ _ => trivial, fun _ kept => nomatch kept⟩

theorem configurationOfSeconds_ensures (retryWindow timeout : Option Amount) :
    (configurationOfSeconds retryWindow timeout).Ensures Configuration.Valid := by
  refine (ensures_look _).bind fun environment _ => ?_
  exact ensures_lift fun _ made => Configuration.valid_of_ofSeconds made

end Action

theorem Engine.choose_ensures (given : Option Configuration) :
    (choose given).Ensures fun _ => True := by
  cases given with
  | some configuration => exact Action.ensures_pure trivial
  | none =>
    intro session fit
    exact ⟨fun _ _ => trivial, (Action.configuration_ensures session fit).2⟩

theorem Engine.make_ensures (categories : List Category) (given : Option Configuration) :
    (make categories given).Ensures fun engine => engine.configuration.Valid := by
  apply (choose_ensures given).bind
  intro chosen _
  apply (Action.ensures_lift fun _ passed => Configuration.valid_of_validate passed).bind
  intro configuration valid
  exact Action.ensures_pure valid

/-- A process: its session and the engines that it has made, the oldest first. -/
structure Process where
  session : Session
  engines : List Engine := []

namespace Process

inductive Request where
  | current
  | configure (retryWindow timeout : Option Span)
  | reset
  | ofSeconds (retryWindow timeout : Option Amount)
  | engine (categories : List Category) (given : Option Configuration)

inductive Response where
  | done
  | known (configuration : Configuration)
  | made (engine : Engine)

def Request.perform : Request → Action Response
  | current => do
    let configuration ← Action.configuration
    pure (.known configuration)
  | configure retryWindow timeout => do
    Action.configure retryWindow timeout
    pure .done
  | reset => do
    Action.resetConfiguration
    pure .done
  | ofSeconds retryWindow timeout => do
    let configuration ← Action.configurationOfSeconds retryWindow timeout
    pure (.known configuration)
  | engine categories given => do
    let engine ← Engine.make categories given
    pure (.made engine)

def made : Except Fault Response → List Engine
  | .ok (.made engine) => [engine]
  | _ => []

def serve (process : Process) (request : Request) : Except Fault Response × Process :=
  let (answer, session) := request.perform process.session
  (answer, { session, engines := process.engines ++ made answer })

def answers (process : Process) : List Request → List (Except Fault Response)
  | [] => []
  | request :: later =>
    (process.serve request).1 :: answers (process.serve request).2 later

/-- Every configuration that a response holds is valid. -/
def Response.Valid : Response → Prop
  | done => True
  | known configuration => configuration.Valid
  | made engine => engine.configuration.Valid

theorem perform_ensures (request : Request) : request.perform.Ensures Response.Valid := by
  cases request with
  | current =>
    apply Action.configuration_ensures.bind
    intro configuration valid
    exact Action.ensures_pure valid
  | configure retryWindow timeout =>
    apply (Action.configure_ensures retryWindow timeout).bind
    intro _ _
    exact Action.ensures_pure trivial
  | reset =>
    apply Action.resetConfiguration_ensures.bind
    intro _ _
    exact Action.ensures_pure trivial
  | ofSeconds retryWindow timeout =>
    apply (Action.configurationOfSeconds_ensures retryWindow timeout).bind
    intro configuration valid
    exact Action.ensures_pure valid
  | engine categories given =>
    apply (Engine.make_ensures categories given).bind
    intro engine valid
    exact Action.ensures_pure valid

/-- What a process keeps and what its engines start from is valid. -/
structure Sound (process : Process) : Prop where
  fit : process.session.Fit
  engines : ∀ engine ∈ process.engines, engine.configuration.Valid

theorem Sound.response_valid {process : Process} (sound : process.Sound) {request : Request}
    {response : Response} (given : (process.serve request).1 = .ok response) : response.Valid :=
  (perform_ensures request process.session sound.fit).1 response given

theorem Sound.serve {process : Process} (sound : process.Sound) (request : Request) :
    (process.serve request).2.Sound := by
  constructor
  · exact (perform_ensures request process.session sound.fit).2
  · intro engine listed
    have old_or_made : engine ∈ process.engines ++ made (process.serve request).1 := listed
    rcases List.mem_append.mp old_or_made with old | new
    · exact sound.engines engine old
    · cases given : (process.serve request).1 with
      | error fault => simp [given, made] at new
      | ok response =>
        have valid := sound.response_valid given
        cases response with
        | made built =>
          rw [given] at new
          cases List.mem_singleton.mp new
          exact valid
        | done => simp [given, made] at new
        | known configuration => simp [given, made] at new

/-- A process comes about by requests, in any order. In between other things may happen to its
session, but nothing else touches its configuration. -/
inductive Reached : Process → Prop
  | start {session : Session} (unset : session.configuration = none) : Reached { session }
  | serve {process : Process} (reached : Reached process) (request : Request) :
      Reached (process.serve request).2
  | elsewhere {process : Process} (reached : Reached process) {session : Session}
      (same : session.configuration = process.session.configuration) :
      Reached { process with session }

theorem Reached.sound {process : Process} (reached : process.Reached) : process.Sound := by
  induction reached with
  | start unset =>
    constructor
    · intro kept keeps
      rw [unset] at keeps
      cases keeps
    · intro engine listed
      cases listed
  | serve _ request inductionHypothesis => exact inductionHypothesis.serve request
  | elsewhere _ same inductionHypothesis =>
    refine ⟨?_, inductionHypothesis.engines⟩
    intro kept keeps
    exact inductionHypothesis.fit kept (same ▸ keeps)

/-- Two sessions of which one may already keep what the environment asks for while the other has not
asked yet. -/
inductive SameAnswers : Session → Session → Prop
  | same (session : Session) : SameAnswers session session
  | kept {session : Session} {own : Configuration} (unset : session.configuration = none)
      (made : Configuration.ofEnvironment session.host.environment = .ok own) :
      SameAnswers { session with configuration := some own } session

theorem sameAnswers_configuration (session : Session) :
    SameAnswers (Action.configuration session).2 session := by
  rw [Action.configuration_eq]
  cases kept : session.configuration with
  | some found => exact .same session
  | none =>
    cases made : Configuration.ofEnvironment session.host.environment with
    | error fault => exact .same session
    | ok own => exact .kept kept made

/-- What starts with the configuration does not tell such sessions apart. -/
theorem SameAnswers.configuration_eq {one other : Session} (same : SameAnswers one other) :
    Action.configuration one = Action.configuration other := by
  cases same with
  | same => rfl
  | kept unset made => simp only [Action.configuration_eq, unset, made]

theorem SameAnswers.bind_configuration {one other : Session} (same : SameAnswers one other)
    (next : Configuration → Action α) :
    (Action.configuration >>= next) one = (Action.configuration >>= next) other := by
  simp only [bind, same.configuration_eq]

theorem perform_ofSeconds (retryWindow timeout : Option Amount) (session : Session) :
    (Request.ofSeconds retryWindow timeout).perform session =
      ((Configuration.ofSeconds session.host.environment retryWindow timeout).map .known,
        session) := by
  simp only [Request.perform, Action.configurationOfSeconds, bind, Action.look, Action.lift]
  cases Configuration.ofSeconds session.host.environment retryWindow timeout <;> rfl

theorem perform_engine_given (categories : List Category) (given : Configuration)
    (session : Session) :
    (Request.engine categories (some given)).perform session =
      (given.validate.map fun configuration => .made { categories, configuration }, session) := by
  simp only [Request.perform, Engine.make, Engine.choose, bind, Action.lift, Action.pure_apply]
  cases given.validate <;> rfl

theorem SameAnswers.perform {one other : Session} (same : SameAnswers one other)
    (request : Request) :
    (request.perform one).1 = (request.perform other).1 ∧
      SameAnswers (request.perform one).2 (request.perform other).2 := by
  cases same with
  | same session => exact ⟨rfl, .same _⟩
  | kept unset made =>
    have known := SameAnswers.kept unset made
    cases request with
    | current =>
      rw [Request.perform, known.bind_configuration]
      exact ⟨rfl, .same _⟩
    | configure retryWindow timeout =>
      rw [Request.perform, Action.configure, bind_assoc, known.bind_configuration]
      exact ⟨rfl, .same _⟩
    | reset =>
      refine ⟨rfl, ?_⟩
      exact .same _
    | ofSeconds retryWindow timeout =>
      simp only [perform_ofSeconds]
      exact ⟨trivial, known⟩
    | engine categories given =>
      cases given with
      | none =>
        rw [Request.perform, Engine.make, Engine.choose, bind_assoc, known.bind_configuration]
        exact ⟨rfl, .same _⟩
      | some given =>
        simp only [perform_engine_given]
        exact ⟨trivial, known⟩

/-- Whether a process has asked its environment already or will do so when it must makes no
difference to what it answers. -/
theorem answers_eq {one other : Process} (same : SameAnswers one.session other.session)
    (later : List Request) : one.answers later = other.answers later := by
  induction later generalizing one other with
  | nil => rfl
  | cons request later inductionHypothesis =>
    have performed := same.perform request
    have served : SameAnswers (one.serve request).2.session (other.serve request).2.session :=
      performed.2
    have answered : (one.serve request).1 = (other.serve request).1 := performed.1
    rw [answers, answers, answered, inductionHypothesis served]

theorem perform_configure (retryWindow timeout : Option Span) (session : Session) :
    (Request.configure retryWindow timeout).perform session =
      match Action.configuration session with
      | (.error fault, after) => (.error fault, after)
      | (.ok current, after) =>
        match (current.adjust retryWindow timeout).bind Configuration.validate with
        | .error fault => (.error fault, after)
        | .ok changed => (.ok .done, { after with configuration := some changed }) := by
  simp only [Request.perform, bind, Action.configure_eq]
  rcases Action.configuration session with ⟨fault | current, after⟩
  · rfl
  · simp only
    cases (current.adjust retryWindow timeout).bind Configuration.validate <;> rfl

/-- A change that fails has at most made the process ask its environment. -/
theorem sameAnswers_of_refused {session : Session} {retryWindow timeout : Option Span}
    {fault : Fault}
    (refused : ((Request.configure retryWindow timeout).perform session).1 = .error fault) :
    SameAnswers ((Request.configure retryWindow timeout).perform session).2 session := by
  have known := sameAnswers_configuration session
  rw [perform_configure] at refused ⊢
  rcases asked : Action.configuration session with ⟨broken | current, after⟩
  · rw [asked] at known
    exact known
  · rw [asked] at known
    simp only [asked] at refused ⊢
    cases changed : (current.adjust retryWindow timeout).bind Configuration.validate with
    | error broken => exact known
    | ok changed => simp [changed] at refused

theorem perform_current (session : Session) :
    Request.current.perform session =
      ((Action.configuration session).1.map .known, (Action.configuration session).2) := by
  simp only [Request.perform, bind]
  rcases Action.configuration session with ⟨fault | found, after⟩ <;> rfl

/-- A change is made if the times that are given are durations and the configuration with them is
valid, and this is the configuration from then on. -/
theorem configured_iff {process : Process} {retryWindow timeout : Option Span} :
    (process.serve (.configure retryWindow timeout)).1 = .ok .done ↔
      ∃ before after, (process.serve .current).1 = .ok (.known before) ∧
        Configuration.spanOr retryWindow before.retryWindow = .ok after.retryWindow ∧
        Configuration.spanOr timeout before.timeout = .ok after.timeout ∧ after.Valid ∧
        ((process.serve (.configure retryWindow timeout)).2.serve .current).1 =
          .ok (.known after) := by
  simp only [serve, perform_configure, perform_current]
  rcases asked : Action.configuration process.session with ⟨fault | current, session⟩
  · simp [Except.map]
  · cases made : (current.adjust retryWindow timeout).bind Configuration.validate with
    | error fault =>
      -- Times that could be changed to would have been accepted.
      simp only [made, Except.map, reduceCtorEq, false_iff, Except.ok.injEq, Response.known.injEq]
      intro accepted
      obtain ⟨before, after, rfl, windowFits, longestFits, valid, _⟩ := accepted
      have fits := Configuration.adjust_validate_eq_ok.mpr ⟨windowFits, longestFits, valid⟩
      rw [made] at fits
      cases fits
    | ok changed =>
      obtain ⟨windowFits, longestFits, valid⟩ := Configuration.adjust_validate_eq_ok.mp made
      simp only [made, Except.map, true_iff, Action.configuration_eq]
      exact ⟨current, changed, rfl, windowFits, longestFits, valid, rfl⟩

/-- After a reset the times that are given change what the environment asks for, as they do when a
configuration is made from seconds. -/
theorem configuration_after_reset {session : Session} {own : Configuration}
    (made : Configuration.ofEnvironment session.host.environment = .ok own)
    (retryWindow timeout : Option Amount) :
    ((do
      Action.resetConfiguration
      Action.configure (retryWindow.map .seconds) (timeout.map .seconds)
      Action.configuration) session).1 =
        (Action.configurationOfSeconds retryWindow timeout session).1 := by
  obtain ⟨built, asked, passed⟩ := Checkup.bind_eq_ok.mp made
  obtain ⟨rfl, _⟩ := Configuration.validate_eq_ok.mp passed
  have own_asked : Action.configuration { session with configuration := none } =
      (.ok built, { session with configuration := some built }) := by
    simp only [Action.configuration_eq, made]
  have given : (Action.configurationOfSeconds retryWindow timeout session).1 = _ :=
    Configuration.ofSeconds_of_own asked retryWindow timeout
  rw [given]
  simp only [bind, Action.resetConfiguration, Action.change, Action.configure_eq, own_asked]
  cases Except.bind (built.adjust (retryWindow.map .seconds) (timeout.map .seconds))
    Configuration.validate with
  | error fault => rfl
  | ok changed => simp only [Action.configuration_eq]

/-- How the configurations of a process behave. -/
structure Consistent (process : Process) : Prop where
  engines_valid : ∀ engine ∈ process.engines, engine.configuration.Valid
  response_valid : ∀ request response, (process.serve request).1 = .ok response → response.Valid
  /-- No request touches the engines that are there. -/
  engines_kept : ∀ request, process.engines <+: (process.serve request).2.engines
  /-- A change that fails leaves all later answers as they would have been without it. -/
  refused : ∀ retryWindow timeout fault,
    (process.serve (.configure retryWindow timeout)).1 = .error fault →
      ∀ later, (process.serve (.configure retryWindow timeout)).2.answers later =
        process.answers later
  /-- A change that is made changes the times that are given, and no others. -/
  changed : ∀ retryWindow timeout,
    (process.serve (.configure retryWindow timeout)).1 = .ok .done ↔
      ∃ before after, (process.serve .current).1 = .ok (.known before) ∧
        Configuration.spanOr retryWindow before.retryWindow = .ok after.retryWindow ∧
        Configuration.spanOr timeout before.timeout = .ok after.timeout ∧ after.Valid ∧
        ((process.serve (.configure retryWindow timeout)).2.serve .current).1 =
          .ok (.known after)
  /-- Changing the valid configuration of an environment comes to the same as starting from it. -/
  agrees : ∀ own, Configuration.ofEnvironment process.session.host.environment = .ok own →
    ∀ retryWindow timeout : Option Amount,
      ((do
        Action.resetConfiguration
        Action.configure (retryWindow.map .seconds) (timeout.map .seconds)
        Action.configuration) process.session).1 =
          (Action.configurationOfSeconds retryWindow timeout process.session).1

theorem Reached.consistent {process : Process} (reached : process.Reached) :
    process.Consistent := by
  have sound := reached.sound
  constructor
  case engines_valid => exact sound.engines
  case response_valid =>
    intro request response given
    exact sound.response_valid given
  case engines_kept =>
    intro request
    exact List.prefix_append process.engines (made (process.serve request).1)
  case refused =>
    intro retryWindow timeout fault refused later
    exact answers_eq (sameAnswers_of_refused refused) later
  case changed =>
    intro retryWindow timeout
    exact configured_iff
  case agrees =>
    intro own made
    exact configuration_after_reset made

def withEngine : Process :=
  (({ session := {} } : Process).serve (.engine [] none)).2

def noTimeout : Request := .configure none (some (.seconds (.whole 0)))

def shortWindow : Request := .configure (some (.seconds (.real 1.5))) none

/-- A change is refused, another one is made, and a second engine is built. -/
theorem consistent_with_engine :
    let refused := withEngine.serve noTimeout
    let changed := refused.2.serve shortWindow
    let process := (changed.2.serve (.engine [] none)).2
    refused.1.isOk = false ∧ changed.1.isOk = true ∧
      process.engines.map (·.configuration) =
        [⟨⟨5000000⟩, ⟨30000000⟩⟩, ⟨⟨1500000⟩, ⟨30000000⟩⟩] ∧
      (∀ later, refused.2.answers later = withEngine.answers later) ∧ process.Consistent := by
  have reached : withEngine.Reached := (Reached.start rfl).serve (.engine [] none)
  have refusal : (withEngine.serve noTimeout).1.isOk = false := by decide +kernel
  refine ⟨refusal, by decide +kernel, by decide +kernel, ?_, ?_⟩
  · cases refused : (withEngine.serve noTimeout).1 with
    | error fault => exact (Reached.consistent reached).refused _ _ fault refused
    | ok response =>
      rw [refused] at refusal
      cases refusal
  · apply Reached.consistent
    exact ((reached.serve noTimeout).serve shortWindow).serve (.engine [] none)

end Process

end Checkup
