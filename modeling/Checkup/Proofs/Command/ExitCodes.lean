import Checkup.Proofs.Command.Inputs
import Checkup.Proofs.Engine.Breaking
import Checkup.Proofs.Report.Agreement

/-!
# Exit codes

The exit code of a command tells input that cannot be used from checks that have failed, except where
the input ends in a fault that is not handled. Main statement: a check with input that cannot be used
is refused before any attempt of a check, with the code 2 unless such a fault is met; every other
check ends with its report and the code of the engine's verdict, unless its run is broken off.
-/

namespace Checkup

namespace Command

/-- What is told about input that cannot be used: a complaint with the code 2, or a fault that is not
handled. -/
inductive Refuses (request : CheckRequest) (catalogue : Catalogue) (session : Session) :
    Exit → Prop where
  | told (complaint : String) : Refuses request catalogue session (.unusable complaint)
  | untold {fault : Fault} (unhandled : request.Unhandled catalogue session fault) :
      Refuses request catalogue session (.ofFault fault)

/-- How a command ends whose checks have been run. A report is written that shows the verdict of the
run, unless the run is broken off. With probes that end in ordinary faults only, it is the machine that
breaks it off. -/
structure Concludes (engine : Engine) (output : Output) (run : SuiteRun) (final : Session)
    (exit : Exit) : Prop where
  finished : ∀ verdict, run.ending = .finished verdict →
    ∃ reporter : Reporter, reporter.results = run.results ∧ reporter.Shows verdict ∧
      exit = { code := if verdict.success then 0 else 1, output := output.text reporter }
  escaped : ∀ fault, run.ending = .escaped fault →
    exit = .ofFault fault ∧
      ((∀ task ∈ enabledTasks engine.categories, ∀ scope, (task.probe scope).Mild) →
        ∃ task ∈ enabledTasks engine.categories,
          task.BreaksOff engine.configuration final fault)

theorem Exit.output_ofFault (fault : Fault) : (ofFault fault).output = "" := by
  unfold ofFault
  split
  · split <;> rfl
  · rfl

theorem Refuses.output_eq {request : CheckRequest} {catalogue : Catalogue} {session : Session}
    {exit : Exit} (refuses : Refuses request catalogue session exit) : exit.output = "" := by
  cases refuses with
  | told complaint => rfl
  | untold unhandled => exact Exit.output_ofFault _

theorem Refuses.code_eq {request : CheckRequest} {catalogue : Catalogue} {session : Session}
    {exit : Exit} (refuses : Refuses request catalogue session exit)
    (handled : ∀ fault, ¬request.Unhandled catalogue session fault) : exit.code = 2 := by
  cases refuses with
  | told complaint => rfl
  | untold unhandled => exact absurd unhandled (handled _)

variable {catalogue : Catalogue} {args : List String} {session : Session}
  {request : CheckRequest}

/-- A command that cannot prepare its checks tells of what the user has configured, and ends in every
other fault. -/
theorem run_eq_of_unprepared {output : Output} {settings : EngineSettings} {fault : Fault}
    {after : Session} (asked : Invocation.read args = .check request)
    (known : Output.ofName? request.output = some output)
    (set : EngineSettings.read session.host.environment = .ok settings)
    (unprepared : request.prepare catalogue settings session = (.error fault, after))
    (limit : Nat) :
    run catalogue args session limit =
      (if fault.isConfiguration then .unusable fault.message else .ofFault fault, after) := by
  simp only [run, asked, CheckRequest.run, known, bind, Action.look, Action.lift, set,
    Action.settle, unprepared]
  by_cases told : fault.isConfiguration = true
  · rw [if_pos told, if_pos told]
    rfl
  · rw [if_neg told, if_neg told]
    rfl

/-- A check without usable input is refused, whatever the limit on attempts; only the log is
configured, and what was taken on the way is counted. -/
theorem exists_refusal (asked : Invocation.read args = .check request)
    (unusable : ∀ output settings configuration,
      ¬request.Usable catalogue session output settings configuration) :
    ∃ exit desk counted, Refuses request catalogue session exit ∧
      ∀ limit, run catalogue args session limit = (exit, { session with desk, asked := counted }) := by
  cases known : Output.ofName? request.output with
  | none =>
    refine ⟨_, session.desk, session.asked, .told ("formato invalido " ++
      Text.quoted request.output ++ " (" ++ Output.names ++ ")"), ?_⟩
    intro limit
    simp only [run, asked, CheckRequest.run, known, pure]
  | some output =>
    cases set : EngineSettings.read session.host.environment with
    | error fault =>
      refine ⟨_, session.desk, session.asked, .untold (.settings set), ?_⟩
      intro limit
      simp only [run, asked, CheckRequest.run, known, bind, Action.look, Action.lift, set]
    | ok settings =>
      rcases ready : request.prepare catalogue settings session with ⟨fault | engine, after⟩
      · obtain ⟨why, desk, counted, rfl⟩ := CheckRequest.fault_of_prepare set ready
        refine ⟨_, desk, counted, ?_, run_eq_of_unprepared asked known set ready⟩
        by_cases told : fault.isConfiguration = true
        · rw [if_pos told]
          exact .told fault.message
        · rw [if_neg told]
          exact .untold (why.resolve_left told)
      · exact absurd (CheckRequest.usable_of_prepare known set ready) (unusable _ _ _)

theorem run_eq_of_fault {limit : Nat} {output : Output} {settings : EngineSettings}
    {engine : Engine} {prepared after : Session} {fault : Fault}
    (asked : Invocation.read args = .check request)
    (known : Output.ofName? request.output = some output)
    (set : EngineSettings.read session.host.environment = .ok settings)
    (ready : request.prepare catalogue settings session = (.ok engine, prepared))
    (broken : engine.report limit prepared = (.error fault, after)) :
    (run catalogue args session limit).1 = .ofFault fault := by
  simp only [run, asked, CheckRequest.run, known, bind, Action.look, Action.lift, set,
    Action.settle, ready, CheckRequest.execute, broken]

/-- A command whose checks are prepared concludes as their run does. -/
theorem concludes {limit : Nat} {output : Output} {settings : EngineSettings} {engine : Engine}
    {prepared final : Session} {suiteRun : SuiteRun}
    (asked : Invocation.read args = .check request)
    (usable : request.Usable catalogue session output settings engine.configuration)
    (ready : request.prepare catalogue settings session = (.ok engine, prepared))
    (ran : engine.runChecks (fun _ => pure ()) prepared limit = (suiteRun, final)) :
    Concludes engine output suiteRun final (run catalogue args session limit).1 := by
  constructor
  · intro verdict finished
    have reported : engine.report limit prepared =
        (.ok { results := suiteRun.results, recorded := some verdict }, final) := by
      simp only [Engine.report, ran, finished, Ending.answer, Except.map]
    obtain ⟨other, ranToo, ends, results, recorded⟩ := Engine.report_eq_ok reported
    have shows := Reporter.shows_of_recorded recorded
    have same : Reporter.verdict { results := suiteRun.results, recorded := some verdict } =
        verdict :=
      (Option.some.inj recorded).symm
    rw [same] at shows
    refine ⟨_, rfl, shows, ?_⟩
    rw [run_eq_of_report asked usable.output_eq usable.settings_eq ready reported, shows.standing]
  · intro fault escaped
    have broken : engine.report limit prepared = (.error fault, final) := by
      simp only [Engine.report, ran, escaped, Ending.answer, Except.map]
    refine ⟨run_eq_of_fault asked usable.output_eq usable.settings_eq ready broken, ?_⟩
    intro mild
    have bounded := Configuration.bounded_of_ofSetting usable.inForce.retryWindow_eq
    have calm : Observer.Calm (fun _ => pure ()) := fun _ session => ⟨session, rfl⟩
    exact Engine.exists_breaksOff bounded calm mild ran escaped

/-- A command that ends with the code 1 has run its checks, if its input ends in no fault that is not
handled: the verdict of the run, if it gives one, is failure. -/
theorem exists_failed_run {limit : Nat} (asked : Invocation.read args = .check request)
    (handled : ∀ fault, ¬request.Unhandled catalogue session fault)
    (failed : (run catalogue args session limit).1.code = 1) :
    ∃ settings engine prepared suiteRun final,
      request.prepare catalogue settings session = (.ok engine, prepared) ∧
        engine.runChecks (fun _ => pure ()) prepared limit = (suiteRun, final) ∧
          ∀ verdict, suiteRun.ending = .finished verdict → verdict.success = false := by
  by_cases possible : ∃ output settings configuration,
      request.Usable catalogue session output settings configuration
  · obtain ⟨output, settings, configuration, usable⟩ := possible
    obtain ⟨categories, desk, counted, scopes, ready, leads⟩ := usable.exists_engine
    rcases ran : Engine.runChecks { categories, configuration } (fun _ => pure ())
      { session with desk, asked := counted, scopes } limit with ⟨suiteRun, final⟩
    refine ⟨settings, _, _, suiteRun, final, ready, ran, ?_⟩
    intro verdict finished
    obtain ⟨reporter, _, _, ends⟩ :=
      (concludes asked usable ready ran).finished verdict finished
    rw [ends] at failed
    cases success : verdict.success with
    | false => rfl
    | true => simp [success] at failed
  · have unusable : ∀ output settings configuration,
        ¬request.Usable catalogue session output settings configuration := by
      intro output settings configuration usable
      exact possible ⟨output, settings, configuration, usable⟩
    obtain ⟨exit, desk, counted, refuses, ends⟩ := exists_refusal asked unusable
    rw [ends limit, refuses.code_eq handled] at failed
    cases failed

/-- The exit code of a check tells input that cannot be used from checks that have failed. Without
usable input the command is refused with the code 2, unless the input ends in a fault that is not
handled; nothing is written, no check is attempted, and the session stays as it was but for the log
and the count of what was taken. With usable input the checks are run with the configuration in
force, and the command concludes as their run does. Hence the code 1 stands for a report of failure,
unless a fault is not handled or the run is broken off. -/
theorem run_exits (catalogue : Catalogue) (session : Session)
    (asked : Invocation.read args = .check request) :
    ((∀ output settings configuration,
        ¬request.Usable catalogue session output settings configuration) →
      ∃ exit desk counted,
        (∀ limit, run catalogue args session limit =
          (exit, { session with desk, asked := counted })) ∧
        Refuses request catalogue session exit ∧ exit.output = "" ∧
          ((∀ fault, ¬request.Unhandled catalogue session fault) → exit.code = 2)) ∧
    (∀ output settings configuration,
        request.Usable catalogue session output settings configuration →
      ∃ categories desk counted scopes,
        request.prepare catalogue settings session =
            (.ok { categories, configuration },
              { session with desk, asked := counted, scopes }) ∧
          (∀ path, chosen request.suite = some path →
            SuiteReference.LeadsTo catalogue session path categories) ∧
            ∀ limit suiteRun final,
              Engine.runChecks { categories, configuration } (fun _ => pure ())
                  { session with desk, asked := counted, scopes } limit = (suiteRun, final) →
                Concludes { categories, configuration } output suiteRun final
                  (run catalogue args session limit).1) ∧
    ∀ limit, (run catalogue args session limit).1.code = 1 →
      (∃ fault, request.Unhandled catalogue session fault) ∨
        ∃ settings engine prepared suiteRun final,
          request.prepare catalogue settings session = (.ok engine, prepared) ∧
            engine.runChecks (fun _ => pure ()) prepared limit = (suiteRun, final) ∧
              ∀ verdict, suiteRun.ending = .finished verdict → verdict.success = false := by
  refine ⟨?_, ?_, ?_⟩
  · intro unusable
    obtain ⟨exit, desk, counted, refuses, ends⟩ := exists_refusal asked unusable
    exact ⟨exit, desk, counted, ends, refuses, refuses.output_eq, refuses.code_eq⟩
  · intro output settings configuration usable
    obtain ⟨categories, desk, counted, scopes, ready, leads⟩ := usable.exists_engine
    refine ⟨categories, desk, counted, scopes, ready, leads, ?_⟩
    intro limit suiteRun final ran
    exact concludes asked usable ready ran
  · intro limit failed
    by_cases handled : ∃ fault, request.Unhandled catalogue session fault
    · exact .inl handled
    · exact .inr (exists_failed_run asked (fun fault met => handled ⟨fault, met⟩) failed)

def pumps : Category :=
  { id := "pumps", scope := 0
    checkers :=
      [{ description := "pump runs"
         probe := some fun _ => pure (.outcome (.failed "stopped")) }] }

def plant : Catalogue := [("plant", .ok [("SUITE", .value (.items [.category pumps]))])]

def plantRequest : CheckRequest := { suite := some "plant:SUITE" }

/-- What is asked for by a command with a timeout that is zero, or that is no number. -/
def timedRequest (timeout : Float) : CheckRequest := { timeout := some timeout }

theorem ofSetting_five : Configuration.ofSetting 5 = .ok ⟨5000000⟩ :=
  Configuration.ofSetting_eq_ok.mpr (by decide +kernel)

theorem ofSetting_thirty : Configuration.ofSetting 30 = .ok ⟨30000000⟩ :=
  Configuration.ofSetting_eq_ok.mpr (by decide +kernel)

theorem ofSetting_zero : Configuration.ofSetting 0 = .ok ⟨0⟩ :=
  Configuration.ofSetting_eq_ok.mpr (by decide +kernel)

theorem plantRequest_usable : plantRequest.Usable plant CheckTask.quiet (.printed .table) {}
    ⟨⟨5000000⟩, ⟨30000000⟩⟩ where
  output_eq := by decide
  settings_eq := rfl
  level := ⟨.number 20, by decide⟩
  inForce := ⟨⟨_, ofSetting_five⟩, ⟨_, ofSetting_thirty⟩, ofSetting_five, ofSetting_thirty,
    by decide, by decide⟩
  suite := by
    intro path named
    cases named
    exact ⟨[pumps], ⟨"plant", "SUITE"⟩, _, _, _, ⟨rfl, rfl, rfl, rfl⟩, rfl⟩
  ownSuite unnamed := by cases unnamed

theorem timedRequest_unusable {timeout : Float}
    (unfit : ∀ duration, Configuration.ofSetting timeout = .ok duration → duration.micros ≤ 0)
    (output : Output) (settings : EngineSettings) (configuration : Configuration) :
    ¬(timedRequest timeout).Usable [] {} output settings configuration := by
  intro usable
  have positive := usable.inForce.timeout_pos
  have nonpositive := unfit configuration.timeout usable.inForce.timeout_eq
  omega

theorem timedRequest_handled (fault : Fault) : ¬(timedRequest 0).Unhandled [] {} fault := by
  intro unhandled
  cases unhandled with
  | settings unread => cases unread
  | @time settings seconds set used unfit =>
    cases set
    have known : seconds = 5 ∨ seconds = 30 ∨ seconds = 0 := by
      simpa [Configuration.secondsRead, timedRequest] using used
    rcases known with rfl | rfl | rfl
    · simp [ofSetting_five] at unfit
    · simp [ofSetting_thirty] at unfit
    · simp [ofSetting_zero] at unfit
  | suite named => cases named
  | probes unnamed unread => cases unread

/-- How the pumps fare when they may be attempted once. -/
def plantVerdict? : Option Verdict :=
  match plantRequest.prepare plant {} CheckTask.quiet with
  | (.ok engine, prepared) => (engine.runChecks (fun _ => pure ()) prepared 1).1.ending.value?
  | (.error _, _) => none

theorem plant_exits :
    (∃ exit after, run [] ["check", "--timeout", "0"] {} = (exit, after) ∧ exit.code = 2 ∧
      exit.output = "" ∧ after.journal = []) ∧
    ∃ reporter : Reporter, reporter.Shows ⟨false, false⟩ ∧
      (run plant ["check", "--suite", "plant:SUITE"] CheckTask.quiet 1).1 =
        { code := 1, output := Output.text (.printed .table) reporter } := by
  have timed : Invocation.read ["check", "--timeout", "0"] = .check (timedRequest 0) := rfl
  have suited : Invocation.read ["check", "--suite", "plant:SUITE"] = .check plantRequest := rfl
  constructor
  · obtain ⟨refused, _⟩ := run_exits [] {} timed
    obtain ⟨exit, desk, counted, ends, _, silent, told⟩ := refused <| by
      apply timedRequest_unusable
      intro duration made
      rw [ofSetting_zero, Except.ok.injEq] at made
      subst made
      exact Int.le_refl 0
    exact ⟨exit, _, ends _, told timedRequest_handled, silent, rfl⟩
  · obtain ⟨_, performed, _⟩ := run_exits plant CheckTask.quiet suited
    obtain ⟨categories, desk, counted, scopes, ready, _, concludes⟩ :=
      performed _ _ _ plantRequest_usable
    rcases ran : Engine.runChecks { categories, configuration := ⟨⟨5000000⟩, ⟨30000000⟩⟩ }
      (fun _ => pure ()) { CheckTask.quiet with desk, asked := counted, scopes } 1 with
      ⟨suiteRun, final⟩
    have failed : plantVerdict? = some ⟨false, false⟩ := by decide +kernel
    unfold plantVerdict? at failed
    rw [ready] at failed
    simp only [ran] at failed
    obtain ⟨reporter, _, shows, ends⟩ :=
      (concludes 1 suiteRun final ran).finished _ (Ending.eq_finished failed)
    exact ⟨reporter, shows, ends⟩

/-- A timeout that is no number cannot be used, and the command ends with the code of a failure. -/
theorem nanTimeout_fails :
    Invocation.read ["check", "--timeout", "nan"] = .check (timedRequest Number.notANumber) ∧
      (∀ output settings configuration,
        ¬(timedRequest Number.notANumber).Usable [] {} output settings configuration) ∧
        (run [] ["check", "--timeout", "nan"] {}).1.code = 1 := by
  refine ⟨rfl, ?_, by decide +kernel⟩
  apply timedRequest_unusable
  intro duration made
  have unfit : Duration.ofSeconds (.real Number.notANumber) = .error .notANumber := by
    decide +kernel
  simp [Configuration.ofSetting_eq_ok, unfit] at made

end Command

end Checkup
