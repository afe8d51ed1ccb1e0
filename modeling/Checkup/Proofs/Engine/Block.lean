import Checkup.Proofs.Probe.Hearing

/-!
# The results of a check

The attempts of a check that has ended form a block: all but the last one failed and were told of as
provisional, and the last one was told of as final, unless the check was skipped. Main statement:
every run of a check that ends is such a block, and what others notice of it is the block.
-/

namespace Checkup

def Ending.value? : Ending α → Option α
  | finished value => some value
  | _ => none

theorem Ending.eq_finished {ending : Ending α} {value : α} (has : ending.value? = some value) :
    ending = .finished value := by
  cases ending with
  | finished found => cases has; rfl
  | escaped fault => cases has
  | unfinished => cases has

def Outcome.isSkip : Outcome → Bool
  | skip _ => true
  | _ => false

namespace CheckTask

variable {task : CheckTask} {configuration : Configuration} {observer : Observer}

/-- A result stands for the task: it names the category, where users find help, and whether a
failure only warns. -/
def Marks (task : CheckTask) (result : CheckResult) : Prop :=
  result.category = task.category.id ∧
    result.hintUrl = task.category.hintBaseUrl ++ task.checker.hintAnchor ∧
    result.warning = task.checker.policy.warning

/-- An attempt after which the check is tried again: it failed, and its result is provisional. The
result hides the fault unless the policy surfaces it. -/
def Echoes (task : CheckTask) (turn : Turn) : Prop :=
  ∃ cause result, turn.outcome = .failure cause ∧ turn.result = some result ∧
    result.retry = true ∧ result.description = task.checker.description ∧
    result.fault =
      some (if task.checker.policy.surfaceFault then .inCategory task.category.id cause
        else .pending [])

def Reports (turn : Turn) (description : String) (fault : Option Fault) : Prop :=
  ∃ result, turn.result = some result ∧ result.retry = false ∧
    result.description = description ∧ result.fault = fault

/-- The last attempt of a check: a skipped check has no result, and every other one a final result
that shows the fault of a failure and the detail of a success. -/
def Concludes (task : CheckTask) (turn : Turn) : Prop :=
  match turn.outcome with
  | .skip _ => turn.result = none
  | .ok => Reports turn task.checker.description none
  | .verbose detail => Reports turn (task.checker.description ++ "\n" ++ detail) none
  | .failure cause =>
    Reports turn task.checker.description (some (.inCategory task.category.id cause))

theorem Concludes.failure_of_shown {turn : Turn} {result : CheckResult}
    (concludes : task.Concludes turn) (told : turn.result = some result)
    (shown : result.fault.isSome = true) : ∃ cause, turn.outcome = .failure cause := by
  have faultless : ∀ {description}, Reports turn description none → False := by
    rintro description ⟨found, emitted, _, _, without⟩
    rw [told] at emitted
    cases emitted
    rw [without] at shown
    cases shown
  unfold Concludes at concludes
  cases outcome : turn.outcome with
  | failure cause => exact ⟨cause, rfl⟩
  | skip reason =>
    simp only [outcome] at concludes
    rw [told] at concludes
    cases concludes
  | ok =>
    simp only [outcome] at concludes
    exact absurd concludes faultless
  | verbose detail =>
    simp only [outcome] at concludes
    exact absurd concludes faultless

/-- The run of a check that has ended, as a block of attempts. -/
structure Block (task : CheckTask) (run : CheckRun) (passed : Bool) (earlier : List Turn)
    (last : Turn) : Prop where
  turns : run.turns = earlier ++ [last]
  echoes : ∀ turn ∈ earlier, task.Echoes turn
  concludes : task.Concludes last
  marks : ∀ result ∈ run.results, task.Marks result
  /-- Every attempt has one result, but for the one that ends in a skip. -/
  attempts : run.turns.length = run.results.length + if last.outcome.isSkip then 1 else 0
  failed : passed = false ↔ ∃ cause, last.outcome = .failure cause

/-- A check is only tried again after a failure. -/
theorem failure_of_retried {started ended : Session} {outcome : Outcome}
    (attempted : task.attempt configuration started = (.ok (outcome, true), ended)) :
    ∃ cause, outcome = .failure cause := by
  rcases found : task.category.attempt task.checker configuration.timeout task.probe started with
    ⟨fault | judged, after⟩
  · simp [attempt, found] at attempted
  · simp only [attempt, found, Prod.mk.injEq] at attempted
    obtain ⟨answered, rfl⟩ := attempted
    cases judged with
    | failure cause =>
      cases decision : task.category.retries task.checker (.failure cause) after with
      | error fault => simp [decision, Except.map] at answered
      | ok retry =>
        simp only [decision, Except.map, Except.ok.injEq, Prod.mk.injEq] at answered
        exact ⟨cause, answered.1.symm⟩
    | skip reason => simp [Category.retries, Outcome.passed, Outcome.fault?, Except.map] at answered
    | ok => simp [Category.retries, Outcome.passed, Outcome.fault?, Except.map] at answered
    | verbose detail =>
      simp [Category.retries, Outcome.passed, Outcome.fault?, Except.map] at answered

theorem marks_resultOf {retry : Bool} {outcome : Outcome} {result : CheckResult}
    (emitted : task.category.resultOf? task.checker retry outcome = some result) :
    task.Marks result := by
  cases outcome with
  | skip reason => cases emitted
  | ok => cases emitted; exact ⟨rfl, rfl, rfl⟩
  | verbose detail => cases emitted; exact ⟨rfl, rfl, rfl⟩
  | failure cause => cases emitted; exact ⟨rfl, rfl, rfl⟩

theorem block_last (task : CheckTask) (outcome : Outcome) (startedAt endedAt : Int) :
    let turn : Turn :=
      ⟨outcome, startedAt, endedAt, task.category.resultOf? task.checker false outcome⟩
    task.Block ⟨[turn], .finished outcome.passed⟩ outcome.passed [] turn := by
  intro turn
  refine ⟨rfl, by simp, ?_, ?_, ?_, ?_⟩
  · cases outcome with
    | skip reason => rfl
    | ok => exact ⟨_, rfl, rfl, rfl, rfl⟩
    | verbose detail => exact ⟨_, rfl, rfl, rfl, rfl⟩
    | failure cause =>
      refine ⟨_, rfl, rfl, rfl, ?_⟩
      simp [Category.result, Category.shownFault]
  · intro result member
    obtain ⟨found, only, emitted⟩ := List.mem_filterMap.mp member
    rw [List.mem_singleton] at only
    subst only
    exact marks_resultOf emitted
  · cases outcome <;> rfl
  · cases outcome <;> simp [turn, Outcome.passed, Outcome.fault?]

/-- A failed attempt that is told of as provisional, in front of a block. -/
theorem Block.prepend {run : CheckRun} {passed : Bool} {earlier : List Turn} {last : Turn}
    (block : task.Block run passed earlier last) (cause : Fault) (startedAt endedAt : Int) :
    let turn : Turn :=
      ⟨.failure cause, startedAt, endedAt,
        task.category.resultOf? task.checker true (.failure cause)⟩
    task.Block (run.prepend turn) passed (turn :: earlier) last := by
  intro turn
  have echo : task.Echoes turn := by
    refine ⟨cause, _, rfl, rfl, rfl, rfl, ?_⟩
    cases surface : task.checker.policy.surfaceFault <;>
      simp [Category.result, Category.shownFault, surface]
  have emitted : (run.prepend turn).results =
      task.category.result task.checker task.checker.description true
        (some (task.category.shownFault task.checker true cause)) :: run.results := rfl
  refine ⟨?_, ?_, block.concludes, ?_, ?_, block.failed⟩
  · exact congrArg (turn :: ·) block.turns
  · intro found member
    rcases List.mem_cons.mp member with rfl | later
    · exact echo
    · exact block.echoes found later
  · rw [emitted]
    intro result member
    rcases List.mem_cons.mp member with rfl | later
    · exact ⟨rfl, rfl, rfl⟩
    · exact block.marks result later
  · have counted := block.attempts
    rw [emitted]
    simp only [CheckRun.prepend, List.length_cons]
    omega

/-- The course of a check that has ended is a block. -/
theorem Course.exists_block {number : Nat} {session final : Session} {stages : List Stage}
    {ending : Ending Bool} {passed : Bool}
    (course : task.Course configuration observer number session stages ending final)
    (finished : ending = .finished passed) :
    ∃ earlier last, task.Block ⟨task.turns stages, ending⟩ passed earlier last := by
  induction course with
  | cut => cases finished
  | raised => cases finished
  | untold => cases finished
  | @last number started ended left outcome attempted delivered =>
    cases finished
    exact ⟨[], _, block_last task outcome started.micros ended.micros⟩
  | @again number started ended left final outcome later ending attempted delivered onward
      inductionHypothesis =>
    obtain ⟨cause, rfl⟩ := failure_of_retried attempted
    obtain ⟨earlier, last, block⟩ := inductionHypothesis finished
    exact ⟨_ :: earlier, last, block.prepend cause started.micros ended.micros⟩

/-- Every attempt of a course that has ended is kept, so that its notices are those of the run. -/
theorem Course.flatMap_notices {κ : Type} (caller : κ) {number : Nat} {session final : Session}
    {stages : List Stage} {ending : Ending Bool} {passed : Bool}
    (course : task.Course configuration observer number session stages ending final)
    (finished : ending = .finished passed) :
    stages.flatMap (task.notices caller) = (task.turns stages).flatMap (Turn.notices caller) := by
  induction course with
  | cut => cases finished
  | raised => cases finished
  | untold => cases finished
  | last attempted delivered => simp [notices, turn?]
  | again attempted delivered onward inductionHypothesis =>
    simp [notices, turn?, inductionHypothesis finished]

/-- A check that ends adds exactly the notices of its run. -/
theorem notices_run {κ : Type} {recorder : Recorder κ observer} {caller : κ} {limit number : Nat}
    {session final : Session} {run : CheckRun} {passed : Bool}
    (heard : recorder.Hears caller task.probe)
    (ran : task.run configuration observer limit number session = (run, final))
    (finished : run.ending = .finished passed) :
    recorder.notices final.journal = recorder.notices session.journal ++ run.notices caller := by
  obtain ⟨stages, course, turns, _, _⟩ := exists_course ran
  rw [course.notices_eq heard, course.flatMap_notices caller finished, CheckRun.notices, turns]

theorem exists_block {limit number : Nat} {session final : Session} {run : CheckRun}
    {passed : Bool}
    (ran : task.run configuration observer limit number session = (run, final))
    (finished : run.ending = .finished passed) :
    ∃ earlier last, task.Block run passed earlier last := by
  obtain ⟨stages, course, turns, _, _⟩ := exists_course ran
  obtain ⟨earlier, last, block⟩ := course.exists_block finished
  rw [← turns] at block
  exact ⟨earlier, last, block⟩

/-- A check that ends is a block of attempts, and others notice exactly the calls and the results of
this block. -/
theorem exists_block_of_finished {limit number : Nat} {session final : Session} {run : CheckRun}
    {passed : Bool}
    (ran : task.run configuration observer limit number session = (run, final))
    (finished : run.ending = .finished passed) :
    ∃ stages earlier last,
      task.Course configuration observer number session stages run.ending final ∧
        run.turns = task.turns stages ∧ task.Block run passed earlier last ∧
          ∀ {κ : Type} (recorder : Recorder κ observer) (caller : κ),
            recorder.Hears caller task.probe →
              recorder.notices final.journal =
                recorder.notices session.journal ++ run.notices caller := by
  obtain ⟨stages, course, turns, _, _⟩ := exists_course ran
  obtain ⟨earlier, last, block⟩ := exists_block ran finished
  refine ⟨stages, earlier, last, course, turns, block, ?_⟩
  intro κ recorder caller heard
  exact notices_run heard ran finished

/-- A check that fails, fails again after two seconds by raising, and then does not apply. -/
def podsRun : CheckTask :=
  { category := { id := "cluster", hintBaseUrl := "https://help/", scope := 0 }
    checker :=
      { description := "pods run"
        hintAnchor := "pods"
        policy := { retryDeadline := some (Moment.atMicros 5000000) } }
    probe := scriptedProbe "pods run" 0
      [{ reaction := .give (.outcome (.failed "none is ready")) },
        { acts := [.sleep (.real 2)], reaction := .raise (.foreign "OSError" []) },
        { reaction := .give (.outcome (.skip "no pods")) }] }

def briefly : Configuration := ⟨⟨1000000⟩, ⟨3000000⟩⟩

def quiet : Session := { scopes := ⟨#[{}]⟩ }

/-- How this check runs when it may be attempted three times. -/
def podsRunning : CheckRun × Session :=
  podsRun.run briefly (({} : Listener).observer 1) 3 1 quiet

theorem podsRunning_block :
    podsRunning.1.ending = .finished true ∧ podsRunning.1.turns.length = 3 ∧
      (∃ earlier last, podsRun.Block podsRunning.1 true earlier last) ∧
        journalNotices podsRunning.2.journal =
          journalNotices quiet.journal ++ podsRunning.1.notices "pods run" := by
  have finished : podsRunning.1.ending = .finished true :=
    Ending.eq_finished (by decide +kernel)
  obtain ⟨_, earlier, last, _, _, block, noticed⟩ :=
    exists_block_of_finished (Prod.eta podsRunning).symm finished
  have heard := noticed (Listener.recorder {} 1) "pods run"
    (Listener.recorder_hears {} 1 "pods run" 0 _)
  rw [Listener.recorder_notices] at heard
  exact ⟨finished, by decide +kernel, ⟨earlier, last, block⟩, heard⟩

end CheckTask

end Checkup
