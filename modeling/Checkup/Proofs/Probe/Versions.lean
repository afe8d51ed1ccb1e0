import Checkup.Probe.System

/-!
# The order of versions

Versions are compared component by component, as if zeros went on behind the last one. Main
statement: the check of the runtime's version fails exactly when the running version precedes the
required one, except that it ends in a fault when the required version goes on after the three
components of the running one.
-/

namespace Checkup.Machine

/-- A version precedes another one if it has the smaller component at the first position at which the
two differ. Components that are missing count as zero. -/
def Precedes (version other : List Int) : Prop :=
  ∃ position, (∀ before < position, version.getD before 0 = other.getD before 0) ∧
    version.getD position 0 < other.getD position 0

theorem precedes_cons_iff (first second : Int) (version other : List Int) :
    Precedes (first :: version) (second :: other) ↔
      first < second ∨ first = second ∧ Precedes version other := by
  constructor
  · rintro ⟨position, same, smaller⟩
    cases position with
    | zero => exact .inl smaller
    | succ position =>
      refine .inr ⟨same 0 (Nat.zero_lt_succ position), position, ?_, smaller⟩
      intro before earlier
      exact same (before + 1) (Nat.succ_lt_succ earlier)
  · intro cases
    rcases cases with smaller | ⟨rfl, position, same, smaller⟩
    · exact ⟨0, fun before earlier => absurd earlier (Nat.not_lt_zero before), smaller⟩
    · refine ⟨position + 1, ?_, smaller⟩
      intro before earlier
      cases before with
      | zero => rfl
      | succ before => exact same before (Nat.lt_of_succ_lt_succ earlier)

/-- A version without negative components does not precede the empty one. -/
theorem not_precedes_nil {version : List Int} (counted : ∀ component ∈ version, 0 ≤ component) :
    ¬Precedes version [] := by
  rintro ⟨position, _, smaller⟩
  have nonneg : 0 ≤ version.getD position 0 := by
    rw [List.getD_eq_getElem?_getD]
    cases found : version[position]? with
    | none => exact Int.le_refl 0
    | some component => exact counted component (List.mem_of_getElem? found)
  rw [List.getD_nil] at smaller
  omega

/-- The fault of comparing the stage of a release with a number. -/
def stageFault : Fault :=
  .badType "'<' not supported between instances of 'str' and 'int'"

/-- A required version goes on behind the components of a running one. -/
def GoesOn (running required : List Int) : Prop :=
  ∃ first more, required = running ++ first :: more

/-- A comparison that gets to the stage of the release ends in a fault. -/
theorem isOlder_of_goesOn {running required : List Int} (goesOn : GoesOn running required)
    (stage : String) (later : List Value) :
    isOlder ((running.map Value.int ++ .text stage :: later).take required.length) required =
      .error stageFault := by
  obtain ⟨first, more, rfl⟩ := goesOn
  induction running with
  | nil => rfl
  | cons component running inductionHypothesis => simpa [isOlder] using inductionHypothesis

/-- A comparison that ends before the stage of the release is that of the components. -/
theorem exists_isOlder_eq {running required : List Int} (apart : ¬GoesOn running required)
    (counted : ∀ component ∈ running, 0 ≤ component) (stage : String) (later : List Value) :
    ∃ older, isOlder ((running.map Value.int ++ .text stage :: later).take required.length)
        required = .ok older ∧ (older = true ↔ Precedes running required) := by
  induction running generalizing required with
  | nil =>
    cases required with
    | nil => exact ⟨false, rfl, by simp [not_precedes_nil counted]⟩
    | cons first more => exact absurd ⟨first, more, rfl⟩ apart
  | cons component running inductionHypothesis =>
    cases required with
    | nil => exact ⟨false, rfl, by simp [not_precedes_nil counted]⟩
    | cons first more =>
      rw [precedes_cons_iff]
      by_cases same : component = first
      · subst same
        have apartLater : ¬GoesOn running more := by
          rintro ⟨next, last, rfl⟩
          exact apart ⟨next, last, rfl⟩
        obtain ⟨older, compared, decides⟩ :=
          inductionHypothesis apartLater (List.forall_mem_cons.mp counted).2
        refine ⟨older, ?_, by simp [decides]⟩
        simpa [isOlder] using compared
      · refine ⟨decide (component < first), ?_, by simp [same]⟩
        simp [isOlder, same]

structure Release where
  major : Nat
  minor : Nat
  micro : Nat
  stage : String
  serial : Nat

namespace Release

def components (release : Release) : List Int :=
  [release.major, release.minor, release.micro]

def version (release : Release) : List Value :=
  release.components.map .int ++ [.text release.stage, .int release.serial]

def name (release : Release) : String :=
  Number.showInt release.major ++ "." ++ Number.showInt release.minor ++ "." ++
    Number.showInt release.micro

theorem releaseText_version (release : Release) : releaseText release.version = release.name := by
  simp [releaseText, version, components, Value.shown, Value.literal, name, String.append_assoc]

theorem components_nonneg (release : Release) : ∀ component ∈ release.components, 0 ≤ component := by
  simp [components]

end Release

def recorded (version : String) (session : Session) : Session :=
  { session with store := session.store.set versionKey (.text version) }

theorem compareVersion_eq (minimum : String) (required : List Int) (scope : ScopeId)
    (session : Session) :
    compareVersion minimum required scope session =
      ((isOlder (session.host.runtimeVersion.take required.length) required).map fun older =>
          .outcome
            (if older then
              .failed ("Python " ++ releaseText session.host.runtimeVersion ++
                " is older than required " ++ minimum)
            else .verbose ("Python " ++ releaseText session.host.runtimeVersion)),
        recorded (releaseText session.host.runtimeVersion) session) := by
  simp only [compareVersion, bind, Action.look, Action.record, Action.change, Action.lift]
  cases isOlder (session.host.runtimeVersion.take required.length) required with
  | error fault => rfl
  | ok older => cases older <;> rfl

theorem compareVersion_of_goesOn {release : Release} {required : List Int} {session : Session}
    (running : session.host.runtimeVersion = release.version)
    (goesOn : GoesOn release.components required) (minimum : String) (scope : ScopeId) :
    compareVersion minimum required scope session =
      (.error stageFault, recorded release.name session) := by
  rw [compareVersion_eq, running, release.releaseText_version, Release.version,
    isOlder_of_goesOn goesOn]
  rfl

/-- The checker of a version that can be read compares it with the runtime's. -/
theorem versionChecker_eq_ok {minimum : String} {policy : Policy} {checker : Checker}
    (accepted : versionChecker minimum policy = .ok checker) :
    ∃ required, readVersion minimum = .ok required ∧
      checker.probe = some (compareVersion minimum required) := by
  obtain ⟨required, read, made⟩ := bind_eq_ok.mp accepted
  cases made
  exact ⟨required, read, rfl⟩

/-- The check of a version that was accepted stores the running version and compares it with the
required one, whatever that has of components: it fails if the running version precedes it and passes
otherwise. Only if the required version goes on behind the three components of the running one does
it end in a fault instead. -/
theorem versionChecker_compares {minimum : String} {policy : Policy} {checker : Checker}
    (accepted : versionChecker minimum policy = .ok checker) :
    ∃ required probe, readVersion minimum = .ok required ∧ checker.probe = some probe ∧
      ∀ (release : Release) (scope : ScopeId) (session : Session),
        session.host.runtimeVersion = release.version →
          (GoesOn release.components required →
            probe scope session = (.error stageFault, recorded release.name session)) ∧
          (¬GoesOn release.components required →
            (Precedes release.components required →
              probe scope session =
                (.ok (.outcome (.failed ("Python " ++ release.name ++ " is older than required " ++
                  minimum))), recorded release.name session)) ∧
            (¬Precedes release.components required →
              probe scope session =
                (.ok (.outcome (.verbose ("Python " ++ release.name))),
                  recorded release.name session))) := by
  obtain ⟨required, read, probed⟩ := versionChecker_eq_ok accepted
  refine ⟨required, _, read, probed, ?_⟩
  intro release scope session running
  refine ⟨?_, ?_⟩
  · intro goesOn
    exact compareVersion_of_goesOn running goesOn minimum scope
  · intro apart
    obtain ⟨older, compared, decides⟩ := exists_isOlder_eq apart release.components_nonneg
      release.stage [.int release.serial]
    rw [compareVersion_eq, running, release.releaseText_version, Release.version, compared]
    refine ⟨?_, ?_⟩
    · intro precedes
      rw [decides.mpr precedes]
      rfl
    · intro reached
      rw [Bool.eq_false_iff.mpr fun isOlder => reached (decides.mp isOlder)]
      rfl

def settled : Release := ⟨3, 11, 2, "final", 0⟩

theorem readVersion_of_digits {minimum : String} {required : List Int}
    (read : (minimum.toList.splitOn '.').mapM Number.readInt? = some required) :
    readVersion minimum = .ok required := by
  rw [readVersion, read]

/-- A required version with four components is met, and one is not; the running one is stored. -/
theorem settled_compared :
    (∃ checker probe, versionChecker "3.9.20.1" {} = .ok checker ∧ checker.probe = some probe ∧
        probe 0 {} = (.ok (.outcome (.verbose "Python 3.11.2")), recorded "3.11.2" {})) ∧
      ∃ checker probe, versionChecker "3.12.0.1" {} = .ok checker ∧ checker.probe = some probe ∧
        probe 0 {} =
          (.ok (.outcome (.failed "Python 3.11.2 is older than required 3.12.0.1")),
            recorded "3.11.2" {}) := by
  have named : settled.name = "3.11.2" := by decide +kernel
  have met : readVersion "3.9.20.1" = .ok [3, 9, 20, 1] := readVersion_of_digits (by decide +kernel)
  have unmet : readVersion "3.12.0.1" = .ok [3, 12, 0, 1] :=
    readVersion_of_digits (by decide +kernel)
  refine ⟨?_, ?_⟩
  · have accepted : versionChecker "3.9.20.1" {} = .ok _ := congrArg (· >>= _) met
    obtain ⟨required, probe, read, probed, compares⟩ := versionChecker_compares accepted
    cases met.symm.trans read
    refine ⟨_, probe, accepted, probed, ?_⟩
    have answer := ((compares settled 0 {} rfl).2 (by simp [GoesOn, Release.components, settled])).2
      (by simp [Release.components, settled, precedes_cons_iff])
    rw [named] at answer
    exact answer
  · have accepted : versionChecker "3.12.0.1" {} = .ok _ := congrArg (· >>= _) unmet
    obtain ⟨required, probe, read, probed, compares⟩ := versionChecker_compares accepted
    cases unmet.symm.trans read
    refine ⟨_, probe, accepted, probed, ?_⟩
    have answer := ((compares settled 0 {} rfl).2 (by simp [GoesOn, Release.components, settled])).1
      (by simp [Release.components, settled, precedes_cons_iff])
    rw [named] at answer
    exact answer

/-- A zero behind the running version is required of it, and the check ends in a fault. -/
theorem settled_refused :
    ∃ checker probe, versionChecker "3.11.2.0" {} = .ok checker ∧ checker.probe = some probe ∧
      ¬Precedes settled.components [3, 11, 2, 0] ∧ (probe 0 {}).1 = .error stageFault := by
  have read : readVersion "3.11.2.0" = .ok [3, 11, 2, 0] := readVersion_of_digits (by decide +kernel)
  have goesOn : GoesOn settled.components [3, 11, 2, 0] := ⟨0, [], rfl⟩
  have zero : ¬Precedes [] [0] := by
    rintro ⟨position, _, smaller⟩
    cases position <;> simp at smaller
  refine ⟨_, _, congrArg (· >>= _) read, rfl, ?_, ?_⟩
  · simp [settled, Release.components, precedes_cons_iff, zero]
  · rw [compareVersion_of_goesOn rfl goesOn]

end Checkup.Machine
