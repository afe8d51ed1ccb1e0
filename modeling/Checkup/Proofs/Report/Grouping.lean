import Checkup.Proofs.Report.Counting
import Checkup.Report.Document
import Mathlib.Data.List.Forall2

/-!
# The groups of a report

The structured report loses, invents and reorders nothing. Main statement: a list of groups is that of
the report if and only if its entries show the final results one by one, in order and under the names
of their categories, no group is empty, and no two neighbours have the same name. The verdict of the
report is the one that its entries show.
-/

namespace Checkup

namespace CheckResult

/-- An entry under the name of a category shows a result. -/
structure ShownAs (result : CheckResult) (placed : String × ReportEntry) : Prop where
  category : placed.1 = result.category
  description : placed.2.description = result.description
  status : placed.2.status = result.status
  error : ∀ text, placed.2.error = some text ↔
    ∃ fault, result.fault = some fault ∧ fault.message = text
  hint : ∀ text, placed.2.hint = some text ↔
    result.fault.isSome = true ∧ result.hintUrl ≠ "" ∧ result.hintUrl = text

def placed (result : CheckResult) : String × ReportEntry :=
  (result.category, .ofResult result)

theorem shownAs_placed (result : CheckResult) : result.ShownAs result.placed where
  category := rfl
  description := rfl
  status := rfl
  error text := by simp [placed, ReportEntry.ofResult]
  hint text := by simp [placed, ReportEntry.ofResult, and_assoc]

/-- There is one way to show a result. -/
theorem ShownAs.eq_placed {result : CheckResult} {placed : String × ReportEntry}
    (shown : result.ShownAs placed) : placed = result.placed := by
  have own := result.shownAs_placed
  have error : placed.2.error = (ReportEntry.ofResult result).error :=
    Option.ext fun text => (shown.error text).trans (own.error text).symm
  have hint : placed.2.hint = (ReportEntry.ofResult result).hint :=
    Option.ext fun text => (shown.hint text).trans (own.hint text).symm
  obtain ⟨category, entry⟩ := placed
  obtain ⟨sameCategory, description, status, -, -⟩ := shown
  cases entry
  simp only at sameCategory description status error hint
  rw [sameCategory, description, status, error, hint]
  rfl

theorem forall₂_shownAs_iff {results : List CheckResult} {entries : List (String × ReportEntry)} :
    List.Forall₂ ShownAs results entries ↔ entries = results.map placed := by
  constructor
  · intro shown
    induction shown with
    | nil => rfl
    | cons first _ inductionHypothesis =>
      rw [List.map_cons, first.eq_placed, inductionHypothesis]
  · rintro rfl
    exact List.forall₂_map_right_iff.mpr (List.forall₂_same.mpr fun result _ => result.shownAs_placed)

end CheckResult

namespace ReportGroup

def placed (groups : List ReportGroup) : List (String × ReportEntry) :=
  groups.flatMap fun group => group.entries.map (group.category, ·)

/-- Groups arrange entries if they hold them in order, none is empty, and every one goes on for as long
as the name of the category stays the same. -/
structure Arranges (groups : List ReportGroup) (entries : List (String × ReportEntry)) : Prop where
  placed_eq : placed groups = entries
  filled : ∀ group ∈ groups, group.entries ≠ []
  apart : (groups.map (·.category)).IsChain (· ≠ ·)

/-- One more entry in front of groups keeps them arranged. -/
theorem Arranges.consEntry {groups : List ReportGroup} {entries : List (String × ReportEntry)}
    (arranges : Arranges groups entries) (category : String) (entry : ReportEntry) :
    Arranges (consEntry category entry groups) ((category, entry) :: entries) := by
  obtain ⟨rfl, filled, apart⟩ := arranges
  cases groups with
  | nil => exact ⟨rfl, by simp [ReportGroup.consEntry], .singleton _⟩
  | cons group later =>
    have others := (List.forall_mem_cons.mp filled).2
    by_cases same : group.category = category
    · subst same
      rw [ReportGroup.consEntry, if_pos rfl]
      exact ⟨rfl, List.forall_mem_cons.mpr ⟨List.cons_ne_nil _ _, others⟩, apart⟩
    · rw [ReportGroup.consEntry, if_neg same]
      exact ⟨rfl, List.forall_mem_cons.mpr ⟨List.cons_ne_nil _ _, filled⟩,
        .cons_cons (Ne.symm same) apart⟩

/-- Groups that arrange entries come from those without the first entry. -/
theorem Arranges.exists_consEntry {groups : List ReportGroup} {category : String}
    {entry : ReportEntry} {entries : List (String × ReportEntry)}
    (arranges : Arranges groups ((category, entry) :: entries)) :
    ∃ others, Arranges others entries ∧ groups = ReportGroup.consEntry category entry others := by
  obtain ⟨held, filled, apart⟩ := arranges
  cases groups with
  | nil => cases held
  | cons group later =>
    obtain ⟨name, found⟩ := group
    obtain ⟨own, others⟩ := List.forall_mem_cons.mp filled
    cases found with
    | nil => exact absurd rfl own
    | cons first more =>
      obtain ⟨⟨rfl, rfl⟩, rfl⟩ :
          (name = category ∧ first = entry) ∧ more.map (name, ·) ++ placed later = entries := by
        simpa [placed] using held
      cases more with
      | nil =>
        -- The group holds nothing else, and the next one has another name.
        refine ⟨later, ⟨rfl, others, apart.of_cons⟩, ?_⟩
        cases later with
        | nil => rfl
        | cons next last =>
          have differs : name ≠ next.category := (List.isChain_cons_cons.mp apart).1
          rw [ReportGroup.consEntry, if_neg (Ne.symm differs)]
      | cons second rest =>
        refine ⟨⟨name, second :: rest⟩ :: later, ⟨rfl, ?_, apart⟩, ?_⟩
        · exact List.forall_mem_cons.mpr ⟨List.cons_ne_nil _ _, others⟩
        · rw [ReportGroup.consEntry, if_pos rfl]

/-- The groups of results are the only ones that arrange their entries. -/
theorem arranges_iff {groups : List ReportGroup} {results : List CheckResult} :
    Arranges groups (results.map CheckResult.placed) ↔ groups = ofResults results := by
  constructor
  · intro arranges
    induction results generalizing groups with
    | nil =>
      cases groups with
      | nil => rfl
      | cons group later =>
        obtain ⟨none, -⟩ := List.append_eq_nil_iff.mp arranges.placed_eq
        exact absurd (List.map_eq_nil_iff.mp none) (arranges.filled group List.mem_cons_self)
    | cons result later inductionHypothesis =>
      obtain ⟨others, arrangesLater, rfl⟩ := arranges.exists_consEntry
      rw [ofResults, inductionHypothesis arrangesLater]
  · rintro rfl
    induction results with
    | nil => exact ⟨rfl, by simp [ofResults], .nil⟩
    | cons result later inductionHypothesis =>
      exact inductionHypothesis.consEntry result.category (.ofResult result)

end ReportGroup

theorem CheckResult.status_eq_error_iff (result : CheckResult) :
    result.status = .error ↔ result.fault.isSome = true ∧ result.warning = false := by
  cases fault : result.fault <;> cases warns : result.warning <;> simp [status, fault, warns]

theorem CheckResult.status_eq_warning_iff (result : CheckResult) :
    result.status = .warning ↔ result.fault.isSome = true ∧ result.warning = true := by
  cases fault : result.fault <;> cases warns : result.warning <;> simp [status, fault, warns]

namespace Document

/-- Entries of a status are those of final results of that status. -/
theorem exists_placed_iff (reporter : Reporter) (status : Status) :
    (∃ placed ∈ ReportGroup.placed (ofReporter reporter).groups, placed.2.status = status) ↔
      ∃ result ∈ reporter.results, result.retry = false ∧ result.status = status := by
  have arranges : ReportGroup.Arranges (ofReporter reporter).groups
      (reporter.final.map CheckResult.placed) := ReportGroup.arranges_iff.mpr rfl
  rw [arranges.placed_eq]
  simp [Reporter.final, CheckResult.placed, ReportEntry.ofResult, and_assoc]

/-- The structured report arranges the final results of a reporter, whatever results it was told, in
the only way in which every one is shown once, in order and under the name of its category, no group
is empty and no two neighbours have the same name. It is a success if no entry is an error, and it
has a warning if an entry is one. -/
theorem ofReporter_arranges (reporter : Reporter) :
    (∀ groups : List ReportGroup, groups = (ofReporter reporter).groups ↔
      List.Forall₂ CheckResult.ShownAs (reporter.results.filter fun result => !result.retry)
          (ReportGroup.placed groups) ∧
        (∀ group ∈ groups, group.entries ≠ []) ∧
          (groups.map (·.category)).IsChain (· ≠ ·)) ∧
      ((ofReporter reporter).verdict.success = true ↔
        ∀ placed ∈ ReportGroup.placed (ofReporter reporter).groups, placed.2.status ≠ .error) ∧
        ((ofReporter reporter).verdict.warning = true ↔
          ∃ placed ∈ ReportGroup.placed (ofReporter reporter).groups,
            placed.2.status = .warning) := by
  obtain ⟨failed, warned⟩ : (ofReporter reporter).verdict.Counts reporter.results :=
    reporter.verdict_counts
  refine ⟨?_, ?_, ?_⟩
  · intro groups
    rw [CheckResult.forall₂_shownAs_iff]
    constructor
    · intro same
      obtain ⟨held, filled, apart⟩ := ReportGroup.arranges_iff.mpr same
      exact ⟨held, filled, apart⟩
    · rintro ⟨held, filled, apart⟩
      exact ReportGroup.arranges_iff.mp ⟨held, filled, apart⟩
  · have erroneous : (ofReporter reporter).verdict.success = false ↔
        ∃ placed ∈ ReportGroup.placed (ofReporter reporter).groups, placed.2.status = .error := by
      rw [failed, exists_placed_iff]
      simp only [CheckResult.countsAs, CheckResult.status_eq_error_iff]
    rw [← not_iff_not, Bool.not_eq_true, erroneous]
    simp only [ne_eq, not_forall, not_not, exists_prop]
  · rw [warned, exists_placed_iff]
    simp only [CheckResult.countsAs, CheckResult.status_eq_warning_iff]

end Document

end Checkup
