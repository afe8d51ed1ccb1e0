import Checkup.Suite.Reference

/-!
# Loading suites

A path leads to categories if its module offers a list of nothing but them, or a builder of one.
Main statement: a path is loaded exactly if it leads to categories, and loads these; where it is not
loaded, the suite is told to be unusable, unless the module or the builder ends in a fault that
nobody expects.
-/

namespace Checkup

theorem Offered.exists_take?_eq (offered : Offered) (session : Session) :
    ∃ items asked, offered.take? session = (.ok items, { session with asked }) := by
  cases offered with
  | items | category | plain | object => exact ⟨_, session.asked, rfl⟩
  | stream number listed => exact ⟨_, _, rfl⟩

/-- What can be taken does not depend on the log. -/
theorem Offered.take?_logged (offered : Offered) (session : Session) (desk : Log.Desk) :
    (offered.take? { session with desk }).1 = (offered.take? session).1 := by
  cases offered <;> rfl

namespace SuiteReference

def Refuses (fault : Fault) : Prop :=
  ∃ reason, fault = unusable reason

theorem Refuses.isConfiguration {fault : Fault} (refuses : Refuses fault) :
    fault.isConfiguration = true := by
  obtain ⟨reason, rfl⟩ := refuses
  rfl

/-- A path names a module and something in it, which gives an offered value. -/
structure Finds (catalogue : Catalogue) (path : String) (reference : SuiteReference)
    (exports : List (String × Export)) (found : Export) (offered : Offered) : Prop where
  named : read path = .ok reference
  loaded : catalogue.load reference.moduleName = .ok exports
  exported : reference.find exports = .ok found
  built : found.offered = .ok offered

/-- A path leads to a list of categories and nothing else. What can be taken only once must not have
been taken before. -/
def LeadsTo (catalogue : Catalogue) (session : Session) (path : String)
    (categories : List Category) : Prop :=
  ∃ reference exports found offered, Finds catalogue path reference exports found offered ∧
    (offered.take? session).1 = .ok (some (categories.map .category))

/-- A fault on the way to a suite that nobody expects: one of a module that is not about loading
it, or one of a builder. -/
inductive Stumbles (catalogue : Catalogue) (path : String) (fault : Fault) : Prop where
  | module {reference : SuiteReference} (named : read path = .ok reference)
      (broken : catalogue.load reference.moduleName = .error fault)
      (strange : fault.isA .unloadable = false)
  | builder {reference : SuiteReference} {exports : List (String × Export)}
      (named : read path = .ok reference)
      (loaded : catalogue.load reference.moduleName = .ok exports)
      (exported : reference.find exports = .ok (.builder (.error fault)))

theorem LeadsTo.logged {catalogue : Catalogue} {session : Session} {path : String}
    {categories : List Category} (leads : LeadsTo catalogue session path categories)
    (desk : Log.Desk) : LeadsTo catalogue { session with desk } path categories := by
  obtain ⟨reference, exports, found, offered, finds, taken⟩ := leads
  exact ⟨reference, exports, found, offered, finds, (offered.take?_logged session desk).trans taken⟩

theorem loadModule_eq_ok {reference : SuiteReference} {catalogue : Catalogue}
    {exports : List (String × Export)} :
    reference.loadModule catalogue = .ok exports ↔
      catalogue.load reference.moduleName = .ok exports := by
  unfold loadModule
  cases catalogue.load reference.moduleName with
  | ok loaded => rfl
  | error fault =>
    dsimp only
    split <;> simp

theorem fault_of_read {path : String} {fault : Fault} (broken : read path = .error fault) :
    Refuses fault := by
  unfold read at broken
  dsimp only at broken
  split at broken
  · cases broken
    exact ⟨_, rfl⟩
  · cases broken

theorem fault_of_find {reference : SuiteReference} {exports : List (String × Export)}
    {fault : Fault} (broken : reference.find exports = .error fault) : Refuses fault := by
  unfold find at broken
  split at broken
  · cases broken
  · split at broken
    · cases broken
    · cases broken
      exact ⟨_, rfl⟩

theorem onlyCategories_eq_ok {path : String} {items : List SuiteItem}
    {categories : List Category} :
    onlyCategories path items = .ok categories ↔ items = categories.map .category := by
  induction items generalizing categories with
  | nil => cases categories <;> simp [onlyCategories]
  | cons item rest inductionHypothesis =>
    cases item with
    | value | object => cases categories <;> simp [onlyCategories]
    | category loaded =>
      rw [onlyCategories, bind_eq_ok]
      cases categories with
      | nil => simp
      | cons => simpa [inductionHypothesis] using and_comm

theorem fault_of_onlyCategories {path : String} {items : List SuiteItem} {fault : Fault}
    (broken : onlyCategories path items = .error fault) : Refuses fault := by
  -- The items after a category are looked through before it is put in front of them.
  induction items with
  | nil => cases broken
  | cons item rest inductionHypothesis =>
    cases item with
    | value | object =>
      cases broken
      exact ⟨_, rfl⟩
    | category loaded =>
      rw [onlyCategories, bind_eq_error] at broken
      rcases broken with later | ⟨_, _, joined⟩
      · exact inductionHypothesis later
      · cases joined

theorem resolve_eq_ok {catalogue : Catalogue} {path : String} {offered : Offered} :
    resolve catalogue path = .ok offered ↔
      ∃ reference exports found, Finds catalogue path reference exports found offered := by
  simp only [resolve, bind_eq_ok, loadModule_eq_ok]
  constructor
  · rintro ⟨reference, named, exports, loaded, found, exported, built⟩
    exact ⟨reference, exports, found, named, loaded, exported, built⟩
  · rintro ⟨reference, exports, found, named, loaded, exported, built⟩
    exact ⟨reference, named, exports, loaded, found, exported, built⟩

theorem fault_of_resolve {catalogue : Catalogue} {path : String} {fault : Fault}
    (broken : resolve catalogue path = .error fault) :
    Refuses fault ∨ Stumbles catalogue path fault := by
  rw [resolve, bind_eq_error] at broken
  rcases broken with unread | ⟨reference, named, broken⟩
  · exact .inl (fault_of_read unread)
  rw [bind_eq_error] at broken
  rcases broken with unloaded | ⟨exports, loaded, broken⟩
  · cases loading : catalogue.load reference.moduleName with
    | ok exports => simp [loadModule_eq_ok.mpr loading] at unloaded
    | error raised =>
      rw [loadModule, loading] at unloaded
      by_cases expected : raised.isA .unloadable = true
      · simp only [expected, if_true, Except.error.injEq] at unloaded
        subst unloaded
        exact .inl ⟨_, rfl⟩
      · simp only [expected, if_false, Except.error.injEq, Bool.false_eq_true] at unloaded
        subst unloaded
        exact .inr (.module named loading (Bool.eq_false_iff.mpr expected))
  rw [loadModule_eq_ok] at loaded
  rw [bind_eq_error] at broken
  rcases broken with unfound | ⟨found, exported, built⟩
  · exact .inl (fault_of_find unfound)
  · cases found with
    | value offered => cases built
    | builder build =>
      have raised : build = .error fault := built
      subst raised
      exact .inr (.builder named loaded exported)

theorem exists_load_eq {catalogue : Catalogue} {session : Session} {path : String}
    {categories : List Category} (leads : LeadsTo catalogue session path categories) :
    ∃ desk asked, load catalogue path session = (.ok categories, { session with desk, asked }) := by
  obtain ⟨reference, exports, found, offered, finds, taken⟩ := leads
  have resolved := resolve_eq_ok.mpr ⟨reference, exports, found, finds⟩
  obtain ⟨items, asked, takes⟩ := offered.exists_take?_eq session
  rw [takes] at taken
  obtain rfl := Except.ok.inj taken
  have only : onlyCategories path (categories.map .category) = .ok categories :=
    onlyCategories_eq_ok.mpr rfl
  simp only [load, bind, Action.lift, resolved, takes, only]
  exact ⟨_, asked, rfl⟩

theorem leadsTo_of_load {catalogue : Catalogue} {session after : Session} {path : String}
    {categories : List Category} (loaded : load catalogue path session = (.ok categories, after)) :
    LeadsTo catalogue session path categories := by
  rw [load, Action.bind_eq_ok] at loaded
  obtain ⟨offered, resolving, resolved, loaded⟩ := loaded
  obtain ⟨resolves, rfl⟩ := Prod.mk.inj resolved
  obtain ⟨reference, exports, found, finds⟩ := resolve_eq_ok.mp resolves
  refine ⟨reference, exports, found, offered, finds, ?_⟩
  obtain ⟨items, asked, takes⟩ := offered.exists_take?_eq session
  rw [Action.bind_of_ok takes] at loaded
  rw [takes]
  cases items with
  | none => cases loaded
  | some items =>
    rw [Action.bind_eq_ok] at loaded
    obtain ⟨listed, _, only, logged⟩ := loaded
    obtain ⟨onlyThese, rfl⟩ := Prod.mk.inj only
    cases logged
    rw [onlyCategories_eq_ok.mp onlyThese]

/-- A path that is not loaded is told to be unusable, or a fault was met that nobody expects; only
what was taken on the way is counted. -/
theorem fault_of_load {catalogue : Catalogue} {session after : Session} {path : String}
    {fault : Fault} (broken : load catalogue path session = (.error fault, after)) :
    (Refuses fault ∨ Stumbles catalogue path fault) ∧ ∃ asked, after = { session with asked } := by
  rw [load, Action.bind_eq_error] at broken
  rcases broken with unresolved | ⟨offered, resolving, resolved, broken⟩
  · obtain ⟨raised, rfl⟩ := Prod.mk.inj unresolved
    exact ⟨fault_of_resolve raised, session.asked, rfl⟩
  obtain ⟨_, rfl⟩ := Prod.mk.inj resolved
  obtain ⟨items, asked, takes⟩ := offered.exists_take?_eq session
  rw [Action.bind_of_ok takes] at broken
  cases items with
  | none =>
    cases broken
    exact ⟨.inl ⟨_, rfl⟩, asked, rfl⟩
  | some items =>
    rw [Action.bind_eq_error] at broken
    rcases broken with other | ⟨listed, _, _, logged⟩
    · obtain ⟨raised, rfl⟩ := Prod.mk.inj other
      exact ⟨.inl (fault_of_onlyCategories raised), asked, rfl⟩
    · cases logged

/-- A path consists of the names of a module and of something in it, with its first colon between
them. -/
structure Joins (path : String) (reference : SuiteReference) : Prop where
  joined : path.toList = reference.moduleName.toList ++ ':' :: reference.exportName.toList
  first : ':' ∉ reference.moduleName.toList
  moduleNamed : reference.moduleName ≠ ""
  exportNamed : reference.exportName ≠ ""

theorem joins_of_read {path : String} {reference : SuiteReference}
    (named : read path = .ok reference) : Joins path reference := by
  have whole : path.toList.takeWhile (· != ':') ++ path.toList.dropWhile (· != ':') = path.toList :=
    List.takeWhile_append_dropWhile
  have before := List.all_eq_true.mp (List.all_takeWhile (p := (· != ':')) (l := path.toList))
  have stop := List.head?_dropWhile_not (· != ':') path.toList
  unfold read at named
  dsimp only at named
  split at named
  · cases named
  · next filled =>
    cases named
    simp only [Bool.or_eq_true, List.isEmpty_iff, not_or] at filled
    cases rest : path.toList.dropWhile (· != ':') with
    | nil => simp [rest] at filled
    | cons mark behind =>
      rw [rest] at whole stop filled
      obtain rfl : mark = ':' := by simpa using stop
      refine ⟨by simpa using whole.symm, ?_, ?_, ?_⟩
      · intro member
        simpa using before ':' (by simpa using member)
      · simpa [← String.toList_eq_nil_iff] using filled.1
      · simpa [← String.toList_eq_nil_iff] using filled.2

theorem Joins.read_eq {path : String} {reference : SuiteReference}
    (joins : Joins path reference) : read path = .ok reference := by
  have before : ∀ c ∈ reference.moduleName.toList, (c != ':') = true := by
    intro c member
    exact bne_iff_ne.mpr fun same => joins.first (same ▸ member)
  have moduleNamed : reference.moduleName.toList ≠ [] := by
    simpa [String.toList_eq_nil_iff] using joins.moduleNamed
  have exportNamed : reference.exportName.toList ≠ [] := by
    simpa [String.toList_eq_nil_iff] using joins.exportNamed
  unfold read
  dsimp only
  rw [joins.joined, List.takeWhile_append_of_pos before, List.dropWhile_append_of_pos before]
  simp [moduleNamed, exportNamed]

theorem read_eq_ok_iff {path : String} {reference : SuiteReference} :
    read path = .ok reference ↔ Joins path reference :=
  ⟨joins_of_read, Joins.read_eq⟩

/-- A path that stumbles ends in the fault that it stumbles over. -/
theorem Stumbles.load_eq {catalogue : Catalogue} {session : Session} {path : String} {fault : Fault}
    (stumbles : Stumbles catalogue path fault) :
    load catalogue path session = (.error fault, session) := by
  have resolved : resolve catalogue path = .error fault := by
    cases stumbles with
    | @module reference named broken strange =>
      have unloaded : reference.loadModule catalogue = .error fault := by
        simp [loadModule, broken, strange]
      exact bind_eq_error.mpr (.inr ⟨reference, named, bind_eq_error.mpr (.inl unloaded)⟩)
    | @builder reference exports named loaded exported =>
      have built : (reference.find exports >>= Export.offered) = .error fault :=
        bind_eq_error.mpr (.inr ⟨_, exported, rfl⟩)
      refine bind_eq_error.mpr (.inr ⟨reference, named, ?_⟩)
      exact bind_eq_error.mpr (.inr ⟨exports, loadModule_eq_ok.mpr loaded, built⟩)
  have lifted : Action.lift (resolve catalogue path) session = (.error fault, session) :=
    congrArg (·, session) resolved
  rw [load, Action.bind_of_error lifted]

/-- A path is loaded exactly if it leads to categories and nothing else, and then these are loaded,
in their order; it names a module and something in it on both sides of its first colon. A path that
is not loaded is refused as a suite, or else ends in a fault of its module or of its builder; it
always does if there is one. -/
theorem load_faithful (catalogue : Catalogue) (session : Session) (path : String) :
    (∀ categories, (load catalogue path session).1 = .ok categories ↔
        LeadsTo catalogue session path categories) ∧
      (∀ categories, (load catalogue path session).1 = .ok categories →
        ∃ reference, Joins path reference) ∧
      (∀ fault, (load catalogue path session).1 = .error fault →
        Refuses fault ∨ Stumbles catalogue path fault) ∧
      ∀ fault, Stumbles catalogue path fault →
        (load catalogue path session).1 = .error fault := by
  have loads : ∀ categories, (load catalogue path session).1 = .ok categories ↔
      LeadsTo catalogue session path categories := by
    intro categories
    constructor
    · intro loaded
      exact leadsTo_of_load (Prod.ext loaded rfl)
    · intro leads
      obtain ⟨desk, asked, loaded⟩ := exists_load_eq leads
      rw [loaded]
  refine ⟨loads, ?_, ?_, fun fault stumbles => congrArg Prod.fst stumbles.load_eq⟩
  · intro categories loaded
    obtain ⟨reference, exports, found, offered, finds, taken⟩ := (loads categories).mp loaded
    exact ⟨reference, read_eq_ok_iff.mp finds.named⟩
  · intro fault broken
    exact (fault_of_load (Prod.ext broken rfl)).1

def lathes : Category :=
  { id := "lathes", scope := 0 }

/-- A catalogue of one module, which offers a list of one category and a builder that needs an
argument. -/
def workshop : Catalogue :=
  [("workshop", .ok
    [("LISTED", .value (.items [.category lathes])), ("build", .needingArgument)])]

def withoutArgument : Fault :=
  .badType "build() missing 1 required positional argument: 'settings'"

theorem workshop_stumbles : Stumbles workshop "workshop:build" withoutArgument := by
  have joins : Joins "workshop:build" ⟨"workshop", "build"⟩ :=
    ⟨rfl, by decide, by decide, by decide⟩
  exact .builder joins.read_eq rfl rfl

/-- The list is loaded, and the builder ends in its fault. -/
theorem workshop_faithful :
    (load workshop "workshop:LISTED" {}).1 = .ok [lathes] ∧
      (load workshop "workshop:build" {}).1 = .error withoutArgument := by
  refine ⟨?_, ?_⟩
  · have joins : Joins "workshop:LISTED" ⟨"workshop", "LISTED"⟩ :=
      ⟨rfl, by decide, by decide, by decide⟩
    apply ((load_faithful workshop {} "workshop:LISTED").1 [lathes]).mpr
    exact ⟨_, _, _, .items [.category lathes], ⟨joins.read_eq, rfl, rfl, rfl⟩, rfl⟩
  · exact (load_faithful workshop {} "workshop:build").2.2.2 _ workshop_stumbles

/-- A name that is relative to nothing and a builder that needs an argument are not refused. -/
theorem workshop_escapes :
    (∃ fault, (load workshop ".workshop:build" {}).1 = .error fault ∧ ¬Refuses fault) ∧
      ∃ fault, (load workshop "workshop:build" {}).1 = .error fault ∧ ¬Refuses fault := by
  have relative : Stumbles workshop ".workshop:build" (.badType
      ("the 'package' argument is required to perform a relative import for " ++
        Text.quoted ".workshop")) := by
    have joins : Joins ".workshop:build" ⟨".workshop", "build"⟩ :=
      ⟨rfl, by decide, by decide, by decide⟩
    exact .module joins.read_eq rfl rfl
  have strange : ∀ message, ¬Refuses (.badType message) := by
    rintro message ⟨reason, same⟩
    cases same
  exact ⟨⟨_, congrArg Prod.fst relative.load_eq, strange _⟩,
    ⟨_, congrArg Prod.fst workshop_stumbles.load_eq, strange _⟩⟩

end SuiteReference

end Checkup
