import Checkup.Suite.Catalogue

/-!
# References to suites

A suite is named by a module and a name that the module exports, with a colon between them. The name
must give a list of categories, or a builder of one.
-/

namespace Checkup

structure SuiteReference where
  moduleName : String
  exportName : String
deriving DecidableEq, Repr

namespace SuiteReference

def unusable (reason : String) : Fault := .unusable "suite" reason

/-- Splits a reference at its first colon. Neither part may be empty. -/
def read (path : String) : Except Fault SuiteReference :=
  let chars := path.toList
  let moduleName := chars.takeWhile (· != ':')
  let exportName := (chars.dropWhile (· != ':')).drop 1
  if moduleName.isEmpty || exportName.isEmpty then
    .error (unusable ("expected 'module:attribute', got " ++ Text.quoted path))
  else .ok ⟨String.ofList moduleName, String.ofList exportName⟩

/-- Loads the module of a reference. A module that cannot be found or loaded makes the suite
unusable; other faults go on. -/
def loadModule (reference : SuiteReference) (catalogue : Catalogue) : Module :=
  match catalogue.load reference.moduleName with
  | .ok exports => .ok exports
  | .error fault =>
    if fault.isA .unloadable then
      .error (unusable ("cannot import " ++ reference.moduleName ++ ": " ++ fault.message))
    else .error fault

def ownName : String := "__name__"

def find (reference : SuiteReference) (exports : List (String × Export)) :
    Except Fault Export :=
  match Keyed.get? exports reference.exportName with
  | some found => .ok found
  | none =>
    if reference.exportName == ownName then .ok (.value (.plain (.text reference.moduleName)))
    else .error (unusable (reference.moduleName ++ " has no attribute " ++ reference.exportName))

/-- Takes categories, and refuses everything else. -/
def onlyCategories (path : String) : List SuiteItem → Except Fault (List Category)
  | [] => .ok []
  | .category category :: rest => do
    let more ← onlyCategories path rest
    .ok (category :: more)
  | item :: _ => .error (unusable (path ++ " produced " ++ item.kind ++ ", expected Category"))

/-- The offered value that a path leads to. -/
def resolve (catalogue : Catalogue) (path : String) : Except Fault Offered := do
  let reference ← read path
  let exports ← reference.loadModule catalogue
  let found ← reference.find exports
  found.offered

/-- Loads the categories that a path leads to. -/
def load (catalogue : Catalogue) (path : String) : Action (List Category) := do
  let offered ← Action.lift (resolve catalogue path)
  match ← offered.take? with
  | none =>
    Action.raise
      (unusable (path ++ " produced " ++ offered.kind ++ ", expected a list of Category"))
  | some items => do
    let categories ← Action.lift (onlyCategories path items)
    Action.log .debug "suite_loaded"
      [("suite", .text path), ("categories", .list (categories.map fun c => .text c.id))]
    pure categories

end SuiteReference

end Checkup
