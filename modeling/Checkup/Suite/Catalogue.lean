import Checkup.Checker

/-!
# Catalogues of modules

A catalogue holds the modules that suites can be taken from. A module offers values and builders
under names. A name with points stands for a module inside other ones; plain modules have none
inside.
-/

namespace Checkup

/-- Something in a list that a module offers. -/
inductive SuiteItem where
  | category (loaded : Category)
  | value (other : Value)
  /-- Something that is neither, of a named kind. -/
  | object (kind : String)
deriving Inhabited

def SuiteItem.kind : SuiteItem → String
  | category _ => "Category"
  | value other => other.kind
  | object kind => kind

inductive Offered where
  | items (listed : List SuiteItem)
  /-- Items that can be taken only once; the number tells apart different ones. -/
  | stream (number : Nat) (listed : List SuiteItem)
  | category (loaded : Category)
  | plain (other : Value)
  /-- Something of a named kind whose items cannot be taken, because it has none or because taking
  them meets something of a wrong type. -/
  | object (kind : String)
deriving Inhabited

namespace Offered

def kind : Offered → String
  | items _ => "list"
  | stream _ _ => "generator"
  | category _ => "Category"
  | plain other => other.kind
  | object kind => kind

/-- The items of a plain value: the characters of a text, the items of a list, the names of a
record. -/
def itemsOfPlain? : Value → Option (List SuiteItem)
  | .text s => some (s.toList.map fun c => .value (.text (String.ofList [c])))
  | .list values => some (values.map .value)
  | .record fields => some (fields.map fun field => .value (.text field.1))
  | _ => none

/-- Takes the items of an offered value, if it has any. -/
def take? : Offered → Action (Option (List SuiteItem))
  | items listed => pure (some listed)
  | stream number listed => do
    let before ← Action.ordinal (.script number)
    pure (some (if before = 0 then listed else []))
  | category _ => pure none
  | plain other => pure (itemsOfPlain? other)
  | object _ => pure none

end Offered

/-- What stands under a name of a module. -/
inductive Export where
  | value (offered : Offered)
  /-- A function without arguments. Something whose items cannot be taken for another reason than a
  wrong type counts as a builder that ends in the same fault. -/
  | builder (build : Except Fault Offered)
deriving Inhabited

/-- What an exported name gives: the value itself, or what its builder gives. -/
def Export.offered : Export → Except Fault Offered
  | value offered => .ok offered
  | builder build => build

/-- A builder that needs an argument and cannot be called without one. -/
def Export.needingArgument : Export :=
  builder (.error (.badType "build() missing 1 required positional argument: 'settings'"))

/-- A module: the names that it exports, or the fault that loading it ends in. -/
abbrev Module := Except Fault (List (String × Export))

abbrev Catalogue := List (String × Module)

namespace Catalogue

def missing (explanation : String) : Fault :=
  .foreign "ModuleNotFoundError" [.text explanation]

/-- The name of a module from its parts, the last one first. -/
def nameOf (reversed : List (List Char)) : String :=
  String.ofList (List.intercalate ['.'] reversed.reverse)

/-- Loads the module of a name that is given by its parts, the last one first. The module around it
is loaded before. -/
def loadParts (catalogue : Catalogue) : List (List Char) → Module
  | [] => .error (missing "No module named ''")
  | part :: around =>
    let name := nameOf (part :: around)
    match Keyed.get? catalogue name with
    | some found => found
    | none =>
      match around with
      | [] => .error (missing ("No module named " ++ Text.quoted name))
      | _ :: _ =>
        match loadParts catalogue around with
        | .error fault => .error fault
        | .ok _ => .error (missing ("No module named " ++ Text.quoted name ++ "; " ++
            Text.quoted (nameOf around) ++ " is not a package"))

/-- Loads a module. A name that starts with a point is relative to nothing. -/
def load (catalogue : Catalogue) (name : String) : Module :=
  if name.toList.head? = some '.' then
    .error (.badType ("the 'package' argument is required to perform a relative import for " ++
      Text.quoted name))
  else loadParts catalogue (name.toList.splitOn '.').reverse

end Catalogue

end Checkup
