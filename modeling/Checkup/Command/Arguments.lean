import Checkup.Number.Reading

/-!
# Command lines

A command line is a list of arguments. Options have a long name after two dashes and may have a short
one after a single dash. An option that takes a value finds it after an equals sign, in the rest of a
cluster of short options, or in the next argument, whatever that looks like. Two dashes alone end the
options.
-/

namespace Checkup.Command

structure OptionSpec (Key : Type) where
  key : Key
  long : String
  short : Option Char := none
  takesValue : Bool := true

/-- An option that was found, with its value if it takes one. -/
structure Given (Key : Type) where
  key : Key
  value : Option String := none
deriving Repr

/-- The options that were found, and the other arguments. -/
structure Parsed (Key : Type) where
  given : List (Given Key) := []
  others : List String := []

/-- Options that were found in one argument; the last one may still need a value. -/
structure Found (Key : Type) where
  given : List (Given Key) := []
  needsValue : Option Key := none

/-- Reads an argument that starts with two dashes. -/
def readLong? (specs : List (OptionSpec Key)) (chars : List Char) : Option (Found Key) :=
  let name := chars.takeWhile (· != '=')
  match specs.find? (·.long == String.ofList name) with
  | none => none
  | some spec =>
    match chars.dropWhile (· != '=') with
    | [] =>
      some (if spec.takesValue then { needsValue := some spec.key }
        else { given := [{ key := spec.key }] })
    | _ :: value =>
      if spec.takesValue then
        some { given := [{ key := spec.key, value := some (String.ofList value) }] }
      else none

/-- Reads a cluster of short options. The first one that takes a value takes the rest. -/
def readCluster? (specs : List (OptionSpec Key)) : List Char → Option (Found Key)
  | [] => some {}
  | c :: rest =>
    match specs.find? (·.short == some c) with
    | none => none
    | some spec =>
      if spec.takesValue then
        some (if rest.isEmpty then { needsValue := some spec.key }
          else { given := [{ key := spec.key, value := some (String.ofList rest) }] })
      else
        (readCluster? specs rest).map fun found =>
          { found with given := { key := spec.key } :: found.given }

/-- Reads an argument as options. -/
def readOptions? (specs : List (OptionSpec Key)) (arg : String) : Option (Found Key) :=
  match arg.toList with
  | '-' :: '-' :: rest => readLong? specs ('-' :: '-' :: rest)
  | _ :: rest => readCluster? specs rest
  | [] => none

/-- An argument is read as options if it is more than a dash. -/
def looksLikeOption (arg : String) : Bool :=
  match arg.toList with
  | '-' :: _ :: _ => true
  | _ => false

namespace Parsed

def prependGiven (given : List (Given Key)) (parsed : Parsed Key) : Parsed Key :=
  { parsed with given := given ++ parsed.given }

def prependOther (arg : String) (parsed : Parsed Key) : Parsed Key :=
  { parsed with others := arg :: parsed.others }

end Parsed

/-- Reads a command line. With `mixed`, options may follow other arguments; without it, the first
other argument ends the options. Nothing is given for an unknown option, a missing value, or a value
that an option does not take. -/
def parse? (specs : List (OptionSpec Key)) (mixed : Bool) : List String → Option (Parsed Key)
  | [] => some {}
  | arg :: rest =>
    if arg == "--" then some { others := rest }
    else if looksLikeOption arg then
      match readOptions? specs arg with
      | none => none
      | some found =>
        match found.needsValue, rest with
        | none, rest => (parse? specs mixed rest).map (·.prependGiven found.given)
        | some _, [] => none
        | some key, value :: later =>
          (parse? specs mixed later).map
            (·.prependGiven (found.given ++ [{ key, value := some value }]))
    else if mixed then (parse? specs mixed rest).map (·.prependOther arg)
    else some { others := arg :: rest }

def Parsed.values [BEq Key] (parsed : Parsed Key) (key : Key) : List String :=
  parsed.given.filterMap fun given => if given.key == key then given.value else none

/-- The last value of an option. -/
def Parsed.value? [BEq Key] (parsed : Parsed Key) (key : Key) : Option String :=
  (parsed.values key).getLast?

def Parsed.has [BEq Key] (parsed : Parsed Key) (key : Key) : Bool :=
  parsed.given.any (·.key == key)

/-- The last value of an option as a double; nothing if the value cannot be read. -/
def Parsed.real? [BEq Key] (parsed : Parsed Key) (key : Key) : Option (Option Float) :=
  match parsed.value? key with
  | none => some none
  | some s => (Number.readReal? Text.digit? s.toList).map some

end Checkup.Command
