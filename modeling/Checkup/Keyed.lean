/-!
# Named entries

A list of pairs of a name and a value, in the order in which the names were first set. Main
statements: a name that was just set has the value it was set to, and all other names keep theirs.
-/

namespace Checkup.Keyed

def get? (entries : List (String × α)) (key : String) : Option α :=
  (entries.find? (·.1 == key)).map (·.2)

def contains (entries : List (String × α)) (key : String) : Bool :=
  entries.any (·.1 == key)

/-- Sets the value of a name. A name that is not there is added at the end. -/
def set (key : String) (value : α) : List (String × α) → List (String × α)
  | [] => [(key, value)]
  | (name, old) :: rest =>
    if name == key then (name, value) :: rest else (name, old) :: set key value rest

def setAll (added entries : List (String × α)) : List (String × α) :=
  added.foldl (fun entries entry => set entry.1 entry.2 entries) entries

/-- A name that was just set has the value it was set to. -/
@[simp] theorem get?_set_self (entries : List (String × α)) (key : String) (value : α) :
    get? (set key value entries) key = some value := by
  induction entries with
  | nil => simp [set, get?]
  | cons entry rest inductionHypothesis =>
    obtain ⟨name, old⟩ := entry
    by_cases same : name = key
    · simp [set, get?, same]
    · simpa [set, get?, same] using inductionHypothesis

/-- Setting a name leaves the values of the other names. -/
theorem get?_set_of_ne (entries : List (String × α)) {key other : String} (value : α)
    (different : other ≠ key) : get? (set key value entries) other = get? entries other := by
  induction entries with
  | nil => simp [set, get?, Ne.symm different]
  | cons entry rest inductionHypothesis =>
    obtain ⟨name, old⟩ := entry
    by_cases same : name = key
    · subst same
      simp [set, get?, Ne.symm different]
    · by_cases found : name = other
      · subst found
        simp [set, get?, same]
      · simpa [set, get?, same, found] using inductionHypothesis

end Checkup.Keyed
