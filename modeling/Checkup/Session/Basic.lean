import Checkup.Clockwork
import Checkup.Configuration
import Checkup.Host
import Checkup.Log.Desk
import Checkup.Scope.Tree
import Checkup.Session.Journal
import Checkup.Store

/-!
# Sessions

A session is everything that checks can see and change: the clock with its timers, the scopes, the
shared store, the log, and the configuration that engines start from. An action is a step of a session that
may end in a fault; what it has changed by then stays changed.
-/

namespace Checkup

/-- Cancels the scope of a name at an instant of the clock. -/
structure Timer where
  due : Int
  scope : String
deriving DecidableEq, Repr

/-- Something that answers differently from one time to the next. -/
inductive Source where
  | resolve (host : String)
  | connect (address : String)
  | request (url : String)
  | freeSpace (path : String)
  | script (number : Nat)
  | pause
deriving DecidableEq, Repr

/-- What checks can see and change. -/
structure Session where
  /-- The microseconds of the clock. -/
  micros : Int := 0
  /-- The timers that have not fired, by the instant at which they are due. -/
  timers : List Timer := []
  scopes : Scopes := {}
  /-- The scopes that have names. -/
  names : List (String × ScopeId) := []
  store : Store := {}
  host : Host := {}
  clockwork : Clockwork := {}
  /-- How often each source has been asked. -/
  asked : List (Source × Nat) := []
  /-- The entries of the journal, the newest first. -/
  journal : List Entry := []
  desk : Log.Desk := {}
  /-- The configuration of engines that are given none, once it is known. -/
  configuration : Option Configuration := none
  /-- How many scripts have been numbered. -/
  scripts : Nat := 0
deriving Inhabited

def Session.logged (session : Session) (severity : Log.Severity) (name : String)
    (fields : List (String × Value)) : Session :=
  { session with desk := session.desk.emit { severity, name, fields } }

/-- A step of a session that gives a value or ends in a fault. -/
def Action (α : Type) : Type := Session → Except Fault α × Session

namespace Action

instance : Monad Action where
  pure value := fun session => (.ok value, session)
  bind first next := fun session =>
    match first session with
    | (.ok value, session) => next value session
    | (.error fault, session) => (.error fault, session)

@[simp] theorem pure_apply (value : α) (session : Session) :
    (pure value : Action α) session = (.ok value, session) := rfl

/-- A step after a step that gave a value. -/
theorem bind_of_ok {first : Action α} {next : α → Action β} {session after : Session} {value : α}
    (h : first session = (.ok value, after)) : (first >>= next) session = next value after := by
  simp only [bind, h]

/-- A step after a step that ended in a fault is not taken. -/
theorem bind_of_error {first : Action α} {next : α → Action β} {session after : Session}
    {fault : Fault} (h : first session = (.error fault, after)) :
    (first >>= next) session = (.error fault, after) := by
  simp only [bind, h]

/-- Two steps give a value if both do. -/
theorem bind_eq_ok {first : Action α} {next : α → Action β} {session after : Session} {result : β} :
    (first >>= next) session = (.ok result, after) ↔
      ∃ value between, first session = (.ok value, between) ∧
        next value between = (.ok result, after) := by
  rcases taken : first session with ⟨fault | value, between⟩
  · simp [bind_of_error taken]
  · simp [bind_of_ok taken, and_assoc]

/-- Two steps end in the fault of the first one, or else in that of the second. -/
theorem bind_eq_error {first : Action α} {next : α → Action β} {session after : Session}
    {fault : Fault} :
    (first >>= next) session = (.error fault, after) ↔
      first session = (.error fault, after) ∨
        ∃ value between, first session = (.ok value, between) ∧
          next value between = (.error fault, after) := by
  rcases taken : first session with ⟨raised | value, between⟩
  · simp [bind_of_error taken]
  · simp [bind_of_ok taken, and_assoc]

instance : LawfulMonad Action :=
  LawfulMonad.mk' Action
    (fun action => by
      funext session
      show (match action session with
        | (.ok value, session) => (.ok value, session)
        | (.error fault, session) => (.error fault, session)) = action session
      rcases action session with ⟨_ | _, _⟩ <;> rfl)
    (fun _ _ => rfl)
    (fun action _ _ => by
      funext session
      simp only [bind]
      rcases action session with ⟨_ | _, _⟩ <;> rfl)

def raise (fault : Fault) : Action α := fun session => (.error fault, session)

def lift (answer : Except Fault α) : Action α := fun session => (answer, session)

def look (view : Session → α) : Action α := fun session => (.ok (view session), session)

def change (update : Session → Session) : Action Unit := fun session => (.ok (), update session)

/-- Takes a step and gives its fault, if it ended in one, as a value. -/
def settle (action : Action α) : Action (Except Fault α) := fun session =>
  let (answer, session) := action session
  (.ok answer, session)

def note (entry : Entry) : Action Unit :=
  change fun session => { session with journal := entry :: session.journal }

def log (severity : Log.Severity) (name : String) (fields : List (String × Value)) : Action Unit :=
  change (·.logged severity name fields)

def fetch (key : String) : Action (Option Value) :=
  look fun session => session.store.get? key

def record (key : String) (value : Value) : Action Unit :=
  change fun session => { session with store := session.store.set key value }

def numberScript : Action Nat := fun session =>
  (.ok session.scripts, { session with scripts := session.scripts + 1 })

end Action

namespace Session

def timesAsked (session : Session) (source : Source) : Nat :=
  ((session.asked.find? (·.1 == source)).map (·.2)).getD 0

def countAsked (session : Session) (source : Source) : Session :=
  let asked := session.asked.filter (·.1 != source)
  { session with asked := (source, session.timesAsked source + 1) :: asked }

def named? (session : Session) (name : String) : Option ScopeId :=
  Keyed.get? session.names name

def setName (session : Session) (name : String) (id : ScopeId) : Session :=
  { session with names := Keyed.set name id session.names }

end Session

namespace Action

/-- Asks a source: gives how often it has been asked before, and counts the question. -/
def ordinal (source : Source) : Action Nat := fun session =>
  (.ok (session.timesAsked source), session.countAsked source)

end Action

end Checkup
