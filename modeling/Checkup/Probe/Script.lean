import Checkup.Engine.Listener

/-!
# Scripted probes

A script lists what a probe does on its first call, on its second call, and so on; the last entry
holds for all later calls. What an attempt has seen is noted in the journal.
-/

namespace Checkup

inductive Act where
  | sleep (seconds : Amount)
  | wait (span : Span)
  | set (key : String) (value : Value)
  | get (key : String) (default : Value)
  | has (key : String)
  | increment (key : String)
  | cancel (scope : String)
  | look

inductive Reaction where
  | give (returned : Returned)
  /-- Fails with the reason why the scope is done. -/
  | giveScopeFault
  | raise (fault : Fault)
deriving Inhabited

/-- One call of a scripted probe. -/
structure ScriptedAttempt where
  acts : List Act := []
  reaction : Reaction := .give (.value .null)
deriving Inhabited

/-- What a sum with 1 is, for a value of the store. -/
def Value.increment : Value → Except Fault Value
  | .int n => .ok (.int (n + 1))
  | .real x => .ok (.real (x + 1))
  | .flag b => .ok (.int (if b then 2 else 1))
  | .text _ => .error (.badType "can only concatenate str (not \"int\") to str")
  | .list _ => .error (.badType "can only concatenate list (not \"int\") to list")
  | other =>
    .error (.badType ("unsupported operand type(s) for +: '" ++ other.kind ++ "' and 'int'"))

/-- The scope that an act names: that of the attempt, or one with a name of its own. -/
def scopeOfAct (scope : ScopeId) (name : String) : Action ScopeId :=
  if name == "attempt" then pure scope else Action.named name

/-- Performs an act and gives what it has seen. -/
def Act.perform (scope : ScopeId) : Act → Action (List Sight)
  | sleep seconds => do
    Action.advance seconds
    pure []
  | wait span => do
    let seconds ← Action.lift (span.toFloat.mapError .ofTime)
    let done ← Action.wait scope seconds
    pure [.value (.flag done)]
  | set key value => do
    Action.record key value
    pure []
  | get key default => do
    let found ← Action.fetch key
    pure [.value (found.getD default)]
  | has key => do
    let known ← Action.look (·.store.contains key)
    pure [.value (.flag known)]
  | increment key => do
    let found ← Action.fetch key
    Action.record key (← Action.lift (found.getD (.int 0)).increment)
    pure []
  | cancel name => do
    Action.cancel (← scopeOfAct scope name)
    pure []
  | look => do
    let view ← Action.look (·.scopeView scope)
    pure [.scope view]

def performAll (scope : ScopeId) : List Act → Action (List Sight)
  | [] => pure []
  | act :: later => do
    let seen ← act.perform scope
    let more ← performAll scope later
    pure (seen ++ more)

def Reaction.take (scope : ScopeId) : Reaction → Action Returned
  | give returned => pure returned
  | giveScopeFault => do
    match ← Action.look (·.scopeFault? scope) with
    | some fault => pure (.outcome (.failure fault))
    | none => pure (.outcome (.failure (.check [.null])))
  | raise fault => Action.raise fault

/-- The probe of a script that counts its calls under a script number. -/
def scriptedProbe (description : String) (script : Nat) (attempts : List ScriptedAttempt) :
    Probe := fun scope => do
  let before ← Action.ordinal (.script script)
  let attempt := (attempts[before]?).getD (attempts.getLastD {})
  let start ← Action.now
  let entry := Entry.probed description (before + 1) start
  match ← Action.settle (performAll scope attempt.acts) with
  | .error fault =>
    Action.note (entry none)
    Action.raise fault
  | .ok seen =>
    Action.note (entry (if seen.isEmpty then none else some seen))
    attempt.reaction.take scope

end Checkup
