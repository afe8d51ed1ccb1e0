import Checkup.Proofs.Probe.Asking
import Checkup.Proofs.Probe.Versions

/-!
# What probes store

Three of the probes that come with the library store what they find out, each under a name of its
own; the others store nothing. Main statements: a probe sets its name exactly when it has found
something out, and the names of different findings are different.
-/

namespace Checkup

namespace Store

@[simp] theorem get?_set_self (store : Store) (key : String) (value : Value) :
    (store.set key value).get? key = some value :=
  Keyed.get?_set_self store.entries key value

theorem get?_set_of_ne (store : Store) {key other : String} (value : Value)
    (different : other ≠ key) : (store.set key value).get? other = store.get? other :=
  Keyed.get?_set_of_ne store.entries value different

theorem contains_eq (store : Store) (key : String) :
    store.contains key = (store.get? key).isSome := by
  rw [contains, get?, Keyed.contains, Keyed.get?, Option.isSome_map, List.isSome_find?]

theorem contains_set_iff (store : Store) (key other : String) (value : Value) :
    (store.set key value).contains other = true ↔ other = key ∨ store.contains other = true := by
  rw [contains_eq, contains_eq]
  by_cases same : other = key
  · simp [same]
  · simp [get?_set_of_ne store value same, same]

end Store

/-- What a probe may find out: the version of the runtime, the addresses of a host, or the content
of a variable of the environment. -/
inductive Topic where
  | version
  | addresses (host : String)
  | content (name : String)
deriving DecidableEq, Repr

def Topic.key : Topic → String
  | version => Machine.versionKey
  | addresses host => Network.addressesKey host
  | content name => Machine.environmentKey name

/-- Findings have different names, whatever hosts and variables are called. -/
theorem Topic.key_injective : Function.Injective Topic.key := by
  intro topic other same
  rw [← String.toList_inj] at same
  -- The names start differently, and those of one kind are told apart by what follows.
  cases topic <;> cases other <;>
    simp [key, Machine.versionKey, Network.addressesKey, Machine.environmentKey,
      String.toList_inj] at same ⊢
  · exact same
  · exact same

def Session.SameStore (session after : Session) : Prop :=
  after.store = session.store

namespace Session

theorem sameStore_onward : Onward SameStore where
  stay _ := rfl
  goOn first second := second.trans first

theorem SameButLog.sameStore {session other : Session} (same : session.SameButLog other) :
    session.SameStore other := by
  obtain ⟨desk, rfl⟩ := same
  rfl

theorem Rests.sameStore {session other : Session} (rests : session.Rests other) :
    session.SameStore other := by
  obtain ⟨_, _, _, _, rfl⟩ := rests.exists_eq
  rfl

theorem sameStore_paused (session : Session) : session.SameStore session.paused :=
  session.rests_paused.sameStore

end Session

namespace Action

theorem advance_sameStore (seconds : Amount) : (advance seconds).Along Session.SameStore := by
  intro session
  unfold advance
  split
  · obtain ⟨micros, timers, scopes, passed⟩ := session.exists_passTo_eq none _
    rw [passed]
    rfl
  · rfl

theorem wait_sameStore (id : ScopeId) (seconds : Float) :
    (wait id seconds).Along Session.SameStore := by
  intro session
  obtain ⟨micros, timers, scopes, waited⟩ := exists_wait_eq id seconds session
  rw [waited]
  rfl

theorem named_sameStore (name : String) : (named name).Along Session.SameStore := by
  refine Along.bind Session.sameStore_onward (fun _ => rfl) fun found => ?_
  cases found <;> exact fun _ => rfl

theorem consult_sameStore (source : Source) (call : Call) (reply : Host → Nat → Reply β) :
    (consult source call reply).Along Session.SameStore :=
  consult_along Session.sameStore_onward (fun _ _ => rfl) (fun _ _ => rfl) advance_sameStore source
    call reply

theorem advance_answer (seconds : Amount) (session : Session) :
    (advance seconds session).1 =
      ((seconds.toFloat.mapError Fault.ofTime).bind microsOfSeconds).map fun _ => () := by
  unfold advance
  cases (seconds.toFloat.mapError Fault.ofTime).bind microsOfSeconds <;> rfl

/-- What a service answers is a matter of the host and of how often it has been asked. -/
theorem consult_answer {source : Source} {call : Call} {reply : Host → Nat → Reply β}
    {session other : Session} (sameHost : other.host = session.host)
    (sameCount : other.timesAsked source = session.timesAsked source) :
    (consult source call reply other).1 = (consult source call reply session).1 := by
  have answered : ∀ started : Session, (consult source call reply started).1 =
      match (reply started.host (started.timesAsked source)).takes with
      | none => (reply started.host (started.timesAsked source)).answer
      | some seconds =>
        ((seconds.toFloat.mapError Fault.ofTime).bind microsOfSeconds).bind fun _ =>
          (reply started.host (started.timesAsked source)).answer := by
    intro started
    let noted : Session := { started with journal := .called call :: started.journal }
    let asked : Session := noted.countAsked source
    have first : note (.called call) started = (.ok (), noted) := rfl
    have second : look (·.host) noted = (.ok started.host, noted) := rfl
    have third : ordinal source noted = (.ok (started.timesAsked source), asked) := rfl
    rw [consult, bind_of_ok first, bind_of_ok second, bind_of_ok third]
    cases (reply started.host (started.timesAsked source)).takes with
    | none => rfl
    | some seconds =>
      have passed := advance_answer seconds asked
      dsimp only
      rcases advanced : advance seconds asked with ⟨_, later⟩
      rw [advanced] at passed
      subst passed
      cases counted : (seconds.toFloat.mapError Fault.ofTime).bind microsOfSeconds with
      | error fault =>
        rw [counted] at advanced
        rw [bind_of_error advanced]
        rfl
      | ok micros =>
        rw [counted] at advanced
        rw [bind_of_ok advanced]
        rfl
  rw [answered, answered, sameHost, sameCount]

end Action

theorem Listener.observer_sameStore (listener : Listener) (script : Nat) (result : CheckResult) :
    (listener.observer script result).Along Session.SameStore := by
  have onward := Session.sameStore_onward
  have reacts : ∀ number, (listener.react number).Along Session.SameStore := by
    intro number
    unfold react
    cases entryAt? number listener.cancels with
    | none => cases entryAt? number listener.raises <;> exact fun _ => rfl
    | some name =>
      refine Action.Along.bind onward (Action.named_sameStore name) fun id => ?_
      refine Action.Along.bind onward (fun _ => rfl) fun _ => ?_
      cases entryAt? number listener.raises <;> exact fun _ => rfl
  refine Action.Along.bind onward (fun _ => rfl) fun before => ?_
  exact Action.Along.bind onward (Action.Along.bind onward (fun _ => rfl) fun _ _ => rfl)
    fun _ => reacts (before + 1)

namespace Network

theorem insertDistinct_ne_nil (s : String) (sorted : List String) :
    insertDistinct s sorted ≠ [] := by
  cases sorted with
  | nil => exact List.cons_ne_nil _ _
  | cons first later =>
    rw [insertDistinct]
    split
    · exact List.cons_ne_nil _ _
    · split
      · exact List.cons_ne_nil _ _
      · exact List.cons_ne_nil _ _

theorem sortedDistinct_ne_nil {texts : List String} (some : texts ≠ []) :
    sortedDistinct texts ≠ [] := by
  have stays : ∀ (later sorted : List String), sorted ≠ [] →
      later.foldl (fun sorted s => insertDistinct s sorted) sorted ≠ [] := by
    intro later
    induction later with
    | nil => exact fun _ filled => filled
    | cons s later inductionHypothesis =>
      exact fun sorted _ => inductionHypothesis _ (insertDistinct_ne_nil s sorted)
  cases texts with
  | nil => exact absurd rfl some
  | cons s later => exact stays later _ (insertDistinct_ne_nil s [])

def lookUp (host : String) : Action (List String) :=
  Action.consult (.resolve host) (.resolve host) fun machine => machine.resolve host

theorem lookUp_sameStore (host : String) : (lookUp host).Along Session.SameStore :=
  Action.consult_sameStore (.resolve host) (.resolve host) fun machine => machine.resolve host

/-- What a resolved host is stored as. -/
def learned (addresses : List String) : Value :=
  .list ((sortedDistinct addresses).map .text)

def keeping (host : String) (addresses : List String) (session : Session) : Session :=
  { session with store := session.store.set (addressesKey host) (learned addresses) }

/-- Pauses do not change what the resolver will answer. -/
theorem lookUp_answer {host : String} {session other : Session} (rests : session.Rests other) :
    (lookUp host other).1 = (lookUp host session).1 := by
  have sameHost : other.host = session.host := by
    obtain ⟨_, _, _, _, rfl⟩ := rests.exists_eq
    rfl
  exact Action.consult_answer sameHost (rests.timesAsked_eq (by simp))

/-- Unless the scope is found done, the outcome is judged by what the resolver answers after a
pause. -/
theorem resolve_eq {host : String} {stored : Bool} {scope : ScopeId} {session looked : Session}
    (undone : Action.askDone scope session = (.ok false, looked)) :
    resolve host stored scope session =
      match lookUp host looked.paused with
      | (.error fault, after) =>
        if fault.isA .unresolvedName then
          (.ok (.outcome (.failed ("DNS resolution failed for " ++ host ++ ": " ++ fault.message))),
            after)
        else (.error fault, after)
      | (.ok addresses, after) =>
        if (sortedDistinct addresses).isEmpty then
          (.ok (.outcome (.failed ("DNS resolution returned no addresses for " ++ host))), after)
        else
          (.ok (.outcome (.verbose
              ("Resolved to " ++ String.intercalate ", " ((sortedDistinct addresses).take 3)))),
            if stored then keeping host addresses after else after) := by
  unfold resolve
  rw [bind_unlessDone_of_not_done undone]
  simp only [bind, inquire_eq, Action.settle, ← lookUp.eq_1]
  rcases lookUp host looked.paused with ⟨fault | addresses, after⟩
  · simp only [orElse]
    cases fault.isA .unresolvedName <;> rfl
  · simp only [orElse]
    cases (sortedDistinct addresses).isEmpty <;> cases stored <;> rfl

/-- A probe in a scope learns addresses of a host: it does not find the scope done, and the answer
has at least one address. -/
structure Learns (host : String) (scope : ScopeId) (session : Session) (addresses : List String) :
    Prop where
  undone : (Action.askDone scope session).1 = .ok false
  answered : (Action.consult (.resolve host) (.resolve host) (fun machine => machine.resolve host)
    session).1 = .ok addresses
  filled : addresses ≠ []

theorem Learns.exists_resolve_eq {host : String} {scope : ScopeId} {session : Session}
    {addresses : List String} (learns : Learns host scope session addresses) :
    ∃ detail after, resolve host true scope session = (.ok (.outcome (.verbose detail)), after) ∧
      after.store = session.store.set (addressesKey host) (learned addresses) := by
  obtain ⟨looked, asked, rests⟩ := Action.exists_askDone_eq learns.undone
  have kept := Session.sameStore_onward.goOn rests.paused.sameStore
    (lookUp_sameStore host looked.paused)
  have answered : (lookUp host looked.paused).1 = .ok addresses :=
    (lookUp_answer rests.paused).trans learns.answered
  have filled : (sortedDistinct addresses).isEmpty = false :=
    List.isEmpty_eq_false_iff.mpr (sortedDistinct_ne_nil learns.filled)
  rw [resolve_eq asked]
  rcases known : lookUp host looked.paused with ⟨answer, after⟩
  rw [known] at kept answered
  cases answered
  simp only [filled]
  exact ⟨_, _, rfl, congrArg (·.set (addressesKey host) (learned addresses)) kept⟩

theorem resolve_sameStore {host : String} {scope : ScopeId} {session : Session}
    (nothing : ∀ addresses, ¬Learns host scope session addresses) :
    session.SameStore (resolve host true scope session).2 := by
  rcases Action.askDone_answer scope session with done | undone
  · obtain ⟨found, after, rests, onward, _, refused⟩ :=
      (Inquiry.resolve host true).exists_probe_eq done
    have refusal : resolve host true scope session = _ := refused
    rw [refusal]
    exact (rests.trans onward).sameStore
  · obtain ⟨looked, asked, rests⟩ := Action.exists_askDone_eq undone
    have kept := Session.sameStore_onward.goOn rests.paused.sameStore
      (lookUp_sameStore host looked.paused)
    have answer := @lookUp_answer host _ _ rests.paused
    rw [resolve_eq asked]
    rcases known : lookUp host looked.paused with ⟨fault | addresses, after⟩
    · rw [known] at kept
      dsimp only
      split <;> exact kept
    · rw [known] at kept answer
      cases addresses with
      | nil => exact kept
      | cons first later =>
        exact absurd ⟨undone, answer.symm, List.cons_ne_nil first later⟩ (nothing _)

theorem read_sameStore {view : Session → β} : (Action.read view).Along Session.SameStore :=
  Session.read_along Session.sameStore_paused view

theorem inquire_sameStore (source : Source) (call : Call) (reply : Host → Nat → Reply β) :
    (inquire source call reply).Along Session.SameStore :=
  Action.Along.bind Session.sameStore_onward (Session.pause_along Session.sameStore_paused)
    fun _ => (Action.consult_sameStore source call reply).settle

theorem unlessDone_sameStore {scope : ScopeId} {action : Action Outcome}
    (keeps : action.Along Session.SameStore) :
    (unlessDone scope action >>= fun outcome => pure (Returned.outcome outcome)).Along
      Session.SameStore := by
  have onward := Session.sameStore_onward
  have looks : (Action.askDone scope).Along Session.SameStore := by
    refine Action.Along.bind onward read_sameStore fun cancelled => ?_
    cases cancelled with
    | true => exact fun _ => rfl
    | false => exact read_sameStore
  have explains : (Action.askFault scope).Along Session.SameStore := by
    refine Action.Along.bind onward read_sameStore fun cancelled => ?_
    cases cancelled with
    | true => exact fun _ => rfl
    | false =>
      refine Action.Along.bind onward read_sameStore fun expired => ?_
      cases expired <;> exact fun _ => rfl
  refine Action.Along.bind onward (Action.Along.bind onward looks fun done => ?_) fun _ _ => rfl
  cases done with
  | true => exact Action.Along.bind onward explains fun _ _ => rfl
  | false => exact keeps

theorem connect_sameStore (host : String) (portNumber : Int) (scope : ScopeId) :
    (connect host portNumber scope).Along Session.SameStore := by
  have onward := Session.sameStore_onward
  refine unlessDone_sameStore (Action.Along.bind onward read_sameStore fun remaining => ?_)
  exact Action.Along.bind onward (inquire_sameStore _ _ _) (orElse_along onward _ fun _ _ => rfl)

theorem Request.send_sameStore (wanted : Request) (scope : ScopeId) :
    (wanted.send scope).Along Session.SameStore := by
  have onward := Session.sameStore_onward
  refine unlessDone_sameStore (Action.Along.bind onward read_sameStore fun remaining => ?_)
  refine Action.Along.bind onward read_sameStore fun start => ?_
  refine Action.Along.bind onward (inquire_sameStore _ _ _)
    (orElse_along onward _ fun status => ?_)
  refine Action.Along.bind onward read_sameStore fun ended => ?_
  dsimp only
  split
  · exact fun _ => rfl
  · refine Action.Along.bind onward (fun _ => rfl) fun _ => ?_
    refine Action.Along.bind onward (fun _ => rfl) fun environment => ?_
    exact Action.Along.bind onward (fun _ => rfl) fun settings _ => rfl

end Network

namespace Machine

/-- A variable of the environment holds a text that is not blank. -/
structure Holds (name : String) (session : Session) (content : String) : Prop where
  found : session.host.lookup? name = some content
  filled : (Text.strip content).isEmpty = false

theorem lookForVariable_eq (name : String) (required : Bool) (scope : ScopeId)
    (session : Session) :
    lookForVariable name required scope session =
      match session.host.lookup? name with
      | none =>
        if required then
          (.ok (.outcome (.failed ("environment variable " ++ name ++ " is not set"))), session)
        else (.ok (.outcome (.skip (name ++ " not set"))), session)
      | some content =>
        if (Text.strip content).isEmpty then
          (.ok (.outcome (.failed ("environment variable " ++ name ++ " is empty"))), session)
        else (.ok (.outcome .ok),
          { session with store := session.store.set (environmentKey name) (.text content) }) := by
  have looked : Action.look (·.host.lookup? name) session =
      (.ok (session.host.lookup? name), session) := rfl
  rw [lookForVariable, Action.bind_of_ok looked]
  cases session.host.lookup? name with
  | none => cases required <;> rfl
  | some content =>
    dsimp only
    cases (Text.strip content).isEmpty <;> rfl

theorem Holds.lookForVariable_eq {name content : String} {session : Session}
    (holds : Holds name session content) (required : Bool) (scope : ScopeId) :
    lookForVariable name required scope session =
      (.ok (.outcome .ok),
        { session with store := session.store.set (environmentKey name) (.text content) }) := by
  simp [Machine.lookForVariable_eq, holds.found, holds.filled]

theorem lookForVariable_sameStore {name : String} {required : Bool} {scope : ScopeId}
    {session : Session} (nothing : ∀ content, ¬Holds name session content) :
    session.SameStore (lookForVariable name required scope session).2 := by
  rw [lookForVariable_eq]
  cases found : session.host.lookup? name with
  | none => cases required <;> rfl
  | some content =>
    cases filled : (Text.strip content).isEmpty with
    | true => simp [filled, Session.SameStore]
    | false => exact absurd ⟨found, filled⟩ (nothing content)

theorem store_compareVersion (minimum : String) (required : List Int) (scope : ScopeId)
    (session : Session) :
    (compareVersion minimum required scope session).2.store =
      session.store.set versionKey (.text (releaseText session.host.runtimeVersion)) := by
  rw [compareVersion_eq]
  rfl

theorem measureSpace_sameStore (path : String) (needed : Int) (scope : ScopeId) :
    (measureSpace path needed scope).Along Session.SameStore := by
  have onward := Session.sameStore_onward
  refine Action.Along.bind onward (Action.consult_sameStore _ _ _).settle fun answer => ?_
  cases answer with
  | error fault =>
    dsimp only
    split
    · exact fun _ => rfl
    · exact fun _ => rfl
  | ok free =>
    refine Action.Along.bind onward (fun _ => rfl) fun shown => ?_
    split
    · exact Action.Along.bind onward (fun _ => rfl) fun least _ => rfl
    · exact fun _ => rfl

theorem lookForKey_eq (key : String) (scope : ScopeId) (session : Session) :
    lookForKey key scope session =
      (.ok (.outcome (if session.store.contains key then .ok
        else .failed (key ++ " was not recorded by a previous check"))), session) := by
  simp only [lookForKey, bind, Action.look]
  cases session.store.contains key <;> rfl

end Machine

namespace Probe

/-- The probes of the checkers that come with the library. -/
inductive BuiltIn : Probe → Prop where
  | version (minimum : String) (required : List Int) :
      BuiltIn (Machine.compareVersion minimum required)
  | space (path : String) (needed : Int) : BuiltIn (Machine.measureSpace path needed)
  | content (name : String) (required : Bool) : BuiltIn (Machine.lookForVariable name required)
  | key (key : String) : BuiltIn (Machine.lookForKey key)
  | addresses (host : String) : BuiltIn (Network.resolve host true)
  | connection (host : String) (portNumber : Int) : BuiltIn (Network.connect host portNumber)
  | answer (wanted : Network.Request) : BuiltIn wanted.send

/-- What a probe finds out that is called with a scope in a session. -/
inductive Finds (probe : Probe) (scope : ScopeId) (session : Session) : Topic → Value → Prop where
  /-- The version is found out by every call, whether it is good enough or not. -/
  | version {minimum : String} {required : List Int}
      (asks : probe = Machine.compareVersion minimum required) :
      Finds probe scope session .version
        (.text (Machine.releaseText session.host.runtimeVersion))
  | addresses {host : String} {addresses : List String} (asks : probe = Network.resolve host true)
      (learns : Network.Learns host scope session addresses) :
      Finds probe scope session (.addresses host) (Network.learned addresses)
  | content {name content : String} {required : Bool}
      (asks : probe = Machine.lookForVariable name required)
      (holds : Machine.Holds name session content) :
      Finds probe scope session (.content name) (.text content)

variable {probe : Probe} {scope : ScopeId} {session : Session}

/-- What a probe finds out it stores, and nothing else. -/
theorem Finds.store_eq {topic : Topic} {value : Value}
    (finds : Finds probe scope session topic value) :
    (probe scope session).2.store = session.store.set topic.key value := by
  cases finds with
  | version asks =>
    rw [asks]
    exact Machine.store_compareVersion _ _ scope session
  | addresses asks learns =>
    obtain ⟨detail, after, resolved, stored⟩ := learns.exists_resolve_eq
    rw [asks, resolved]
    exact stored
  | content asks holds => rw [asks, holds.lookForVariable_eq]; rfl

theorem BuiltIn.sameStore (builtIn : BuiltIn probe)
    (nothing : ∀ topic value, ¬Finds probe scope session topic value) :
    session.SameStore (probe scope session).2 := by
  cases builtIn with
  | version minimum required => exact absurd (.version rfl) (nothing _ _)
  | space path needed => exact Machine.measureSpace_sameStore path needed scope session
  | content name required =>
    exact Machine.lookForVariable_sameStore fun content holds => nothing _ _ (.content rfl holds)
  | key key => rw [Machine.lookForKey_eq]; rfl
  | addresses host =>
    exact Network.resolve_sameStore fun addresses learns => nothing _ _ (.addresses rfl learns)
  | connection host portNumber => exact Network.connect_sameStore host portNumber scope session
  | answer wanted => exact wanted.send_sameStore scope session

end Probe

end Checkup
