import Checkup.Checker

/-!
# Probes of the network

Three probes ask services on the network: one resolves a host name, one connects to a machine, one
makes a request. In a scope that is done they fail without asking, and no call is given more time than
the scope had left when it was looked at. Before each of these steps the machine may pause.
-/

namespace Checkup.Network

/-- Runs a probe in a scope that is not done; in a scope that is done the probe fails. -/
def unlessDone (scope : ScopeId) (action : Action Outcome) : Action Outcome := do
  if ← Action.askDone scope then
    pure (.failure ((← Action.askFault scope).getD (.failed "context finished")))
  else action

/-- Asks a service after a pause, and takes whatever it answers. -/
def inquire (source : Source) (call : Call) (reply : Host → Nat → Reply α) :
    Action (Except Fault α) := do
  Action.pause
  Action.settle (Action.consult source call reply)

/-- Gives one outcome for the faults of a class, and passes on all other faults. -/
def orElse (answer : Except Fault α) (fails? : Fault → Option Outcome)
    (next : α → Action Outcome) : Action Outcome :=
  match answer with
  | .ok value => next value
  | .error fault => match fails? fault with
    | some outcome => pure outcome
    | none => Action.raise fault

/-- Inserts a text into an increasing list of texts, unless it is in it. -/
def insertDistinct (s : String) : List String → List String
  | [] => [s]
  | t :: rest =>
    if s = t then t :: rest
    else if s < t then s :: t :: rest
    else t :: insertDistinct s rest

/-- The texts of a list in increasing order, each once. -/
def sortedDistinct (texts : List String) : List String :=
  texts.foldl (fun sorted s => insertDistinct s sorted) []

def addressesKey (host : String) : String := "dns:" ++ host

/-- Resolves a host name and stores its addresses. -/
def resolve (host : String) (stored : Bool) : Probe := fun scope => do
  let outcome ← unlessDone scope do
    let answer ← inquire (.resolve host) (.resolve host) fun machine => machine.resolve host
    orElse answer
      (fun fault =>
        if fault.isA .unresolvedName then
          some (.failed ("DNS resolution failed for " ++ host ++ ": " ++ fault.message))
        else none)
      fun addresses => do
        let sorted := sortedDistinct addresses
        if sorted.isEmpty then
          pure (.failed ("DNS resolution returned no addresses for " ++ host))
        else
          if stored then Action.record (addressesKey host) (.list (sorted.map .text))
          pure (.verbose ("Resolved to " ++ String.intercalate ", " (sorted.take 3)))
  pure (.outcome outcome)

def connectTimeout : Float := 5

def address (host : String) (portNumber : Int) : String :=
  host ++ ":" ++ Number.showInt portNumber

def connect (host : String) (portNumber : Int) : Probe := fun scope => do
  let outcome ← unlessDone scope do
    let timeout := boundedBy (← Action.read (·.remaining? scope)) connectTimeout
    let place := address host portNumber
    let answer ← inquire (.connect place) (.connect host portNumber timeout) fun machine =>
      machine.connect place
    orElse answer
      (fun fault =>
        if fault.isA .system then
          some (.failed
            ("TCP connect to " ++ place ++ " failed: " ++ fault.kind ++ ": " ++ fault.message))
        else none)
      fun () => pure .ok
  pure (.outcome outcome)

/-- A request to make, and what its answer should be. -/
structure Request where
  url : String
  method : String := "GET"
  /-- The status that the answer must have; without one, every status below 400 is good. -/
  expectedStatus : Option Int := none
  /-- A good answer is reported with the time it took. -/
  showLatency : Bool := false
  headers : Option (List (String × String)) := none

def requestTimeout : Float := 10

/-- The beginning of the messages about a request. -/
def Request.title (request : Request) : String := request.method ++ " " ++ request.url

/-- Why a request has failed, if the fault is one of those that requests fail with. -/
def Request.failure? (request : Request) (timeout : Float) (fault : Fault) : Option Outcome :=
  if fault.isA .requestTimeout then
    some (.failed (request.title ++ ": timeout after " ++ Number.showFixed 1 timeout ++ "s"))
  else if fault.isA .failedRequest then
    some (.failed (request.title ++ ": " ++ fault.kind ++ ": " ++ fault.message))
  else none

/-- What is wrong with the status of an answer. -/
def Request.refusal? (request : Request) (status : Int) : Option String :=
  match request.expectedStatus with
  | some expected =>
    if status = expected then none
    else some ("expected HTTP " ++ Number.showInt expected ++ ", got " ++ Number.showInt status)
  | none => if 400 ≤ status then some ("HTTP " ++ Number.showInt status) else none

/-- The outcome of a good answer: the time it took is shown on demand, and always if it was slow. -/
def Request.success (request : Request) (status : Int) (millis threshold : Float) : Outcome :=
  let slow := decide (threshold < millis)
  if request.showLatency || slow then
    .verbose ("HTTP " ++ Number.showInt status ++ " in " ++ Number.showFixed 0 millis ++ "ms" ++
      (if slow then " (slow)" else ""))
  else .ok

def Request.send (request : Request) : Probe := fun scope => do
  let outcome ← unlessDone scope do
    let timeout := boundedBy (← Action.read (·.remaining? scope)) requestTimeout
    let start ← Action.read (·.now)
    let answer ← inquire (.request request.url)
      (.request request.method request.url timeout request.headers true) fun machine =>
        machine.request request.url
    orElse answer (request.failure? timeout) fun status => do
      let millis := ((← Action.read (·.now)) - start) * 1000
      match request.refusal? status with
      | some reason => pure (.failed (request.title ++ ": " ++ reason))
      | none =>
        Action.log .debug "http_probe_ok"
          [("url", .text request.url), ("status", .int status), ("latency_ms", .real millis)]
        let settings ← Action.lift (ProbeSettings.read (← Action.look (·.host.environment)))
        pure (request.success status millis settings.slowThresholdMillis)
  pure (.outcome outcome)

def resolveChecker (host : String) (policy : Policy) (hintAnchor : String := "dns") : Checker :=
  { description := "can resolve " ++ host
    hintAnchor
    policy
    probe := some (resolve host true) }

def connectChecker (host : String) (portNumber : Int) (policy : Policy)
    (hintAnchor : String := "tcp") : Checker :=
  { description := "can connect to " ++ address host portNumber
    hintAnchor
    policy
    probe := some (connect host portNumber) }

def requestChecker (description : String) (request : Request) (policy : Policy)
    (hintAnchor : String := "") : Checker :=
  { description
    hintAnchor
    policy
    probe := some request.send }

end Checkup.Network
