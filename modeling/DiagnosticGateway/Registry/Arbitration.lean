import DiagnosticGateway.Registry.Basic

/-!
# Arbitration of routing activation

A request is made at once and moved on by steps. Its first step answers a connection that is
registered already, and otherwise takes the lock or goes in line. The step of the request
that holds the lock decides, or starts the probe on which the decision waits; its last step
judges the probe. Whoever is answered gives the lock to the next in line.
-/

namespace DiagnosticGateway.Registry

/-- Make a request. It gets the next number and waits for its first step. -/
def request (connection : ConnectionId) (source : UInt16) (registry : Registry) :
    Registry × RequestId :=
  let id := registry.requests.length
  ({ registry with requests := registry.requests ++ [⟨id, connection, source, .asked⟩] }, id)

/-- The request with a number. -/
def request? (id : RequestId) (registry : Registry) : Option Request :=
  registry.requests.find? fun request => request.id == id

/-- The decision of a request, once it has fallen. -/
def answer? (id : RequestId) (registry : Registry) : Option Wire.ActivationCode :=
  (registry.request? id).bind fun request =>
    match request.stage with
    | .answered code => some code
    | _ => none

/-- Move a request to a stage. -/
def setStage (id : RequestId) (stage : RequestStage) (registry : Registry) : Registry :=
  { registry with
    requests := registry.requests.map fun request =>
      if request.id = id then { request with stage := stage } else request }

/-- The answer for a connection that is registered already: its own address is granted again
and any other is denied. -/
def registeredAnswer (request : Request) (registry : Registry) :
    Logged (Option Wire.ActivationCode) :=
  match registry.pool.sourceAddress request.connection with
  | none => return none
  | some registered =>
    if registered = request.source then
      return some .success
    else do
      Logged.log (.differentSourceRequested request.connection registered request.source)
      return some .deniedDifferentSourceAddress

/-- Record a decision. -/
def answer (now : Milliseconds) (request : Request) (code : Wire.ActivationCode)
    (registry : Registry) : Registry :=
  { registry.setStage request.id (.answered code) with
    decisions := registry.decisions ++ [⟨request.id, code, now⟩] }

/-- Give the lock to the next in line. The next one is only handed the lock, and moves on by a step
of its own. -/
def release (registry : Registry) : Registry :=
  match registry.lockLine with
  | [] => { registry with lockHolder := none }
  | next :: rest => { registry with lockHolder := some next, lockLine := rest }

/-- Register the connection of a request. What stands against it was looked at before, under the
same lock. A connection that has closed meanwhile stays closed, and the answer is the same. -/
def commit (now : Milliseconds) (request : Request) (registry : Registry) :
    Logged (Registry × Wire.ActivationCode) := do
  let (pool, activated) ←
    registry.pool.ask request.connection (Connection.activate now request.source)
  if activated != some true then
    Logged.log (.closedDuringArbitration request.connection)
  return ({ registry with pool := pool }, .success)

/-- Log a decision, record it and give up the lock. -/
def conclude (now : Milliseconds) (request : Request) (code : Wire.ActivationCode)
    (registry : Registry) : Logged Registry := do
  Logged.log (.activationDecided request.connection request.source code)
  return (registry.answer now request code).release

/-- Start a probe of the given connections. -/
def probe (now : Milliseconds) (request : Request) (purpose : ProbePurpose)
    (targets : List ConnectionId) (registry : Registry) : Logged Registry := do
  let (pool, check) ←
    AliveCheck.begin request.id (now + AliveCheck.window) targets registry.pool
  return { registry with pool := pool }.setStage request.id (.probing purpose check)

/-- Decide a request that holds the lock, as far as that is possible without a probe. A holder is
probed first, also when there is no room. -/
def resolve (now : Milliseconds) (request : Request) (registry : Registry) : Logged Registry :=
  match registry.otherHolder request.connection request.source with
  | some holder => do
    Logged.log (.holderProbe request.connection holder request.source)
    registry.probe now request (.holder holder) [holder]
  | none =>
    let registered := registry.registered
    if registered.length < registry.limit then do
      let (registry, code) ← registry.commit now request
      registry.conclude now request code
    else do
      Logged.log (.capacityProbe registered.length registry.limit)
      registry.probe now request .capacity registered

/-- Decide a request by the responses to its probe. A confirmed holder keeps its address, and
room that is confirmed to be taken stays taken. -/
def judge (now : Milliseconds) (request : Request) (purpose : ProbePurpose)
    (responses : AliveCheck.Responses) (registry : Registry) :
    Logged (Registry × Wire.ActivationCode) :=
  match purpose with
  | .capacity =>
    if registry.limit ≤ responses.alive then
      return (registry, .deniedAllSocketsRegistered)
    else
      registry.commit now request
  | .holder holder =>
    if responses.confirms holder request.source then
      return (registry, .deniedSourceAddressActiveElsewhere)
    else
      match registry.otherHolder request.connection request.source with
      | some holder => do
        Logged.log (.stillRegistered request.connection holder request.source)
        return (registry, .deniedSourceAddressActiveElsewhere)
      | none => registry.commit now request

/-- Whether a probe does not wait any longer. -/
def probeEnds (now : Milliseconds) (check : AliveCheck) (registry : Registry) : Bool :=
  registry.stopping || check.deadline ≤ now

/-- End a probe and decide. -/
def endProbe (now : Milliseconds) (request : Request) (purpose : ProbePurpose)
    (check : AliveCheck) (registry : Registry) : Logged Registry := do
  let reports := registry.mail.reports check.mailbox
  let (pool, responses) ← check.finish (decide (now < check.deadline)) reports registry.pool
  let registry := { registry with pool := pool, mail := registry.mail.discard check.mailbox }
  let (registry, code) ← registry.judge now request purpose responses
  registry.conclude now request code

/-- Take the lock, or go in line for it. -/
def seekLock (now : Milliseconds) (request : Request) (registry : Registry) : Logged Registry :=
  match registry.lockHolder with
  | none => { registry with lockHolder := some request.id }.resolve now request
  | some _ =>
    return { registry with lockLine := registry.lockLine ++ [request.id] }.setStage request.id
      .inLine

/-- Move a request on by one step. A request that has to wait, or is decided, stays as it is. The
connection is looked at again when the lock is given to it, as it may have been registered
meanwhile. -/
def stepRequest (now : Milliseconds) (request : Request) (registry : Registry) :
    Logged Registry :=
  match request.stage with
  | .asked => do
    match ← registry.registeredAnswer request with
    | some code => return registry.answer now request code
    | none => registry.seekLock now request
  | .inLine =>
    if registry.lockHolder = some request.id then do
      match ← registry.registeredAnswer request with
      | some code => return (registry.answer now request code).release
      | none => registry.resolve now request
    else
      return registry
  | .probing purpose check =>
    if registry.probeEnds now check then registry.endProbe now request purpose check
    else return registry
  | .answered _ => return registry

/-- Whether a request can be moved on. -/
def canStep (now : Milliseconds) (request : Request) (registry : Registry) : Bool :=
  match request.stage with
  | .asked => true
  | .inLine => registry.lockHolder == some request.id
  | .probing _ check => registry.probeEnds now check
  | .answered _ => false

/-- Move the request with a number on by one step. -/
def advance (now : Milliseconds) (id : RequestId) (registry : Registry) : Logged Registry :=
  match registry.request? id with
  | some request => registry.stepRequest now request
  | none => return registry

/-- The moments for which timers and probes wait. -/
def deadlines (registry : Registry) : List Milliseconds :=
  registry.pool.deadlines ++ registry.requests.filterMap fun request =>
    match request.stage with
    | .probing _ check => some check.deadline
    | _ => none

end DiagnosticGateway.Registry
