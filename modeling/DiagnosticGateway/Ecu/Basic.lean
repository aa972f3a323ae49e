import DiagnosticGateway.Ecu.Lookup
import DiagnosticGateway.Ecu.Uds
import DiagnosticGateway.Log.Logged

/-!
# Simulated ECUs

An ECU answers one request at a time. A request that it accepts waits in its queue until its
worker takes it; the worker asks the hook, then the lookup table, and rejects what neither
answers. A request that arrives while another is in flight is answered at once as busy. A
hook may answer and still hold the request in flight; the hold ends with the next busy
answer or when it is released.

Responses go to every listener that was added and is still there. The operations and the
worker's step are functions of the ECU and return the responses they send, so every order of
them is covered by composing the functions.
-/

namespace DiagnosticGateway

namespace Ecu

/-- A request or response between the gateway and an ECU. -/
structure Message where
  source : UInt16
  target : UInt16
  addressing : Addressing
  data : Bytes
  deriving DecidableEq, Repr

/-- What a hook makes of a request. -/
inductive HookAction where
  /-- Leave it to the lookup table. -/
  | proceed
  /-- Answer it. -/
  | respond (data : Bytes)
  /-- Answer it but keep it in flight. -/
  | respondAndHold (data : Bytes)
  deriving DecidableEq, Repr

/-- Handling of requests that comes before the lookup table. -/
abbrev Hook := Message → HookAction

/-- The number of a listener. -/
abbrev ListenerId := Nat

/-- A party that receives responses, as long as it is there. -/
structure Listener where
  id : ListenerId
  present : Bool
  deriving DecidableEq, Repr

/-- A response on its way to a listener. -/
structure Emission where
  listener : ListenerId
  message : Message
  deriving DecidableEq, Repr

end Ecu

/-- A simulated ECU. It answers one request at a time, and its worker takes them from its queue. -/
structure Ecu where
  name : String
  physical : UInt16
  functional : UInt16
  lookup : Ecu.LookupTable
  hook : Option Ecu.Hook
  /-- How many bytes of a request the lookup table sees. -/
  maxLookup : Nat
  /-- How many bytes of a message the log shows. -/
  maxLogging : Nat
  running : Bool
  /-- A request is in flight. -/
  busy : Bool
  /-- The request in flight has been answered and is held by the hook. -/
  held : Bool
  /-- The requests that the worker has not taken yet; there is a queue while the ECU runs. -/
  queue : Option (List Ecu.Message)
  listeners : List Ecu.Listener

namespace Ecu

/-- What an operation leaves behind: the ECU and the responses it sends. -/
structure Outcome where
  ecu : Ecu
  emissions : List Emission

/-- An ECU that has not been started. It has no queue before it runs, and nobody listens to it. -/
def new (name : String) (physical functional : UInt16) (lookup : LookupTable)
    (maxLookup maxLogging : Nat) : Ecu where
  name := name
  physical := physical
  functional := functional
  lookup := lookup
  hook := none
  maxLookup := maxLookup
  maxLogging := maxLogging
  running := false
  busy := false
  held := false
  queue := none
  listeners := []

/-- The addressing under which a target reaches the ECU. The physical address comes first. -/
def addressingFor (target : UInt16) (ecu : Ecu) : Option Addressing :=
  if target = ecu.physical then some .physical
  else if target = ecu.functional then some .functional
  else none

/-- Add a listener. -/
def addListener (id : ListenerId) (ecu : Ecu) : Ecu :=
  { ecu with listeners := ecu.listeners ++ [⟨id, true⟩] }

/-- A listener goes away. It is forgotten when the next response is sent. -/
def dropListener (id : ListenerId) (ecu : Ecu) : Ecu :=
  { ecu with
    listeners := ecu.listeners.map fun listener =>
      if listener.id = id then { listener with present := false } else listener }

/-- Handle requests by a hook from now on. -/
def setHook (hook : Hook) (ecu : Ecu) : Ecu :=
  { ecu with hook := some hook }

/-- Start with an empty queue. A running ECU stays as it is. -/
def start (ecu : Ecu) : Logged Ecu :=
  if ecu.running then return ecu
  else do
    Logged.log (.ecuStarted ecu.name ecu.physical ecu.functional ecu.lookup.size)
    return { ecu with running := true, busy := false, held := false, queue := some [] }

/-- Stop. A request that the worker has not taken is lost. -/
def stop (ecu : Ecu) : Logged Ecu :=
  if ecu.running then do
    Logged.log (.ecuStopped ecu.name)
    return { ecu with running := false, busy := false, held := false, queue := none }
  else return ecu

/-- End a hold. -/
def release (ecu : Ecu) : Logged Ecu :=
  if ecu.held then do
    Logged.log (.holdReleased ecu.name)
    return { ecu with held := false, busy := false }
  else return ecu

/-- The response to a request. -/
def responseTo (request : Message) (data : Bytes) (ecu : Ecu) : Message :=
  ⟨ecu.physical, request.source, .physical, data⟩

/-- Send a response to every listener that is there, and forget the others. -/
def emit (response : Message) (ecu : Ecu) : Logged Outcome := do
  Logged.log (.ecuResponse ecu.name response.target ⟨response.data, ecu.maxLogging⟩)
  let present := ecu.listeners.filter Listener.present
  return ⟨{ ecu with listeners := present }, present.map fun listener => ⟨listener.id, response⟩⟩

/-- Take a request. It waits for the worker if none is in flight; otherwise it is answered as busy,
which ends a hold. An ECU that does not run drops it. Busy answers are sent at once and do not wait
for the worker. -/
def put (request : Message) (ecu : Ecu) : Logged Outcome :=
  if !ecu.running then do
    Logged.log (.ecuNotRunning ecu.name)
    return ⟨ecu, []⟩
  else if ecu.busy then do
    Logged.log (.ecuBusy ecu.name)
    let service := Uds.requestService request.data
    let busy := ecu.responseTo request (Uds.negativeResponse service Uds.busyRepeatRequest)
    let outcome ← ecu.emit busy
    if outcome.ecu.held then
      Logged.log (.holdReleasedByBusy ecu.name)
      return { outcome with ecu := { outcome.ecu with held := false, busy := false } }
    else
      return outcome
  else
    match ecu.queue with
    | some waiting => return ⟨{ ecu with queue := some (waiting ++ [request]), busy := true }, []⟩
    | none => return ⟨ecu, []⟩

/-- The answer of the lookup table, or a reject. The table sees the first bytes of the request. Only
the table is shown the cut request, and the reject names the service of the whole one. -/
def lookupOrReject (request : Message) (ecu : Ecu) : Logged Bytes :=
  match ecu.lookup.find? (request.data.take ecu.maxLookup) with
  | some response => do
    Logged.log (.patternFound ecu.name)
    return response
  | none => do
    Logged.log (.patternMissing ecu.name)
    return Uds.negativeResponse (Uds.requestService request.data) Uds.generalReject

/-- The data that answers a request, and whether the request stays in flight. Without a hook, or
when the hook leaves the request to it, the table answers. -/
def answerTo (request : Message) (ecu : Ecu) : Logged (Bytes × Bool) :=
  match ecu.hook with
  | none => do return (← ecu.lookupOrReject request, false)
  | some hook =>
    match hook request with
    | .respond data => return (data, false)
    | .respondAndHold data => return (data, true)
    | .proceed => do return (← ecu.lookupOrReject request, false)

/-- Answer a request that the worker has taken. The flags are set before the response is sent, so a
listener that asks again finds them as they will be. -/
def process (request : Message) (ecu : Ecu) : Logged Outcome := do
  Logged.log (.ecuRequest ecu.name request.source request.addressing
    ⟨request.data, ecu.maxLogging⟩)
  let (data, hold) ← ecu.answerTo request
  let answered := if hold then { ecu with held := true } else { ecu with busy := false }
  answered.emit (ecu.responseTo request data)

/-- Whether the worker can take a request. -/
def canWork (ecu : Ecu) : Bool :=
  match ecu.queue with
  | some (_ :: _) => true
  | _ => false

/-- One step of the worker: it takes the first request and answers it. Nothing happens if no
request waits. -/
def work (ecu : Ecu) : Logged Outcome :=
  match ecu.queue with
  | some (request :: waiting) => { ecu with queue := some waiting }.process request
  | _ => return ⟨ecu, []⟩

end Ecu

end DiagnosticGateway
