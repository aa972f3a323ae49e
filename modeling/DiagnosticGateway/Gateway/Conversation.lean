import DiagnosticGateway.Gateway.Basic

/-!
# Messages of testers

What a gateway does with a message on a tester's connection, and with a response of an ECU.
A routing activation request is decided by the registry, which may take time. A diagnostic
message must come from the address that is registered on its connection; it is acknowledged
and handed to every ECU that its target reaches. A response goes to the connection that is
registered with its target.
-/

namespace DiagnosticGateway

/-- How reading goes on after a message. -/
inductive Flow where
  | proceed
  /-- The connection is given up. -/
  | close
  /-- The decision of a routing activation request comes first. -/
  | wait (request : RequestId) (source : UInt16)
  deriving DecidableEq, Repr

namespace Gateway

/-- Answer a routing activation request that was decided. A denial may cost the socket. The response
is queued before the socket is given up, so the tester learns why. -/
def answerActivation (connection : ConnectionId) (source : UInt16) (code : Wire.ActivationCode)
    (gateway : Gateway) : Logged (Gateway × Flow) := do
  let gateway ← gateway.send connection
    (.activationResponse source gateway.identity.logicalAddress code)
  if code.keepsSocketOpen then
    return (gateway, .proceed)
  else
    Logged.log (.activationDenied connection code)
    return (gateway, .close)

/-- Move a routing activation request on, and answer it if it is decided then. The request stays
with the reader of the socket until the registry has an answer for it. -/
def pursueActivation (now : Milliseconds) (connection : ConnectionId) (request : RequestId)
    (source : UInt16) (gateway : Gateway) : Logged (Gateway × Flow) := do
  let registry ← gateway.registry.advance now request
  let gateway := { gateway with registry := registry }
  match registry.answer? request with
  | some code => gateway.answerActivation connection source code
  | none => return (gateway, .wait request source)

/-- A tester asks to be registered. A type that is not supported is denied without asking the
registry. -/
def onActivation (now : Milliseconds) (connection : ConnectionId) (body : Wire.ActivationRequest)
    (gateway : Gateway) : Logged (Gateway × Flow) :=
  if body.activationType.isSupported then
    let (registry, request) := gateway.registry.request connection body.sourceAddress
    { gateway with registry := registry }.pursueActivation now connection request
      body.sourceAddress
  else do
    Logged.log (.unsupportedActivation connection body.activationType)
    gateway.answerActivation connection body.sourceAddress .deniedUnsupportedActivationType

/-- The ECUs that a target reaches, by number, with the addressing. A target may reach several ECUs
by their common address, and none if it is unknown. -/
def targets (target : UInt16) (gateway : Gateway) : List (Nat × Addressing) :=
  gateway.ecus.zipIdx.filterMap fun entry =>
    (entry.1.addressingFor target).map fun addressing => (entry.2, addressing)

/-- Hand a request to ECUs, in order. Each ECU gets a request of its own, with the addressing by
which the target reaches it. -/
def forward (body : Wire.Diagnostic) : List (Nat × Addressing) → Gateway → Logged Gateway
  | [], gateway => return gateway
  | (index, addressing) :: rest, gateway => do
    match gateway.ecus[index]? with
    | none => forward body rest gateway
    | some ecu =>
      Logged.log (.requestForwarded ecu.name addressing)
      let request := ⟨body.sourceAddress, body.targetAddress, addressing, body.userData⟩
      forward body rest (← gateway.changeEcu index (.put request))

/-- A diagnostic message has arrived. The acknowledgement is queued before any ECU sees the request,
so it precedes every response to it. -/
def onDiagnostic (connection : ConnectionId) (body : Wire.Diagnostic) (gateway : Gateway) :
    Logged (Gateway × Flow) := do
  let source := body.sourceAddress
  let target := body.targetAddress
  Logged.log (.diagnosticReceived connection source target
    ⟨body.userData, gateway.config.maxLogging⟩)
  if gateway.registry.pool.sourceAddress connection = some source then
    match gateway.targets target with
    | [] =>
      Logged.log (.targetUnknown connection target)
      let gateway ← gateway.send connection
        (.diagnosticNack target source .unknownTargetAddress)
      return (gateway, .proceed)
    | targets =>
      let gateway ← gateway.send connection (.diagnosticAck target source)
      return (← forward body targets gateway, .proceed)
  else
    Logged.log (.sourceNotRegistered connection source)
    let gateway ← gateway.send connection (.diagnosticNack target source .invalidSourceAddress)
    return (gateway, .close)

/-- A message has arrived on a connection. One that has no meaning on a connection is logged
and ignored. -/
def onMessage (now : Milliseconds) (connection : ConnectionId) (message : Wire.Message)
    (gateway : Gateway) : Logged (Gateway × Flow) :=
  match message with
  | .routingActivationRequest body => gateway.onActivation now connection body
  | .aliveCheckResponse source => do
    let registry ← gateway.registry.aliveResponse connection source
    return ({ gateway with registry := registry }, .proceed)
  | .diagnosticMessage body => gateway.onDiagnostic connection body
  | .genericNack code => do
    Logged.log (.genericNackIgnored connection code)
    return (gateway, .proceed)
  | other => do
    Logged.log (.unexpectedMessage connection other.payloadType)
    return (gateway, .proceed)

/-- Refuse a frame. The refusal is queued in any case, and what is wrong decides whether the
connection survives it. -/
def onInvalidFrame (connection : ConnectionId) (fault : Wire.Fault) (gateway : Gateway) :
    Logged (Gateway × Flow) := do
  Logged.log (.invalidFrame connection fault)
  let gateway ← gateway.send connection (.genericNack fault.nackCode)
  return (gateway, if fault.closesSocket then .close else .proceed)

/-- A frame has arrived on a connection, which shows that the tester is there. The general timer
starts anew whatever the frame contains. -/
def onFrame (now : Milliseconds) (connection : ConnectionId)
    (content : Except Wire.Fault Wire.Message) (gateway : Gateway) : Logged (Gateway × Flow) :=
  let gateway := { gateway with registry := gateway.registry.dataReceived now connection }
  match content with
  | .ok message => gateway.onMessage now connection message
  | .error fault => gateway.onInvalidFrame connection fault

/-- Send the response of an ECU to the connection that is registered with its target. A tester that
has left is looked for in vain, and the response is dropped. -/
def onResponse (response : Ecu.Message) (gateway : Gateway) : Logged Gateway :=
  match gateway.registry.lookup response.target with
  | none => do
    Logged.log (.responseDropped response.source response.target)
    return gateway
  | some connection => do
    Logged.log (.responseSent connection response.source response.target
      ⟨response.data, gateway.config.maxLogging⟩)
    gateway.send connection (.diagnostic response.source response.target response.data)

/-- Whether there is something to do for the routing of responses. Without ECUs there is
nothing to route, and it ends. -/
def canRoute (gateway : Gateway) : Bool :=
  gateway.routing && (!gateway.responses.isEmpty || gateway.ecus.isEmpty)

/-- Route one response. The responses of all ECUs go through one queue, in the order in which they
were emitted. -/
def route (gateway : Gateway) : Logged Gateway :=
  match gateway.responses with
  | response :: rest => { gateway with responses := rest }.onResponse response
  | [] => do
    Logged.log .routingStopped
    return { gateway with routing := false }

end Gateway

end DiagnosticGateway
