import DiagnosticGateway.Config.Validation
import DiagnosticGateway.Ecu.Run
import DiagnosticGateway.Gateway.Socket

/-!
# The gateway

A gateway holds its configuration, the registry of its connections, its ECUs, and what is
waiting in front of its tasks: sockets to be accepted, datagrams to be answered, responses
of ECUs to be routed and the next announcement. A gateway on its network is a station.
-/

namespace DiagnosticGateway

/-- Why a gateway cannot be made or started. -/
inductive GatewayFault where
  | invalidConfiguration (fault : ConfigFault)
  | system (fault : Net.SystemFault)
  | alreadyStarted
  deriving DecidableEq, Repr

/-- The wording of a gateway's fault. -/
def GatewayFault.message : GatewayFault → String
  | invalidConfiguration fault => "Invalid configuration: " ++ fault.message
  | system fault => "I/O error: " ++ fault.message
  | alreadyStarted => "Gateway already started"

/-- The sockets of a running gateway. -/
structure Sockets where
  tcp : Net.Endpoint
  udp : Net.Endpoint
  /-- The group that was joined, and the address of the interface. -/
  joined : Option (Net.Ipv4 × Net.Ipv4)
  deriving DecidableEq

/-- The life of a gateway. -/
inductive GatewayPhase where
  | created
  | running (sockets : Sockets)
  | stopped
  deriving DecidableEq

/-- Something that waits at the listening socket. -/
inductive Arrival where
  | socket (id : SocketId)
  | fault (fault : Net.SystemFault)
  deriving DecidableEq, Repr

/-- Something that waits at the datagram socket. -/
inductive Receipt where
  | datagram (peer : Net.Endpoint) (bytes : Bytes)
  | fault (fault : Net.SystemFault)
  deriving DecidableEq

/-- An announcement that is due. -/
structure Announcing where
  /-- The first one has the number one. -/
  round : Nat
  due : Milliseconds
  deriving DecidableEq, Repr

/-- A gateway. -/
structure Gateway where
  config : GatewayConfig
  identity : VehicleIdentity
  registry : Registry
  ecus : List Ecu
  phase : GatewayPhase
  /-- What waits to be accepted, oldest first. -/
  arrivals : List Arrival
  /-- The sockets of testers, by number. -/
  sockets : List Socket
  /-- What waits to be received, oldest first. -/
  receipts : List Receipt
  /-- After a failure nothing is received before this moment. -/
  pausedUntil : Option Milliseconds
  announcing : Option Announcing
  /-- Responses of ECUs are routed. -/
  routing : Bool
  /-- The responses that wait to be routed, oldest first. -/
  responses : List Ecu.Message

namespace Gateway

/-- A gateway with the given ECUs, if its configuration is usable. -/
def withEcus (library : Pattern.Library) (config : GatewayConfig) (ecus : List Ecu) :
    Except GatewayFault Gateway :=
  match config.validate library, config.identity with
  | .error fault, _ => .error (.invalidConfiguration fault)
  | .ok _, .error fault => .error (.invalidConfiguration fault)
  | .ok _, .ok identity =>
    .ok {
      config := config
      identity := identity
      registry := .new config.maxRegisteredConnections
      ecus := ecus
      phase := .created
      arrivals := []
      sockets := []
      receipts := []
      pausedUntil := none
      announcing := none
      routing := false
      responses := [] }

/-- A gateway with the ECUs of its configuration, if that is usable. -/
def new (library : Pattern.Library) (config : GatewayConfig) : Except GatewayFault Gateway :=
  match config.validate library, config.buildEcus library with
  | .error fault, _ => .error (.invalidConfiguration fault)
  | .ok _, .error fault => .error (.invalidConfiguration fault)
  | .ok _, .ok ecus => withEcus library config ecus

/-- The sockets of a gateway, while it runs. -/
def running? (gateway : Gateway) : Option Sockets :=
  match gateway.phase with
  | .running sockets => some sockets
  | _ => none

/-- Change the socket with a number. -/
def updateSocket (id : SocketId) (step : Socket → Socket) (gateway : Gateway) : Gateway :=
  { gateway with sockets := gateway.sockets.modify id step }

/-- Queue a message on a connection. -/
def send (connection : ConnectionId) (message : Wire.Message) (gateway : Gateway) :
    Logged Gateway := do
  return { gateway with registry := ← gateway.registry.send connection message }

/-- The number under which the gateway listens to its ECUs. -/
def listener : Ecu.ListenerId := 0

/-- Let something happen to an ECU. Its responses wait to be routed, as long as that is done. -/
def changeEcu (index : Nat) (event : Ecu.Event) (gateway : Gateway) : Logged Gateway :=
  match gateway.ecus[index]? with
  | none => return gateway
  | some ecu => do
    let outcome ← ecu.apply event
    let heard := outcome.emissions.filter fun emission => emission.listener == listener
    return { gateway with
      ecus := gateway.ecus.set index outcome.ecu
      responses :=
        if gateway.routing then gateway.responses ++ heard.map Ecu.Emission.message
        else gateway.responses }

/-- Let something happen to several ECUs, in order. -/
def changeEcus (event : Ecu.Event) : List Nat → Gateway → Logged Gateway
  | [], gateway => return gateway
  | index :: rest, gateway => do changeEcus event rest (← gateway.changeEcu index event)

/-- The numbers of the ECUs. -/
def ecuNumbers (gateway : Gateway) : List Nat :=
  List.range gateway.ecus.length

end Gateway

/-- A gateway on its network. -/
structure Station where
  gateway : Gateway
  network : Net.Network

namespace Station

/-- Change the gateway only. -/
def onGateway (step : Gateway → Logged Gateway) (station : Station) : Logged Station := do
  return { station with gateway := ← step station.gateway }

end Station

end DiagnosticGateway
