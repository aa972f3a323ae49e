import DiagnosticGateway.Gateway.Datagrams
import DiagnosticGateway.Gateway.Reading
import DiagnosticGateway.Gateway.Writing

/-!
# The life of a gateway

A gateway is started once and stopped once. Starting opens the sockets; when one of the
calls for that fails, the sockets that were opened are closed again and the gateway can
still be started. Stopping closes every connection, stops the ECUs and ends all tasks but
those that serve sockets which were accepted already.
-/

namespace DiagnosticGateway

/-- What a series of calls comes to, with the network after it. -/
abbrev Called (result : Type) := Except Net.SystemFault result × Net.Network

namespace GatewayConfig

/-- Where sockets are bound. -/
def endpoint (config : GatewayConfig) : Net.Endpoint :=
  ⟨config.localAddress, config.localPort⟩

/-- The interface through which a group is joined. -/
def interface (config : GatewayConfig) : Net.Ipv4 :=
  match config.localAddress with
  | .v4 address => address
  | .v6 _ => .unspecified

end GatewayConfig

namespace Sockets

/-- Use a socket. If that fails, the socket is closed. -/
def holding {result : Type} (protocol : Net.Protocol) (endpoint : Net.Endpoint)
    (calls : Logged (Called result)) : Logged (Called result) := do
  match ← calls with
  | (.ok result, network) => return (.ok result, network)
  | (.error fault, network) => return (.error fault, network.release protocol endpoint)

/-- Join the group of a configuration, if it has one. The interface is the local address if that is
of the fourth version. -/
def join (config : GatewayConfig) (network : Net.Network) :
    Logged (Called (Option (Net.Ipv4 × Net.Ipv4))) :=
  match config.multicastAddress with
  | none => return (.ok none, network)
  | some group =>
    match network.join group with
    | (some fault, network) => return (.error fault, network)
    | (none, network) => do
      Logged.log (.multicastJoined group)
      return (.ok (some (group, config.interface)), network)

/-- Prepare two sockets that are bound. The calls follow each other in a fixed order, and the first
that fails ends the series. -/
def prepare (config : GatewayConfig) (tcp udp : Net.Endpoint) (network : Net.Network) :
    Logged (Called Sockets) :=
  match network.allowBroadcast with
  | (some fault, network) => return (.error fault, network)
  | (none, network) => do
    match ← join config network with
    | (.error fault, network) => return (.error fault, network)
    | (.ok joined, network) =>
      match network.address with
      | (some fault, network) => return (.error fault, network)
      | (none, network) =>
        match network.address with
        | (some fault, network) => return (.error fault, network)
        | (none, network) => return (.ok ⟨tcp, udp, joined⟩, network)

/-- Open the sockets of a configuration. Each socket that was bound is held, so a later failure
closes it and leaves no trace. -/
def opened (config : GatewayConfig) (network : Net.Network) : Logged (Called Sockets) :=
  match network.bind .tcp config.endpoint with
  | (.error fault, network) => return (.error fault, network)
  | (.ok tcp, network) =>
    holding .tcp tcp <|
      match network.bind .udp config.endpoint with
      | (.error fault, network) => return (.error fault, network)
      | (.ok udp, network) => holding .udp udp (prepare config tcp udp network)

end Sockets

namespace Gateway

/-- Listen to the ECUs and start them, in order. Each one is listened to before it starts, so that
no response is lost. -/
def startEcus : List Nat → Gateway → Logged Gateway
  | [], gateway => return gateway
  | index :: rest, gateway => do
    let gateway ← gateway.changeEcu index (.addListener listener)
    startEcus rest (← gateway.changeEcu index .start)

/-- The first announcement, if there is to be one. -/
def firstAnnouncement (now : Milliseconds) (gateway : Gateway) : Option Announcing :=
  if gateway.config.broadcastEnable then some ⟨1, now + announcementInterval⟩ else none

/-- Run on open sockets. The ECUs start before the first announcement is planned. -/
def run (now : Milliseconds) (sockets : Sockets) (gateway : Gateway) : Logged Gateway := do
  let gateway ← { gateway with phase := .running sockets, routing := true }.startEcus
    gateway.ecuNumbers
  Logged.log (.gatewayStarted gateway.config.name sockets.tcp sockets.udp gateway.ecus.length)
  return { gateway with announcing := gateway.firstAnnouncement now }

/-- Let go of a socket that nobody has accepted. -/
def abandonWaiting (socket : Socket) : Socket :=
  match socket.reader with
  | .waiting => socket.abandon
  | _ => socket

/-- End every task that does not serve an accepted socket. Sockets that were accepted keep the tasks
that serve, read and write them. -/
def endTasks (gateway : Gateway) : Gateway :=
  { gateway with
    arrivals := []
    sockets := gateway.sockets.map abandonWaiting
    receipts := []
    pausedUntil := none
    announcing := none
    routing := false
    responses := [] }

/-- Close every connection, stop the ECUs and end the tasks. The connections close before the
ECUs stop. -/
def halt (gateway : Gateway) : Logged Gateway := do
  let registry ← gateway.registry.stopAll
  let gateway ← { gateway with phase := .stopped, registry := registry }.changeEcus .stop
    gateway.ecuNumbers
  Logged.log (.gatewayStopped gateway.config.name)
  gateway.endTasks.changeEcus (.dropListener listener) gateway.ecuNumbers

end Gateway

namespace Station

/-- Start the gateway. It starts only once. A start that failed on the sockets can be tried
again. -/
def start (now : Milliseconds) (station : Station) :
    Logged (Station × Except GatewayFault Sockets) :=
  match station.gateway.phase with
  | .created => do
    match ← Sockets.opened station.gateway.config station.network with
    | (.error fault, network) =>
      return ({ station with network := network }, .error (.system fault))
    | (.ok sockets, network) =>
      return (⟨← station.gateway.run now sockets, network⟩, .ok sockets)
  | _ => return (station, .error .alreadyStarted)

/-- Stop the gateway, if it runs. Its sockets are released first, so that no tester can
connect any more. -/
def stop (station : Station) : Logged Station :=
  match station.gateway.phase with
  | .running sockets => do
    let network := (station.network.release .tcp sockets.tcp).release .udp sockets.udp
    return ⟨← station.gateway.halt, network⟩
  | _ => return station

end Station

end DiagnosticGateway
