import DiagnosticGateway.Gateway.Basic
import DiagnosticGateway.Wire.Encoding

/-!
# Datagrams

What a gateway does with a datagram, and how it announces its vehicle after it has started.
A request is answered to its sender and an invalid datagram is refused; what is not a request
has no answer. After a failed receipt the gateway pauses.
-/

namespace DiagnosticGateway

namespace Gateway

/-- How many announcements follow a start. -/
def announcementCount : Nat := 3

/-- The time before each announcement. -/
def announcementInterval : Milliseconds := 500

/-- The greatest number of bytes that are taken from a datagram. -/
def maxDatagram : Nat := 4096

/-- The pause after a failed receipt. -/
def receivePause : Milliseconds := 100

/-- The node type of a gateway. -/
def nodeType : UInt8 := 0x00

/-- The power mode that is reported: not ready. -/
def powerMode : UInt8 := 0x00

/-- The announcement of the vehicle. -/
def vehicleAnnouncement (gateway : Gateway) : Wire.Message :=
  .vehicleAnnouncement
    { vin := gateway.identity.vin
      logicalAddress := gateway.identity.logicalAddress
      eid := gateway.identity.eid
      gid := gateway.identity.gid
      furtherAction := 0x00
      syncStatus := some 0x00 }

/-- The state of the sockets, of which no more than 255 are counted. -/
def entityStatus (gateway : Gateway) : Wire.Message :=
  .entityStatusResponse
    { nodeType := nodeType
      maxConcurrentSockets := gateway.config.maxSockets
      openSockets := UInt8.ofNat (min 255 gateway.registry.openConnections.length)
      maxDataSize := some gateway.config.maxDataSize }

/-- The answer to the message in a datagram, if it has one. A request that names a vehicle is
answered by that vehicle only, and all others are silent. -/
def answerMessage (message : Wire.Message) (gateway : Gateway) : Logged (Option Wire.Message) :=
  match message with
  | .vehicleIdentificationRequest => do
    Logged.log .identificationRequested
    return some gateway.vehicleAnnouncement
  | .vehicleIdentificationRequestWithEid eid =>
    if eid = gateway.identity.eid then do
      Logged.log .eidMatched
      return some gateway.vehicleAnnouncement
    else do
      Logged.log (.eidMismatched eid.toList)
      return none
  | .vehicleIdentificationRequestWithVin vin =>
    if vin = gateway.identity.vin then do
      Logged.log .vinMatched
      return some gateway.vehicleAnnouncement
    else do
      Logged.log (.vinMismatched vin.toList)
      return none
  | .entityStatusRequest => do
    Logged.log (.statusRequested gateway.registry.openConnections.length)
    return some gateway.entityStatus
  | .powerModeRequest => do
    Logged.log .powerModeRequested
    return some (.powerModeResponse powerMode)
  | other => do
    Logged.log (.datagramIgnored other.payloadType)
    return none

/-- The answer to a datagram, if it has one. What cannot be decoded is refused to its sender with
the code of the fault. -/
def answerDatagram (peer : Net.Endpoint) (bytes : Bytes) (gateway : Gateway) :
    Logged (Option Wire.Message) := do
  Logged.log (.datagramReceived peer ⟨bytes, gateway.config.maxLogging⟩)
  match Wire.Message.ofDatagram bytes with
  | .ok message => gateway.answerMessage message
  | .error fault =>
    Logged.log (.invalidDatagram peer fault)
    return some (.genericNack fault.nackCode)

/-- Whether there is something to receive. -/
def canReceive (now : Milliseconds) (gateway : Gateway) : Bool :=
  gateway.running?.isSome && !gateway.receipts.isEmpty &&
    gateway.pausedUntil.all fun moment => moment ≤ now

/-- Where announcements go. -/
def announcementTarget (gateway : Gateway) : Net.Endpoint :=
  ⟨.v4 gateway.config.broadcastAddress, gateway.config.announcePort⟩

/-- Whether an announcement is due. -/
def canAnnounce (now : Milliseconds) (gateway : Gateway) : Bool :=
  gateway.announcing.any fun announcing => announcing.due ≤ now

/-- The announcement that follows another one. After the last one there is none. -/
def nextAnnouncement (now : Milliseconds) (announcing : Announcing) : Option Announcing :=
  if announcing.round < announcementCount then
    some ⟨announcing.round + 1, now + announcementInterval⟩
  else
    none

end Gateway

namespace Station

/-- Send a message as a datagram. A datagram that cannot be sent is lost, and the gateway goes
on. -/
def transmit (message : Wire.Message) (target : Net.Endpoint) (station : Station) :
    Logged Station :=
  match station.gateway.running? with
  | none => return station
  | some sockets =>
    match station.network.send ⟨sockets.udp, target, message.encode⟩ with
    | (some fault, network) => do
      Logged.log (.datagramSendFailed target fault)
      return { station with network := network }
    | (none, network) => do
      Logged.log (.datagramSent target message.payloadType)
      return { station with network := network }

/-- Receive one datagram, or a failure. A receipt is taken off the queue whether it can be answered
or not, so none is answered twice. -/
def receive (now : Milliseconds) (station : Station) : Logged Station :=
  match station.gateway.receipts with
  | [] => return station
  | .fault fault :: rest => do
    Logged.log (.datagramReceiveFailed fault)
    return { station with gateway := { station.gateway with
      receipts := rest
      pausedUntil := some (now + Gateway.receivePause) } }
  | .datagram peer bytes :: rest => do
    let station :=
      { station with gateway := { station.gateway with receipts := rest, pausedUntil := none } }
    match ← station.gateway.answerDatagram peer (bytes.take Gateway.maxDatagram) with
    | some answer => station.transmit answer peer
    | none => return station

/-- Send the announcement that is due. The interval to the next one begins now, whether this one
could be sent or not. -/
def announce (now : Milliseconds) (station : Station) : Logged Station :=
  match station.gateway.announcing with
  | none => return station
  | some announcing => do
    let target := station.gateway.announcementTarget
    Logged.log (.announcing target announcing.round)
    let station ← station.transmit station.gateway.vehicleAnnouncement target
    return { station with gateway := { station.gateway with
      announcing := Gateway.nextAnnouncement now announcing } }

end Station

end DiagnosticGateway
