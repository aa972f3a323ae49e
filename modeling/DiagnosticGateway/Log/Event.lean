import DiagnosticGateway.Net.Ip
import DiagnosticGateway.Net.SystemFault
import DiagnosticGateway.Wire.Fault
import DiagnosticGateway.Wire.Message

/-!
# Events

Everything the gateway logs, as data: one constructor per kind of event, with what the line
about it shows, or a message of which the line shows the type. How a line looks is decided
in one place, so a statement about what happened never speaks about text.
-/

namespace DiagnosticGateway

/-- The number of a connection, unique within its gateway. -/
abbrev ConnectionId := Nat

/-- A moment or a span of time, in milliseconds. -/
abbrev Milliseconds := Nat

/-- The two inactivity timers of a connection. -/
inductive TimerKind where
  /-- Runs from accept until routing is activated. -/
  | initial
  /-- Runs while registered and is restarted by inbound data. -/
  | general
  deriving DecidableEq, Repr

/-- How a request reached an ECU. -/
inductive Addressing where
  | physical
  | functional
  deriving DecidableEq, Repr

/-- The name of a timer. -/
def TimerKind.name : TimerKind → String
  | initial => "initial"
  | general => "general"

/-- The name of an addressing mode. -/
def Addressing.name : Addressing → String
  | physical => "Physical"
  | functional => "Functional"

namespace Log

/-- Bytes as a line shows them: at most `limit` of them. -/
structure Excerpt where
  bytes : Bytes
  limit : Nat
  deriving DecidableEq, Repr

/-- An event that is logged. -/
inductive Event where
  -- A connection
  | connectionInitialized (connection : ConnectionId) (timeout : Milliseconds)
  | connectionRegistered (connection : ConnectionId) (source : UInt16)
  | inactivityTimerExpired (connection : ConnectionId) (timer : TimerKind)
  | messageQueued (connection : ConnectionId) (message : Wire.Message)
  | messageDropped (connection : ConnectionId) (message : Wire.Message)
  | connectionClosed (connection : ConnectionId)
  | unsolicitedAliveCheckResponse (connection : ConnectionId) (source : UInt16)
  -- An alive check
  | aliveCheckRequestSent (connection : ConnectionId)
  | aliveCheckTargetClosed (connection : ConnectionId)
  | aliveCheckInterrupted (targets : Nat)
  | aliveCheckResponseIgnored (connection : ConnectionId) (source : UInt16)
  | aliveCheckSilent (connection : ConnectionId)
  -- The registry
  | connectionAdded (connection : ConnectionId)
  | connectionRemoved (connection : ConnectionId)
  | differentSourceRequested (connection : ConnectionId) (registered requested : UInt16)
  | capacityProbe (registered limit : Nat)
  | holderProbe (connection holder : ConnectionId) (source : UInt16)
  | stillRegistered (connection holder : ConnectionId) (source : UInt16)
  | closedDuringArbitration (connection : ConnectionId)
  | activationDecided (connection : ConnectionId) (source : UInt16) (code : Wire.ActivationCode)
  -- An ECU
  | ecuStarted (ecu : String) (physical functional : UInt16) (lookupEntries : Nat)
  | ecuStopped (ecu : String)
  | ecuNotRunning (ecu : String)
  | ecuBusy (ecu : String)
  | ecuRequest (ecu : String) (source : UInt16) (addressing : Addressing) (data : Excerpt)
  | ecuResponse (ecu : String) (target : UInt16) (data : Excerpt)
  | patternFound (ecu : String)
  | patternMissing (ecu : String)
  | holdReleased (ecu : String)
  | holdReleasedByBusy (ecu : String)
  -- Messages on a connection
  | genericNackIgnored (connection : ConnectionId) (code : Wire.GenericNackCode)
  | unexpectedMessage (connection : ConnectionId) (kind : Wire.PayloadType)
  | unsupportedActivation (connection : ConnectionId) (type : Wire.ActivationType)
  | activationDenied (connection : ConnectionId) (code : Wire.ActivationCode)
  | diagnosticReceived (connection : ConnectionId) (source target : UInt16) (data : Excerpt)
  | sourceNotRegistered (connection : ConnectionId) (source : UInt16)
  | targetUnknown (connection : ConnectionId) (target : UInt16)
  | requestForwarded (ecu : String) (addressing : Addressing)
  | responseDropped (source target : UInt16)
  | responseSent (connection : ConnectionId) (source target : UInt16) (data : Excerpt)
  | routingStopped
  -- Sockets
  | socketLimitReached (peer : Net.Endpoint) (limit : UInt8)
  | acceptFailed (fault : Net.SystemFault)
  | nodelayFailed (peer : Net.Endpoint) (fault : Net.SystemFault)
  | tcpAccepted (connection : ConnectionId) (peer : Net.Endpoint)
  | tcpFinished (connection : ConnectionId) (peer : Net.Endpoint)
  | invalidFrame (connection : ConnectionId) (fault : Wire.Fault)
  | peerClosed (connection : ConnectionId)
  | receiveFailed (connection : ConnectionId) (fault : Net.SystemFault)
  | sendFailed (connection : ConnectionId) (fault : Net.SystemFault)
  | writerStopped (connection : ConnectionId)
  -- Datagrams
  | datagramReceiveFailed (fault : Net.SystemFault)
  | datagramReceived (peer : Net.Endpoint) (data : Excerpt)
  | invalidDatagram (peer : Net.Endpoint) (fault : Wire.Fault)
  | datagramSent (target : Net.Endpoint) (kind : Wire.PayloadType)
  | datagramSendFailed (target : Net.Endpoint) (fault : Net.SystemFault)
  | datagramIgnored (kind : Wire.PayloadType)
  | announcing (target : Net.Endpoint) (round : Nat)
  | identificationRequested
  | eidMatched
  | eidMismatched (eid : Bytes)
  | vinMatched
  | vinMismatched (vin : Bytes)
  | statusRequested (openSockets : Nat)
  | powerModeRequested
  -- A gateway
  | multicastJoined (group : Net.Ipv4)
  | gatewayStarted (gateway : String) (tcp udp : Net.Endpoint) (ecus : Nat)
  | gatewayStopped (gateway : String)
  deriving DecidableEq

end Log

end DiagnosticGateway
