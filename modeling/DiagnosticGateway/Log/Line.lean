import DiagnosticGateway.Log.Event
import DiagnosticGateway.Text.Dump
import DiagnosticGateway.Text.Utf8

/-!
# Log lines

A line shows the level of an event, a message and the details as `name=value`, in a fixed
order. Addresses are shown in hexadecimal and bytes as a dump.
-/

namespace DiagnosticGateway.Log

/-- How important an event is. -/
inductive Level where
  | trace
  | debug
  | info
  | warn
  | error
  deriving DecidableEq, Repr

/-- The name of a level. -/
def Level.name : Level → String
  | trace => "TRACE"
  | debug => "DEBUG"
  | info => "INFO"
  | warn => "WARN"
  | error => "ERROR"

/-- The parts of a line. -/
structure Line where
  level : Level
  message : String
  details : List (String × String)
  deriving DecidableEq, Repr

/-- The text of a line. -/
def Line.text (line : Line) : String :=
  line.details.foldl (fun text detail => text ++ " " ++ detail.1 ++ "=" ++ detail.2)
    (line.level.name ++ " " ++ line.message)

/-- The text of an excerpt. -/
def Excerpt.text (excerpt : Excerpt) : String :=
  Text.dump excerpt.bytes excerpt.limit

/-- The detail that names a connection. -/
def conn (connection : ConnectionId) : String × String :=
  ("conn", toString connection)

/-- A detail that is an address. -/
def address (name : String) (value : UInt16) : String × String :=
  (name, Text.Hex.prefixedWord value)

/-- A detail that is a payload type. -/
def payloadType (kind : Wire.PayloadType) : String × String :=
  ("payload_type", kind.name)

namespace Event

/-- The line about an event. -/
def line : Event → Line
  | connectionInitialized connection timeout =>
    ⟨.debug, "Connection initialized", [conn connection, ("timeout_ms", toString timeout)]⟩
  | connectionRegistered connection source =>
    ⟨.info, "Connection registered", [conn connection, address "source" source]⟩
  | inactivityTimerExpired connection timer =>
    ⟨.info, "Inactivity timer expired, closing connection",
      [conn connection, ("timer", timer.name)]⟩
  | messageQueued connection message =>
    ⟨.trace, "Queue message", [conn connection, payloadType message.payloadType]⟩
  | messageDropped connection message =>
    ⟨.debug, "Connection closed, message dropped", [conn connection, payloadType message.payloadType]⟩
  | connectionClosed connection => ⟨.debug, "Connection closed", [conn connection]⟩
  | unsolicitedAliveCheckResponse connection source =>
    ⟨.debug, "Unsolicited alive check response", [conn connection, address "source" source]⟩
  | aliveCheckRequestSent connection => ⟨.debug, "Alive check request sent", [conn connection]⟩
  | aliveCheckTargetClosed connection =>
    ⟨.debug, "Alive check target already closed", [conn connection]⟩
  | aliveCheckInterrupted targets =>
    ⟨.error, "Alive check wait interrupted, deciding on partial responses",
      [("targets", toString targets)]⟩
  | aliveCheckResponseIgnored connection source =>
    ⟨.debug, "Alive check response does not match registered address, ignored",
      [conn connection, address "source" source]⟩
  | aliveCheckSilent connection =>
    ⟨.info, "No alive check response, closing connection", [conn connection]⟩
  | connectionAdded connection => ⟨.debug, "Connection added to registry", [conn connection]⟩
  | connectionRemoved connection => ⟨.debug, "Connection removed from registry", [conn connection]⟩
  | differentSourceRequested connection registered requested =>
    ⟨.debug, "Different source address requested on registered socket",
      [conn connection, address "registered" registered, address "requested" requested]⟩
  | capacityProbe registered limit =>
    ⟨.info, "All sockets registered, alive checking them",
      [("registered", toString registered), ("max", toString limit)]⟩
  | holderProbe connection holder source =>
    ⟨.info, "Source address registered on another socket, alive checking it",
      [conn connection, ("holder", toString holder), address "source" source]⟩
  | stillRegistered connection holder source =>
    ⟨.warn, "Source address still registered after alive check",
      [conn connection, ("holder", toString holder), address "source" source]⟩
  | closedDuringArbitration connection =>
    ⟨.debug, "Connection closed during arbitration, not registered", [conn connection]⟩
  | activationDecided connection source code =>
    ⟨.info, "Routing activation decided",
      [conn connection, address "source" source, ("code", code.name)]⟩
  | ecuStarted ecu physical functional lookupEntries =>
    ⟨.info, "ECU started",
      [("ecu", ecu), address "physical" physical, address "functional" functional,
        ("lookup_entries", toString lookupEntries)]⟩
  | ecuStopped ecu => ⟨.info, "ECU stopped", [("ecu", ecu)]⟩
  | ecuNotRunning ecu => ⟨.warn, "ECU not running, request dropped", [("ecu", ecu)]⟩
  | ecuBusy ecu => ⟨.info, "ECU busy, answering busy-repeat-request", [("ecu", ecu)]⟩
  | ecuRequest ecu source addressing data =>
    ⟨.info, "UDS request",
      [("ecu", ecu), address "source" source, ("addressing", addressing.name), ("data", data.text)]⟩
  | ecuResponse ecu target data =>
    ⟨.debug, "UDS response", [("ecu", ecu), address "target" target, ("data", data.text)]⟩
  | patternFound ecu => ⟨.debug, "Found matching request pattern", [("ecu", ecu)]⟩
  | patternMissing ecu => ⟨.debug, "No matching request pattern", [("ecu", ecu)]⟩
  | holdReleased ecu => ⟨.debug, "Held request released", [("ecu", ecu)]⟩
  | holdReleasedByBusy ecu => ⟨.debug, "Held request released after busy answer", [("ecu", ecu)]⟩
  | genericNackIgnored connection code =>
    ⟨.warn, "Received generic header NACK, ignored", [conn connection, ("code", code.name)]⟩
  | unexpectedMessage connection kind =>
    ⟨.info, "Unexpected message on TCP, ignored", [conn connection, payloadType kind]⟩
  | unsupportedActivation connection type =>
    ⟨.warn, "Unsupported routing activation type",
      [conn connection, ("activation_type", type.name)]⟩
  | activationDenied connection code =>
    ⟨.debug, "Routing activation denied, closing socket", [conn connection, ("code", code.name)]⟩
  | diagnosticReceived connection source target data =>
    ⟨.info, "Diagnostic message received",
      [conn connection, address "source" source, address "target" target, ("data", data.text)]⟩
  | sourceNotRegistered connection source =>
    ⟨.warn, "Source address not registered on this socket",
      [conn connection, address "source" source]⟩
  | targetUnknown connection target =>
    ⟨.warn, "No ECU with target address", [conn connection, address "target" target]⟩
  | requestForwarded ecu addressing =>
    ⟨.debug, "Forward request to ECU", [("ecu", ecu), ("addressing", addressing.name)]⟩
  | responseDropped source target =>
    ⟨.info, "No connection registered for response target, response dropped",
      [address "source" source, address "target" target]⟩
  | responseSent connection source target data =>
    ⟨.debug, "Send diagnostic response",
      [conn connection, address "source" source, address "target" target, ("data", data.text)]⟩
  | routingStopped => ⟨.warn, "ECU response routing stopped", []⟩
  | socketLimitReached peer limit =>
    ⟨.warn, "Socket limit reached, connection refused",
      [("peer", peer.text), ("max", toString limit.toNat)]⟩
  | acceptFailed fault => ⟨.warn, "TCP accept failed", [("e", fault.message)]⟩
  | nodelayFailed peer fault =>
    ⟨.debug, "Failed to set TCP_NODELAY", [("peer", peer.text), ("e", fault.message)]⟩
  | tcpAccepted connection peer =>
    ⟨.info, "TCP connection accepted", [conn connection, ("peer", peer.text)]⟩
  | tcpFinished connection peer =>
    ⟨.info, "TCP connection finished", [conn connection, ("peer", peer.text)]⟩
  | invalidFrame connection fault =>
    ⟨.warn, "Invalid DoIP frame", [conn connection, ("e", fault.message)]⟩
  | peerClosed connection => ⟨.debug, "Peer closed the connection", [conn connection]⟩
  | receiveFailed connection fault =>
    ⟨.warn, "TCP receive failed", [conn connection, ("e", fault.message)]⟩
  | sendFailed connection fault =>
    ⟨.warn, "TCP send failed, closing connection", [conn connection, ("e", fault.message)]⟩
  | writerStopped connection => ⟨.debug, "TCP writer stopped", [conn connection]⟩
  | datagramReceiveFailed fault => ⟨.warn, "UDP receive failed", [("e", fault.message)]⟩
  | datagramReceived peer data =>
    ⟨.debug, "UDP datagram received", [("peer", peer.text), ("data", data.text)]⟩
  | invalidDatagram peer fault =>
    ⟨.warn, "Invalid DoIP datagram", [("peer", peer.text), ("e", fault.message)]⟩
  | datagramSent target kind =>
    ⟨.debug, "UDP message sent", [("target", target.text), payloadType kind]⟩
  | datagramSendFailed target fault =>
    ⟨.warn, "UDP send failed", [("target", target.text), ("e", fault.message)]⟩
  | datagramIgnored kind => ⟨.debug, "Datagram ignored", [payloadType kind]⟩
  | announcing target round =>
    ⟨.info, "Send vehicle announcement", [("target", target.text), ("round", toString round)]⟩
  | identificationRequested => ⟨.info, "Vehicle identification request", []⟩
  | eidMatched => ⟨.info, "Vehicle identification request with matching EID", []⟩
  | eidMismatched eid =>
    ⟨.debug, "EID does not match, no response", [("eid", Text.dump eid eid.length)]⟩
  | vinMatched => ⟨.info, "Vehicle identification request with matching VIN", []⟩
  | vinMismatched vin =>
    ⟨.debug, "VIN does not match, no response", [("vin", Text.Utf8.display vin)]⟩
  | statusRequested openSockets =>
    ⟨.info, "Entity status request", [("open_sockets", toString openSockets)]⟩
  | powerModeRequested => ⟨.info, "Diagnostic power mode request", []⟩
  | multicastJoined group => ⟨.debug, "Joined multicast group", [("group", group.text)]⟩
  | gatewayStarted gateway tcp udp ecus =>
    ⟨.info, "Gateway started",
      [("gateway", gateway), ("tcp", tcp.text), ("udp", udp.text), ("ecus", toString ecus)]⟩
  | gatewayStopped gateway => ⟨.info, "Gateway stopped", [("gateway", gateway)]⟩

end Event

end DiagnosticGateway.Log
