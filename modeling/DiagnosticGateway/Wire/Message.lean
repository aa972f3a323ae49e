import DiagnosticGateway.Wire.Code
import DiagnosticGateway.Wire.Octets
import DiagnosticGateway.Wire.PayloadType

/-!
# Messages

One constructor per payload type, with the fields that its payload carries. A trailing field
that a sender may leave out is an option. Reserved bytes carry nothing and are no field.
-/

namespace DiagnosticGateway.Wire

/-- A vehicle announcement, which is also the answer to an identification request. -/
structure Announcement where
  vin : Octets 17
  logicalAddress : UInt16
  eid : Octets 6
  gid : Octets 6
  furtherAction : UInt8
  syncStatus : Option UInt8
  deriving DecidableEq

/-- A tester asks to be registered on its socket. -/
structure ActivationRequest where
  sourceAddress : UInt16
  activationType : ActivationType
  oemSpecific : Option (Octets 4)
  deriving DecidableEq

/-- The answer to a routing activation request. -/
structure ActivationResponse where
  testerAddress : UInt16
  entityAddress : UInt16
  code : ActivationCode
  oemSpecific : Option (Octets 4)
  deriving DecidableEq

/-- The state of the gateway's sockets. -/
structure EntityStatus where
  nodeType : UInt8
  maxConcurrentSockets : UInt8
  openSockets : UInt8
  maxDataSize : Option UInt32
  deriving DecidableEq

/-- A diagnostic request or response. -/
structure Diagnostic where
  sourceAddress : UInt16
  targetAddress : UInt16
  userData : Bytes
  deriving DecidableEq

/-- An acknowledge of a diagnostic message, positive or negative by the type of its code. -/
structure Acknowledge (code : Type) where
  sourceAddress : UInt16
  targetAddress : UInt16
  code : code
  previousData : Bytes
  deriving DecidableEq

/-- A message of the diagnostic protocol. -/
inductive Message where
  | genericNack (code : GenericNackCode)
  | vehicleIdentificationRequest
  | vehicleIdentificationRequestWithEid (eid : Octets 6)
  | vehicleIdentificationRequestWithVin (vin : Octets 17)
  | vehicleAnnouncement (body : Announcement)
  | routingActivationRequest (body : ActivationRequest)
  | routingActivationResponse (body : ActivationResponse)
  | aliveCheckRequest
  | aliveCheckResponse (sourceAddress : UInt16)
  | entityStatusRequest
  | entityStatusResponse (body : EntityStatus)
  | powerModeRequest
  | powerModeResponse (mode : UInt8)
  | diagnosticMessage (body : Diagnostic)
  | diagnosticMessagePositiveAck (body : Acknowledge DiagnosticAckCode)
  | diagnosticMessageNegativeAck (body : Acknowledge DiagnosticNackCode)
  deriving DecidableEq

namespace Message

/-- The payload type of a message. -/
def payloadType : Message → PayloadType
  | genericNack _ => .genericNack
  | vehicleIdentificationRequest => .vehicleIdentificationRequest
  | vehicleIdentificationRequestWithEid _ => .vehicleIdentificationRequestWithEid
  | vehicleIdentificationRequestWithVin _ => .vehicleIdentificationRequestWithVin
  | vehicleAnnouncement _ => .vehicleAnnouncement
  | routingActivationRequest _ => .routingActivationRequest
  | routingActivationResponse _ => .routingActivationResponse
  | aliveCheckRequest => .aliveCheckRequest
  | aliveCheckResponse _ => .aliveCheckResponse
  | entityStatusRequest => .entityStatusRequest
  | entityStatusResponse _ => .entityStatusResponse
  | powerModeRequest => .powerModeRequest
  | powerModeResponse _ => .powerModeResponse
  | diagnosticMessage _ => .diagnosticMessage
  | diagnosticMessagePositiveAck _ => .diagnosticMessagePositiveAck
  | diagnosticMessageNegativeAck _ => .diagnosticMessageNegativeAck

/-- The answer to the routing activation request of a tester. -/
def activationResponse (tester entity : UInt16) (code : ActivationCode) : Message :=
  routingActivationResponse ⟨tester, entity, code, none⟩

/-- A diagnostic message. -/
def diagnostic (source target : UInt16) (data : Bytes) : Message :=
  diagnosticMessage ⟨source, target, data⟩

/-- The positive acknowledge that is sent from `source` to `target`. -/
def diagnosticAck (source target : UInt16) : Message :=
  diagnosticMessagePositiveAck ⟨source, target, .acknowledged, []⟩

/-- The negative acknowledge that is sent from `source` to `target`. -/
def diagnosticNack (source target : UInt16) (code : DiagnosticNackCode) : Message :=
  diagnosticMessageNegativeAck ⟨source, target, code, []⟩

end Message

end DiagnosticGateway.Wire
