import DiagnosticGateway.Wire.Header
import DiagnosticGateway.Wire.Message

/-!
# Writing messages

A message is written as a header with the current version followed by its payload. Reserved
fields are written as zeros and a trailing field that is absent is not written at all.
-/

namespace DiagnosticGateway.Wire

/-- The bytes of a trailing field that may be absent. -/
def trailing {field : Type} (write : field → Bytes) : Option field → Bytes
  | some value => write value
  | none => []

/-- The reserved field of a routing activation. -/
def reservedField : Bytes := [0, 0, 0, 0]

/-- The payload of a vehicle announcement. -/
def Announcement.write (body : Announcement) : Bytes :=
  body.vin.toList ++ (word16 body.logicalAddress ++ (body.eid.toList ++ (body.gid.toList ++
    (body.furtherAction :: trailing (fun status => [status]) body.syncStatus))))

/-- The payload of a routing activation request. -/
def ActivationRequest.write (body : ActivationRequest) : Bytes :=
  word16 body.sourceAddress ++ (body.activationType.toByte ::
    (reservedField ++ trailing Octets.toList body.oemSpecific))

/-- The payload of a routing activation response. -/
def ActivationResponse.write (body : ActivationResponse) : Bytes :=
  word16 body.testerAddress ++ (word16 body.entityAddress ++ (body.code.toByte ::
    (reservedField ++ trailing Octets.toList body.oemSpecific)))

/-- The payload of an entity status response. -/
def EntityStatus.write (body : EntityStatus) : Bytes :=
  body.nodeType :: body.maxConcurrentSockets :: body.openSockets ::
    trailing word32 body.maxDataSize

/-- The payload of a diagnostic message. -/
def Diagnostic.write (body : Diagnostic) : Bytes :=
  word16 body.sourceAddress ++ (word16 body.targetAddress ++ body.userData)

/-- The payload of an acknowledge whose code is written by `toByte`. -/
def Acknowledge.write {code : Type} (toByte : code → UInt8) (body : Acknowledge code) : Bytes :=
  word16 body.sourceAddress ++ (word16 body.targetAddress ++
    (toByte body.code :: body.previousData))

namespace Message

/-- The payload of a message. -/
def payload : Message → Bytes
  | genericNack code => [code.toByte]
  | vehicleIdentificationRequest => []
  | vehicleIdentificationRequestWithEid eid => eid.toList
  | vehicleIdentificationRequestWithVin vin => vin.toList
  | vehicleAnnouncement body => body.write
  | routingActivationRequest body => body.write
  | routingActivationResponse body => body.write
  | aliveCheckRequest => []
  | aliveCheckResponse sourceAddress => word16 sourceAddress
  | entityStatusRequest => []
  | entityStatusResponse body => body.write
  | powerModeRequest => []
  | powerModeResponse mode => [mode]
  | diagnosticMessage body => body.write
  | diagnosticMessagePositiveAck body => body.write DiagnosticAckCode.toByte
  | diagnosticMessageNegativeAck body => body.write DiagnosticNackCode.toByte

/-- The header of a message. The length field holds the payload length modulo 2^32. -/
def header (message : Message) : Header :=
  Header.ofPayload message.payloadType (UInt32.ofNat message.payload.length)

/-- The whole message as it goes over the wire. -/
def encode (message : Message) : Bytes :=
  message.header.write ++ message.payload

end Message

end DiagnosticGateway.Wire
