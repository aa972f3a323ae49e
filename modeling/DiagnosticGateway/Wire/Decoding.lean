import DiagnosticGateway.Wire.Header
import DiagnosticGateway.Wire.Message

/-!
# Reading messages

A payload is read field by field, and the read succeeds if the last field ends where the
payload ends. Which lengths a payload type allows follows from its fields and is stated
beside the readers as `PayloadType.admits`; a payload of another length is refused with the
type and the length it has.
-/

namespace DiagnosticGateway.Wire

/-- Accept a value if nothing is left to read. -/
def ended {value : Type} (result : value) : Bytes → Option value
  | [] => some result
  | _ :: _ => none

/-- Read a trailing field that may be absent and ends the payload. -/
def readTrailing {field : Type} (read : Bytes → Option (field × Bytes)) :
    Bytes → Option (Option field)
  | [] => some none
  | bytes =>
    match read bytes with
    | some (value, []) => some (some value)
    | _ => none

/-- Read a vehicle announcement. -/
def Announcement.read (payload : Bytes) : Option Announcement := do
  let (vin, rest) ← Octets.read 17 payload
  let (logicalAddress, rest) ← readWord16 rest
  let (eid, rest) ← Octets.read 6 rest
  let (gid, rest) ← Octets.read 6 rest
  let (furtherAction, rest) ← readByte rest
  let syncStatus ← readTrailing readByte rest
  some ⟨vin, logicalAddress, eid, gid, furtherAction, syncStatus⟩

/-- Read a routing activation request. Its reserved field may hold anything. -/
def ActivationRequest.read (payload : Bytes) : Option ActivationRequest := do
  let (sourceAddress, rest) ← readWord16 payload
  let (activationType, rest) ← readByte rest
  let (_, rest) ← readWord32 rest
  let oemSpecific ← readTrailing (Octets.read 4) rest
  some ⟨sourceAddress, ActivationType.ofByte activationType, oemSpecific⟩

/-- Read a routing activation response. Its reserved field may hold anything. -/
def ActivationResponse.read (payload : Bytes) : Option ActivationResponse := do
  let (testerAddress, rest) ← readWord16 payload
  let (entityAddress, rest) ← readWord16 rest
  let (code, rest) ← readByte rest
  let (_, rest) ← readWord32 rest
  let oemSpecific ← readTrailing (Octets.read 4) rest
  some ⟨testerAddress, entityAddress, ActivationCode.ofByte code, oemSpecific⟩

/-- Read an entity status response. -/
def EntityStatus.read (payload : Bytes) : Option EntityStatus := do
  let (nodeType, rest) ← readByte payload
  let (maxConcurrentSockets, rest) ← readByte rest
  let (openSockets, rest) ← readByte rest
  let maxDataSize ← readTrailing readWord32 rest
  some ⟨nodeType, maxConcurrentSockets, openSockets, maxDataSize⟩

/-- Read a diagnostic message. It carries at least one byte of user data. -/
def Diagnostic.read (payload : Bytes) : Option Diagnostic := do
  let (sourceAddress, rest) ← readWord16 payload
  let (targetAddress, rest) ← readWord16 rest
  match rest with
  | [] => none
  | first :: more => some ⟨sourceAddress, targetAddress, first :: more⟩

/-- Read an acknowledge whose code is given by `ofByte`. -/
def Acknowledge.read {code : Type} (ofByte : UInt8 → code) (payload : Bytes) :
    Option (Acknowledge code) := do
  let (sourceAddress, rest) ← readWord16 payload
  let (targetAddress, rest) ← readWord16 rest
  let (code, previousData) ← readByte rest
  some ⟨sourceAddress, targetAddress, ofByte code, previousData⟩

namespace PayloadType

/-- Whether a payload of this type may have the given length: one fixed length, a length with
and without the trailing field, or a least length. -/
def admits (length : Nat) : PayloadType → Bool
  | genericNack => length == 1
  | vehicleIdentificationRequest => length == 0
  | vehicleIdentificationRequestWithEid => length == 6
  | vehicleIdentificationRequestWithVin => length == 17
  | vehicleAnnouncement => length == 32 || length == 33
  | routingActivationRequest => length == 7 || length == 11
  | routingActivationResponse => length == 9 || length == 13
  | aliveCheckRequest => length == 0
  | aliveCheckResponse => length == 2
  | entityStatusRequest => length == 0
  | entityStatusResponse => length == 3 || length == 7
  | powerModeRequest => length == 0
  | powerModeResponse => length == 1
  | diagnosticMessage => 5 ≤ length
  | diagnosticMessagePositiveAck => 5 ≤ length
  | diagnosticMessageNegativeAck => 5 ≤ length

/-- The message of this type with the given payload, if the payload has an allowed length. -/
def readPayload (payload : Bytes) : PayloadType → Option Message
  | genericNack => do
    let (code, rest) ← readByte payload
    ended (.genericNack (GenericNackCode.ofByte code)) rest
  | vehicleIdentificationRequest => ended .vehicleIdentificationRequest payload
  | vehicleIdentificationRequestWithEid =>
    (Octets.ofList? 6 payload).map .vehicleIdentificationRequestWithEid
  | vehicleIdentificationRequestWithVin =>
    (Octets.ofList? 17 payload).map .vehicleIdentificationRequestWithVin
  | vehicleAnnouncement => (Announcement.read payload).map .vehicleAnnouncement
  | routingActivationRequest => (ActivationRequest.read payload).map .routingActivationRequest
  | routingActivationResponse => (ActivationResponse.read payload).map .routingActivationResponse
  | aliveCheckRequest => ended .aliveCheckRequest payload
  | aliveCheckResponse => do
    let (sourceAddress, rest) ← readWord16 payload
    ended (.aliveCheckResponse sourceAddress) rest
  | entityStatusRequest => ended .entityStatusRequest payload
  | entityStatusResponse => (EntityStatus.read payload).map .entityStatusResponse
  | powerModeRequest => ended .powerModeRequest payload
  | powerModeResponse => do
    let (mode, rest) ← readByte payload
    ended (.powerModeResponse mode) rest
  | diagnosticMessage => (Diagnostic.read payload).map .diagnosticMessage
  | diagnosticMessagePositiveAck =>
    (Acknowledge.read DiagnosticAckCode.ofByte payload).map .diagnosticMessagePositiveAck
  | diagnosticMessageNegativeAck =>
    (Acknowledge.read DiagnosticNackCode.ofByte payload).map .diagnosticMessageNegativeAck

end PayloadType

namespace Message

/-- The message with the given header and payload. The length in the header is not consulted. -/
def decode (header : Header) (payload : Bytes) : Except Fault Message :=
  match header.kind with
  | .error fault => .error fault
  | .ok kind =>
    match kind.readPayload payload with
    | some message => .ok message
    | none => .error (.invalidPayloadLength kind.code payload.length)

end Message

end DiagnosticGateway.Wire
