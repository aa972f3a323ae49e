/-!
# Payload types

Sixteen kinds of message are understood. Each has a 16-bit code and a name; a code that
belongs to none of them is kept as a number elsewhere, so that such a message can still be
skipped.
-/

namespace DiagnosticGateway.Wire

/-- The kinds of message that the gateway understands. -/
inductive PayloadType where
  | genericNack
  | vehicleIdentificationRequest
  | vehicleIdentificationRequestWithEid
  | vehicleIdentificationRequestWithVin
  | vehicleAnnouncement
  | routingActivationRequest
  | routingActivationResponse
  | aliveCheckRequest
  | aliveCheckResponse
  | entityStatusRequest
  | entityStatusResponse
  | powerModeRequest
  | powerModeResponse
  | diagnosticMessage
  | diagnosticMessagePositiveAck
  | diagnosticMessageNegativeAck
  deriving DecidableEq, Repr

namespace PayloadType

/-- The code of a payload type in the header. -/
def code : PayloadType → UInt16
  | genericNack => 0x0000
  | vehicleIdentificationRequest => 0x0001
  | vehicleIdentificationRequestWithEid => 0x0002
  | vehicleIdentificationRequestWithVin => 0x0003
  | vehicleAnnouncement => 0x0004
  | routingActivationRequest => 0x0005
  | routingActivationResponse => 0x0006
  | aliveCheckRequest => 0x0007
  | aliveCheckResponse => 0x0008
  | entityStatusRequest => 0x4001
  | entityStatusResponse => 0x4002
  | powerModeRequest => 0x4003
  | powerModeResponse => 0x4004
  | diagnosticMessage => 0x8001
  | diagnosticMessagePositiveAck => 0x8002
  | diagnosticMessageNegativeAck => 0x8003

/-- Every payload type, in the order of their codes. -/
def all : List PayloadType :=
  [genericNack, vehicleIdentificationRequest, vehicleIdentificationRequestWithEid,
    vehicleIdentificationRequestWithVin, vehicleAnnouncement, routingActivationRequest,
    routingActivationResponse, aliveCheckRequest, aliveCheckResponse, entityStatusRequest,
    entityStatusResponse, powerModeRequest, powerModeResponse, diagnosticMessage,
    diagnosticMessagePositiveAck, diagnosticMessageNegativeAck]

/-- The payload type with a given code, if there is one. -/
def ofCode? (code : UInt16) : Option PayloadType :=
  all.find? fun kind => kind.code == code

/-- The name of a payload type in the log and in reports. -/
def name : PayloadType → String
  | genericNack => "GenericNack"
  | vehicleIdentificationRequest => "VehicleIdentificationRequest"
  | vehicleIdentificationRequestWithEid => "VehicleIdentificationRequestWithEid"
  | vehicleIdentificationRequestWithVin => "VehicleIdentificationRequestWithVin"
  | vehicleAnnouncement => "VehicleAnnouncement"
  | routingActivationRequest => "RoutingActivationRequest"
  | routingActivationResponse => "RoutingActivationResponse"
  | aliveCheckRequest => "AliveCheckRequest"
  | aliveCheckResponse => "AliveCheckResponse"
  | entityStatusRequest => "EntityStatusRequest"
  | entityStatusResponse => "EntityStatusResponse"
  | powerModeRequest => "PowerModeRequest"
  | powerModeResponse => "PowerModeResponse"
  | diagnosticMessage => "DiagnosticMessage"
  | diagnosticMessagePositiveAck => "DiagnosticMessagePositiveAck"
  | diagnosticMessageNegativeAck => "DiagnosticMessageNegativeAck"

/-- Whether a payload type asks the vehicle to identify itself. -/
def identifiesVehicle : PayloadType → Bool
  | vehicleIdentificationRequest => true
  | vehicleIdentificationRequestWithEid => true
  | vehicleIdentificationRequestWithVin => true
  | _ => false

@[simp] theorem ofCode?_code (kind : PayloadType) : ofCode? kind.code = some kind := by
  cases kind <;> rfl

/-- A code belongs to a payload type exactly if it is the code of that type. -/
theorem ofCode?_eq_some_iff {code : UInt16} {kind : PayloadType} :
    ofCode? code = some kind ↔ kind.code = code := by
  constructor
  · intro found
    have := List.find?_some found
    simpa using this
  · rintro rfl
    simp

end PayloadType

end DiagnosticGateway.Wire
