import DiagnosticGateway.Bytes

/-!
# Diagnostic services

The byte layout of diagnostic requests and responses as far as a simulated ECU needs it: a
request starts with its service, a positive response with the service raised by 0x40, and a
negative response consists of a marker, the service and a reason.
-/

namespace DiagnosticGateway.Ecu.Uds

/-- The first byte of a negative response. -/
def negativeMarker : UInt8 := 0x7F

/-- The reason of a request that nothing answers. -/
def generalReject : UInt8 := 0x10

/-- The reason of a request that arrives while another is in flight. -/
def busyRepeatRequest : UInt8 := 0x21

/-- The service of a request, zero for an empty one. -/
def requestService (request : Bytes) : UInt8 :=
  request.headD 0

/-- The positive response of a service. -/
def positiveResponse (service : UInt8) (data : Bytes) : Bytes :=
  (service + 0x40) :: data

/-- The negative response of a service. -/
def negativeResponse (service reason : UInt8) : Bytes :=
  [negativeMarker, service, reason]

end DiagnosticGateway.Ecu.Uds
