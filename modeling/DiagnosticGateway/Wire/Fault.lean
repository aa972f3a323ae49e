import DiagnosticGateway.Text.Hex
import DiagnosticGateway.Wire.Code

/-!
# Protocol faults

What can be wrong with a received message, the wording of each fault, the code with which a
message is refused for it, and whether the fault costs the sender its socket.
-/

namespace DiagnosticGateway.Wire

/-- What is wrong with a received message. -/
inductive Fault where
  /-- The first two bytes are not an accepted version and its complement. -/
  | incorrectPattern (version inverse : UInt8)
  /-- The header names a payload type that is not understood. -/
  | unknownPayloadType (code : UInt16)
  /-- The header announces more bytes than are accepted. -/
  | messageTooLarge (length limit : UInt32)
  /-- The payload has a length that its type does not allow. -/
  | invalidPayloadLength (code : UInt16) (length : Nat)
  /-- There are not enough bytes for a header. -/
  | truncated (length : Nat)
  deriving DecidableEq, Repr

namespace Fault

/-- The wording of a fault. -/
def message : Fault → String
  | incorrectPattern version inverse =>
    "Incorrect header pattern: version " ++ Text.Hex.prefixedByte version ++ ", inverse " ++
      Text.Hex.prefixedByte inverse
  | unknownPayloadType code => "Unknown payload type " ++ Text.Hex.prefixedWord code
  | messageTooLarge length limit =>
    "Message too large: " ++ toString length.toNat ++ " bytes (max " ++ toString limit.toNat ++ ")"
  | invalidPayloadLength code length =>
    "Invalid payload length " ++ toString length ++ " for payload type " ++
      Text.Hex.prefixedWord code
  | truncated length => "Header truncated: " ++ toString length ++ " bytes"

/-- The code with which a message is refused. -/
def nackCode : Fault → GenericNackCode
  | incorrectPattern _ _ => .incorrectPatternFormat
  | unknownPayloadType _ => .unknownPayloadType
  | messageTooLarge _ _ => .messageTooLarge
  | invalidPayloadLength _ _ => .invalidPayloadLength
  | truncated _ => .incorrectPatternFormat

/-- Whether the socket is closed after the refusal. A message of unknown type or excessive
length can be skipped as a whole, so the socket survives it. -/
def closesSocket : Fault → Bool
  | unknownPayloadType _ => false
  | messageTooLarge _ _ => false
  | _ => true

end Fault

end DiagnosticGateway.Wire
