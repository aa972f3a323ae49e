import DiagnosticGateway.Wire.Fault
import DiagnosticGateway.Wire.PayloadType
import DiagnosticGateway.Wire.Word

/-!
# The message header

Every message starts with eight bytes: the protocol version and its complement, the payload
type and the payload length. Reading checks the version pattern only. The payload type stays
a number and the length is not compared with anything, so that the caller can still skip a
message it does not understand.
-/

namespace DiagnosticGateway.Wire

/-- A header whose version pattern is sound. -/
structure Header where
  /-- The protocol version. -/
  version : UInt8
  /-- The payload type as it stands in the message. -/
  payloadCode : UInt16
  /-- The number of payload bytes announced. -/
  payloadLength : UInt32
  deriving DecidableEq, Repr

namespace Header

/-- The number of bytes of a header. -/
def size : Nat := 8

/-- The version that the gateway writes. -/
def currentVersion : UInt8 := 0x02

/-- The version of a sender that does not know the vehicle's version yet. It is accepted in
vehicle identification requests only. -/
def unspecifiedVersion : UInt8 := 0xFF

/-- The header of a message that the gateway writes. -/
def ofPayload (kind : PayloadType) (length : UInt32) : Header :=
  ⟨currentVersion, kind.code, length⟩

/-- Whether a version is accepted in a message of the given payload type. The version that is not
specified is accepted where a vehicle is looked for, and nowhere else. -/
def acceptsVersion (version : UInt8) (payloadCode : UInt16) : Bool :=
  if version = unspecifiedVersion then
    match PayloadType.ofCode? payloadCode with
    | some kind => kind.identifiesVehicle
    | none => false
  else
    1 ≤ version.toNat && version.toNat ≤ 3

/-- Read the header at the front of a string of bytes. What follows the eight bytes is not
looked at. -/
def read : Bytes → Except Fault Header
  | version :: inverse :: typeHigh :: typeLow :: first :: second :: third :: fourth :: _ =>
    let payloadCode := joinWord16 typeHigh typeLow
    if version = ~~~inverse ∧ acceptsVersion version payloadCode then
      .ok ⟨version, payloadCode, joinWord32 first second third fourth⟩
    else
      .error (.incorrectPattern version inverse)
  | short => .error (.truncated short.length)

/-- The eight bytes of a header. -/
def write (header : Header) : Bytes :=
  [header.version, ~~~header.version] ++ word16 header.payloadCode ++ word32 header.payloadLength

/-- The payload type of a header, if it is understood. -/
def kind (header : Header) : Except Fault PayloadType :=
  match PayloadType.ofCode? header.payloadCode with
  | some kind => .ok kind
  | none => .error (.unknownPayloadType header.payloadCode)

/-- Check the announced length against a limit. The limit itself is allowed. -/
def checkLength (header : Header) (limit : UInt32) : Except Fault Unit :=
  if header.payloadLength ≤ limit then .ok ()
  else .error (.messageTooLarge header.payloadLength limit)

@[simp] theorem length_write (header : Header) : header.write.length = size := rfl

end Header

end DiagnosticGateway.Wire
