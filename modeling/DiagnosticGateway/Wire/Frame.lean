import DiagnosticGateway.Wire.Decoding
import DiagnosticGateway.Wire.Header

/-!
# Frames of a stream and datagrams

A stream carries frames without gaps: a header and as many payload bytes as it announces. A
frame is judged when it is there as a whole, so the next one starts right after it even if
it is refused. Only a header with an unsound version pattern is refused before its payload,
because its length cannot be trusted.

A datagram carries one message, and its size must be what the header announces.
-/

namespace DiagnosticGateway.Wire

/-- A frame that was taken from the front of a stream. -/
structure Frame where
  /-- The message, or why the frame is refused. -/
  content : Except Fault Message
  /-- The bytes after the frame. -/
  rest : Bytes

namespace Frame

/-- What a sound header with its payload comes to on a stream with a size limit. -/
def judge (limit : UInt32) (header : Header) (payload : Bytes) : Except Fault Message :=
  match header.kind with
  | .error fault => .error fault
  | .ok _ =>
    match header.checkLength limit with
    | .error fault => .error fault
    | .ok _ => Message.decode header payload

/-- Take the first frame from the front of a stream, if it is there as a whole. Nothing is taken
while bytes of the payload are missing, whatever the header says of it. -/
def read? (limit : UInt32) (bytes : Bytes) : Option Frame :=
  if bytes.length < Header.size then none
  else
    let rest := bytes.drop Header.size
    match Header.read bytes with
    | .error fault => some ⟨.error fault, rest⟩
    | .ok header =>
      let length := header.payloadLength.toNat
      if rest.length < length then none
      else some ⟨judge limit header (rest.take length), rest.drop length⟩

end Frame

/-- The message in a datagram. The kind is judged before the size, as no size is right for a kind
that is not known. -/
def Message.ofDatagram (bytes : Bytes) : Except Fault Message :=
  match Header.read bytes with
  | .error fault => .error fault
  | .ok header =>
    match header.kind with
    | .error fault => .error fault
    | .ok _ =>
      let payload := bytes.drop Header.size
      if payload.length = header.payloadLength.toNat then Message.decode header payload
      else .error (.invalidPayloadLength header.payloadCode payload.length)

end DiagnosticGateway.Wire
