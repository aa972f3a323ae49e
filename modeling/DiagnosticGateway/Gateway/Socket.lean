import DiagnosticGateway.Net.Network
import DiagnosticGateway.Registry.Arbitration
import DiagnosticGateway.Wire.Frame

/-!
# Sockets of testers

A tester's socket is a stream of bytes in each direction. It first waits to be accepted and
then to be served; when it is served it gets a connection, one task that reads it and one
that writes what is queued on the connection. Bytes that have arrived stay until the reader
takes them as a frame, also when the tester has ended its stream or the stream has failed.
-/

namespace DiagnosticGateway

/-- How a stream ends once its bytes are used up. -/
inductive StreamEnd where
  /-- The tester sends nothing more. -/
  | closed
  /-- Reading fails. -/
  | failed (fault : Net.SystemFault)
  deriving DecidableEq, Repr

/-- How far the reading of a socket has come. -/
inductive Reader where
  /-- Nobody has accepted the socket yet. -/
  | waiting
  /-- The socket was accepted and will be served. -/
  | accepted
  /-- Frames of the connection are read. -/
  | reading (connection : ConnectionId)
  /-- A routing activation request of the connection waits for its decision. -/
  | deciding (connection : ConnectionId) (request : RequestId) (source : UInt16)
  | finished
  deriving DecidableEq, Repr

/-- How far the writing of a socket has come. -/
inductive Writer where
  | waiting
  /-- What is queued on the connection is written. -/
  | writing (connection : ConnectionId)
  /-- The stream to the tester has ended. -/
  | finished
  deriving DecidableEq, Repr

/-- A tester's socket. Both directions are kept: the bytes that were not read yet, and all that were
written so far. -/
structure Socket where
  /-- The tester's end. -/
  peer : Net.Endpoint
  /-- What happens when sending without delay is asked for. -/
  nodelayFault : Option Net.SystemFault
  /-- The bytes that have arrived and wait to be read. -/
  incoming : Bytes
  ending : Option StreamEnd
  reader : Reader
  /-- Everything that was written to the tester. -/
  written : Bytes
  /-- What happens when a message is written. -/
  writeFault : Option Net.SystemFault
  writer : Writer
  deriving DecidableEq

/-- The number of a socket, in the order of their arrival at a gateway. -/
abbrev SocketId := Nat

namespace Socket

/-- A socket that has just arrived. Nothing has been read or written, and no task serves it. -/
def new (peer : Net.Endpoint) (nodelayFault : Option Net.SystemFault) : Socket where
  peer := peer
  nodelayFault := nodelayFault
  incoming := []
  ending := none
  reader := .waiting
  written := []
  writeFault := none
  writer := .waiting

/-- Bytes arrive from the tester. -/
def deliver (bytes : Bytes) (socket : Socket) : Socket :=
  { socket with incoming := socket.incoming ++ bytes }

/-- The stream from the tester ends. A failure of the stream comes before its regular end. -/
def finish (ending : StreamEnd) (socket : Socket) : Socket :=
  match socket.ending, ending with
  | some (.failed _), .closed => socket
  | _, _ => { socket with ending := some ending }

/-- The gateway lets go of the socket. -/
def abandon (socket : Socket) : Socket :=
  { socket with reader := .finished, writer := .finished }

/-- Whether the stream to the tester has ended. -/
def hasEnded (socket : Socket) : Bool :=
  socket.writer == .finished

end Socket

/-- What the reader of a socket finds next. -/
inductive Inbound where
  | frame (frame : Wire.Frame)
  | ended (ending : StreamEnd)

/-- What there is to read. The end of a stream comes after its last whole frame. -/
def Socket.inbound? (limit : UInt32) (socket : Socket) : Option Inbound :=
  match Wire.Frame.read? limit socket.incoming with
  | some frame => some (.frame frame)
  | none => socket.ending.map .ended

end DiagnosticGateway
