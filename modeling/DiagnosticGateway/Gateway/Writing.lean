import DiagnosticGateway.Gateway.Basic
import DiagnosticGateway.Wire.Encoding

/-!
# Writing to testers

One task for every socket writes what is queued on its connection, message by message in the
order of the queue. It ends when the connection is closed and everything that was queued is
written, or when writing fails, which closes the connection. With it the stream to the
tester ends.

A message is written as a whole or not at all. That a write fails after some of the bytes of a
message have gone out, so that the tester gets the beginning of a frame, is not modelled.
-/

namespace DiagnosticGateway.Gateway

/-- Whether the writer of a socket can go on: a message is queued, or none will be any more. -/
def canWrite (gateway : Gateway) (socket : Socket) : Bool :=
  match socket.writer with
  | .writing connection =>
    (gateway.registry.pool.get? connection).any fun connection =>
      !connection.outbound.isEmpty || !connection.sending
  | _ => false

/-- Change the queue of a connection. -/
def setOutbound (connection : ConnectionId) (outbound : List Wire.Message) (gateway : Gateway) :
    Gateway :=
  { gateway with registry := { gateway.registry with
      pool := gateway.registry.pool.update connection fun connection =>
        { connection with outbound := outbound } } }

/-- End the writing of a socket. What is still queued on the connection is lost with it. -/
def finishWriting (id : SocketId) (connection : ConnectionId) (gateway : Gateway) :
    Logged Gateway := do
  Logged.log (.writerStopped connection)
  let pool := gateway.registry.pool.update connection Connection.dropReceiver
  return { gateway with registry := { gateway.registry with pool := pool } }.updateSocket id
    fun socket => { socket with writer := .finished }

/-- Write a message as a whole. A failure comes before its first byte, and closes the connection. -/
def writeMessage (id : SocketId) (socket : Socket) (connection : ConnectionId)
    (message : Wire.Message) (gateway : Gateway) : Logged Gateway :=
  match socket.writeFault with
  | some fault => do
    Logged.log (.sendFailed connection fault)
    let registry ← gateway.registry.stop connection
    { gateway with registry := registry }.finishWriting id connection
  | none =>
    return gateway.updateSocket id fun socket =>
      { socket with written := socket.written ++ message.encode }

/-- One step of the writer of a socket. The first message leaves the queue before it is written, so
none is written twice. -/
def write (id : SocketId) (gateway : Gateway) : Logged Gateway :=
  match gateway.sockets[id]? with
  | none => return gateway
  | some socket =>
    match socket.writer with
    | .writing connection =>
      match (gateway.registry.pool.get? connection).map Connection.outbound with
      | none => return gateway
      | some [] => gateway.finishWriting id connection
      | some (message :: rest) =>
        (gateway.setOutbound connection rest).writeMessage id socket connection message
    | _ => return gateway

end DiagnosticGateway.Gateway
