import DiagnosticGateway.Gateway.Conversation

/-!
# Reading from testers

One task of a gateway accepts the sockets of testers, and one for every socket serves and
reads it. Each function is one step of such a task.

The limit on open sockets is checked when a socket is accepted, against the connections that
are open at that moment. Reading ends with the stream, with the connection or with a message
that costs the socket; the connection is closed then and leaves the table. While a routing
activation request waits for its decision, nothing else is read from its socket. When a
connection is closed from elsewhere, its reader may still read what is there, or leave.
-/

namespace DiagnosticGateway.Gateway

/-- Whether there is something to accept. -/
def canAccept (gateway : Gateway) : Bool :=
  gateway.running?.isSome && !gateway.arrivals.isEmpty

/-- Accept one socket, or refuse it if too many connections are open. The limit is compared with the
connections that are open now, and a socket that was accepted but is not served yet has none. -/
def accept (gateway : Gateway) : Logged Gateway :=
  match gateway.arrivals with
  | [] => return gateway
  | .fault fault :: rest => do
    Logged.log (.acceptFailed fault)
    return { gateway with arrivals := rest }
  | .socket id :: rest =>
    let gateway := { gateway with arrivals := rest }
    match gateway.sockets[id]? with
    | none => return gateway
    | some socket =>
      if gateway.config.maxSockets.toNat ≤ gateway.registry.openConnections.length then do
        Logged.log (.socketLimitReached socket.peer gateway.config.maxSockets)
        return gateway.updateSocket id Socket.abandon
      else
        return gateway.updateSocket id fun socket => { socket with reader := .accepted }

/-- Ask for sending without delay. Failing to get it does no harm. -/
def requestNodelay (socket : Socket) : Logged Unit :=
  match socket.nodelayFault with
  | some fault => Logged.log (.nodelayFailed socket.peer fault)
  | none => return ()

/-- Start to serve a socket: it gets a connection, which is added to the table and started. It gets
its connection here, and not when it is accepted. -/
def serve (now : Milliseconds) (id : SocketId) (socket : Socket) (gateway : Gateway) :
    Logged Gateway := do
  requestNodelay socket
  let (registry, connection) := gateway.registry.openConnection gateway.config.timings
  let registry ← registry.add connection
  let registry ← registry.start now connection
  Logged.log (.tcpAccepted connection socket.peer)
  return { gateway with registry := registry }.updateSocket id fun socket =>
    { socket with reader := .reading connection, writer := .writing connection }

/-- End the reading of a socket. The connection is closed before it leaves the table, and what is
queued on it can still be written. -/
def finishReading (id : SocketId) (peer : Net.Endpoint) (connection : ConnectionId)
    (gateway : Gateway) : Logged Gateway := do
  let registry ← gateway.registry.stop connection
  let registry ← registry.remove connection
  Logged.log (.tcpFinished connection peer)
  return { gateway with registry := registry }.updateSocket id fun socket =>
    { socket with reader := .finished }

/-- Go on as a message demands. A decision that takes time keeps the request with the reader. -/
def continueReading (id : SocketId) (peer : Net.Endpoint) (connection : ConnectionId)
    (flow : Flow) (gateway : Gateway) : Logged Gateway :=
  match flow with
  | .proceed =>
    return gateway.updateSocket id fun socket => { socket with reader := .reading connection }
  | .wait request source =>
    return gateway.updateSocket id fun socket =>
      { socket with reader := .deciding connection request source }
  | .close => gateway.finishReading id peer connection

/-- Log how a stream ended. -/
def logEnd (connection : ConnectionId) : StreamEnd → Logged Unit
  | .closed => Logged.log (.peerClosed connection)
  | .failed fault => Logged.log (.receiveFailed connection fault)

/-- Read what there is. A frame is taken off the stream before it is handled, so its bytes are read
once whatever comes of it. -/
def readNext (now : Milliseconds) (id : SocketId) (socket : Socket) (connection : ConnectionId)
    (gateway : Gateway) : Logged Gateway :=
  match socket.inbound? gateway.config.maxDataSize with
  | none => return gateway
  | some (.ended ending) => do
    logEnd connection ending
    gateway.finishReading id socket.peer connection
  | some (.frame frame) => do
    let gateway := gateway.updateSocket id fun socket => { socket with incoming := frame.rest }
    let (gateway, flow) ← gateway.onFrame now connection frame.content
    gateway.continueReading id socket.peer connection flow

/-- Move on the request for which reading waits. The tester's next frame is read only after
the answer. -/
def resumeDecision (now : Milliseconds) (id : SocketId) (socket : Socket)
    (connection : ConnectionId) (request : RequestId) (source : UInt16) (gateway : Gateway) :
    Logged Gateway := do
  let (gateway, flow) ← gateway.pursueActivation now connection request source
  gateway.continueReading id socket.peer connection flow

/-- Whether the reader of a socket can go on. -/
def canRead (now : Milliseconds) (gateway : Gateway) (socket : Socket) : Bool :=
  match socket.reader with
  | .accepted => true
  | .reading _ => (socket.inbound? gateway.config.maxDataSize).isSome
  | .deciding _ request _ =>
    (gateway.registry.request? request).any fun request => gateway.registry.canStep now request
  | _ => false

/-- One step of the reader of a socket. A socket that was accepted is served first. One that waits
or has finished is left as it is. -/
def read (now : Milliseconds) (id : SocketId) (gateway : Gateway) : Logged Gateway :=
  match gateway.sockets[id]? with
  | none => return gateway
  | some socket =>
    match socket.reader with
    | .accepted => gateway.serve now id socket
    | .reading connection => gateway.readNext now id socket connection
    | .deciding connection request source =>
      gateway.resumeDecision now id socket connection request source
    | _ => return gateway

/-- Whether the reader of a socket can leave because its connection is closed. -/
def canLeave (gateway : Gateway) (socket : Socket) : Bool :=
  match socket.reader with
  | .reading connection => !gateway.registry.pool.isOpen connection
  | _ => false

/-- The reader of a socket leaves. Bytes that have arrived by then are not read any more. -/
def leave (id : SocketId) (gateway : Gateway) : Logged Gateway :=
  match gateway.sockets[id]? with
  | none => return gateway
  | some socket =>
    match socket.reader with
    | .reading connection => gateway.finishReading id socket.peer connection
    | _ => return gateway

end DiagnosticGateway.Gateway
