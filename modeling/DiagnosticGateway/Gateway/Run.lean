import DiagnosticGateway.Gateway.LifeCycle
import DiagnosticGateway.Registry.Run

/-!
# Runs of a gateway

What is done to a gateway from outside is an event, and what goes on inside it is a task. A
run interleaves events, steps of tasks and the passing of time.

It is assumed that every event and every step is atomic: what a task does from one point at which
it waits to the next one happens as a whole, before or after anything else. Such a stretch is the
expiry of a timer with the stop of its connection; the handling of a diagnostic message, with the
renewal of the timer, the check of the source address, the acknowledgement and the handing over to
every ECU that is reached; the service of a request by an ECU; and the stop of a gateway. The start
is a single event too, though it waits while its sockets are bound.

A gateway that spreads its tasks over several threads may overlap two of these stretches, and only
the parts of them that a lock protects are atomic then. What is proved is about the interleavings
of whole stretches, and nothing is said of runs in which they overlap.
-/

namespace DiagnosticGateway

namespace Station

/-- Something that is done to a gateway from outside. -/
inductive Event where
  | start
  | stop
  /-- A tester connects. -/
  | connect (peer : Net.Endpoint) (nodelayFault : Option Net.SystemFault)
  /-- Accepting fails. -/
  | acceptFault (fault : Net.SystemFault)
  /-- Bytes arrive on a socket. -/
  | deliver (socket : SocketId) (bytes : Bytes)
  /-- The stream from a tester ends. -/
  | finish (socket : SocketId) (ending : StreamEnd)
  /-- Writing to a tester fails from now on. -/
  | failWriting (socket : SocketId) (fault : Net.SystemFault)
  /-- Something arrives at the datagram socket. -/
  | receipt (receipt : Receipt)
  /-- Something happens to an ECU. -/
  | ecu (index : Nat) (event : Ecu.Event)

/-- Something that goes on inside a gateway. -/
inductive Task where
  /-- The running timer of a connection expires. -/
  | timer (connection : ConnectionId)
  | accept
  | read (socket : SocketId)
  /-- The reader of a socket leaves. -/
  | leave (socket : SocketId)
  | write (socket : SocketId)
  | receive
  | announce
  | route
  /-- The worker of an ECU takes a request. -/
  | work (ecu : Nat)
  deriving DecidableEq

end Station

namespace Gateway

/-- A tester's socket arrives, if the gateway listens. -/
def connect (peer : Net.Endpoint) (nodelayFault : Option Net.SystemFault) (gateway : Gateway) :
    Gateway :=
  if gateway.running?.isSome then
    { gateway with
      sockets := gateway.sockets ++ [.new peer nodelayFault]
      arrivals := gateway.arrivals ++ [.socket gateway.sockets.length] }
  else
    gateway

/-- A failure arrives at the listening socket, if there is one. -/
def failAccepting (fault : Net.SystemFault) (gateway : Gateway) : Gateway :=
  if gateway.running?.isSome then { gateway with arrivals := gateway.arrivals ++ [.fault fault] }
  else gateway

/-- Something arrives at the datagram socket, if there is one. -/
def takeReceipt (receipt : Receipt) (gateway : Gateway) : Gateway :=
  if gateway.running?.isSome then { gateway with receipts := gateway.receipts ++ [receipt] }
  else gateway

/-- Let the running timer of a connection expire. -/
def expire (connection : ConnectionId) (gateway : Gateway) : Logged Gateway := do
  return { gateway with registry := ← gateway.registry.expire connection }

/-- The numbers of the sockets of which something holds. -/
def socketsWhere (holds : Socket → Bool) (gateway : Gateway) : List SocketId :=
  (gateway.sockets.zipIdx.filter fun entry => holds entry.1).map Prod.snd

/-- The numbers of the ECUs whose worker can take a request. -/
def workers (gateway : Gateway) : List Nat :=
  (gateway.ecus.zipIdx.filter fun entry => entry.1.canWork).map Prod.snd

/-- The tasks that can take a step. -/
def enabled (now : Milliseconds) (gateway : Gateway) : List Station.Task :=
  (gateway.registry.pool.expired now).map .timer ++
    (if gateway.canAccept then [.accept] else []) ++
    (gateway.socketsWhere gateway.canLeave).map .leave ++
    (gateway.socketsWhere (gateway.canRead now)).map .read ++
    (gateway.socketsWhere gateway.canWrite).map .write ++
    (if gateway.canReceive now then [.receive] else []) ++
    (if gateway.canAnnounce now then [.announce] else []) ++
    gateway.workers.map .work ++
    (if gateway.canRoute then [.route] else [])

/-- The moments for which tasks wait. When no task can take a step, nothing happens before the
first of them. -/
def deadlines (gateway : Gateway) : List Milliseconds :=
  gateway.registry.deadlines ++ gateway.pausedUntil.toList ++
    gateway.announcing.toList.map Announcing.due

end Gateway

namespace Station

/-- The effect of an event. Events at a socket or an ECU that is not there change nothing. -/
def apply (now : Milliseconds) (event : Event) (station : Station) : Logged Station :=
  match event with
  | .start => Prod.fst <$> station.start now
  | .stop => station.stop
  | .connect peer nodelayFault =>
    station.onGateway fun gateway => return gateway.connect peer nodelayFault
  | .acceptFault fault => station.onGateway fun gateway => return gateway.failAccepting fault
  | .deliver socket bytes =>
    station.onGateway fun gateway => return gateway.updateSocket socket (Socket.deliver bytes)
  | .finish socket ending =>
    station.onGateway fun gateway => return gateway.updateSocket socket (Socket.finish ending)
  | .failWriting socket fault =>
    station.onGateway fun gateway =>
      return gateway.updateSocket socket fun socket => { socket with writeFault := some fault }
  | .receipt receipt => station.onGateway fun gateway => return gateway.takeReceipt receipt
  | .ecu index event => station.onGateway (Gateway.changeEcu index event)

/-- One step of a task. Whether the task can take it now is for the list of enabled tasks to say. -/
def step (now : Milliseconds) (task : Task) (station : Station) : Logged Station :=
  match task with
  | .timer connection => station.onGateway (Gateway.expire connection)
  | .accept => station.onGateway Gateway.accept
  | .read socket => station.onGateway (Gateway.read now socket)
  | .leave socket => station.onGateway (Gateway.leave socket)
  | .write socket => station.onGateway (Gateway.write socket)
  | .receive => station.receive now
  | .announce => station.announce now
  | .route => station.onGateway Gateway.route
  | .work ecu => station.onGateway (Gateway.changeEcu ecu .work)

/-- A station as a system of tasks, with its log. -/
def machine : Schedule.Machine (Logged Station) Task where
  enabled now station := station.value.gateway.enabled now
  step now task station := station >>= step now task
  deadlines station := station.value.gateway.deadlines

end Station

end DiagnosticGateway
