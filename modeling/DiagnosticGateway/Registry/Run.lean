import DiagnosticGateway.Registry.Arbitration
import DiagnosticGateway.Schedule.Machine

/-!
# Runs of a registry

What is done to a registry from outside is an event, and what goes on inside it is a task:
the expiry of a connection's timer, or the next step of a request. A run interleaves events,
tasks and the passing of time.
-/

namespace DiagnosticGateway.Registry

/-- Something that is done to a registry from outside. -/
inductive Event where
  /-- Open a connection. -/
  | openConnection (timings : Timings)
  | add (connection : ConnectionId)
  | start (connection : ConnectionId)
  /-- Ask for a connection to be registered under an address. -/
  | request (connection : ConnectionId) (source : UInt16)
  | aliveResponse (connection : ConnectionId) (source : UInt16)
  | dataReceived (connection : ConnectionId)
  | send (connection : ConnectionId) (message : Wire.Message)
  | stop (connection : ConnectionId)
  | remove (connection : ConnectionId)
  | stopAll
  deriving DecidableEq

/-- Something that goes on inside a registry. -/
inductive Task where
  /-- The running timer of a connection expires. -/
  | timer (connection : ConnectionId)
  /-- A request moves on. -/
  | request (id : RequestId)
  deriving DecidableEq

/-- The effect of an event. Making a request only records it, and its decision is left to the steps
of its task. -/
def apply (now : Milliseconds) (event : Event) (registry : Registry) : Logged Registry :=
  match event with
  | .openConnection timings => return (registry.openConnection timings).1
  | .add connection => registry.add connection
  | .start connection => registry.start now connection
  | .request connection source => return (registry.request connection source).1
  | .aliveResponse connection source => registry.aliveResponse connection source
  | .dataReceived connection => return registry.dataReceived now connection
  | .send connection message => registry.send connection message
  | .stop connection => registry.stop connection
  | .remove connection => registry.remove connection
  | .stopAll => registry.stopAll

/-- One step of a task. Timers and requests are the only tasks of a registry on its own. -/
def step (now : Milliseconds) (task : Task) (registry : Registry) : Logged Registry :=
  match task with
  | .timer connection => registry.expire connection
  | .request id => registry.advance now id

/-- The tasks that can take a step: timers that have expired, then requests by number. -/
def enabled (now : Milliseconds) (registry : Registry) : List Task :=
  (registry.pool.expired now).map .timer ++
    (registry.requests.filter fun request => registry.canStep now request).map
      fun request => .request request.id

/-- A registry as a system of tasks, with its log. -/
def machine : Schedule.Machine (Logged Registry) Task where
  enabled now registry := registry.value.enabled now
  step now task registry := registry >>= step now task
  deadlines registry := registry.value.deadlines

end DiagnosticGateway.Registry
