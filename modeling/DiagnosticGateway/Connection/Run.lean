import DiagnosticGateway.Connection.Basic

/-!
# Runs of a connection

Everything that can happen to a connection is one event, and a run is a list of them. An
expiry names a timer by kind and generation and may come at any moment, whether or not that
timer is still the running one.
-/

namespace DiagnosticGateway.Connection

/-- Something that happens to a connection. -/
inductive Event where
  | start
  | activate (source : UInt16)
  | dataReceived
  | send (message : Wire.Message)
  | stop
  | subscribe (mailbox : MailboxId)
  | unsubscribe (id : SubscriberId)
  | aliveResponse (source : UInt16)
  | timerExpired (kind : TimerKind) (generation : Nat)
  | dropReceiver
  deriving DecidableEq

/-- What an event leaves behind: the connection, and the reports that it delivers. -/
structure Outcome where
  connection : Connection
  deliveries : List Delivery

/-- The effect of an event at a moment. -/
def apply (now : Milliseconds) (event : Event) (connection : Connection) : Logged Outcome :=
  match event with
  | .start => do return ⟨← connection.start now, []⟩
  | .activate source => do return ⟨(← connection.activate now source).1, []⟩
  | .dataReceived => return ⟨connection.dataReceived now, []⟩
  | .send message => do return ⟨(← connection.send message).1, []⟩
  | .stop => do return ⟨← connection.stop, []⟩
  | .subscribe mailbox => return ⟨(connection.subscribe mailbox).1, []⟩
  | .unsubscribe id => return ⟨connection.unsubscribe id, []⟩
  | .aliveResponse source => do return ⟨connection, ← connection.aliveResponse source⟩
  | .timerExpired kind generation => do return ⟨← connection.timerExpired kind generation, []⟩
  | .dropReceiver => return ⟨connection.dropReceiver, []⟩

/-- The connection after a list of events, each at its moment. -/
def run (connection : Connection) (events : List (Milliseconds × Event)) : Connection :=
  events.foldl (fun state entry => (state.apply entry.1 entry.2).value.connection) connection

end DiagnosticGateway.Connection
