import DiagnosticGateway.Log.Logged
import DiagnosticGateway.Wire.Message

/-!
# Connections

What the gateway knows about one accepted socket: how far its registration has come, the
source address it registered, the inactivity timer that is running, the subscribers to its
alive check responses and the messages that wait to be written.

A connection starts unassigned, is initialized when its socket is served, becomes registered
by routing activation and ends closed. Every operation is a function of the connection, so
any sequence of operations and timer expiries is a composition of the functions below. A
timer carries the generation in which it was set; an expiry is heeded only if it names the
running timer.
-/

namespace DiagnosticGateway

/-- How long a connection may stay silent. Both are spans from the moment in which the timer
is set. -/
structure Timings where
  /-- From accept until routing is activated. -/
  initial : Milliseconds
  /-- Between inbound data while registered. -/
  general : Milliseconds
  deriving DecidableEq, Repr

/-- The span of a timer. -/
def Timings.span (timings : Timings) : TimerKind → Milliseconds
  | .initial => timings.initial
  | .general => timings.general

/-- How far the registration of a connection has come. -/
inductive Phase where
  | notAssigned
  | initialized
  | pendingAuthentication
  | pendingConfirmation
  | registeredActive
  | closed
  deriving DecidableEq, Repr

/-- The name of a phase. -/
def Phase.name : Phase → String
  | notAssigned => "NotAssigned"
  | initialized => "Initialized"
  | pendingAuthentication => "PendingAuthentication"
  | pendingConfirmation => "PendingConfirmation"
  | registeredActive => "RegisteredActive"
  | closed => "Closed"

/-- A running inactivity timer. -/
structure Timer where
  kind : TimerKind
  /-- The generation in which the timer was set. -/
  generation : Nat
  /-- When the timer expires. -/
  deadline : Milliseconds
  deriving DecidableEq, Repr

/-- An alive check response as it is reported to a subscriber. -/
structure AliveReport where
  connection : ConnectionId
  /-- The address that the response carries. -/
  reported : UInt16
  /-- The address that was registered when the response arrived. -/
  registered : Option UInt16
  deriving DecidableEq, Repr

/-- Whether the response names the address that is registered. -/
def AliveReport.confirms (report : AliveReport) : Bool :=
  report.registered == some report.reported

/-- The number of a subscription, unique within its connection. -/
abbrev SubscriberId := Nat

/-- The number of a mailbox that collects reports. -/
abbrev MailboxId := Nat

/-- A subscription: reports go to the mailbox. -/
structure Subscriber where
  id : SubscriberId
  mailbox : MailboxId
  deriving DecidableEq, Repr

/-- A report on its way to a mailbox. -/
structure Delivery where
  mailbox : MailboxId
  report : AliveReport
  deriving DecidableEq, Repr

/-- One accepted socket as the gateway sees it. -/
structure Connection where
  id : ConnectionId
  timings : Timings
  phase : Phase
  /-- The registered address. -/
  sourceAddress : Option UInt16
  /-- The connection still holds the sending end of its outbound queue. -/
  sending : Bool
  /-- Someone still takes messages from the outbound queue. -/
  receiving : Bool
  /-- The messages that wait to be written, oldest first. -/
  outbound : List Wire.Message
  timer : Option Timer
  /-- The generation of the latest timer or of the close. -/
  generation : Nat
  subscribers : List Subscriber
  nextSubscriber : SubscriberId
  /-- The sign to all who wait for the close. -/
  closedSignal : Bool
  deriving DecidableEq

namespace Connection

/-- A connection that has not been started. -/
def new (id : ConnectionId) (timings : Timings) : Connection where
  id := id
  timings := timings
  phase := .notAssigned
  sourceAddress := none
  sending := true
  receiving := true
  outbound := []
  timer := none
  generation := 0
  subscribers := []
  nextSubscriber := 0
  closedSignal := false

/-- Whether the connection has ended. -/
def isClosed (connection : Connection) : Bool :=
  connection.phase == .closed

/-- Whether the connection is registered. -/
def isRegistered (connection : Connection) : Bool :=
  connection.phase == .registeredActive

/-- Set a timer of the given kind in place of the running one. The new generation is what tells it
from every timer before it. -/
def restartTimer (now : Milliseconds) (kind : TimerKind) (connection : Connection) : Connection :=
  let generation := connection.generation + 1
  { connection with
    generation := generation
    timer := some ⟨kind, generation, now + connection.timings.span kind⟩ }

/-- The socket is served: the initial timer starts. Only an unassigned connection starts. -/
def start (now : Milliseconds) (connection : Connection) : Logged Connection :=
  match connection.phase with
  | .notAssigned => do
    Logged.log (.connectionInitialized connection.id connection.timings.initial)
    return { connection with phase := .initialized }.restartTimer now .initial
  | _ => return connection

/-- Register an address. A connection that is closed or already registered stays as it is, and
the result says whether the address was registered. The general timer takes the place of the
initial one. -/
def activate (now : Milliseconds) (source : UInt16) (connection : Connection) :
    Logged (Connection × Bool) :=
  match connection.phase with
  | .closed => return (connection, false)
  | .registeredActive => return (connection, false)
  | _ => do
    Logged.log (.connectionRegistered connection.id source)
    let registered :=
      { connection with phase := .registeredActive, sourceAddress := some source }
    return (registered.restartTimer now .general, true)

/-- Data has arrived: a registered connection restarts its general timer. -/
def dataReceived (now : Milliseconds) (connection : Connection) : Connection :=
  match connection.phase with
  | .registeredActive => connection.restartTimer now .general
  | _ => connection

/-- Queue a message for writing. The result says whether it was queued: a connection that was closed
drops it, and one whose queue nobody reads any more does not keep it. -/
def send (message : Wire.Message) (connection : Connection) : Logged (Connection × Bool) :=
  if connection.sending then do
    Logged.log (.messageQueued connection.id message)
    if connection.receiving then
      return ({ connection with outbound := connection.outbound ++ [message] }, true)
    else
      return (connection, false)
  else do
    Logged.log (.messageDropped connection.id message)
    return (connection, false)

/-- Close the connection. What is queued can still be written. Closing again changes nothing. -/
def stop (connection : Connection) : Logged Connection :=
  match connection.phase with
  | .closed => return connection
  | _ => do
    Logged.log (.connectionClosed connection.id)
    return { connection with
      phase := .closed
      sourceAddress := none
      generation := connection.generation + 1
      sending := false
      subscribers := []
      timer := none
      closedSignal := true }

/-- Whether an expiry is that of the running timer. -/
def isCurrent (kind : TimerKind) (generation : Nat) (connection : Connection) : Bool :=
  match connection.timer with
  | some timer => timer.generation == generation && timer.kind == kind
  | none => false

/-- A timer has expired. The connection closes if it is the running one; the expiry of a timer
that has been replaced means nothing. -/
def timerExpired (kind : TimerKind) (generation : Nat) (connection : Connection) :
    Logged Connection :=
  if connection.isCurrent kind generation && connection.phase != .closed then do
    Logged.log (.inactivityTimerExpired connection.id kind)
    { connection with timer := none }.stop
  else
    return connection

/-- Have alive check responses reported to a mailbox. A closed connection takes no subscriber. The
number of a subscription is never given again. -/
def subscribe (mailbox : MailboxId) (connection : Connection) : Connection × Option SubscriberId :=
  match connection.phase with
  | .closed => (connection, none)
  | _ =>
    let id := connection.nextSubscriber
    ({ connection with
        subscribers := connection.subscribers ++ [⟨id, mailbox⟩]
        nextSubscriber := id + 1 },
      some id)

/-- End a subscription. -/
def unsubscribe (id : SubscriberId) (connection : Connection) : Connection :=
  { connection with subscribers := connection.subscribers.filter fun entry => entry.id != id }

/-- The report about a response that names `source`. -/
def reportOf (source : UInt16) (connection : Connection) : AliveReport :=
  ⟨connection.id, source, connection.sourceAddress⟩

/-- An alive check response has arrived: every subscriber gets one report. The response counts for a
subscriber only if it names the address that is registered now. -/
def aliveResponse (source : UInt16) (connection : Connection) : Logged (List Delivery) :=
  match connection.subscribers with
  | [] => do
    Logged.log (.unsolicitedAliveCheckResponse connection.id source)
    return []
  | subscribers =>
    return subscribers.map fun subscriber => ⟨subscriber.mailbox, connection.reportOf source⟩

/-- No one takes messages from the outbound queue any more. What waits there is lost. -/
def dropReceiver (connection : Connection) : Connection :=
  { connection with receiving := false, outbound := [] }

/-- The connection as a report shows it. -/
def summary (connection : Connection) : String :=
  let source :=
    match connection.sourceAddress with
    | some address => "Some(" ++ toString address.toNat ++ ")"
    | none => "None"
  "Connection \x7b id: ConnectionId(" ++ toString connection.id ++ "), state: " ++
    connection.phase.name ++ ", source_address: " ++ source ++ " \x7d"

end Connection

end DiagnosticGateway
