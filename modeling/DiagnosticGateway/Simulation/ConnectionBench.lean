import DiagnosticGateway.Registry.Run

/-!
# A connection on a bench

A single connection with the parties around it: someone who holds a handle on it, others who
wait for its close and keep it alive while they wait, mailboxes that collect its alive check
reports, and an otherwise empty registry through which routing is activated. The connection
exists as long as the handle or a waiter does.
-/

namespace DiagnosticGateway.Simulation

/-- A connection and the parties around it. -/
structure ConnectionBench where
  /-- The registry whose only connection is the one on the bench. -/
  registry : Registry
  id : ConnectionId
  /-- The handle has not been given up. -/
  held : Bool
  /-- Someone takes messages from the outbound queue. -/
  taking : Bool
  /-- How many waiters were started. -/
  waiterCount : Nat
  /-- The waiters that still wait. -/
  waiting : List Nat
  /-- The waiters that saw the close, and when. -/
  resolved : List (Nat × Milliseconds)
  /-- The mailboxes whose owner has gone. -/
  abandoned : List MailboxId

namespace ConnectionBench

/-- What can go on: a step in the registry, or a waiter that sees the close. -/
inductive Task where
  | inside (task : Registry.Task)
  | waiter (number : Nat)
  deriving DecidableEq

/-- A new connection with a handle on it. -/
def new (id : ConnectionId) (timings : Timings) : ConnectionBench where
  registry := { Registry.new 1 with pool := Pool.empty.insert (.new id timings) }
  id := id
  held := true
  taking := true
  waiterCount := 0
  waiting := []
  resolved := []
  abandoned := []

/-- The connection, as long as it exists. -/
def connection? (bench : ConnectionBench) : Option Connection :=
  bench.registry.pool.get? bench.id

/-- The connection as the holder of the handle sees it. -/
def visible? (bench : ConnectionBench) : Option Connection :=
  if bench.held then bench.connection? else none

/-- Let the connection go when no one keeps it alive. -/
def letGo (bench : ConnectionBench) : ConnectionBench :=
  if bench.held || !bench.waiting.isEmpty then bench
  else { bench with registry := { bench.registry with pool := .empty } }

/-- Change the connection without a word. -/
def update (step : Connection → Connection) (bench : ConnectionBench) : ConnectionBench :=
  { bench with registry := { bench.registry with pool := bench.registry.pool.update bench.id step } }

/-- Act on the connection. -/
def act (step : Registry → Logged Registry) (bench : ConnectionBench) : Logged ConnectionBench := do
  return { bench with registry := ← step bench.registry }

/-- Ask for routing activation. No connection is in the table, so there is room. -/
def activate (now : Milliseconds) (source : UInt16) (bench : ConnectionBench) :
    Logged (ConnectionBench × Wire.ActivationCode) := do
  let (registry, request) := bench.registry.request bench.id source
  let registry ← registry.advance now request
  return ({ bench with registry := registry }, (registry.answer? request).getD .success)

/-- Queue a message and say whether it was queued. -/
def send (message : Wire.Message) (bench : ConnectionBench) :
    Logged (ConnectionBench × Bool) := do
  let (pool, queued) ← bench.registry.pool.ask bench.id (Connection.send message)
  return ({ bench with registry := { bench.registry with pool := pool } }, queued.getD false)

/-- Subscribe to alive check responses. A subscription's mailbox has its number. -/
def subscribe (bench : ConnectionBench) : ConnectionBench × Option SubscriberId :=
  match bench.connection? with
  | none => (bench, none)
  | some connection =>
    let (subscribed, id) := connection.subscribe connection.nextSubscriber
    (bench.update fun _ => subscribed, id)

/-- The owner of a mailbox goes away. -/
def abandon (mailbox : MailboxId) (bench : ConnectionBench) : ConnectionBench :=
  { bench with abandoned := mailbox :: bench.abandoned }

/-- Start a waiter for the close, and give its number. -/
def waitClosed (bench : ConnectionBench) : ConnectionBench × Nat :=
  ({ bench with
      waiting := bench.waiting ++ [bench.waiterCount]
      waiterCount := bench.waiterCount + 1 },
    bench.waiterCount)

/-- Give up the handle. -/
def drop (bench : ConnectionBench) : ConnectionBench :=
  { bench with held := false }.letGo

/-- The tasks that can take a step. -/
def enabled (now : Milliseconds) (bench : ConnectionBench) : List Task :=
  let closed := bench.connection?.any Connection.closedSignal
  (bench.registry.enabled now).map .inside ++
    if closed then bench.waiting.map .waiter else []

/-- One step of a task. -/
def step (now : Milliseconds) (task : Task) (bench : ConnectionBench) : Logged ConnectionBench :=
  match task with
  | .inside task => bench.act (Registry.step now task)
  | .waiter number =>
    return { bench with
      waiting := bench.waiting.filter fun other => other != number
      resolved := bench.resolved ++ [(number, now)] }.letGo

/-- The bench as a system of tasks, with its log. -/
def machine : Schedule.Machine (Logged ConnectionBench) Task where
  enabled now bench := bench.value.enabled now
  step now task bench := bench >>= step now task
  deadlines bench := bench.value.registry.deadlines

/-- The taker of the outbound queue goes away. -/
def dropTaker (bench : ConnectionBench) : ConnectionBench :=
  { bench.update Connection.dropReceiver with taking := false }

/-- The messages queued since the last look. -/
def outbound (bench : ConnectionBench) : List Wire.Message :=
  (bench.connection?.map Connection.outbound).getD []

/-- Whether the sending end of the outbound queue is gone. -/
def outboundEnded (bench : ConnectionBench) : Bool :=
  !bench.connection?.any Connection.sending

/-- The reports since the last look, in mailboxes that have an owner and in the order of these. -/
def reports (bench : ConnectionBench) : List Delivery :=
  (bench.registry.mail.filter fun delivery => !bench.abandoned.contains delivery.mailbox).mergeSort
    fun first second => first.mailbox ≤ second.mailbox

/-- Take everything that a look shows. -/
def look (bench : ConnectionBench) : ConnectionBench :=
  { bench with
    resolved := []
    registry := { bench.registry with
      mail := []
      pool := bench.registry.pool.update bench.id fun connection =>
        { connection with outbound := [] } } }

end ConnectionBench

end DiagnosticGateway.Simulation
