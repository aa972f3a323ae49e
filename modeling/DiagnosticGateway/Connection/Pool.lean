import DiagnosticGateway.Connection.Basic

/-!
# Connections by number

A pool holds connections and finds them by number. Changing one connection leaves the others
as they are; a number that no connection has changes nothing.
-/

namespace DiagnosticGateway

/-- The connections that exist, in the order of their creation. -/
structure Pool where
  connections : List Connection
  deriving DecidableEq

namespace Pool

/-- No connections. -/
def empty : Pool := ⟨[]⟩

/-- The connection with a number. -/
def get? (id : ConnectionId) (pool : Pool) : Option Connection :=
  pool.connections.find? fun connection => connection.id == id

/-- Add a connection. -/
def insert (connection : Connection) (pool : Pool) : Pool :=
  ⟨pool.connections ++ [connection]⟩

/-- Change the first connection with a number, keeping what the change answers. -/
def changeList {answer : Type} (id : ConnectionId)
    (change : Connection → Logged (Connection × answer)) :
    List Connection → Logged (List Connection × Option answer)
  | [] => return ([], none)
  | connection :: rest =>
    if connection.id = id then do
      let (changed, answer) ← change connection
      return (changed :: rest, some answer)
    else do
      let (changed, answer) ← changeList id change rest
      return (connection :: changed, answer)

/-- Change the connection with a number and answer. -/
def ask {answer : Type} (id : ConnectionId) (change : Connection → Logged (Connection × answer))
    (pool : Pool) : Logged (Pool × Option answer) := do
  let (connections, answer) ← changeList id change pool.connections
  return (⟨connections⟩, answer)

/-- Change the connection with a number. -/
def change (id : ConnectionId) (step : Connection → Logged Connection) (pool : Pool) :
    Logged Pool := do
  let (pool, _) ← pool.ask id fun connection => do return (← step connection, ())
  return pool

/-- Change the connection with a number without a word. -/
def update (id : ConnectionId) (step : Connection → Connection) (pool : Pool) : Pool :=
  ⟨pool.connections.map fun connection =>
    if connection.id = id then step connection else connection⟩

/-- Empty every outbound queue. -/
def takeOutbound (pool : Pool) : Pool :=
  ⟨pool.connections.map fun connection => { connection with outbound := [] }⟩

/-- Queue a message on a connection. -/
def send (id : ConnectionId) (message : Wire.Message) (pool : Pool) : Logged Pool :=
  pool.change id fun connection => do return (← connection.send message).1

/-- Close a connection. -/
def stop (id : ConnectionId) (pool : Pool) : Logged Pool :=
  pool.change id Connection.stop

/-- Close several connections, one after the other. -/
def stopAll (pool : Pool) : List ConnectionId → Logged Pool
  | [] => return pool
  | id :: rest => do (← pool.stop id).stopAll rest

/-- An alive check response has arrived on a connection. -/
def aliveResponse (id : ConnectionId) (source : UInt16) (pool : Pool) : Logged (List Delivery) :=
  match pool.get? id with
  | some connection => connection.aliveResponse source
  | none => return []

/-- The address registered on a connection. -/
def sourceAddress (id : ConnectionId) (pool : Pool) : Option UInt16 :=
  (pool.get? id).bind Connection.sourceAddress

/-- Whether a connection is registered. -/
def isRegistered (id : ConnectionId) (pool : Pool) : Bool :=
  (pool.get? id).any Connection.isRegistered

/-- Whether a connection is open, registered or not. -/
def isOpen (id : ConnectionId) (pool : Pool) : Bool :=
  (pool.get? id).any fun connection => !connection.isClosed

/-- The timers that are running. -/
def deadlines (pool : Pool) : List Milliseconds :=
  pool.connections.filterMap fun connection => connection.timer.map Timer.deadline

/-- The connections whose timer has come. -/
def expired (now : Milliseconds) (pool : Pool) : List ConnectionId :=
  (pool.connections.filter fun connection =>
    connection.timer.any fun timer => timer.deadline ≤ now).map Connection.id

/-- Let the running timer of a connection expire. -/
def expire (id : ConnectionId) (pool : Pool) : Logged Pool :=
  pool.change id fun connection =>
    match connection.timer with
    | some timer => connection.timerExpired timer.kind timer.generation
    | none => return connection

end Pool

end DiagnosticGateway
