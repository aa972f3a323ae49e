import DiagnosticGateway.AliveCheck

/-!
# The connection registry

The registry knows every connection of a gateway and decides routing activation requests. A
request that has to be decided takes the arbitration lock, and requests that find the lock
taken wait in the order in which they asked. The holder of the lock is granted a free
address while there is room; when there is none, every registered connection is probed, and
when another connection holds the address, that connection is. A decision that needs a probe
keeps the lock until the probe has ended.

A request is data: what it has come to is its stage, and the steps that move it on are
functions of the registry. A step happens at one moment and depends on nothing but the
registry, so every order of steps is covered by composing them.
-/

namespace DiagnosticGateway

/-- The number of a request, unique within its registry. -/
abbrev RequestId := Nat

/-- Why the holder of the lock probes. -/
inductive ProbePurpose where
  /-- There is no room: every registered connection is probed. -/
  | capacity
  /-- The address is held by this other connection. -/
  | holder (connection : ConnectionId)
  deriving DecidableEq

/-- What a request has come to. -/
inductive RequestStage where
  /-- Made, but not looked at yet. -/
  | asked
  /-- In line for the arbitration lock, or just handed it. -/
  | inLine
  /-- Holding the lock while a probe waits for responses. -/
  | probing (purpose : ProbePurpose) (check : AliveCheck)
  /-- Decided. -/
  | answered (code : Wire.ActivationCode)
  deriving DecidableEq

/-- A request to register a connection under an address. -/
structure Request where
  id : RequestId
  connection : ConnectionId
  source : UInt16
  stage : RequestStage
  deriving DecidableEq

/-- A decision that has fallen. -/
structure Decision where
  request : RequestId
  code : Wire.ActivationCode
  moment : Milliseconds
  deriving DecidableEq

/-- The registry of one gateway. It keeps every request and every decision that there has been, so
that what was decided can be read off its state. -/
structure Registry where
  /-- Every connection that was opened, whether or not it is in the table. -/
  pool : Pool
  /-- The connections in the table, by ascending number. -/
  table : List ConnectionId
  /-- How many connections may be registered at once. -/
  limit : Nat
  nextConnection : ConnectionId
  /-- Everything is being closed, and probes do not wait any more. -/
  stopping : Bool
  /-- The request that holds the arbitration lock. -/
  lockHolder : Option RequestId
  /-- The requests in line for the lock, first come first. -/
  lockLine : List RequestId
  /-- Every request that was made, in the order of their numbers. -/
  requests : List Request
  /-- The reports that probes have not judged yet. -/
  mail : Mail
  /-- The decisions, in the order in which they fell. -/
  decisions : List Decision
  deriving DecidableEq

namespace Registry

/-- A registry without connections. The numbers of connections begin with one. -/
def new (limit : Nat) : Registry where
  pool := .empty
  table := []
  limit := limit
  nextConnection := 1
  stopping := false
  lockHolder := none
  lockLine := []
  requests := []
  mail := []
  decisions := []

/-- Put a number into an ascending list, once. -/
def insertAscending (id : ConnectionId) : List ConnectionId → List ConnectionId
  | [] => [id]
  | first :: rest =>
    if id < first then id :: first :: rest
    else if id = first then first :: rest
    else first :: insertAscending id rest

/-- Open a connection without adding it to the table. The numbers are given once, in ascending
order. -/
def openConnection (timings : Timings) (registry : Registry) : Registry × ConnectionId :=
  let id := registry.nextConnection
  ({ registry with
      pool := registry.pool.insert (.new id timings)
      nextConnection := id + 1 },
    id)

/-- Add a connection to the table. Adding it again leaves the table as it is. -/
def add (id : ConnectionId) (registry : Registry) : Logged Registry := do
  Logged.log (.connectionAdded id)
  return { registry with table := insertAscending id registry.table }

/-- Remove a connection from the table. An unknown number changes nothing. -/
def remove (id : ConnectionId) (registry : Registry) : Logged Registry :=
  if registry.table.contains id then do
    Logged.log (.connectionRemoved id)
    return { registry with table := registry.table.filter fun other => other != id }
  else
    return registry

/-- Change a connection. -/
def changeConnection (id : ConnectionId) (step : Connection → Logged Connection)
    (registry : Registry) : Logged Registry := do
  return { registry with pool := ← registry.pool.change id step }

/-- Serve a connection: its initial timer starts. -/
def start (now : Milliseconds) (id : ConnectionId) : Registry → Logged Registry :=
  changeConnection id (Connection.start now)

/-- Data has arrived on a connection. -/
def dataReceived (now : Milliseconds) (id : ConnectionId) (registry : Registry) : Registry :=
  { registry with pool := registry.pool.update id (Connection.dataReceived now) }

/-- Close a connection. -/
def stop (id : ConnectionId) : Registry → Logged Registry :=
  changeConnection id Connection.stop

/-- Queue a message on a connection. -/
def send (id : ConnectionId) (message : Wire.Message) (registry : Registry) :
    Logged Registry := do
  return { registry with pool := ← registry.pool.send id message }

/-- An alive check response has arrived on a connection. -/
def aliveResponse (id : ConnectionId) (source : UInt16) (registry : Registry) :
    Logged Registry := do
  let deliveries ← registry.pool.aliveResponse id source
  return { registry with mail := registry.mail ++ deliveries }

/-- Let the timer of a connection expire. -/
def expire (id : ConnectionId) (registry : Registry) : Logged Registry := do
  return { registry with pool := ← registry.pool.expire id }

/-- Close every connection of the table, empty it and end the probe that is running. The requests
stay, and those that wait for a probe can move on at once. -/
def stopAll (registry : Registry) : Logged Registry := do
  let pool ← registry.pool.stopAll registry.table
  return { registry with stopping := true, table := [], pool := pool }

/-- The connection of the table that is registered with an address. The one with the least number,
if there are several. -/
def lookup (source : UInt16) (registry : Registry) : Option ConnectionId :=
  registry.table.find? fun id => registry.pool.sourceAddress id == some source

/-- A connection of the table other than `id` that is registered with an address. It is what makes a
request probe the holder and not the whole table. -/
def otherHolder (id : ConnectionId) (source : UInt16) (registry : Registry) :
    Option ConnectionId :=
  registry.table.find? fun other =>
    other != id && registry.pool.sourceAddress other == some source

/-- The registered connections of the table. -/
def registered (registry : Registry) : List ConnectionId :=
  registry.table.filter registry.pool.isRegistered

/-- The open connections of the table, registered or not. Connections that were closed stay in the
table until they are removed, and do not count. -/
def openConnections (registry : Registry) : List ConnectionId :=
  registry.table.filter registry.pool.isOpen

end Registry

end DiagnosticGateway
