import DiagnosticGateway.Ecu.HookRules
import DiagnosticGateway.Gateway.Run

/-!
# Gateways on a bench

Several gateways on one machine, with the testers that connect to them. The bench gives the
testers their addresses and numbers, remembers what it has already shown of what they
received, and keeps a gateway that was dropped until its tasks have ended.
-/

namespace DiagnosticGateway.Simulation

/-- A gateway on the bench. -/
structure Seat where
  gateway : Gateway
  /-- The gateway was dropped, and no more is asked of it. -/
  dropped : Bool
  /-- The ECUs were made apart from the gateway and are watched. -/
  watched : Bool

/-- A tester that has connected. -/
structure Tester where
  /-- The number of its gateway. -/
  seat : Nat
  socket : SocketId
  /-- How many of the bytes it received were shown. -/
  shown : Nat
  /-- The end of its stream was shown. -/
  endShown : Bool

/-- Gateways, testers and the network between them. -/
structure GatewayBench where
  network : Net.Network
  seats : List Seat
  testers : List Tester

namespace GatewayBench

/-- A new bench. -/
def new (seats : List Seat) : GatewayBench := ⟨.new, seats, []⟩

/-- The gateway with a number, unless it was dropped. -/
def gateway? (seat : Nat) (bench : GatewayBench) : Option Gateway :=
  match bench.seats[seat]? with
  | none => none
  | some seat => if seat.dropped then none else some seat.gateway

/-- Change the station of a gateway and answer. -/
def ask {answer : Type} (number : Nat) (default : answer)
    (step : Station → Logged (Station × answer)) (bench : GatewayBench) :
    Logged (GatewayBench × answer) :=
  match bench.seats[number]? with
  | none => return (bench, default)
  | some seat => do
    let (station, answer) ← step ⟨seat.gateway, bench.network⟩
    let seats := bench.seats.set number { seat with gateway := station.gateway }
    return ({ bench with seats := seats, network := station.network }, answer)

/-- Change the station of a gateway. -/
def change (number : Nat) (step : Station → Logged Station) (bench : GatewayBench) :
    Logged GatewayBench :=
  Prod.fst <$> bench.ask number () fun station => do return (← step station, ())

/-- Let something happen to a gateway. -/
def act (now : Milliseconds) (number : Nat) (event : Station.Event) :
    GatewayBench → Logged GatewayBench :=
  change number (Station.apply now event)

/-- Let something happen to the socket of a tester. -/
def actOn (now : Milliseconds) (tester : Nat) (event : SocketId → Station.Event)
    (bench : GatewayBench) : Logged GatewayBench :=
  match bench.testers[tester]? with
  | none => return bench
  | some found => bench.act now found.seat (event found.socket)

/-- Start a gateway and give its sockets. -/
def start (now : Milliseconds) (number : Nat) (bench : GatewayBench) :
    Logged (GatewayBench × Except GatewayFault Sockets) :=
  bench.ask number (.error .alreadyStarted) (Station.start now)

/-- Drop a gateway, which stops it. -/
def drop (number : Nat) (bench : GatewayBench) : Logged GatewayBench := do
  let bench ← bench.change number Station.stop
  return { bench with
    seats := bench.seats.modify number fun seat => { seat with dropped := true } }

/-- The address of a tester by its number. -/
def testerAddress (number : Nat) : Net.Endpoint :=
  ⟨.v4 .loopback, UInt16.ofNat (50001 + number)⟩

/-- Where datagrams come from. -/
def datagramSource : Net.Endpoint := ⟨.v4 .loopback, 60001⟩

/-- Connect a tester to a gateway and give its number, or nothing if the gateway does not
listen. -/
def connect (now : Milliseconds) (number : Nat) (nodelayFault : Option Net.SystemFault)
    (bench : GatewayBench) : Logged (GatewayBench × Option Nat) :=
  match bench.gateway? number with
  | none => return (bench, none)
  | some gateway =>
    if gateway.running?.isSome then do
      let tester := bench.testers.length
      let bench ← bench.act now number (.connect (testerAddress tester) nodelayFault)
      let entry := ⟨number, gateway.sockets.length, 0, false⟩
      return ({ bench with testers := bench.testers ++ [entry] }, some tester)
    else
      return (bench, none)

/-- Have something arrive at a gateway, and say whether it runs. -/
def offer (now : Milliseconds) (number : Nat) (event : Station.Event) (bench : GatewayBench) :
    Logged (GatewayBench × Bool) := do
  let runs := (bench.gateway? number).any fun gateway => gateway.running?.isSome
  return (← bench.act now number event, runs)

/-- Set the outcomes of the coming calls that bind sockets. -/
def failBinding (outcomes : Net.Outcomes) (bench : GatewayBench) : GatewayBench :=
  { bench with network := { bench.network with
      bindOutcomes := bench.network.bindOutcomes ++ outcomes } }

/-- Have a coming datagram fail to be sent. -/
def failSending (fault : Net.SystemFault) (bench : GatewayBench) : GatewayBench :=
  { bench with network := { bench.network with
      sendOutcomes := bench.network.sendOutcomes ++ [some fault] } }

/-- A task of one of the gateways. -/
abbrev Task := Nat × Station.Task

/-- The bench as a system of tasks, with its log. -/
def machine : Schedule.Machine (Logged GatewayBench) Task where
  enabled now bench :=
    bench.value.seats.zipIdx.flatMap fun entry =>
      (entry.1.gateway.enabled now).map fun task => (entry.2, task)
  step now task bench := bench >>= change task.1 (Station.step now task.2)
  deadlines bench := bench.value.seats.flatMap fun seat => seat.gateway.deadlines

/-- The socket of a tester. -/
def socketOf (tester : Tester) (bench : GatewayBench) : Option Socket :=
  (bench.seats[tester.seat]?).bind fun seat => seat.gateway.sockets[tester.socket]?

/-- What each tester received since the last look, by number, where it received something. -/
def received (bench : GatewayBench) : List (Nat × Bytes) :=
  bench.testers.zipIdx.filterMap fun entry =>
    match (bench.socketOf entry.1).map fun socket => socket.written.drop entry.1.shown with
    | none | some [] => none
    | some bytes => some (entry.2, bytes)

/-- The testers whose stream has ended since the last look. -/
def ended (bench : GatewayBench) : List Nat :=
  bench.testers.zipIdx.filterMap fun entry =>
    if !entry.1.endShown && (bench.socketOf entry.1).any Socket.hasEnded then some entry.2
    else none

/-- Take everything that a look shows. -/
def look (bench : GatewayBench) : GatewayBench :=
  { bench with
    network := { bench.network with sent := [] }
    testers := bench.testers.map fun tester =>
      match bench.socketOf tester with
      | none => tester
      | some socket =>
        { tester with shown := socket.written.length, endShown := socket.hasEnded } }

end GatewayBench

end DiagnosticGateway.Simulation
