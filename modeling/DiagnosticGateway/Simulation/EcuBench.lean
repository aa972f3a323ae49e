import DiagnosticGateway.Ecu.Run
import DiagnosticGateway.Schedule.Machine

/-!
# An ECU on a bench

An ECU with listeners that keep what they receive. The worker is the only task.
-/

namespace DiagnosticGateway.Simulation

/-- An ECU and its listeners. -/
structure EcuBench where
  ecu : Ecu
  /-- How many listeners were added. -/
  listenerCount : Nat
  /-- The listeners that went away. -/
  gone : List Ecu.ListenerId
  /-- What was received since the last look, oldest first. -/
  received : List Ecu.Emission

namespace EcuBench

/-- A new bench. -/
def new (ecu : Ecu) : EcuBench := ⟨ecu, 0, [], []⟩

/-- Let an event happen to the ECU. -/
def act (event : Ecu.Event) (bench : EcuBench) : Logged EcuBench := do
  let outcome ← bench.ecu.apply event
  return { bench with ecu := outcome.ecu, received := bench.received ++ outcome.emissions }

/-- Let events happen in order. -/
def actAll : List Ecu.Event → EcuBench → Logged EcuBench
  | [], bench => return bench
  | event :: rest, bench => do actAll rest (← bench.act event)

/-- Add a listener and give its number. -/
def listen (bench : EcuBench) : Logged (EcuBench × Nat) := do
  let id := bench.listenerCount
  return ({ ← bench.act (.addListener id) with listenerCount := id + 1 }, id)

/-- A listener goes away. -/
def unlisten (id : Ecu.ListenerId) (bench : EcuBench) : Logged EcuBench := do
  return { ← bench.act (.dropListener id) with gone := id :: bench.gone }

/-- The bench as a system of tasks, with its log. -/
def machine : Schedule.Machine (Logged EcuBench) Unit where
  enabled _ bench := if bench.value.ecu.canWork then [()] else []
  step _ _ bench := bench >>= act .work
  deadlines _ := []

/-- What each listener received since the last look, or `none` for one that went away. -/
def inboxes (bench : EcuBench) : List (Option (List Ecu.Message)) :=
  (List.range bench.listenerCount).map fun id =>
    if bench.gone.contains id then none
    else some ((bench.received.filter fun emission => emission.listener == id).map
      Ecu.Emission.message)

/-- Take everything that a look shows. -/
def look (bench : EcuBench) : EcuBench :=
  { bench with received := [] }

end EcuBench

end DiagnosticGateway.Simulation
