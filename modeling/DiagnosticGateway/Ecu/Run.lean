import DiagnosticGateway.Ecu.Basic

/-!
# Runs of an ECU

Everything that can happen to an ECU is one event, the worker's step among them. A run is a
list of events, and gives the ECU at its end with all responses in the order in which they
were sent.
-/

namespace DiagnosticGateway.Ecu

/-- Something that happens to an ECU. -/
inductive Event where
  | start
  | stop
  | put (request : Message)
  | release
  | setHook (hook : Hook)
  | addListener (id : ListenerId)
  | dropListener (id : ListenerId)
  /-- The worker takes a step. -/
  | work

/-- The effect of an event. -/
def apply (event : Event) (ecu : Ecu) : Logged Outcome :=
  match event with
  | .start => do return ⟨← ecu.start, []⟩
  | .stop => do return ⟨← ecu.stop, []⟩
  | .put request => ecu.put request
  | .release => do return ⟨← ecu.release, []⟩
  | .setHook hook => return ⟨ecu.setHook hook, []⟩
  | .addListener id => return ⟨ecu.addListener id, []⟩
  | .dropListener id => return ⟨ecu.dropListener id, []⟩
  | .work => ecu.work

/-- The ECU after a list of events, with the responses that were sent. The responses of every event
come before those of later events. -/
def run (ecu : Ecu) : List Event → Logged Outcome
  | [] => return ⟨ecu, []⟩
  | event :: rest => do
    let first ← ecu.apply event
    let later ← run first.ecu rest
    return ⟨later.ecu, first.emissions ++ later.emissions⟩

end DiagnosticGateway.Ecu
