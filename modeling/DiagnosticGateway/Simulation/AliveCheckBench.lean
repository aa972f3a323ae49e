import DiagnosticGateway.Registry.Run

/-!
# Alive checks on a bench

Connections that are opened and registered beforehand, and any number of alive checks that run
on them at the same time. Each check has its targets, its window and a sign that interrupts it.
A sign can be set and taken back; when the one who sets it goes away, the checks that watch it
count as interrupted for good. A check that is run without more has the targets and the window
of the bench and watches the first sign.
-/

namespace DiagnosticGateway.Simulation

/-- The sign that interrupts alive checks. -/
inductive Interruption where
  | signalled (interrupted : Bool)
  | abandoned
  deriving DecidableEq

/-- Whether the sign ends a wait. -/
def Interruption.endsWait : Interruption → Bool
  | signalled interrupted => interrupted
  | abandoned => true

/-- The number of a sign. -/
abbrev SignId := Nat

/-- How far an alive check has come. -/
inductive CheckStage where
  /-- Started, but no target has been asked yet. -/
  | ready
  | waiting (check : AliveCheck)
  | finished (moment : Milliseconds) (responses : AliveCheck.Responses)
  /-- Finished, and looked at. -/
  | shown

/-- An alive check on the bench. -/
structure CheckRun where
  window : Milliseconds
  targets : List ConnectionId
  /-- The sign that interrupts it. -/
  sign : SignId
  stage : CheckStage

/-- Connections and the alive checks on them. -/
structure AliveCheckBench where
  /-- A registry with room for every connection, through which they were registered. -/
  registry : Registry
  /-- The window of a check that is run without more. -/
  window : Milliseconds
  /-- The targets of a check that is run without more. -/
  targets : List ConnectionId
  signs : SignId → Interruption
  runs : List CheckRun

namespace AliveCheckBench

/-- What can go on: a step in the registry, or in an alive check. -/
inductive Task where
  | inside (task : Registry.Task)
  | run (number : Nat)
  deriving DecidableEq

/-- Open a connection, serve it and register it if an address is given. -/
def openConnection (timings : Timings) (source : Option UInt16) (registry : Registry) :
    Logged Registry := do
  let (registry, id) := registry.openConnection timings
  let registry ← registry.start 0 id
  match source with
  | none => return registry
  | some source =>
    let (registry, request) := registry.request id source
    registry.advance 0 request

/-- Open connections in order. -/
def openAll (timings : Timings) : List (Option UInt16) → Registry → Logged Registry
  | [], registry => return registry
  | source :: rest, registry => do openAll timings rest (← openConnection timings source registry)

/-- A bench with one connection per entry, registered if the entry is an address. -/
def new (window : Milliseconds) (timings : Timings) (sources : List (Option UInt16))
    (targets : List ConnectionId) : Logged AliveCheckBench := do
  let registry ← openAll timings sources (Registry.new 1)
  return ⟨registry, window, targets, fun _ => .signalled false, []⟩

/-- Act on the connections. -/
def act (step : Registry → Logged Registry) (bench : AliveCheckBench) :
    Logged AliveCheckBench := do
  return { bench with registry := ← step bench.registry }

/-- Start an alive check of some targets, and give its number. -/
def call (window : Milliseconds) (targets : List ConnectionId) (sign : SignId)
    (bench : AliveCheckBench) : AliveCheckBench × Nat :=
  ({ bench with runs := bench.runs ++ [⟨window, targets, sign, .ready⟩] }, bench.runs.length)

/-- Start an alive check as the bench was set up for it, and give its number. -/
def run (bench : AliveCheckBench) : AliveCheckBench × Nat :=
  bench.call bench.window bench.targets 0

/-- Change a sign. -/
def setSign (sign : SignId) (interruption : Interruption) (bench : AliveCheckBench) :
    AliveCheckBench :=
  { bench with signs := fun other => if other = sign then interruption else bench.signs other }

/-- Set or take back a sign of interruption. -/
def signal (sign : SignId) (interrupted : Bool) (bench : AliveCheckBench) : AliveCheckBench :=
  match bench.signs sign with
  | .signalled _ => bench.setSign sign (.signalled interrupted)
  | .abandoned => bench

/-- Set or take back the first sign. -/
def interrupt (interrupted : Bool) : AliveCheckBench → AliveCheckBench :=
  signal 0 interrupted

/-- The one who sets the first sign goes away. -/
def abandonInterruption : AliveCheckBench → AliveCheckBench :=
  setSign 0 .abandoned

/-- Whether an alive check can take a step. -/
def canStep (now : Milliseconds) (bench : AliveCheckBench) (run : CheckRun) : Bool :=
  match run.stage with
  | .ready => true
  | .waiting check => (bench.signs run.sign).endsWait || check.deadline ≤ now
  | .finished _ _ => false
  | .shown => false

/-- The tasks that can take a step. -/
def enabled (now : Milliseconds) (bench : AliveCheckBench) : List Task :=
  (bench.registry.enabled now).map .inside ++
    (bench.runs.zipIdx.filter fun entry => bench.canStep now entry.1).map fun entry => .run entry.2

/-- Move an alive check to a stage. -/
def setStage (number : Nat) (run : CheckRun) (stage : CheckStage) (bench : AliveCheckBench) :
    AliveCheckBench :=
  { bench with runs := bench.runs.set number { run with stage := stage } }

/-- One step of an alive check. -/
def stepRun (now : Milliseconds) (number : Nat) (run : CheckRun) (bench : AliveCheckBench) :
    Logged AliveCheckBench :=
  match run.stage with
  | .ready => do
    let (pool, check) ←
      AliveCheck.begin number (now + run.window) run.targets bench.registry.pool
    return { bench with registry := { bench.registry with pool := pool } }.setStage number run
      (.waiting check)
  | .waiting check => do
    let reports := bench.registry.mail.reports number
    let (pool, responses) ←
      check.finish (decide (now < check.deadline)) reports bench.registry.pool
    return { bench with registry := { bench.registry with
      pool := pool
      mail := bench.registry.mail.discard number } }.setStage number run (.finished now responses)
  | .finished _ _ => return bench
  | .shown => return bench

/-- One step of a task. -/
def step (now : Milliseconds) (task : Task) (bench : AliveCheckBench) :
    Logged AliveCheckBench :=
  match task with
  | .inside task => bench.act (Registry.step now task)
  | .run number =>
    match bench.runs[number]? with
    | some run => bench.stepRun now number run
    | none => return bench

/-- The bench as a system of tasks, with its log. -/
def machine : Schedule.Machine (Logged AliveCheckBench) Task where
  enabled now bench := bench.value.enabled now
  step now task bench := bench >>= step now task
  deadlines bench := bench.value.registry.deadlines ++ bench.value.runs.filterMap fun run =>
    match run.stage with
    | .waiting check => some check.deadline
    | _ => none

/-- The alive checks that have finished since the last look: their numbers, when they finished
and their responses by the number of the connection. -/
def finished (bench : AliveCheckBench) : List (Nat × Milliseconds × AliveCheck.Responses) :=
  bench.runs.zipIdx.filterMap fun entry =>
    match entry.1.stage with
    | .finished moment responses =>
      some (entry.2, moment, responses.mergeSort fun first second => first.1 ≤ second.1)
    | _ => none

/-- Take everything that a look shows. -/
def look (bench : AliveCheckBench) : AliveCheckBench :=
  { bench with
    registry := { bench.registry with pool := bench.registry.pool.takeOutbound }
    runs := bench.runs.map fun run =>
      match run.stage with
      | .finished _ _ => { run with stage := .shown }
      | _ => run }

end AliveCheckBench

end DiagnosticGateway.Simulation
