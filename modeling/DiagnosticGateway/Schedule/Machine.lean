/-!
# Cooperative tasks on a virtual clock

A machine has tasks that can take a step and moments for which it waits. The functions below
run it in one fixed way: a task that can go on does so until it has to wait, tasks take
turns in the order in which they became able to run, and the clock jumps from one awaited
moment to the next when no task can run. Which steps exist, and what they do, does not
depend on this order, so what holds of every sequence of steps holds of these runs.

A step is atomic: it is all that a task does until it waits again, and no other task does anything
in the meantime. This is an assumption on the system that is modelled by a machine. It holds of
tasks that share one thread; of tasks on several threads it is a simplification.
-/

namespace DiagnosticGateway.Schedule

/-- A system of tasks. -/
structure Machine (state task : Type) where
  /-- The tasks that can take a step at a moment. -/
  enabled : (now : Nat) → state → List task
  /-- One step of a task at a moment. -/
  step : (now : Nat) → task → state → state
  /-- The moments that tasks wait for. -/
  deadlines : state → List Nat

variable {state task : Type} [BEq task]

/-- Put tasks that can run behind those that already have their turn, and take out those that
can no longer run. -/
def requeue (enabled queue : List task) : List task :=
  let kept := queue.filter fun waiting => enabled.contains waiting
  kept ++ enabled.filter fun waiting => !kept.contains waiting

/-- Take at most `fuel` steps, the next one by the first task in the queue. The fuel is a bound
on the length of the run, far above the number of steps that one input gives rise to. -/
def settle (machine : Machine state task) (now : Nat) :
    (fuel : Nat) → (queue : List task) → state → state
  | 0, _, current => current
  | fuel + 1, queue, current =>
    match requeue (machine.enabled now current) queue with
    | [] => current
    | task :: rest =>
      settle machine now fuel (task :: rest) (machine.step now task current)

/-- The bound on the steps between two inputs. -/
def fuel : Nat := 1000000

/-- The first awaited moment after `now`. -/
def nextDeadline? (machine : Machine state task) (now : Nat) (current : state) : Option Nat :=
  ((machine.deadlines current).filter fun deadline => now < deadline).min?

/-- A machine with its clock and the tasks that have been given a turn. -/
structure Clocked (state task : Type) where
  now : Nat
  queue : List task
  state : state

namespace Clocked

/-- A machine at the start of time. -/
def start (initial : state) : Clocked state task := ⟨0, [], initial⟩

/-- Act on the state and give turns to the tasks that can now run. -/
def act (machine : Machine state task) (action : (now : Nat) → state → state)
    (clocked : Clocked state task) : Clocked state task :=
  let acted := action clocked.now clocked.state
  { clocked with
    queue := requeue (machine.enabled clocked.now acted) clocked.queue
    state := acted }

/-- Run until every task waits. -/
def settle (machine : Machine state task) (clocked : Clocked state task) : Clocked state task :=
  { clocked with
    queue := []
    state := Schedule.settle machine clocked.now fuel clocked.queue clocked.state }

omit [BEq task] in
theorem lt_of_nextDeadline? {machine : Machine state task} {now deadline : Nat} {current : state}
    (found : nextDeadline? machine now current = some deadline) : now < deadline := by
  have member := List.min?_mem found
  simpa using (List.mem_filter.mp member).2

/-- Let time pass up to the moment `target`, stopping at every awaited moment on the way. -/
def passTo (machine : Machine state task) (target : Nat) (clocked : Clocked state task) :
    Clocked state task :=
  match _found : nextDeadline? machine clocked.now clocked.state with
  | some deadline =>
    if _reached : deadline ≤ target then
      passTo machine target (act machine (fun _ current => current)
        { clocked with now := deadline } |>.settle machine)
    else
      { clocked with now := max clocked.now target }
  | none => { clocked with now := max clocked.now target }
  termination_by target - clocked.now
  decreasing_by
    have later := lt_of_nextDeadline? _found
    show target - deadline < target - clocked.now
    omega

/-- Let a span of time pass. -/
def sleep (machine : Machine state task) (span : Nat) (clocked : Clocked state task) :
    Clocked state task :=
  clocked.passTo machine (clocked.now + span)

end Clocked

end DiagnosticGateway.Schedule
