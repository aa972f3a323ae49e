import Mathlib.Data.List.Induction
import DiagnosticGateway.Proofs.Connection.Lookup
import DiagnosticGateway.Simulation.ConnectionBench

/-!
# A connection until its close and after it

A connection is watched from its creation. Anything may happen to it in any order, timers that
were replaced may still expire, and parties may start to wait for its close at any time. Its
fields agree with its phase all the while. Whoever waits goes on when the connection is closed
and not before.

The close is the end. A closed connection answers every operation by doing nothing, and no late
timer or response has any effect. The reader of the outbound queue is not part of the
connection: it may go away later and take along what was queued.
-/

namespace DiagnosticGateway

namespace Connection

/-- Nothing that is done to the connection has any effect, now or later. -/
structure Inert (connection : Connection) : Prop where
  events : ∀ now event, event ≠ .dropReceiver →
    (connection.apply now event).value = ⟨connection, []⟩
  run : ∀ events : List (Milliseconds × Event), (∀ entry ∈ events, entry.2 ≠ .dropReceiver) →
    connection.run events = connection
  activate : ∀ now source, (connection.activate now source).value = (connection, false)
  send : ∀ message, (connection.send message).value = (connection, false)
  subscribe : ∀ mailbox, connection.subscribe mailbox = (connection, none)

/-- A closed connection sends nothing. -/
theorem send_of_closed {connection : Connection} (consistent : connection.Consistent)
    (closed : connection.phase = .closed) (message : Wire.Message) :
    (connection.send message).value = (connection, false) := by
  have silent : connection.sending = false := by
    cases sending : connection.sending with
    | false => rfl
    | true => exact absurd closed (consistent.sending.mp sending)
  simp [send, silent]

/-- An event leaves a closed connection as it is and delivers nothing. It has no timer that could
expire, nobody who listens and no sending half, so there is nothing left that an event could use. -/
theorem apply_of_closed {connection : Connection} (consistent : connection.Consistent)
    (closed : connection.phase = .closed) (now : Milliseconds) {event : Event}
    (other : event ≠ .dropReceiver) : (connection.apply now event).value = ⟨connection, []⟩ := by
  have nobody := consistent.subscribers closed
  cases event with
  | start => simp [apply, start, closed]
  | activate source => simp [apply, activate, closed]
  | dataReceived => simp [apply, dataReceived, closed]
  | send message => simp [apply, send_of_closed consistent closed message]
  | stop => simp [apply, stop_of_closed closed]
  | subscribe mailbox => simp [apply, subscribe_of_closed mailbox closed]
  | unsubscribe id =>
    have same : connection.unsubscribe id = connection := by
      rw [unsubscribe, nobody, List.filter_nil, ← nobody]
    simp [apply, same]
  | aliveResponse source => simp [apply, aliveResponse, nobody]
  | timerExpired kind generation => simp [apply, timerExpired, closed]
  | dropReceiver => exact absurd rfl other

/-- A closed connection is inert. For a run of events the induction is on their list, each finding
the connection as it was. -/
theorem Consistent.inert {connection : Connection} (consistent : connection.Consistent)
    (closed : connection.phase = .closed) : connection.Inert where
  events now event other := apply_of_closed consistent closed now other
  run events others := by
    induction events with
    | nil => rfl
    | cons first rest inductionHypothesis =>
      have unchanged := apply_of_closed consistent closed first.1
        (others first List.mem_cons_self)
      have later := inductionHypothesis fun entry member =>
        others entry (List.mem_cons_of_mem first member)
      simp only [Connection.run, List.foldl_cons, unchanged] at later ⊢
      exact later
  activate now source := activate_of_settled now source (Or.inl closed)
  send := send_of_closed consistent closed
  subscribe mailbox := subscribe_of_closed mailbox closed

end Connection

namespace Simulation.ConnectionBench

/-- Something that happens to a connection whose handle is held. -/
inductive Happening where
  | event (event : Connection.Event)
  /-- A party starts to wait for the close. -/
  | wait
  /-- A waiter goes on, if it can. -/
  | resume (waiter : Nat)

/-- The bench after something has happened. A waiter goes on only if the bench offers it. -/
def meet (now : Milliseconds) (happening : Happening) (bench : ConnectionBench) :
    ConnectionBench :=
  match happening with
  | .event event =>
    (bench.act <| Registry.changeConnection bench.id fun connection => do
      return (← connection.apply now event).connection).value
  | .wait => bench.waitClosed.1
  | .resume waiter =>
    if Task.waiter waiter ∈ bench.enabled now then (bench.step now (.waiter waiter)).value
    else bench

/-- The bench after a course of happenings, each at its moment. -/
def follow (course : List (Milliseconds × Happening)) (bench : ConnectionBench) :
    ConnectionBench :=
  course.foldl (fun current entry => current.meet entry.1 entry.2) bench

/-- The waiter has seen the close. -/
def Resolved (waiter : Nat) (bench : ConnectionBench) : Prop :=
  waiter ∈ bench.resolved.map Prod.fst

variable {bench : ConnectionBench} {connection : Connection} {now : Milliseconds}

/-- A waiter can go on exactly if it waits and the sign of the close is given. -/
theorem waiter_mem_enabled {waiter : Nat} (found : bench.connection? = some connection) :
    Task.waiter waiter ∈ bench.enabled now ↔
      waiter ∈ bench.waiting ∧ connection.closedSignal = true := by
  have outside : Task.waiter waiter ∉ (bench.registry.enabled now).map .inside := by simp
  cases signal : connection.closedSignal <;> simp [enabled, found, signal]

/-- What is kept on the bench as long as the handle is held. -/
structure Kept (bench : ConnectionBench) (connection : Connection) : Prop where
  held : bench.held = true
  found : bench.connection? = some connection
  consistent : connection.Consistent
  /-- Whoever was started still waits or has seen the close. -/
  accounted : ∀ waiter, waiter < bench.waiterCount → waiter ∈ bench.waiting ∨ bench.Resolved waiter
  /-- The close was seen only if there was one. -/
  seen : ∀ waiter, bench.Resolved waiter → connection.phase = .closed

/-- A connection that was just made is held, open and waited for by nobody. -/
theorem kept_new (id : ConnectionId) (timings : Timings) :
    (new id timings).Kept (.new id timings) where
  held := rfl
  found := by simp [connection?, new, Pool.insert, Pool.empty, Pool.get?, Connection.new]
  consistent := Connection.consistent_new id timings
  accounted waiter started := absurd started (Nat.not_lt_zero waiter)
  seen waiter resolved := absurd resolved List.not_mem_nil

/-- An event changes the connection and nothing else. Those who wait go on waiting, or find the
signal raised when they are next looked at. -/
theorem Kept.event (kept : bench.Kept connection) (event : Connection.Event) :
    (bench.meet now (.event event)).Kept (connection.next now event) where
  held := kept.held
  found := by
    have changed := Pool.get?_change bench.id bench.id
      (fun connection => do return (← connection.apply now event).connection)
      (Connection.id_next now event) bench.registry.pool
    simp only [if_true] at changed
    refine changed.trans ?_
    rw [show bench.registry.pool.get? bench.id = some connection from kept.found]
    rfl
  consistent := Connection.consistent_next now event kept.consistent
  accounted := kept.accounted
  seen waiter resolved := Connection.next_of_closed now event (kept.seen waiter resolved)

/-- A new waiter is accounted for. Its number is the next one, so it is none of those that were
accounted for before. -/
theorem Kept.wait (kept : bench.Kept connection) : (bench.meet now .wait).Kept connection where
  held := kept.held
  found := kept.found
  consistent := kept.consistent
  accounted waiter started := by
    rcases Nat.lt_succ_iff_lt_or_eq.mp started with earlier | rfl
    · exact (kept.accounted waiter earlier).imp_left (List.mem_append_left _)
    · exact Or.inl (List.mem_append_right _ List.mem_cons_self)
  seen := kept.seen

/-- A waiter that goes on has seen the close, and the others are not concerned. A close is not taken
back, so whoever has seen it stays right about it. -/
theorem Kept.resume (kept : bench.Kept connection) (waiter : Nat) :
    (bench.meet now (.resume waiter)).Kept connection := by
  by_cases able : Task.waiter waiter ∈ bench.enabled now
  · obtain ⟨-, signal⟩ := (waiter_mem_enabled kept.found).mp able
    have closed := kept.consistent.signal.mp signal
    have met : bench.meet now (.resume waiter) =
        { bench with
          waiting := bench.waiting.filter fun other => other != waiter
          resolved := bench.resolved ++ [(waiter, now)] } := by
      simp [meet, able, step, letGo, kept.held]
    rw [met]
    refine ⟨kept.held, kept.found, kept.consistent, ?_, fun _ _ => closed⟩
    intro other started
    by_cases own : other = waiter
    · exact Or.inr (by simp [Resolved, own])
    · rcases kept.accounted other started with waits | resolved
      · exact Or.inl (List.mem_filter.mpr ⟨waits, by simpa using own⟩)
      · have earlier : other ∈ bench.resolved.map Prod.fst := resolved
        exact Or.inr (by simp only [Resolved, List.map_append]; exact List.mem_append_left _ earlier)
  · have met : bench.meet now (.resume waiter) = bench := by simp [meet, able]
    rw [met]
    exact kept

/-- Every course of happenings keeps what was there. The induction is on the course, and the
connection that is kept is the one the events have made of it. -/
theorem kept_follow (id : ConnectionId) (timings : Timings)
    (course : List (Milliseconds × Happening)) :
    ∃ connection, ((new id timings).follow course).Kept connection := by
  induction course using List.reverseRecOn with
  | nil => exact ⟨_, kept_new id timings⟩
  | append_singleton course entry inductionHypothesis =>
    obtain ⟨connection, kept⟩ := inductionHypothesis
    obtain ⟨now, happening⟩ := entry
    have last : (new id timings).follow (course ++ [(now, happening)]) =
        ((new id timings).follow course).meet now happening := by
      simp [follow]
    rw [last]
    cases happening with
    | event event => exact ⟨_, kept.event event⟩
    | wait => exact ⟨_, kept.wait⟩
    | resume waiter => exact ⟨_, kept.resume waiter⟩

/-- Whatever happens to a connection, and in whatever order, its fields agree with its phase.
Whoever waits for the close can go on exactly when the connection is closed, and a waiter that
cannot go on has seen the close exactly if there was one. Once the connection is closed, nothing
has any effect on it. -/
theorem agrees_with_phase (id : ConnectionId) (timings : Timings)
    (course : List (Milliseconds × Happening)) :
    ∃ connection, ((new id timings).follow course).connection? = some connection ∧
      connection.Consistent ∧
      (∀ now waiter, waiter < ((new id timings).follow course).waiterCount →
        (Task.waiter waiter ∈ ((new id timings).follow course).enabled now →
          connection.phase = .closed) ∧
        (Task.waiter waiter ∉ ((new id timings).follow course).enabled now →
          (((new id timings).follow course).Resolved waiter ↔ connection.phase = .closed))) ∧
      (connection.phase = .closed → connection.Inert) := by
  obtain ⟨connection, kept⟩ := kept_follow id timings course
  refine ⟨connection, kept.found, kept.consistent, ?_, kept.consistent.inert⟩
  intro now waiter started
  rw [waiter_mem_enabled kept.found, kept.consistent.signal]
  refine ⟨And.right, ?_⟩
  intro unable
  refine ⟨kept.seen waiter, ?_⟩
  intro closed
  exact (kept.accounted waiter started).resolve_left fun waits => unable ⟨waits, closed⟩

end Simulation.ConnectionBench

end DiagnosticGateway
