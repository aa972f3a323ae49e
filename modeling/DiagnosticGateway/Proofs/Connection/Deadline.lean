import DiagnosticGateway.Proofs.Connection.Timing
import DiagnosticGateway.Proofs.Connection.Watched

/-!
# The deadline of a connection

A connection on the clock has a deadline as long as it waits for its tester: the initial span
counts from its start, the general span from its activation and from all data that arrives later.
The running timer is always set for that deadline, so an open connection closes at the moment of
its deadline and at no other.

Every timer that is replaced leaves a task behind, which may still go off at any time. The timers
are told apart by their generation, so none of these tasks is taken for the running timer.
-/

namespace DiagnosticGateway

/-- Changing the only connection of a pool. -/
theorem Pool.change_only {pool : Pool} {connection : Connection} {id : ConnectionId}
    (only : pool.connections = [connection]) (number : connection.id = id)
    (step : Connection → Logged Connection) :
    (pool.change id step).value = ⟨[(step connection).value]⟩ := by
  simp [change, ask, changeList, only, number]

namespace Simulation.ConnectionBench

/-! ## A bench with nothing else on it -/

/-- The bench with a connection in the place of its own. -/
def holding (connection : Connection) (bench : ConnectionBench) : ConnectionBench :=
  { bench with registry := { bench.registry with pool := ⟨[connection]⟩ } }

/-- The timer that runs. -/
def timer? (bench : ConnectionBench) : Option Timer :=
  bench.connection?.bind Connection.timer

/-- There is one connection on the bench, for which nobody has asked and on which nobody waits. -/
structure Alone (bench : ConnectionBench) (connection : Connection) : Prop where
  only : bench.registry.pool.connections = [connection]
  number : connection.id = bench.id
  unasked : bench.registry.requests = []
  unawaited : bench.waiting = []

/-- On a bench that has just been set up the new connection is alone. -/
theorem alone_new (id : ConnectionId) (timings : Timings) :
    (new id timings).Alone (.new id timings) :=
  ⟨rfl, rfl, rfl, rfl⟩

variable {bench : ConnectionBench} {connection : Connection} {now : Milliseconds}

namespace Alone

/-- The bench finds its one connection. -/
theorem connection?_eq (alone : bench.Alone connection) : bench.connection? = some connection := by
  simp [connection?, Pool.get?, alone.only, alone.number]

/-- The timer a bench reads is the one of its connection. -/
theorem timer?_eq (alone : bench.Alone connection) : bench.timer? = connection.timer := by
  simp [timer?, alone.connection?_eq]

/-- The bench goes on with its connection in another state, nobody having asked for it or waiting on
it. -/
theorem holding {next : Connection} (alone : bench.Alone connection)
    (same : next.id = connection.id) : (bench.holding next).Alone next :=
  ⟨rfl, same.trans alone.number, alone.unasked, alone.unawaited⟩

/-- Putting the connection back as it was changes nothing on the bench. -/
theorem holding_self (alone : bench.Alone connection) : bench.holding connection = bench := by
  unfold ConnectionBench.holding
  rw [← alone.only]

/-- An event changes the connection. -/
theorem meet_event (alone : bench.Alone connection) (now : Milliseconds)
    (event : Connection.Event) :
    bench.meet now (.event event) = bench.holding (connection.next now event) := by
  simp only [meet, act, Registry.changeConnection, Logged.value_bind, Logged.value_pure,
    Pool.change_only alone.only alone.number]
  rfl

/-- The timer task makes the running timer expire. -/
theorem step_timer {timer : Timer} (alone : bench.Alone connection)
    (running : connection.timer = some timer) :
    (bench.step now (.inside (.timer bench.id))).value =
      bench.holding (connection.timerExpired timer.kind timer.generation).value := by
  simp only [step, act, Registry.step, Registry.expire, Pool.expire, Logged.value_bind,
    Logged.value_pure, Pool.change_only alone.only alone.number, running]
  rfl

/-- Nothing can go on but the timer whose time has come. -/
theorem enabled_eq (alone : bench.Alone connection) (now : Milliseconds) :
    bench.enabled now =
      if connection.timer.any fun timer => timer.deadline ≤ now then
        [.inside (.timer bench.id)]
      else [] := by
  simp only [enabled, Registry.enabled, Pool.expired, alone.only, alone.unasked, alone.unawaited,
    List.filter_cons, List.filter_nil, List.map_nil, ite_self, List.append_nil]
  split <;> simp [alone.number]

/-- The timer task can take a step exactly if the time of the running timer has come. -/
theorem timer_mem_enabled (alone : bench.Alone connection) :
    Task.inside (.timer bench.id) ∈ bench.enabled now ↔
      ∃ timer, connection.timer = some timer ∧ timer.deadline ≤ now := by
  rw [alone.enabled_eq]
  split <;> simp_all [Option.any_eq_true]

/-- The one moment that is waited for is the deadline of the running timer. A bench has no requests,
so nothing but the timer is waited for. -/
theorem nextDeadline?_eq (now : Milliseconds) {current : Logged ConnectionBench}
    (alone : current.value.Alone connection) :
    Schedule.nextDeadline? machine now current =
      (connection.timer.map Timer.deadline).filter fun deadline => now < deadline := by
  have awaited : machine.deadlines current = (connection.timer.map Timer.deadline).toList := by
    simp only [machine, Registry.deadlines, Pool.deadlines, alone.only, alone.unasked,
      List.filterMap_nil, List.append_nil]
    cases running : connection.timer <;> simp [running]
  rw [Schedule.nextDeadline?, awaited]
  cases connection.timer with
  | none => rfl
  | some timer => by_cases later : now < timer.deadline <;> simp [Option.filter, later]

end Alone

/-! ## A connection on the clock -/

/-- Something that happens on the clock. An expiry is a turn of its own, as whoever acts on the
connection cannot bring it about. -/
inductive Turn where
  /-- Someone acts on the connection. Nobody makes a timer expire. -/
  | event (event : Connection.Event) (outside : event.isExpiry = false)
  /-- The running timer goes off, if its time has come. -/
  | expire
  /-- A timer that was replaced or called off goes off nevertheless. -/
  | stray (index : Nat)
  /-- Time passes, up to the next moment that is waited for. -/
  | pass (span : Milliseconds)
  deriving DecidableEq

/-- A connection on the clock. The moments of the start and of the latest renewal are kept, so that
the deadline can be counted from them. -/
structure Timed where
  now : Milliseconds
  bench : ConnectionBench
  /-- Every timer that was ever set, in the order in which they were set. -/
  timers : List Timer
  /-- When the connection was started. -/
  started : Milliseconds
  /-- When the connection was activated or, while it was registered, last received data. -/
  renewed : Milliseconds

namespace Timed

/-- A new connection at a moment. -/
def new (id : ConnectionId) (timings : Timings) (now : Milliseconds) : Timed :=
  ⟨now, .new id timings, [], now, now⟩

/-- The phase of the connection. -/
def phase (timed : Timed) : Phase :=
  timed.bench.connection?.elim .closed Connection.phase

/-- The moment until which the connection waits for its tester. -/
def deadline (timings : Timings) (timed : Timed) : Option Milliseconds :=
  match timed.phase with
  | .initialized => some (timed.started + timings.initial)
  | .registeredActive => some (timed.renewed + timings.general)
  | _ => none

/-- A timer is superseded if another one was set after it or the connection is closed. -/
def Superseded (index : Nat) (timed : Timed) : Prop :=
  index + 1 < timed.timers.length ∨ timed.phase = .closed

instance (index : Nat) (timed : Timed) : Decidable (timed.Superseded index) :=
  inferInstanceAs (Decidable (_ ∨ _))

/-- Someone acts on the connection. A timer that is set is noted, and so is the moment from which a
deadline counts. -/
def undergo (event : Connection.Event) (timed : Timed) : Timed :=
  let after := timed.bench.meet timed.now (.event event)
  let kind := event.sets timed.phase
  { now := timed.now
    bench := after
    timers :=
      if after.timer? = timed.bench.timer? then timed.timers
      else timed.timers ++ after.timer?.toList
    started := if kind = some .initial then timed.now else timed.started
    renewed := if kind = some .general then timed.now else timed.renewed }

/-- The clock after a span. It stands still while a task can go on, and stops at the next moment
that is waited for. -/
def clockAfter (span : Milliseconds) (timed : Timed) : Milliseconds :=
  if timed.bench.enabled timed.now = [] then
    match Schedule.nextDeadline? machine timed.now (pure timed.bench) with
    | some deadline => min (timed.now + span) deadline
    | none => timed.now + span
  else timed.now

/-- The connection after something has happened on the clock. The expiry of a superseded timer may
come at any later moment, and is looked at by the connection itself. -/
def meet (turn : Turn) (timed : Timed) : Timed :=
  match turn with
  | .event event _ => timed.undergo event
  | .expire =>
    let task := Task.inside (.timer timed.bench.id)
    if task ∈ timed.bench.enabled timed.now then
      { timed with bench := (timed.bench.step timed.now task).value }
    else timed
  | .stray index =>
    match timed.timers[index]? with
    | none => timed
    | some timer =>
      if timed.Superseded index then
        let expiry := Connection.Event.timerExpired timer.kind timer.generation
        { timed with bench := timed.bench.meet timed.now (.event expiry) }
      else timed
  | .pass span => { timed with now := timed.clockAfter span }

/-- The connection after a course of turns. -/
def follow (course : List Turn) (timed : Timed) : Timed :=
  course.foldl (fun current turn => current.meet turn) timed

/-- A course that is followed in two parts is followed as one. -/
theorem follow_append (course rest : List Turn) (timed : Timed) :
    timed.follow (course ++ rest) = (timed.follow course).follow rest :=
  List.foldl_append

/-! ## The timer agrees with the deadline -/

/-- What is kept on the clock: the running timer is set for the deadline, its time is not over,
and every timer that was ever set belongs to a generation of its own. -/
structure Attends (timings : Timings) (connection : Connection) (timed : Timed) : Prop where
  alone : timed.bench.Alone connection
  consistent : connection.Consistent
  spans : connection.timings = timings
  deadline : timed.deadline timings = connection.timer.map Timer.deadline
  inTime : ∀ timer, connection.timer = some timer → timed.now ≤ timer.deadline
  ordered : (timed.timers.map Timer.generation).Pairwise (· < ·)
  past : ∀ timer ∈ timed.timers, timer.generation ≤ connection.generation

variable {timings : Timings} {connection : Connection} {timed : Timed} {event : Connection.Event}
  {kind : TimerKind}

/-- The phase of a timed bench is the phase of its connection. -/
theorem phase_of_alone (alone : timed.bench.Alone connection) : timed.phase = connection.phase := by
  simp [phase, alone.connection?_eq]

/-- A closed connection has no deadline left to meet. -/
theorem deadline_of_closed (closed : timed.phase = .closed) : timed.deadline timings = none := by
  simp [deadline, closed]

namespace Attends

/-- An event leaves the connection alone on the bench, in the state the connection itself says it
goes to. -/
theorem alone_undergo (attends : timed.Attends timings connection) (event : Connection.Event) :
    (timed.undergo event).bench.Alone (connection.next timed.now event) := by
  have met := attends.alone.meet_event timed.now event
  simp only [undergo, met]
  exact attends.alone.holding (connection.id_next timed.now event)

/-- A timer is kept for later exactly when the event set a new one; the earlier ones stay in the
list, since setting a timer does not take the last one back. -/
theorem timers_undergo (attends : timed.Attends timings connection) (event : Connection.Event) :
    (timed.undergo event).timers =
      if (connection.next timed.now event).timer = connection.timer then timed.timers
      else timed.timers ++ (connection.next timed.now event).timer.toList := by
  have after := (attends.alone_undergo event).timer?_eq
  have before := attends.alone.timer?_eq
  rw [← after, ← before]
  rfl

/-- A timer that is set is set for the new deadline. The old timer joins those that were superseded,
and the new one is of the next generation, so no expiry of the others can be taken for its own. -/
theorem reset (attends : timed.Attends timings connection)
    (sets : event.sets connection.phase = some kind) :
    (timed.undergo event).Attends timings (connection.next timed.now event) := by
  have reset := Connection.reset_next timed.now sets
  have alone := attends.alone_undergo event
  have phase := (phase_of_alone alone).trans reset.phase
  have before := phase_of_alone attends.alone
  -- A timer in the place of an equal one would go unnoticed, but its generation is a new one.
  have replaced : (connection.next timed.now event).timer ≠ connection.timer := by
    intro same
    have old := (attends.consistent.running (same.symm.trans reset.timer)).1
    exact absurd old (Nat.succ_ne_self connection.generation)
  have noted := attends.timers_undergo event
  rw [if_neg replaced, reset.timer, Option.toList_some] at noted
  refine ⟨alone, Connection.consistent_next timed.now event attends.consistent,
    reset.timings.trans attends.spans, ?_, ?_, ?_, ?_⟩
  · rw [reset.timer, Timed.deadline, phase, attends.spans]
    cases kind <;> simp [Connection.timedPhase, undergo, before, sets, Timings.span]
  · intro timer running
    cases reset.timer.symm.trans running
    exact Nat.le_add_right timed.now _
  · rw [noted, List.map_append]
    refine List.pairwise_append.mpr ⟨attends.ordered, List.pairwise_singleton _ _, ?_⟩
    intro old member new fresh
    obtain ⟨timer, listed, rfl⟩ := List.mem_map.mp member
    obtain rfl : new = connection.generation + 1 := by simpa using fresh
    exact Nat.lt_succ_of_le (attends.past timer listed)
  · rw [noted, reset.generation]
    intro timer member
    rcases List.mem_append.mp member with listed | fresh
    · exact Nat.le_succ_of_le (attends.past timer listed)
    · simp [List.mem_singleton.mp fresh]

/-- The deadline stays where it is as long as the timer goes on. Neither the timer nor what the
deadline is counted from has changed. -/
theorem undisturbed (attends : timed.Attends timings connection)
    (keeps : event.sets connection.phase = none) (goesOn : event ≠ .stop)
    (outside : event.isExpiry = false) :
    (timed.undergo event).Attends timings (connection.next timed.now event) := by
  have undisturbed := Connection.undisturbed_next timed.now keeps goesOn outside
  have alone := attends.alone_undergo event
  have phase := (phase_of_alone alone).trans undisturbed.phase
  have before := phase_of_alone attends.alone
  have noted := attends.timers_undergo event
  rw [if_pos undisturbed.timer] at noted
  refine ⟨alone, Connection.consistent_next timed.now event attends.consistent,
    undisturbed.timings.trans attends.spans, ?_, ?_, ?_, ?_⟩
  · rw [undisturbed.timer, ← attends.deadline, Timed.deadline, Timed.deadline, phase, before]
    simp [undergo, before, keeps]
  · rw [undisturbed.timer]
    exact attends.inTime
  · rw [noted]
    exact attends.ordered
  · rw [noted, undisturbed.generation]
    exact attends.past

/-- A connection that is stopped, by whatever means, has no deadline. Nothing is left to come true
of its timers but that they are superseded. -/
theorem stopped (attends : timed.Attends timings connection) {after : Timed}
    (alone : after.bench.Alone connection.stop.value) (noted : after.timers = timed.timers) :
    after.Attends timings connection.stop.value := by
  have consistent := Connection.consistent_stop attends.consistent
  have closed := Connection.phase_stop connection
  have untimed := consistent.timer_of_closed closed
  obtain ⟨spans, later⟩ := connection.stop_keeps
  refine ⟨alone, consistent, spans.trans attends.spans, ?_, ?_, ?_, ?_⟩
  · rw [untimed]
    exact deadline_of_closed ((phase_of_alone alone).trans closed)
  · intro timer running
    cases untimed.symm.trans running
  · rw [noted]
    exact attends.ordered
  · rw [noted]
    exact fun timer member => Nat.le_trans (attends.past timer member) later

/-- Whatever is done to the connection, the timer agrees with the deadline. An event sets a timer,
closes the connection or leaves the timer alone, and these are the three cases. -/
theorem undergo (attends : timed.Attends timings connection) (outside : event.isExpiry = false) :
    (timed.undergo event).Attends timings (connection.next timed.now event) := by
  cases sets : event.sets connection.phase with
  | some kind => exact attends.reset sets
  | none =>
    by_cases stops : event = .stop
    · subst stops
      have untimed : (connection.next timed.now .stop).timer = none :=
        (Connection.consistent_stop attends.consistent).timer_of_closed
          (Connection.phase_stop connection)
      have noted : (timed.undergo .stop).timers = timed.timers := by
        simp [attends.timers_undergo, untimed]
      exact attends.stopped (attends.alone_undergo .stop) noted
    · exact attends.undisturbed sets stops outside

/-- The timer task closes the connection when the time of the running timer has come. Its generation
is the one of the connection, so the expiry is not mistaken for a superseded one. -/
theorem meet_expire {timer : Timer} (attends : timed.Attends timings connection)
    (running : connection.timer = some timer) (come : timer.deadline ≤ timed.now) :
    (timed.meet .expire).Attends timings connection.stop.value := by
  have able := attends.alone.timer_mem_enabled.mpr ⟨timer, running, come⟩
  have closed := attends.consistent.phase_timerExpired running
  have expired : (connection.timerExpired timer.kind timer.generation).value =
      connection.stop.value := by
    rcases connection.timerExpired_value timer.kind timer.generation with same | stops
    · rw [same] at closed
      rw [same, Connection.stop_of_closed closed]
    · exact stops
  have met : timed.meet .expire =
      { timed with bench := timed.bench.holding connection.stop.value } := by
    simp only [Timed.meet, if_pos able, attends.alone.step_timer running, expired]
  rw [met]
  exact attends.stopped (attends.alone.holding (Connection.id_stop connection)) rfl

/-- The timer task does nothing before. -/
theorem meet_expire_early (attends : timed.Attends timings connection)
    (early : ∀ timer, connection.timer = some timer → timed.now < timer.deadline) :
    timed.meet .expire = timed := by
  have unable : Task.inside (.timer timed.bench.id) ∉ timed.bench.enabled timed.now := by
    intro able
    obtain ⟨timer, running, come⟩ := attends.alone.timer_mem_enabled.mp able
    exact absurd come (Nat.not_le_of_lt (early timer running))
  simp only [Timed.meet, if_neg unable]

/-- A superseded timer belongs to an earlier generation, so its expiry means nothing. -/
theorem generation_ne {index : Nat} {timer : Timer} (attends : timed.Attends timings connection)
    (listed : timed.timers[index]? = some timer) (replaced : index + 1 < timed.timers.length) :
    timer.generation ≠ connection.generation := by
  obtain ⟨inside, rfl⟩ := List.getElem?_eq_some_iff.mp listed
  have earlier : (timed.timers[index]).generation < (timed.timers[index + 1]).generation := by
    have ordered := List.pairwise_iff_getElem.mp attends.ordered index (index + 1)
      (by simpa using inside) (by simpa using replaced) (Nat.lt_succ_self index)
    simpa using ordered
  have past := attends.past _ (List.getElem_mem replaced)
  exact Nat.ne_of_lt (Nat.lt_of_lt_of_le earlier past)

/-- An expiry of a superseded timer finds a newer generation running and is dropped. Each timer that
was replaced has a generation of its own, and a closed connection has none; so the comparison cannot
go wrong. -/
theorem meet_stray (attends : timed.Attends timings connection) (index : Nat) :
    timed.meet (.stray index) = timed := by
  cases listed : timed.timers[index]? with
  | none => simp only [Timed.meet, listed]
  | some timer =>
    by_cases superseded : timed.Superseded index
    · have stray : connection.phase = .closed ∨ timer.generation ≠ connection.generation := by
        rcases superseded with replaced | closed
        · exact Or.inr (attends.generation_ne listed replaced)
        · exact Or.inl ((phase_of_alone attends.alone).symm.trans closed)
      have same : connection.next timed.now (.timerExpired timer.kind timer.generation) =
          connection := attends.consistent.timerExpired_of_stray stray
      simp only [Timed.meet, listed, if_pos superseded, attends.alone.meet_event, same,
        attends.alone.holding_self]
    · simp only [Timed.meet, listed, if_neg superseded]

/-- Time passes up to the deadline. Without a timer that runs, it passes as far as is asked. -/
theorem clockAfter_eq (attends : timed.Attends timings connection) (span : Milliseconds) :
    timed.clockAfter span =
      (timed.deadline timings).elim (timed.now + span) fun deadline =>
        min (timed.now + span) deadline := by
  have awaited := Alone.nextDeadline?_eq timed.now
    (show (pure timed.bench : Logged ConnectionBench).value.Alone connection from attends.alone)
  rw [clockAfter, attends.alone.enabled_eq, awaited, attends.deadline]
  cases running : connection.timer with
  | none => simp
  | some timer =>
    have inTime := attends.inTime timer running
    by_cases later : timed.now < timer.deadline
    · simp [Option.filter, later]
    · have come : timed.now = timer.deadline := Nat.le_antisymm inTime (Nat.le_of_not_lt later)
      simp [come]

/-- Time that passes before the running timer is due leaves it set for the same deadline. Nothing
but the moment changes, and it stops at the deadline. -/
theorem pass (attends : timed.Attends timings connection) (span : Milliseconds) :
    (timed.meet (.pass span)).Attends timings connection where
  alone := attends.alone
  consistent := attends.consistent
  spans := attends.spans
  deadline := attends.deadline
  inTime timer running := by
    have passed : (timed.meet (.pass span)).now = min (timed.now + span) timer.deadline := by
      simp [Timed.meet, attends.clockAfter_eq, attends.deadline, running]
    rw [passed]
    exact Nat.min_le_right _ _
  ordered := attends.ordered
  past := attends.past

/-- Every turn keeps the timer and the deadline together. The task does nothing before its time, and
a span is cut where the timer is due. -/
theorem meet (attends : timed.Attends timings connection) (turn : Turn) :
    ∃ next, (timed.meet turn).Attends timings next := by
  cases turn with
  | event event outside => exact ⟨_, attends.undergo outside⟩
  | expire =>
    by_cases come : ∃ timer, connection.timer = some timer ∧ timer.deadline ≤ timed.now
    · obtain ⟨timer, running, come⟩ := come
      exact ⟨_, attends.meet_expire running come⟩
    · have early : ∀ timer, connection.timer = some timer → timed.now < timer.deadline :=
        fun timer running => Nat.lt_of_not_le fun reached => come ⟨timer, running, reached⟩
      rw [attends.meet_expire_early early]
      exact ⟨_, attends⟩
  | stray index =>
    rw [attends.meet_stray index]
    exact ⟨_, attends⟩
  | pass span => exact ⟨_, attends.pass span⟩

end Attends

/-- The timer a new connection starts with is the initial one, due from the moment it was opened. No
timer runs before the start, so there is nothing to be in time for. -/
theorem attends_new (id : ConnectionId) (timings : Timings) (opened : Milliseconds) :
    (new id timings opened).Attends timings (.new id timings) where
  alone := alone_new id timings
  consistent := Connection.consistent_new id timings
  spans := rfl
  deadline := by
    have unassigned : (new id timings opened).phase = (Connection.new id timings).phase :=
      phase_of_alone (alone_new id timings)
    simp [Timed.deadline, unassigned, Connection.new]
  inTime _ running := by cases running
  ordered := List.Pairwise.nil
  past _ member := by cases member

/-- Every course keeps the timer and the deadline together. -/
theorem Attends.follow (attends : timed.Attends timings connection) (course : List Turn) :
    ∃ next, (timed.follow course).Attends timings next := by
  induction course generalizing timed connection with
  | nil => exact ⟨_, attends⟩
  | cons turn rest inductionHypothesis =>
    obtain ⟨next, kept⟩ := attends.meet turn
    exact inductionHypothesis kept

/-! ## A connection closes at its deadline -/

/-- A bench that attends to a connection shows that connection's phase. -/
theorem Attends.phase_eq (attends : timed.Attends timings connection) :
    timed.phase = connection.phase :=
  phase_of_alone attends.alone

/-- A connection closes by a stop or at its deadline. Events other than the stop leave it
open, and superseded expiries are dropped; what remains is the timer task, which acts when the
time has come. -/
theorem Attends.closes_at (attends : timed.Attends timings connection) {turn : Turn}
    (goesOn : turn ≠ .event .stop rfl) (opened : timed.phase ≠ .closed)
    (closes : (timed.meet turn).phase = .closed) :
    turn = .expire ∧ timed.deadline timings = some timed.now := by
  cases turn with
  | event event outside =>
    have stays : event ≠ .stop := by
      rintro rfl
      exact goesOn rfl
    have closed := (attends.undergo outside).phase_eq.symm.trans closes
    cases sets : event.sets connection.phase with
    | some kind =>
      have timed := (Connection.reset_next timed.now sets).phase.symm.trans closed
      cases kind <;> cases timed
    | none =>
      have same := (Connection.undisturbed_next timed.now sets stays outside).phase
      exact absurd (attends.phase_eq.trans (same.symm.trans closed)) opened
  | expire =>
    refine ⟨rfl, ?_⟩
    rw [attends.deadline]
    cases running : connection.timer with
    | none =>
      have same := attends.meet_expire_early (by simp [running])
      exact absurd (same ▸ closes) opened
    | some timer =>
      have inTime := attends.inTime timer running
      by_cases early : timed.now < timer.deadline
      · have same := attends.meet_expire_early (by simpa [running] using early)
        exact absurd (same ▸ closes) opened
      · exact congrArg some (Nat.le_antisymm (Nat.le_of_not_lt early) inTime)
  | stray index => exact absurd (attends.meet_stray index ▸ closes) opened
  | pass span => exact absurd closes opened

/-- At its deadline a connection closes as soon as the timer task gets its turn. -/
theorem Attends.closed_expire (attends : timed.Attends timings connection)
    (reached : timed.deadline timings = some timed.now) :
    (timed.meet .expire).phase = .closed := by
  rw [attends.deadline] at reached
  obtain ⟨timer, running, come⟩ := Option.map_eq_some_iff.mp reached
  rw [(attends.meet_expire running (Nat.le_of_eq come)).phase_eq]
  exact Connection.phase_stop connection

/-- What is closed stays closed. Its timer is gone, so that the timer task finds nothing to do
either. -/
theorem Attends.closed_meet (attends : timed.Attends timings connection)
    (closed : timed.phase = .closed) (turn : Turn) : (timed.meet turn).phase = .closed := by
  have ended := attends.phase_eq.symm.trans closed
  cases turn with
  | event event outside =>
    rw [Timed.meet, (attends.undergo outside).phase_eq]
    exact Connection.next_of_closed timed.now event ended
  | expire =>
    have untimed := attends.consistent.timer_of_closed ended
    rw [attends.meet_expire_early (by simp [untimed])]
    exact closed
  | stray index =>
    rw [attends.meet_stray index]
    exact closed
  | pass span => exact closed

/-- Closed is where a connection stays, whatever the rest of the course holds. -/
theorem Attends.closed_follow (attends : timed.Attends timings connection)
    (closed : timed.phase = .closed) (course : List Turn) :
    (timed.follow course).phase = .closed := by
  induction course generalizing timed connection with
  | nil => exact closed
  | cons turn rest inductionHypothesis =>
    obtain ⟨next, kept⟩ := attends.meet turn
    exact inductionHypothesis kept (attends.closed_meet closed turn)

/-- A connection keeps its deadline. Time cannot pass over it and passes up to it, and without a
deadline it passes freely: this is what makes a deadline exact. -/
structure KeepsDeadline (timings : Timings) (timed : Timed) : Prop where
  /-- It does not stay open beyond the deadline. -/
  neverLater : ∀ deadline, timed.deadline timings = some deadline → timed.now ≤ deadline
  /-- Time passes up to the deadline. -/
  reaches : ∀ deadline span, timed.deadline timings = some deadline →
    (timed.meet (.pass span)).now = min (timed.now + span) deadline
  /-- Time passes freely without a deadline. -/
  unlimited : ∀ span, timed.deadline timings = none →
    (timed.meet (.pass span)).now = timed.now + span
  /-- It closes at the deadline. -/
  closes : timed.deadline timings = some timed.now → (timed.meet .expire).phase = .closed
  /-- Unless it is stopped, it closes in no other way and at no other time. -/
  neverEarlier : ∀ turn, turn ≠ .event .stop rfl → timed.phase ≠ .closed →
    (timed.meet turn).phase = .closed → turn = .expire ∧ timed.deadline timings = some timed.now
  /-- Data that arrives before registration changes nothing. -/
  unmoved : timed.phase ≠ .registeredActive → timed.meet (.event .dataReceived rfl) = timed
  /-- A superseded timer changes nothing. -/
  superseded : ∀ index, timed.Superseded index → timed.meet (.stray index) = timed

/-- Data means nothing to a connection that is not registered. -/
theorem Attends.unmoved (attends : timed.Attends timings connection)
    (unregistered : timed.phase ≠ .registeredActive) :
    timed.meet (.event .dataReceived rfl) = timed := by
  rw [attends.phase_eq] at unregistered
  have same : connection.next timed.now .dataReceived = connection :=
    Connection.dataReceived_of_unregistered timed.now unregistered
  have sets : Connection.Event.sets timed.phase .dataReceived = none := by
    simp [attends.phase_eq, unregistered]
  simp [Timed.meet, Timed.undergo, attends.alone.meet_event, same, attends.alone.holding_self, sets]

/-- A timer that is attended to runs out at the deadline, not before it and not after. Each clause
is a property of the state that is attended to, and no induction is left to do. -/
theorem Attends.keepsDeadline (attends : timed.Attends timings connection) :
    timed.KeepsDeadline timings where
  neverLater deadline waits := by
    rw [attends.deadline] at waits
    obtain ⟨timer, running, rfl⟩ := Option.map_eq_some_iff.mp waits
    exact attends.inTime timer running
  reaches deadline span waits := by simp [Timed.meet, attends.clockAfter_eq, waits]
  unlimited span waits := by simp [Timed.meet, attends.clockAfter_eq, waits]
  closes := attends.closed_expire
  neverEarlier turn goesOn opened closes := attends.closes_at goesOn opened closes
  unmoved := attends.unmoved
  superseded index _ := attends.meet_stray index

/-- The first turn that closes a connection is that of its timer at the deadline. The induction is
on the course, with the connection carried along. -/
theorem Attends.deadline_reached (attends : timed.Attends timings connection)
    {course : List Turn} (goesOn : Turn.event .stop rfl ∉ course) (opened : timed.phase ≠ .closed)
    (closed : (timed.follow course).phase = .closed) :
    ∃ before rest, course = before ++ .expire :: rest ∧
      (timed.follow before).deadline timings = some (timed.follow before).now := by
  -- The turn that is sought is the first one after which the connection is closed.
  induction course generalizing timed connection with
  | nil => exact absurd closed opened
  | cons turn rest inductionHypothesis =>
    obtain ⟨next, kept⟩ := attends.meet turn
    obtain ⟨other, others⟩ : Turn.event .stop rfl ≠ turn ∧ Turn.event .stop rfl ∉ rest := by
      simpa using goesOn
    by_cases closes : (timed.meet turn).phase = .closed
    · obtain ⟨rfl, reached⟩ := attends.closes_at (Ne.symm other) opened closes
      exact ⟨[], rest, rfl, reached⟩
    · obtain ⟨before, after, rfl, reached⟩ := inductionHypothesis kept others closes closed
      exact ⟨turn :: before, after, rfl, reached⟩

/-- In every course a connection keeps its deadline. Unless it is stopped, it is closed exactly
if its timer has had its turn at the moment of the deadline. -/
theorem closed_iff_deadline_reached (id : ConnectionId) (timings : Timings)
    (opened : Milliseconds) (course : List Turn) :
    ((new id timings opened).follow course).KeepsDeadline timings ∧
      (Turn.event .stop rfl ∉ course →
        (((new id timings opened).follow course).phase = .closed ↔
          ∃ before rest, course = before ++ .expire :: rest ∧
            ((new id timings opened).follow before).deadline timings =
              some ((new id timings opened).follow before).now)) := by
  have attends := attends_new id timings opened
  obtain ⟨connection, kept⟩ := attends.follow course
  refine ⟨kept.keepsDeadline, fun goesOn => ⟨?_, ?_⟩⟩
  · exact attends.deadline_reached goesOn (by simp [attends.phase_eq, Connection.new])
  · rintro ⟨before, rest, rfl, reached⟩
    obtain ⟨earlier, keptBefore⟩ := attends.follow before
    obtain ⟨last, keptAfter⟩ := keptBefore.meet .expire
    rw [follow_append]
    exact keptAfter.closed_follow (keptBefore.closed_expire reached) rest

/-- A tester that is registered in time, sends once more and then falls silent. -/
def visit : List Turn :=
  [.event .start rfl, .pass 1500, .event .dataReceived rfl, .pass 400,
    .event (.activate 0x0EF1) rfl, .stray 0, .pass 3000, .event .dataReceived rfl, .stray 1,
    .pass 10000]

/-- The visit is registered and spoken to before it falls silent, and the connection is closed by
the general inactivity timer and by no event of the course. -/
theorem closed_iff_deadline_reached_visit :
    Turn.event .stop rfl ∉ visit ++ [.expire] ∧
      ((new 1 ⟨2000, 5000⟩ 0).follow visit).phase = .registeredActive ∧
      ((new 1 ⟨2000, 5000⟩ 0).follow visit).now = 9900 ∧
      ((new 1 ⟨2000, 5000⟩ 0).follow (visit ++ [.expire])).phase = .closed := by
  have goesOn : Turn.event .stop rfl ∉ visit ++ [.expire] := by decide
  refine ⟨goesOn, by decide, by decide, ?_⟩
  have reached : ((new 1 ⟨2000, 5000⟩ 0).follow visit).deadline ⟨2000, 5000⟩ =
      some ((new 1 ⟨2000, 5000⟩ 0).follow visit).now := by decide
  have closes := (closed_iff_deadline_reached 1 ⟨2000, 5000⟩ 0 (visit ++ [.expire])).2 goesOn
  exact closes.mpr ⟨visit, [], rfl, reached⟩

end Timed

end Simulation.ConnectionBench

end DiagnosticGateway
