import DiagnosticGateway.Proofs.Gateway.Ceiling
import DiagnosticGateway.Proofs.Gateway.Handling
import DiagnosticGateway.Proofs.Gateway.Senders

/-!
# What a stop leaves behind

A gateway that is stopped stays stopped. Its connections are closed, its ECUs rest, and it sends no
datagram any more. What was queued on a connection is still written before the stream to the tester
ends. The tasks that serve sockets outlive the stop, though, and so does the one of a socket that
was accepted and not served before: it opens a connection when it takes its first step, and the
tester can have it registered. Nobody else gets a connection after the stop.
-/

namespace DiagnosticGateway

open Log

namespace Ecu

variable {ecu : Ecu} {event : Event}

/-- An ECU that does not run is brought to run by a start and by nothing else. A hook or a request
may still come to it, but without its worker neither has an effect on what runs. -/
theorem apply_resting (rests : ecu.running = false) (unstarted : event ≠ .start) :
    (ecu.apply event).value.ecu.running = false := by
  cases event with
  | start => exact absurd rfl unstarted
  | stop => simp [apply, stop, rests]
  | put request => simp [apply, put, rests]
  | release =>
    simp only [apply, release, Logged.value_bind, Logged.value_pure]
    split <;> exact rests
  | setHook hook => exact rests
  | addListener id => exact rests
  | dropListener id => exact rests
  | work =>
    simp only [apply, work]
    split
    · simp only [process, Logged.value_bind]
      split <;> exact rests
    · exact rests

/-- An ECU that was stopped does not run. -/
theorem apply_stop_resting (ecu : Ecu) : (ecu.apply .stop).value.ecu.running = false := by
  simp only [apply, stop, Logged.value_bind, Logged.value_pure]
  split
  · rfl
  · rename_i rests
    simpa using rests

end Ecu

namespace Gateway

variable {gateway : Gateway} {index : Nat}

/-- The ECU with a number does not run, if there is one. -/
def Rests (index : Nat) (gateway : Gateway) : Prop :=
  ∀ ecu, gateway.ecus[index]? = some ecu → ecu.running = false

/-- An ECU that rests goes on resting unless it is started. -/
theorem Rests.changeEcu {number : Nat} {event : Ecu.Event} (rests : gateway.Rests index)
    (unstarted : event ≠ .start) : (gateway.changeEcu number event).value.Rests index := by
  intro ecu found
  rw [changeEcu_value, getElem?_ecusAfter] at found
  obtain ⟨before, earlier, rfl⟩ := Option.map_eq_some_iff.mp found
  split
  · exact Ecu.apply_resting (rests before earlier) unstarted
  · exact rests before earlier

/-- Nor does it work by events among which is no start. -/
theorem Rests.undergo {events : List (Nat × Ecu.Event)} (rests : gateway.Rests index)
    (unstarted : ∀ entry ∈ events, entry.2 ≠ .start) : (gateway.undergo events).Rests index := by
  induction events generalizing gateway with
  | nil => exact rests
  | cons entry rest inductionHypothesis =>
    exact inductionHypothesis (rests.changeEcu (unstarted entry List.mem_cons_self))
      fun later member => unstarted later (List.mem_cons_of_mem _ member)

/-- Whoever is stopped rests. The induction is on the ECUs that are stopped: the one in question
comes up once, and the later stops leave it at rest. -/
theorem rests_stopEcus {numbers : List Nat} (member : index ∈ numbers) (gateway : Gateway) :
    (gateway.undergo (numbers.map fun number => (number, .stop))).Rests index := by
  induction numbers generalizing gateway with
  | nil => cases member
  | cons number rest inductionHypothesis =>
    rcases List.mem_cons.mp member with rfl | later
    · have rests : (gateway.changeEcu index .stop).value.Rests index := by
        intro ecu found
        rw [changeEcu_value, getElem?_ecusAfter] at found
        obtain ⟨before, -, rfl⟩ := Option.map_eq_some_iff.mp found
        rw [if_pos rfl]
        exact Ecu.apply_stop_resting before
      exact rests.undergo (by simp)
    · exact inductionHypothesis later _

/-- After the stop no ECU runs. An index with an ECU is stopped in its turn; at an index without one
there is nothing to rest. -/
theorem rests_halt (index : Nat) (gateway : Gateway) : gateway.halt.value.Rests index := by
  let stopped := { gateway with phase := .stopped, registry := gateway.registry.stopAll.value }
  let later := stopped.undergo (gateway.ecuNumbers.map fun number => (number, .stop))
  have rests : later.Rests index := by
    by_cases member : index ∈ gateway.ecuNumbers
    · exact rests_stopEcus member stopped
    · have none : stopped.Rests index := by
        intro ecu found
        obtain ⟨within, -⟩ := List.getElem?_eq_some_iff.mp found
        exact absurd (List.mem_range.mpr within) member
      exact none.undergo (by simp)
  have ended : later.endTasks.Rests index := rests
  have value : gateway.halt.value =
      later.endTasks.undergo (later.ecuNumbers.map fun number =>
        (number, .dropListener listener)) := by
    simp only [halt, Logged.value_bind, changeEcus_value]
    rfl
  rw [value]
  exact ended.undergo (by simp)

/-- After the stop no connection is open. The registry closes whatever is in its table, and a
gateway that serves has every open connection there. -/
theorem isOpen_halt (served : gateway.registry.Served) (connection : ConnectionId) :
    gateway.halt.value.registry.pool.isOpen connection = false := by
  by_contra opened
  obtain ⟨later, found, isOpen⟩ := Pool.isOpen_iff.mp (by simpa using opened)
  rw [(halt_value gateway).2.1] at found
  have stops : gateway.registry.stopAll.value.pool.get? connection =
      (gateway.registry.pool.get? connection).map fun earlier =>
        if connection ∈ gateway.registry.table then earlier.stop.value else earlier :=
    Pool.get?_stopAll connection gateway.registry.table gateway.registry.pool
  rw [stops] at found
  obtain ⟨earlier, there, rfl⟩ := Option.map_eq_some_iff.mp found
  split at isOpen
  · exact isOpen (Connection.phase_stop earlier)
  · rename_i unlisted
    exact unlisted (served.listed there isOpen)

end Gateway

namespace Station

open Gateway

variable {station : Station} {occurrence : Occurrence} {history past later : History}
  {id : SocketId} {connection : ConnectionId} {moment : Milliseconds}

/-! ## Steps after the stop -/

/-- A gateway that runs is halted by the stop, and nothing is sent. The sockets of the gateway are
released in the network, and what was sent until then stays sent. -/
theorem stop_of_running (running : station.gateway.running?.isSome = true) :
    (station.act ⟨moment, .event .stop⟩).gateway = station.gateway.halt.value ∧
      (station.act ⟨moment, .event .stop⟩).network.sent = station.network.sent := by
  obtain ⟨sockets, runs⟩ := Option.isSome_iff_exists.mp running
  have phase : station.gateway.phase = .running sockets := by
    unfold running? at runs
    split at runs
    · rename_i phase
      rw [phase, Option.some.inj runs]
    · cases runs
  have value : station.act ⟨moment, .event .stop⟩ =
      ⟨station.gateway.halt.value,
        (station.network.release .tcp sockets.tcp).release .udp sockets.udp⟩ := by
    show station.stop.value = _
    simp only [stop, phase]
    rfl
  rw [value]
  exact ⟨rfl, rfl⟩

/-- A gateway that was stopped does not run. -/
theorem running?_of_stopped (stopped : station.gateway.phase = .stopped) :
    station.gateway.running? = none := by
  rw [running?, stopped]

/-- A gateway that was stopped cannot be started. -/
theorem start_of_stopped (stopped : station.gateway.phase = .stopped) (now : Milliseconds) :
    station.start now = return (station, .error .alreadyStarted) := by
  simp only [start, stopped]

/-- Starting or stopping it once more changes nothing. Both look at the phase first. -/
theorem act_of_stopped (stopped : station.gateway.phase = .stopped)
    (turns : occurrence.action = .event .start ∨ occurrence.action = .event .stop) :
    station.act occurrence = station := by
  rcases turns with starts | stops
  · rw [act, starts]
    show (station.start occurrence.moment).value.1 = station
    rw [start_of_stopped stopped]
    rfl
  · rw [act, stops]
    show station.stop.value = station
    simp only [stop, stopped]
    rfl

/-- What happens to a stopped gateway does not concern the network. Both tasks that use the network,
the one that receives and the one that announces, need a gateway that runs. -/
theorem network_act (stopped : station.gateway.phase = .stopped)
    (able : station.CanHappen occurrence) : (station.act occurrence).network = station.network := by
  have unable := running?_of_stopped stopped
  obtain ⟨moment, action⟩ := occurrence
  cases action with
  | event event =>
    cases event with
    | start => rw [act_of_stopped stopped (Or.inl rfl)]
    | stop => rw [act_of_stopped stopped (Or.inr rfl)]
    | _ => rfl
  | task task =>
    cases task with
    | receive =>
      have receives : station.gateway.canReceive moment = true := mem_enabled.mp able
      simp [canReceive, unable] at receives
    | announce =>
      show (station.announce moment).value.network = _
      unfold announce
      split
      · rfl
      · simp only [Logged.value_bind, Logged.value_pure, transmit, unable]
    | _ => rfl

/-- A gateway that is stopped stays stopped, and its ECUs undergo what an action brings them.
Tasks that were under way may still come to their ends; none of them looks at the phase in
order to change it. -/
theorem stays_act (stopped : station.gateway.phase = .stopped)
    (served : station.gateway.registry.Served) (able : station.CanHappen occurrence) :
    (station.act occurrence).gateway.phase = .stopped ∧
      (station.act occurrence).gateway.ecus =
        (station.gateway.undergo (station.gateway.activity occurrence.action)).ecus := by
  obtain ⟨moment, action⟩ := occurrence
  cases action with
  | event event =>
    cases event with
    | start =>
      rw [act_of_stopped stopped (Or.inl rfl)]
      exact ⟨stopped, rfl⟩
    | stop =>
      rw [act_of_stopped stopped (Or.inr rfl)]
      exact ⟨stopped, rfl⟩
    | ecu index event =>
      refine ⟨?_, rfl⟩
      show (station.gateway.changeEcu index event).value.phase = _
      rw [changeEcu_value]
      exact stopped
    | _ =>
      have proceeds := proceeds_act served able (by simp) (by simp) (by simp) (by simp)
      exact ⟨proceeds.phase.trans stopped, proceeds.ecus⟩
  | task task =>
    cases task with
    | route =>
      cases waits : station.gateway.responses with
      | nil =>
        show station.gateway.route.value.phase = _ ∧ station.gateway.route.value.ecus = _
        simp only [Gateway.route, waits]
        exact ⟨stopped, rfl⟩
      | cons response rest =>
        have proceeds := proceeds_route served waits
        exact ⟨proceeds.phase.trans stopped, proceeds.ecus⟩
    | _ =>
      have proceeds := proceeds_act served able (by simp) (by simp) (by simp) (by simp)
      exact ⟨proceeds.phase.trans stopped, proceeds.ecus⟩

/-- Only a start from outside is a start among what an action brings the ECUs. The tasks of the
gateway put requests to the ECUs and take responses from them. -/
theorem activity_unstarted
    (unstarted : ∀ index, occurrence.action ≠ .event (.ecu index .start)) :
    ∀ entry ∈ station.gateway.activity occurrence.action, entry.2 ≠ .start := by
  obtain ⟨moment, action⟩ := occurrence
  intro entry member
  cases action with
  | event event =>
    cases event with
    | ecu index event =>
      obtain rfl := List.mem_singleton.mp member
      rintro rfl
      exact unstarted index rfl
    | _ => cases member
  | task task =>
    cases task with
    | read id =>
      obtain ⟨-, -, -, -, -, -, -, -, -, target, -, rfl⟩ := mem_handedBy member
      simp
    | work index =>
      obtain rfl := List.mem_singleton.mp member
      simp
    | _ => cases member

/-! ## Everything after the stop -/

/-- A station has come from another one that was stopped. -/
structure Outlives (before after : Station) : Prop where
  stopped : after.gateway.phase = .stopped
  served : after.gateway.registry.Served
  network : after.network = before.network
  admissions : after.gateway.admissions ⊆ before.gateway.admissions

/-- Whatever happens to a stopped gateway, it accepts no socket and sends no datagram. The clauses
are kept by every occurrence: its phase, its network and the sockets that are still to be served. -/
theorem Possible.outlives (possible : station.Possible later)
    (stopped : station.gateway.phase = .stopped) (served : station.gateway.registry.Served) :
    station.Outlives (station.replay later) := by
  refine possible.keeps ⟨stopped, served, rfl, fun _ member => member⟩ ?_
  intro current occurrence outlives able
  have deaf : occurrence.action ≠ .task .accept := by
    intro accepts
    obtain ⟨moment, action⟩ := occurrence
    subst accepts
    have accepts : current.gateway.canAccept = true := mem_enabled.mp able
    simp [canAccept, running?_of_stopped outlives.stopped] at accepts
  exact ⟨(stays_act outlives.stopped outlives.served able).1, served_act outlives.served able,
    (network_act outlives.stopped able).trans outlives.network,
    fun _ member => outlives.admissions (admissions_act deaf member)⟩

/-- As long as nobody else starts them, the ECUs of a stopped gateway rest. The induction is on the
history. An ECU that rests answers no event but a start. -/
theorem Possible.rests (possible : station.Possible later)
    (stopped : station.gateway.phase = .stopped) (served : station.gateway.registry.Served)
    (unstarted : ∀ occurrence ∈ later, ∀ index, occurrence.action ≠ .event (.ecu index .start))
    {index : Nat} (rests : station.gateway.Rests index) :
    (station.replay later).gateway.Rests index := by
  induction later generalizing station with
  | nil => exact rests
  | cons first rest inductionHypothesis =>
    obtain ⟨able, possible⟩ := possible
    obtain ⟨stays, ecus⟩ := stays_act stopped served able
    have still : (station.act first).gateway.Rests index := by
      have undergone : (station.gateway.undergo (station.gateway.activity first.action)).Rests
          index := rests.undergo (activity_unstarted (unstarted first List.mem_cons_self))
      rwa [Rests, ecus]
    exact inductionHypothesis possible stays (served_act served able)
      (fun occurrence member => unstarted occurrence (List.mem_cons_of_mem _ member)) still

/-! ## Connections after the stop -/

/-- No connection is ever forgotten. A connection that is removed leaves the table of the registry,
and is kept among those that have been. -/
theorem found_act (able : station.CanHappen occurrence) {holding : Connection}
    (held : station.gateway.registry.pool.get? connection = some holding) :
    ∃ later, (station.act occurrence).gateway.registry.pool.get? connection = some later := by
  cases writes : occurrence.action.writes with
  | false =>
    have leads : station.gateway.registry.Leads _ (station.act occurrence).gateway.registry :=
      conducts_act occurrence writes station
    refine leads.keeps (motive := fun registry =>
      ∃ later, registry.pool.get? connection = some later) ⟨holding, held⟩ ?_
    rintro registry step ⟨current, found⟩
    obtain ⟨later, foundLater, -⟩ := Registry.found_act step found
    exact ⟨later, foundLater⟩
  | true =>
    obtain ⟨id, socket, own, current, -, -, -, -, step⟩ := write_of_writes able writes
    by_cases here : connection = own
    · obtain ⟨next, -, -, found, -⟩ := step.step
      exact ⟨next, here ▸ found⟩
    · exact ⟨holding, (step.connections connection here).trans held⟩

/-- The connection that a socket has got is there. It was opened in the step in which the socket
began to be served. -/
theorem Possible.holds (possible : station.Possible history)
    (unvisited : station.gateway.Unvisited) :
    ∀ id connection, station.connectionOf id history = some connection →
      ∃ holding, (station.replay history).gateway.registry.pool.get? connection = some holding := by
  refine possible.byOccurrence ?_ ?_
  · intro id connection owns
    cases owns
  intro past occurrence possible able inductionHypothesis id connection owns
  rw [connectionOf_concat] at owns
  rw [replay_concat]
  rcases Option.or_eq_some_iff.mp owns with old | ⟨-, gets⟩
  · obtain ⟨holding, held⟩ := inductionHypothesis id connection old
    exact found_act able held
  · obtain ⟨rfl, -, socket, -, -, serves, -⟩ := serve_of_gets gets
    have numbered := (possible.served unvisited.served).numbered
    obtain ⟨later, found, -⟩ := Pool.isOpen_iff.mp (isOpen_serve numbered socket)
    exact ⟨later, serves ▸ found⟩

/-- A history in which a gateway is stopped at some moment, with what came before and what comes
later. -/
def stopping (past : History) (moment : Milliseconds) (later : History) : History :=
  past ++ ⟨moment, .event .stop⟩ :: later

/-- A history that has stopped goes on. -/
theorem stopping_concat (past later : History) (moment : Milliseconds) (occurrence : Occurrence) :
    stopping past moment (later ++ [occurrence]) = stopping past moment later ++ [occurrence] := by
  simp [stopping]

/-- After a stop the history goes on from a station that was stopped. -/
theorem replay_stopping (past later : History) (moment : Milliseconds) (station : Station) :
    station.replay (stopping past moment later) =
      ((station.replay past).act ⟨moment, .event .stop⟩).replay later :=
  replay_append _

/-- A gateway that ran before the stop was halted by it, and what comes later outlives it. It is
where statements about a stop in a history are reduced to statements about what follows it. -/
theorem Possible.halts (possible : station.Possible (stopping past moment later))
    (unvisited : station.gateway.Unvisited)
    (running : (station.replay past).gateway.running?.isSome = true) :
    let halted := (station.replay past).act ⟨moment, .event .stop⟩
    halted.gateway = (station.replay past).gateway.halt.value ∧ halted.Possible later ∧
      halted.Outlives (station.replay (stopping past moment later)) := by
  intro halted
  obtain ⟨front, able, possible⟩ := possible.append
  have served := front.served unvisited.served
  have halts : halted.gateway = _ := (stop_of_running running).1
  refine ⟨halts, possible, ?_⟩
  rw [replay_stopping]
  refine possible.outlives ?_ (served_act served able)
  rw [halts]
  exact (halt_value _).1

/-- A socket that gets its connection had none before. A socket that has a connection is being read
or done with, and only one that was just accepted begins to be served. -/
theorem connectionOf_of_serves (unvisited : station.gateway.Unvisited)
    (serves : (station.replay history).gateway.serves? occurrence.action = some id) :
    station.connectionOf id (history ++ [occurrence]) =
      some (station.replay history).gateway.registry.nextConnection := by
  have gets : (station.replay history).gateway.gets? id occurrence.action =
      some (station.replay history).gateway.registry.nextConnection := if_pos serves
  rw [connectionOf_concat, gets]
  cases owns : station.connectionOf id history with
  | none => rfl
  | some earlier =>
    obtain ⟨-, -, socket, found, accepted, -⟩ := serve_of_gets gets
    obtain ⟨same, there, serving⟩ := (assigned_replay unvisited history).served owns
    obtain rfl := Option.some.inj (found.symm.trans there)
    rcases serving.reader with reads | finished
    · rw [accepted] at reads
      exact reads.elim
    · rw [accepted] at finished
      cases finished

/-- After the stop a connection is open only if its socket had been accepted before the stop and was
still to be served. -/
theorem Possible.opened_after_stop (possible : station.Possible (stopping past moment later))
    (unvisited : station.gateway.Unvisited)
    (running : (station.replay past).gateway.running?.isSome = true)
    (opened : (station.replay (stopping past moment later)).gateway.registry.pool.isOpen
      connection = true) :
    ∃ id ∈ (station.replay past).gateway.admissions,
      station.connectionOf id (stopping past moment later) = some connection := by
  induction later using List.reverseRecOn generalizing connection with
  | nil =>
    have served := possible.append.1.served unvisited.served
    obtain ⟨halts, -⟩ := possible.halts unvisited running
    rw [replay_stopping, replay_nil, halts, isOpen_halt served] at opened
    cases opened
  | append_singleton between occurrence inductionHypothesis =>
    rw [stopping_concat] at possible opened ⊢
    rw [replay_concat] at opened
    obtain ⟨front, able⟩ := possible_concat.mp possible
    have served := front.served unvisited.served
    rcases isOpen_act served able opened with before | ⟨serves, rfl⟩
    · obtain ⟨id, admitted, owns⟩ := inductionHypothesis front before
      exact ⟨id, admitted, by rw [connectionOf_concat, owns]; rfl⟩
    · -- Nothing was accepted since the stop, so what is served now was accepted before it.
      obtain ⟨id, serves⟩ := Option.isSome_iff_exists.mp serves
      obtain ⟨-, -, outlives⟩ := front.halts unvisited running
      have stops : (⟨moment, .event .stop⟩ : Occurrence).action ≠ .task .accept := by simp
      have admitted := outlives.admissions (served_notMem_admissions serves).1
      exact ⟨id, admissions_act stops admitted, connectionOf_of_serves unvisited serves⟩

/-- A connection that is there at the stop is closed from then on, and nothing is sent on it. The
induction is on what happens after the stop. No step opens a connection again, and nothing is queued
on a closed one. -/
theorem Possible.closed_after_stop (possible : station.Possible (stopping past moment later))
    (unvisited : station.gateway.Unvisited)
    (running : (station.replay past).gateway.running?.isSome = true) {holding : Connection}
    (held : (station.replay past).gateway.registry.pool.get? connection = some holding) :
    (station.replay (stopping past moment later)).gateway.registry.pool.IsClosed connection ∧
      postedOn connection (station.log (stopping past moment later)) =
        postedOn connection (station.log past) := by
  induction later using List.reverseRecOn with
  | nil =>
    have all : stopping past moment [] = past ++ [⟨moment, .event .stop⟩] := rfl
    rw [all] at possible ⊢
    obtain ⟨front, able⟩ := possible_concat.mp possible
    have served := front.served unvisited.served
    have servedLater := served_act served able
    obtain ⟨later, found⟩ := found_act able held
    have silent := posts_act_apart able (by simp) (by simp)
    rw [replay_concat, log_concat, postedOn_append, postedOn_of_silent silent, List.append_nil]
    refine ⟨?_, rfl⟩
    have closed : later.phase = .closed := by
      by_contra isOpen
      have opened := Pool.isOpen_iff.mpr ⟨later, found, isOpen⟩
      rw [(stop_of_running running).1, isOpen_halt served] at opened
      cases opened
    have consistent := servedLater.sound.consistent
    exact (consistent.hasEnded found closed).isClosed consistent
  | append_singleton between occurrence inductionHypothesis =>
    rw [stopping_concat] at possible ⊢
    obtain ⟨front, able⟩ := possible_concat.mp possible
    obtain ⟨closed, silent⟩ := inductionHypothesis front
    have member := mem_scenes_concat (stopping past moment between) occurrence station
    obtain ⟨still, nothing⟩ := (possible.queues unvisited member connection).closed closed
    rw [replay_concat, log_concat, postedOn_append, silent]
    exact ⟨still, (congrArg _ nothing).trans (List.append_nil _)⟩

/-- Whoever still writes at the stop writes what is queued, unless writing fails, before the stream
to the tester ends; and it ends. -/
theorem Possible.flushes_after_stop (possible : station.Possible (stopping past moment later))
    (unvisited : station.gateway.Unvisited)
    (running : (station.replay past).gateway.running?.isSome = true) {socket : Socket}
    (found : (station.replay past).gateway.sockets[id]? = some socket)
    (writing : socket.writer = .writing connection) :
    ∃ last, (station.replay (stopping past moment later)).gateway.sockets[id]? = some last ∧
      (last.writer = .finished →
        last.written = socket.written ++
            ((station.replay past).gateway.registry.pool.waiting connection).flatMap
              Wire.Message.encode ∨
          station.FailsWriting id (stopping past moment later)) ∧
      ∀ now, (station.replay (stopping past moment later)).gateway.enabled now = [] →
        last.writer = .finished := by
  have front := possible.append.1
  have assigned := assigned_replay unvisited past
  -- Only a socket with a connection is written to, and only from the queue of that connection.
  have owns : station.connectionOf id past = some connection := by
    cases owner : station.connectionOf id past with
    | none => exact absurd writing ((assigned.unserved owner found).writer connection)
    | some other =>
      obtain ⟨same, there, serves⟩ := assigned.served owner
      obtain rfl := Option.some.inj (found.symm.trans there)
      rw [serves.eq_of_writes writing]
  have ownsLater : station.connectionOf id (stopping past moment later) = some connection := by
    rw [connectionOf, stopping, scenes_append, List.findSome?_append]
    exact Option.or_eq_some_iff.mpr (Or.inl owns)
  obtain ⟨last, foundLast, serves⟩ :=
    (assigned_replay unvisited (stopping past moment later)).served ownsLater
  obtain ⟨holding, held⟩ := front.holds unvisited id connection owns
  obtain ⟨closed, silent⟩ := possible.closed_after_stop unvisited running held
  refine ⟨last, foundLast, fun finished => ?_, fun now quiescent => ?_⟩
  · have delivery := possible.delivery unvisited ownsLater foundLast
    refine (delivery.ended finished).2.imp_left fun all => ?_
    rw [all, silent]
    exact ((front.delivers unvisited id connection socket owns found).writing writing).symm
  · -- The connection has ended, so its writer could still take a step.
    refine serves.writer.resolve_left fun writes => ?_
    have consistent := (possible.served unvisited.served).sound.consistent
    obtain ⟨ended, there, sends⟩ := closed.hasEnded consistent
    have ready : (station.replay (stopping past moment later)).gateway.canWrite last = true := by
      simp [canWrite, writes, there, sends]
    exact not_able quiescent (.write id) ⟨last, foundLast, ready⟩

/-- What is left of a gateway that was stopped, whatever happens later. The exception among the
connections is the socket that had been accepted before: its task opens the connection without
looking whether the gateway still runs. -/
structure StaysStopped (past : History) (moment : Milliseconds) (later : History)
    (station : Station) : Prop where
  /-- The stop closes every connection. -/
  closed : ∀ connection, (station.replay (stopping past moment [])).gateway.registry.pool.isOpen
    connection = false
  /-- Later a connection is open or registered only if its socket had been accepted before the stop
  and was still to be served. -/
  opened : ∀ connection,
    (station.replay (stopping past moment later)).gateway.registry.pool.isOpen connection = true ∨
        (station.replay (stopping past moment later)).gateway.registry.pool.isRegistered
          connection = true →
      ∃ id ∈ (station.replay past).gateway.admissions,
        station.connectionOf id (stopping past moment later) = some connection
  /-- No ECU runs, unless somebody else starts it. -/
  resting : (∀ occurrence ∈ later, ∀ index, occurrence.action ≠ .event (.ecu index .start)) →
    ∀ ecu ∈ (station.replay (stopping past moment later)).gateway.ecus, ecu.running = false
  /-- No datagram is sent. -/
  silent : (station.replay (stopping past moment later)).network.sent =
    (station.replay past).network.sent
  /-- What is queued for a tester at the stop is written before the stream to the tester ends, if it
  can be written at all, and the stream has ended when no task can take a step. -/
  flushed : ∀ id socket connection, (station.replay past).gateway.sockets[id]? = some socket →
    socket.writer = .writing connection →
      ∃ last, (station.replay (stopping past moment later)).gateway.sockets[id]? = some last ∧
        (last.writer = .finished →
          last.written = socket.written ++
              ((station.replay past).gateway.registry.pool.waiting connection).flatMap
                Wire.Message.encode ∨
            station.FailsWriting id (stopping past moment later)) ∧
        ∀ now, (station.replay (stopping past moment later)).gateway.enabled now = [] →
          last.writer = .finished
  /-- The gateway has no sockets. -/
  unbound : (station.replay (stopping past moment later)).gateway.running? = none
  /-- It cannot be started any more. -/
  final : ∀ now, (station.replay (stopping past moment later)).start now =
    return (station.replay (stopping past moment later), .error .alreadyStarted)

end Station

namespace Gateway

open Station

/-- However a gateway has run, once it is stopped it stays stopped: its connections are closed, no
ECU runs, no datagram is sent, what was queued is still written, and it cannot be started again.
Only a socket that was accepted before the stop and was still to be served gets a connection
afterwards. -/
theorem staysStopped {library : Pattern.Library} {config : GatewayConfig} {ecus : List Ecu}
    {gateway : Gateway} (made : withEcus library config ecus = .ok gateway) {network : Net.Network}
    {past later : History} {moment : Milliseconds}
    (running : ((Station.mk gateway network).replay past).gateway.running?.isSome = true)
    (possible : (Station.mk gateway network).Possible (stopping past moment later)) :
    (Station.mk gateway network).StaysStopped past moment later := by
  have unvisited : (Station.mk gateway network).gateway.Unvisited := unvisited_withEcus made
  obtain ⟨front, able, -⟩ := possible.append
  have served := front.served unvisited.served
  obtain ⟨halts, goesOn, outlives⟩ := possible.halts unvisited running
  refine ⟨fun connection => ?_, fun connection opened => ?_, fun unstarted ecu member => ?_, ?_,
    fun id socket connection found writing => ?_, ?_, ?_⟩
  · rw [replay_stopping, replay_nil, halts]
    exact isOpen_halt served connection
  · refine possible.opened_after_stop unvisited running (opened.elim id fun registered => ?_)
    obtain ⟨holding, found, active⟩ := Pool.isRegistered_iff.mp registered
    exact Pool.isOpen_iff.mpr ⟨holding, found, by simp [active]⟩
  · obtain ⟨index, found⟩ := List.getElem?_of_mem member
    have rests := goesOn.rests (halts ▸ (halt_value _).1) (served_act served able) unstarted
      (halts ▸ rests_halt index _)
    rw [← replay_stopping] at rests
    exact rests ecu found
  · rw [outlives.network]
    exact (stop_of_running running).2
  · exact possible.flushes_after_stop unvisited running found writing
  · exact running?_of_stopped outlives.stopped
  · exact start_of_stopped outlives.stopped

/-- The beginning of the exchange: a tester is registered, and its answer is queued. -/
def greeting : History :=
  exchange.take 6

/-- After the stop the answer is written, the stream to the tester ends, and the reader leaves. -/
def lastWords : History :=
  [⟨0, .task (.write 0)⟩, ⟨0, .task (.write 0)⟩, ⟨0, .task (.leave 0)⟩]

/-- Then nothing is left to be done, no connection is open, and the gateway cannot be started.
The connection was there at the stop, and what had been queued on it is still written before
its writer ends. -/
theorem staysStopped_lastWords :
    let station := (Station.mk demonstration .new).replay (stopping greeting 0 lastWords)
    (∀ connection, station.gateway.registry.pool.isOpen connection = false) ∧
      (∀ ecu ∈ station.gateway.ecus, ecu.running = false) ∧
      (∃ last, station.gateway.sockets[0]? = some last ∧ last.writer = .finished) ∧
      station.start 5 = return (station, .error .alreadyStarted) := by
  intro station
  have running : ((Station.mk demonstration .new).replay greeting).gateway.running?.isSome = true := by
    decide +kernel
  have possible : (Station.mk demonstration .new).Possible (stopping greeting 0 lastWords) := by
    decide +kernel
  have stays := staysStopped demonstration_made running possible
  have admissions : ((Station.mk demonstration .new).replay greeting).gateway.admissions = [] := by
    decide +kernel
  have quiescent : station.gateway.enabled 0 = [] := by decide +kernel
  have writer : (((Station.mk demonstration .new).replay greeting).gateway.sockets[0]?).map
      Socket.writer = some (.writing 1) := by
    decide +kernel
  obtain ⟨socket, found, writing⟩ := Option.map_eq_some_iff.mp writer
  obtain ⟨last, foundLast, -, ends⟩ := stays.flushed 0 socket 1 found writing
  refine ⟨fun connection => ?_, stays.resting ?_, ⟨last, foundLast, ends 0 quiescent⟩,
    stays.final 5⟩
  · cases opened : station.gateway.registry.pool.isOpen connection with
    | false => rfl
    | true =>
      obtain ⟨id, admitted, -⟩ := stays.opened connection (Or.inl opened)
      rw [admissions] at admitted
      cases admitted
  · simp [lastWords]

/-- A tester is accepted and not served yet. -/
def knocking : History :=
  [⟨0, .event .start⟩,
    ⟨0, .event (.connect ⟨.v4 .loopback, 50001⟩ none)⟩,
    ⟨0, .task .accept⟩]

/-- After the stop the tester is served, and it asks to be registered. -/
def latecomer : History :=
  [⟨0, .task (.read 0)⟩,
    ⟨0, .event (.deliver 0
      (Wire.Message.routingActivationRequest ⟨0x0E00, .default, none⟩).encode)⟩,
    ⟨0, .task (.read 0)⟩]

/-- Its connection is open and registered although the gateway was stopped. -/
theorem registered_after_stop :
    withEcus Pattern.Plain.library demonstration.config [holdingEcu] = .ok demonstration ∧
      ((Station.mk demonstration .new).replay knocking).gateway.running?.isSome = true ∧
      (Station.mk demonstration .new).Possible (stopping knocking 0 latecomer) ∧
      ((Station.mk demonstration .new).replay
        (stopping knocking 0 latecomer)).gateway.registry.openConnections = [1] ∧
      ((Station.mk demonstration .new).replay
        (stopping knocking 0 latecomer)).gateway.registry.registered = [1] := by
  refine ⟨demonstration_made, ?_, ?_, ?_, ?_⟩ <;> decide +kernel

end Gateway

end DiagnosticGateway
