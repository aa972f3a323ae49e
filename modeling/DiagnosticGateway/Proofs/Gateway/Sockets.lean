import DiagnosticGateway.Proofs.Gateway.Intake
import DiagnosticGateway.Proofs.Gateway.Posting

/-!
# What becomes of a socket

A socket is accepted or refused, served, read and written to, and each of these is the business of
one task. Every occurrence is listed here with what it can do to a socket: who reads it, who writes
to it and what was written. Anything else that happens leaves these as they are.
-/

namespace DiagnosticGateway

/-- The reader reads for a connection, or waits for a decision about it. -/
def Reader.Serves (connection : ConnectionId) : Reader → Prop
  | reading other => other = connection
  | deciding other _ _ => other = connection
  | _ => False

/-- A reader serves one connection. -/
theorem Reader.Serves.eq {reader : Reader} {connection other : ConnectionId}
    (serves : reader.Serves connection) (also : reader.Serves other) : connection = other := by
  cases reader with
  | reading own => exact serves.symm.trans also
  | deciding own => exact serves.symm.trans also
  | _ => exact serves.elim

namespace Gateway

/-- The queue of a connection, if the connection exists. -/
def queue? (connection : ConnectionId) (gateway : Gateway) : Option (List Wire.Message) :=
  (gateway.registry.pool.get? connection).map Connection.outbound

/-- The sockets that wait to be accepted, oldest first. -/
def unaccepted (gateway : Gateway) : List SocketId :=
  gateway.arrivals.filterMap fun arrival =>
    match arrival with
    | .socket id => some id
    | .fault _ => none

/-- What an action that leads from one gateway to another can make of a socket. Each constructor is
one of the things that a task or an event may do to it. -/
inductive Becomes (id : SocketId) (gateway after : Gateway) (socket : Socket) :
    Station.Action → Socket → Prop
  /-- Nobody comes or goes, and nothing is written. -/
  | rests {action : Station.Action} {later : Socket} (reader : later.reader = socket.reader)
      (writer : later.writer = socket.writer) (written : later.written = socket.written) :
      Becomes id gateway after socket action later
  /-- The socket has waited longest and is accepted. -/
  | admitted (first : gateway.unaccepted = id :: after.unaccepted) :
      Becomes id gateway after socket (.task .accept) socket.admitted
  /-- The socket has waited longest, and there is no room for it. -/
  | refused (first : gateway.unaccepted = id :: after.unaccepted) :
      Becomes id gateway after socket (.task .accept) socket.abandon
  /-- Nobody has accepted the socket before the stop, and nobody will. -/
  | abandoned (waiting : socket.reader = .waiting) (none : after.unaccepted = []) :
      Becomes id gateway after socket (.event .stop) socket.abandon
  /-- The socket gets a connection. -/
  | served (accepted : socket.reader = .accepted) :
      Becomes id gateway after socket (.task (.read id))
        (socket.serving gateway.registry.nextConnection)
  /-- The reader goes on, or ends. -/
  | read {connection : ConnectionId} {later : Socket} (serves : socket.reader.Serves connection)
      (reader : later.reader.Serves connection ∨ later.reader = .finished)
      (writer : later.writer = socket.writer) (written : later.written = socket.written) :
      Becomes id gateway after socket (.task (.read id)) later
  /-- The reader leaves. -/
  | left {connection : ConnectionId} (reads : socket.reader = .reading connection) :
      Becomes id gateway after socket (.task (.leave id)) { socket with reader := .finished }
  /-- The message that has waited longest is written. -/
  | wrote {connection : ConnectionId} {message : Wire.Message} {rest : List Wire.Message}
      (writes : socket.writer = .writing connection)
      (queue : gateway.queue? connection = some (message :: rest))
      (sound : socket.writeFault = none) :
      Becomes id gateway after socket (.task (.write id))
        { socket with written := socket.written ++ message.encode }
  /-- The writer ends. -/
  | silenced {connection : ConnectionId} (writes : socket.writer = .writing connection) :
      Becomes id gateway after socket (.task (.write id)) { socket with writer := .finished }

variable {gateway middle after : Gateway} {id other : SocketId} {connection : ConnectionId}
  {now : Milliseconds} {socket : Socket}

/-- Changing one socket leaves the others as they are. -/
theorem getElem?_updateSocket (step : Socket → Socket) (gateway : Gateway) :
    (gateway.updateSocket id step).sockets[other]? =
      (gateway.sockets[other]?).map fun socket => if id = other then step socket else socket := by
  unfold updateSocket
  rw [List.getElem?_modify]
  rfl

/-- A socket that is not changed rests. -/
theorem becomes_self {action : Station.Action} : gateway.Becomes id after socket action socket :=
  .rests rfl rfl rfl

/-- Every socket passes through what the action can make of it, and none waits to be accepted that
did not wait before. -/
structure Passes (action : Station.Action) (before after : Gateway) : Prop where
  becomes : ∀ {id socket}, before.sockets[id]? = some socket →
    ∃ later, after.sockets[id]? = some later ∧ before.Becomes id after socket action later
  missing : ∀ {id : SocketId}, before.sockets[id]? = none → after.sockets[id]? = none
  unaccepted : List.Sublist after.unaccepted before.unaccepted

/-- An action without sockets. -/
theorem passes_of_same {action : Station.Action} (sockets : after.sockets = gateway.sockets)
    (arrivals : after.arrivals = gateway.arrivals) : gateway.Passes action after where
  becomes found := ⟨_, sockets ▸ found, becomes_self⟩
  missing missing := sockets ▸ missing
  unaccepted := by
    rw [Gateway.unaccepted, arrivals]
    exact List.Sublist.refl _

/-- What is only said leaves every socket where it was, with the tasks it had. -/
theorem Speaks.passes {action : Station.Action} {events : List Log.Event}
    (speaks : gateway.Speaks events after) : gateway.Passes action after :=
  passes_of_same speaks.sockets speaks.arrivals

/-- An action changes one socket. All others rest, and what waits to be accepted can only
become less. -/
theorem passes_updateSocket {action : Station.Action} {step : Socket → Socket}
    (sockets : middle.sockets = gateway.sockets)
    (unaccepted : List.Sublist middle.unaccepted gateway.unaccepted)
    (becomes : ∀ socket, gateway.sockets[id]? = some socket →
      gateway.Becomes id (middle.updateSocket id step) socket action (step socket)) :
    gateway.Passes action (middle.updateSocket id step) := by
  refine ⟨?_, ?_, unaccepted⟩
  · intro other socket found
    rw [getElem?_updateSocket, sockets, found]
    by_cases here : id = other
    · subst here
      exact ⟨step socket, by simp, becomes socket found⟩
    · exact ⟨socket, by simp [here], becomes_self⟩
  · intro other missing
    rw [getElem?_updateSocket, sockets, missing]
    rfl

/-! ## Readers -/

/-- A reader that goes on serves the same connection, and otherwise it ends. -/
theorem continueReading_value (id : SocketId) (peer : Net.Endpoint) (flow : Flow)
    (gateway : Gateway) :
    ∃ registry reader, (gateway.continueReading id peer connection flow).value =
        { gateway with registry := registry }.updateSocket id
          (fun socket => { socket with reader := reader }) ∧
      (reader.Serves connection ∨ reader = .finished) := by
  cases flow with
  | proceed => exact ⟨gateway.registry, .reading connection, rfl, Or.inl rfl⟩
  | wait request source =>
    exact ⟨gateway.registry, .deciding connection request source, rfl, Or.inl rfl⟩
  | close => exact ⟨_, .finished, rfl, Or.inr rfl⟩

/-- A reader takes its frame from its own socket and goes on, waits for a decision or is done with
it; no other socket is touched. -/
theorem passes_readNext (found : gateway.sockets[id]? = some socket)
    (serves : socket.reader.Serves connection) :
    gateway.Passes (.task (.read id)) (gateway.readNext now id socket connection).value := by
  have alone : ∀ other, gateway.sockets[id]? = some other → other = socket := fun other same =>
    Option.some.inj (same.symm.trans found)
  unfold readNext
  cases socket.inbound? gateway.config.maxDataSize with
  | none => exact passes_of_same rfl rfl
  | some next =>
    cases next with
    | ended ending =>
      refine passes_updateSocket rfl (List.Sublist.refl _) fun other same => ?_
      obtain rfl := alone other same
      exact .read serves (Or.inr rfl) rfl rfl
    | frame frame =>
      let take := fun socket : Socket => { socket with incoming := frame.rest }
      let taken := gateway.updateSocket id take
      let answered := (taken.onFrame now connection frame.content).value
      have speaks : taken.Speaks _ answered.1 := speaks_onFrame frame.content
      obtain ⟨registry, reader, value, goesOn⟩ :=
        continueReading_value id socket.peer answered.2 answered.1
      show gateway.Passes _
        (answered.1.continueReading id socket.peer connection answered.2).value
      rw [value]
      refine ⟨?_, ?_, ?_⟩
      · intro number socket there
        rw [getElem?_updateSocket]
        show ∃ later, ((answered.1.sockets[number]?).map _) = some later ∧ _
        rw [speaks.sockets, getElem?_updateSocket, there]
        by_cases here : id = number
        · subst here
          obtain rfl := alone socket there
          exact ⟨{ take socket with reader := reader }, by simp, .read serves goesOn rfl rfl⟩
        · exact ⟨socket, by simp [here], becomes_self⟩
      · intro number missing
        rw [getElem?_updateSocket]
        show (answered.1.sockets[number]?).map _ = none
        rw [speaks.sockets, getElem?_updateSocket, missing]
        rfl
      · show List.Sublist (answered.1.arrivals.filterMap _) gateway.unaccepted
        rw [speaks.arrivals]
        exact List.Sublist.refl _

/-- The first step at a socket that was accepted is to serve it. -/
theorem read_of_accepted (now : Milliseconds) (found : gateway.sockets[id]? = some socket)
    (accepted : socket.reader = .accepted) :
    gateway.read now id = gateway.serve now id socket := by
  simp only [read, found, accepted]

/-- The socket that is served is read and written to for the next connection. -/
theorem getElem?_serve (found : gateway.sockets[id]? = some socket) :
    (gateway.serve now id socket).value.sockets[id]? =
      some (socket.serving gateway.registry.nextConnection) := by
  rw [serve_value, getElem?_updateSocket]
  show (gateway.sockets[id]?).map _ = _
  rw [found, Option.map_some, if_pos rfl]

/-- A reader's step takes one socket further, and accepts none. There are four cases: it begins to
serve, takes a frame, gets its decision or comes to the end of the stream. -/
theorem passes_read (id : SocketId) :
    gateway.Passes (.task (.read id)) (gateway.read now id).value := by
  unfold read
  cases found : gateway.sockets[id]? with
  | none => exact passes_of_same rfl rfl
  | some socket =>
    cases reads : socket.reader with
    | accepted =>
      simp only [reads]
      rw [serve_value]
      refine passes_updateSocket rfl (List.Sublist.refl _) fun other same => ?_
      obtain rfl := Option.some.inj (same.symm.trans found)
      exact .served reads
    | reading connection =>
      simp only [reads]
      exact passes_readNext found (reads ▸ rfl)
    | deciding connection request source =>
      simp only [reads, resumeDecision]
      let answered := (gateway.pursueActivation now connection request source).value
      have speaks : gateway.Speaks _ answered.1 := speaks_pursueActivation request source
      obtain ⟨registry, reader, value, goesOn⟩ :=
        continueReading_value id socket.peer answered.2 answered.1
      show gateway.Passes _
        (answered.1.continueReading id socket.peer connection answered.2).value
      rw [value]
      refine passes_updateSocket speaks.sockets ?_ fun other same => ?_
      · show List.Sublist (answered.1.arrivals.filterMap _) gateway.unaccepted
        rw [speaks.arrivals]
        exact List.Sublist.refl _
      · obtain rfl := Option.some.inj (same.symm.trans found)
        exact .read (reads ▸ rfl) goesOn rfl rfl
    | _ =>
      simp only [reads]
      exact passes_of_same rfl rfl

/-- A reader that leaves since its connection was closed is done with its own socket, and with no
other. -/
theorem passes_leave (id : SocketId) :
    gateway.Passes (.task (.leave id)) (gateway.leave id).value := by
  unfold leave
  cases found : gateway.sockets[id]? with
  | none => exact passes_of_same rfl rfl
  | some socket =>
    cases reads : socket.reader with
    | reading connection =>
      simp only [reads]
      refine passes_updateSocket rfl (List.Sublist.refl _) fun other same => ?_
      obtain rfl := Option.some.inj (same.symm.trans found)
      exact .left reads
    | _ =>
      simp only [reads]
      exact passes_of_same rfl rfl

/-- Accepting takes the first socket of the backlog and none besides it. It is admitted if there is
room, and refused if not; a fault in the backlog is taken without a socket. -/
theorem passes_accept : gateway.Passes (.task .accept) gateway.accept.value := by
  cases waits : gateway.arrivals with
  | nil =>
    simp only [accept, waits]
    exact passes_of_same rfl rfl
  | cons first rest =>
    let taken := { gateway with arrivals := rest }
    cases first with
    | fault reason =>
      have same : gateway.unaccepted = taken.unaccepted := by rw [unaccepted, waits]; rfl
      simp only [accept, waits]
      exact ⟨fun found => ⟨_, found, becomes_self⟩, fun missing => missing,
        same ▸ List.Sublist.refl _⟩
    | socket id =>
      have first : gateway.unaccepted = id :: taken.unaccepted := by rw [unaccepted, waits]; rfl
      rw [accept_value waits]
      refine passes_updateSocket rfl (first ▸ List.sublist_cons_self _ _) fun socket _ => ?_
      split
      · exact .refused first
      · exact .admitted first

/-! ## Writers -/

/-- A writer's step is one of its own socket: the bytes it sends and, at the end, the end of the
stream. -/
theorem passes_write (id : SocketId) :
    gateway.Passes (.task (.write id)) (gateway.write id).value := by
  unfold write
  cases found : gateway.sockets[id]? with
  | none => exact passes_of_same rfl rfl
  | some socket =>
    have alone : ∀ other, gateway.sockets[id]? = some other → other = socket := fun other same =>
      Option.some.inj (same.symm.trans found)
    cases writes : socket.writer with
    | writing connection =>
      simp only [writes]
      cases queue : (gateway.registry.pool.get? connection).map Connection.outbound with
      | none => exact passes_of_same rfl rfl
      | some messages =>
        cases messages with
        | nil =>
          refine passes_updateSocket rfl (List.Sublist.refl _) fun other same => ?_
          obtain rfl := alone other same
          exact .silenced writes
        | cons message rest =>
          simp only [writeMessage]
          cases faulty : socket.writeFault with
          | some fault =>
            refine passes_updateSocket rfl (List.Sublist.refl _) fun other same => ?_
            obtain rfl := alone other same
            exact .silenced writes
          | none =>
            refine passes_updateSocket rfl (List.Sublist.refl _) fun other same => ?_
            obtain rfl := alone other same
            exact .wrote writes queue faulty
    | _ =>
      simp only [writes]
      exact passes_of_same rfl rfl

/-! ## Start and stop -/

/-- Responses are routed to connections, which have queues; the sockets are touched by the
writers. -/
theorem passes_route : gateway.Passes (.task .route) gateway.route.value := by
  unfold route
  split
  · rename_i response rest _
    have speaks : Speaks { gateway with responses := rest } _ _ := speaks_onResponse response
    exact passes_of_same speaks.sockets speaks.arrivals
  · exact passes_of_same rfl rfl

/-- A gateway that begins to run has accepted nobody yet. -/
theorem passes_run (sockets : Sockets) :
    gateway.Passes (.event .start) (gateway.run now sockets).value := by
  let begun := { gateway with phase := .running sockets, routing := true }
  have starts := speaks_startEcus begun.ecuNumbers begun
  exact passes_of_same starts.sockets starts.arrivals

/-- Stopping abandons the sockets that wait to be accepted. Those that are served come to their ends
by their own tasks. -/
theorem passes_halt : gateway.Passes (.event .stop) gateway.halt.value := by
  let stopped := { gateway with phase := .stopped, registry := gateway.registry.stopAll.value }
  let ecus := (stopped.changeEcus .stop gateway.ecuNumbers).value
  have stops : stopped.Speaks _ ecus := speaks_changeEcus .stop gateway.ecuNumbers stopped
  have turns := speaks_changeEcus (.dropListener listener) ecus.ecuNumbers ecus.endTasks
  have value : gateway.halt.value =
      (ecus.endTasks.changeEcus (.dropListener listener) ecus.ecuNumbers).value := rfl
  have sockets : gateway.halt.value.sockets = gateway.sockets.map abandonWaiting := by
    rw [value, turns.sockets]
    show ecus.sockets.map abandonWaiting = _
    rw [stops.sockets]
  have none : gateway.halt.value.unaccepted = [] := by
    rw [value, unaccepted, turns.arrivals]
    rfl
  refine ⟨?_, ?_, ?_⟩
  · intro id socket found
    refine ⟨abandonWaiting socket, by rw [sockets, List.getElem?_map, found]; rfl, ?_⟩
    cases waits : socket.reader with
    | waiting =>
      have value : abandonWaiting socket = socket.abandon := by rw [abandonWaiting, waits]
      rw [value]
      exact .abandoned waits none
    | _ =>
      have value : abandonWaiting socket = socket := by rw [abandonWaiting, waits]
      rw [value]
      exact becomes_self
  · intro id missing
    rw [sockets, List.getElem?_map, missing]
    rfl
  · rw [none]
    exact List.nil_sublist _

end Gateway

namespace Station

open Gateway

variable {station : Station} {occurrence : Occurrence} {id : SocketId}

/-- A datagram does not come in on a socket of a tester. It changes the receipts and the pause, and
perhaps the network. -/
theorem passes_receive (now : Milliseconds) (station : Station) :
    station.gateway.Passes (.task .receive) (station.receive now).value.gateway := by
  unfold receive
  split
  · exact passes_of_same rfl rfl
  · exact passes_of_same rfl rfl
  · simp only [Logged.value_bind]
    split
    · rw [gateway_transmit]
      exact passes_of_same rfl rfl
    · exact passes_of_same rfl rfl

/-- Nor does an announcement go out on one. -/
theorem passes_announce (now : Milliseconds) (station : Station) :
    station.gateway.Passes (.task .announce) (station.announce now).value.gateway := by
  unfold announce
  split
  · exact passes_of_same rfl rfl
  · simp only [Logged.value_bind, Logged.value_pure, gateway_transmit]
    exact passes_of_same rfl rfl

/-- Sockets come when testers connect, and otherwise they pass through what an occurrence can make
of them. -/
theorem passes_act (occurrence : Occurrence) (station : Station) :
    station.gateway.Passes occurrence.action (station.act occurrence).gateway ∨
      ∃ peer fault, occurrence.action = .event (.connect peer fault) ∧
        (station.act occurrence).gateway.sockets = station.gateway.sockets ++ [.new peer fault] ∧
        (station.act occurrence).gateway.unaccepted =
          station.gateway.unaccepted ++ [station.gateway.sockets.length] := by
  obtain ⟨moment, action⟩ := occurrence
  cases action with
  | event event =>
    cases event with
    | start =>
      refine Or.inl ?_
      show station.gateway.Passes _ (station.start moment).value.1.gateway
      rcases start_cases moment station with same | ⟨-, sockets, starts⟩
      · rw [same]
        exact passes_of_same rfl rfl
      · rw [starts]
        exact passes_run sockets
    | stop =>
      refine Or.inl ?_
      show station.gateway.Passes _ station.stop.value.gateway
      rcases stop_cases station with same | halts
      · rw [same]
        exact passes_of_same rfl rfl
      · rw [halts]
        exact passes_halt
    | connect peer fault =>
      show station.gateway.Passes _ (station.gateway.connect peer fault) ∨ _
      by_cases running : station.gateway.running?.isSome = true
      · refine Or.inr ⟨peer, fault, rfl, ?_, ?_⟩
        · show (station.gateway.connect peer fault).sockets = _
          rw [Gateway.connect, if_pos running]
        · show (station.gateway.connect peer fault).unaccepted = _
          rw [Gateway.connect, if_pos running]
          simp [unaccepted]
      · refine Or.inl ?_
        rw [Gateway.connect, if_neg running]
        exact passes_of_same rfl rfl
    | acceptFault fault =>
      refine Or.inl ?_
      show station.gateway.Passes _ (station.gateway.failAccepting fault)
      unfold Gateway.failAccepting
      split
      · refine ⟨fun found => ⟨_, found, becomes_self⟩, fun missing => missing, ?_⟩
        simp [unaccepted]
      · exact passes_of_same rfl rfl
    | deliver socket bytes =>
      exact Or.inl (passes_updateSocket rfl (List.Sublist.refl _) fun _ _ => .rests rfl rfl rfl)
    | finish socket ending =>
      refine Or.inl (passes_updateSocket rfl (List.Sublist.refl _) fun _ _ => ?_)
      unfold Socket.finish
      split <;> exact .rests rfl rfl rfl
    | failWriting socket fault =>
      exact Or.inl (passes_updateSocket rfl (List.Sublist.refl _) fun _ _ => .rests rfl rfl rfl)
    | receipt receipt =>
      refine Or.inl ?_
      show station.gateway.Passes _ (station.gateway.takeReceipt receipt)
      unfold Gateway.takeReceipt
      split <;> exact passes_of_same rfl rfl
    | ecu index event => exact Or.inl (speaks_changeEcu index event).passes
  | task task =>
    refine Or.inl ?_
    cases task with
    | timer connection => exact passes_of_same rfl rfl
    | accept => exact passes_accept
    | read id => exact passes_read id
    | leave id => exact passes_leave id
    | write id => exact passes_write id
    | receive => exact passes_receive moment station
    | announce => exact passes_announce moment station
    | route => exact passes_route
    | work index => exact (speaks_changeEcu index .work).passes

/-- A socket that is there stays, and an occurrence makes of it what it can. -/
theorem becomes_act {station : Station} {id : SocketId} {socket : Socket}
    (found : station.gateway.sockets[id]? = some socket) (occurrence : Occurrence) :
    ∃ later, (station.act occurrence).gateway.sockets[id]? = some later ∧
      station.gateway.Becomes id (station.act occurrence).gateway socket occurrence.action
        later := by
  rcases passes_act occurrence station with passes | ⟨peer, fault, -, grown, -⟩
  · exact passes.becomes found
  · obtain ⟨within, -⟩ := List.getElem?_eq_some_iff.mp found
    exact ⟨socket, by rw [grown, List.getElem?_append_left within, found], becomes_self⟩

end Station

end DiagnosticGateway
