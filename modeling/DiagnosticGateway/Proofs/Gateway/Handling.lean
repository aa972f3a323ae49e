import DiagnosticGateway.Proofs.Gateway.Delivery
import DiagnosticGateway.Proofs.Gateway.Requests

/-!
# The steps of a reader

A reader that serves a connection takes a frame, moves on the decision for which it waits, or finds
that its stream has ended, and then goes on as that demands. Going on queues nothing. It gives the
connection up or leaves all connections as they are.
-/

namespace DiagnosticGateway

open Log

/-- The reader that a flow leaves behind. -/
def Flow.reader (connection : ConnectionId) : Flow → Reader
  | proceed => .reading connection
  | close => .finished
  | wait request source => .deciding connection request source

namespace Gateway

/-- A frame is taken from the stream of a socket. -/
def taking (id : SocketId) (frame : Wire.Frame) : Gateway → Gateway :=
  updateSocket id fun socket => { socket with incoming := frame.rest }

/-- What the reader of a socket does for its connection before it goes on: the gateway that it
leaves, the flow after which it goes on, and what it logs. -/
inductive Handles (now : Milliseconds) (id : SocketId) (connection : ConnectionId)
    (gateway : Gateway) (socket : Socket) : Gateway → Flow → List Log.Event → Prop
  /-- The next frame is there. -/
  | frame {frame : Wire.Frame} {outcome : Logged (Gateway × Flow)}
      (reads : socket.reader = .reading connection)
      (inbound : socket.inbound? gateway.config.maxDataSize = some (.frame frame))
      (handled : (gateway.taking id frame).onFrame now connection frame.content = outcome) :
      Handles now id connection gateway socket outcome.value.1 outcome.value.2 outcome.events
  /-- A request is moved on, for the decision of which the reader waits. -/
  | decision {number : RequestId} {source : UInt16} {outcome : Logged (Gateway × Flow)}
      (waits : socket.reader = .deciding connection number source)
      (handled : gateway.pursueActivation now connection number source = outcome) :
      Handles now id connection gateway socket outcome.value.1 outcome.value.2 outcome.events
  /-- The stream has ended. -/
  | ended {ending : StreamEnd} (reads : socket.reader = .reading connection)
      (inbound : socket.inbound? gateway.config.maxDataSize = some (.ended ending)) :
      Handles now id connection gateway socket gateway .close (logEnd connection ending).events

variable {gateway middle : Gateway} {id other : SocketId} {connection : ConnectionId}
  {now : Milliseconds} {socket : Socket} {flow : Flow} {events : List Log.Event}

/-- A reader goes on after what it does for its connection. What is logged is first what is done for
the connection, and then what comes of going on. -/
theorem Handles.read (handles : Handles now id connection gateway socket middle flow events)
    (found : gateway.sockets[id]? = some socket) :
    gateway.read now id =
      ⟨(middle.continueReading id socket.peer connection flow).value,
        events ++ (middle.continueReading id socket.peer connection flow).events⟩ := by
  cases handles with
  | frame reads inbound handled =>
    subst handled
    simp only [Gateway.read, found, reads, readNext, inbound]
    rfl
  | decision waits handled =>
    subst handled
    simp only [Gateway.read, found, waits, resumeDecision]
    rfl
  | ended reads inbound =>
    simp only [Gateway.read, found, reads, readNext, inbound]
    rfl

/-- A reader that can go on starts to serve its socket, or does something for its connection. The
cases are the phases in which a reader is enabled. -/
theorem handles_of_canRead (able : gateway.canRead now socket = true) :
    socket.reader = .accepted ∨
      ∃ connection middle flow events,
        Handles now id connection gateway socket middle flow events := by
  unfold canRead at able
  split at able
  · exact Or.inl ‹_›
  · rename_i connection reads
    obtain ⟨next, inbound⟩ := Option.isSome_iff_exists.mp able
    cases next with
    | frame frame => exact Or.inr ⟨connection, _, _, _, .frame reads inbound rfl⟩
    | ended ending => exact Or.inr ⟨connection, _, _, _, .ended reads inbound⟩
  · rename_i connection request source waits
    exact Or.inr ⟨connection, _, _, _, .decision waits rfl⟩
  · cases able

/-- The reader does all that for the connection that it serves. -/
theorem Handles.serves (handles : Handles now id connection gateway socket middle flow events) :
    socket.reader.Serves connection := by
  cases handles with
  | frame reads => exact reads ▸ rfl
  | decision waits => exact waits ▸ rfl
  | ended reads => exact reads ▸ rfl

/-! ## Going on -/

/-- Going on sets the reader of the socket, and nothing else in any socket. -/
theorem getElem?_continueReading (peer : Net.Endpoint) (flow : Flow) :
    (gateway.continueReading id peer connection flow).value.sockets[other]? =
      (gateway.sockets[other]?).map fun socket =>
        if id = other then { socket with reader := flow.reader connection } else socket := by
  cases flow <;> exact getElem?_updateSocket _ _

/-- The reader of the socket is the one that the flow leaves behind. -/
theorem Handles.reader {later : Socket}
    (handles : Handles now id connection gateway socket middle flow events)
    (found : gateway.sockets[id]? = some socket)
    (foundLater : (gateway.read now id).value.sockets[id]? = some later) :
    later.reader = flow.reader connection := by
  rw [handles.read found, getElem?_continueReading] at foundLater
  obtain ⟨socket, -, rfl⟩ := Option.map_eq_some_iff.mp foundLater
  rw [if_pos rfl]

/-- The end of a reader queues nothing. -/
theorem posts_finishReading (peer : Net.Endpoint) :
    posts (gateway.finishReading id peer connection).events = [] := by
  have stops : posts (gateway.registry.stop connection).events = [] := by
    simp [Registry.stop, Registry.changeConnection, Pool.posts_change]
  have removes := (remove_silent connection (gateway.registry.stop connection).value).1
  simp [finishReading, stops, removes, Log.Event.post?]

/-- How a reader goes on queues nothing; its answer has been queued by then. -/
theorem posts_continueReading (peer : Net.Endpoint) (flow : Flow) :
    posts (gateway.continueReading id peer connection flow).events = [] := by
  cases flow with
  | close => exact posts_finishReading peer
  | _ => rfl

/-- What was queued before the reader goes on is all that it queues. -/
theorem Handles.posts (handles : Handles now id connection gateway socket middle flow events)
    (found : gateway.sockets[id]? = some socket) :
    Log.posts (gateway.read now id).events = Log.posts events := by
  rw [handles.read found, posts_append, posts_continueReading, List.append_nil]

/-- A connection that is given up is closed. It is stopped first and removed then, and the removal
finds it closed. -/
theorem isClosed_finishReading (peer : Net.Endpoint)
    (opened : gateway.registry.pool.isOpen connection = true) :
    (gateway.finishReading id peer connection).value.registry.pool.IsClosed connection := by
  obtain ⟨holding, held, unclosed⟩ := Pool.isOpen_iff.mp opened
  have removes := (remove_silent connection (gateway.registry.stop connection).value).2
  have stopped : (gateway.finishReading id peer connection).value.registry.pool.get? connection =
      some holding.stop.value := by
    show ((gateway.registry.stop connection).value.remove connection).value.pool.get? connection = _
    rw [removes]
    show (gateway.registry.pool.stop connection).value.get? connection = _
    rw [Pool.get?_stop, held]
    simp
  refine ⟨_, stopped, ?_⟩
  rw [Connection.stop_of_open unclosed]
  exact ⟨rfl, rfl⟩

/-! ## Beginning to serve -/

/-- A socket that is served has an open connection. The connection is the one with the next number,
which no other has. -/
theorem isOpen_serve (numbered : gateway.registry.Numbered) (socket : Socket) :
    (gateway.serve now id socket).value.registry.pool.isOpen gateway.registry.nextConnection =
      true := by
  let number := gateway.registry.nextConnection
  have unused : gateway.registry.pool.get? number = none := numbered.missing (Nat.le_refl _)
  let opened := gateway.registry.pool.insert (.new number gateway.config.timings)
  have found : (opened.change number (Connection.start now)).value.get? number =
      some ((Connection.new number gateway.config.timings).start now).value := by
    rw [Pool.get?_change _ _ _ fun connection => connection.id_next now .start, Pool.get?_insert,
      unused]
    simp [Connection.new]
  rw [serve_value]
  exact Pool.isOpen_iff.mpr
    ⟨_, found, by simp [Connection.start, Connection.new, Connection.restartTimer]⟩

end Gateway

namespace Station

/-- What a reader's step queues can be read off the log. -/
theorem posts_logged_read (moment : Milliseconds) (id : SocketId) (station : Station) :
    posts (station.logged ⟨moment, .task (.read id)⟩).events =
      posts (station.gateway.read moment id).events := by
  show posts ((station.gateway.read moment id).events ++ []) = _
  rw [List.append_nil]

end Station

end DiagnosticGateway
