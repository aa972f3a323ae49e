import DiagnosticGateway.Proofs.Gateway.Assignment
import DiagnosticGateway.Proofs.Gateway.Conservation

/-!
# What testers get

Messages are queued on a connection by its reader, by alive checks and by the routing of responses,
and the connection may close at any moment. The writer of its socket takes them from the queue one
by one, in their order, and goes away only when the connection is closed and nothing is left, or
when writing fails. So what was written is always the beginning of what was queued, and all of it
once the writer has nothing left to do.
-/

namespace DiagnosticGateway

open Log

namespace Connection

variable {connection : Connection}

/-- Whoever is closed has ended the sending. -/
theorem sending_stop (silent : connection.phase = .closed → connection.sending = false) :
    connection.stop.value.sending = false := by
  by_cases closed : connection.phase = .closed
  · rw [stop_of_closed closed]
    exact silent closed
  · rw [stop_of_open closed]

end Connection

namespace Pool

/-- A connection is closed and not registered. -/
def IsClosed (id : ConnectionId) (pool : Pool) : Prop :=
  ∃ connection, pool.get? id = some connection ∧ connection.phase = .closed ∧
    connection.sourceAddress = none

variable {pool : Pool} {id : ConnectionId}

/-- Who is closed has ended the sending. -/
theorem IsClosed.hasEnded (closed : pool.IsClosed id) (consistent : pool.Consistent) :
    pool.HasEnded id := by
  obtain ⟨connection, found, closed, -⟩ := closed
  refine ⟨connection, found, ?_⟩
  cases sends : connection.sending with
  | false => rfl
  | true => exact absurd closed ((consistent id connection found).sending.mp sends)

/-- Who has ended the sending is closed. An open connection has its sending half, by the consistency
of its fields. -/
theorem HasEnded.isClosed (ended : pool.HasEnded id) (consistent : pool.Consistent) :
    pool.IsClosed id := by
  obtain ⟨connection, found, silent⟩ := ended
  have holds := consistent id connection found
  have closed : connection.phase = .closed := by
    by_contra opened
    rw [holds.sending.mpr opened] at silent
    cases silent
  refine ⟨connection, found, closed, ?_⟩
  cases registered : connection.sourceAddress with
  | none => rfl
  | some source =>
    have active := holds.address.mp (by simp [registered])
    rw [closed] at active
    cases active

end Pool

namespace Registry.Numbered

variable {registry : Registry} {id : ConnectionId}

/-- A number that was not given yet finds nothing. -/
theorem missing (numbered : registry.Numbered) (unused : registry.nextConnection ≤ id) :
    registry.pool.get? id = none := by
  cases found : registry.pool.get? id with
  | none => rfl
  | some connection =>
    have used : id ∈ registry.pool.numbers :=
      List.mem_map.mpr ⟨connection, List.mem_of_find?_eq_some found, Pool.id_of_get? found⟩
    exact absurd (numbered.below id used) (Nat.not_lt.mpr unused)

/-- Nothing waits under a number that was not given out yet. -/
theorem waiting (numbered : registry.Numbered) (unused : registry.nextConnection ≤ id) :
    registry.pool.waiting id = [] := by
  rw [Pool.waiting, numbered.missing unused]
  rfl

end Registry.Numbered

namespace Gateway

/-! ## The step of a writer -/

/-- What the step of a writer comes to: its connection and its socket before and after, and what it
logs. -/
inductive Writes (connection : ConnectionId) (holding : Connection) (socket : Socket) :
    Connection → Socket → List Log.Event → Prop
  /-- The connection is closed and nothing waits, so the writer goes away. -/
  | ends {events : List Log.Event} (queue : holding.outbound = [])
      (ended : holding.sending = false) :
      Writes connection holding socket holding.dropReceiver
        { socket with writer := .finished } events
  /-- The message that has waited longest is written. -/
  | writes {message : Wire.Message} {rest : List Wire.Message}
      (queue : holding.outbound = message :: rest) :
      Writes connection holding socket { holding with outbound := rest }
        { socket with written := socket.written ++ message.encode } []
  /-- It cannot be written. The connection is closed, and the writer goes away. -/
  | fails {message : Wire.Message} {rest : List Wire.Message} {fault : Net.SystemFault}
      {events : List Log.Event} (queue : holding.outbound = message :: rest)
      (logged : .sendFailed connection fault ∈ events) :
      Writes connection holding socket
        { holding with outbound := rest }.stop.value.dropReceiver
        { socket with writer := .finished } events

/-- A writer has gone from one gateway to another one and has touched nothing but its connection
and its socket. -/
structure WritesAt (id : SocketId) (connection : ConnectionId) (holding : Connection)
    (socket : Socket) (before : Gateway) (events : List Log.Event) (after : Gateway) : Prop where
  step : ∃ next later, Writes connection holding socket next later events ∧
    after.registry.pool.get? connection = some next ∧ after.sockets[id]? = some later
  connections : ∀ other, other ≠ connection →
    after.registry.pool.get? other = before.registry.pool.get? other
  sockets : ∀ other, other ≠ id → after.sockets[other]? = before.sockets[other]?
  silent : posts events = []

variable {gateway : Gateway} {id : SocketId} {socket : Socket} {connection : ConnectionId}
  {holding : Connection}

/-- The connection of a writer is changed, and its socket. Whatever a writer does comes down to one
update of each of the two, and it is described by what they do. -/
theorem writesAt_of_updates (change : Connection → Connection) {step : Socket → Socket}
    {events : List Log.Event} {after : Gateway} (found : gateway.sockets[id]? = some socket)
    (held : gateway.registry.pool.get? connection = some holding)
    (connections : ∀ other, after.registry.pool.get? other =
      (gateway.registry.pool.get? other).map fun holding =>
        if other = connection then change holding else holding)
    (sockets : after.sockets = gateway.sockets.modify id step) (silent : posts events = [])
    (writes : Writes connection holding socket (change holding) (step socket) events) :
    gateway.WritesAt id connection holding socket events after where
  step := by
    refine ⟨_, _, writes, ?_, ?_⟩
    · rw [connections, held, Option.map_some, if_pos rfl]
    · rw [sockets, List.getElem?_modify, found]
      simp
  connections other apart := by
    rw [connections]
    simp [apart]
  sockets other apart := by
    rw [sockets, List.getElem?_modify]
    simp [Ne.symm apart]
  silent := silent

/-- A writer that can go on takes a message from the queue of its connection, or goes away. The step
is read off the definition, once: an empty queue that is still open lets the writer wait, a message
is written or fails, and the end of the queue is the end of the writer. -/
theorem write_cases (found : gateway.sockets[id]? = some socket)
    (able : gateway.canWrite socket = true) :
    ∃ connection holding, socket.writer = .writing connection ∧
      gateway.registry.pool.get? connection = some holding ∧
      gateway.WritesAt id connection holding socket (gateway.write id).events
        (gateway.write id).value := by
  unfold canWrite at able
  cases writing : socket.writer with
  | writing connection =>
    rw [writing] at able
    obtain ⟨holding, held, ready⟩ := Option.any_eq_true _ _ |>.mp able
    refine ⟨connection, holding, rfl, held, ?_⟩
    have dropped := fun other pool => Pool.get?_update connection other Connection.dropReceiver
      (fun _ => rfl) pool
    simp only [write, found, writing, held, Option.map_some]
    cases queue : holding.outbound with
    | nil =>
      have ended : holding.sending = false := by simpa [queue] using ready
      exact writesAt_of_updates _ found held (fun other => dropped other gateway.registry.pool) rfl
        rfl (.ends queue ended)
    | cons message rest =>
      let take := fun holding : Connection => { holding with outbound := rest }
      have taken : ∀ other, (gateway.setOutbound connection rest).registry.pool.get? other =
          (gateway.registry.pool.get? other).map fun holding =>
            if other = connection then take holding else holding := fun other =>
        Pool.get?_update connection other take (fun _ => rfl) gateway.registry.pool
      cases faulty : socket.writeFault with
      | none =>
        simp only [writeMessage, faulty]
        exact writesAt_of_updates take found held taken rfl rfl (.writes queue)
      | some fault =>
        simp only [writeMessage, faulty]
        refine writesAt_of_updates (fun holding => (take holding).stop.value.dropReceiver)
          found held (fun other => ?_) rfl ?_ (.fails queue List.mem_cons_self)
        · refine (dropped other _).trans ?_
          show ((((gateway.setOutbound connection rest).registry.pool.stop connection).value.get?
            other).map _) = _
          rw [Pool.get?_stop, taken, Option.map_map, Option.map_map]
          congr 1
          funext holding
          by_cases here : other = connection <;> simp [here]
        · have stops : posts ((gateway.setOutbound connection rest).registry.stop
              connection).events = [] := by
            show posts (((gateway.setOutbound connection rest).registry.pool.stop
              connection).events ++ []) = []
            rw [List.append_nil]
            exact Pool.posts_stop
          simp [finishWriting, stops, Log.Event.post?]
  | _ =>
    rw [writing] at able
    cases able

/-- A writer opens no connection. It may drop the receiving half of its own connection; it never
brings a sending half back. -/
theorem WritesAt.ended {before after : Gateway} {events : List Log.Event} {other : ConnectionId}
    (writes : before.WritesAt id connection holding socket events after)
    (held : before.registry.pool.get? connection = some holding)
    (ended : before.registry.pool.HasEnded other) : after.registry.pool.HasEnded other := by
  by_cases here : other = connection
  · subst here
    obtain ⟨same, found, silent⟩ := ended
    obtain rfl := Option.some.inj (held.symm.trans found)
    obtain ⟨next, later, step, heldLater, -⟩ := writes.step
    refine ⟨next, heldLater, ?_⟩
    cases step with
    | ends => exact silent
    | writes => exact silent
    | fails => exact Connection.sending_stop fun _ => silent
  · rw [Pool.HasEnded, writes.connections other here]
    exact ended

/-! ## A socket and its connection -/

/-- An occurrence that is not the step of a writer leaves a socket that is served to its writer.
Such an occurrence may finish the reader, or abandon a socket nobody serves; the writer has a task
of its own. -/
theorem Becomes.untouched {before after : Gateway} {later : Socket} {action : Station.Action}
    (becomes : before.Becomes id after socket action later) (served : socket.ServedBy connection)
    (accepted : before.unaccepted = id :: after.unaccepted → socket.reader = .waiting)
    (rests : action.writes = false) :
    later.writer = socket.writer ∧ later.written = socket.written := by
  cases becomes with
  | rests _ writer written => exact ⟨writer, written⟩
  | admitted => exact ⟨rfl, rfl⟩
  | refused first => exact absurd (accepted first) served.not_waiting
  | abandoned waiting => exact absurd waiting served.not_waiting
  | served ready =>
    rcases served.reader with serves | finished
    · rw [ready] at serves
      exact serves.elim
    · rw [ready] at finished
      cases finished
  | read _ _ writer written => exact ⟨writer, written⟩
  | left => exact ⟨rfl, rfl⟩
  | wrote => cases rests
  | silenced => cases rests

/-- How much of what was sent on a connection has come to its socket. -/
structure Delivers (connection : ConnectionId) (sent : List Wire.Message) (failed : Prop)
    (socket : Socket) (pool : Pool) : Prop where
  writing : socket.writer = .writing connection →
    socket.written ++ (pool.waiting connection).flatMap Wire.Message.encode =
      sent.flatMap Wire.Message.encode
  finished : socket.writer = .finished → pool.HasEnded connection ∧
    (socket.written = sent.flatMap Wire.Message.encode ∨
      failed ∧ socket.written <+: sent.flatMap Wire.Message.encode)
  failed : failed → socket.writer = .finished

variable {sent : List Wire.Message} {failed : Prop} {pool later : Pool}

/-- What was written is always the beginning of what was sent. -/
theorem Delivers.ordered (delivers : Delivers connection sent failed socket pool)
    (served : socket.ServedBy connection) :
    socket.written <+: sent.flatMap Wire.Message.encode := by
  rcases served.writer with writing | finished
  · rw [← delivers.writing writing]
    exact List.prefix_append _ _
  · rcases (delivers.finished finished).2 with all | ⟨-, begins⟩
    · exact all ▸ List.prefix_refl _
    · exact begins

/-- What is sent meanwhile comes behind the rest. The writer and what was written are as before, so
the new messages are the end of the queue. -/
theorem Delivers.sends {next : Socket} {events : List Log.Event}
    (delivers : Delivers connection sent failed socket pool) (attended : pool.Attended)
    (accounts : pool.Accounts events later) (writer : next.writer = socket.writer)
    (written : next.written = socket.written) :
    Delivers connection (sent ++ postedOn connection events) failed next later where
  writing writes := by
    have before := delivers.writing (writer ▸ writes)
    rw [written, accounts.queued attended, List.flatMap_append, List.flatMap_append,
      ← List.append_assoc, before]
  finished ended := by
    obtain ⟨silent, got⟩ := delivers.finished (writer ▸ ended)
    obtain ⟨still, nothing⟩ := accounts.ended connection silent
    rw [nothing, List.append_nil, written]
    exact ⟨still, got⟩
  failed fails := writer.trans (delivers.failed fails)

/-- The writer moves one message from the queue to the socket, or goes away. A message that is
written has left the queue and stands at the end of what the socket has got, so their sum is the
same. A failure ends the writer and gives up the rest of the queue. -/
theorem Delivers.writes {before after : Gateway} {next : Socket} {events : List Log.Event}
    (delivers : Delivers connection sent failed socket before.registry.pool)
    (consistent : before.registry.pool.Consistent)
    (writing : socket.writer = .writing connection)
    (earlier : before.registry.pool.get? connection = some holding)
    (writes : before.WritesAt id connection holding socket events after)
    (found : after.sockets[id]? = some next) :
    Delivers connection sent (failed ∨ ∃ other fault, .sendFailed other fault ∈ events) next
      after.registry.pool := by
  have queued := delivers.writing writing
  have waits : before.registry.pool.waiting connection = holding.outbound := by
    rw [Pool.waiting, earlier]
    rfl
  have busy : ¬ failed := fun fails => by
    have finished := delivers.failed fails
    rw [writing] at finished
    cases finished
  obtain ⟨changed, later, step, held, there⟩ := writes.step
  obtain rfl := Option.some.inj (there.symm.trans found)
  cases step with
  | ends queue ended =>
    refine ⟨?_, fun _ => ⟨⟨_, held, ended⟩, Or.inl ?_⟩, fun _ => rfl⟩
    · intro writes
      cases writes
    · rw [← queued, waits, queue]
      exact (List.append_nil _).symm
  | @writes message rest queue =>
    have left : after.registry.pool.waiting connection = rest := by
      rw [Pool.waiting, held]
      rfl
    refine ⟨fun _ => ?_, fun ended => ?_, ?_⟩
    · rw [left, ← queued, waits, queue, List.flatMap_cons, List.append_assoc]
    · have finished : socket.writer = .finished := ended
      rw [writing] at finished
      cases finished
    · rintro (fails | ⟨_, _, none⟩)
      · exact absurd fails busy
      · cases none
  | @fails message rest fault events queue logged =>
    refine ⟨?_, fun _ => ⟨⟨_, held, ?_⟩, Or.inr ⟨?_, ?_⟩⟩, fun _ => rfl⟩
    · intro writes
      cases writes
    · refine Connection.sending_stop fun closed => ?_
      cases sends : holding.sending with
      | false => rfl
      | true => exact absurd closed ((consistent _ _ earlier).sending.mp sends)
    · exact Or.inr ⟨connection, fault, logged⟩
    · rw [← queued]
      exact List.prefix_append _ _

/-- What happens to other connections does not matter. -/
theorem Delivers.congr (delivers : Delivers connection sent failed socket pool)
    (same : later.get? connection = pool.get? connection) :
    Delivers connection sent failed socket later where
  writing writes := by
    rw [Pool.waiting, same]
    exact delivers.writing writes
  finished ended := by
    rw [Pool.HasEnded, same]
    exact delivers.finished ended
  failed := delivers.failed

/-- A socket that gets a connection has got nothing yet, and nothing was sent. -/
theorem delivers_serving (unserved : socket.Unserved) (empty : pool.waiting connection = [])
    (unfailed : ¬ failed) :
    Delivers connection [] failed (socket.serving connection) pool where
  writing _ := by
    rw [empty, List.flatMap_nil, List.append_nil]
    exact unserved.written
  finished ended := by cases ended
  failed fails := absurd fails unfailed

end Gateway

/-! ## Histories -/

namespace Station

open Gateway

/-- A message cannot be written to a socket. -/
def Scene.Fails (id : SocketId) (scene : Scene) : Prop :=
  scene.occurrence.action = .task (.write id) ∧
    ∃ connection fault, .sendFailed connection fault ∈ scene.log

/-- In some scene of a history a message cannot be written to a socket. -/
def FailsWriting (id : SocketId) (history : History) (station : Station) : Prop :=
  ∃ scene ∈ station.scenes history, scene.Fails id

variable {station : Station} {history : History} {occurrence : Occurrence} {id other : SocketId}
  {connection : ConnectionId} {socket : Socket}

/-- Writing has failed before, or fails by the last occurrence. -/
theorem failsWriting_concat :
    station.FailsWriting id (history ++ [occurrence]) ↔
      station.FailsWriting id history ∨ Scene.Fails id ⟨station.replay history, occurrence⟩ := by
  simp only [FailsWriting, scenes_concat, List.mem_append, List.mem_singleton, or_and_right,
    exists_or, exists_eq_left]

/-- The step of a writer concerns its own connection and its own socket. The state of the connection
is found by the task, which holds on to it also when it is in the table no more. -/
theorem write_of_writes (able : station.CanHappen occurrence)
    (writes : occurrence.action.writes = true) :
    ∃ id socket connection holding, occurrence.action = .task (.write id) ∧
      station.gateway.sockets[id]? = some socket ∧ socket.writer = .writing connection ∧
      station.gateway.registry.pool.get? connection = some holding ∧
      station.gateway.WritesAt id connection holding socket (station.logged occurrence).events
        (station.act occurrence).gateway := by
  obtain ⟨moment, action⟩ := occurrence
  cases action with
  | event event => cases writes
  | task task =>
    cases task with
    | write id =>
      obtain ⟨socket, found, ready⟩ := mem_enabled.mp able
      obtain ⟨connection, holding, writing, held, step⟩ := write_cases found ready
      refine ⟨id, socket, connection, holding, rfl, found, writing, held, ?_⟩
      have events : (station.logged ⟨moment, .task (.write id)⟩).events =
          (station.gateway.write id).events :=
        List.append_nil _
      rw [events]
      exact step
    | _ => cases writes

/-- A writer queues nothing. -/
theorem posts_of_writes (able : station.CanHappen occurrence)
    (writes : occurrence.action.writes = true) : posts (station.logged occurrence).events = [] := by
  obtain ⟨id, socket, connection, holding, -, -, -, -, step⟩ := write_of_writes able writes
  exact step.silent

/-- Nothing is queued under a number that was not given yet. The induction is on the history: the
numbers only grow, and each message is queued on a connection that is there. -/
theorem Possible.unposted (possible : station.Possible history)
    (unvisited : station.gateway.Unvisited) :
    ∀ connection, (station.replay history).gateway.registry.nextConnection ≤ connection →
      postedOn connection (station.log history) = [] := by
  refine possible.byOccurrence ?_ ?_
  · exact fun _ _ => rfl
  intro past occurrence possible able inductionHypothesis connection unused
  rw [replay_concat] at unused
  have next := (intake_act occurrence (station.replay past)).next_le
  have earlier := inductionHypothesis connection (next.trans unused)
  rw [log_concat, postedOn_append, earlier, List.nil_append]
  have servedPast := possible.served unvisited.served
  cases writes : occurrence.action.writes with
  | true => exact postedOn_of_silent (posts_of_writes able writes)
  | false =>
    have queued := (tells_act occurrence writes (station.replay past)).accounts.queued
      servedPast.attended_pool connection
    have empty := (served_act servedPast able).numbered.waiting unused
    rw [empty] at queued
    exact (List.append_eq_nil_iff.mp queued.symm).2

/-- A socket that gets a connection has been accepted before. It is served, and nothing is
queued. -/
theorem serve_of_gets (gets : station.gateway.gets? id occurrence.action = some connection) :
    connection = station.gateway.registry.nextConnection ∧
      occurrence.action = .task (.read id) ∧
      ∃ socket, station.gateway.sockets[id]? = some socket ∧ socket.reader = .accepted ∧
        (station.act occurrence).gateway =
          (station.gateway.serve occurrence.moment id socket).value ∧
        posts (station.logged occurrence).events = [] := by
  obtain ⟨rfl, action, socket, found, accepted⟩ := gets?_eq_some_iff.mp gets
  have step := read_of_accepted occurrence.moment found accepted
  refine ⟨rfl, action, socket, found, accepted, ?_, ?_⟩
  · rw [Station.act, action]
    exact congrArg Logged.value step
  · rw [logged, action]
    show posts ((station.gateway.read occurrence.moment id).events ++ []) = []
    rw [List.append_nil, step]
    exact posts_serve socket

/-- Nothing fails on a socket without a connection. A writer has begun with the connection, so there
was nobody who could have failed. -/
theorem Possible.unfailed (possible : station.Possible history)
    (unvisited : station.gateway.Unvisited) :
    station.connectionOf id history = none → ¬ station.FailsWriting id history := by
  refine possible.byOccurrence ?_ ?_
  · rintro - ⟨_, none, -⟩
    cases none
  intro past occurrence possible able inductionHypothesis unowned
  rw [connectionOf_concat] at unowned
  obtain ⟨before, -⟩ := Option.or_eq_none_iff.mp unowned
  rw [failsWriting_concat]
  rintro (earlier | ⟨action, -⟩)
  · exact inductionHypothesis before earlier
  · have writes : occurrence.action.writes = true := by
      rw [show occurrence.action = _ from action]
      rfl
    obtain ⟨writer, socket, connection, holding, same, found, writing, -⟩ :=
      write_of_writes able writes
    obtain rfl : writer = id := by simpa [same] using action
    exact ((assigned_replay unvisited past).unserved before found).writer _ writing

/-- A writer's step brings its own socket on, and leaves those of others as they are. Two writers of
one connection would take its messages from each other; each connection has one socket, and so there
is only one. -/
theorem delivers_write {owner : SocketId → Option ConnectionId} {later : Socket} {failed : Prop}
    {sent : List Wire.Message} (assigned : station.gateway.Assigned owner)
    (consistent : station.gateway.registry.pool.Consistent)
    (delivers : Delivers connection sent failed socket station.gateway.registry.pool)
    (owns : owner id = some connection) (there : station.gateway.sockets[id]? = some socket)
    (able : station.CanHappen occurrence) (writes : occurrence.action.writes = true)
    (found : (station.act occurrence).gateway.sockets[id]? = some later) :
    Delivers connection sent (failed ∨ Scene.Fails id ⟨station, occurrence⟩) later
      (station.act occurrence).gateway.registry.pool := by
  obtain ⟨writer, own, other, holding, action, foundOwn, writing, held, step⟩ :=
    write_of_writes able writes
  by_cases here : writer = id
  · subst here
    obtain rfl := Option.some.inj (there.symm.trans foundOwn)
    obtain rfl : other = connection := by
      obtain ⟨same, foundSame, serves⟩ := assigned.served owns
      obtain rfl := Option.some.inj (foundSame.symm.trans there)
      exact serves.eq_of_writes writing
    have fails : Scene.Fails writer ⟨station, occurrence⟩ ↔
        ∃ other fault, .sendFailed other fault ∈ (station.logged occurrence).events := by
      simp only [Scene.Fails, action, true_and]
      rfl
    rw [fails]
    exact delivers.writes consistent writing held step found
  · -- Another writer has another connection.
    have apart : connection ≠ other := by
      rintro rfl
      exact here (assigned.eq_of_writes owns foundOwn writing)
    have fails : ¬ Scene.Fails id ⟨station, occurrence⟩ := by
      rintro ⟨same, -⟩
      exact here (by simpa [action] using same)
    rw [or_iff_left fails]
    obtain rfl := Option.some.inj
      ((there.symm.trans (step.sockets id (Ne.symm here)).symm).trans found)
    exact delivers.congr (step.connections connection apart)

/-- What others do only adds to what is to be delivered. -/
theorem delivers_apart {owner : SocketId → Option ConnectionId} {later : Socket} {failed : Prop}
    {sent : List Wire.Message} (assigned : station.gateway.Assigned owner)
    (attended : station.gateway.registry.pool.Attended)
    (delivers : Delivers connection sent failed socket station.gateway.registry.pool)
    (owns : owner id = some connection) (there : station.gateway.sockets[id]? = some socket)
    (apart : occurrence.action.writes = false)
    (found : (station.act occurrence).gateway.sockets[id]? = some later) :
    Delivers connection (sent ++ postedOn connection (station.logged occurrence).events) failed
      later (station.act occurrence).gateway.registry.pool := by
  obtain ⟨same, foundSame, serves⟩ := assigned.served owns
  obtain rfl := Option.some.inj (foundSame.symm.trans there)
  obtain ⟨other, foundOther, becomes⟩ := becomes_act there occurrence
  obtain rfl := Option.some.inj (foundOther.symm.trans found)
  obtain ⟨writer, written⟩ := becomes.untouched serves (assigned.waits_first there) apart
  exact delivers.sends attended (tells_act occurrence apart station).accounts writer written

/-- The sockets that have connections get what is queued on them. The induction is on the history. A
step of a writer moves a message, any other occurrence may add some to the queue, and a socket that
gets its connection begins with an empty one. -/
theorem Possible.delivers (possible : station.Possible history)
    (unvisited : station.gateway.Unvisited) :
    ∀ id connection socket, station.connectionOf id history = some connection →
      (station.replay history).gateway.sockets[id]? = some socket →
        Delivers connection (postedOn connection (station.log history))
          (station.FailsWriting id history) socket
          (station.replay history).gateway.registry.pool := by
  refine possible.byOccurrence ?_ ?_
  · intro id connection socket owns
    cases owns
  intro past occurrence possible able inductionHypothesis id connection later owns found
  have assigned := assigned_replay unvisited past
  have servedPast := possible.served unvisited.served
  rw [connectionOf_concat] at owns
  rw [replay_concat] at found ⊢
  rw [log_concat, postedOn_append, failsWriting_concat]
  rcases Option.or_eq_some_iff.mp owns with old | ⟨unowned, gets⟩
  · obtain ⟨socket, there, serves⟩ := assigned.served old
    have delivers := inductionHypothesis id connection socket old there
    cases writes : occurrence.action.writes with
    | true =>
      rw [postedOn_of_silent (posts_of_writes able writes), List.append_nil]
      exact delivers_write assigned servedPast.sound.consistent delivers old there able writes found
    | false =>
      have fails : ¬ Scene.Fails id ⟨station.replay past, occurrence⟩ := by
        rintro ⟨same, -⟩
        rw [same] at writes
        cases writes
      rw [or_iff_left fails]
      exact delivers_apart assigned servedPast.attended_pool delivers old there writes found
  · obtain ⟨rfl, action, socket, there, -, serves, silent⟩ := serve_of_gets gets
    rw [serves, getElem?_serve there] at found
    obtain rfl := Option.some.inj found
    have writes : occurrence.action.writes = false := by
      rw [action]
      rfl
    have unposted := possible.unposted unvisited _ (Nat.le_refl _)
    have queued := (tells_act occurrence writes (station.replay past)).accounts.queued
      servedPast.attended_pool (station.replay past).gateway.registry.nextConnection
    rw [postedOn_of_silent silent, List.append_nil,
      servedPast.numbered.waiting (Nat.le_refl _)] at queued
    rw [unposted, postedOn_of_silent silent, List.nil_append]
    refine delivers_serving (assigned.unserved unowned there) queued ?_
    rintro (failed | ⟨same, -⟩)
    · exact possible.unfailed unvisited unowned failed
    · rw [action] at same
      cases same

/-- What has come of the messages that were sent on the connection of a socket. It speaks of the
whole stream of bytes, message after message, since this is what the tester reads. -/
structure Delivery (id : SocketId) (connection : ConnectionId) (socket : Socket)
    (history : History) (station : Station) : Prop where
  /-- What was written is the beginning of what was sent. -/
  ordered : socket.written <+:
    (postedOn connection (station.log history)).flatMap Wire.Message.encode
  /-- When no task can take a step it is the whole of it, unless writing has failed. -/
  complete : ∀ now, (station.replay history).gateway.enabled now = [] →
    ¬ station.FailsWriting id history →
      socket.written = (postedOn connection (station.log history)).flatMap Wire.Message.encode
  /-- The stream to the tester ends only after the connection is closed and everything is written,
  or after writing has failed. -/
  ended : socket.writer = .finished →
    (station.replay history).gateway.registry.pool.IsClosed connection ∧
      (socket.written = (postedOn connection (station.log history)).flatMap Wire.Message.encode ∨
        station.FailsWriting id history)
  /-- When writing has failed the connection is closed and not registered. -/
  failed : station.FailsWriting id history →
    (station.replay history).gateway.registry.pool.IsClosed connection

/-- What a scene does to the queue of a connection. The steps of the writer are told apart, as they
take from the queue what others put into it. -/
structure Scene.Queues (connection : ConnectionId) (scene : Scene) : Prop where
  /-- What was sent comes into the queue, and nothing else does. -/
  sent : scene.occurrence.action.writes = false →
    scene.after.gateway.registry.pool.waiting connection =
      scene.before.gateway.registry.pool.waiting connection ++ postedOn connection scene.log
  /-- A writer sends nothing. -/
  taken : scene.occurrence.action.writes = true → postedOn connection scene.log = []
  /-- A closed connection stays closed, and nothing is sent on it. -/
  closed : scene.before.gateway.registry.pool.IsClosed connection →
    scene.after.gateway.registry.pool.IsClosed connection ∧ postedOn connection scene.log = []

/-- Every scene of a possible history queues what it sends. A scene in which no writer takes a step
adds what its events tell; one of a writer adds nothing. -/
theorem Possible.queues (possible : station.Possible history)
    (unvisited : station.gateway.Unvisited) {scene : Scene}
    (member : scene ∈ station.scenes history) (connection : ConnectionId) :
    scene.Queues connection := by
  obtain ⟨past, front, before, able⟩ := possible.of_mem_scenes member
  have servedBefore : scene.before.gateway.registry.Served := before ▸ front.served unvisited.served
  have servedAfter := served_act servedBefore able
  have accounts := fun rests => (tells_act scene.occurrence rests scene.before).accounts
  refine ⟨fun rests => ?_, fun writes => ?_, fun closed => ?_⟩
  · exact (accounts rests).queued servedBefore.attended_pool connection
  · exact postedOn_of_silent (posts_of_writes able writes)
  · have ended := closed.hasEnded servedBefore.sound.consistent
    cases writes : scene.occurrence.action.writes with
    | false =>
      obtain ⟨still, silent⟩ := (accounts writes).ended connection ended
      exact ⟨still.isClosed servedAfter.sound.consistent, silent⟩
    | true =>
      obtain ⟨id, socket, own, holding, -, -, -, held, step⟩ := write_of_writes able writes
      have still := step.ended held ended
      exact ⟨still.isClosed servedAfter.sound.consistent, postedOn_of_silent step.silent⟩

/-- A socket that has a connection gets what is sent on it. At the end no writer can go on, so the
queue is empty or the writer has failed; for a connection that has been closed this is the end of
the stream as well. -/
theorem Possible.delivery (possible : station.Possible history)
    (unvisited : station.gateway.Unvisited)
    (owns : station.connectionOf id history = some connection)
    (found : (station.replay history).gateway.sockets[id]? = some socket) :
    Delivery id connection socket history station := by
  have delivers := possible.delivers unvisited id connection socket owns found
  obtain ⟨same, there, serves⟩ := (assigned_replay unvisited history).served owns
  obtain rfl := Option.some.inj (there.symm.trans found)
  have consistent := (possible.served unvisited.served).sound.consistent
  refine ⟨delivers.ordered serves, fun now still unfailed => ?_, fun ended => ?_, fun failed => ?_⟩
  · rcases serves.writer with writing | finished
    · have idle : ¬ (station.replay history).gateway.canWrite same = true :=
        fun ready => not_able still (.write id) ⟨same, there, ready⟩
      have empty : (station.replay history).gateway.registry.pool.waiting connection = [] := by
        unfold Pool.waiting
        cases held : (station.replay history).gateway.registry.pool.get? connection with
        | none => rfl
        | some holding =>
          by_contra waits
          exact idle (by simp_all [canWrite])
      have queued := delivers.writing writing
      rwa [empty, List.flatMap_nil, List.append_nil] at queued
    · rcases (delivers.finished finished).2 with all | ⟨failed, -⟩
      · exact all
      · exact absurd failed unfailed
  · obtain ⟨silent, got⟩ := delivers.finished ended
    exact ⟨silent.isClosed consistent, got.imp_right And.left⟩
  · exact (delivers.finished (delivers.failed failed)).1.isClosed consistent

end Station

namespace Gateway

end Gateway

end DiagnosticGateway
