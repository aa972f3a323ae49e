import DiagnosticGateway.Proofs.Gateway.Life
import DiagnosticGateway.Proofs.Registry.Upkeep
import DiagnosticGateway.Proofs.Wire.Stream

/-!
# What comes in from testers

The bytes that a tester sends wait at its socket, and its reader takes them frame by frame. A socket
that is served gets the next number for its connection. Nothing else that happens to a gateway takes
bytes or gives numbers.
-/

namespace DiagnosticGateway

namespace Gateway

/-- The bytes of a tester that wait to be read. -/
def unread (id : SocketId) (gateway : Gateway) : Bytes :=
  (gateway.sockets[id]?).elim [] Socket.incoming

/-- The bytes that an action adds to those of a tester. Nothing arrives on a socket that does not
exist. -/
def arriving (id : SocketId) (action : Station.Action) (gateway : Gateway) : Bytes :=
  match action with
  | .event (.deliver other bytes) =>
    if other = id ∧ (gateway.sockets[id]?).isSome = true then bytes else []
  | _ => []

/-- The socket that an action starts to serve. -/
def serves? (action : Station.Action) (gateway : Gateway) : Option SocketId :=
  match action with
  | .task (.read id) =>
    if (gateway.sockets[id]?).map Socket.reader = some .accepted then some id else none
  | _ => none

/-- A gateway has come from another one while nothing was read or served. -/
structure Still (before after : Gateway) : Prop where
  config : after.config = before.config
  next : after.registry.nextConnection = before.registry.nextConnection
  unread : ∀ id, after.unread id = before.unread id

/-- A gateway has come from another one by an action: streams have flowed on, and a connection has
got a number if a socket is served. -/
structure Intake (action : Station.Action) (before after : Gateway) : Prop where
  config : after.config = before.config
  next : after.registry.nextConnection =
    before.registry.nextConnection + if (before.serves? action).isSome then 1 else 0
  flows : ∀ id, Wire.Flows before.config.maxDataSize (before.unread id)
    (before.arriving id action) (after.unread id)

variable {gateway middle after : Gateway} {id : SocketId} {connection : ConnectionId}
  {now : Milliseconds} {action : Station.Action}

/-- Numbers are never taken back. -/
theorem Intake.next_le (intake : gateway.Intake action after) :
    gateway.registry.nextConnection ≤ after.registry.nextConnection := by
  rw [intake.next]
  exact Nat.le_add_right _ _

/-! ## Nothing is read or served -/

/-- A gateway with the same registry and the same sockets has read and served nothing. -/
theorem still_of_same (config : after.config = gateway.config)
    (registry : after.registry = gateway.registry) (sockets : after.sockets = gateway.sockets) :
    gateway.Still after :=
  ⟨config, by rw [registry], fun id => by rw [Gateway.unread, Gateway.unread, sockets]⟩

/-- Nothing is read or served when nothing happens. -/
theorem still_self : gateway.Still gateway :=
  still_of_same rfl rfl rfl

/-- If nothing is read or served in either of two stretches, nothing is in both. -/
theorem Still.trans (earlier : gateway.Still middle) (later : middle.Still after) :
    gateway.Still after :=
  ⟨later.config.trans earlier.config, later.next.trans earlier.next,
    fun id => (later.unread id).trans (earlier.unread id)⟩

/-- Whatever is neither a delivery nor the start of a service leaves the streams where they are. -/
theorem Still.intake (still : gateway.Still after) (unserved : gateway.serves? action = none)
    (silent : ∀ id, gateway.arriving id action = []) : gateway.Intake action after where
  config := still.config
  next := by simp [still.next, unserved]
  flows id := Or.inl (by rw [still.unread, silent, List.append_nil])

/-- A change of a socket reaches what waits to be read there, and nothing elsewhere. A socket that
does not exist has nothing that waits. -/
theorem unread_updateSocket (step : Socket → Socket) (other : SocketId) :
    (gateway.updateSocket id step).unread other =
      (gateway.sockets[other]?).elim [] fun socket =>
        if id = other then (step socket).incoming else socket.incoming := by
  unfold unread updateSocket
  rw [List.getElem?_modify]
  cases gateway.sockets[other]? with
  | none => rfl
  | some socket =>
    by_cases here : id = other
    · simp [here]
    · simp [here]

/-- A socket may change in everything but its bytes. -/
theorem still_updateSocket {step : Socket → Socket}
    (keeps : ∀ socket, (step socket).incoming = socket.incoming) :
    gateway.Still (gateway.updateSocket id step) := by
  refine ⟨rfl, rfl, fun other => ?_⟩
  rw [unread_updateSocket]
  simp only [keeps, ite_self]
  rfl

/-- The registry may change as long as no connection is opened. -/
theorem still_act (occurrence : Registry.Occurrence)
    (kept : ∀ timings, occurrence.action ≠ .event (.openConnection timings)) :
    gateway.Still { gateway with registry := gateway.registry.act occurrence } :=
  ⟨rfl, (Registry.numbers_act kept).2, fun _ => rfl⟩

/-- What happens to the ECUs reads and serves nothing. -/
theorem still_undergo (events : List (Nat × Ecu.Event)) :
    gateway.Still (gateway.undergo events) := by
  rw [undergo_value]
  exact still_of_same rfl rfl rfl

/-- A message that is queued is read by nobody here. -/
theorem still_send (message : Wire.Message) :
    gateway.Still (gateway.send connection message).value :=
  still_act ⟨0, .event (.send connection message)⟩ (by simp)

/-- A reader that ends leaves the bytes that it has not taken. -/
theorem still_finishReading (peer : Net.Endpoint) :
    gateway.Still (gateway.finishReading id peer connection).value := by
  have stopped : gateway.Still _ := still_act ⟨0, .event (.stop connection)⟩ (by simp)
  have removed := stopped.trans (still_act ⟨0, .event (.remove connection)⟩ (by simp))
  exact removed.trans (still_updateSocket fun _ => rfl)

/-- To go on as a message demands takes no further bytes, whether the reader proceeds, waits or
ends. -/
theorem still_continueReading (peer : Net.Endpoint) (flow : Flow) :
    gateway.Still (gateway.continueReading id peer connection flow).value := by
  cases flow with
  | proceed => exact still_updateSocket fun _ => rfl
  | wait request source => exact still_updateSocket fun _ => rfl
  | close => exact still_finishReading peer

/-- The answer to a routing activation request takes no bytes. -/
theorem still_answerActivation (source : UInt16) (code : Wire.ActivationCode) :
    gateway.Still (gateway.answerActivation connection source code).value.1 := by
  unfold answerActivation
  simp only [Logged.value_bind]
  split <;> exact still_send _

/-- A routing activation request moves on in the registry without bytes and without a new
connection. -/
theorem still_pursueActivation (request : RequestId) (source : UInt16) :
    gateway.Still (gateway.pursueActivation now connection request source).value.1 := by
  have advances : gateway.Still _ := still_act ⟨now, .task (.request request)⟩ (by simp)
  rw [pursueActivation_value]
  split
  · exact advances.trans (still_answerActivation source _)
  · exact advances

/-- What is done about a message takes no further bytes: its frame has been taken before. Requests,
acknowledges and answers to activations go to the registry and to the ECUs. -/
theorem still_onMessage (message : Wire.Message) :
    gateway.Still (gateway.onMessage now connection message).value.1 := by
  cases message with
  | routingActivationRequest body =>
    simp only [onMessage, onActivation]
    split
    · have asks : gateway.Still _ :=
        still_act ⟨now, .event (.request connection body.sourceAddress)⟩ (by simp)
      exact asks.trans (still_pursueActivation _ _)
    · exact still_answerActivation _ _
  | aliveCheckResponse source =>
    exact still_act ⟨now, .event (.aliveResponse connection source)⟩ (by simp)
  | diagnosticMessage body =>
    simp only [onMessage, onDiagnostic, Logged.value_bind]
    split
    · split
      · exact still_send _
      · simp only [Logged.value_bind, forward_value]
        exact (still_send _).trans (still_undergo _)
    · exact still_send _
  | _ => exact still_self

/-- What is done about a frame takes no further bytes, and gives no number to a connection. -/
theorem still_onFrame (content : Except Wire.Fault Wire.Message) :
    gateway.Still (gateway.onFrame now connection content).value.1 := by
  have received : gateway.Still _ := still_act ⟨now, .event (.dataReceived connection)⟩ (by simp)
  cases content with
  | ok message => exact received.trans (still_onMessage message)
  | error fault => exact received.trans (still_send _)

/-- A response of an ECU is queued, and nothing is read for it. -/
theorem still_onResponse (response : Ecu.Message) :
    gateway.Still (gateway.onResponse response).value := by
  unfold onResponse
  split
  · exact still_self
  · exact still_send _

/-- Routing reads from the ECUs and not from the streams. -/
theorem still_route : gateway.Still gateway.route.value := by
  unfold route
  cases gateway.responses with
  | nil => exact still_of_same rfl rfl rfl
  | cons response rest =>
    have taken : gateway.Still { gateway with responses := rest } := still_of_same rfl rfl rfl
    exact taken.trans (still_onResponse response)

/-- A socket that is accepted has no connection yet, and its bytes wait until it is served. If the
limit has been reached it is refused, and then nobody will read them. -/
theorem still_accept : gateway.Still gateway.accept.value := by
  cases waits : gateway.arrivals with
  | nil =>
    simp only [accept, waits]
    exact still_self
  | cons first rest =>
    have taken : gateway.Still { gateway with arrivals := rest } := still_of_same rfl rfl rfl
    cases first with
    | fault reason =>
      simp only [accept, waits]
      exact taken
    | socket id =>
      rw [accept_value waits]
      refine taken.trans (still_updateSocket fun socket => ?_)
      split <;> rfl

/-- A reader that leaves takes nothing with it. -/
theorem still_leave : gateway.Still (gateway.leave id).value := by
  unfold leave
  split
  · exact still_self
  · split
    · exact still_finishReading _
    · exact still_self

/-- A writer that ends reads nothing. -/
theorem still_finishWriting : gateway.Still (gateway.finishWriting id connection).value := by
  have dropped : gateway.Still { gateway with registry := { gateway.registry with
      pool := gateway.registry.pool.update connection Connection.dropReceiver } } :=
    ⟨rfl, rfl, fun _ => rfl⟩
  exact dropped.trans (still_updateSocket fun _ => rfl)

/-- A message that is written adds to what was written and takes nothing from what waits to be
read. -/
theorem still_writeMessage (socket : Socket) (message : Wire.Message) :
    gateway.Still (gateway.writeMessage id socket connection message).value := by
  unfold writeMessage
  cases socket.writeFault with
  | none => exact still_updateSocket fun _ => rfl
  | some fault =>
    have stopped : gateway.Still _ := still_act ⟨0, .event (.stop connection)⟩ (by simp)
    exact stopped.trans still_finishWriting

/-- No step of a writer reads anything. It writes to the other stream of the socket, the one from
the gateway to the tester. -/
theorem still_write : gateway.Still (gateway.write id).value := by
  unfold write
  cases gateway.sockets[id]? with
  | none => exact still_self
  | some socket =>
    cases writes : socket.writer with
    | writing connection =>
      simp only [writes]
      cases (gateway.registry.pool.get? connection).map Connection.outbound with
      | none => exact still_self
      | some queue =>
        cases queue with
        | nil => exact still_finishWriting
        | cons message rest =>
          have taken : gateway.Still (gateway.setOutbound connection rest) :=
            ⟨rfl, rfl, fun _ => rfl⟩
          exact taken.trans (still_writeMessage socket message)
    | _ =>
      simp only [writes]
      exact still_self

/-! ## Start and stop -/

/-- A gateway that begins to run has not read or served anything yet. -/
theorem still_run (sockets : Sockets) : gateway.Still (gateway.run now sockets).value := by
  have begun : gateway.Still { gateway with phase := .running sockets, routing := true } :=
    still_of_same rfl rfl rfl
  rw [run_value]
  exact (begun.trans (still_undergo _)).trans (still_of_same rfl rfl rfl)

/-- The tasks that a stop ends have read what they have read. A socket that is let go of keeps the
bytes that have arrived. -/
theorem still_endTasks : gateway.Still gateway.endTasks := by
  refine ⟨rfl, rfl, fun id => ?_⟩
  have keeps : ∀ socket : Socket, (abandonWaiting socket).incoming = socket.incoming := by
    intro socket
    unfold abandonWaiting
    split <;> rfl
  simp only [unread, endTasks, List.getElem?_map]
  cases gateway.sockets[id]? with
  | none => rfl
  | some socket => exact keeps socket

/-- A stop lets sockets go with the bytes that wait there. -/
theorem still_halt : gateway.Still gateway.halt.value := by
  have stopped : gateway.Still { gateway with registry := gateway.registry.stopAll.value } :=
    still_act ⟨0, .event .stopAll⟩ (by simp)
  have ended : gateway.Still
      { gateway with phase := .stopped, registry := gateway.registry.stopAll.value } :=
    stopped.trans (still_of_same rfl rfl rfl)
  simp only [halt, Logged.value_bind, changeEcus_value]
  exact ((ended.trans (still_undergo _)).trans still_endTasks).trans (still_undergo _)

/-- A start reads and serves nothing, whether it succeeds or fails. -/
theorem still_start (now : Milliseconds) (station : Station) :
    station.gateway.Still (station.start now).value.1.gateway := by
  rcases start_cases now station with same | ⟨-, sockets, starts⟩
  · rw [same]
    exact still_self
  · rw [starts]
    exact still_run sockets

/-- A stop reads and serves nothing. -/
theorem still_stop (station : Station) : station.gateway.Still station.stop.value.gateway := by
  rcases stop_cases station with same | halts
  · rw [same]
    exact still_self
  · rw [halts]
    exact still_halt

/-! ## Datagrams -/

/-- A datagram is received apart from the streams. The pause and the answers change other fields. -/
theorem still_receive (now : Milliseconds) (station : Station) :
    station.gateway.Still (station.receive now).value.gateway := by
  unfold Station.receive
  split
  · exact still_self
  · exact still_of_same rfl rfl rfl
  · simp only [Logged.value_bind]
    split
    · rw [gateway_transmit]
      exact still_of_same rfl rfl rfl
    · exact still_of_same rfl rfl rfl

/-- An announcement is sent apart from the streams. -/
theorem still_announce (now : Milliseconds) (station : Station) :
    station.gateway.Still (station.announce now).value.gateway := by
  unfold Station.announce
  split
  · exact still_self
  · simp only [Logged.value_bind, Logged.value_pure, gateway_transmit]
    exact still_of_same rfl rfl rfl

/-- A socket that has just arrived has no bytes, and waits without a connection. Whoever connects
may begin to send at once; these bytes arrive by deliveries of their own. -/
theorem still_connect (peer : Net.Endpoint) (fault : Option Net.SystemFault) :
    gateway.Still (gateway.connect peer fault) := by
  unfold connect
  split
  · refine ⟨rfl, rfl, fun id => ?_⟩
    simp only [unread, List.getElem?_append]
    split
    · rfl
    · rename_i beyond
      rw [List.getElem?_eq_none (Nat.le_of_not_lt beyond)]
      cases id - gateway.sockets.length with
      | zero => rfl
      | succ _ => rfl
  · exact still_self

/-! ## Whatever happens -/

/-- A socket that is served gets the next number, and its bytes are left alone. -/
theorem still_serve (socket : Socket) :
    Still
      { gateway with
        registry := gateway.registry.act ⟨now, .event (.openConnection gateway.config.timings)⟩ }
      (gateway.serve now id socket).value := by
  rw [serve_value]
  refine ((still_act ⟨now, .event (.add gateway.registry.nextConnection)⟩ ?_).trans
    (still_act ⟨now, .event (.start gateway.registry.nextConnection)⟩ ?_)).trans
      (still_updateSocket fun _ => rfl)
  · simp
  · simp

/-- A frame that a reader finds is at the front of the bytes that wait. -/
theorem front_of_inbound? {limit : UInt32} {socket : Socket} {frame : Wire.Frame}
    (inbound : socket.inbound? limit = some (.frame frame)) :
    Wire.Frame.read? limit socket.incoming = some frame := by
  unfold Socket.inbound? at inbound
  split at inbound
  · rename_i front
    obtain rfl := Inbound.frame.inj (Option.some.inj inbound)
    exact front
  · cases ending : socket.ending <;> simp [ending] at inbound

/-- A reader that goes on takes the first frame from its stream if there is one, and the answer to
it leaves what is left alone. -/
theorem still_readNext (now : Milliseconds) (id : SocketId) (connection : ConnectionId)
    (socket : Socket) (gateway : Gateway) :
    Still
      (match socket.inbound? gateway.config.maxDataSize with
      | some (.frame frame) =>
        gateway.updateSocket id fun socket => { socket with incoming := frame.rest }
      | _ => gateway)
      (gateway.readNext now id socket connection).value := by
  unfold readNext
  cases socket.inbound? gateway.config.maxDataSize with
  | none => exact still_self
  | some next =>
    cases next with
    | ended ending => exact still_finishReading socket.peer
    | frame frame =>
      exact (still_onFrame frame.content).trans (still_continueReading socket.peer _)

/-- A step of a reader lets the stream flow on by one frame if there is one, and otherwise leaves
it. The other streams stay as they are. -/
theorem flows_readNext (now : Milliseconds) (connection : ConnectionId) {socket : Socket}
    (found : gateway.sockets[id]? = some socket) :
    let read := (gateway.readNext now id socket connection).value
    read.config = gateway.config ∧
      read.registry.nextConnection = gateway.registry.nextConnection ∧
      ∀ other, Wire.Flows gateway.config.maxDataSize (gateway.unread other) []
        (read.unread other) := by
  have rests : ∀ {later : Gateway}, gateway.Still later → ∀ other,
      Wire.Flows gateway.config.maxDataSize (gateway.unread other) [] (later.unread other) :=
    fun still other => Or.inl (by rw [still.unread, List.append_nil])
  have still := still_readNext now id connection socket gateway
  cases inbound : socket.inbound? gateway.config.maxDataSize with
  | none =>
    rw [inbound] at still
    exact ⟨still.config, still.next, rests still⟩
  | some next =>
    cases next with
    | ended ending =>
      rw [inbound] at still
      exact ⟨still.config, still.next, rests still⟩
    | frame frame =>
      rw [inbound] at still
      refine ⟨still.config, still.next, fun other => ?_⟩
      rw [still.unread, unread_updateSocket]
      by_cases here : id = other
      · subst here
        refine Or.inr ⟨frame, ?_, ?_⟩
        · rw [unread, found]
          exact front_of_inbound? inbound
        · simp [found]
      · refine Or.inl ?_
        simp [here, unread]

/-- The reader of a socket starts to serve it, takes a frame from its stream, or does neither. In
the first case it has found no connection at its socket; in the second what it takes is the front of
what has arrived. -/
theorem intake_read (now : Milliseconds) (id : SocketId) :
    gateway.Intake (.task (.read id)) (gateway.read now id).value := by
  have silent : ∀ other, gateway.arriving other (.task (.read id)) = [] := fun _ => rfl
  cases found : gateway.sockets[id]? with
  | none =>
    have same : (gateway.read now id).value = gateway := by simp [read, found]
    rw [same]
    exact still_self.intake (by simp [serves?, found]) silent
  | some socket =>
    have serves : gateway.serves? (.task (.read id)) =
        if socket.reader = .accepted then some id else none := by
      simp [serves?, found]
    simp only [read, found]
    cases reads : socket.reader with
    | accepted =>
      have serving : Still _ (gateway.serve now id socket).value := still_serve socket
      refine ⟨serving.config, ?_, fun other => Or.inl ?_⟩
      · rw [serves, if_pos reads]
        exact serving.next
      · rw [silent, List.append_nil]
        exact serving.unread other
    | reading connection =>
      obtain ⟨config, next, flows⟩ := flows_readNext now connection found
      refine ⟨config, ?_, flows⟩
      rw [serves, if_neg (by simp [reads])]
      exact next
    | deciding connection request source =>
      let answered := (gateway.pursueActivation now connection request source).value
      have pursued : gateway.Still
          (answered.1.continueReading id socket.peer connection answered.2).value :=
        (still_pursueActivation request source).trans
          (still_continueReading socket.peer answered.2)
      exact pursued.intake (by simp [serves, reads]) silent
    | waiting => exact still_self.intake (by simp [serves, reads]) silent
    | finished => exact still_self.intake (by simp [serves, reads]) silent

/-- Bytes that arrive are added to what waits at their socket, if that exists. Nothing is taken from
them in the same occurrence. -/
theorem intake_deliver (id : SocketId) (bytes : Bytes) :
    gateway.Intake (.event (.deliver id bytes))
      (gateway.updateSocket id (Socket.deliver bytes)) := by
  refine ⟨rfl, rfl, fun other => Or.inl ?_⟩
  rw [unread_updateSocket, unread, arriving]
  cases gateway.sockets[other]? with
  | none => simp
  | some socket =>
    by_cases here : id = other
    · simp [here, Socket.deliver]
    · simp [here]

/-- Only readers and deliveries touch the streams. The cases are the events from outside and the
tasks, and each is one of the lemmas above. -/
theorem still_act_apart (occurrence : Station.Occurrence) (station : Station)
    (unread : ∀ id, occurrence.action ≠ .task (.read id))
    (undelivered : ∀ id bytes, occurrence.action ≠ .event (.deliver id bytes)) :
    station.gateway.Still (station.act occurrence).gateway := by
  obtain ⟨moment, action⟩ := occurrence
  cases action with
  | event event =>
    cases event with
    | start => exact still_start moment station
    | stop => exact still_stop station
    | connect peer fault => exact still_connect peer fault
    | acceptFault fault =>
      show station.gateway.Still (station.gateway.failAccepting fault)
      unfold failAccepting
      split <;> exact still_of_same rfl rfl rfl
    | deliver id bytes => exact absurd rfl (undelivered id bytes)
    | finish id ending =>
      refine still_updateSocket fun socket => ?_
      unfold Socket.finish
      split <;> rfl
    | failWriting id fault => exact still_updateSocket fun _ => rfl
    | receipt receipt =>
      show station.gateway.Still (station.gateway.takeReceipt receipt)
      unfold takeReceipt
      split <;> exact still_of_same rfl rfl rfl
    | ecu index event => exact still_undergo [(index, event)]
  | task task =>
    cases task with
    | timer connection => exact still_act ⟨moment, .task (.timer connection)⟩ (by simp)
    | accept => exact still_accept
    | read id => exact absurd rfl (unread id)
    | leave id => exact still_leave
    | write id => exact still_write
    | receive => exact still_receive moment station
    | announce => exact still_announce moment station
    | route => exact still_route
    | work index => exact still_undergo [(index, .work)]

/-- Nothing arrives unless something is delivered. -/
theorem arriving_of_undelivered (undelivered : ∀ id bytes, action ≠ .event (.deliver id bytes))
    (id : SocketId) : gateway.arriving id action = [] := by
  unfold arriving
  split
  · exact absurd rfl (undelivered _ _)
  · rfl

/-- Every occurrence lets the streams flow on. The reader takes from the front of a stream, a
delivery adds at its end, and everything else lets it be still. -/
theorem intake_act (occurrence : Station.Occurrence) (station : Station) :
    station.gateway.Intake occurrence.action (station.act occurrence).gateway := by
  by_cases reads : ∃ id, occurrence.action = .task (.read id)
  · obtain ⟨id, action⟩ := reads
    rw [Station.act, action]
    exact intake_read occurrence.moment id
  by_cases delivers : ∃ id bytes, occurrence.action = .event (.deliver id bytes)
  · obtain ⟨id, bytes, action⟩ := delivers
    rw [Station.act, action]
    exact intake_deliver id bytes
  have unread : ∀ id, occurrence.action ≠ .task (.read id) := fun id same => reads ⟨id, same⟩
  have undelivered : ∀ id bytes, occurrence.action ≠ .event (.deliver id bytes) :=
    fun id bytes same => delivers ⟨id, bytes, same⟩
  refine (still_act_apart occurrence station unread undelivered).intake ?_
    (arriving_of_undelivered undelivered)
  unfold serves?
  split
  · rename_i id _
    exact absurd ‹_› (unread id)
  · rfl

end Gateway

end DiagnosticGateway
