import DiagnosticGateway.Proofs.Gateway.Sockets

/-!
# A gateway without the bytes at a socket

The bytes that wait at a socket are read by the reader of that socket and by nobody else. So every
other step of a gateway does the same without them: it comes to the same gateway but for these
bytes, and logs the same. Each function of the gateway has one lemma here that says so, and a step
of the station is made of them.
-/

namespace DiagnosticGateway

/-- The socket without the bytes that wait to be read. -/
def Socket.hush (socket : Socket) : Socket :=
  { socket with incoming := [] }

/-- The end of a stream does not depend on the bytes that wait before it, and leaves them where they
are. -/
theorem Socket.finish_hush (ending : StreamEnd) (socket : Socket) :
    socket.hush.finish ending = (socket.finish ending).hush := by
  simp only [finish, hush]
  split <;> rfl

namespace Gateway

/-- The gateway without the bytes that wait at a socket. -/
def hush (id : SocketId) (gateway : Gateway) : Gateway :=
  gateway.updateSocket id Socket.hush

/-- What comes of a message, without the bytes that wait at a socket. -/
def hushed (id : SocketId) (answered : Gateway × Flow) : Gateway × Flow :=
  (answered.1.hush id, answered.2)

variable {gateway : Gateway} {id other : SocketId} {connection : ConnectionId} {now : Milliseconds}

/-- The bytes at a socket belong to no configuration. -/
@[simp] theorem config_hush : (gateway.hush id).config = gateway.config := rfl

/-- The registry knows connections and requests, but no bytes. -/
@[simp] theorem registry_hush : (gateway.hush id).registry = gateway.registry := rfl

/-- ECUs get whole requests, so none of the bytes is theirs. -/
@[simp] theorem ecus_hush : (gateway.hush id).ecus = gateway.ecus := rfl

/-- What waits to be routed was said by ECUs, and not read at a socket. -/
@[simp] theorem responses_hush : (gateway.hush id).responses = gateway.responses := rfl

/-- A socket that waits to be accepted is named there, and its bytes are not. -/
@[simp] theorem arrivals_hush : (gateway.hush id).arrivals = gateway.arrivals := rfl

/-- A gateway runs or not, whatever waits to be read. -/
@[simp] theorem phase_hush : (gateway.hush id).phase = gateway.phase := rfl

/-- Datagrams wait apart from the bytes of streams. -/
@[simp] theorem receipts_hush : (gateway.hush id).receipts = gateway.receipts := rfl

/-- The next announcement is due at the same moment. -/
@[simp] theorem announcing_hush : (gateway.hush id).announcing = gateway.announcing := rfl

/-- The gateway listens at the same sockets. -/
@[simp] theorem running?_hush : (gateway.hush id).running? = gateway.running? := rfl

/-- Announcements go to the same place. -/
@[simp] theorem announcementTarget_hush :
    (gateway.hush id).announcementTarget = gateway.announcementTarget := rfl

/-- The vehicle presents itself in the same way. -/
@[simp] theorem vehicleAnnouncement_hush :
    (gateway.hush id).vehicleAnnouncement = gateway.vehicleAnnouncement := rfl

/-- The same ECUs are reached at an address, with the same addressing. -/
@[simp] theorem targets_hush (target : UInt16) :
    (gateway.hush id).targets target = gateway.targets target := rfl

/-! ## Messages -/

/-- An event of an ECU does the same, and its responses wait to be routed as before. -/
theorem hush_changeEcu (index : Nat) (event : Ecu.Event) (gateway : Gateway) :
    (gateway.hush id).changeEcu index event = hush id <$> gateway.changeEcu index event := by
  simp only [changeEcu, ecus_hush]
  cases gateway.ecus[index]? with
  | none => rfl
  | some ecu =>
    simp only [map_bind, map_pure]
    rfl

/-- An event of several ECUs in order does the same to each of them, by induction on the ECUs that
are still to come. -/
theorem hush_changeEcus (event : Ecu.Event) (ecus : List Nat) (gateway : Gateway) :
    (gateway.hush id).changeEcus event ecus = hush id <$> gateway.changeEcus event ecus := by
  induction ecus generalizing gateway with
  | nil => rfl
  | cons index rest inductionHypothesis =>
    simp only [changeEcus, hush_changeEcu, bind_map_left, inductionHypothesis, map_bind]

/-- The ECUs are started in the same way. -/
theorem hush_startEcus (ecus : List Nat) (gateway : Gateway) :
    (gateway.hush id).startEcus ecus = hush id <$> gateway.startEcus ecus := by
  induction ecus generalizing gateway with
  | nil => rfl
  | cons index rest inductionHypothesis =>
    simp only [startEcus, hush_changeEcu, bind_map_left, inductionHypothesis, map_bind]

/-- A message is queued on the same connection. -/
theorem hush_send (connection : ConnectionId) (message : Wire.Message) (gateway : Gateway) :
    (gateway.hush id).send connection message = hush id <$> gateway.send connection message := by
  simp only [send, map_bind, map_pure]
  rfl

/-- The answer to a routing activation request is the same, and so is what it means for the
socket. -/
theorem hush_answerActivation (source : UInt16) (code : Wire.ActivationCode) (gateway : Gateway) :
    (gateway.hush id).answerActivation connection source code =
      hushed id <$> gateway.answerActivation connection source code := by
  simp only [answerActivation, hush_send, bind_map_left, map_bind]
  split <;> rfl

/-- A routing activation request comes as far in the registry, and is answered if it is decided. -/
theorem hush_pursueActivation (request : RequestId) (source : UInt16) (gateway : Gateway) :
    (gateway.hush id).pursueActivation now connection request source =
      hushed id <$> gateway.pursueActivation now connection request source := by
  simp only [pursueActivation, registry_hush, map_bind]
  refine bind_congr fun registry => ?_
  cases registry.answer? request with
  | none => rfl
  | some code => exact hush_answerActivation source code { gateway with registry := registry }

/-- A routing activation request is refused for its type or handed to the registry, as it would be
with the bytes. -/
theorem hush_onActivation (body : Wire.ActivationRequest) (gateway : Gateway) :
    (gateway.hush id).onActivation now connection body =
      hushed id <$> gateway.onActivation now connection body := by
  unfold onActivation
  split
  · let (registry, request) := gateway.registry.request connection body.sourceAddress
    exact hush_pursueActivation request body.sourceAddress { gateway with registry := registry }
  · rw [hush_answerActivation, map_bind]

/-- A request is handed to the same ECUs, one after the other. -/
theorem hush_forward (body : Wire.Diagnostic) (ecus : List (Nat × Addressing)) (gateway : Gateway) :
    (gateway.hush id).forward body ecus = hush id <$> gateway.forward body ecus := by
  induction ecus generalizing gateway with
  | nil => rfl
  | cons first rest inductionHypothesis =>
    simp only [forward, ecus_hush]
    cases gateway.ecus[first.1]? with
    | none => exact inductionHypothesis gateway
    | some ecu => simp only [hush_changeEcu, bind_map_left, inductionHypothesis, map_bind]

/-- A diagnostic message is checked against the same source address, acknowledged or refused, and
forwarded to the same ECUs. -/
theorem hush_onDiagnostic (body : Wire.Diagnostic) (gateway : Gateway) :
    (gateway.hush id).onDiagnostic connection body =
      hushed id <$> gateway.onDiagnostic connection body := by
  simp only [onDiagnostic, registry_hush, targets_hush, config_hush, map_bind]
  refine bind_congr fun _ => ?_
  by_cases registered : gateway.registry.pool.sourceAddress connection = some body.sourceAddress
  · simp only [registered, if_true]
    cases gateway.targets body.targetAddress with
    | nil =>
      simp only [hush_send, bind_map_left, map_bind, map_pure]
      rfl
    | cons first rest =>
      simp only [hush_send, hush_forward, bind_map_left, map_bind, map_pure]
      rfl
  · simp only [registered, if_false, hush_send, bind_map_left, map_bind, map_pure]
    rfl

/-- A frame that is not valid is refused with the same code. -/
theorem hush_onInvalidFrame (fault : Wire.Fault) (gateway : Gateway) :
    (gateway.hush id).onInvalidFrame connection fault =
      hushed id <$> gateway.onInvalidFrame connection fault := by
  simp only [onInvalidFrame, hush_send, bind_map_left, map_bind, map_pure]
  rfl

/-- A message from a tester is treated in the same way, whatever its type. -/
theorem hush_onMessage (message : Wire.Message) (gateway : Gateway) :
    (gateway.hush id).onMessage now connection message =
      hushed id <$> gateway.onMessage now connection message := by
  cases message with
  | routingActivationRequest body => exact hush_onActivation body gateway
  | diagnosticMessage body => exact hush_onDiagnostic body gateway
  | aliveCheckResponse source =>
    simp only [onMessage, registry_hush, map_bind, map_pure]
    rfl
  | _ => rfl

/-- A frame renews the timer and is then treated in the same way, be it valid or not. -/
theorem hush_onFrame (content : Except Wire.Fault Wire.Message) (gateway : Gateway) :
    (gateway.hush id).onFrame now connection content =
      hushed id <$> gateway.onFrame now connection content := by
  let heard : Gateway :=
    { gateway with registry := gateway.registry.dataReceived now connection }
  cases content with
  | ok message => exact hush_onMessage message heard
  | error fault => exact hush_onInvalidFrame fault heard

/-- The response of an ECU is sent to the same tester, or dropped as before. -/
theorem hush_onResponse (response : Ecu.Message) (gateway : Gateway) :
    (gateway.hush id).onResponse response = hush id <$> gateway.onResponse response := by
  simp only [onResponse, registry_hush, config_hush]
  cases gateway.registry.lookup response.target with
  | none => rfl
  | some connection => simp only [hush_send, map_bind]

/-- The oldest response is routed in the same way, and the rest goes on waiting. -/
theorem hush_route (gateway : Gateway) :
    (gateway.hush id).route = hush id <$> gateway.route := by
  simp only [route, responses_hush]
  cases gateway.responses with
  | nil => rfl
  | cons response rest => exact hush_onResponse response { gateway with responses := rest }

/-! ## Sockets -/

/-- A change of a socket that has nothing to do with its bytes. It may be the same socket or another
one, and in both cases the order makes no difference. -/
theorem hush_updateSocket (other : SocketId) (step : Socket → Socket)
    (commutes : ∀ socket : Socket, step socket.hush = (step socket).hush) (gateway : Gateway) :
    (gateway.hush id).updateSocket other step = (gateway.updateSocket other step).hush id := by
  have sockets : (gateway.sockets.modify id Socket.hush).modify other step =
      (gateway.sockets.modify other step).modify id Socket.hush := by
    refine List.ext_getElem? fun position => ?_
    simp only [List.getElem?_modify]
    cases gateway.sockets[position]? with
    | none => rfl
    | some socket =>
      by_cases here : id = position <;> by_cases there : other = position <;>
        simp [here, there, commutes]
  simp only [hush, updateSocket, sockets]

/-- A change of another socket. -/
theorem hush_updateSocket_apart (apart : other ≠ id) (step : Socket → Socket) (gateway : Gateway) :
    (gateway.hush id).updateSocket other step = (gateway.updateSocket other step).hush id := by
  have sockets : (gateway.sockets.modify id Socket.hush).modify other step =
      (gateway.sockets.modify other step).modify id Socket.hush :=
    List.modify_modify_ne _ _ _ apart.symm
  simp only [hush, updateSocket, sockets]

/-- Whatever arrives at the socket is left out. -/
theorem hush_deliver (bytes : Bytes) (gateway : Gateway) :
    (gateway.updateSocket id (Socket.deliver bytes)).hush id = gateway.hush id := by
  have sockets : (gateway.sockets.modify id (Socket.deliver bytes)).modify id Socket.hush =
      gateway.sockets.modify id Socket.hush :=
    List.modify_modify_eq _ _ _ _
  simp only [hush, updateSocket, sockets]

/-- The other sockets are the same, and the socket itself has lost its bytes. -/
theorem getElem?_hush (gateway : Gateway) :
    (gateway.hush id).sockets[other]? = (gateway.sockets[other]?).map fun socket =>
      if id = other then socket.hush else socket :=
  getElem?_updateSocket _ _

/-- Sockets keep everything but their bytes. -/
theorem found_hush (id : SocketId) {socket : Socket} (found : gateway.sockets[other]? = some socket) :
    ∃ bytes, (gateway.hush id).sockets[other]? = some { socket with incoming := bytes } := by
  rw [getElem?_hush, found, Option.map_some]
  split
  · exact ⟨[], rfl⟩
  · exact ⟨socket.incoming, rfl⟩

/-- No socket comes into being when bytes are taken away. -/
theorem missing_hush (missing : gateway.sockets[other]? = none) :
    (gateway.hush id).sockets[other]? = none := by
  rw [getElem?_hush, missing, Option.map_none]

/-- Other sockets keep their bytes as well. -/
theorem getElem?_hush_apart (apart : other ≠ id) (gateway : Gateway) :
    (gateway.hush id).sockets[other]? = gateway.sockets[other]? := by
  rw [getElem?_hush]
  simp [apart.symm]

/-- The reading of a socket ends in the same way: its connection is stopped and leaves the table. -/
theorem hush_finishReading (peer : Net.Endpoint) (gateway : Gateway) :
    (gateway.hush id).finishReading other peer connection =
      hush id <$> gateway.finishReading other peer connection := by
  simp only [finishReading, registry_hush, map_bind, map_pure]
  refine bind_congr fun registry => bind_congr fun registry => bind_congr fun _ => congrArg pure ?_
  exact hush_updateSocket other (fun socket => { socket with reader := .finished }) (fun _ => rfl)
    { gateway with registry := registry }

/-- A reader goes on as a message demands, whatever else waits to be read. Only the phase of the
reader changes, or the connection is closed. -/
theorem hush_continueReading (peer : Net.Endpoint) (flow : Flow) (gateway : Gateway) :
    (gateway.hush id).continueReading other peer connection flow =
      hush id <$> gateway.continueReading other peer connection flow := by
  cases flow with
  | close => exact hush_finishReading peer gateway
  | proceed =>
    exact congrArg pure (hush_updateSocket other
      (fun socket => { socket with reader := .reading connection }) (fun _ => rfl) gateway)
  | wait request source =>
    exact congrArg pure (hush_updateSocket other
      (fun socket => { socket with reader := .deciding connection request source })
      (fun _ => rfl) gateway)

/-- A reader that waits for a decision does not look at the bytes that have arrived in the
meantime. -/
theorem hush_resumeDecision (socket : Socket) (request : RequestId) (source : UInt16)
    (gateway : Gateway) :
    (gateway.hush id).resumeDecision now other socket connection request source =
      hush id <$> gateway.resumeDecision now other socket connection request source := by
  simp only [resumeDecision, hush_pursueActivation, bind_map_left, map_bind]
  exact bind_congr fun answered => hush_continueReading socket.peer answered.2 answered.1

/-- A socket is given the next connection, whatever has arrived on it already. -/
theorem hush_serve (socket : Socket) (gateway : Gateway) :
    (gateway.hush id).serve now other socket = hush id <$> gateway.serve now other socket := by
  simp only [serve, registry_hush, config_hush, map_bind, map_pure]
  refine bind_congr fun _ => bind_congr fun _ => bind_congr fun registry => bind_congr fun _ =>
    congrArg pure ?_
  exact hush_updateSocket other (Socket.serving _) (fun _ => rfl)
    { gateway with registry := registry }

/-- Whoever reads from another socket finds the bytes there. So it takes the same frame, and
everything that it does with it commutes. -/
theorem hush_readNext (apart : other ≠ id) (socket : Socket) (gateway : Gateway) :
    (gateway.hush id).readNext now other socket connection =
      hush id <$> gateway.readNext now other socket connection := by
  simp only [readNext, config_hush]
  cases socket.inbound? gateway.config.maxDataSize with
  | none => rfl
  | some next =>
    cases next with
    | ended ending => simp only [hush_finishReading, map_bind]
    | frame frame =>
      simp only [hush_updateSocket_apart apart, hush_onFrame, bind_map_left, map_bind]
      exact bind_congr fun answered => hush_continueReading socket.peer answered.2 answered.1

/-- A reader that has finished pays no attention to what arrives. At any other socket a reader finds
the bytes that were delivered there, which are not touched. -/
theorem hush_read
    (finished : ∀ socket, gateway.sockets[id]? = some socket → socket.reader = .finished) :
    (gateway.hush id).read now other = hush id <$> gateway.read now other := by
  cases found : gateway.sockets[other]? with
  | none =>
    simp only [read, found, missing_hush found]
    rfl
  | some socket =>
    by_cases here : other = id
    · subst here
      obtain ⟨bytes, foundHush⟩ := found_hush other found
      simp only [read, found, foundHush, finished socket found]
      rfl
    · simp only [read, getElem?_hush_apart here, found]
      cases socket.reader with
      | accepted => exact hush_serve socket gateway
      | reading connection => exact hush_readNext here socket gateway
      | deciding connection request source =>
        exact hush_resumeDecision socket request source gateway
      | _ => rfl

/-- A reader leaves because its connection is closed, and not because of what is there to read. The
phase of the reader is the same with the bytes and without them. -/
theorem hush_leave (other : SocketId) (gateway : Gateway) :
    (gateway.hush id).leave other = hush id <$> gateway.leave other := by
  cases found : gateway.sockets[other]? with
  | none =>
    simp only [leave, found, missing_hush found]
    rfl
  | some socket =>
    obtain ⟨bytes, foundHush⟩ := found_hush id found
    simp only [leave, found, foundHush]
    cases socket.reader with
    | reading connection => exact hush_finishReading socket.peer gateway
    | _ => rfl

/-- The writer of a socket ends in the same way. -/
theorem hush_finishWriting (gateway : Gateway) :
    (gateway.hush id).finishWriting other connection =
      hush id <$> gateway.finishWriting other connection := by
  simp only [finishWriting, registry_hush, map_bind, map_pure]
  refine bind_congr fun _ => congrArg pure ?_
  let pool := gateway.registry.pool.update connection Connection.dropReceiver
  exact hush_updateSocket other (fun socket => { socket with writer := .finished }) (fun _ => rfl)
    { gateway with registry := { gateway.registry with pool := pool } }

/-- A message is written or its connection stopped, as before. Writing looks at the fault and the
bytes written, and not at those that wait to be read. -/
theorem hush_writeMessage (socket : Socket) (message : Wire.Message) (gateway : Gateway) :
    (gateway.hush id).writeMessage other socket connection message =
      hush id <$> gateway.writeMessage other socket connection message := by
  unfold writeMessage
  cases socket.writeFault with
  | none =>
    exact congrArg pure (hush_updateSocket other
      (fun socket => { socket with written := socket.written ++ message.encode }) (fun _ => rfl)
      gateway)
  | some fault =>
    simp only [registry_hush, map_bind]
    exact bind_congr fun _ => bind_congr fun registry =>
      hush_finishWriting { gateway with registry := registry }

/-- One step of a writer looks at the queue of its connection only. The queue belongs to the
registry, and what it holds does not depend on bytes that nobody reads any more. -/
theorem hush_write (other : SocketId) (gateway : Gateway) :
    (gateway.hush id).write other = hush id <$> gateway.write other := by
  cases found : gateway.sockets[other]? with
  | none =>
    simp only [write, found, missing_hush found]
    rfl
  | some socket =>
    obtain ⟨bytes, foundHush⟩ := found_hush id found
    simp only [write, found, foundHush, registry_hush]
    cases socket.writer with
    | writing connection =>
      cases queue : (gateway.registry.pool.get? connection).map Connection.outbound with
      | none =>
        simp only [queue]
        rfl
      | some messages =>
        cases messages with
        | nil =>
          simp only [queue]
          exact hush_finishWriting gateway
        | cons message rest =>
          simp only [queue]
          exact hush_writeMessage socket message (gateway.setOutbound connection rest)
    | _ => rfl

/-- The limit on sockets counts open connections, so a socket is accepted or refused as before.
Whoever was deaf before remains among the sockets, with its connection or without. -/
theorem hush_accept (gateway : Gateway) :
    (gateway.hush id).accept = hush id <$> gateway.accept := by
  cases waits : gateway.arrivals with
  | nil =>
    simp only [accept, arrivals_hush, waits]
    rfl
  | cons first rest =>
    let taken := { gateway with arrivals := rest }
    cases first with
    | fault fault =>
      simp only [accept, arrivals_hush, waits]
      rfl
    | socket other =>
      simp only [accept, arrivals_hush, waits]
      cases found : gateway.sockets[other]? with
      | none =>
        simp only [missing_hush found]
        rfl
      | some socket =>
        obtain ⟨bytes, foundHush⟩ := found_hush id found
        simp only [foundHush, registry_hush, config_hush]
        by_cases full : gateway.config.maxSockets.toNat ≤ gateway.registry.openConnections.length
        · simp only [full, if_true, map_bind, map_pure]
          refine bind_congr fun _ => ?_
          exact congrArg pure (hush_updateSocket other Socket.abandon (fun _ => rfl) taken)
        · simp only [full, if_false]
          exact congrArg pure (hush_updateSocket other Socket.admitted (fun _ => rfl) taken)

/-! ## Start and stop -/

/-- A timer that expires stops its connection in the same way. -/
theorem hush_expire (gateway : Gateway) :
    (gateway.hush id).expire connection = hush id <$> gateway.expire connection := by
  simp only [expire, registry_hush, map_bind, map_pure]
  rfl

/-- A gateway whose sockets are open starts its ECUs and its announcements in the same way. -/
theorem hush_run (sockets : Sockets) (gateway : Gateway) :
    (gateway.hush id).run now sockets = hush id <$> gateway.run now sockets := by
  let begun := { gateway with phase := .running sockets, routing := true }
  have starts : (begun.hush id).startEcus gateway.ecuNumbers = _ :=
    hush_startEcus gateway.ecuNumbers begun
  show (begun.hush id).startEcus gateway.ecuNumbers >>= _ = _
  rw [starts, run, bind_map_left, map_bind]
  rfl

/-- Whether a socket is let go when the gateway stops depends on its reader only. -/
theorem abandonWaiting_hush (socket : Socket) :
    abandonWaiting socket.hush = (abandonWaiting socket).hush := by
  cases reads : socket.reader <;> simp [abandonWaiting, Socket.hush, Socket.abandon, reads]

/-- The tasks that a stop ends are the same ones. Letting go of a socket does not look at its bytes,
and keeps them. -/
theorem hush_endTasks (gateway : Gateway) :
    (gateway.hush id).endTasks = gateway.endTasks.hush id := by
  have sockets : (gateway.sockets.modify id Socket.hush).map abandonWaiting =
      (gateway.sockets.map abandonWaiting).modify id Socket.hush := by
    refine List.ext_getElem? fun position => ?_
    simp only [List.getElem?_modify, List.getElem?_map]
    cases gateway.sockets[position]? with
    | none => rfl
    | some socket => by_cases here : id = position <;> simp [here, abandonWaiting_hush]
  simp only [hush, updateSocket, endTasks, sockets]

/-- A stop closes the same connections and stops the same ECUs. Whether a socket is abandoned
depends on its reader, and not on the bytes that have come in. -/
theorem hush_halt (gateway : Gateway) :
    (gateway.hush id).halt = hush id <$> gateway.halt := by
  simp only [halt, registry_hush, map_bind]
  refine bind_congr fun registry => ?_
  let stopped := { gateway with phase := .stopped, registry := registry }
  have stops : (stopped.hush id).changeEcus .stop gateway.ecuNumbers = _ :=
    hush_changeEcus .stop gateway.ecuNumbers stopped
  show (stopped.hush id).changeEcus .stop gateway.ecuNumbers >>= _ = _
  rw [stops, bind_map_left]
  refine bind_congr fun ecus => ?_
  simp only [config_hush]
  refine bind_congr fun _ => ?_
  rw [hush_endTasks]
  exact hush_changeEcus _ _ _

/-- A tester who connects gets the next socket, and the bytes at another one stay away. Its number
is the number of sockets so far, and hushing changes none of them into more or fewer. -/
theorem hush_connect (peer : Net.Endpoint) (fault : Option Net.SystemFault) (gateway : Gateway) :
    (gateway.hush id).connect peer fault = (gateway.connect peer fault).hush id := by
  have sockets : gateway.sockets.modify id Socket.hush ++ [Socket.new peer fault] =
      (gateway.sockets ++ [Socket.new peer fault]).modify id Socket.hush := by
    refine List.ext_getElem? fun position => ?_
    simp only [List.getElem?_modify, List.getElem?_append, List.length_modify]
    split
    · rfl
    · cases position - gateway.sockets.length with
      | zero => by_cases here : id = position <;> simp [here, Socket.hush, Socket.new]
      | succ beyond => simp
  by_cases runs : gateway.running?.isSome
  · simp only [connect, running?_hush, runs, if_true]
    simp only [hush, updateSocket, sockets, List.length_modify]
  · simp only [connect, running?_hush, runs, Bool.false_eq_true, if_false]

/-- A failure of the listening socket waits in the same place. -/
theorem hush_failAccepting (fault : Net.SystemFault) (gateway : Gateway) :
    (gateway.hush id).failAccepting fault = (gateway.failAccepting fault).hush id := by
  simp only [failAccepting, running?_hush, apply_ite (hush id)]
  rfl

/-- A datagram waits in the same place. -/
theorem hush_takeReceipt (receipt : Receipt) (gateway : Gateway) :
    (gateway.hush id).takeReceipt receipt = (gateway.takeReceipt receipt).hush id := by
  simp only [takeReceipt, running?_hush, apply_ite (hush id)]
  rfl

end Gateway

namespace Station

open Gateway

/-- The station without the bytes that wait at a socket. -/
def hush (id : SocketId) (station : Station) : Station :=
  { station with gateway := station.gateway.hush id }

variable {id : SocketId} {now : Milliseconds}

/-- To take the bytes from a station is to take them from its gateway. -/
@[simp] theorem gateway_hush (station : Station) :
    (station.hush id).gateway = station.gateway.hush id := rfl

/-- The bytes of streams are no part of the network. -/
@[simp] theorem network_hush (station : Station) :
    (station.hush id).network = station.network := rfl

/-- A step of the gateway is a step of its station, with the network as it was. -/
theorem hush_onGateway {step : Gateway → Logged Gateway} {station : Station}
    (hushes : step (station.gateway.hush id) = Gateway.hush id <$> step station.gateway) :
    (station.hush id).onGateway step = hush id <$> station.onGateway step := by
  simp only [onGateway, gateway_hush, hushes, bind_map_left, map_bind, map_pure]
  rfl

/-- The same of a step that logs nothing. -/
theorem hush_silently (step : Gateway → Gateway) (station : Station)
    (hushes : step (station.gateway.hush id) = (step station.gateway).hush id) :
    (station.hush id).onGateway (fun gateway => return step gateway) =
      hush id <$> station.onGateway fun gateway => return step gateway :=
  hush_onGateway (congrArg pure hushes)

/-- A start opens the same sockets and comes to the same gateway, or fails for the same reason. At a
station that is started there are no bytes yet that could be kept away. -/
theorem hush_start (station : Station) :
    Prod.fst <$> (station.hush id).start now =
      hush id <$> Prod.fst <$> station.start now := by
  simp only [start, gateway_hush, phase_hush, config_hush]
  cases station.gateway.phase with
  | created =>
    simp only [map_bind]
    refine bind_congr fun opened => ?_
    obtain ⟨result, network⟩ := opened
    cases result with
    | error fault => rfl
    | ok sockets =>
      simp only [hush_run, bind_map_left, map_bind, map_pure]
      rfl
  | _ => rfl

/-- A stop gives the sockets back to the network as before. -/
theorem hush_stop (station : Station) : (station.hush id).stop = hush id <$> station.stop := by
  simp only [stop, gateway_hush, phase_hush]
  cases station.gateway.phase with
  | running sockets =>
    simp only [hush_halt, bind_map_left, map_bind, map_pure]
    rfl
  | _ => rfl

/-- A datagram is handed to the network in the same way, and its failure logged. The network is
handed the same datagram, as it is made without a socket of a tester. -/
theorem hush_transmit (message : Wire.Message) (target : Net.Endpoint) (station : Station) :
    (station.hush id).transmit message target = hush id <$> station.transmit message target := by
  cases runs : station.gateway.running? with
  | none =>
    simp only [transmit, gateway_hush, running?_hush, runs]
    rfl
  | some sockets =>
    simp only [transmit, gateway_hush, network_hush, running?_hush, runs]
    obtain ⟨result, network⟩ := station.network.send ⟨sockets.udp, target, message.encode⟩
    cases result <;> rfl

/-- The oldest datagram is answered from the registry and the configuration, and never from a
stream. -/
theorem hush_receive (station : Station) :
    (station.hush id).receive now = hush id <$> station.receive now := by
  simp only [receive, gateway_hush, receipts_hush]
  cases station.gateway.receipts with
  | nil => rfl
  | cons first rest =>
    cases first with
    | fault fault => rfl
    | datagram peer bytes =>
      let received : Station :=
        { station with gateway :=
          { station.gateway with receipts := rest, pausedUntil := none } }
      dsimp only
      rw [map_bind]
      show received.gateway.answerDatagram peer _ >>= _ = _
      refine bind_congr fun answer => ?_
      cases answer with
      | none => rfl
      | some answer => exact hush_transmit answer peer received

/-- The next announcement is sent, and the one after it is due at the same moment. -/
theorem hush_announce (station : Station) :
    (station.hush id).announce now = hush id <$> station.announce now := by
  simp only [announce, gateway_hush, announcing_hush, announcementTarget_hush,
    vehicleAnnouncement_hush]
  cases station.gateway.announcing with
  | none => rfl
  | some announcing =>
    simp only [hush_transmit, bind_map_left, map_bind, map_pure]
    rfl

/-- Bytes that arrive at another socket arrive there without these as well. The one event that is
left out is the delivery to this very socket; there the bytes are what makes the difference. -/
theorem hush_apply {event : Event} (apart : ∀ bytes, event ≠ .deliver id bytes) (station : Station) :
    (station.hush id).apply now event = hush id <$> station.apply now event := by
  cases event with
  | start => exact hush_start station
  | stop => exact hush_stop station
  | connect peer fault => exact hush_silently _ station (hush_connect peer fault _)
  | acceptFault fault => exact hush_silently _ station (hush_failAccepting fault _)
  | deliver socket bytes =>
    have other : socket ≠ id := fun same => apart bytes (by rw [same])
    exact hush_silently _ station (hush_updateSocket_apart other (Socket.deliver bytes) _)
  | finish socket ending =>
    exact hush_silently _ station
      (hush_updateSocket socket (Socket.finish ending) (Socket.finish_hush ending) _)
  | failWriting socket fault =>
    exact hush_silently _ station (hush_updateSocket socket
      (fun socket => { socket with writeFault := some fault }) (fun _ => rfl) _)
  | receipt receipt => exact hush_silently _ station (hush_takeReceipt receipt _)
  | ecu index event => exact hush_onGateway (hush_changeEcu index event _)

/-- A task that does not read from the socket takes the same step. The only task that looks at the
bytes of the socket is its reader, and that has finished. -/
theorem hush_step {task : Task} {station : Station}
    (finished : ∀ socket, station.gateway.sockets[id]? = some socket → socket.reader = .finished) :
    (station.hush id).step now task = hush id <$> station.step now task := by
  cases task with
  | timer connection => exact hush_onGateway (hush_expire _)
  | accept => exact hush_onGateway (hush_accept _)
  | read socket => exact hush_onGateway (hush_read finished)
  | leave socket => exact hush_onGateway (hush_leave socket _)
  | write socket => exact hush_onGateway (hush_write socket _)
  | receive => exact hush_receive station
  | announce => exact hush_announce station
  | route => exact hush_onGateway (hush_route _)
  | work ecu => exact hush_onGateway (hush_changeEcu ecu .work _)

end Station

end DiagnosticGateway
