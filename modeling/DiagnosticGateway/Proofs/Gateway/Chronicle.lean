import DiagnosticGateway.Proofs.Gateway.Life

/-!
# Chronicles of a station

A chronicle lists what the occurrences of a history bring, each item with its moment: the frames
that are written to a tester, the states that its connection passes through, the requests that an
ECU receives and the responses that it emits. The numbers of connections are left out of account.
-/

namespace DiagnosticGateway

/-- The reader, whatever the number of its connection. -/
def Reader.unnumbered : Reader → Reader
  | reading _ => .reading 0
  | deciding _ request source => .deciding 0 request source
  | other => other

/-- The writer, whatever the number of its connection. -/
def Writer.unnumbered : Writer → Writer
  | writing _ => .writing 0
  | other => other

/-- The socket, whatever the number of its connection. -/
def Socket.unnumbered (socket : Socket) : Socket :=
  { socket with reader := socket.reader.unnumbered, writer := socket.writer.unnumbered }

/-- The connection that serves a socket. -/
def Socket.connection? (socket : Socket) : Option ConnectionId :=
  match socket.writer, socket.reader with
  | .writing connection, _ => some connection
  | _, .reading connection => some connection
  | _, .deciding connection _ _ => some connection
  | _, _ => none

/-- The connection, whatever its number. -/
def Connection.unnumbered (connection : Connection) : Connection :=
  { connection with id := 0 }

namespace Gateway

/-- The connection to a tester, whatever its number: the socket, and the connection that serves it
as long as somebody reads from the socket or writes to it. -/
def testerState (id : SocketId) (gateway : Gateway) : Option (Socket × Option Connection) :=
  (gateway.sockets[id]?).map fun socket =>
    (socket.unnumbered,
      (socket.connection?.bind fun connection => gateway.registry.pool.get? connection).map
        Connection.unnumbered)

/-- Everything that was written to a tester. -/
def writtenTo (id : SocketId) (gateway : Gateway) : Bytes :=
  (gateway.sockets[id]?).elim [] Socket.written

/-- What some events bring to one ECU. -/
def eventsAt (index : Nat) (events : List (Nat × Ecu.Event)) : List Ecu.Event :=
  (events.filter fun entry => entry.1 == index).map Prod.snd

/-- Every ECU goes through what some events bring to it, in their order. The induction is on the
events; those at other indices pass it by. -/
theorem getElem?_undergo (events : List (Nat × Ecu.Event)) (gateway : Gateway) (index : Nat) :
    (gateway.undergo events).ecus[index]? =
      (gateway.ecus[index]?).map fun ecu => (ecu.run (eventsAt index events)).value.ecu := by
  induction events generalizing gateway with
  | nil =>
    simp only [undergo, eventsAt, List.filter_nil, List.map_nil, Ecu.run]
    exact Option.map_id_apply.symm
  | cons entry rest inductionHypothesis =>
    obtain ⟨number, event⟩ := entry
    rw [undergo, inductionHypothesis, changeEcu_value, getElem?_ecusAfter, Option.map_map]
    congr 1
    funext ecu
    by_cases here : index = number
    · simp [here, eventsAt, Ecu.run]
    · simp [here, Ne.symm here, eventsAt]

/-- The request that an event hands to an ECU. -/
def request? : Ecu.Event → Option Ecu.Message
  | .put request => some request
  | _ => none

/-! ## What is brought to the ECUs -/

/-- The events by which the gateway stops its ECUs and turns away from them. -/
def dismissing (numbers : List Nat) : List (Nat × Ecu.Event) :=
  (numbers.map fun number => (number, .stop)) ++
    numbers.map fun number => (number, .dropListener listener)

variable {gateway : Gateway} {now : Milliseconds} {connection : ConnectionId}

/-- What the ECUs go through in two parts they go through as one. -/
theorem undergo_append (events later : List (Nat × Ecu.Event)) (gateway : Gateway) :
    gateway.undergo (events ++ later) = (gateway.undergo events).undergo later := by
  induction events generalizing gateway with
  | nil => rfl
  | cons entry rest inductionHypothesis => exact inductionHypothesis _

/-- When a gateway halts, its ECUs are dismissed. All of them are stopped before the first one loses
its listener, which makes no difference to any single one of them. -/
theorem ecus_halt (gateway : Gateway) :
    gateway.halt.value.ecus = (gateway.undergo (dismissing gateway.ecuNumbers)).ecus := by
  let ended := { gateway with phase := .stopped, registry := gateway.registry.stopAll.value }
  let stopped := ended.undergo (gateway.ecuNumbers.map fun number => (number, .stop))
  have numbers : stopped.ecuNumbers = gateway.ecuNumbers := by
    rw [ecuNumbers, length_undergo]
    rfl
  have value : gateway.halt.value = stopped.endTasks.undergo
      (gateway.ecuNumbers.map fun number => (number, .dropListener listener)) := by
    rw [← numbers]
    simp only [halt, Logged.value_bind, changeEcus_value]
    rfl
  have begun : ended.ecus = gateway.ecus := rfl
  have same : stopped.endTasks.ecus =
      (gateway.undergo (gateway.ecuNumbers.map fun number => (number, .stop))).ecus :=
    (undergo_congr begun).1
  rw [value, dismissing, undergo_append]
  exact (undergo_congr same).1

/-- A message hands its requests to the ECUs and does nothing else to them. Only a diagnostic
message brings requests, and it brings them after it was acknowledged. -/
theorem ecus_onMessage (now : Milliseconds) (connection : ConnectionId) (message : Wire.Message)
    (gateway : Gateway) :
    (gateway.onMessage now connection message).value.1.ecus =
      (gateway.undergo (gateway.handed connection message)).ecus := by
  by_cases brings : gateway.handed connection message = []
  · rw [brings]
    exact (aside_onMessage brings).ecus
  · obtain ⟨body, -, -, value⟩ := onMessage_handed now brings
    have acknowledged : (gateway.send connection
        (.diagnosticAck body.targetAddress body.sourceAddress)).value.ecus = gateway.ecus := rfl
    rw [value]
    exact (undergo_congr acknowledged).1

/-- A reader brings the ECUs what the message says that it reads. The frame is looked at once more,
since a reader that waits or begins hands over nothing. -/
theorem ecus_read (now : Milliseconds) (id : SocketId) (gateway : Gateway) :
    (gateway.read now id).value.ecus = (gateway.undergo (gateway.handedBy id)).ecus := by
  unfold handedBy read
  cases gateway.sockets[id]? with
  | none => rfl
  | some socket =>
    cases reading : socket.reader with
    | accepted =>
      simp only [reading]
      exact (aside_serve socket).ecus
    | reading connection =>
      simp only [reading, readNext]
      cases socket.inbound? gateway.config.maxDataSize with
      | none => rfl
      | some next =>
        cases next with
        | ended ending => exact (aside_finishReading socket.peer).ecus
        | frame frame =>
          let read := gateway.updateSocket id fun socket => { socket with incoming := frame.rest }
          let active := { read with registry := read.registry.dataReceived now connection }
          let answered := (read.onFrame now connection frame.content).value
          have goesOn : (answered.1.continueReading id socket.peer connection
              answered.2).value.ecus = answered.1.ecus :=
            (aside_continueReading socket.peer answered.2).ecus
          refine goesOn.trans ?_
          cases content : frame.content with
          | error fault =>
            have refused : answered = (active.onInvalidFrame connection fault).value := by
              simp only [answered, onFrame, content]
              rfl
            simp only [content, refused]
            exact (aside_onInvalidFrame fault).ecus
          | ok message =>
            have handled : answered = (active.onMessage now connection message).value := by
              simp only [answered, onFrame, content]
              rfl
            have brings : active.handed connection message = gateway.handed connection message :=
              handed_dataReceived connection connection message
            have same : active.ecus = gateway.ecus := rfl
            simp only [content, handled, ecus_onMessage, brings]
            exact (undergo_congr same).1
    | deciding connection request source =>
      simp only [reading]
      exact ((aside_pursueActivation request source).trans
        (aside_continueReading socket.peer _)).ecus
    | _ =>
      simp only [reading]
      rfl

/-- A writer brings the ECUs nothing. It takes messages from the queue of a connection, where the
responses of the ECUs have come by routing. -/
theorem ecus_write (id : SocketId) (gateway : Gateway) :
    (gateway.write id).value.ecus = gateway.ecus := by
  unfold write
  cases gateway.sockets[id]? with
  | none => rfl
  | some socket =>
    cases writes : socket.writer with
    | writing connection =>
      simp only [writes]
      cases (gateway.registry.pool.get? connection).map Connection.outbound with
      | none => rfl
      | some queue =>
        cases queue with
        | nil => rfl
        | cons message rest =>
          simp only [writeMessage]
          cases socket.writeFault <;> rfl
    | _ =>
      simp only [writes]
      rfl

/-- The routing brings the ECUs nothing. -/
theorem ecus_route (gateway : Gateway) : gateway.route.value.ecus = gateway.ecus := by
  unfold route
  cases gateway.responses with
  | nil => rfl
  | cons response rest =>
    simp only [onResponse]
    cases gateway.registry.lookup response.target <;> rfl

end Gateway

namespace Station

/-- What the occurrences of a history bring, each item with its moment, oldest first. -/
def chronicle {item : Type} (brings : Occurrence → Station → List item) :
    History → Station → List (Milliseconds × item)
  | [], _ => []
  | occurrence :: rest, station =>
    (brings occurrence station).map (Prod.mk occurrence.moment) ++
      chronicle brings rest (station.act occurrence)

/-- What an occurrence brings to the ECUs, each event with the number of its ECU. A start that
succeeds launches them, and a stop dismisses them. -/
def ecuEvents (occurrence : Occurrence) (station : Station) : List (Nat × Ecu.Event) :=
  match occurrence.action with
  | .event .start =>
    match (station.start occurrence.moment).value.2 with
    | .ok _ => Gateway.launching station.gateway.ecuNumbers
    | .error _ => []
  | .event .stop =>
    if station.gateway.running?.isSome then Gateway.dismissing station.gateway.ecuNumbers else []
  | action => station.gateway.activity action

/-- What a tester's connection has come to, if an occurrence has changed it. -/
def changesTo (id : SocketId) (occurrence : Occurrence) (station : Station) :
    List (Option (Socket × Option Connection)) :=
  if (station.act occurrence).gateway.testerState id = station.gateway.testerState id then []
  else [(station.act occurrence).gateway.testerState id]

/-- The frame that an occurrence writes to a tester. -/
def writesTo (id : SocketId) (occurrence : Occurrence) (station : Station) : List Bytes :=
  let before := station.gateway.writtenTo id
  let after := (station.act occurrence).gateway.writtenTo id
  if after = before then [] else [after.drop before.length]

/-- The requests that an occurrence hands to an ECU. -/
def handsTo (index : Nat) (occurrence : Occurrence) (station : Station) : List Ecu.Message :=
  (Gateway.eventsAt index (station.ecuEvents occurrence)).filterMap Gateway.request?

/-- The responses that an ECU emits at an occurrence, each with the number of its listener. -/
def emitsFrom (index : Nat) (occurrence : Occurrence) (station : Station) : List Ecu.Emission :=
  (station.gateway.ecus[index]?).elim [] fun ecu =>
    (ecu.run (Gateway.eventsAt index (station.ecuEvents occurrence))).value.emissions

/-- The frames that are written to a tester. -/
def frames (id : SocketId) : History → Station → List (Milliseconds × Bytes) :=
  chronicle (writesTo id)

/-- The states that a tester's connection passes through. -/
def states (id : SocketId) :
    History → Station → List (Milliseconds × Option (Socket × Option Connection)) :=
  chronicle (changesTo id)

/-- The requests that an ECU receives. -/
def requests (index : Nat) : History → Station → List (Milliseconds × Ecu.Message) :=
  chronicle (handsTo index)

/-- The responses that an ECU emits. -/
def emissions (index : Nat) : History → Station → List (Milliseconds × Ecu.Emission) :=
  chronicle (emitsFrom index)

/-! ## What becomes of the ECUs -/

/-- A start does to the ECUs what it is said to bring them. If it fails, it brings them nothing; if
not, each gets its listener and is started. -/
theorem ecus_start (now : Milliseconds) (station : Station) :
    (station.start now).value.1.gateway.ecus = (station.gateway.undergo
      (station.ecuEvents ⟨now, .event .start⟩)).ecus := by
  simp only [ecuEvents, start]
  cases station.gateway.phase with
  | created =>
    simp only [Logged.value_bind]
    obtain ⟨fault | sockets, network⟩ :=
      (Sockets.opened station.gateway.config station.network).value
    · rfl
    · let begun := { station.gateway with phase := .running sockets, routing := true }
      have same : begun.ecus = station.gateway.ecus := rfl
      show (station.gateway.run now sockets).value.ecus = _
      rw [Gateway.run_value]
      exact (Gateway.undergo_congr same).1
  | _ => rfl

/-- A stop does to the ECUs what it is said to bring them. -/
theorem ecus_stop (moment : Milliseconds) (station : Station) :
    station.stop.value.gateway.ecus = (station.gateway.undergo
      (station.ecuEvents ⟨moment, .event .stop⟩)).ecus := by
  cases phase : station.gateway.phase with
  | running sockets =>
    simp only [ecuEvents, stop, Gateway.running?, phase]
    exact Gateway.ecus_halt station.gateway
  | _ =>
    simp only [ecuEvents, stop, Gateway.running?, phase]
    rfl

/-- The ECUs go through what an occurrence brings to them, and through nothing else. There is
one case for each occurrence, and all but the reader, the router, the start and the stop leave
the ECUs alone. -/
theorem ecus_act (occurrence : Occurrence) (station : Station) :
    (station.act occurrence).gateway.ecus =
      (station.gateway.undergo (station.ecuEvents occurrence)).ecus := by
  obtain ⟨moment, action⟩ := occurrence
  cases action with
  | event event =>
    cases event with
    | start => exact ecus_start moment station
    | stop => exact ecus_stop moment station
    | ecu index event => rfl
    | connect peer fault =>
      show (station.gateway.connect peer fault).ecus = station.gateway.ecus
      unfold Gateway.connect
      split <;> rfl
    | acceptFault fault =>
      show (station.gateway.failAccepting fault).ecus = station.gateway.ecus
      unfold Gateway.failAccepting
      split <;> rfl
    | receipt receipt =>
      show (station.gateway.takeReceipt receipt).ecus = station.gateway.ecus
      unfold Gateway.takeReceipt
      split <;> rfl
    | _ => rfl
  | task task =>
    cases task with
    | timer connection => rfl
    | accept => exact Gateway.aside_accept.ecus
    | read id => exact Gateway.ecus_read moment id station.gateway
    | leave id => exact (Gateway.aside_leave id).ecus
    | write id => exact Gateway.ecus_write id station.gateway
    | receive => exact (Gateway.aside_receive moment station).ecus
    | announce => exact (Gateway.aside_announce moment station).ecus
    | route => exact Gateway.ecus_route station.gateway
    | work index => rfl

end Station

end DiagnosticGateway
