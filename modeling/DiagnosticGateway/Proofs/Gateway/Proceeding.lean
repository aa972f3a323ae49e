import Mathlib.Algebra.BigOperators.Group.List.Basic
import DiagnosticGateway.Proofs.Gateway.Activity

/-!
# Steps between start and stop

Between its start and its stop a gateway goes on step by step, and every step has the same form.
Its events at the ECUs come one after the other, and what the ECUs say comes behind the responses
that wait, of which the routing takes one. For each request that reaches an ECU one positive
acknowledge is queued, and no other message of that kind.
-/

namespace DiagnosticGateway

/-- Whether a message is the positive acknowledge of a tester's request that reaches an ECU. -/
def Wire.Message.acknowledges (tester : UInt16) (ecu : Ecu) : Wire.Message → Bool
  | .diagnosticMessagePositiveAck body =>
    body.targetAddress == tester && (ecu.addressingFor body.sourceAddress).isSome
  | _ => false

namespace Pool

/-- All messages that have come into the queues of the connections. -/
def gains (before after : Pool) : List Wire.Message :=
  after.numbers.flatMap fun id => gained id before after

variable {before after : Pool} {id : ConnectionId}

/-- Queues that have not become longer have gained nothing. -/
theorem gains_of_length_le
    (shorter : ∀ id, (after.waiting id).length ≤ (before.waiting id).length) :
    gains before after = [] :=
  List.flatMap_eq_nil_iff.mpr fun id _ => List.drop_eq_nil_of_le (shorter id)

/-- Among messages of another kind there is no positive acknowledge. -/
theorem Grows.unacknowledged
    (grows : Grows (fun message => message.isAck = false) before after) (tester : UInt16)
    (ecu : Ecu) : (gains before after).countP (Wire.Message.acknowledges tester ecu) = 0 := by
  refine List.countP_eq_zero.mpr fun message member acknowledges => ?_
  obtain ⟨id, -, gained⟩ := List.mem_flatMap.mp member
  have other := grows.gained message gained
  cases message <;> simp_all [Wire.Message.acknowledges, Wire.Message.isAck]

/-- A message that comes into one queue counts once, whatever else comes into the queues. The
queues are looked at one by one, by the numbers of the connections, and the message stands in
one of them. -/
theorem countP_gains (counts : Wire.Message → Bool) (message : Wire.Message) (distinct : after.numbers.Nodup)
    (member : id ∈ after.numbers)
    (grown : ∀ other, ∃ more, after.waiting other =
        before.waiting other ++ (more ++ if other = id then [message] else []) ∧
      ∀ message ∈ more, counts message = false) :
    (gains before after).countP counts = if counts message = true then 1 else 0 := by
  have counted : ∀ other, (gained other before after).countP counts =
      if other = id then (if counts message = true then 1 else 0) else 0 := by
    intro other
    obtain ⟨more, grownHere, uncounted⟩ := grown other
    have none : more.countP counts = 0 :=
      List.countP_eq_zero.mpr fun message member => by simp [uncounted message member]
    rw [gained_of_append grownHere, List.countP_append, none, Nat.zero_add]
    split
    · exact List.countP_singleton ..
    · rfl
  rw [gains, List.countP_flatMap, List.sum_map_eq_nsmul_single id]
  · rw [List.count_eq_one_of_mem distinct member, one_nsmul, Function.comp_apply, counted,
      if_pos rfl]
  · intro other different _
    rw [Function.comp_apply, counted, if_neg different]

end Pool

namespace Gateway

/-- A gateway has come from another one by some events at the ECUs, has taken some responses from
those that wait, and has acknowledged the requests among the events. -/
structure Proceeds (taken : Nat) (events : List (Nat × Ecu.Event)) (before after : Gateway) :
    Prop where
  ecus : after.ecus = (before.undergo events).ecus
  available : taken ≤ before.responses.length
  responses : after.responses = (before.undergo events).responses.drop taken
  routing : after.routing = before.routing
  phase : after.phase = before.phase
  served : after.registry.Served
  acknowledged : ∀ index ecu tester, before.ecus[index]? = some ecu →
    (Pool.gains before.registry.pool after.registry.pool).countP
      (Wire.Message.acknowledges tester ecu) = askedOf index tester events

variable {gateway before after : Gateway} {connection : ConnectionId} {now : Milliseconds}
  {taken : Nat} {events : List (Nat × Ecu.Event)}

/-- What happens without a word to or from the ECUs is proceeding without events. -/
theorem Aside.proceeds (aside : before.Aside after) (served : before.registry.Served) :
    Proceeds 0 [] before after where
  ecus := aside.ecus
  available := Nat.zero_le _
  responses := aside.responses
  routing := aside.routing
  phase := aside.phase
  served := aside.served served
  acknowledged _ ecu tester _ := (aside.grows served).unacknowledged tester ecu

/-- A change to a socket does not show in what proceeds. -/
theorem Proceeds.updateSocket (proceeds : Proceeds taken events before after) (id : SocketId)
    (step : Socket → Socket) : Proceeds taken events before (after.updateSocket id step) :=
  ⟨proceeds.ecus, proceeds.available, proceeds.responses, proceeds.routing, proceeds.phase,
    proceeds.served, proceeds.acknowledged⟩

/-! ## Requests -/

/-- Data on a connection does not change its address. So the targets of a message are the same
before and after the data are noted. -/
theorem handed_dataReceived (connection other : ConnectionId) (message : Wire.Message) :
    Gateway.handed connection message
        { gateway with registry := gateway.registry.dataReceived now other } =
      gateway.handed connection message := by
  have same : (gateway.registry.dataReceived now other).pool.sourceAddress connection =
      gateway.registry.pool.sourceAddress connection := by
    have found : (gateway.registry.dataReceived now other).pool.get? connection =
        (gateway.registry.pool.get? connection).map fun found =>
          if connection = other then found.dataReceived now else found :=
      Pool.get?_update other connection _ (Connection.id_next now .dataReceived) _
    unfold Pool.sourceAddress
    rw [found]
    cases gateway.registry.pool.get? connection with
    | none => rfl
    | some before =>
      rw [Option.map_some, Option.bind_some, Option.bind_some]
      split
      · unfold Connection.dataReceived
        split <;> rfl
      · rfl
  cases message with
  | diagnosticMessage body =>
    simp only [handed, same]
    rfl
  | _ => rfl

/-- A message that brings requests is acknowledged before they are handed over. It is a
diagnostic message then, from the address the tester is registered with, and for an address
that some ECU has. -/
theorem onMessage_handed (now : Milliseconds) {message : Wire.Message}
    (brings : gateway.handed connection message ≠ []) :
    ∃ body : Wire.Diagnostic,
      gateway.registry.pool.sourceAddress connection = some body.sourceAddress ∧
      gateway.handed connection message =
        (gateway.targets body.targetAddress).map (fun entry =>
          (entry.1, .put ⟨body.sourceAddress, body.targetAddress, entry.2, body.userData⟩)) ∧
      (gateway.onMessage now connection message).value =
        ((gateway.send connection
            (.diagnosticAck body.targetAddress body.sourceAddress)).value.undergo
          (gateway.handed connection message), .proceed) := by
  cases message with
  | diagnosticMessage body =>
    by_cases registered : gateway.registry.pool.sourceAddress connection = some body.sourceAddress
    · refine ⟨body, registered, if_pos registered, ?_⟩
      simp only [handed, if_pos registered] at brings ⊢
      simp only [onMessage, onDiagnostic, Logged.value_bind, if_pos registered]
      split
      · rename_i none
        rw [none] at brings
        exact absurd rfl brings
      · simp only [Logged.value_bind, Logged.value_pure, forward_value]
    · exact absurd (if_neg registered) brings
  | _ => exact absurd rfl brings

/-- A message that brings requests is acknowledged once, also after something aside. The acknowledge
is the one message of its kind in the queues, and the requests come to the ECUs by the same code. -/
theorem proceeds_onMessage (now : Milliseconds) {message : Wire.Message} (aside : before.Aside gateway)
    (served : before.registry.Served) (brings : gateway.handed connection message ≠ []) :
    Proceeds 0 (gateway.handed connection message) before
      (gateway.onMessage now connection message).value.1 := by
  obtain ⟨body, registered, requests, value⟩ := onMessage_handed now brings
  let ack := Wire.Message.diagnosticAck body.targetAddress body.sourceAddress
  let sent := (gateway.send connection ack).value
  have servedHere := aside.served served
  have sentServed : sent.registry.Served := by
    have kept : (gateway.registry.act ⟨0, .event (.send connection ack)⟩).Served :=
      servedHere.act (by simp) (by simp)
    exact kept
  have same : (sent.undergo (gateway.handed connection message)).ecus =
        (before.undergo (gateway.handed connection message)).ecus ∧
      sent.saidBy (gateway.handed connection message) =
        before.saidBy (gateway.handed connection message) := undergo_congr aside.ecus
  have registry : (sent.undergo (gateway.handed connection message)).registry = sent.registry := by
    rw [undergo_value]
  rw [value]
  refine ⟨same.1, Nat.zero_le _, ?_, ?_, ?_, ?_, ?_⟩
  · rw [undergo_value, undergo_value _ before, same.2, List.drop_zero]
    show (if gateway.routing = true then gateway.responses ++ _ else gateway.responses) = _
    rw [aside.routing, aside.responses]
  · rw [undergo_value]
    exact aside.routing
  · rw [undergo_value]
    exact aside.phase
  · rw [registry]
    exact sentServed
  · intro index ecu tester found
    obtain ⟨holding, foundConnection, -⟩ := Pool.sourceAddress_eq_some_iff.mp registered
    have opened := servedHere.sound.consistent.isOpen_of_registered registered
    have queues : ∀ other, sent.registry.pool.waiting other =
        gateway.registry.pool.waiting other ++ if other = connection then [ack] else [] := by
      intro other
      have waiting := servedHere.waiting_send 0 connection other ack
      simp only [opened, and_true] at waiting
      exact waiting
    have member : connection ∈ sent.registry.pool.numbers := by
      have kept : sent.registry.pool.numbers = gateway.registry.pool.numbers :=
        Pool.numbers_change connection _ (Connection.id_next 0 (.send ack)) _
      rw [kept]
      exact List.mem_map.mpr
        ⟨holding, List.mem_of_find?_eq_some foundConnection, Pool.id_of_get? foundConnection⟩
    rw [registry, Pool.countP_gains _ ack sentServed.numbered.distinct member,
      requests, askedOf_targets, aside.ecus, found]
    · simp [ack, Wire.Message.acknowledges, Wire.Message.diagnosticAck]
    · intro other
      obtain ⟨more, grown, plain⟩ := aside.grows served other
      refine ⟨more, by rw [queues, grown, List.append_assoc], fun message member => ?_⟩
      have notAck := plain message member
      cases message <;> simp_all [Wire.Message.acknowledges, Wire.Message.isAck]

/-- A reader hands over the requests of the message that it reads. A frame that brings none, and a
decision that was waited for, are dealt with aside from the ECUs. -/
theorem proceeds_read (served : gateway.registry.Served) (id : SocketId) :
    Proceeds 0 (gateway.handedBy id) gateway (gateway.read now id).value := by
  unfold handedBy read
  cases gateway.sockets[id]? with
  | none => exact aside_self.proceeds served
  | some socket =>
    cases reading : socket.reader with
    | accepted =>
      simp only [reading]
      exact (aside_serve socket).proceeds served
    | reading connection =>
      simp only [reading, readNext]
      cases socket.inbound? gateway.config.maxDataSize with
      | none => exact aside_self.proceeds served
      | some next =>
        cases next with
        | ended ending => exact (aside_finishReading socket.peer).proceeds served
        | frame frame =>
          let read := gateway.updateSocket id fun socket => { socket with incoming := frame.rest }
          let active := { read with registry := read.registry.dataReceived now connection }
          have aside : gateway.Aside active := (aside_updateSocket _).trans aside_dataReceived
          simp only [onFrame]
          cases frame.content with
          | error fault =>
            exact ((aside.trans (aside_onInvalidFrame fault)).trans
              (aside_continueReading socket.peer _)).proceeds served
          | ok message =>
            have same : active.handed connection message = gateway.handed connection message :=
              handed_dataReceived connection connection message
            by_cases brings : active.handed connection message = []
            · have none : gateway.handed connection message = [] := same.symm.trans brings
              simp only [none]
              exact ((aside.trans (aside_onMessage brings)).trans
                (aside_continueReading socket.peer _)).proceeds served
            · obtain ⟨body, -, -, value⟩ := onMessage_handed now brings
              have flow : (active.onMessage now connection message).value.2 = .proceed := by
                rw [value]
              have proceeds := proceeds_onMessage now aside served brings
              rw [same] at proceeds
              simp only [Logged.value_bind]
              show Proceeds 0 (gateway.handed connection message) gateway
                (continueReading id socket.peer connection
                  (active.onMessage now connection message).value.2
                  (active.onMessage now connection message).value.1).value
              rw [flow]
              exact proceeds.updateSocket id _
    | deciding connection request source =>
      simp only [reading]
      exact ((aside_pursueActivation request source).trans
        (aside_continueReading socket.peer _)).proceeds served
    | _ =>
      simp only [reading]
      exact aside_self.proceeds served

/-! ## Writing and routing -/

/-- A step that only takes messages from queues brings nothing. Acknowledgements are counted by what
queues gain, so shorter queues count nothing. -/
theorem proceeds_of_drained (ecus : after.ecus = before.ecus)
    (responses : after.responses = before.responses) (routing : after.routing = before.routing)
    (phase : after.phase = before.phase) (served : after.registry.Served)
    (shorter : ∀ id, (after.registry.pool.waiting id).length ≤
      (before.registry.pool.waiting id).length) : Proceeds 0 [] before after where
  ecus := ecus
  available := Nat.zero_le _
  responses := responses
  routing := routing
  phase := phase
  served := served
  acknowledged _ _ _ _ := by
    rw [Pool.gains_of_length_le shorter]
    rfl

/-- A change that shortens the queue of a connection shortens no other one. A number that no
connection has waits for nothing, before and after. -/
theorem length_waiting_update (change : Connection → Connection) {pool : Pool}
    (keepsId : ∀ connection, (change connection).id = connection.id)
    (shortens : ∀ found, pool.get? connection = some found →
      (change found).outbound.length ≤ found.outbound.length) (id : ConnectionId) :
    ((pool.update connection change).waiting id).length ≤ (pool.waiting id).length := by
  unfold Pool.waiting
  rw [Pool.get?_update connection id change keepsId]
  cases found : pool.get? id with
  | none => exact Nat.le_refl _
  | some before =>
    rw [Option.map_some, Option.elim_some, Option.elim_some]
    split
    · rename_i here
      exact shortens before (here ▸ found)
    · exact Nat.le_refl _

/-- A connection that is closed keeps what was queued: the writer still has to send it. -/
theorem outbound_stop (connection : Connection) :
    connection.stop.value.outbound = connection.outbound := by
  unfold Connection.stop
  split <;> rfl

/-- Closing one connection leaves all queues as they are. What was queued can still be written. -/
theorem waiting_stop (pool : Pool) (id : ConnectionId) :
    (pool.stop connection).value.waiting id = pool.waiting id := by
  unfold Pool.waiting
  rw [Pool.get?_stop]
  cases pool.get? id with
  | none => rfl
  | some before =>
    rw [Option.map_some, Option.elim_some, Option.elim_some]
    split
    · exact outbound_stop before
    · rfl

/-- The writer of a closed connection can go away. -/
theorem proceeds_finishWriting (served : gateway.registry.Served)
    (closed : ∀ found, gateway.registry.pool.get? connection = some found →
      found.phase = .closed) (id : SocketId) :
    Proceeds 0 [] gateway (gateway.finishWriting id connection).value := by
  refine proceeds_of_drained rfl rfl rfl rfl ?_ ?_
  · exact served.update connection _ (fun _ => rfl)
      fun found is opened => absurd (closed found is) opened
  · exact length_waiting_update Connection.dropReceiver (fun _ => rfl) fun _ _ => Nat.zero_le _

/-- A writer takes one message from the queue, or goes away after the close. Taking a message out of
a queue counts for nothing here, since what is counted is what comes in. -/
theorem proceeds_write (served : gateway.registry.Served) {id : SocketId} {socket : Socket}
    (found : gateway.sockets[id]? = some socket) (able : gateway.canWrite socket = true) :
    Proceeds 0 [] gateway (gateway.write id).value := by
  unfold canWrite at able
  cases writing : socket.writer with
  | writing connection =>
    rw [writing] at able
    obtain ⟨holding, foundConnection, ready⟩ := Option.any_eq_true _ _ |>.mp able
    simp only [write, found, writing, foundConnection, Option.map_some]
    cases queue : holding.outbound with
    | nil =>
      have silent : holding.sending ≠ true := by simpa [queue] using ready
      refine proceeds_finishWriting served ?_ id
      intro other same
      obtain rfl := Option.some.inj (foundConnection.symm.trans same)
      exact Classical.not_not.mp fun opened =>
        silent ((served.sound.consistent _ _ foundConnection).sending.mpr opened)
    | cons message rest =>
      have taken : (gateway.setOutbound connection rest).registry.Served :=
        served.update connection _ (fun _ => rfl) fun _ _ _ => rfl
      have shorter : ∀ other,
          ((gateway.setOutbound connection rest).registry.pool.waiting other).length ≤
            (gateway.registry.pool.waiting other).length := by
        refine length_waiting_update _ (fun _ => rfl) fun other same => ?_
        obtain rfl := Option.some.inj (foundConnection.symm.trans same)
        simp [queue]
      unfold writeMessage
      cases socket.writeFault with
      | none => exact proceeds_of_drained rfl rfl rfl rfl taken shorter
      | some fault =>
        let stopped := (gateway.setOutbound connection rest).registry.act
          ⟨0, .event (.stop connection)⟩
        have stoppedServed : stopped.Served := taken.act (by simp) (by simp)
        have closed : ∀ later, stopped.pool.get? connection = some later →
            later.phase = .closed := by
          intro later same
          obtain ⟨earlier, -, rfl⟩ := Option.map_eq_some_iff.mp
            ((Pool.get?_stop connection connection _).symm.trans same)
          rw [if_pos rfl]
          exact Connection.phase_stop earlier
        let ending := { gateway.setOutbound connection rest with registry := stopped }
        have ends : Proceeds 0 [] ending (ending.finishWriting id connection).value :=
          proceeds_finishWriting stoppedServed closed id
        refine proceeds_of_drained ends.ecus ends.responses ends.routing ends.phase ends.served
          fun other => ?_
        have dropped : ((stopped.pool.update connection Connection.dropReceiver).waiting
            other).length ≤ (stopped.pool.waiting other).length :=
          length_waiting_update Connection.dropReceiver (fun _ => rfl)
            (fun _ _ => Nat.zero_le _) other
        have same : stopped.pool.waiting other =
            (gateway.setOutbound connection rest).registry.pool.waiting other :=
          waiting_stop _ other
        exact dropped.trans (same ▸ shorter other)
  | _ =>
    rw [writing] at able
    cases able

/-- The routing takes the first response that waits. What the ECUs have said goes on waiting
behind it. -/
theorem proceeds_route (served : gateway.registry.Served) {response : Ecu.Message}
    {rest : List Ecu.Message} (waits : gateway.responses = response :: rest) :
    Proceeds 1 [] gateway gateway.route.value := by
  let taken := { gateway with responses := rest }
  have aside : taken.Aside gateway.route.value := by
    simp only [route, waits, onResponse]
    split
    · exact aside_self
    · exact aside_send rfl
  have proceeds := aside.proceeds served
  refine ⟨proceeds.ecus, by simp [waits], ?_, proceeds.routing, proceeds.phase, proceeds.served,
    proceeds.acknowledged⟩
  rw [proceeds.responses]
  simp [undergo, waits, taken]

/-- Events at the ECUs that bring no request concern nothing else. What the ECU replies is added to
the responses that wait. -/
theorem proceeds_changeEcu (served : gateway.registry.Served) (index : Nat) {event : Ecu.Event}
    (unasked : ∀ tester, event.asked tester = 0) :
    Proceeds 0 [(index, event)] gateway (gateway.changeEcu index event).value := by
  have value : (gateway.changeEcu index event).value = gateway.undergo [(index, event)] := rfl
  rw [value]
  refine ⟨rfl, Nat.zero_le _, rfl, by rw [undergo_value], by rw [undergo_value],
    by rw [undergo_value]; exact served, ?_⟩
  intro number ecu tester _
  have none : Pool.gains gateway.registry.pool
      (gateway.undergo [(index, event)]).registry.pool = [] := by
    rw [undergo_value]
    exact Pool.gains_of_length_le fun _ => Nat.le_refl _
  rw [none]
  simp [unasked]

end Gateway

end DiagnosticGateway
