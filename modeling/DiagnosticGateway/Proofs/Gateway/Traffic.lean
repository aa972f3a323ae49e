import DiagnosticGateway.Gateway.Run
import DiagnosticGateway.Proofs.Registry.Succession

/-!
# Traffic on the connections of a gateway

Most of what a gateway does has nothing to do with its ECUs. It opens and closes connections,
registers them, refuses frames and messages, and asks for signs of life. All the while its
registry stays in order, and the queues of the connections grow by messages that are no positive
acknowledges. Whatever queues such an acknowledge hands a request to an ECU.
-/

namespace DiagnosticGateway

/-- Whether a message is the positive acknowledge of a diagnostic message. -/
def Wire.Message.isAck : Wire.Message → Bool
  | .diagnosticMessagePositiveAck _ => true
  | _ => false

namespace Pool

/-- The messages that wait in the queue of a connection. -/
def waiting (id : ConnectionId) (pool : Pool) : List Wire.Message :=
  (pool.get? id).elim [] Connection.outbound

/-- The messages that have come into a queue behind those that waited before. -/
def gained (id : ConnectionId) (before after : Pool) : List Wire.Message :=
  (after.waiting id).drop (before.waiting id).length

/-- Every queue has grown by messages of some kind. -/
def Grows (kind : Wire.Message → Prop) (before after : Pool) : Prop :=
  ∀ id, ∃ more, after.waiting id = before.waiting id ++ more ∧ ∀ message ∈ more, kind message

variable {kind : Wire.Message → Prop} {first second third : Pool} {id : ConnectionId}

/-- Queues that have not changed have grown by nothing. -/
theorem grows_of_same (same : second = first) : Grows kind first second :=
  fun _ => ⟨[], by simp [same], by simp⟩

/-- Queues that grow twice by messages of a kind have grown by messages of that kind. -/
theorem Grows.trans (earlier : Grows kind first second) (later : Grows kind second third) :
    Grows kind first third := by
  intro id
  obtain ⟨more, grown, ofKind⟩ := earlier id
  obtain ⟨again, grownAgain, ofKindAgain⟩ := later id
  refine ⟨more ++ again, by rw [grownAgain, grown, List.append_assoc], ?_⟩
  intro message member
  exact (List.mem_append.mp member).elim (ofKind message) (ofKindAgain message)

/-- What has come behind is all that has come. -/
theorem gained_of_append {more : List Wire.Message}
    (grown : second.waiting id = first.waiting id ++ more) : gained id first second = more := by
  simp [gained, grown]

/-- What a queue has gained is of the kind it has grown by. -/
theorem Grows.gained (grows : Grows kind first second) :
    ∀ message ∈ gained id first second, kind message := by
  obtain ⟨more, grown, ofKind⟩ := grows id
  rwa [gained_of_append grown]

end Pool

namespace Registry

variable {registry : Registry} {occurrence : Occurrence}

/-- Whether an action can be taken in any registry that is served, and acknowledges nothing. -/
def Action.IsPlain : Action → Prop
  | .event (.openConnection _) | .event (.remove _) => False
  | .event (.send _ message) => message.isAck = false
  | _ => True

/-- The next number is free. -/
theorem Served.get?_next (served : registry.Served) :
    registry.pool.get? registry.nextConnection = none := by
  cases found : registry.pool.get? registry.nextConnection with
  | none => rfl
  | some connection =>
    have number := Pool.id_of_get? found
    have used : registry.nextConnection ∈ registry.pool.numbers :=
      List.mem_map.mpr ⟨connection, List.mem_of_find?_eq_some found, number⟩
    exact absurd (served.numbered.below _ used) (Nat.lt_irrefl _)

/-- Every occurrence lets the queues grow by what it queues. A connection that is opened has an
empty queue, and one that is there succeeds the one it was. -/
theorem Served.waiting_act (served : registry.Served) (occurrence : Occurrence)
    (id : ConnectionId) :
    ∃ more, (registry.act occurrence).pool.waiting id = registry.pool.waiting id ++ more ∧
      ∀ message ∈ more, Queues id occurrence message := by
  unfold Pool.waiting
  cases found : (registry.act occurrence).pool.get? id with
  | none =>
    cases earlier : registry.pool.get? id with
    | none => exact ⟨[], rfl, by simp⟩
    | some before =>
      obtain ⟨later, foundLater, -⟩ := found_act occurrence earlier
      rw [found] at foundLater
      cases foundLater
  | some later =>
    rcases succeeds_act served.sound.consistent found with
      ⟨before, earlier, succeeds⟩ | ⟨timings, -, rfl, rfl⟩
    · rw [earlier]
      exact succeeds.queued
    · rw [served.get?_next]
      exact ⟨[], rfl, by simp⟩

/-- As long as nobody comes or goes and no positive acknowledge is queued, the registry's queues
grow by other messages only. The answers and the alive checks of activations are such. -/
theorem Served.grows_act (served : registry.Served) (plain : occurrence.action.IsPlain) :
    Pool.Grows (fun message => message.isAck = false) registry.pool
      (registry.act occurrence).pool := by
  intro id
  obtain ⟨more, grown, queued⟩ := served.waiting_act occurrence id
  refine ⟨more, grown, fun message member => ?_⟩
  rcases queued message member with rfl | sends
  · rfl
  · rw [sends] at plain
    exact plain

/-- A message that is sent comes into the queue of its connection if that is open. This is exact
where the lemma above gives only the kind of what is queued. -/
theorem Served.waiting_send (served : registry.Served) (now : Milliseconds)
    (id other : ConnectionId) (message : Wire.Message) :
    (registry.act ⟨now, .event (.send id message)⟩).pool.waiting other =
      registry.pool.waiting other ++
        if other = id ∧ registry.pool.isOpen id = true then [message] else [] := by
  have changed : (registry.act ⟨now, .event (.send id message)⟩).pool.get? other =
      (registry.pool.get? other).map fun connection =>
        if other = id then (connection.send message).value.1 else connection :=
    Pool.get?_change id other _ (Connection.id_next now (.send message)) registry.pool
  unfold Pool.waiting
  rw [changed]
  cases found : registry.pool.get? other with
  | none =>
    by_cases here : other = id
    · subst here
      simp [Pool.isOpen, found]
    · simp [here]
  | some connection =>
    by_cases here : other = id
    · subst here
      rw [Option.map_some, if_pos rfl, Option.elim_some, Connection.send_value]
      have consistent := served.sound.consistent other connection found
      by_cases closed : connection.phase = .closed
      · have silent : connection.sending ≠ true := fun sending =>
          consistent.sending.mp sending closed
        simp [Pool.isOpen, found, Connection.isClosed, closed, silent]
      · have sending := consistent.sending.mpr closed
        have receiving := served.attended found closed
        simp [Pool.isOpen, found, Connection.isClosed, closed, sending, receiving]
    · simp [here]

end Registry

namespace Socket

/-- The socket when it is served: its connection is read and written. -/
def serving (connection : ConnectionId) (socket : Socket) : Socket :=
  { socket with reader := .reading connection, writer := .writing connection }

/-- The socket when it is accepted. -/
def admitted (socket : Socket) : Socket :=
  { socket with reader := .accepted }

end Socket

namespace Gateway

/-- A gateway has come from another one without a word to or from the ECUs, and without a
positive acknowledge. -/
structure Aside (before after : Gateway) : Prop where
  ecus : after.ecus = before.ecus
  responses : after.responses = before.responses
  routing : after.routing = before.routing
  phase : after.phase = before.phase
  config : after.config = before.config
  served : before.registry.Served → after.registry.Served
  grows : before.registry.Served → Pool.Grows (fun message => message.isAck = false)
    before.registry.pool after.registry.pool

variable {gateway middle after : Gateway} {id : SocketId} {connection : ConnectionId}
  {now : Milliseconds}

/-- What concerns neither the registry nor the ECUs stands aside. -/
theorem aside_of_same (ecus : after.ecus = gateway.ecus)
    (responses : after.responses = gateway.responses) (routing : after.routing = gateway.routing)
    (phase : after.phase = gateway.phase) (config : after.config = gateway.config)
    (registry : after.registry = gateway.registry) : gateway.Aside after where
  ecus := ecus
  responses := responses
  routing := routing
  phase := phase
  config := config
  served served := registry ▸ served
  grows _ := Pool.grows_of_same (congrArg Registry.pool registry)

/-- A gateway has come from itself without a word. -/
theorem aside_self : gateway.Aside gateway :=
  aside_of_same rfl rfl rfl rfl rfl rfl

/-- Two stretches without a word to the ECUs make one. -/
theorem Aside.trans (earlier : gateway.Aside middle) (later : middle.Aside after) :
    gateway.Aside after where
  ecus := later.ecus.trans earlier.ecus
  responses := later.responses.trans earlier.responses
  routing := later.routing.trans earlier.routing
  phase := later.phase.trans earlier.phase
  config := later.config.trans earlier.config
  served served := later.served (earlier.served served)
  grows served := (earlier.grows served).trans (later.grows (earlier.served served))

/-- What happens to a socket concerns nothing else. -/
theorem aside_updateSocket (step : Socket → Socket) : gateway.Aside (gateway.updateSocket id step) :=
  aside_of_same rfl rfl rfl rfl rfl rfl

/-- A plain action on the registry concerns nothing else. The table may change by it only in a way
that the numbering of connections allows. -/
theorem aside_act (occurrence : Registry.Occurrence) (plain : occurrence.action.IsPlain) :
    gateway.Aside { gateway with registry := gateway.registry.act occurrence } where
  ecus := rfl
  responses := rfl
  routing := rfl
  phase := rfl
  config := rfl
  served served := by
    refine served.act ?_ ?_
    · intro timings opens
      rw [opens] at plain
      exact plain
    · intro id removes
      rw [removes] at plain
      exact plain
  grows served := served.grows_act plain

/-- Queueing a message that is no positive acknowledge is aside from the traffic with the ECUs. -/
theorem aside_send {message : Wire.Message} (plain : message.isAck = false) :
    gateway.Aside (gateway.send connection message).value :=
  aside_act ⟨0, .event (.send connection message)⟩ plain

/-- A reader that ends closes its connection and takes it from the table. Both are occurrences of
the registry, and the removal finds the connection closed. -/
theorem aside_finishReading (peer : Net.Endpoint) :
    gateway.Aside (gateway.finishReading id peer connection).value := by
  let stopped := { gateway with
    registry := gateway.registry.act ⟨0, .event (.stop connection)⟩ }
  let removed := { stopped with
    registry := stopped.registry.act ⟨0, .event (.remove connection)⟩ }
  have stops : gateway.Aside stopped := aside_act _ trivial
  have removes : stopped.Aside removed := by
    refine ⟨rfl, rfl, rfl, rfl, rfl, ?_, ?_⟩
    · intro served
      refine served.remove 0 fun later found => ?_
      obtain ⟨before, -, rfl⟩ := Option.map_eq_some_iff.mp
        ((Pool.get?_stop connection connection gateway.registry.pool).symm.trans found)
      rw [if_pos rfl]
      exact Connection.phase_stop before
    · intro served id
      obtain ⟨more, grown, queued⟩ :=
        served.waiting_act ⟨0, .event (.remove connection)⟩ id
      refine ⟨more, grown, fun message member => ?_⟩
      rcases queued message member with rfl | sends
      · rfl
      · cases sends
  exact (stops.trans removes).trans (aside_updateSocket _)

/-- Going on to the next frame, or closing the connection, says nothing to an ECU. -/
theorem aside_continueReading (peer : Net.Endpoint) (flow : Flow) :
    gateway.Aside (gateway.continueReading id peer connection flow).value := by
  cases flow with
  | proceed => exact aside_updateSocket _
  | wait request source => exact aside_updateSocket _
  | close => exact aside_finishReading peer

/-- What a gateway comes to that serves a socket: the socket gets a connection of its own. -/
theorem serve_value (now : Milliseconds) (id : SocketId) (socket : Socket) (gateway : Gateway) :
    (gateway.serve now id socket).value =
      { gateway with
        registry := ((gateway.registry.act
          ⟨now, .event (.openConnection gateway.config.timings)⟩).act
            ⟨now, .event (.add gateway.registry.nextConnection)⟩).act
              ⟨now, .event (.start gateway.registry.nextConnection)⟩ }.updateSocket id
        (Socket.serving gateway.registry.nextConnection) := by
  unfold serve requestNodelay
  cases socket.nodelayFault <;> rfl

/-- A connection that begins to be served has asked for nothing yet. It is opened and added in one
stretch, after which it is started and its socket is assigned. -/
theorem aside_serve (socket : Socket) : gateway.Aside (gateway.serve now id socket).value := by
  let number := gateway.registry.nextConnection
  let opened := { gateway with registry := (gateway.registry.act
    ⟨now, .event (.openConnection gateway.config.timings)⟩).act ⟨now, .event (.add number)⟩ }
  let started := { opened with registry := opened.registry.act ⟨now, .event (.start number)⟩ }
  have opens : gateway.Aside opened := by
    refine ⟨rfl, rfl, rfl, rfl, rfl, fun served => served.openConnection now _, ?_⟩
    intro served id
    obtain ⟨more, grown, queued⟩ :=
      served.waiting_act ⟨now, .event (.openConnection gateway.config.timings)⟩ id
    refine ⟨more, grown, fun message member => ?_⟩
    rcases queued message member with rfl | sends
    · rfl
    · cases sends
  have starts : opened.Aside started := aside_act _ trivial
  rw [serve_value]
  exact (opens.trans starts).trans (aside_updateSocket _)

/-- The answer to an activation is no acknowledge of a diagnostic message. -/
theorem aside_answerActivation (source : UInt16) (code : Wire.ActivationCode) :
    gateway.Aside (gateway.answerActivation connection source code).value.1 := by
  unfold answerActivation
  simp only [Logged.value_bind]
  split <;> exact aside_send rfl

/-- A request that has moved on is answered if it is decided. The step is taken first and the answer
looked at afterwards, so a request that is decided at once is answered at once. -/
theorem pursueActivation_value (now : Milliseconds) (connection : ConnectionId)
    (request : RequestId) (source : UInt16) (gateway : Gateway) :
    (gateway.pursueActivation now connection request source).value =
      match (gateway.registry.act ⟨now, .task (.request request)⟩).answer? request with
      | some code => ({ gateway with
          registry := gateway.registry.act ⟨now, .task (.request request)⟩ }.answerActivation
            connection source code).value
      | none => ({ gateway with
          registry := gateway.registry.act ⟨now, .task (.request request)⟩ },
            .wait request source) := by
  unfold pursueActivation
  simp only [Logged.value_bind]
  show (match (gateway.registry.act ⟨now, .task (.request request)⟩).answer? request with
    | some code => { gateway with
        registry := gateway.registry.act ⟨now, .task (.request request)⟩ }.answerActivation
          connection source code
    | none => pure _).value = _
  cases (gateway.registry.act ⟨now, .task (.request request)⟩).answer? request <;> rfl

/-- The steps of an activation stay within the registry. -/
theorem aside_pursueActivation (request : RequestId) (source : UInt16) :
    gateway.Aside (gateway.pursueActivation now connection request source).value.1 := by
  have advances : gateway.Aside
      { gateway with registry := gateway.registry.act ⟨now, .task (.request request)⟩ } :=
    aside_act _ trivial
  rw [pursueActivation_value]
  split
  · exact advances.trans (aside_answerActivation source _)
  · exact advances

/-- An activation, from the request to the answer, has nothing to do with the ECUs. -/
theorem aside_onActivation (body : Wire.ActivationRequest) :
    gateway.Aside (gateway.onActivation now connection body).value.1 := by
  unfold onActivation
  split
  · have asks : gateway.Aside
        { gateway with registry := (gateway.registry.request connection body.sourceAddress).1 } :=
      aside_act ⟨now, .event (.request connection body.sourceAddress)⟩ trivial
    exact asks.trans (aside_pursueActivation _ _)
  · exact aside_answerActivation _ _

/-- A fault in a frame is answered with a negative acknowledge of the header. -/
theorem aside_onInvalidFrame (fault : Wire.Fault) :
    gateway.Aside (gateway.onInvalidFrame connection fault).value.1 :=
  aside_send rfl

/-- Restarting the timer of a connection touches no queue. -/
theorem aside_dataReceived :
    gateway.Aside { gateway with registry := gateway.registry.dataReceived now connection } :=
  aside_act ⟨now, .event (.dataReceived connection)⟩ trivial

/-- The requests that a message brings to the ECUs, each with the number of its ECU. -/
def handed (connection : ConnectionId) (message : Wire.Message) (gateway : Gateway) :
    List (Nat × Ecu.Event) :=
  match message with
  | .diagnosticMessage body =>
    if gateway.registry.pool.sourceAddress connection = some body.sourceAddress then
      (gateway.targets body.targetAddress).map fun entry =>
        (entry.1, .put ⟨body.sourceAddress, body.targetAddress, entry.2, body.userData⟩)
    else []
  | _ => []

/-- A message that brings no request is answered without the ECUs. A diagnostic message brings none
if it is refused, under a wrong source address or for an unknown target. -/
theorem aside_onMessage {message : Wire.Message} (none : gateway.handed connection message = []) :
    gateway.Aside (gateway.onMessage now connection message).value.1 := by
  cases message with
  | routingActivationRequest body => exact aside_onActivation body
  | aliveCheckResponse source =>
    exact aside_act ⟨now, .event (.aliveResponse connection source)⟩ trivial
  | diagnosticMessage body =>
    simp only [onMessage, onDiagnostic, Logged.value_bind]
    by_cases registered : gateway.registry.pool.sourceAddress connection = some body.sourceAddress
    · simp only [handed, if_pos registered, List.map_eq_nil_iff] at none
      simp only [if_pos registered, none]
      exact aside_send rfl
    · simp only [if_neg registered]
      exact aside_send rfl
  | _ => exact aside_self

end Gateway

end DiagnosticGateway
