import DiagnosticGateway.Proofs.Gateway.Balance
import DiagnosticGateway.Proofs.Gateway.Scenes
import DiagnosticGateway.Proofs.Registry.Posting

/-!
# What a gateway puts into the queues

Whatever a gateway does about a message changes neither its sockets nor what waits to be accepted,
and what it logs accounts for what comes into the queues of its connections. The same is true of
every other occurrence, but for the writers, which take out of the queues.
-/

namespace DiagnosticGateway

open Log

namespace Ecu

variable {ecu : Ecu}

/-- A response of an ECU goes to its listeners, and not into the queue of a connection. -/
@[simp] theorem posts_emit (response : Message) (ecu : Ecu) :
    posts (ecu.emit response).events = [] := rfl

/-- Whatever an ECU answers a request, by its hook, by its lookup table or by a rejection, nothing
is queued on a connection by it. -/
@[simp] theorem posts_answerTo (request : Message) (ecu : Ecu) :
    posts (ecu.answerTo request).events = [] := by
  have looks : posts (ecu.lookupOrReject request).events = [] := by
    unfold lookupOrReject
    split <;> rfl
  unfold answerTo
  split
  · simpa using looks
  · split
    · rfl
    · rfl
    · simpa using looks

/-- An ECU queues nothing on a connection. It sends its response to its listeners, and the gateway
that is among them routes it later. -/
@[simp] theorem posts_apply (event : Event) (ecu : Ecu) : posts (ecu.apply event).events = [] := by
  cases event with
  | start =>
    simp only [apply, start]
    split <;> rfl
  | stop =>
    simp only [apply, stop]
    split <;> rfl
  | release =>
    simp only [apply, release]
    split <;> rfl
  | put request =>
    simp only [apply, put]
    split
    · rfl
    · split
      · simp only [Logged.events_bind]
        split <;> rfl
      · split <;> rfl
  | work =>
    simp only [apply, work]
    split
    · simp only [process, Logged.events_bind, posts_append, posts_answerTo]
      rfl
    · rfl
  | _ => rfl

end Ecu

namespace Gateway

/-- A gateway has come from another one without anything happening to its sockets, and the events
tell what has come into the queues. -/
structure Speaks (before : Gateway) (events : List Log.Event) (after : Gateway) : Prop where
  identity : after.identity = before.identity
  sockets : after.sockets = before.sockets
  arrivals : after.arrivals = before.arrivals
  accounts : before.registry.pool.Accounts events after.registry.pool

variable {gateway before middle after : Gateway} {connection : ConnectionId} {now : Milliseconds}
  {earlier later : List Log.Event} {id : SocketId}

/-- A gateway that is the same in its connections and sockets has nothing to be told of. -/
theorem speaks_of_same (silent : posts earlier = []) (identity : after.identity = before.identity)
    (sockets : after.sockets = before.sockets) (arrivals : after.arrivals = before.arrivals)
    (pool : after.registry.pool = before.registry.pool) : before.Speaks earlier after :=
  ⟨identity, sockets, arrivals, Pool.accounts_of_same silent pool⟩

/-- Logging does not change anything. -/
theorem speaks_log (silent : posts earlier = []) : gateway.Speaks earlier gateway :=
  speaks_of_same silent rfl rfl rfl rfl

/-- Two steps that are told truly are told truly one after the other. -/
theorem Speaks.trans (first : before.Speaks earlier middle) (second : middle.Speaks later after) :
    before.Speaks (earlier ++ later) after :=
  ⟨second.identity.trans first.identity, second.sockets.trans first.sockets,
    second.arrivals.trans first.arrivals, first.accounts.trans second.accounts⟩

/-- The registry may change in any way that is accounted for. -/
theorem speaks_registry {registry : Registry}
    (accounts : gateway.registry.pool.Accounts earlier registry.pool) :
    gateway.Speaks earlier { gateway with registry := registry } :=
  ⟨rfl, rfl, rfl, accounts⟩

/-- A message that is sent is told of. -/
theorem speaks_send (message : Wire.Message) :
    gateway.Speaks (gateway.send connection message).events
      (gateway.send connection message).value := by
  have sends := Pool.accounts_send connection message gateway.registry.pool
  refine speaks_registry (sends.congr ?_)
  simp [send, Registry.send]

/-- An event of an ECU has nothing to be told of, since its responses wait to be routed first. -/
theorem speaks_changeEcu (index : Nat) (event : Ecu.Event) :
    gateway.Speaks (gateway.changeEcu index event).events
      (gateway.changeEcu index event).value := by
  unfold changeEcu
  split
  · exact speaks_log rfl
  · exact speaks_of_same (by simp) rfl rfl rfl rfl

/-- The same of an event of several ECUs, by induction on the ECUs. -/
theorem speaks_changeEcus (event : Ecu.Event) (numbers : List Nat) (gateway : Gateway) :
    gateway.Speaks (gateway.changeEcus event numbers).events
      (gateway.changeEcus event numbers).value := by
  induction numbers generalizing gateway with
  | nil => exact speaks_log rfl
  | cons number rest inductionHypothesis =>
    exact (speaks_changeEcu number event).trans (inductionHypothesis _)

/-- To start the ECUs has nothing to be told of. -/
theorem speaks_startEcus (numbers : List Nat) (gateway : Gateway) :
    gateway.Speaks (gateway.startEcus numbers).events (gateway.startEcus numbers).value := by
  induction numbers generalizing gateway with
  | nil => exact speaks_log rfl
  | cons number rest inductionHypothesis =>
    exact (speaks_changeEcu number _).trans
      ((speaks_changeEcu number _).trans (inductionHypothesis _))

/-- A request that is forwarded is put to ECUs. Their answers come later, so there is nothing to be
told of yet. -/
theorem speaks_forward (body : Wire.Diagnostic) (targets : List (Nat × Addressing))
    (gateway : Gateway) :
    gateway.Speaks (gateway.forward body targets).events (gateway.forward body targets).value := by
  induction targets generalizing gateway with
  | nil => exact speaks_log rfl
  | cons entry rest inductionHypothesis =>
    unfold forward
    split
    · exact inductionHypothesis gateway
    · exact (speaks_log rfl).trans ((speaks_changeEcu entry.1 _).trans (inductionHypothesis _))

/-- Handing requests to ECUs queues nothing. The requests are put one after the other, and each put
is an event of its ECU. -/
@[simp] theorem posts_forward (body : Wire.Diagnostic) (targets : List (Nat × Addressing))
    (gateway : Gateway) : posts (gateway.forward body targets).events = [] := by
  have changes : ∀ (index : Nat) (event : Ecu.Event) (gateway : Gateway),
      posts (gateway.changeEcu index event).events = [] := by
    intro index event gateway
    unfold changeEcu
    split
    · rfl
    · simp
  induction targets generalizing gateway with
  | nil => rfl
  | cons entry rest inductionHypothesis =>
    unfold forward
    split
    · exact inductionHypothesis gateway
    · simp [changes, inductionHypothesis, Log.Event.post?]

/-! ## Messages -/

/-- The answer to a routing activation request is told of. -/
theorem speaks_answerActivation (source : UInt16) (code : Wire.ActivationCode) :
    gateway.Speaks (gateway.answerActivation connection source code).events
      (gateway.answerActivation connection source code).value.1 := by
  unfold answerActivation
  simp only [Logged.value_bind, Logged.events_bind]
  refine (speaks_send _).trans ?_
  split
  · exact speaks_log rfl
  · exact speaks_log rfl

/-- A routing activation request that is moved on is told of: the requests for signs of life that it
sends, and the answer if it is decided. -/
theorem speaks_pursueActivation (request : RequestId) (source : UInt16) :
    gateway.Speaks (gateway.pursueActivation now connection request source).events
      (gateway.pursueActivation now connection request source).value.1 := by
  have advances := speaks_registry (Registry.accounts_advance now request gateway.registry)
  unfold pursueActivation
  simp only [Logged.value_bind, Logged.events_bind]
  refine advances.trans ?_
  split
  · exact speaks_answerActivation source _
  · exact speaks_log rfl

/-- A routing activation request is told of from its arrival: its refusal for an unsupported type,
or its first steps in the registry. -/
theorem speaks_onActivation (body : Wire.ActivationRequest) :
    gateway.Speaks (gateway.onActivation now connection body).events
      (gateway.onActivation now connection body).value.1 := by
  have asks : gateway.Speaks []
      { gateway with registry := (gateway.registry.request connection body.sourceAddress).1 } :=
    speaks_of_same rfl rfl rfl rfl rfl
  unfold onActivation
  split
  · exact asks.trans (speaks_pursueActivation _ _)
  · exact (speaks_log rfl).trans (speaks_answerActivation _ _)

/-- A diagnostic message is told of by its acknowledgement or its refusal, whether it is forwarded
then or not. -/
theorem speaks_onDiagnostic (body : Wire.Diagnostic) :
    gateway.Speaks (gateway.onDiagnostic connection body).events
      (gateway.onDiagnostic connection body).value.1 := by
  unfold onDiagnostic
  simp only [Logged.value_bind, Logged.events_bind]
  refine (speaks_log rfl).trans ?_
  split
  · split
    · exact (speaks_log rfl).trans ((speaks_send _).trans (speaks_log rfl))
    · exact (speaks_send _).trans ((speaks_forward body _ _).trans (speaks_log rfl))
  · exact (speaks_log rfl).trans ((speaks_send _).trans (speaks_log rfl))

/-- What is done about a message is told of, whatever its type. Most types are ignored. -/
theorem speaks_onMessage (message : Wire.Message) :
    gateway.Speaks (gateway.onMessage now connection message).events
      (gateway.onMessage now connection message).value.1 := by
  cases message with
  | routingActivationRequest body => exact speaks_onActivation body
  | diagnosticMessage body => exact speaks_onDiagnostic body
  | aliveCheckResponse source =>
    refine speaks_registry (Pool.accounts_of_same ?_ rfl)
    simp [onMessage, Registry.aliveResponse]
  | _ => exact speaks_log rfl

/-- The refusal of a frame is told of. -/
theorem speaks_onInvalidFrame (fault : Wire.Fault) :
    gateway.Speaks (gateway.onInvalidFrame connection fault).events
      (gateway.onInvalidFrame connection fault).value.1 :=
  (speaks_log rfl).trans ((speaks_send _).trans (speaks_log rfl))

/-- Data that arrives has nothing to be told of. -/
theorem speaks_dataReceived :
    gateway.Speaks [] { gateway with registry := gateway.registry.dataReceived now connection } :=
  speaks_registry (Pool.accounts_update fun connection => connection.accounts_dataReceived now)

/-- What is done about a frame is told of, from the renewal of the timer to the answer. -/
theorem speaks_onFrame (content : Except Wire.Fault Wire.Message) :
    gateway.Speaks (gateway.onFrame now connection content).events
      (gateway.onFrame now connection content).value.1 := by
  cases content with
  | ok message => exact speaks_dataReceived.trans (speaks_onMessage message)
  | error fault => exact speaks_dataReceived.trans (speaks_onInvalidFrame fault)

/-- A response of an ECU is told of when it is queued for its tester. One without a tester is
dropped, and told of by no message. -/
theorem speaks_onResponse (response : Ecu.Message) :
    gateway.Speaks (gateway.onResponse response).events
      (gateway.onResponse response).value := by
  unfold onResponse
  split
  · exact speaks_log rfl
  · exact (speaks_log rfl).trans (speaks_send _)

/-! ## Tasks -/

/-- A gateway has come from another one, and the events tell what has come into the queues. -/
structure Tells (before : Gateway) (events : List Log.Event) (after : Gateway) : Prop where
  identity : after.identity = before.identity
  accounts : before.registry.pool.Accounts events after.registry.pool

/-- What is said about the sockets can be left out. -/
theorem Speaks.tells (speaks : before.Speaks earlier after) : before.Tells earlier after :=
  ⟨speaks.identity, speaks.accounts⟩

/-- A gateway with the same connections has nothing to be told of, whatever has happened to its
sockets. -/
theorem tells_of_same (silent : posts earlier = []) (identity : after.identity = before.identity)
    (pool : after.registry.pool = before.registry.pool) : before.Tells earlier after :=
  ⟨identity, Pool.accounts_of_same silent pool⟩

/-- Two steps whose queues are told truly are told truly one after the other. -/
theorem Tells.trans (first : before.Tells earlier middle) (second : middle.Tells later after) :
    before.Tells (earlier ++ later) after :=
  ⟨second.identity.trans first.identity, first.accounts.trans second.accounts⟩

/-- A change of a socket comes into no queue. -/
theorem tells_updateSocket (silent : posts earlier = []) (step : Socket → Socket) :
    gateway.Tells earlier (gateway.updateSocket id step) :=
  tells_of_same silent rfl rfl

/-- Taking a connection from the table leaves the connection as it is. -/
theorem remove_silent (connection : ConnectionId) (registry : Registry) :
    posts (registry.remove connection).events = [] ∧
      (registry.remove connection).value.pool = registry.pool := by
  unfold Registry.remove
  split <;> exact ⟨rfl, rfl⟩

/-- When a reader ends, its connection is stopped and leaves the table, and nothing is queued. What
is in the queue by then is left to the writer. -/
theorem tells_finishReading (peer : Net.Endpoint) :
    gateway.Tells (gateway.finishReading id peer connection).events
      (gateway.finishReading id peer connection).value := by
  let stopped := gateway.registry.stop connection
  obtain ⟨silent, same⟩ := remove_silent connection stopped.value
  have stops : gateway.registry.pool.Accounts stopped.events stopped.value.pool := by
    refine Pool.accounts_stop.congr ?_
    simp [stopped, Registry.stop, Registry.changeConnection, Pool.stop]
  have removes : stopped.value.pool.Accounts
      ((stopped.value.remove connection).events ++ [.tcpFinished connection peer])
      (stopped.value.remove connection).value.pool :=
    Pool.accounts_of_same (by rw [posts_append, silent]; rfl) same
  exact ⟨rfl, stops.trans removes⟩

/-- A reader that goes on, waits or ends as a message demands queues nothing by that. -/
theorem tells_continueReading (peer : Net.Endpoint) (flow : Flow) :
    gateway.Tells (gateway.continueReading id peer connection flow).events
      (gateway.continueReading id peer connection flow).value := by
  cases flow with
  | proceed => exact tells_updateSocket rfl _
  | wait request source => exact tells_updateSocket rfl _
  | close => exact tells_finishReading peer

/-- Serving a socket queues nothing. The connection is new, and opening, adding and starting
it send nothing. -/
theorem posts_serve (socket : Socket) : posts (gateway.serve now id socket).events = [] := by
  have asks : posts (requestNodelay socket).events = [] := by
    unfold requestNodelay
    split <;> rfl
  let number := gateway.registry.nextConnection
  let opened := gateway.registry.pool.insert (.new number gateway.config.timings)
  have starts : posts (opened.change number (Connection.start now)).events = [] :=
    Pool.posts_change fun connection => connection.posts_start now
  unfold serve
  simp only [Logged.events_bind, posts_append, asks]
  simpa [Registry.add, Registry.start, Registry.changeConnection, Registry.openConnection,
    Log.Event.post?] using starts

/-- When a socket is served, its connection begins with an empty queue, so what was told before
stays true. -/
theorem tells_serve (socket : Socket) :
    gateway.Tells (gateway.serve now id socket).events (gateway.serve now id socket).value := by
  let number := gateway.registry.nextConnection
  let opened := gateway.registry.pool.insert (.new number gateway.config.timings)
  have opens : gateway.registry.pool.Accounts [] opened := Pool.accounts_insert number _
  have starts : opened.Accounts _ (opened.change number (Connection.start now)).value :=
    Pool.accounts_change fun connection => connection.accounts_start now
  refine ⟨?_, ?_⟩
  · rw [serve_value]
    rfl
  · rw [serve_value]
    refine (opens.trans starts).congr ?_
    rw [posts_serve, List.nil_append]
    exact (Pool.posts_change fun connection => connection.posts_start now).symm

/-- A step of a reader tells what it queues for the frame that it takes, or that the stream has
ended. -/
theorem tells_readNext (socket : Socket) :
    gateway.Tells (gateway.readNext now id socket connection).events
      (gateway.readNext now id socket connection).value := by
  unfold readNext
  split
  · exact (speaks_log rfl).tells
  · rename_i ending _
    refine Tells.trans ?_ (tells_finishReading socket.peer)
    cases ending <;> exact (speaks_log rfl).tells
  · rename_i frame _
    let taken := gateway.updateSocket id fun socket => { socket with incoming := frame.rest }
    have takes : gateway.Tells [] taken := tells_updateSocket rfl _
    have answers : taken.Tells _ (taken.onFrame now connection frame.content).value.1 :=
      (speaks_onFrame frame.content).tells
    exact takes.trans (answers.trans (tells_continueReading socket.peer _))

/-- Every step of a reader tells truly, be its socket accepted, read or waiting for a decision. The
cases are the phases of a reader, and those in which it rests. -/
theorem tells_read (id : SocketId) :
    gateway.Tells (gateway.read now id).events (gateway.read now id).value := by
  have rests : gateway.Tells [] gateway := (speaks_log rfl).tells
  unfold read
  split
  · exact rests
  · rename_i socket _
    split
    · exact tells_serve socket
    · exact tells_readNext socket
    · exact (speaks_pursueActivation _ _).tells.trans (tells_continueReading socket.peer _)
    · exact rests

/-- A reader that leaves queues nothing. -/
theorem tells_leave (id : SocketId) :
    gateway.Tells (gateway.leave id).events (gateway.leave id).value := by
  have rests : gateway.Tells [] gateway := (speaks_log rfl).tells
  unfold leave
  split
  · exact rests
  · split
    · exact tells_finishReading _
    · exact rests

/-- A socket is accepted or refused before it has a connection, so nothing is queued. The connection
is opened by the task that serves the socket. -/
theorem tells_accept : gateway.Tells gateway.accept.events gateway.accept.value := by
  unfold accept
  split
  · exact (speaks_log rfl).tells
  · exact tells_of_same rfl rfl rfl
  · dsimp only
    split
    · exact tells_of_same rfl rfl rfl
    · split <;> exact tells_of_same rfl rfl rfl

/-- To route a response is to queue it or to drop it, and the first is told of. -/
theorem tells_route : gateway.Tells gateway.route.events gateway.route.value := by
  unfold route
  split
  · rename_i response rest _
    have takes : gateway.Tells [] { gateway with responses := rest } := tells_of_same rfl rfl rfl
    exact takes.trans (speaks_onResponse response).tells
  · exact tells_of_same rfl rfl rfl

/-- A gateway that begins to run starts its ECUs, and nothing is queued yet. -/
theorem tells_run (sockets : Sockets) :
    gateway.Tells (gateway.run now sockets).events (gateway.run now sockets).value := by
  have begins : gateway.Tells [] { gateway with phase := .running sockets, routing := true } :=
    tells_of_same rfl rfl rfl
  exact begins.trans ((speaks_startEcus _ _).tells.trans (tells_of_same rfl rfl rfl))

/-- A stop closes every connection without a message. The ECUs are stopped and their listeners
dropped afterwards, which concerns no connection. -/
theorem tells_halt : gateway.Tells gateway.halt.events gateway.halt.value := by
  have stops : gateway.Tells gateway.registry.stopAll.events
      { gateway with phase := .stopped, registry := gateway.registry.stopAll.value } := by
    refine ⟨rfl, (Pool.accounts_stopAll gateway.registry.table).congr ?_⟩
    simp [Registry.stopAll]
  refine stops.trans ((speaks_changeEcus .stop _ _).tells.trans ?_)
  have ends : ∀ stopped : Gateway, stopped.Tells [.gatewayStopped stopped.config.name]
      stopped.endTasks := fun _ => tells_of_same rfl rfl rfl
  exact (ends _).trans (speaks_changeEcus _ _ _).tells

end Gateway

/-! ## Occurrences -/

namespace Station

variable {station : Station} {now : Milliseconds}

/-- To open the sockets of a gateway calls the network only. Binding, joining and releasing are
logged as calls of the system, which are about no connection. -/
theorem posts_opened (config : GatewayConfig) (network : Net.Network) :
    posts (Sockets.opened config network).events = [] := by
  have holds : ∀ {result : Type} (protocol : Net.Protocol) (endpoint : Net.Endpoint)
      (calls : Logged (Called result)), posts calls.events = [] →
        posts (Sockets.holding protocol endpoint calls).events = [] := by
    intro result protocol endpoint calls silent
    unfold Sockets.holding
    simp only [Logged.events_bind, posts_append, silent]
    split <;> rfl
  have joins : ∀ network, posts (Sockets.join config network).events = [] := by
    intro network
    unfold Sockets.join
    split
    · rfl
    · split <;> rfl
  have prepares : ∀ tcp udp network, posts (Sockets.prepare config tcp udp network).events = [] := by
    intro tcp udp network
    unfold Sockets.prepare
    split
    · rfl
    · simp only [Logged.events_bind, posts_append, joins]
      split
      · rfl
      · split
        · rfl
        · split <;> rfl
  unfold Sockets.opened
  split
  · rfl
  · refine holds _ _ _ ?_
    split
    · rfl
    · exact holds _ _ _ (prepares _ _ _)

/-- A start tells truly whether it succeeds or not, for it queues nothing. Opening sockets and
starting ECUs say nothing to a connection. -/
theorem tells_start (now : Milliseconds) (station : Station) :
    station.gateway.Tells (station.start now).events (station.start now).value.1.gateway := by
  unfold start
  split
  · simp only [Logged.value_bind, Logged.events_bind]
    have opens : station.gateway.Tells _ station.gateway :=
      Gateway.tells_of_same (posts_opened station.gateway.config station.network) rfl rfl
    refine opens.trans ?_
    split
    · exact (Gateway.speaks_log rfl).tells
    · exact (Gateway.tells_run _).trans (Gateway.speaks_log rfl).tells
  · exact (Gateway.speaks_log rfl).tells

/-- A stop tells truly, for it queues nothing. -/
theorem tells_stop (station : Station) :
    station.gateway.Tells station.stop.events station.stop.value.gateway := by
  unfold stop
  split
  · exact Gateway.tells_halt.trans (Gateway.speaks_log rfl).tells
  · exact (Gateway.speaks_log rfl).tells

/-- A datagram is handed to the network and queued on no connection. -/
theorem posts_transmit (message : Wire.Message) (target : Net.Endpoint) (station : Station) :
    posts (station.transmit message target).events = [] := by
  unfold transmit
  split
  · rfl
  · split <;> rfl

/-- The answer to a datagram is a datagram, and queued on no connection. This holds for the
identification and for the two status requests alike. -/
theorem posts_answerDatagram (peer : Net.Endpoint) (bytes : Bytes) (gateway : Gateway) :
    posts (gateway.answerDatagram peer bytes).events = [] := by
  have answers : ∀ message, posts (gateway.answerMessage message).events = [] := by
    intro message
    unfold Gateway.answerMessage
    split
    · rfl
    · split <;> rfl
    · split <;> rfl
    · rfl
    · rfl
    · rfl
  unfold Gateway.answerDatagram
  simp only [Logged.events_bind, posts_append]
  split
  · rw [answers]
    rfl
  · rfl

/-- A datagram puts nothing into a queue. There is none for it to go into: it has an endpoint for
its sender, and the answer goes back there. -/
theorem tells_receive (station : Station) :
    station.gateway.Tells (station.receive now).events (station.receive now).value.gateway := by
  unfold receive
  split
  · exact (Gateway.speaks_log rfl).tells
  · exact Gateway.tells_of_same rfl rfl rfl
  · simp only [Logged.value_bind, Logged.events_bind]
    split
    · refine Gateway.tells_of_same ?_ ?_ ?_
      · rw [posts_append, posts_answerDatagram, posts_transmit]
        rfl
      · rw [Gateway.gateway_transmit]
      · rw [Gateway.gateway_transmit]
    · refine Gateway.tells_of_same ?_ rfl rfl
      rw [posts_append, posts_answerDatagram]
      rfl

/-- An announcement is a datagram, so nothing is queued. -/
theorem tells_announce (station : Station) :
    station.gateway.Tells (station.announce now).events (station.announce now).value.gateway := by
  unfold announce
  split
  · exact (Gateway.speaks_log rfl).tells
  · simp only [Logged.value_bind, Logged.events_bind, Logged.value_pure, Gateway.gateway_transmit]
    refine Gateway.tells_of_same ?_ rfl rfl
    simp [posts_transmit, Log.Event.post?]

/-- What is logged when the gateway alone takes a step. -/
theorem tells_onGateway {step : Gateway → Logged Gateway}
    (tells : station.gateway.Tells (step station.gateway).events (step station.gateway).value) :
    station.gateway.Tells (station.onGateway step).events (station.onGateway step).value.gateway :=
  tells.trans (Gateway.speaks_log rfl).tells

/-- An action of a writer. -/
def Action.writes : Action → Bool
  | .task (.write _) => true
  | _ => false

/-- Every occurrence but the step of a writer tells what comes into the queues. A writer takes
messages out of a queue, which the events about it do not tell; all others only add, and what they
add is logged. -/
theorem tells_act (occurrence : Occurrence) (reads : occurrence.action.writes = false)
    (station : Station) :
    station.gateway.Tells (station.logged occurrence).events (station.act occurrence).gateway := by
  obtain ⟨moment, action⟩ := occurrence
  cases action with
  | event event =>
    cases event with
    | start =>
      have starts := tells_start moment station
      exact ⟨starts.identity, starts.accounts.congr (by simp [logged, apply])⟩
    | stop => exact tells_stop station
    | ecu index event => exact tells_onGateway (Gateway.speaks_changeEcu index event).tells
    | connect peer fault =>
      refine tells_onGateway ?_
      unfold Gateway.connect
      split <;> exact Gateway.tells_of_same rfl rfl rfl
    | acceptFault fault =>
      refine tells_onGateway ?_
      unfold Gateway.failAccepting
      split <;> exact Gateway.tells_of_same rfl rfl rfl
    | receipt receipt =>
      refine tells_onGateway ?_
      unfold Gateway.takeReceipt
      split <;> exact Gateway.tells_of_same rfl rfl rfl
    | _ => exact tells_onGateway (Gateway.tells_of_same rfl rfl rfl)
  | task task =>
    cases task with
    | timer connection =>
      refine tells_onGateway (Gateway.speaks_registry ?_).tells
      refine Pool.accounts_expire.congr ?_
      simp [Gateway.expire, Registry.expire]
    | accept => exact tells_onGateway Gateway.tells_accept
    | read id => exact tells_onGateway (Gateway.tells_read id)
    | leave id => exact tells_onGateway (Gateway.tells_leave id)
    | write id => cases reads
    | receive => exact tells_receive station
    | announce => exact tells_announce station
    | route => exact tells_onGateway Gateway.tells_route
    | work index => exact tells_onGateway (Gateway.speaks_changeEcu index .work).tells

/-! ## True accounts -/

/-- Whatever can happen leaves a registry that is served in order. It is here that the tasks of the
gateway are seen to use the registry as they should: a connection is added when it is opened, and
removed after its close. -/
theorem served_act (served : station.gateway.registry.Served) {occurrence : Occurrence}
    (able : station.CanHappen occurrence) : (station.act occurrence).gateway.registry.Served := by
  obtain ⟨moment, action⟩ := occurrence
  cases action with
  | event event =>
    cases event with
    | start =>
      show (station.start moment).value.1.gateway.registry.Served
      rcases Gateway.start_cases moment station with same | ⟨-, sockets, starts⟩
      · rw [same]
        exact served
      · rw [starts, Gateway.run_value]
        dsimp only
        rw [Gateway.undergo_value]
        exact served
    | stop =>
      show station.stop.value.gateway.registry.Served
      rcases Gateway.stop_cases station with same | halts
      · rw [same]
        exact served
      · have stops : (station.gateway.registry.act ⟨moment, .event .stopAll⟩).Served :=
          served.act (by simp) (by simp)
        rw [halts, (Gateway.halt_value station.gateway).2.1]
        exact stops
    | ecu index event =>
      show (station.gateway.changeEcu index event).value.registry.Served
      rw [Gateway.changeEcu_value]
      exact served
    | _ => exact (Gateway.proceeds_act served able (by simp) (by simp) (by simp) (by simp)).served
  | task task =>
    cases task with
    | route =>
      show station.gateway.route.value.registry.Served
      cases waits : station.gateway.responses with
      | nil =>
        simp only [Gateway.route, waits]
        exact served
      | cons response rest => exact (Gateway.proceeds_route served waits).served
    | _ => exact (Gateway.proceeds_act served able (by simp) (by simp) (by simp) (by simp)).served

/-- The registry of a gateway is in order at every moment. -/
theorem Possible.served {history : History} (possible : station.Possible history)
    (served : station.gateway.registry.Served) :
    (station.replay history).gateway.registry.Served :=
  possible.keeps served fun _ _ served able => served_act served able

end Station

/-- In a registry that is served, every connection that sends is read. -/
theorem Registry.Served.attended_pool {registry : Registry} (served : registry.Served) :
    registry.pool.Attended := fun id connection found sends =>
  served.attended found ((served.sound.consistent id connection found).sending.mp sends)

end DiagnosticGateway
