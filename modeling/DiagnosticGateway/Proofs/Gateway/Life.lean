import DiagnosticGateway.Proofs.Gateway.Attendance

/-!
# What a gateway owes its ECUs

Every occurrence at a station is a step between start and stop, or the start, or the stop. Before
the start nothing reaches the ECUs. While the gateway runs, the acknowledges that are queued and
the requests that wait balance the responses that are heard, and the responses are routed in the
order in which they are heard.
-/

namespace DiagnosticGateway

namespace Station

/-- Nobody else starts or stops an ECU of the gateway or hands it a request. -/
def Action.IsConfined : Action → Prop
  | .event (.ecu _ change) => change.IsForeign Gateway.listener
  | _ => True

/-- How many of the responses that wait an action takes. -/
def Action.taken : Action → Nat
  | .task .route => 1
  | _ => 0

end Station

namespace Gateway

variable {gateway : Gateway} {now : Milliseconds}

/-- Whether a task can take a step. -/
def Able (now : Milliseconds) (gateway : Gateway) : Station.Task → Prop
  | .timer connection => connection ∈ gateway.registry.pool.expired now
  | .accept => gateway.canAccept = true
  | .read id => ∃ socket, gateway.sockets[id]? = some socket ∧ gateway.canRead now socket = true
  | .leave id => ∃ socket, gateway.sockets[id]? = some socket ∧ gateway.canLeave socket = true
  | .write id => ∃ socket, gateway.sockets[id]? = some socket ∧ gateway.canWrite socket = true
  | .receive => gateway.canReceive now = true
  | .announce => gateway.canAnnounce now = true
  | .route => gateway.canRoute = true
  | .work index => ∃ ecu, gateway.ecus[index]? = some ecu ∧ ecu.canWork = true

/-- The sockets of a kind are those that are there and of that kind. -/
theorem mem_socketsWhere {holds : Socket → Bool} {id : SocketId} :
    id ∈ gateway.socketsWhere holds ↔
      ∃ socket, gateway.sockets[id]? = some socket ∧ holds socket = true := by
  simp [socketsWhere, List.mem_zipIdx_iff_getElem?]

/-- The ECUs that work are those that are there and can. -/
theorem mem_workers {index : Nat} :
    index ∈ gateway.workers ↔ ∃ ecu, gateway.ecus[index]? = some ecu ∧ ecu.canWork = true := by
  simp [workers, List.mem_zipIdx_iff_getElem?]

/-- The tasks that are listed are those that can take a step. -/
theorem mem_enabled {task : Station.Task} : task ∈ gateway.enabled now ↔ gateway.Able now task := by
  cases task <;> simp [enabled, Able, mem_socketsWhere, mem_workers]

/-- When nothing is left to be done, no task can take a step. -/
theorem not_able (quiescent : gateway.enabled now = []) (task : Station.Task) :
    ¬ gateway.Able now task := by
  rw [← mem_enabled, quiescent]
  exact List.not_mem_nil

/-- The responses that an action brings the gateway, each with the number of the ECU that sent it.
A gateway hears its ECUs while it routes their responses. -/
def heardBy (action : Station.Action) (gateway : Gateway) : List (Nat × Ecu.Message) :=
  if gateway.routing then gateway.saidBy (gateway.activity action) else []

/-! ## The kinds of occurrences -/

/-- A failure to start leaves the gateway as it is. One that succeeds runs it on the sockets that
were opened. -/
theorem start_cases (now : Milliseconds) (station : Station) :
    (station.start now).value.1.gateway = station.gateway ∨
      station.gateway.phase = .created ∧
        ∃ sockets, (station.start now).value.1.gateway =
          (station.gateway.run now sockets).value := by
  unfold Station.start
  cases phase : station.gateway.phase with
  | created =>
    simp only [Logged.value_bind]
    split
    · exact Or.inl rfl
    · rename_i sockets network _
      exact Or.inr ⟨trivial, sockets, rfl⟩
  | _ => exact Or.inl rfl

/-- A station that is stopped halts its gateway, or the gateway was not running. -/
theorem stop_cases (station : Station) :
    station.stop.value.gateway = station.gateway ∨
      station.stop.value.gateway = station.gateway.halt.value := by
  unfold Station.stop
  split
  · exact Or.inr rfl
  · exact Or.inl rfl

/-- A datagram that is sent is the network's matter. -/
theorem gateway_transmit (message : Wire.Message) (target : Net.Endpoint) (station : Station) :
    (station.transmit message target).value.gateway = station.gateway := by
  unfold Station.transmit
  split
  · rfl
  · split <;> rfl

/-- What arrives by datagram is answered without the registry and the ECUs. The receipt is taken
from the queue, and the answer goes to the network. -/
theorem aside_receive (now : Milliseconds) (station : Station) :
    station.gateway.Aside (station.receive now).value.gateway := by
  unfold Station.receive
  split
  · exact aside_self
  · exact aside_of_same rfl rfl rfl rfl rfl rfl
  · simp only [Logged.value_bind]
    split
    · rw [gateway_transmit]
      exact aside_of_same rfl rfl rfl rfl rfl rfl
    · exact aside_of_same rfl rfl rfl rfl rfl rfl

/-- An announcement says nothing to a tester or an ECU. -/
theorem aside_announce (now : Milliseconds) (station : Station) :
    station.gateway.Aside (station.announce now).value.gateway := by
  unfold Station.announce
  split
  · exact aside_self
  · simp only [Logged.value_bind, Logged.value_pure, gateway_transmit]
    exact aside_of_same rfl rfl rfl rfl rfl rfl

/-- The socket that has waited longest is admitted if there is room. A number without a socket
changes nothing, whichever way it goes. -/
theorem accept_value {id : SocketId} {rest : List Arrival}
    (waits : gateway.arrivals = .socket id :: rest) :
    gateway.accept.value =
      { gateway with arrivals := rest }.updateSocket id
        (if gateway.config.maxSockets.toNat ≤ gateway.registry.openConnections.length then
          Socket.abandon else Socket.admitted) := by
  unfold accept
  rw [waits]
  cases found : gateway.sockets[id]? with
  | none =>
    have outside := List.getElem?_eq_none_iff.mp found
    simp only [found, Logged.value_pure, updateSocket, List.modify_eq_self outside]
  | some socket =>
    simp only [found]
    split <;> rfl

/-- Whoever is accepted has not spoken yet. It is taken from the backlog and put among the sockets
that wait to be served, or it is refused. -/
theorem aside_accept : gateway.Aside gateway.accept.value := by
  have taken : ∀ rest, gateway.Aside { gateway with arrivals := rest } :=
    fun _ => aside_of_same rfl rfl rfl rfl rfl rfl
  cases waits : gateway.arrivals with
  | nil =>
    simp only [accept, waits]
    exact aside_self
  | cons first rest =>
    cases first with
    | fault reason =>
      simp only [accept, waits]
      exact taken rest
    | socket id =>
      rw [accept_value waits]
      exact (taken rest).trans (aside_updateSocket _)

/-- Whoever leaves takes back nothing that the ECUs were asked. -/
theorem aside_leave (id : SocketId) : gateway.Aside (gateway.leave id).value := by
  unfold leave
  split
  · exact aside_self
  · split
    · exact aside_finishReading _
    · exact aside_self

/-- What is neither the start nor the stop, does nothing to an ECU from outside and routes nothing
proceeds. -/
theorem proceeds_act {station : Station} {occurrence : Station.Occurrence}
    (served : station.gateway.registry.Served) (able : station.CanHappen occurrence)
    (unstarted : occurrence.action ≠ .event .start) (unstopped : occurrence.action ≠ .event .stop)
    (unchanged : ∀ index event, occurrence.action ≠ .event (.ecu index event))
    (unrouted : occurrence.action ≠ .task .route) :
    Proceeds 0 (station.gateway.activity occurrence.action) station.gateway
      (station.act occurrence).gateway := by
  obtain ⟨moment, action⟩ := occurrence
  have plainly : ∀ {later : Gateway}, station.gateway.Aside later →
      Proceeds 0 [] station.gateway later := fun aside => aside.proceeds served
  cases action with
  | event event =>
    cases event with
    | start => exact absurd rfl unstarted
    | stop => exact absurd rfl unstopped
    | ecu index event => exact absurd rfl (unchanged index event)
    | connect peer fault =>
      refine plainly ?_
      show station.gateway.Aside (station.gateway.connect peer fault)
      unfold connect
      split
      · exact aside_of_same rfl rfl rfl rfl rfl rfl
      · exact aside_self
    | acceptFault fault =>
      refine plainly ?_
      show station.gateway.Aside (station.gateway.failAccepting fault)
      unfold failAccepting
      split
      · exact aside_of_same rfl rfl rfl rfl rfl rfl
      · exact aside_self
    | receipt receipt =>
      refine plainly ?_
      show station.gateway.Aside (station.gateway.takeReceipt receipt)
      unfold takeReceipt
      split
      · exact aside_of_same rfl rfl rfl rfl rfl rfl
      · exact aside_self
    | _ => exact plainly (aside_updateSocket _)
  | task task =>
    cases task with
    | timer connection =>
      exact plainly (aside_act ⟨moment, .task (.timer connection)⟩ trivial)
    | accept => exact plainly aside_accept
    | read socket => exact proceeds_read served socket
    | leave socket => exact plainly (aside_leave socket)
    | write socket =>
      obtain ⟨found, listed, ready⟩ := mem_enabled.mp able
      exact proceeds_write served listed ready
    | receive => exact plainly (aside_receive moment station)
    | announce => exact plainly (aside_announce moment station)
    | route => exact absurd rfl unrouted
    | work index => exact proceeds_changeEcu served index fun _ => rfl

/-- Every occurrence is a step, the start or the stop. Steps proceed: they let the queues grow,
route what waits and bring the ECUs what they are said to bring. The start and the stop change the
phase and are looked at by themselves. -/
theorem act_cases {station : Station} {occurrence : Station.Occurrence}
    (served : station.gateway.registry.Served) (inhabited : station.gateway.ecus ≠ [])
    (able : station.CanHappen occurrence) (confined : occurrence.action.IsConfined) :
    Proceeds occurrence.action.taken (station.gateway.activity occurrence.action) station.gateway
        (station.act occurrence).gateway ∨
      (station.gateway.phase = .created ∧ occurrence.action.taken = 0 ∧
        station.gateway.activity occurrence.action = [] ∧
        ∃ sockets, (station.act occurrence).gateway =
          (station.gateway.run occurrence.moment sockets).value) ∨
      (station.act occurrence).gateway = station.gateway.halt.value := by
  obtain ⟨moment, action⟩ := occurrence
  have unchanged : ∀ {later : Gateway}, later = station.gateway →
      Proceeds 0 [] station.gateway later := by
    rintro _ rfl
    exact aside_self.proceeds served
  cases action with
  | event event =>
    cases event with
    | start =>
      rcases start_cases moment station with same | ⟨created, starts⟩
      · exact Or.inl (unchanged same)
      · exact Or.inr (Or.inl ⟨created, rfl, rfl, starts⟩)
    | stop =>
      rcases stop_cases station with same | halts
      · exact Or.inl (unchanged same)
      · exact Or.inr (Or.inr halts)
    | ecu index event => exact Or.inl (proceeds_changeEcu served index confined.asked)
    | _ => exact Or.inl (proceeds_act served able (by simp) (by simp) (by simp) (by simp))
  | task task =>
    cases task with
    | route =>
      have routes : station.gateway.canRoute = true := mem_enabled.mp able
      cases waits : station.gateway.responses with
      | nil => simp [canRoute, waits, inhabited] at routes
      | cons response rest => exact Or.inl (proceeds_route served waits)
    | _ => exact Or.inl (proceeds_act served able (by simp) (by simp) (by simp) (by simp))

/-! ## Before the start and while it runs -/

/-- A gateway that was not started. -/
structure Idle (gateway : Gateway) : Prop where
  created : gateway.phase = .created
  unconnected : gateway.sockets = []
  routing : gateway.routing = false
  responses : gateway.responses = []
  fresh : ∀ ecu ∈ gateway.ecus, ecu.Fresh listener

/-- A gateway that hears its ECUs and routes their responses. -/
structure Active (gateway : Gateway) : Prop where
  running : gateway.running?.isSome = true
  routing : gateway.routing = true
  heeds : gateway.Heeds

/-- A gateway that attends its ECUs, unless it is stopped. -/
structure Attends (gateway : Gateway) : Prop where
  served : gateway.registry.Served
  inhabited : gateway.ecus ≠ []
  life : gateway.Idle ∨ gateway.Active ∨ gateway.phase = .stopped

variable {station : Station} {occurrence : Station.Occurrence} {index : Nat}

/-- Nothing connects to a gateway that was not started. Until then the listening socket does not
exist, so none of the other occurrences finds a socket to change. -/
theorem Idle.unconnected_act (idle : station.gateway.Idle) (occurrence : Station.Occurrence) :
    (station.act occurrence).gateway.sockets = [] := by
  obtain ⟨moment, action⟩ := occurrence
  have unconnected := idle.unconnected
  have silent : station.gateway.running? = none := by rw [running?, idle.created]
  have update : ∀ id step, (station.gateway.updateSocket id step).sockets = [] := by
    intro id step
    simp [updateSocket, unconnected]
  have unchanged : ∀ index event, (station.gateway.changeEcu index event).value.sockets = [] := by
    intro index event
    rw [changeEcu_value]
    exact unconnected
  cases action with
  | event event =>
    cases event with
    | start =>
      show (station.start moment).value.1.gateway.sockets = []
      rcases start_cases moment station with same | ⟨-, sockets, starts⟩
      · rw [same, unconnected]
      · rw [starts]
        simp only [run, Logged.value_bind, Logged.value_pure, startEcus_value]
        rw [undergo_value]
        exact unconnected
    | stop =>
      show station.stop.value.gateway.sockets = []
      rw [Station.stop, idle.created]
      exact unconnected
    | ecu index event => exact unchanged index event
    | connect peer fault =>
      show (station.gateway.connect peer fault).sockets = []
      simp [connect, silent, unconnected]
    | acceptFault fault =>
      show (station.gateway.failAccepting fault).sockets = []
      simp [failAccepting, silent, unconnected]
    | receipt receipt =>
      show (station.gateway.takeReceipt receipt).sockets = []
      simp [takeReceipt, silent, unconnected]
    | _ => exact update _ _
  | task task =>
    cases task with
    | timer connection => exact unconnected
    | accept =>
      show station.gateway.accept.value.sockets = []
      unfold accept
      split
      · exact unconnected
      · exact unconnected
      · simp [unconnected]
    | read id =>
      show (station.gateway.read moment id).value.sockets = []
      simp [read, unconnected]
    | leave id =>
      show (station.gateway.leave id).value.sockets = []
      simp [leave, unconnected]
    | write id =>
      show (station.gateway.write id).value.sockets = []
      simp [write, unconnected]
    | receive =>
      show (station.receive moment).value.gateway.sockets = []
      unfold Station.receive
      split
      · exact unconnected
      · exact unconnected
      · simp only [Logged.value_bind]
        split
        · rw [gateway_transmit]
          exact unconnected
        · exact unconnected
    | announce =>
      show (station.announce moment).value.gateway.sockets = []
      unfold Station.announce
      split
      · exact unconnected
      · simp only [Logged.value_bind, Logged.value_pure, gateway_transmit]
        exact unconnected
    | route =>
      show station.gateway.route.value.sockets = []
      unfold route onResponse
      split
      · split <;> exact unconnected
      · exact unconnected
    | work index => exact unchanged index .work

/-- What an action brings to the ECUs of a gateway that was not started. What others do to the ECUs
is confined to what does not concern the gateway, and its own tasks have nothing to do. -/
theorem Idle.foreign (idle : gateway.Idle) {action : Station.Action}
    (confined : action.IsConfined) :
    ∀ entry ∈ gateway.activity action, entry.2.IsForeign listener := by
  intro entry member
  cases action with
  | event event =>
    cases event with
    | ecu index event =>
      obtain rfl := List.mem_singleton.mp member
      exact confined
    | _ => cases member
  | task task =>
    cases task with
    | read id =>
      have none : gateway.handedBy id = [] := by simp [handedBy, idle.unconnected]
      rw [activity, none] at member
      cases member
    | work index =>
      obtain rfl := List.mem_singleton.mp member
      trivial
    | _ => cases member

/-- Whatever a reader brings to an ECU is the request of a diagnostic message that it takes from the
connection which is registered with the source of the message. -/
theorem mem_handedBy {id : SocketId} {entry : Nat × Ecu.Event}
    (member : entry ∈ gateway.handedBy id) :
    ∃ (socket : Socket) (connection : ConnectionId) (frame : Wire.Frame) (body : Wire.Diagnostic),
      gateway.sockets[id]? = some socket ∧ socket.reader = .reading connection ∧
      socket.inbound? gateway.config.maxDataSize = some (.frame frame) ∧
      frame.content = .ok (.diagnosticMessage body) ∧
      gateway.registry.pool.sourceAddress connection = some body.sourceAddress ∧
      ∃ target ∈ gateway.targets body.targetAddress, entry = (target.1,
        .put ⟨body.sourceAddress, body.targetAddress, target.2, body.userData⟩) := by
  unfold handedBy at member
  split at member
  · cases member
  · rename_i socket found
    split at member
    · rename_i connection frame reads inbound
      split at member
      · rename_i message content
        unfold handed at member
        split at member
        · rename_i body
          split at member
          · rename_i registered
            obtain ⟨target, reached, rfl⟩ := List.mem_map.mp member
            exact ⟨socket, connection, frame, body, found, reads, inbound, content, registered,
              target, reached, rfl⟩
          · cases member
        · cases member
      · cases member
    · cases member

/-- What an action brings to the ECUs leaves them running and heard. None of it stops an ECU or
drops the gateway from its listeners. -/
theorem retains_activity (gateway : Gateway) {action : Station.Action}
    (confined : action.IsConfined) :
    ∀ entry ∈ gateway.activity action, entry.2.Retains listener := by
  intro entry member
  cases action with
  | event event =>
    cases event with
    | ecu index event =>
      obtain rfl := List.mem_singleton.mp member
      exact Ecu.Event.IsForeign.retains confined
    | _ => cases member
  | task task =>
    cases task with
    | read id =>
      obtain ⟨-, -, -, -, -, -, -, -, -, target, -, rfl⟩ := mem_handedBy member
      trivial
    | work index =>
      obtain rfl := List.mem_singleton.mp member
      trivial
    | _ => cases member

/-- A gateway that has just started hears its ECUs, and nothing waits. The listener is added before
the start of each ECU, so not even the first response is missed. -/
theorem Idle.run (idle : gateway.Idle) (now : Milliseconds) (sockets : Sockets) :
    (gateway.run now sockets).value.registry = gateway.registry ∧
      (gateway.run now sockets).value.Active ∧
      (gateway.run now sockets).value.responses = [] ∧
      ∀ index : Nat, (gateway.run now sockets).value.ecus[index]? =
        (gateway.ecus[index]?).map (Ecu.launched listener) := by
  let begun := { gateway with phase := .running sockets, routing := true }
  let later := begun.undergo (launching begun.ecuNumbers)
  have value : (gateway.run now sockets).value =
      { later with announcing := later.firstAnnouncement now } := run_value now sockets gateway
  have course : later = _ := undergo_value (launching begun.ecuNumbers) begun
  have launches : ∀ index : Nat, later.ecus[index]? =
      (gateway.ecus[index]?).map (Ecu.launched listener) := by
    intro index
    refine (getElem?_launching List.nodup_range begun index).trans ?_
    cases found : gateway.ecus[index]? with
    | none => rfl
    | some ecu =>
      obtain ⟨within, -⟩ := List.getElem?_eq_some_iff.mp found
      simp [begun, within]
  rw [value]
  refine ⟨by rw [course], ⟨?_, ?_, ?_⟩, ?_, launches⟩
  · show later.running?.isSome = true
    rw [course]
    rfl
  · show later.routing = true
    rw [course]
  · intro ecu member
    obtain ⟨index, found⟩ := List.getElem?_of_mem member
    obtain ⟨before, earlier, rfl⟩ := Option.map_eq_some_iff.mp ((launches index).symm.trans found)
    exact (idle.fresh before (List.mem_of_getElem? earlier)).launched.1
  · show later.responses = []
    rw [course, saidBy_launching]
    exact (List.append_nil _).trans idle.responses

end Gateway

end DiagnosticGateway
