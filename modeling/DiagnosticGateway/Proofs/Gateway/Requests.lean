import DiagnosticGateway.Proofs.Gateway.Posting

/-!
# What becomes of routing activation requests

A gateway leads its registry on by the occurrences of a registry: it opens, starts and closes
connections, sends on them, and moves requests on. A request is moved on only by the reader that
waits for it. So whoever waits finds the request as it was left, and its probe never asks the
connection of the request itself.
-/

namespace DiagnosticGateway

namespace Registry

/-- One registry has come from another one by occurrences in which only requests of some kind take
a step. -/
def Leads (own : RequestId → Prop) (before after : Registry) : Prop :=
  ∃ course : History, after = before.replay course ∧
    ∀ occurrence ∈ course, ∀ number, occurrence.action = .task (.request number) → own number

variable {own other : RequestId → Prop} {before middle after registry : Registry}

/-- No occurrence at all leads a registry to itself. -/
theorem leads_self : registry.Leads own registry :=
  ⟨[], rfl, fun _ member => absurd member List.not_mem_nil⟩

/-- An occurrence leads the registry on when each request it takes a step of is the gateway's own to
take. -/
theorem leads_act (occurrence : Occurrence)
    (steps : ∀ number, occurrence.action = .task (.request number) → own number) :
    registry.Leads own (registry.act occurrence) := by
  refine ⟨[occurrence], rfl, fun same member => ?_⟩
  obtain rfl := List.mem_singleton.mp member
  exact steps

/-- Occurrences that lead to a registry and those that lead on from it are one list of
occurrences. -/
theorem Leads.trans (first : before.Leads own middle) (second : middle.Leads own after) :
    before.Leads own after := by
  obtain ⟨course, rfl, steps⟩ := first
  obtain ⟨later, rfl, stepsLater⟩ := second
  refine ⟨course ++ later, by simp [replay, List.foldl_append], fun occurrence member => ?_⟩
  exact (List.mem_append.mp member).elim (steps occurrence) (stepsLater occurrence)

/-- What every occurrence of a registry keeps is kept on the way. -/
theorem Leads.keeps {motive : Registry → Prop} (leads : before.Leads own after)
    (start : motive before)
    (step : ∀ registry occurrence, motive registry → motive (act occurrence registry)) :
    motive after := by
  obtain ⟨course, rfl, -⟩ := leads
  induction course generalizing before with
  | nil => exact start
  | cons first rest inductionHypothesis => exact inductionHypothesis (step before first start)

/-- A request that was not moved on is as it was. The induction is on the course, none of whose
steps is one of that request. -/
theorem Leads.request? (leads : before.Leads own after) {number : RequestId} {request : Request}
    (found : before.request? number = some request) (apart : ¬ own number) :
    after.request? number = some request := by
  obtain ⟨course, rfl, steps⟩ := leads
  induction course generalizing before with
  | nil => exact found
  | cons first rest inductionHypothesis =>
    have kept := request?_unless_step found fun action =>
      apart (steps first List.mem_cons_self number action)
    exact inductionHypothesis kept fun occurrence member =>
      steps occurrence (List.mem_cons_of_mem _ member)

/-- No probe asks the connection whose request it is for. -/
def Impartial (registry : Registry) : Prop :=
  ∀ number request purpose check, registry.request? number = some request →
    request.stage = .probing purpose check → request.connection ∉ check.targets

/-- Probes stay impartial, since whoever has to be decided about is not registered. The targets of a
probe are registered when it starts, and nobody else's request is settled before it ends. -/
theorem Impartial.act (impartial : registry.Impartial) (consistent : registry.pool.Consistent)
    (occurrence : Occurrence) : (registry.act occurrence).Impartial := by
  intro number later purpose check found probes
  rcases act_cases registry occurrence with outside | ⟨id, action, ⟨-, same⟩ | ⟨moved, there, move⟩⟩
  · rw [request?_outside outside] at found
    rcases Option.or_eq_some_iff.mp found with old | ⟨-, new⟩
    · exact impartial number later purpose check old probes
    · have asked := (asked_of_made (List.mem_of_find?_eq_some new)).2
      rw [probes] at asked
      cases asked
  · rw [same] at found
    exact impartial number later purpose check found probes
  · obtain rfl := id_of_request? there
    by_cases here : number = moved.id
    · subst here
      generalize registry.act occurrence = next at *
      -- The stage to which the request has come.
      have staged : ∀ {stage : RequestStage},
          next.request? moved.id =
            ((registry.request? moved.id).map fun found : Request =>
              if moved.id = moved.id then { found with stage := stage } else found) →
          (∀ purpose check, stage = .probing purpose check → moved.connection ∉ check.targets) →
            later.connection ∉ check.targets := by
        intro stage value apart
        rw [value, there, Option.map_some, if_pos rfl] at found
        obtain rfl := Option.some.inj found
        exact apart purpose check probes
      cases move with
      | rests still => exact impartial _ later purpose check found probes
      | answersAtOnce asked known => exact staged (request?_answer ..) (by simp)
      | goesInLine asked unknown taken => exact staged (request?_setStage ..) (by simp)
      | answersInTurn inLine holds known =>
        exact staged ((request?_release ..).trans (request?_answer ..)) (by simp)
      | arbitrates arbitration =>
        cases arbitration with
        | grants turn unknown course => exact staged (request?_concluded ..) (by simp)
        | probes turn unknown course =>
          refine staged (request?_probing ..) fun _ _ same => ?_
          obtain ⟨-, rfl⟩ := RequestStage.probing.inj same
          exact not_mem_of_course consistent unknown course
        | concludes waited ends => exact staged (request?_concluded ..) (by simp)
    · rw [move.request?_other here] at found
      exact impartial number later purpose check found probes

/-- A request is at most what its own steps make of it, and it stays that of its connection. -/
theorem request?_advance {number : RequestId} {request : Request}
    (found : registry.request? number = some request) (now : Milliseconds) :
    ∃ stage, (registry.advance now number).value.request? number =
      some { request with stage := stage } := by
  have moved : ∃ stage, (registry.act ⟨now, .task (.request number)⟩).request? number =
      some { request with stage := stage } := request?_act found
  exact moved

/-- Settling a request leaves an open connection open: a refusal is answered with a code, and it is
the reader that closes the connection once the answer is on its way. -/
theorem open_settled {connection : Connection} {request : Request} {id : ConnectionId}
    {code : Wire.ActivationCode} (now : Milliseconds) (opened : connection.phase ≠ .closed) :
    (settled now request code id connection).phase ≠ .closed := by
  unfold settled
  split
  · by_cases registered : connection.phase = .registeredActive
    · rw [Connection.activate_of_settled now _ (Or.inr registered)]
      exact opened
    · rw [Connection.activate_of_unregistered now _ opened registered]
      simp
  · exact opened

/-- The step of a request does not close the connection that it is for. It may close others, those
that were silent in its probe, and being impartial it is not among these. -/
theorem isOpen_advance (impartial : registry.Impartial) {number : RequestId} {request : Request}
    (found : registry.request? number = some request)
    (opened : registry.pool.isOpen request.connection = true) (now : Milliseconds) :
    (registry.advance now number).value.pool.isOpen request.connection = true := by
  obtain ⟨holding, held, unclosed⟩ := Pool.isOpen_iff.mp opened
  refine Pool.isOpen_iff.mpr ?_
  show ∃ later, (registry.act ⟨now, .task (.request number)⟩).pool.get? request.connection =
    some later ∧ later.phase ≠ .closed
  rcases quiet_or_arbitrates registry ⟨now, .task (.request number)⟩ with
    quiet | ⟨mover, step, there, arbitration⟩
  · exact ⟨holding, quiet.get?_of_some held, unclosed⟩
  · obtain rfl : number = mover.id := by simpa using step
    obtain rfl := Option.some.inj (found.symm.trans there)
    generalize registry.act ⟨now, .task (.request request.id)⟩ = next at *
    cases arbitration with
    | grants turn unknown course =>
      refine ⟨_, by rw [get?_concluded, held, Option.map_some], ?_⟩
      exact open_settled now unclosed
    | probes turn unknown course =>
      refine ⟨_, by rw [get?_probing, held, Option.map_some], ?_⟩
      rw [Connection.phase_askedAmong]
      exact unclosed
    | @concludes purpose check waited ends =>
      have spared := impartial _ request purpose check found waited
      refine ⟨_, by rw [get?_concluded, get?_probed, held, Option.map_some, Option.map_some], ?_⟩
      refine open_settled now ?_
      rw [AliveCheck.left_of_heard fun silent => spared silent.1]
      exact unclosed

end Registry

namespace Gateway

open Registry

/-- A gateway has led its registry on, and only requests of some kind took a step. -/
def Conducts (own : RequestId → Prop) (before after : Gateway) : Prop :=
  before.registry.Leads own after.registry

variable {own : RequestId → Prop} {gateway middle after : Gateway} {id : SocketId}
  {connection : ConnectionId} {now : Milliseconds}

/-- What leaves the registry alone takes no step of any request. -/
theorem conducts_of_same (registry : after.registry = gateway.registry) :
    gateway.Conducts own after := by
  unfold Conducts
  rw [registry]
  exact leads_self

/-- Two stretches of code that only take steps of their own requests make one that does. -/
theorem Conducts.trans (first : gateway.Conducts own middle) (second : middle.Conducts own after) :
    gateway.Conducts own after :=
  Leads.trans first second

/-- An occurrence of the registry other than the step of a request. -/
theorem conducts_act (occurrence : Registry.Occurrence)
    (steps : ∀ number, occurrence.action ≠ .task (.request number)) :
    gateway.Conducts own { gateway with registry := gateway.registry.act occurrence } :=
  leads_act occurrence fun number action => absurd action (steps number)

/-- What happens to ECUs does not reach the registry. -/
theorem registry_undergo (events : List (Nat × Ecu.Event)) :
    (gateway.undergo events).registry = gateway.registry := by
  rw [undergo_value]

/-- The stations act behind the routing table; no event of theirs reaches the registry. -/
theorem conducts_undergo (events : List (Nat × Ecu.Event)) :
    gateway.Conducts own (gateway.undergo events) :=
  conducts_of_same (registry_undergo events)

/-- Queueing a message on a connection is one occurrence of the registry, and not a step of a
request. -/
theorem conducts_send (message : Wire.Message) :
    gateway.Conducts own (gateway.send connection message).value :=
  conducts_act ⟨0, .event (.send connection message)⟩ (by simp)

/-- The end of a reader stops its connection, which is no step of a request either. -/
theorem conducts_finishReading (peer : Net.Endpoint) :
    gateway.Conducts own (gateway.finishReading id peer connection).value := by
  have stopped : gateway.Conducts own _ := conducts_act ⟨0, .event (.stop connection)⟩ (by simp)
  exact stopped.trans (conducts_act ⟨0, .event (.remove connection)⟩ (by simp))

/-- Whether the reader goes on or comes to its end, no request takes a step. -/
theorem conducts_continueReading (peer : Net.Endpoint) (flow : Flow) :
    gateway.Conducts own (gateway.continueReading id peer connection flow).value := by
  cases flow with
  | proceed => exact conducts_of_same rfl
  | wait request source => exact conducts_of_same rfl
  | close => exact conducts_finishReading peer

/-- The answer to an activation is queued on the connection the request came in on; the request
itself has been decided by then. -/
theorem conducts_answerActivation (source : UInt16) (code : Wire.ActivationCode) :
    gateway.Conducts own (gateway.answerActivation connection source code).value.1 := by
  unfold answerActivation
  simp only [Logged.value_bind]
  split <;> exact conducts_send _

/-- Going on with an activation takes the steps of that request and of no other. The answer that may
follow is queued and moves nobody. -/
theorem conducts_pursueActivation (request : RequestId) (source : UInt16) (owned : own request) :
    gateway.Conducts own (gateway.pursueActivation now connection request source).value.1 := by
  have advances : gateway.Conducts own
      { gateway with registry := gateway.registry.act ⟨now, .task (.request request)⟩ } := by
    have steps : gateway.registry.Leads own
        (gateway.registry.act ⟨now, .task (.request request)⟩) := by
      refine leads_act _ fun number action => ?_
      obtain rfl : request = number := by simpa using action
      exact owned
    exact steps
  rw [pursueActivation_value]
  split
  · exact advances.trans (conducts_answerActivation source _)
  · exact advances

/-- A message moves on no request but the one that it makes. That one has the next number of the
registry, and its first step is taken in the same stretch of code. -/
theorem conducts_onMessage (message : Wire.Message)
    (owned : own gateway.registry.requests.length) :
    gateway.Conducts own (gateway.onMessage now connection message).value.1 := by
  cases message with
  | routingActivationRequest body =>
    simp only [onMessage, onActivation]
    split
    · have asks : gateway.Conducts own _ :=
        conducts_act ⟨now, .event (.request connection body.sourceAddress)⟩ (by simp)
      exact asks.trans (conducts_pursueActivation _ _ owned)
    · exact conducts_answerActivation _ _
  | aliveCheckResponse source =>
    exact conducts_act ⟨now, .event (.aliveResponse connection source)⟩ (by simp)
  | diagnosticMessage body =>
    simp only [onMessage, onDiagnostic, Logged.value_bind]
    split
    · split
      · exact conducts_send _
      · simp only [Logged.value_bind, forward_value]
        exact (conducts_send _).trans (conducts_undergo _)
    · exact conducts_send _
  | _ => exact conducts_of_same rfl

/-- The only request a frame can bring forward is the one it makes, and that one has the next number
of the registry. -/
theorem conducts_onFrame (content : Except Wire.Fault Wire.Message)
    (owned : own gateway.registry.requests.length) :
    gateway.Conducts own (gateway.onFrame now connection content).value.1 := by
  have received : gateway.Conducts own _ :=
    conducts_act ⟨now, .event (.dataReceived connection)⟩ (by simp)
  cases content with
  | ok message => exact received.trans (conducts_onMessage message owned)
  | error fault => exact received.trans (conducts_send _)

/-- As `conducts_onFrame`, with the frame still to be found among the bytes that have arrived. The
request is made with the next number, which has to be its own. -/
theorem conducts_readNext (socket : Socket) (owned : own gateway.registry.requests.length) :
    gateway.Conducts own (gateway.readNext now id socket connection).value := by
  unfold readNext
  split
  · exact conducts_of_same rfl
  · exact conducts_finishReading socket.peer
  · rename_i frame _
    let taken := gateway.updateSocket id fun socket => { socket with incoming := frame.rest }
    have takes : gateway.Conducts own taken := conducts_of_same rfl
    have answers : taken.Conducts own (taken.onFrame now connection frame.content).value.1 :=
      conducts_onFrame frame.content owned
    exact takes.trans (answers.trans (conducts_continueReading socket.peer _))

/-- The requests that an action may move on: one that it makes, and the one for which the reader
that takes a step waits. -/
def moves (action : Station.Action) (gateway : Gateway) (number : RequestId) : Prop :=
  ∃ id, action = .task (.read id) ∧
    (number = gateway.registry.requests.length ∨
      ∃ socket connection source, gateway.sockets[id]? = some socket ∧
        socket.reader = .deciding connection number source)

/-- A reader's step takes the steps of the request its task moves: the one it is waiting for, or the
one its next frame makes. -/
theorem conducts_read (id : SocketId) :
    gateway.Conducts (gateway.moves (.task (.read id))) (gateway.read now id).value := by
  unfold read
  split
  · exact conducts_of_same rfl
  · rename_i socket found
    split
    · rw [serve_value]
      have opens : gateway.Conducts (gateway.moves (.task (.read id))) _ :=
        conducts_act ⟨now, .event (.openConnection gateway.config.timings)⟩ (by simp)
      have adds := opens.trans
        (conducts_act ⟨now, .event (.add gateway.registry.nextConnection)⟩ (by simp))
      exact adds.trans
        (conducts_act ⟨now, .event (.start gateway.registry.nextConnection)⟩ (by simp))
    · exact conducts_readNext socket ⟨id, rfl, Or.inl rfl⟩
    · rename_i connection request source reads
      have pursues : gateway.Conducts (gateway.moves (.task (.read id)))
          (gateway.pursueActivation now connection request source).value.1 :=
        conducts_pursueActivation request source
          ⟨id, rfl, Or.inr ⟨socket, connection, source, found, reads⟩⟩
      exact pursues.trans (conducts_continueReading socket.peer _)
    · exact conducts_of_same rfl

/-- The end of a serving task removes its connection without a step of a request. -/
theorem conducts_leave (id : SocketId) : gateway.Conducts own (gateway.leave id).value := by
  unfold leave
  split
  · exact conducts_of_same rfl
  · split
    · exact conducts_finishReading _
    · exact conducts_of_same rfl

/-- Routing a response never asks for an activation. It looks the tester up and queues the response
on its connection. -/
theorem conducts_route : gateway.Conducts own gateway.route.value := by
  unfold route
  split
  · rename_i response rest _
    have taken : gateway.Conducts own { gateway with responses := rest } := conducts_of_same rfl
    refine taken.trans ?_
    unfold onResponse
    split
    · exact conducts_of_same rfl
    · exact conducts_send _
  · exact conducts_of_same rfl

/-- Stopping the gateway closes connections; the requests that were waiting are decided by their own
readers afterwards. -/
theorem conducts_halt : gateway.Conducts own gateway.halt.value := by
  have stops : gateway.Conducts own
      { gateway with registry := gateway.registry.stopAll.value } :=
    conducts_act ⟨0, .event .stopAll⟩ (by simp)
  exact stops.trans (conducts_of_same (halt_value gateway).2.1)

/-- A writer makes no request and moves none on. A failed write stops the connection, and the
registry keeps the requests for it. -/
theorem requests_write (id : SocketId) :
    (gateway.write id).value.registry.requests = gateway.registry.requests := by
  unfold write
  split
  · rfl
  · split
    · split
      · rfl
      · rfl
      · unfold writeMessage
        split <;> rfl
    · rfl

/-- Nobody has connected to the gateway yet, and nobody has asked to be registered. -/
structure Unvisited (gateway : Gateway) : Prop where
  served : gateway.registry.Served
  impartial : gateway.registry.Impartial
  sockets : gateway.sockets = []
  arrivals : gateway.arrivals = []

/-- A gateway starts like that. -/
theorem unvisited_withEcus {library : Pattern.Library} {config : GatewayConfig} {ecus : List Ecu}
    (made : withEcus library config ecus = .ok gateway) : gateway.Unvisited := by
  rw [eq_of_withEcus made]
  refine ⟨Registry.served_new _, fun number request purpose check found => ?_, rfl, rfl⟩
  cases found

end Gateway

namespace Station

open Gateway

variable {station : Station} {history : History}

/-- The registry has a part in the steps of readers and writers, in timers, in the routing and in
the stop. -/
def Action.reachesRegistry : Action → Bool
  | .event .stop => true
  | .task (.timer _) | .task (.read _) | .task (.leave _) | .task (.write _) | .task .route => true
  | _ => false

/-- Whatever else happens leaves the registry as it is. It is about the network, the backlog, the
ECUs or the datagrams, and each of these has a part of the gateway for itself. -/
theorem registry_act {occurrence : Occurrence} (apart : occurrence.action.reachesRegistry = false)
    (station : Station) : (station.act occurrence).gateway.registry = station.gateway.registry := by
  obtain ⟨moment, action⟩ := occurrence
  cases action with
  | event event =>
    cases event with
    | start =>
      show (station.start moment).value.1.gateway.registry = _
      rcases start_cases moment station with same | ⟨-, sockets, starts⟩
      · rw [same]
      · rw [starts, run_value]
        exact registry_undergo _
    | stop => cases apart
    | connect peer fault =>
      show (station.gateway.connect peer fault).registry = _
      unfold Gateway.connect
      split <;> rfl
    | acceptFault fault =>
      show (station.gateway.failAccepting fault).registry = _
      unfold Gateway.failAccepting
      split <;> rfl
    | receipt receipt =>
      show (station.gateway.takeReceipt receipt).registry = _
      unfold Gateway.takeReceipt
      split <;> rfl
    | ecu index event => exact registry_undergo [(index, event)]
    | _ => rfl
  | task task =>
    cases task with
    | accept =>
      show station.gateway.accept.value.registry = _
      unfold Gateway.accept
      split
      · rfl
      · rfl
      · dsimp only
        split
        · rfl
        · split <;> rfl
    | receive =>
      show (station.receive moment).value.gateway.registry = _
      unfold Station.receive
      split
      · rfl
      · rfl
      · simp only [Logged.value_bind]
        split
        · rw [gateway_transmit]
        · rfl
    | announce =>
      show (station.announce moment).value.gateway.registry = _
      unfold Station.announce
      split
      · rfl
      · simp only [Logged.value_bind, Logged.value_pure, gateway_transmit]
    | work index => exact registry_undergo [(index, .work)]
    | _ => cases apart

/-- Every occurrence but the step of a writer leads the registry on. What the occurrence does to the
registry is written as a course of the registry's own occurrences, in which only the requests it
moves on take steps. -/
theorem conducts_act (occurrence : Occurrence) (rests : occurrence.action.writes = false)
    (station : Station) :
    station.gateway.Conducts (station.gateway.moves occurrence.action)
      (station.act occurrence).gateway := by
  obtain ⟨moment, action⟩ := occurrence
  cases action with
  | event event =>
    cases event with
    | stop =>
      show station.gateway.Conducts _ station.stop.value.gateway
      rcases stop_cases station with same | halts
      · rw [same]
        exact conducts_of_same rfl
      · rw [halts]
        exact conducts_halt
    | _ => exact conducts_of_same (registry_act rfl station)
  | task task =>
    cases task with
    | timer connection =>
      exact Gateway.conducts_act ⟨moment, .task (.timer connection)⟩ (by simp)
    | read id => exact conducts_read id
    | leave id => exact conducts_leave id
    | write id => cases rests
    | route => exact conducts_route
    | _ => exact conducts_of_same (registry_act rfl station)

/-- A request that an occurrence does not move on is as it was. A writer's step is looked at
separately: it changes a queue and not a request. -/
theorem request?_act {occurrence : Occurrence} {number : RequestId} {request : Request}
    (found : station.gateway.registry.request? number = some request)
    (apart : ¬ station.gateway.moves occurrence.action number) :
    (station.act occurrence).gateway.registry.request? number = some request := by
  cases writes : occurrence.action.writes with
  | false => exact (conducts_act occurrence writes station).request? found apart
  | true =>
    obtain ⟨moment, action⟩ := occurrence
    cases action with
    | event event => cases writes
    | task task =>
      cases task with
      | write id =>
        show (station.gateway.write id).value.registry.request? number = some request
        rw [Registry.request?, requests_write]
        exact found
      | _ => cases writes

/-- Probes are impartial at every moment. It is kept by each occurrence of the registry that a
gateway conducts, and a writer does not touch it. -/
theorem Possible.impartial (possible : station.Possible history)
    (unvisited : station.gateway.Unvisited) :
    (station.replay history).gateway.registry.Impartial := by
  refine (possible.keeps (motive := fun station =>
    station.gateway.registry.Served ∧ station.gateway.registry.Impartial)
      ⟨unvisited.served, unvisited.impartial⟩ ?_).2
  rintro station occurrence ⟨served, impartial⟩ able
  refine ⟨served_act served able, ?_⟩
  cases writes : occurrence.action.writes with
  | false =>
    -- Consistency is kept along with impartiality, since each step needs it.
    refine (Registry.Leads.keeps (motive := fun registry => registry.Sound ∧ registry.Impartial)
      (conducts_act occurrence writes station) ⟨served.sound, impartial⟩ ?_).2
    rintro registry occurrence ⟨sound, impartial⟩
    exact ⟨Registry.sound_act occurrence sound, impartial.act sound.consistent occurrence⟩
  | true =>
    obtain ⟨moment, action⟩ := occurrence
    cases action with
    | event event => cases writes
    | task task =>
      cases task with
      | write id =>
        intro number request purpose check found
        refine impartial number request purpose check ?_
        have same : (station.gateway.write id).value.registry.request? number = some request := found
        rwa [Registry.request?, requests_write] at same
      | _ => cases writes

end Station

end DiagnosticGateway
