import DiagnosticGateway.Proofs.Gateway.Life
import DiagnosticGateway.Proofs.Gateway.Scenes

/-!
# What concerns datagrams

The datagrams of a gateway are the business of two of its tasks. One takes what has arrived, piece
by piece in the order of arrival, and hands the network at most one answer to each datagram. The
other announces the vehicle. Nothing else that happens reads what has arrived or sends a datagram,
and what arrives is kept as long as the gateway runs.
-/

namespace DiagnosticGateway

/-- What of a gateway concerns its datagrams, apart from the number of open connections. -/
structure Mailbox where
  config : GatewayConfig
  identity : VehicleIdentity
  phase : GatewayPhase
  receipts : List Receipt
  pausedUntil : Option Milliseconds
  announcing : Option Announcing

namespace Gateway

/-- The mailbox of a gateway. -/
def mailbox (gateway : Gateway) : Mailbox where
  config := gateway.config
  identity := gateway.identity
  phase := gateway.phase
  receipts := gateway.receipts
  pausedUntil := gateway.pausedUntil
  announcing := gateway.announcing

/-- The answer to a message, if it has one. It is the answer without the log. -/
def replyTo (message : Wire.Message) (gateway : Gateway) : Option Wire.Message :=
  match message with
  | .vehicleIdentificationRequest => some gateway.vehicleAnnouncement
  | .vehicleIdentificationRequestWithEid eid =>
    if eid = gateway.identity.eid then some gateway.vehicleAnnouncement else none
  | .vehicleIdentificationRequestWithVin vin =>
    if vin = gateway.identity.vin then some gateway.vehicleAnnouncement else none
  | .entityStatusRequest => some gateway.entityStatus
  | .powerModeRequest => some (.powerModeResponse powerMode)
  | _ => none

/-- The answer to what is taken from a datagram, if it has one. -/
def reply (bytes : Bytes) (gateway : Gateway) : Option Wire.Message :=
  match Wire.Message.ofDatagram bytes with
  | .ok message => gateway.replyTo message
  | .error fault => some (.genericNack fault.nackCode)

variable {gateway : Gateway} {id : SocketId} {connection : ConnectionId} {now : Milliseconds}

/-- The answer to a message in a datagram is told by the message alone, and logging does not change
it. -/
theorem answerMessage_value (message : Wire.Message) (gateway : Gateway) :
    (gateway.answerMessage message).value = gateway.replyTo message := by
  cases message with
  | vehicleIdentificationRequestWithEid eid =>
    simp only [answerMessage, replyTo]
    split <;> rfl
  | vehicleIdentificationRequestWithVin vin =>
    simp only [answerMessage, replyTo]
    split <;> rfl
  | _ => rfl

/-- The answer to a datagram is told by its bytes alone: the refusal of what cannot be decoded, or
the reply to the message. -/
theorem answerDatagram_value (peer : Net.Endpoint) (bytes : Bytes) (gateway : Gateway) :
    (gateway.answerDatagram peer bytes).value = gateway.reply bytes := by
  simp only [answerDatagram, Logged.value_bind, reply]
  cases Wire.Message.ofDatagram bytes with
  | ok message => exact answerMessage_value message gateway
  | error fault => rfl

/-! ## What leaves the mailbox alone -/

/-- What happens to the ECUs leaves the datagram socket alone. -/
theorem mailbox_undergo (events : List (Nat × Ecu.Event)) :
    (gateway.undergo events).mailbox = gateway.mailbox := by
  rw [undergo_value]
  rfl

/-- An event of one ECU leaves the datagram socket alone. -/
theorem mailbox_changeEcu (index : Nat) (event : Ecu.Event) :
    (gateway.changeEcu index event).value.mailbox = gateway.mailbox :=
  mailbox_undergo [(index, event)]

/-- To go on as a message demands leaves the datagram socket alone. -/
theorem mailbox_continueReading (peer : Net.Endpoint) (flow : Flow) :
    (gateway.continueReading id peer connection flow).value.mailbox = gateway.mailbox := by
  cases flow <;> rfl

/-- The answer to a routing activation request goes to its tester and leaves the datagram socket
alone. -/
theorem mailbox_answerActivation (source : UInt16) (code : Wire.ActivationCode) :
    (gateway.answerActivation connection source code).value.1.mailbox = gateway.mailbox := by
  unfold answerActivation
  simp only [Logged.value_bind]
  split <;> rfl

/-- The pursuit of a routing activation request leaves the datagram socket alone. -/
theorem mailbox_pursueActivation (request : RequestId) (source : UInt16) :
    (gateway.pursueActivation now connection request source).value.1.mailbox =
      gateway.mailbox := by
  rw [pursueActivation_value]
  split
  · exact mailbox_answerActivation source _
  · rfl

/-- What is done about a message of a stream leaves the datagram socket alone, whatever its
type. Streams and datagrams are answered by different tasks, which share the registry and
nothing of the mailbox. -/
theorem mailbox_onMessage (message : Wire.Message) :
    (gateway.onMessage now connection message).value.1.mailbox = gateway.mailbox := by
  cases message with
  | routingActivationRequest body =>
    simp only [onMessage, onActivation]
    split
    · exact mailbox_pursueActivation _ _
    · exact mailbox_answerActivation _ _
  | diagnosticMessage body =>
    simp only [onMessage, onDiagnostic, Logged.value_bind]
    split
    · split
      · rfl
      · simp only [Logged.value_bind, forward_value]
        exact mailbox_undergo _
    · rfl
  | _ => rfl

/-- What is done about a frame of a stream leaves the datagram socket alone. -/
theorem mailbox_onFrame (content : Except Wire.Fault Wire.Message) :
    (gateway.onFrame now connection content).value.1.mailbox = gateway.mailbox := by
  cases content with
  | ok message => exact mailbox_onMessage message
  | error fault => rfl

/-- A step of a reader takes from its stream and leaves the datagram socket alone. -/
theorem mailbox_readNext (socket : Socket) :
    (gateway.readNext now id socket connection).value.mailbox = gateway.mailbox := by
  unfold readNext
  split
  · rfl
  · rfl
  · exact (mailbox_continueReading _ _).trans (mailbox_onFrame _)

/-- No step of a reader comes near the datagram socket, not even that which serves a socket. The
cases are the phases of a reader. -/
theorem mailbox_read (id : SocketId) : (gateway.read now id).value.mailbox = gateway.mailbox := by
  unfold read
  split
  · rfl
  · split
    · rw [serve_value]
      rfl
    · exact mailbox_readNext _
    · exact (mailbox_continueReading _ _).trans (mailbox_pursueActivation _ _)
    · rfl

/-- A reader that leaves does so without the datagram socket. -/
theorem mailbox_leave (id : SocketId) : (gateway.leave id).value.mailbox = gateway.mailbox := by
  unfold leave
  split
  · rfl
  · split <;> rfl

/-- Writers write to streams only. The queue of a connection and the written bytes are all
that changes. -/
theorem mailbox_write (id : SocketId) : (gateway.write id).value.mailbox = gateway.mailbox := by
  unfold write writeMessage
  split
  · rfl
  · split
    · split
      · rfl
      · rfl
      · split <;> rfl
    · rfl

/-- Sockets are accepted apart from the datagrams. Only the arrivals and the sockets change. -/
theorem mailbox_accept : gateway.accept.value.mailbox = gateway.mailbox := by
  unfold accept
  split
  · rfl
  · rfl
  · dsimp only
    split
    · rfl
    · split <;> rfl

/-- Responses of ECUs are routed to connections only. -/
theorem mailbox_route : gateway.route.value.mailbox = gateway.mailbox := by
  unfold route onResponse
  split
  · split <;> rfl
  · rfl

/-- A gateway that starts has the mailbox that it had, and may announce the vehicle. -/
theorem mailbox_run (sockets : Sockets) :
    (gateway.run now sockets).value.mailbox =
      { gateway.mailbox with
        phase := .running sockets
        announcing := gateway.firstAnnouncement now } := by
  rw [run_value, undergo_value]
  rfl

/-- A gateway that is stopped does not look at its mailbox any more. -/
theorem mailbox_halt : gateway.halt.value.mailbox =
    { gateway.mailbox with
      phase := .stopped, receipts := [], pausedUntil := none, announcing := none } := by
  simp only [halt, Logged.value_bind, changeEcus_value]
  rw [mailbox_undergo, endTasks, undergo_value]
  rfl

end Gateway

namespace Net.Network

/-- Binding a socket sends nothing. -/
theorem sent_bind (protocol : Protocol) (endpoint : Endpoint) (network : Network) :
    (network.bind protocol endpoint).2.sent = network.sent := by
  unfold bind choosePort
  dsimp only
  split
  · rfl
  · split <;> split <;> rfl

/-- Joining a group sends nothing. -/
theorem sent_join (group : Ipv4) (network : Network) :
    (network.join group).2.sent = network.sent := by
  unfold join
  dsimp only
  split <;> rfl

end Net.Network

namespace Sockets

open Net.Network

variable {network : Net.Network}

/-- To use a socket and to close it when that fails sends nothing beyond what the calls send. -/
theorem sent_holding {result : Type} (protocol : Net.Protocol) (endpoint : Net.Endpoint)
    (calls : Logged (Called result)) :
    (holding protocol endpoint calls).value.2.sent = calls.value.2.sent := by
  obtain ⟨⟨result | result, network⟩, events⟩ := calls <;> rfl

/-- To join a group sends nothing. -/
theorem sent_join (config : GatewayConfig) (network : Net.Network) :
    (join config network).value.2.sent = network.sent := by
  unfold join
  split
  · rfl
  · rename_i group _
    have quiet := Net.Network.sent_join group network
    generalize network.join group = called at quiet ⊢
    obtain ⟨_ | fault, later⟩ := called <;> exact quiet

/-- To prepare two bound sockets sends nothing. It sets options and joins groups; the first datagram
is sent by a task. -/
theorem sent_prepare (config : GatewayConfig) (tcp udp : Net.Endpoint) :
    (prepare config tcp udp network).value.2.sent = network.sent := by
  have asks : ∀ network : Net.Network, network.address.2.sent = network.sent := fun _ => rfl
  have allows : network.allowBroadcast.2.sent = network.sent := rfl
  unfold prepare
  generalize network.allowBroadcast = called at allows ⊢
  obtain ⟨_ | fault, allowed⟩ := called
  · have joins := sent_join config allowed
    simp only [Logged.value_bind]
    generalize (join config allowed).value = called at joins ⊢
    obtain ⟨fault | joined, entered⟩ := called
    · exact joins.trans allows
    · have first := asks entered
      dsimp only
      generalize entered.address = called at first ⊢
      obtain ⟨_ | fault, asked⟩ := called
      · have second := asks asked
        dsimp only
        generalize asked.address = called at second ⊢
        obtain ⟨_ | fault, last⟩ := called <;>
          exact second.trans (first.trans (joins.trans allows))
      · exact first.trans (joins.trans allows)
  · exact allows

/-- Opening sockets sends nothing. Each call is followed by what it leaves of the datagrams that
were sent, and the sockets that are closed again make no difference. -/
theorem sent_opened (config : GatewayConfig) (network : Net.Network) :
    (opened config network).value.2.sent = network.sent := by
  have first := sent_bind .tcp config.endpoint network
  unfold opened
  generalize network.bind .tcp config.endpoint = called at first ⊢
  obtain ⟨fault | tcp, bound⟩ := called
  · exact first
  · refine (sent_holding _ _ _).trans ?_
    have second := sent_bind .udp config.endpoint bound
    generalize bound.bind .udp config.endpoint = called at second ⊢
    obtain ⟨fault | udp, both⟩ := called
    · exact second.trans first
    · exact (sent_holding _ _ _).trans ((sent_prepare config _ _).trans (second.trans first))

end Sockets

namespace Station

open Gateway

variable {station : Station} {occurrence : Occurrence} {history : History} {scene : Scene}
  {message : Wire.Message} {target : Net.Endpoint}

/-! ## What is sent -/

/-- The network after a gateway with the given sockets has sent a message, or none. -/
def handing (sockets : Sockets) (target : Net.Endpoint) (message : Option Wire.Message)
    (network : Net.Network) : Net.Network :=
  message.elim network fun message => (network.send ⟨sockets.udp, target, message.encode⟩).2

/-- A gateway that runs hands the message to the network. -/
theorem transmit_value {sockets : Sockets} (runs : station.gateway.running? = some sockets) :
    (station.transmit message target).value =
      ⟨station.gateway, handing sockets target (some message) station.network⟩ := by
  simp only [transmit, runs, handing, Option.elim_some]
  generalize station.network.send ⟨sockets.udp, target, message.encode⟩ = called
  obtain ⟨_ | fault, later⟩ := called <;> rfl

/-- A gateway that does not run has no socket to send from. -/
theorem transmit_of_silent (silent : station.gateway.running? = none) :
    (station.transmit message target).value = station := by
  simp only [transmit, silent, Logged.value_pure]

/-- A station whose gateway has taken the oldest datagram. -/
def taking (rest : List Receipt) (station : Station) : Station :=
  { station with gateway := { station.gateway with receipts := rest, pausedUntil := none } }

/-- The datagram that has waited longest is taken, and its answer is sent if it has one. -/
theorem receive_datagram {peer : Net.Endpoint} {bytes : Bytes} {rest : List Receipt}
    (waits : station.gateway.receipts = .datagram peer bytes :: rest) (now : Milliseconds) :
    (station.receive now).value =
      (station.gateway.reply (bytes.take maxDatagram)).elim (station.taking rest) fun answer =>
        ((station.taking rest).transmit answer peer).value := by
  have answers : ((station.taking rest).gateway.answerDatagram peer
      (bytes.take maxDatagram)).value = station.gateway.reply (bytes.take maxDatagram) :=
    answerDatagram_value peer _ _
  unfold taking at answers
  simp only [receive, waits, Logged.value_bind, answers]
  cases station.gateway.reply (bytes.take maxDatagram) <;> rfl

/-- While the gateway runs, the answer is handed to the network. -/
theorem receive_value {sockets : Sockets} {peer : Net.Endpoint} {bytes : Bytes}
    {rest : List Receipt} (runs : station.gateway.running? = some sockets)
    (waits : station.gateway.receipts = .datagram peer bytes :: rest) (now : Milliseconds) :
    (station.receive now).value =
      ⟨(station.taking rest).gateway,
        handing sockets peer (station.gateway.reply (bytes.take maxDatagram)) station.network⟩ := by
  have stillRuns : (station.taking rest).gateway.running? = some sockets := runs
  rw [receive_datagram waits]
  cases station.gateway.reply (bytes.take maxDatagram) with
  | none => rfl
  | some answer => exact transmit_value stillRuns

/-- What is taken from what has arrived in a scene. -/
def Scene.takes? (scene : Scene) : Option Receipt :=
  match scene.occurrence.action with
  | .task .receive => scene.before.gateway.receipts.head?
  | _ => none

/-- What arrives at the datagram socket in a scene. Before the start and after the stop there is no
such socket. -/
def Scene.arrives? (scene : Scene) : Option Receipt :=
  match scene.occurrence.action with
  | .event (.receipt receipt) =>
    if scene.before.gateway.running?.isSome then some receipt else none
  | _ => none

/-- The message that is sent as a datagram in a scene, with its target. Only two tasks send
datagrams: one answers what was received, and the other announces the vehicle. -/
def Scene.transmits? (scene : Scene) : Option (Wire.Message × Net.Endpoint) :=
  match scene.occurrence.action with
  | .task .receive =>
    match scene.before.gateway.receipts with
    | .datagram peer bytes :: _ =>
      (scene.before.gateway.reply (bytes.take maxDatagram)).map fun message => (message, peer)
    | _ => none
  | .task .announce =>
    some (scene.before.gateway.vehicleAnnouncement, scene.before.gateway.announcementTarget)
  | _ => none

/-- What concerns the mailbox: the start, the stop, an arrival and the steps of two tasks. -/
inductive Action.ConcernsMail : Action → Prop
  | start : ConcernsMail (.event .start)
  | stop : ConcernsMail (.event .stop)
  | receipt (receipt : Receipt) : ConcernsMail (.event (.receipt receipt))
  | receive : ConcernsMail (.task .receive)
  | announce : ConcernsMail (.task .announce)

/-- No other action touches the mailbox or the network. The actions that concern mail are the start,
the stop, a receipt and the two tasks for datagrams. -/
theorem apart_act (apart : ¬ occurrence.action.ConcernsMail) (station : Station) :
    (station.act occurrence).gateway.mailbox = station.gateway.mailbox ∧
      (station.act occurrence).network = station.network := by
  obtain ⟨moment, action⟩ := occurrence
  cases action with
  | event event =>
    cases event with
    | start => exact absurd .start apart
    | stop => exact absurd .stop apart
    | receipt receipt => exact absurd (.receipt receipt) apart
    | connect peer fault =>
      refine ⟨?_, rfl⟩
      show (station.gateway.connect peer fault).mailbox = _
      unfold connect
      split <;> rfl
    | acceptFault fault =>
      refine ⟨?_, rfl⟩
      show (station.gateway.failAccepting fault).mailbox = _
      unfold failAccepting
      split <;> rfl
    | ecu index event => exact ⟨mailbox_changeEcu index event, rfl⟩
    | _ => exact ⟨rfl, rfl⟩
  | task task =>
    cases task with
    | receive => exact absurd .receive apart
    | announce => exact absurd .announce apart
    | timer connection => exact ⟨rfl, rfl⟩
    | accept => exact ⟨mailbox_accept, rfl⟩
    | read id => exact ⟨mailbox_read id, rfl⟩
    | leave id => exact ⟨mailbox_leave id, rfl⟩
    | write id => exact ⟨mailbox_write id, rfl⟩
    | route => exact ⟨mailbox_route, rfl⟩
    | work index => exact ⟨mailbox_changeEcu index .work, rfl⟩

/-- A message that is sent is the one datagram that is sent, unless the network fails. A gateway
that does not run has no socket to send from. -/
theorem sent_transmit (message : Wire.Message) (target : Net.Endpoint) (station : Station) :
    (station.transmit message target).value.network.sent = station.network.sent ∨
      ∃ sockets, station.gateway.running? = some sockets ∧
        (station.transmit message target).value.network.sent =
          station.network.sent ++ [⟨sockets.udp, target, message.encode⟩] := by
  cases runs : station.gateway.running? with
  | none => exact Or.inl (by rw [transmit_of_silent runs])
  | some sockets =>
    rw [transmit_value runs]
    simp only [handing, Option.elim_some, Net.Network.send]
    split
    · exact Or.inl rfl
    · exact Or.inr ⟨sockets, rfl, rfl⟩

/-- Starting sends nothing yet. -/
theorem sent_start (now : Milliseconds) (station : Station) :
    (station.start now).value.1.network.sent = station.network.sent := by
  have quiet := Sockets.sent_opened station.gateway.config station.network
  unfold start
  split
  · simp only [Logged.value_bind]
    generalize (Sockets.opened station.gateway.config station.network).value = called at quiet ⊢
    obtain ⟨fault | sockets, later⟩ := called <;> exact quiet
  · rfl

/-- What is sent in a scene is the datagram of the message that the gateway sends, or nothing. Two
tasks send, and each of them sends one datagram at most in a step. -/
theorem sent_act (station : Station) (occurrence : Occurrence) :
    (station.act occurrence).network.sent = station.network.sent ∨
      ∃ message target sockets, (Scene.mk station occurrence).transmits? = some (message, target) ∧
        station.gateway.running? = some sockets ∧
        (station.act occurrence).network.sent =
          station.network.sent ++ [⟨sockets.udp, target, message.encode⟩] := by
  by_cases concerns : occurrence.action.ConcernsMail
  · obtain ⟨moment, action⟩ := occurrence
    cases concerns with
    | start => exact Or.inl (sent_start moment station)
    | stop =>
      refine Or.inl ?_
      show station.stop.value.network.sent = _
      unfold stop
      split <;> rfl
    | receipt receipt => exact Or.inl rfl
    | receive =>
      show (station.receive moment).value.network.sent = _ ∨ ∃ message target sockets, _ ∧ _ ∧
        (station.receive moment).value.network.sent = _
      cases waits : station.gateway.receipts with
      | nil => exact Or.inl (by simp [receive, waits])
      | cons first rest =>
        cases first with
        | fault fault => exact Or.inl (by simp [receive, waits])
        | datagram peer bytes =>
          rw [receive_datagram waits]
          cases answers : station.gateway.reply (bytes.take maxDatagram) with
          | none => exact Or.inl rfl
          | some answer =>
            refine (sent_transmit answer peer (station.taking rest)).imp_right ?_
            rintro ⟨sockets, runs, one⟩
            exact ⟨answer, peer, sockets, by simp [Scene.transmits?, waits, answers], runs, one⟩
    | announce =>
      show (station.announce moment).value.network.sent = _ ∨ ∃ message target sockets, _ ∧ _ ∧
        (station.announce moment).value.network.sent = _
      unfold announce
      split
      · exact Or.inl rfl
      · refine (sent_transmit station.gateway.vehicleAnnouncement
          station.gateway.announcementTarget station).imp_right ?_
        rintro ⟨sockets, runs, one⟩
        exact ⟨_, _, sockets, rfl, runs, one⟩
  · exact Or.inl (congrArg Net.Network.sent (apart_act concerns station).2)

/-! ## What arrives -/

/-- A gateway runs in one of its phases. -/
theorem running?_isSome_iff {gateway : Gateway} :
    gateway.running?.isSome = true ↔ ∃ sockets, gateway.phase = .running sockets := by
  unfold running?
  split
  · rename_i sockets runs
    simp [runs]
  · rename_i silent
    simpa using silent

/-- What an action makes of a mailbox. Either nothing happens to it, or the gateway starts or stops,
or a receipt arrives or is taken, or an announcement is due. -/
inductive Becomes (before : Mailbox) : Action → Mailbox → Prop
  /-- Nothing arrives, and nothing that waits is taken. -/
  | rests {action : Action} (unheard : ∀ receipt, action = .event (.receipt receipt) →
        ∀ sockets, before.phase ≠ .running sockets)
      (untaken : action = .task .receive → before.receipts = []) : Becomes before action before
  | starts (sockets : Sockets) (announcing : Option Announcing)
      (created : before.phase = .created) :
      Becomes before (.event .start)
        { before with phase := .running sockets, announcing := announcing }
  | stops : Becomes before (.event .stop)
      { before with
        phase := .stopped, receipts := [], pausedUntil := none, announcing := none }
  | arrives (receipt : Receipt) {sockets : Sockets} (runs : before.phase = .running sockets) :
      Becomes before (.event (.receipt receipt))
        { before with receipts := before.receipts ++ [receipt] }
  | takes {receipt : Receipt} {rest : List Receipt} (waits : before.receipts = receipt :: rest)
      (pausedUntil : Option Milliseconds) :
      Becomes before (.task .receive)
        { before with receipts := rest, pausedUntil := pausedUntil }
  | announces (announcing : Option Announcing) :
      Becomes before (.task .announce) { before with announcing := announcing }

/-- A start that succeeds opens an empty mailbox, and one that fails leaves it closed. -/
theorem becomes_start (now : Milliseconds) (station : Station) :
    Becomes station.gateway.mailbox (.event .start)
      (station.start now).value.1.gateway.mailbox := by
  rcases start_cases now station with same | ⟨created, sockets, starts⟩
  · rw [same]
    exact .rests (fun _ => nofun) nofun
  · rw [starts, mailbox_run]
    exact .starts sockets _ created

/-- A step that receives takes the oldest of what has arrived, or pauses the receiving after a
failure. -/
theorem becomes_receive (now : Milliseconds) (station : Station) :
    Becomes station.gateway.mailbox (.task .receive)
      (station.receive now).value.gateway.mailbox := by
  cases waits : station.gateway.receipts with
  | nil =>
    have same : (station.receive now).value = station := by simp [receive, waits]
    rw [same]
    exact .rests (fun _ => nofun) fun _ => waits
  | cons first rest =>
    cases first with
    | fault fault =>
      have later : (station.receive now).value.gateway = { station.gateway with
          receipts := rest, pausedUntil := some (now + receivePause) } := by
        simp [receive, waits]
      rw [later]
      exact .takes waits _
    | datagram peer bytes =>
      have later : (station.receive now).value.gateway = (station.taking rest).gateway := by
        rw [receive_datagram waits]
        cases station.gateway.reply (bytes.take maxDatagram) with
        | none => rfl
        | some answer => exact gateway_transmit _ _ _
      rw [later]
      exact .takes waits none

/-- Every action makes of the mailbox what it can. Actions that do not concern mail let it rest, and
each of the others is one of the remaining cases. -/
theorem becomes_mailbox (station : Station) (occurrence : Occurrence) :
    Becomes station.gateway.mailbox occurrence.action (station.act occurrence).gateway.mailbox := by
  by_cases concerns : occurrence.action.ConcernsMail
  · obtain ⟨moment, action⟩ := occurrence
    cases concerns with
    | start => exact becomes_start moment station
    | stop =>
      show Becomes _ _ station.stop.value.gateway.mailbox
      rcases stop_cases station with same | halts
      · rw [same]
        exact .rests (fun _ => nofun) nofun
      · rw [halts, mailbox_halt]
        exact .stops
    | receipt receipt =>
      show Becomes _ _ (station.gateway.takeReceipt receipt).mailbox
      unfold takeReceipt running?
      split
      · rename_i sockets runs
        exact .arrives receipt runs
      · rename_i silent
        exact .rests (fun _ _ => silent) nofun
    | receive => exact becomes_receive moment station
    | announce =>
      show Becomes _ _ (station.announce moment).value.gateway.mailbox
      unfold announce
      split
      · exact .rests (fun _ => nofun) nofun
      · simp only [Logged.value_bind, Logged.value_pure, gateway_transmit]
        exact .announces _
  · rw [(apart_act concerns station).1]
    refine .rests (fun receipt same => ?_) fun same => ?_
    · exact absurd (same ▸ .receipt receipt) concerns
    · exact absurd (same ▸ .receive) concerns

/-- What is taken waits in front of everything else. -/
theorem Scene.takes?_eq_some_iff {receipt : Receipt} :
    scene.takes? = some receipt ↔ scene.occurrence.action = .task .receive ∧
      ∃ rest, scene.before.gateway.receipts = receipt :: rest := by
  unfold takes?
  split
  · rename_i receives
    simp [receives, List.head?_eq_some_iff]
  · rename_i apart
    simpa using fun receives => absurd receives apart

/-- What has arrived at the datagram socket in a history, oldest first. -/
def arrived (history : History) (station : Station) : List Receipt :=
  (station.scenes history).filterMap Scene.arrives?

/-- What was taken from that, oldest first. -/
def taken (history : History) (station : Station) : List Receipt :=
  (station.scenes history).filterMap Scene.takes?

/-- What a history picks out of its scenes grows by what its last scene brings. -/
theorem filterMap_scenes_concat {piece : Type} (pick : Scene → Option piece) (history : History)
    (occurrence : Occurrence) (station : Station) :
    (station.scenes (history ++ [occurrence])).filterMap pick =
      (station.scenes history).filterMap pick ++
        (pick ⟨station.replay history, occurrence⟩).toList := by
  rw [scenes_concat, List.filterMap_append]
  congr 1

/-- What is taken is the oldest that waits, and what arrives comes behind, unless the gateway is
stopped. -/
theorem receipts_act (station : Station) (occurrence : Occurrence)
    (unstopped : (station.act occurrence).gateway.phase ≠ .stopped) :
    station.gateway.phase ≠ .stopped ∧
      station.gateway.receipts ++ (Scene.mk station occurrence).arrives?.toList =
        (Scene.mk station occurrence).takes?.toList ++
          (station.act occurrence).gateway.receipts := by
  have becomes := becomes_mailbox station occurrence
  obtain ⟨moment, action⟩ := occurrence
  generalize same : (station.act ⟨moment, action⟩).gateway.mailbox = after at becomes
  have phase : (station.act ⟨moment, action⟩).gateway.phase = after.phase :=
    congrArg Mailbox.phase same
  have receipts : (station.act ⟨moment, action⟩).gateway.receipts = after.receipts :=
    congrArg Mailbox.receipts same
  rw [phase] at unstopped
  rw [receipts]
  cases becomes with
  | rests unheard untaken =>
    have arrives : (Scene.mk station ⟨moment, action⟩).arrives? = none := by
      unfold Scene.arrives?
      split
      · rename_i receipt same
        refine if_neg fun runs => ?_
        obtain ⟨sockets, runs⟩ := running?_isSome_iff.mp runs
        exact unheard receipt same sockets runs
      · rfl
    have takes : (Scene.mk station ⟨moment, action⟩).takes? = none := by
      unfold Scene.takes?
      split
      · rename_i same
        exact List.head?_eq_none_iff.mpr (untaken same)
      · rfl
    rw [arrives, takes]
    exact ⟨unstopped, List.append_nil _⟩
  | starts sockets announcing created =>
    have created : station.gateway.phase = .created := created
    exact ⟨by simp [created], List.append_nil _⟩
  | stops => exact absurd rfl unstopped
  | arrives receipt runs =>
    have arrives : (Scene.mk station ⟨moment, .event (.receipt receipt)⟩).arrives? =
        some receipt := if_pos (running?_isSome_iff.mpr ⟨_, runs⟩)
    rw [arrives]
    exact ⟨unstopped, rfl⟩
  | takes waits pausedUntil =>
    have takes : (Scene.mk station ⟨moment, .task .receive⟩).takes? = _ :=
      congrArg List.head? waits
    rw [takes]
    exact ⟨unstopped, (List.append_nil _).trans waits⟩
  | announces announcing => exact ⟨unstopped, List.append_nil _⟩

/-- As long as the gateway is not stopped, everything that has arrived is taken in the order of
arrival or waits. -/
theorem arrived_eq (empty : station.gateway.receipts = [])
    (unstopped : (station.replay history).gateway.phase ≠ .stopped) :
    station.arrived history =
      station.taken history ++ (station.replay history).gateway.receipts := by
  induction history using List.reverseRecOn with
  | nil => exact empty.symm
  | append_singleton past occurrence inductionHypothesis =>
    rw [replay_concat] at unstopped ⊢
    obtain ⟨before, moves⟩ := receipts_act _ occurrence unstopped
    rw [arrived, taken, filterMap_scenes_concat, filterMap_scenes_concat, ← arrived, ← taken,
      inductionHypothesis before, List.append_assoc, moves, List.append_assoc]

end Station

end DiagnosticGateway
