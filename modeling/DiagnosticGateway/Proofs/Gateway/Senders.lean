import DiagnosticGateway.Proofs.Gateway.Deciding

/-!
# Who queues what

Three things are queued on connections. A reader queues the direct answers to its frames on its own
connection. The arbitration that it moves on asks other connections for signs of life. And the
responses of ECUs are routed, each to the connection that is registered with its target. No other
occurrence queues anything.
-/

namespace DiagnosticGateway

open Log

/-- The message is a direct answer to a frame, not a request for a sign of life and not the response
of an ECU. -/
def Wire.Message.isReply : Wire.Message → Bool
  | aliveCheckRequest => false
  | diagnosticMessage _ => false
  | _ => true

/-- Direct answers are queued on a connection, and others are asked for signs of life. -/
def Log.Replies (connection : ConnectionId) (events : List Log.Event) : Prop :=
  ∀ post ∈ posts events, post.1 = connection ∧ post.2.isReply = true ∨
    post.1 ≠ connection ∧ post.2 = .aliveCheckRequest

namespace Log

variable {connection : ConnectionId} {earlier later events : List Log.Event}

/-- Events that put nothing into a queue are replies to anybody. -/
theorem replies_of_silent (silent : posts events = []) : Replies connection events := by
  intro post member
  rw [silent] at member
  cases member

/-- Two stretches of replies on one connection make one stretch of replies on it. -/
theorem Replies.append (first : Replies connection earlier) (second : Replies connection later) :
    Replies connection (earlier ++ later) := by
  intro post member
  rw [posts_append] at member
  exact (List.mem_append.mp member).elim (first post) (second post)

/-- Whether events are replies depends only on what they put into the queues. -/
theorem Replies.congr (replies : Replies connection earlier)
    (same : posts later = posts earlier) : Replies connection later := by
  intro post member
  rw [same] at member
  exact replies post member

/-- At most one direct answer is queued. -/
theorem replies_of_reply {message : Wire.Message} {opened : Bool} (reply : message.isReply = true)
    (told : posts events = if opened then [(connection, message)] else []) :
    Replies connection events := by
  intro post member
  rw [told] at member
  split at member
  · obtain rfl := List.mem_singleton.mp member
    exact Or.inl ⟨rfl, reply⟩
  · cases member

/-- Whoever is spared asks others. -/
theorem replies_of_spares (spares : Registry.Spares connection events) :
    Replies connection events := by
  obtain ⟨targets, other, asks⟩ := spares
  intro post member
  obtain ⟨named, request⟩ := asks post member
  refine Or.inr ⟨?_, request⟩
  rintro rfl
  exact other named

/-- Whatever is queued on the connection itself is a direct answer. -/
theorem Replies.postedOn_self (replies : Replies connection events) :
    ∀ message ∈ postedOn connection events, message.isReply = true := by
  intro message member
  obtain ⟨post, chosen, rfl⟩ := List.mem_map.mp member
  obtain ⟨told, here⟩ := List.mem_filter.mp chosen
  have own : post.1 = connection := of_decide_eq_true here
  rcases replies post told with ⟨-, reply⟩ | ⟨other, -⟩
  · exact reply
  · exact absurd own other

/-- Whatever is queued on another connection asks for a sign of life. -/
theorem Replies.postedOn_other (replies : Replies connection events) {other : ConnectionId}
    (apart : other ≠ connection) :
    ∀ message ∈ postedOn other events, message = .aliveCheckRequest := by
  intro message member
  obtain ⟨post, chosen, rfl⟩ := List.mem_map.mp member
  obtain ⟨told, here⟩ := List.mem_filter.mp chosen
  have there : post.1 = other := of_decide_eq_true here
  rcases replies post told with ⟨own, -⟩ | ⟨-, request⟩
  · exact absurd (there.symm.trans own) apart
  · exact request

end Log

namespace Gateway

variable {gateway middle : Gateway} {id : SocketId} {connection : ConnectionId}
  {now : Milliseconds} {number : RequestId} {source : UInt16} {socket : Socket} {flow : Flow}
  {events : List Log.Event}

/-! ## Readers -/

/-- A positive or a negative acknowledge, whichever the body gets, is a reply to the one who sent
the body. -/
theorem isReply_acknowledgement (body : Wire.Diagnostic) :
    (gateway.acknowledgement connection body).isReply = true := by
  unfold acknowledgement
  split
  · split <;> rfl
  · rfl

/-- The decision of a request is sent to the connection that asked; the other connections may be
asked for a sign of life, and hear nothing else. -/
theorem replies_pursueActivation (sound : gateway.registry.Sound)
    (held : gateway.registry.RequestFor number connection) :
    Replies connection (gateway.pursueActivation now connection number source).events := by
  obtain ⟨request, found, rfl⟩ := held
  have spares : Replies request.connection (gateway.registry.advance now number).events :=
    replies_of_spares (Registry.spares_advance sound.consistent found)
  have advanced : (gateway.registry.act ⟨now, .task (.request number)⟩).Sound :=
    Registry.sound_act ⟨now, .task (.request number)⟩ sound
  unfold pursueActivation
  simp only [Logged.events_bind]
  refine spares.append ?_
  split
  · exact replies_of_reply rfl (posts_answerActivation advanced.consistent)
  · exact replies_of_silent rfl

/-- Whatever a message is about, the answer goes to the connection that it came from. Activations
and diagnostic messages are answered there; a sign of life and messages that are not for a gateway
are not answered at all. -/
theorem replies_onMessage (sound : gateway.registry.Sound) (message : Wire.Message) :
    Replies connection (gateway.onMessage now connection message).events := by
  cases message with
  | routingActivationRequest body =>
    simp only [onMessage, onActivation]
    split
    · have made : (gateway.registry.request connection body.sourceAddress).1.Sound :=
        Registry.sound_act ⟨now, .event (.request connection body.sourceAddress)⟩ sound
      exact replies_pursueActivation made
        (Registry.awaits_request sound connection body.sourceAddress).requestFor
    · refine (replies_of_silent rfl).append ?_
      exact replies_of_reply rfl (posts_answerActivation sound.consistent)
  | diagnosticMessage body =>
    exact replies_of_reply (isReply_acknowledgement body) (posts_onDiagnostic sound.consistent body)
  | aliveCheckResponse source =>
    exact replies_of_silent (by simp [onMessage, Registry.aliveResponse])
  | _ => exact replies_of_silent rfl

/-- As `replies_onMessage`, also for a frame that could not be decoded: the negative acknowledge of
the header goes back the same way. -/
theorem replies_onFrame (sound : gateway.registry.Sound)
    (content : Except Wire.Fault Wire.Message) :
    Replies connection (gateway.onFrame now connection content).events := by
  have received : (gateway.registry.dataReceived now connection).Sound :=
    Registry.sound_act ⟨now, .event (.dataReceived connection)⟩ sound
  cases content with
  | ok message => exact replies_onMessage received message
  | error fault => exact replies_of_reply rfl (posts_onInvalidFrame received.consistent fault)

/-- A reader's step, from the frame it finds to the answer, speaks only to its own tester. The
end of a stream and the pursuit of a decision are the other cases, and the first of them says
nothing. -/
theorem Handles.replies (handles : Handles now id connection gateway socket middle flow events)
    (sound : gateway.registry.Sound) (decides : gateway.Decides)
    (found : gateway.sockets[id]? = some socket) : Replies connection events := by
  cases handles with
  | @frame frame _ reads inbound handled =>
    subst handled
    have takenSound : (gateway.taking id frame).registry.Sound := sound
    exact replies_onFrame takenSound frame.content
  | @decision number source _ waits handled =>
    subst handled
    exact replies_pursueActivation sound (decides id socket connection number source found waits)
  | @ended ending =>
    refine replies_of_silent ?_
    cases ending <;> rfl

/-! ## Responses -/

/-- A response is queued where its target is registered, if it is registered anywhere. -/
theorem posts_onResponse (served : gateway.registry.Served) (response : Ecu.Message) :
    posts (gateway.onResponse response).events =
      ((gateway.registry.lookup response.target).map fun connection =>
        (connection, Wire.Message.diagnostic response.source response.target response.data)).toList := by
  unfold onResponse
  rcases lookup_cases served response.target with ⟨connection, found, -, opened⟩ | ⟨missing, -⟩
  · rw [found]
    simp [posts_send served.sound.consistent, opened, Log.Event.post?]
  · rw [missing]
    rfl

/-! ## Nobody else -/

/-- The ECUs put nothing into the queue of a connection: what they say has to be routed first. -/
theorem posts_changeEcu (index : Nat) (event : Ecu.Event) (gateway : Gateway) :
    posts (gateway.changeEcu index event).events = [] := by
  unfold changeEcu
  split
  · rfl
  · simp

/-- As `posts_changeEcu`, for one event of several ECUs. -/
theorem posts_changeEcus (event : Ecu.Event) (numbers : List Nat) (gateway : Gateway) :
    posts (gateway.changeEcus event numbers).events = [] := by
  induction numbers generalizing gateway with
  | nil => rfl
  | cons number rest inductionHypothesis =>
    simp [changeEcus, posts_changeEcu, inductionHypothesis]

/-- Starting the ECUs says nothing to a tester. -/
theorem posts_startEcus (numbers : List Nat) (gateway : Gateway) :
    posts (gateway.startEcus numbers).events = [] := by
  induction numbers generalizing gateway with
  | nil => rfl
  | cons number rest inductionHypothesis =>
    simp [startEcus, posts_changeEcu, inductionHypothesis]

/-- A socket that is accepted has no connection yet that something could be queued for. Neither does
a refusal send anything. -/
theorem posts_accept : posts gateway.accept.events = [] := by
  unfold accept
  split
  · rfl
  · rfl
  · dsimp only
    split
    · rfl
    · split <;> rfl

/-- A connection is removed without a last word. -/
theorem posts_leave : posts (gateway.leave id).events = [] := by
  unfold leave
  split
  · rfl
  · split
    · exact posts_finishReading _
    · rfl

/-- A gateway that begins to run has no testers to speak to. -/
theorem posts_run (sockets : Sockets) : posts (gateway.run now sockets).events = [] := by
  simp [run, posts_startEcus, Log.Event.post?]

/-- The testers are not told that the gateway stops; their connections are closed. -/
theorem posts_halt : posts gateway.halt.events = [] := by
  simp [halt, Registry.stopAll, posts_changeEcus, Log.Event.post?]

end Gateway

namespace Station

open Gateway

variable {station : Station} {history : History} {occurrence : Occurrence} {scene : Scene}

/-- What is neither the step of a reader nor the routing of a response queues nothing. Writers take
from the queues, and everything else is about sockets, datagrams, ECUs or timers. -/
theorem posts_act_apart (able : station.CanHappen occurrence)
    (unread : ∀ id, occurrence.action ≠ .task (.read id))
    (unrouted : occurrence.action ≠ .task .route) :
    posts (station.logged occurrence).events = [] := by
  cases writes : occurrence.action.writes with
  | true => exact posts_of_writes able writes
  | false =>
    have quiet : ∀ {step : Gateway → Logged Gateway}, posts (step station.gateway).events = [] →
        posts (station.onGateway step).events = [] := by
      intro step silent
      show posts ((step station.gateway).events ++ []) = []
      rw [List.append_nil, silent]
    obtain ⟨moment, action⟩ := occurrence
    cases action with
    | event event =>
      cases event with
      | start =>
        have opens := posts_opened station.gateway.config station.network
        show posts (Prod.fst <$> station.start moment).events = []
        rw [Logged.events_map]
        unfold start
        split
        · simp only [Logged.events_bind, posts_append, opens]
          split
          · rfl
          · simp [posts_run]
        · rfl
      | stop =>
        show posts station.stop.events = []
        unfold stop
        split
        · simp [posts_halt]
        · rfl
      | ecu index event => exact quiet (posts_changeEcu index event _)
      | _ => rfl
    | task task =>
      cases task with
      | timer connection => exact quiet (by simp [Gateway.expire, Registry.expire])
      | accept => exact quiet posts_accept
      | read id => exact absurd rfl (unread id)
      | leave id => exact quiet posts_leave
      | write id => cases writes
      | receive =>
        show posts (station.receive moment).events = []
        unfold receive
        split
        · rfl
        · rfl
        · simp only [Logged.events_bind, posts_append, posts_answerDatagram]
          split
          · exact posts_transmit _ _ _
          · rfl
      | announce =>
        show posts (station.announce moment).events = []
        unfold announce
        split
        · rfl
        · simp [posts_transmit, Log.Event.post?]
      | route => exact absurd rfl unrouted
      | work index => exact quiet (posts_changeEcu index .work _)

/-- Who queues something in a scene. -/
inductive Scene.Sends (scene : Scene) : Prop
  /-- The reader of a socket answers on its own connection. -/
  | reader {id : SocketId} {socket : Socket} {connection : ConnectionId}
      (action : scene.occurrence.action = .task (.read id))
      (found : scene.before.gateway.sockets[id]? = some socket)
      (serves : socket.reader.Serves connection) (replies : Replies connection scene.log) :
      Scene.Sends scene
  /-- The response that has waited longest is routed. -/
  | routing {response : Ecu.Message} {rest : List Ecu.Message}
      (action : scene.occurrence.action = .task .route)
      (waits : scene.before.gateway.responses = response :: rest)
      (posted : posts scene.log =
        ((scene.before.gateway.registry.lookup response.target).map fun connection =>
          (connection,
            Wire.Message.diagnostic response.source response.target response.data)).toList) :
      Scene.Sends scene
  /-- Nobody queues anything. -/
  | nobody (silent : posts scene.log = []) : Scene.Sends scene

/-- Readers and the routing of responses are all that queues anything. A reader has to be one whose
request is its own, which holds throughout a possible history. -/
theorem Possible.sends (possible : station.Possible history)
    (unvisited : station.gateway.Unvisited)
    (member : scene ∈ station.scenes history) : scene.Sends := by
  obtain ⟨past, front, same, able⟩ := possible.of_mem_scenes member
  have servedBefore : scene.before.gateway.registry.Served := same ▸ front.served unvisited.served
  have decides : scene.before.gateway.Decides := same ▸ front.decides unvisited
  obtain ⟨before, occurrence⟩ := scene
  by_cases reads : ∃ id, occurrence.action = .task (.read id)
  · obtain ⟨id, action⟩ := reads
    obtain ⟨moment, _⟩ := occurrence
    subst action
    obtain ⟨socket, found, ready⟩ := mem_enabled.mp able
    have told := posts_logged_read moment id before
    rcases handles_of_canRead ready with accepted | ⟨connection, middle, flow, events, handles⟩
    · refine .nobody (told.trans ?_)
      rw [read_of_accepted moment found accepted]
      exact posts_serve socket
    · exact .reader rfl found handles.serves
        ((handles.replies servedBefore.sound decides found).congr
          (told.trans (handles.posts found)))
  by_cases routes : occurrence.action = .task .route
  · obtain ⟨moment, _⟩ := occurrence
    subst routes
    have told : posts (before.logged ⟨moment, .task .route⟩).events =
        posts before.gateway.route.events := by
      show posts (before.gateway.route.events ++ []) = _
      rw [List.append_nil]
    cases waits : before.gateway.responses with
    | nil =>
      refine .nobody (told.trans ?_)
      simp only [route, waits]
      rfl
    | cons response rest =>
      refine .routing rfl waits (told.trans ?_)
      simp only [route, waits]
      let taken := { before.gateway with responses := rest }
      have takenServed : taken.registry.Served := servedBefore
      exact posts_onResponse takenServed response
  · exact .nobody (posts_act_apart able (fun id same => reads ⟨id, same⟩) routes)

end Station

end DiagnosticGateway
