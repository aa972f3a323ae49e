import DiagnosticGateway.Proofs.Gateway.Exchanges
import DiagnosticGateway.Proofs.Gateway.Senders

/-!
# The dialogue with a tester

As long as nobody else closes its connection, the reader of a socket takes the frames of its tester
one by one and answers each before it takes the next, also while a routing activation request waits
for its decision. The first frame that costs the socket is the last one that is taken: its answer is
the last message on the connection, which is closed then, and the rest of the stream stays unread.
-/

namespace DiagnosticGateway

open Log

namespace Station

open Gateway

/-! ## How a dialogue stands -/

/-- The frame has got its answers, and the socket survives it. -/
def Exchange.Settled (connection : ConnectionId) (exchange : Exchange) : Prop :=
  exchange.gateway.Answers connection exchange.content exchange.answers ∧
    ¬ exchange.gateway.Closes connection exchange.content exchange.answers

/-- How the dialogue on a connection stands after some exchanges and with what was queued there,
by what the reader does. -/
inductive Standing (connection : ConnectionId) (exchanges : List Exchange)
    (posted : List Wire.Message) (ended : Prop) (registry : Registry) : Reader → Prop
  /-- Every frame that was taken has its answers, and the connection is open for the next one. -/
  | reads (settled : ∀ exchange ∈ exchanges, exchange.Settled connection)
      (opened : registry.pool.isOpen connection = true) :
      Standing connection exchanges posted ended registry (.reading connection)
  /-- The last frame is a routing activation request that is not decided yet. -/
  | decides {past : List Exchange} {last : Exchange} {body : Wire.ActivationRequest}
      {number : RequestId} (split : exchanges = past ++ [last])
      (settled : ∀ exchange ∈ past, exchange.Settled connection)
      (activation : last.content = .ok (.routingActivationRequest body))
      (unanswered : last.answers = [])
      (awaits : registry.Awaits number connection body.sourceAddress)
      (opened : registry.pool.isOpen connection = true) :
      Standing connection exchanges posted ended registry
        (.deciding connection number body.sourceAddress)
  /-- The tester has ended its stream, and every frame has its answers. -/
  | ended (settled : ∀ exchange ∈ exchanges, exchange.Settled connection) (ends : ended)
      (closed : registry.pool.IsClosed connection) :
      Standing connection exchanges posted ended registry .finished
  /-- The last frame has cost the socket. Its answer is the last message that was queued. -/
  | closed {past : List Exchange} {last : Exchange} {earlier : List Wire.Message}
      {answer : Wire.Message} (split : exchanges = past ++ [last])
      (settled : ∀ exchange ∈ past, exchange.Settled connection)
      (answered : last.gateway.Answers connection last.content last.answers)
      (closes : last.gateway.Closes connection last.content last.answers)
      (only : last.answers = [answer]) (final : posted = earlier ++ [answer])
      (closed : registry.pool.IsClosed connection) :
      Standing connection exchanges posted ended registry .finished

/-- A frame that costs the socket has one answer. A frame that costs nothing may have none, such as
a response to an alive check. -/
theorem answer_of_closes {gateway : Gateway} {connection : ConnectionId}
    {content : Except Wire.Fault Wire.Message} {answers : List Wire.Message}
    (answered : gateway.Answers connection content answers)
    (closes : gateway.Closes connection content answers) : ∃ answer, answers = [answer] := by
  unfold Gateway.Answers at answered
  split at answered
  · exact ⟨_, answered⟩
  · obtain ⟨code, same⟩ := answered
    exact ⟨_, same⟩
  · exact ⟨_, answered⟩
  · rename_i message activation diagnostic
    cases message with
    | routingActivationRequest body => exact absurd rfl (activation body)
    | diagnosticMessage body => exact absurd rfl (diagnostic body)
    | _ => exact closes.elim

variable {connection : ConnectionId} {id : SocketId}

/-- After one more frame the dialogue stands as the reader goes on. There are three ways: the frame
is answered and reading goes on, it is answered and the connection is closed, or its answer is
waited for. -/
theorem standing_of_reacts {before middle : Gateway} {content : Except Wire.Fault Wire.Message}
    {answers posted : List Wire.Message} {flow : Flow} {past : List Exchange} {ended : Prop}
    (peer : Net.Endpoint) (settled : ∀ exchange ∈ past, exchange.Settled connection)
    (opened : middle.registry.pool.isOpen connection = true)
    (reacts : Reacts connection content before answers middle.registry flow) :
    Standing connection (past ++ [⟨before, content, answers⟩]) (posted ++ answers) ended
      (middle.continueReading id peer connection flow).value.registry (flow.reader connection) := by
  cases reacts with
  | proceeds answered survives =>
    refine .reads (fun exchange member => ?_) opened
    rcases List.mem_append.mp member with old | last
    · exact settled exchange old
    · obtain rfl := List.mem_singleton.mp last
      exact ⟨answered, survives⟩
  | waits activation unanswered awaits =>
    exact .decides rfl settled activation unanswered awaits opened
  | closes answered closes =>
    obtain ⟨answer, rfl⟩ := answer_of_closes answered closes
    exact .closed rfl settled answered closes rfl rfl (isClosed_finishReading peer opened)

/-! ## Histories -/

/-- The reader of a socket finds that its stream has ended. -/
def Scene.Ends (id : SocketId) (scene : Scene) : Prop :=
  scene.occurrence.action = .task (.read id) ∧
    ∃ socket connection ending, scene.before.gateway.sockets[id]? = some socket ∧
      socket.reader = .reading connection ∧
      socket.inbound? scene.before.gateway.config.maxDataSize = some (.ended ending)

/-- In some scene of a history the reader of a socket finds that its stream has ended. -/
def EndsReading (id : SocketId) (history : History) (station : Station) : Prop :=
  ∃ scene ∈ station.scenes history, scene.Ends id

/-- Nothing but the reader of a socket closes a connection. -/
def Unhindered (id : SocketId) (connection : ConnectionId) (history : History)
    (station : Station) : Prop :=
  ∀ scene ∈ station.scenes history, scene.occurrence.action ≠ .task (.read id) →
    scene.before.gateway.registry.pool.isOpen connection = true →
      scene.after.gateway.registry.pool.isOpen connection = true

variable {station : Station} {history past : History} {occurrence : Occurrence} {socket : Socket}

/-- A reader has ended before, or ends by the last occurrence. -/
theorem endsReading_concat :
    station.EndsReading id (past ++ [occurrence]) ↔
      station.EndsReading id past ∨ Scene.Ends id ⟨station.replay past, occurrence⟩ := by
  simp only [EndsReading, scenes_concat, List.mem_append, List.mem_singleton, or_and_right,
    exists_or, exists_eq_left]

/-- A reader is not hindered by the last occurrence if this leaves its connection open. -/
theorem unhindered_concat :
    station.Unhindered id connection (past ++ [occurrence]) ↔
      station.Unhindered id connection past ∧
        (occurrence.action ≠ .task (.read id) →
          (station.replay past).gateway.registry.pool.isOpen connection = true →
            ((station.replay past).act occurrence).gateway.registry.pool.isOpen connection =
              true) := by
  simp only [Unhindered, scenes_concat, List.mem_append, List.mem_singleton, or_imp, forall_and,
    forall_eq]
  rfl

/-- A gateway keeps its identity. It is fixed when the gateway is made, and no occurrence
writes it. -/
theorem identity_act (occurrence : Occurrence) (station : Station) :
    (station.act occurrence).gateway.identity = station.gateway.identity := by
  cases writes : occurrence.action.writes with
  | false => exact (tells_act occurrence writes station).identity
  | true =>
    obtain ⟨moment, action⟩ := occurrence
    cases action with
    | event event => cases writes
    | task task =>
      cases task with
      | write id =>
        show (station.gateway.write id).value.identity = _
        unfold Gateway.write
        split
        · rfl
        · split
          · split
            · rfl
            · rfl
            · unfold Gateway.writeMessage
              split <;> rfl
          · rfl
      | _ => cases writes

/-- Nothing that happens changes the identity of a gateway. -/
theorem identity_replay (history : History) (station : Station) :
    (station.replay history).gateway.identity = station.gateway.identity := by
  induction history using List.reverseRecOn with
  | nil => rfl
  | append_singleton past occurrence inductionHypothesis =>
    rw [replay_concat]
    exact (identity_act occurrence _).trans inductionHypothesis

/-- All frames are taken by a gateway with the same identity. So the answers of one conversation all
speak of the same VIN and the same addresses. -/
theorem identity_exchanges (id : SocketId) (history : History) (station : Station) :
    ∀ exchange ∈ station.exchanges id history,
      exchange.gateway.identity = station.gateway.identity := by
  induction history using List.reverseRecOn with
  | nil =>
    intro exchange member
    cases member
  | append_singleton past occurrence inductionHypothesis =>
    rw [exchanges_concat, Scene.converse]
    split
    · intro exchange member
      rcases List.mem_append.mp member with old | last
      · exact inductionHypothesis exchange old
      · obtain rfl := List.mem_singleton.mp last
        exact identity_replay past station
    · rcases List.eq_nil_or_concat (station.exchanges id past) with none | ⟨front, last, split⟩
      · rw [none]
        intro exchange member
        cases member
      · rw [List.concat_eq_append] at split
        rw [split] at inductionHypothesis ⊢
        rw [List.modifyLast_concat]
        intro exchange member
        rcases List.mem_append.mp member with old | same
        · exact inductionHypothesis exchange (List.mem_append_left _ old)
        · obtain rfl := List.mem_singleton.mp same
          exact inductionHypothesis last (List.mem_append_right _ (List.mem_singleton_self last))
    · exact inductionHypothesis

/-- A socket that nobody serves has no dialogue. The induction is on the history: a step that takes
a frame is one of a reader that serves a connection. -/
theorem exchanges_of_unserved (unvisited : station.gateway.Unvisited) (history : History) :
    station.connectionOf id history = none → station.exchanges id history = [] := by
  induction history using List.reverseRecOn with
  | nil => exact fun _ => rfl
  | append_singleton past occurrence inductionHypothesis =>
    intro unowned
    rw [connectionOf_concat] at unowned
    obtain ⟨before, -⟩ := Option.or_eq_none_iff.mp unowned
    have idle : (station.replay past).gateway.turn? id = none := by
      cases found : (station.replay past).gateway.sockets[id]? with
      | none => simp [Gateway.turn?, found]
      | some socket =>
        have unserved := (assigned_replay unvisited past).unserved before found
        rw [turn?_of_found found]
        cases reads : socket.reader with
        | reading connection => exact absurd rfl (reads ▸ unserved.reader connection)
        | deciding connection request source =>
          exact absurd rfl (reads ▸ unserved.reader connection)
        | _ => simp [Socket.turn?, reads]
    have apart : Scene.turn? id ⟨station.replay past, occurrence⟩ = none := by
      unfold Scene.turn?
      split
      · split
        · exact idle
        · rfl
      · rfl
    rw [exchanges_concat, Scene.converse, apart]
    exact inductionHypothesis before

/-! ## The step of a reader -/

variable {moment : Milliseconds} {before later : Socket} {exchanges : List Exchange}
  {posted : List Wire.Message} {ended : Prop}

/-- A step of the reader brings the dialogue on. A frame that it takes begins an exchange, a
decision that it gets ends one, and the end of the stream ends the dialogue. -/
theorem standing_read (sound : station.gateway.registry.Sound)
    (impartial : station.gateway.registry.Impartial)
    (identities : ∀ exchange ∈ exchanges,
      exchange.gateway.identity = station.gateway.identity)
    (found : station.gateway.sockets[id]? = some before)
    (able : station.gateway.canRead moment before = true)
    (standing : Standing connection exchanges posted ended station.gateway.registry before.reader)
    (foundLater : (station.act ⟨moment, .task (.read id)⟩).gateway.sockets[id]? = some later) :
    let scene : Scene := ⟨station, ⟨moment, .task (.read id)⟩⟩
    Standing connection (Scene.converse id exchanges scene)
      (posted ++ postedOn connection scene.log) (ended ∨ scene.Ends id)
      scene.after.gateway.registry later.reader := by
  intro scene
  have turn : scene.turn? id = before.turn? station.gateway.config.maxDataSize := by
    simp only [scene, Scene.turn?, if_true, turn?_of_found found]
  rcases handles_of_canRead able with accepted | ⟨own, middle, flow, events, handles⟩
  · rw [accepted] at standing
    cases standing
  have told : postedOn own scene.log = postedOn own events := by
    rw [postedOn, Scene.log, posts_logged_read, handles.posts found]
    rfl
  have after : scene.after.gateway.registry =
      (middle.continueReading id before.peer own flow).value.registry :=
    congrArg (fun read => read.value.registry) (handles.read found)
  rw [Scene.converse, turn, after, handles.reader found foundLater]
  cases handles with
  | @frame frame _ reads inbound handled =>
    subst handled
    rw [reads] at standing
    cases standing with
    | reads settled opened =>
    have takes : before.turn? station.gateway.config.maxDataSize =
        some (.takes connection frame) := by
      simp [Socket.turn?, reads, inbound]
    have takenSound : (station.gateway.taking id frame).registry.Sound := sound
    have takenImpartial : (station.gateway.taking id frame).registry.Impartial := impartial
    obtain ⟨stays, reacts⟩ := onFrame_reacts moment takenSound takenImpartial opened frame.content
    rw [takes]
    dsimp only
    rw [told]
    exact standing_of_reacts before.peer settled stays (reacts.congr rfl rfl rfl)
  | decision waits handled =>
    subst handled
    rw [waits] at standing
    cases standing with
    | @decides past last body number split settled activation unanswered awaits opened =>
    have resumes : before.turn? station.gateway.config.maxDataSize =
        some (.resumes connection) := by
      simp [Socket.turn?, waits]
    have identity := identities last (split ▸ List.mem_append_right _ (List.mem_singleton_self last))
    have same : ∀ code, station.gateway.activationAnswer body.sourceAddress code =
        last.gateway.activationAnswer body.sourceAddress code := by
      intro code
      simp only [activationAnswer, identity]
    obtain ⟨stays, cases⟩ := pursueActivation_cases moment sound impartial awaits opened
    rw [resumes]
    dsimp only
    rw [told, split, List.modifyLast_concat, unanswered, List.nil_append, activation]
    refine standing_of_reacts before.peer settled stays ?_
    rcases cases with ⟨code, answers, flow⟩ | ⟨answers, flow, awaits⟩
    · rw [answers, flow, same]
      exact reacts_of_code _ last.gateway connection body code
    · rw [answers, flow]
      exact .waits rfl rfl awaits
  | @ended ending reads inbound =>
    rw [reads] at standing
    cases standing with
    | reads settled opened =>
    have untaken : before.turn? station.gateway.config.maxDataSize = none := by
      simp [Socket.turn?, reads, inbound]
    have silent : posts (logEnd connection ending).events = [] := by cases ending <;> rfl
    rw [untaken, told, postedOn_of_silent silent, List.append_nil]
    exact .ended settled (Or.inr ⟨rfl, before, connection, ending, found, reads, inbound⟩)
      (isClosed_finishReading before.peer opened)

/-- While others take their steps the dialogue stands still. They may close the connection, but they
neither read its frames nor answer them. -/
theorem Standing.apart {registry later : Registry} {reader : Reader} {sent : List Wire.Message}
    {passed : Prop} (standing : Standing connection exchanges posted ended registry reader)
    (awaits : ∀ number source, reader = .deciding connection number source →
      registry.Awaits number connection source → later.Awaits number connection source)
    (opened : registry.pool.isOpen connection = true → later.pool.isOpen connection = true)
    (closed : registry.pool.IsClosed connection → later.pool.IsClosed connection ∧ sent = [])
    (ends : ended → passed) :
    Standing connection exchanges (posted ++ sent) passed later reader := by
  cases standing with
  | reads settled isOpen => exact .reads settled (opened isOpen)
  | decides split settled activation unanswered waits isOpen =>
    exact .decides split settled activation unanswered (awaits _ _ rfl waits) (opened isOpen)
  | ended settled read isClosed => exact .ended settled (ends read) (closed isClosed).1
  | closed split settled answered closes only final isClosed =>
    obtain ⟨still, rfl⟩ := closed isClosed
    exact .closed split settled answered closes only (by rw [List.append_nil, final]) still

/-- Whoever reads from a socket that is served goes on reading while others take their steps. What
others do can close its connection, but it is the reader itself that notes this and finishes. -/
theorem reader_act (served : before.ServedBy connection)
    (found : station.gateway.sockets[id]? = some before)
    (accepted : ∀ {after : Gateway}, station.gateway.unaccepted = id :: after.unaccepted →
      before.reader = .waiting)
    (able : station.CanHappen occurrence) (apart : occurrence.action ≠ .task (.read id))
    (opened : ∀ connection, before.reader = .reading connection →
      station.gateway.registry.pool.isOpen connection = true)
    (foundLater : (station.act occurrence).gateway.sockets[id]? = some later) :
    later.reader = before.reader := by
  obtain ⟨same, foundSame, becomes⟩ := becomes_act found occurrence
  obtain rfl := Option.some.inj (foundSame.symm.trans foundLater)
  obtain ⟨moment, action⟩ := occurrence
  cases becomes with
  | rests reader => exact reader
  | admitted first => exact absurd (accepted first) served.not_waiting
  | refused first => exact absurd (accepted first) served.not_waiting
  | abandoned waiting => exact absurd waiting served.not_waiting
  | served => exact absurd rfl apart
  | read => exact absurd rfl apart
  | @left connection reads =>
    obtain ⟨other, foundOther, ready⟩ := mem_enabled.mp able
    obtain rfl := Option.some.inj (foundOther.symm.trans found)
    simp [canLeave, reads, opened connection reads] at ready
  | wrote => rfl
  | silenced => rfl

/-- The step that begins to serve a socket concerns no frame. -/
theorem converse_of_accepted (action : occurrence.action = .task (.read id))
    (found : station.gateway.sockets[id]? = some before) (accepted : before.reader = .accepted) :
    Scene.converse id exchanges ⟨station, occurrence⟩ = exchanges := by
  have untaken : Scene.turn? id ⟨station, occurrence⟩ = none := by
    simp [Scene.turn?, action, turn?_of_found found, Socket.turn?, accepted]
  rw [Scene.converse, untaken]

/-- The dialogue of a socket stands in order at every moment, as long as nothing else closes its
connection. -/
theorem Possible.standing (possible : station.Possible history)
    (unvisited : station.gateway.Unvisited) :
    ∀ connection socket, station.Unhindered id connection history →
      station.connectionOf id history = some connection →
        (station.replay history).gateway.sockets[id]? = some socket →
          Standing connection (station.exchanges id history)
            (postedOn connection (station.log history)) (station.EndsReading id history)
            (station.replay history).gateway.registry socket.reader := by
  refine possible.byOccurrence ?_ ?_
  · intro connection socket _ owns
    cases owns
  intro past occurrence possible able inductionHypothesis connection later unhindered owns found
  have assigned := assigned_replay unvisited past
  have servedPast := possible.served unvisited.served
  obtain ⟨unhinderedPast, stays⟩ := unhindered_concat.mp unhindered
  rw [connectionOf_concat] at owns
  rw [replay_concat] at found ⊢
  rw [exchanges_concat, log_concat, postedOn_append]
  rcases Option.or_eq_some_iff.mp owns with old | ⟨unowned, gets⟩
  · obtain ⟨socket, there, serves⟩ := assigned.served old
    have standing := inductionHypothesis connection socket unhinderedPast old there
    by_cases own : occurrence.action = .task (.read id)
    · obtain ⟨moment, action⟩ := occurrence
      subst own
      obtain ⟨same, foundSame, ready⟩ := mem_enabled.mp able
      obtain rfl := Option.some.inj (foundSame.symm.trans there)
      have identities : ∀ exchange ∈ station.exchanges id past,
          exchange.gateway.identity = (station.replay past).gateway.identity := by
        rw [identity_replay]
        exact identity_exchanges id past station
      have next := standing_read servedPast.sound (possible.impartial unvisited) identities
        there ready standing found
      rw [endsReading_concat]
      exact next
    · have turn : Scene.turn? id ⟨station.replay past, occurrence⟩ = none :=
        Scene.turn?_of_apart own
      have reader : later.reader = socket.reader := by
        refine reader_act serves there (assigned.waits_first there) able own ?_ found
        intro reading reads
        rw [reads] at standing
        cases standing with
        | reads _ opened => exact opened
      rw [Scene.converse, turn, reader]
      refine standing.apart ?_ (stays own) ?_ fun ends => endsReading_concat.mpr (Or.inl ends)
      · intro number source _ awaits
        exact possible.awaits_act unvisited old awaits own
      · have member := mem_scenes_concat past occurrence station
        have all : station.Possible (past ++ [occurrence]) := possible_concat.mpr ⟨possible, able⟩
        exact (all.queues unvisited member connection).closed
  · obtain ⟨rfl, action, socket, there, accepted, serves, -⟩ := serve_of_gets gets
    rw [serves, getElem?_serve there] at found
    obtain rfl := Option.some.inj found
    rw [converse_of_accepted action there accepted,
      exchanges_of_unserved unvisited past unowned, serves]
    refine .reads (fun exchange member => ?_) (isOpen_serve servedPast.numbered socket)
    cases member

/-! ## Answers -/

/-- A dialogue that waits for a decision has begun. -/
theorem Standing.begun {registry : Registry} {number : RequestId} {source : UInt16}
    (standing : Standing connection exchanges posted ended registry
      (.deciding connection number source)) : exchanges ≠ [] := by
  cases standing with
  | decides split =>
    rw [split]
    simp

/-- What the reader queues on its own connection is kept as an answer. An answer that was waited for
belongs to the frame that has asked for it, the last one in the conversation. -/
theorem answers_read {middle : Gateway} {flow : Flow} {events : List Log.Event}
    (handles : Handles moment id connection station.gateway before middle flow events)
    (found : station.gateway.sockets[id]? = some before)
    (standing : Standing connection exchanges posted ended station.gateway.registry before.reader) :
    let scene : Scene := ⟨station, ⟨moment, .task (.read id)⟩⟩
    (Scene.converse id exchanges scene).flatMap Exchange.answers =
      exchanges.flatMap Exchange.answers ++ postedOn connection scene.log := by
  intro scene
  have turn : scene.turn? id = before.turn? station.gateway.config.maxDataSize := by
    simp only [scene, Scene.turn?, if_true, turn?_of_found found]
  have told : posts scene.log = posts events :=
    (posts_logged_read moment id station).trans (handles.posts found)
  rw [Scene.converse, turn]
  cases handles with
  | frame reads inbound =>
    simp only [Socket.turn?, reads, inbound, List.flatMap_append, List.flatMap_singleton]
  | decision waits =>
    rw [waits] at standing
    simp only [Socket.turn?, waits]
    rcases List.eq_nil_or_concat exchanges with none | ⟨past, last, rfl⟩
    · exact absurd none standing.begun
    · rw [List.concat_eq_append, List.modifyLast_concat]
      simp
  | @ended ending reads inbound =>
    have silent : posts scene.log = [] := by
      rw [told]
      cases ending <;> rfl
    simp only [Socket.turn?, reads, inbound, postedOn_of_silent silent, List.append_nil]

/-- Nobody but the reader of its socket gives direct answers on a connection. The readers of
others answer on their own connections, and what the router or the registry queues here is no
direct answer. -/
theorem filter_isReply_of_apart {scene : Scene} (sends : scene.Sends)
    (apart : ∀ id socket, scene.occurrence.action = .task (.read id) →
      scene.before.gateway.sockets[id]? = some socket → ¬ socket.reader.Serves connection) :
    (postedOn connection scene.log).filter Wire.Message.isReply = [] := by
  refine List.filter_eq_nil_iff.mpr fun message member => ?_
  cases sends with
  | @reader id socket own action found serves replies =>
    have other : connection ≠ own := by
      rintro rfl
      exact apart id socket action found serves
    rw [replies.postedOn_other other message member]
    simp [Wire.Message.isReply]
  | routing action waits posted =>
    obtain ⟨post, chosen, rfl⟩ := List.mem_map.mp member
    have told := (List.mem_filter.mp chosen).1
    rw [posted] at told
    obtain ⟨target, -, rfl⟩ := Option.map_eq_some_iff.mp (Option.mem_toList.mp told)
    simp [Wire.Message.diagnostic, Wire.Message.isReply]
  | nobody silent =>
    rw [postedOn_of_silent silent] at member
    cases member

/-- The direct answers on the connection of a socket are those that its reader has given. The
induction is on the history. A step of its own reader adds the same to both sides, and any other
occurrence adds nothing to either. -/
theorem Possible.answers (possible : station.Possible history)
    (unvisited : station.gateway.Unvisited) :
    ∀ connection, station.Unhindered id connection history →
      station.connectionOf id history = some connection →
        (postedOn connection (station.log history)).filter Wire.Message.isReply =
          (station.exchanges id history).flatMap Exchange.answers := by
  refine possible.byOccurrence ?_ ?_
  · intro connection _ owns
    cases owns
  intro past occurrence possible able inductionHypothesis connection unhindered owns
  have all : station.Possible (past ++ [occurrence]) := possible_concat.mpr ⟨possible, able⟩
  have assigned := assigned_replay unvisited past
  let scene : Scene := ⟨station.replay past, occurrence⟩
  have sends : scene.Sends :=
    all.sends unvisited (mem_scenes_concat past occurrence station)
  rw [connectionOf_concat] at owns
  rw [exchanges_concat, log_concat, postedOn_append, List.filter_append]
  rcases Option.or_eq_some_iff.mp owns with old | ⟨unowned, gets⟩
  · obtain ⟨unhinderedPast, -⟩ := unhindered_concat.mp unhindered
    rw [inductionHypothesis connection unhinderedPast old]
    obtain ⟨socket, there, serves⟩ := assigned.served old
    by_cases own : occurrence.action = .task (.read id)
    · obtain ⟨moment, action⟩ := occurrence
      subst own
      obtain ⟨same, foundSame, ready⟩ := mem_enabled.mp able
      obtain rfl := Option.some.inj (foundSame.symm.trans there)
      have standing := possible.standing unvisited connection same
        unhinderedPast old there
      rcases handles_of_canRead ready with accepted | ⟨other, middle, flow, events, handles⟩
      · rw [accepted] at standing
        cases standing
      · obtain rfl := serves.eq_of_serves handles.serves
        have servedPast := possible.served unvisited.served
        have replies := handles.replies servedPast.sound (possible.decides unvisited) there
        have told : posts scene.log = posts events :=
          (posts_logged_read moment id (station.replay past)).trans (handles.posts there)
        rw [answers_read handles there standing]
        refine congrArg _ (List.filter_eq_self.mpr ?_)
        exact (replies.congr told).postedOn_self
    · have silent : (postedOn connection scene.log).filter Wire.Message.isReply = [] := by
        refine filter_isReply_of_apart sends fun reader other action found serving => ?_
        obtain rfl := assigned.eq_of_serves old found serving
        exact own action
      rw [Scene.converse, Scene.turn?_of_apart own]
      show _ ++ (postedOn connection scene.log).filter _ = _
      rw [silent, List.append_nil]
  · obtain ⟨rfl, action, socket, there, accepted, -, silent⟩ := serve_of_gets gets
    rw [possible.unposted unvisited _ (Nat.le_refl _), postedOn_of_silent silent,
      converse_of_accepted action there accepted,
      exchanges_of_unserved unvisited past unowned]
    rfl

end Station

end DiagnosticGateway
