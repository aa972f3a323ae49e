import DiagnosticGateway.Proofs.Gateway.Exchanges
import DiagnosticGateway.Proofs.Gateway.Provenance
import DiagnosticGateway.Proofs.Gateway.Senders

/-!
# Isolation of testers

A request that the gateway hands to an ECU comes from the tester that is registered on its
connection, and is acknowledged there. The response goes to the connection that is registered with
the address of that tester when it is routed, which may be another one by then, or to none. So no
response is queued for anybody but the tester with that address, nor twice, nor before the request
is acknowledged; and what is refused reaches no ECU.
-/

namespace DiagnosticGateway

open Log

namespace Station

open Gateway
open Ecu (Desk)

variable {station : Station} {history past : History} {occurrence : Occurrence} {desks : List Desk}
  {scene : Scene} {connection : ConnectionId} {body : Wire.Diagnostic} {index : Nat}

/-! ## Requests -/

/-- In a scene a diagnostic message is taken from the stream on a connection. -/
def Scene.Asks (connection : ConnectionId) (body : Wire.Diagnostic) (scene : Scene) : Prop :=
  ∃ id frame, scene.turn? id = some (.takes connection frame) ∧
    frame.content = .ok (.diagnosticMessage body)

/-- In a scene a diagnostic message is taken from the connection that is registered with its source,
and acknowledged there. Nothing else is queued. -/
structure Scene.Acknowledges (connection : ConnectionId) (body : Wire.Diagnostic) (scene : Scene) :
    Prop where
  asks : scene.Asks connection body
  registered : scene.before.gateway.registry.pool.sourceAddress connection =
    some body.sourceAddress
  posted : posts scene.log =
    [(connection, .diagnosticAck body.targetAddress body.sourceAddress)]

/-- The reader of a socket takes the message. Nothing but the step of a reader takes a frame. -/
theorem Scene.Asks.reader (asks : scene.Asks connection body) :
    ∃ id socket frame, scene.occurrence.action = .task (.read id) ∧
      scene.before.gateway.sockets[id]? = some socket ∧ socket.reader = .reading connection ∧
      socket.inbound? scene.before.gateway.config.maxDataSize = some (.frame frame) ∧
      frame.content = .ok (.diagnosticMessage body) := by
  obtain ⟨id, frame, turn, content⟩ := asks
  unfold turn? at turn
  split at turn
  · rename_i other action
    split at turn
    · rename_i same
      subst same
      obtain ⟨socket, found, reads, inbound⟩ := frame_of_turn? turn
      exact ⟨other, socket, frame, action, found, reads, inbound, content⟩
    · cases turn
  · cases turn

/-- What a diagnostic message brings to the ECUs. -/
theorem Scene.Asks.brings (asks : scene.Asks connection body) :
    scene.brings = scene.before.gateway.handed connection (.diagnosticMessage body) := by
  obtain ⟨id, socket, frame, action, found, reads, inbound, content⟩ := asks.reader
  simp only [Scene.brings, ecuEvents, action, activity, handedBy, found, reads, inbound, content]

/-- A diagnostic message is answered on its connection, if that is open, and nothing else is
queued. -/
theorem Scene.Asks.posts (asks : scene.Asks connection body)
    (sound : scene.before.gateway.registry.Sound) :
    Log.posts scene.log =
      if scene.before.gateway.registry.pool.isOpen connection then
        [(connection, scene.before.gateway.acknowledgement connection body)] else [] := by
  obtain ⟨id, socket, frame, action, found, reads, inbound, content⟩ := asks.reader
  obtain ⟨before, moment, _⟩ := scene
  subst action
  let received : Registry.Occurrence := ⟨moment, .event (.dataReceived connection)⟩
  let taken := before.gateway.taking id frame
  let active := { taken with registry := taken.registry.dataReceived moment connection }
  have activeSound : active.registry.Sound := Registry.sound_act received sound
  obtain ⟨address, opened⟩ := dataReceived_same connection connection moment before.gateway.registry
  have ecus : active.ecus = before.gateway.ecus := rfl
  have same : active.acknowledgement connection body =
      before.gateway.acknowledgement connection body := acknowledgement_congr ecus address body
  have stillOpen : active.registry.pool.isOpen connection =
      before.gateway.registry.pool.isOpen connection := opened
  have handles : Handles moment id connection before.gateway socket
      (taken.onFrame moment connection frame.content).value.1
      (taken.onFrame moment connection frame.content).value.2
      (taken.onFrame moment connection frame.content).events := .frame reads inbound rfl
  rw [content] at handles
  have told := (posts_logged_read moment id before).trans (handles.posts found)
  have answered : Log.posts (active.onDiagnostic connection body).events = _ :=
    posts_onDiagnostic activeSound.consistent body
  rw [same, stillOpen] at answered
  exact told.trans answered

/-- A diagnostic message that is refused brings the ECUs nothing. Each diagnostic message is
answered by one acknowledge, so a refusal excludes that its request was handed over. -/
theorem Scene.Asks.refused (asks : scene.Asks connection body)
    (sound : scene.before.gateway.registry.Sound)
    {refusal : Wire.Acknowledge Wire.DiagnosticNackCode}
    (member : (connection, .diagnosticMessageNegativeAck refusal) ∈ Log.posts scene.log) :
    scene.brings = [] := by
  rw [asks.posts sound] at member
  split at member
  · have refuses := (Prod.mk.inj (List.mem_singleton.mp member)).2
    unfold acknowledgement at refuses
    rw [asks.brings, handed]
    split at refuses
    · rename_i registered
      rw [if_pos registered]
      split at refuses
      · rename_i none
        rw [List.isEmpty_iff.mp none, List.map_nil]
      · cases refuses
    · rename_i unregistered
      rw [if_neg unregistered]
  · cases member

/-- The reader of a socket puts the request of a diagnostic message, whose connection is registered
with its source and on which it is acknowledged. -/
theorem Scene.acknowledges_of_put (sound : scene.before.gateway.registry.Sound) {id : SocketId}
    {request : Ecu.Message} (action : scene.occurrence.action = .task (.read id))
    (handed : (index, .put request) ∈ scene.before.gateway.handedBy id) :
    ∃ connection body, scene.Acknowledges connection body ∧
      request.source = body.sourceAddress ∧ request.target = body.targetAddress ∧
      request.data = body.userData := by
  obtain ⟨socket, connection, frame, body, found, reads, inbound, content, registered, target,
    reached, same⟩ := mem_handedBy handed
  obtain ⟨-, rfl⟩ : index = target.1 ∧ request =
      ⟨body.sourceAddress, body.targetAddress, target.2, body.userData⟩ := by
    simpa using same
  have turn : scene.turn? id = some (.takes connection frame) := by
    have takes := turn?_of_found found
    rw [Socket.turn?, reads, inbound] at takes
    rw [Scene.turn?, action]
    exact (if_pos rfl).trans takes
  have asks : scene.Asks connection body := ⟨id, frame, turn, content⟩
  have acknowledged : scene.before.gateway.acknowledgement connection body =
      .diagnosticAck body.targetAddress body.sourceAddress := by
    have inhabited : (scene.before.gateway.targets body.targetAddress).isEmpty = false :=
      List.isEmpty_eq_false_iff.mpr (List.ne_nil_of_mem reached)
    simp [acknowledgement, registered, inhabited]
  refine ⟨connection, body, ⟨asks, registered, ?_⟩, rfl, rfl, rfl⟩
  rw [asks.posts sound, if_pos (sound.consistent.isOpen_of_registered registered), acknowledged]

/-- Whatever is put to an ECU is put from outside or comes from a diagnostic message that is
acknowledged. -/
theorem Scene.put_cases (served : scene.before.gateway.registry.Served)
    (able : scene.before.CanHappen scene.occurrence) {request : Ecu.Message}
    (brings : (index, .put request) ∈ scene.brings) :
    (∃ change, scene.occurrence.action = .event (.ecu index change)) ∨
      ∃ connection body, scene.Acknowledges connection body ∧
        request.source = body.sourceAddress ∧ request.target = body.targetAddress ∧
        request.data = body.userData := by
  unfold Scene.brings at brings
  rcases bears served able with ⟨-, -, launches, -⟩ | ⟨-, dismisses, -⟩ | ⟨goesOn, -⟩
  · rw [launches] at brings
    exact absurd rfl ((unasked_launching _ _ brings).1 request)
  · rw [dismisses] at brings
    exact absurd rfl ((unasked_dismissing _ _ brings).1 request)
  · rw [goesOn] at brings
    unfold activity at brings
    split at brings
    · rename_i number event action
      obtain ⟨rfl, -⟩ := Prod.mk.inj (List.mem_singleton.mp brings)
      exact Or.inl ⟨event, action⟩
    · rename_i id action
      exact Or.inr (Scene.acknowledges_of_put served.sound action brings)
    · cases List.mem_singleton.mp brings
    · cases brings

/-! ## Responses -/

/-- A diagnostic message that is queued is the response that is routed, and it goes where its target
is registered. -/
theorem Scene.Sends.routes (sends : scene.Sends)
    (served : scene.before.gateway.registry.Served)
    (member : (connection, .diagnosticMessage body) ∈ Log.posts scene.log) :
    ∃ response rest, scene.occurrence.action = .task .route ∧
      scene.before.gateway.responses = response :: rest ∧
      body = ⟨response.source, response.target, response.data⟩ ∧
      scene.before.gateway.registry.pool.sourceAddress connection = some response.target ∧
      Log.posts scene.log = [(connection, .diagnosticMessage body)] := by
  cases sends with
  | reader action found serves replies =>
    rcases replies _ member with ⟨-, reply⟩ | ⟨-, request⟩
    · cases reply
    · cases request
  | @routing response rest action waits posted =>
    rw [posted] at member
    rcases lookup_cases served response.target with ⟨other, found, registered, -⟩ | ⟨missing, -⟩
    · rw [found] at member posted
      obtain ⟨rfl, same⟩ := Prod.mk.inj (List.mem_singleton.mp member)
      obtain rfl := Wire.Message.diagnosticMessage.inj same
      exact ⟨response, rest, action, waits, rfl, registered, posted⟩
    · rw [missing] at member
      cases member
  | nobody silent =>
    rw [silent] at member
    cases member

/-- After some past a tiding is routed to a connection that is registered with its target, and
queued there and nowhere else. -/
structure Dispatches (desks : List Desk) (past : History) (occurrence : Occurrence)
    (tiding : Tiding) (connection : ConnectionId) (station : Station) : Prop where
  next : station.nextTiding? desks past = some tiding
  action : occurrence.action = .task .route
  registered : (station.replay past).gateway.registry.pool.sourceAddress connection =
    some tiding.reply.response.target
  posted : Log.posts (Scene.log ⟨station.replay past, occurrence⟩) =
    [(connection, .diagnostic tiding.reply.response.source tiding.reply.response.target
      tiding.reply.response.data)]

/-- A scene has brought an ECU the request to which a tiding replies. -/
structure RequestedIn (desks : List Desk) (past : History) (tiding : Tiding) (scene : Scene)
    (station : Station) : Prop where
  earlier : scene ∈ station.scenes past
  brings : ∃ desk, desks[tiding.index]? = some desk ∧
    desk.service.past.length ≤ tiding.reply.number ∧
    bringing tiding.index (station.scenes past)
      (tiding.reply.number - desk.service.past.length) = some scene

/-- Where the request comes from to which a tiding replies. -/
inductive Requested (desks : List Desk) (past : History) (tiding : Tiding) (station : Station) :
    Prop
  /-- The ECU had it when it came to the gateway. -/
  | inherited {desk : Desk} (found : desks[tiding.index]? = some desk)
      (before : tiding.reply.number < desk.service.past.length) :
      Requested desks past tiding station
  /-- It was put from outside. -/
  | outside {scene : Scene} {change : Ecu.Event}
      (requested : station.RequestedIn desks past tiding scene)
      (action : scene.occurrence.action = .event (.ecu tiding.index change)) :
      Requested desks past tiding station
  /-- A tester has sent it, and it was acknowledged. -/
  | tester {scene : Scene} {connection : ConnectionId} {body : Wire.Diagnostic}
      (requested : station.RequestedIn desks past tiding scene)
      (acknowledges : scene.Acknowledges connection body)
      (target : tiding.reply.response.target = body.sourceAddress) :
      Requested desks past tiding station

/-- Every tiding replies to a request that was put before. The reply names its request by a number,
and that number belongs either to what the desk met before the history or to an event that some
scene has brought. -/
theorem Possible.requested (possible : station.Possible past)
    (served : station.gateway.registry.Served) {tiding : Tiding}
    (member : tiding ∈ station.tidings desks past) : station.Requested desks past tiding := by
  obtain ⟨later, foundLater, replied⟩ := replied_of_mem_tidings member
  rw [getElem?_desksAfter] at foundLater
  obtain ⟨desk, found, rfl⟩ := Option.map_eq_some_iff.mp foundLater
  obtain ⟨request, data, put, response⟩ := Ecu.Service.Honest.replied (Desk.honest _) _ replied
  rw [Desk.past_meetAll] at put
  rcases Nat.lt_or_ge tiding.reply.number desk.service.past.length with early | late
  · exact .inherited found early
  · rw [List.getElem?_append_right late] at put
    obtain ⟨scene, there, brought, brings⟩ := bringing_of_getElem? put
    obtain ⟨front, possibleFront, same, able⟩ := possible.of_mem_scenes there
    have servedThen : scene.before.gateway.registry.Served := same ▸ possibleFront.served served
    have requested : station.RequestedIn desks past tiding scene :=
      ⟨there, desk, found, late, brought⟩
    rcases Scene.put_cases servedThen able brings with
      ⟨change, action⟩ | ⟨connection, body, acknowledges, source, -⟩
    · exact .outside requested action
    · exact .tester requested acknowledges (by rw [response]; exact source)

/-- A history that begins with some past and an occurrence has the scene of that occurrence. -/
theorem mem_scenes_of_front (station : Station) (front : past ++ [occurrence] <+: history) :
    (⟨station.replay past, occurrence⟩ : Scene) ∈ station.scenes history := by
  obtain ⟨future, rfl⟩ := front
  exact mem_scenes_iff.mpr ⟨past, future, by simp, rfl⟩

/-- Whoever dispatches a tiding takes it from what waits. -/
theorem Dispatches.routing {tiding : Tiding}
    (dispatches : station.Dispatches desks past occurrence tiding connection)
    (sends : Scene.Sends ⟨station.replay past, occurrence⟩)
    (served : (station.replay past).gateway.registry.Served) :
    ∃ routing, (station.replay past).routing? occurrence = some routing := by
  obtain ⟨response, rest, action, waits, -⟩ :=
    sends.routes served (dispatches.posted ▸ List.mem_singleton_self _)
  simp only at action waits
  refine ⟨⟨response, (station.replay past).gateway,
    ((station.replay past).act occurrence).gateway⟩, ?_⟩
  simp only [routing?, action, waits]

/-- Testers are kept apart in a history. The clauses follow a request on its way: from the
message to the ECU, from the ECU to the response that is routed, and from there into the queue
of a tester. -/
structure Isolated (desks : List Desk) (history : History) (station : Station) : Prop where
  /-- Whatever the gateway puts to an ECU is the request of a diagnostic message. Its source is the
  address that is registered on the connection on which the message has arrived, and its data are
  those of the message. -/
  attributed : ∀ scene ∈ station.scenes history, ∀ index request,
    (index, .put request) ∈ scene.brings →
      (∃ change, scene.occurrence.action = .event (.ecu index change)) ∨
        ∃ connection body, scene.Acknowledges connection body ∧
          request.source = body.sourceAddress ∧ request.target = body.targetAddress ∧
          request.data = body.userData
  /-- A diagnostic message that is refused reaches no ECU. -/
  refused : ∀ scene ∈ station.scenes history, ∀ connection body refusal,
    scene.Asks connection body →
      (connection, .diagnosticMessageNegativeAck refusal) ∈ posts scene.log → scene.brings = []
  /-- Every diagnostic message that is queued is the response of an ECU, on the connection that is
  registered with its target, and its request was acknowledged before if it came from a tester. -/
  addressed : ∀ past occurrence, past ++ [occurrence] <+: history → ∀ connection body,
    (connection, .diagnosticMessage body) ∈ posts (Scene.log ⟨station.replay past, occurrence⟩) →
      ∃ tiding : Tiding, body = ⟨tiding.reply.response.source, tiding.reply.response.target,
          tiding.reply.response.data⟩ ∧
        station.Dispatches desks past occurrence tiding connection ∧
        station.Requested desks past tiding
  /-- No request gets responses on two connections, nor two responses on one. -/
  once : ∀ past occurrence later following, past ++ [occurrence] <+: history →
    later ++ [following] <+: history → ∀ tiding connection other elsewhere,
      station.Dispatches desks past occurrence tiding connection →
        station.Dispatches desks later following other elsewhere →
          tiding.request = other.request → past = later ∧ connection = elsewhere
  /-- What is told to be queued comes into the queues, and nothing else does. -/
  queues : ∀ scene ∈ station.scenes history, ∀ connection, scene.Queues connection

/-- Every diagnostic message that is queued for a tester is a response of an ECU to a request of
that tester. -/
theorem Possible.addressed (possible : station.Possible history)
    (unvisited : station.gateway.Unvisited) (informed : Informed desks [] [] station.gateway)
    (leave : ∀ occurrence ∈ history, occurrence.action.Leaves)
    (front : past ++ [occurrence] <+: history)
    (member : (connection, .diagnosticMessage body) ∈
      posts (Scene.log ⟨station.replay past, occurrence⟩)) :
    ∃ tiding : Tiding, body = ⟨tiding.reply.response.source, tiding.reply.response.target,
        tiding.reply.response.data⟩ ∧
      station.Dispatches desks past occurrence tiding connection ∧
      station.Requested desks past tiding := by
  have sends := possible.sends unvisited (mem_scenes_of_front station front)
  obtain ⟨future, rfl⟩ := front
  have possiblePast : station.Possible past := possible.append.1.append.1
  have served := possiblePast.served unvisited.served
  obtain ⟨response, rest, action, waits, same, registered, posted⟩ := sends.routes served member
  have informedPast := possiblePast.informed unvisited.served informed fun other earlier =>
    leave other (by simp [earlier])
  obtain ⟨tiding, next, rfl⟩ := nextTiding?_of_routing informedPast waits
  subst same
  exact ⟨tiding, rfl, ⟨next, action, registered, posted⟩,
    possiblePast.requested unvisited.served (List.mem_of_getElem? next)⟩

/-- Responses that are dispatched one after the other reply to different requests. The later one is
routed when the number of routed responses is greater, and the numbers tell the tidings apart. -/
theorem Possible.dispatched_apart (possible : station.Possible history)
    (unvisited : station.gateway.Unvisited) {later : History} {following : Occurrence}
    {tiding other : Tiding} {elsewhere : ConnectionId}
    (front : past ++ [occurrence] <+: history) (frontLater : later ++ [following] <+: history)
    (first : station.Dispatches desks past occurrence tiding connection)
    (second : station.Dispatches desks later following other elsewhere)
    (shorter : past.length < later.length) : tiding.request ≠ other.request := by
  have sends := possible.sends unvisited (mem_scenes_of_front station front)
  have longer : past ++ [occurrence] <+: later := by
    refine List.prefix_of_prefix_length_le front ((List.prefix_append later _).trans frontLater) ?_
    simpa using Nat.succ_le_of_lt shorter
  obtain ⟨future, rfl⟩ := front
  have served := possible.append.1.append.1.served unvisited.served
  obtain ⟨routing, routes⟩ := first.routing sends served
  exact nextTiding?_after first.next routes longer second.next

/-- In every possible history the testers are isolated from one another. Each clause has its own
lemma above; what is left here is to find the moment of each scene in the history. -/
theorem Possible.isolated (possible : station.Possible history)
    (unvisited : station.gateway.Unvisited) (informed : Informed desks [] [] station.gateway)
    (leave : ∀ occurrence ∈ history, occurrence.action.Leaves) :
    station.Isolated desks history := by
  have servedAt : ∀ scene ∈ station.scenes history, scene.before.gateway.registry.Served ∧
      scene.before.CanHappen scene.occurrence := by
    intro scene member
    obtain ⟨past, front, same, able⟩ := possible.of_mem_scenes member
    exact ⟨same ▸ front.served unvisited.served, able⟩
  refine ⟨?_, ?_, ?_, ?_, fun scene member => possible.queues unvisited member⟩
  · intro scene member index request brings
    obtain ⟨served, able⟩ := servedAt scene member
    exact scene.put_cases served able brings
  · intro scene member connection body refusal asks refuses
    exact asks.refused (servedAt scene member).1.sound refuses
  · intro past occurrence front connection body member
    exact possible.addressed unvisited informed leave front member
  · intro past occurrence later following front frontLater tiding connection other elsewhere first
      second same
    rcases Nat.lt_trichotomy past.length later.length with shorter | equal | longer
    · exact absurd same (possible.dispatched_apart unvisited front frontLater first second shorter)
    · have both : past ++ [occurrence] = later ++ [following] :=
        (List.prefix_of_prefix_length_le front frontLater (by simp [equal])).eq_of_length
          (by simp [equal])
      obtain ⟨rfl, last⟩ := List.append_inj both equal
      obtain rfl := List.singleton_inj.mp last
      have one := first.posted.symm.trans second.posted
      exact ⟨rfl, (Prod.mk.inj (List.singleton_inj.mp one)).1⟩
    · exact absurd same.symm
        (possible.dispatched_apart unvisited frontLater front second first longer)

end Station

namespace Gateway

open Station

/-- In every possible history of a gateway testers are kept apart: every request that reaches an ECU
through the gateway comes from the address that is registered on its connection, every response is
queued on one connection at most and only where its target is registered, after its request was
acknowledged, and a diagnostic message that is refused reaches no ECU. -/
theorem testers_isolated {library : Pattern.Library} {config : GatewayConfig}
    {newcomers : List Newcomer} {gateway : Gateway} {network : Net.Network} {history : History}
    (made : withEcus library config (newcomers.map Newcomer.ecu) = .ok gateway)
    (possible : (Station.mk gateway network).Possible history)
    (leave : ∀ occurrence ∈ history, occurrence.action.Leaves) :
    (Station.mk gateway network).Isolated (newcomers.map Newcomer.desk) history :=
  possible.isolated (unvisited_withEcus made) (informed_withEcus made) leave

/-- The ECU of the demonstration as it comes to its gateway. Its hook is set before it gets a
listener, as the past of a newcomer demands. -/
def holdingNewcomer : Newcomer where
  name := "engine"
  physical := 0x0001
  functional := 0xE400
  lookup := ⟨[]⟩
  maxLookup := 64
  maxLogging := 64
  past := [.setHook fun _ => .respondAndHold [0x7E, 0x00]]
  unheard := by simp [Ecu.Event.Leaves]

/-- In the exchange the gateway hears of one reply to each of the two requests, and the first one is
dispatched on the connection of the tester. -/
theorem testers_isolated_exchange :
    ((Station.mk demonstration .new).tidings [holdingNewcomer.desk] exchange).map Tiding.request =
        [(0, 3), (0, 5)] ∧
      (Station.mk demonstration .new).Isolated [holdingNewcomer.desk] exchange ∧
      ∃ tiding, (Station.mk demonstration .new).Dispatches [holdingNewcomer.desk]
          (exchange.take 11) ⟨0, .task .route⟩ tiding 1 ∧
        (Station.mk demonstration .new).Requested [holdingNewcomer.desk] (exchange.take 11)
          tiding := by
  have made : withEcus Pattern.Plain.library demonstration.config
      ([holdingNewcomer].map Newcomer.ecu) =
      .ok demonstration := demonstration_made
  have possible : (Station.mk demonstration .new).Possible exchange := by decide +kernel
  have leave : ∀ occurrence ∈ exchange, occurrence.action.Leaves := by
    simp [exchange, Action.Leaves]
  have isolated := testers_isolated made possible leave
  have heard : ((Station.mk demonstration .new).tidings [holdingNewcomer.desk] exchange).map
      Tiding.request = [(0, 3), (0, 5)] := by
    decide +kernel
  have routed : (1, .diagnosticMessage ⟨0x0001, 0x0E00, [0x7E, 0x00]⟩) ∈
      posts (Scene.log ⟨(Station.mk demonstration .new).replay (exchange.take 11),
        ⟨0, .task .route⟩⟩) := by
    decide +kernel
  obtain ⟨tiding, -, dispatches, requested⟩ :=
    isolated.addressed (exchange.take 11) ⟨0, .task .route⟩ ⟨exchange.drop 12, rfl⟩ 1 _ routed
  exact ⟨heard, isolated, tiding, dispatches, requested⟩

end Gateway

end DiagnosticGateway
