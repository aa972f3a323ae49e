import DiagnosticGateway.Proofs.Gateway.Legibility
import DiagnosticGateway.Proofs.Gateway.Silence

/-!
# What a gateway emits

Whatever a gateway writes to a socket or sends as a datagram says what it was meant to say. The
bytes on a socket spell the messages that its writer has taken from the queue, one after the other,
and a datagram spells the one message that was to be sent: the header of each is accepted, it
announces the payload that follows, and that is decoded as the message itself.

This holds for every configuration that is accepted if no response in its lookup tables is too long
for a diagnostic message, as long as no ECU gets a hook.
-/

namespace DiagnosticGateway

open Wire (Spells)

namespace Gateway

/-- The message that comes next on a socket: the first one in the queue of its connection, unless
writing fails. -/
def toWrite? (id : SocketId) (gateway : Gateway) : Option Wire.Message :=
  (gateway.sockets[id]?).bind fun socket =>
    match socket.writer, socket.writeFault with
    | .writing connection, none => (gateway.registry.pool.waiting connection).head?
    | _, _ => none

/-- What was written to a socket, if there is such a socket. -/
def written (id : SocketId) (gateway : Gateway) : Bytes :=
  (gateway.sockets[id]?).elim [] Socket.written

variable {gateway after : Gateway} {id other : SocketId} {action : Station.Action}

/-- Nobody but a writer writes. -/
theorem Becomes.written {socket later : Socket}
    (becomes : gateway.Becomes id after socket action later)
    (apart : action ≠ .task (.write id)) : later.written = socket.written := by
  cases becomes with
  | rests _ _ written => exact written
  | read _ _ _ written => exact written
  | wrote => exact absurd rfl apart
  | silenced => exact absurd rfl apart
  | _ => rfl

/-- Only the writer of a socket adds to what is written to it. -/
theorem Passes.written (passes : gateway.Passes action after)
    (apart : action ≠ .task (.write id)) : after.written id = gateway.written id := by
  unfold Gateway.written
  cases found : gateway.sockets[id]? with
  | none => rw [passes.missing found]
  | some socket =>
    obtain ⟨later, foundLater, becomes⟩ := passes.becomes found
    rw [foundLater]
    exact becomes.written apart

/-- A socket to which a tester has just connected has got nothing. -/
theorem written_connect {peer : Net.Endpoint} {fault : Option Net.SystemFault}
    (grown : after.sockets = gateway.sockets ++ [.new peer fault]) :
    after.written id = gateway.written id := by
  unfold Gateway.written
  rw [grown]
  by_cases old : id < gateway.sockets.length
  · rw [List.getElem?_append_left old]
  · have least := Nat.le_of_not_lt old
    rw [List.getElem?_eq_none least, List.getElem?_append_right least]
    cases id - gateway.sockets.length <;> rfl

/-- The writer of a socket writes the message that comes next, if there is one. Whether there
is one is decided by the queue and by the state of the socket, and the step of the writer
looks at the same two. -/
theorem written_write (id : SocketId) (gateway : Gateway) :
    (gateway.write id).value.written id =
      gateway.written id ++ (gateway.toWrite? id).elim [] Wire.Message.encode := by
  have changed : ∀ (middle : Gateway) (step : Socket → Socket), middle.sockets = gateway.sockets →
      (middle.updateSocket id step).written id =
        (gateway.sockets[id]?).elim [] fun socket => (step socket).written := by
    intro middle step same
    rw [Gateway.written, getElem?_updateSocket, same]
    cases gateway.sockets[id]? with
    | none => rfl
    | some socket => simp
  cases found : gateway.sockets[id]? with
  | none => simp [write, found, toWrite?]
  | some socket =>
    rw [found] at changed
    have before : gateway.written id = socket.written := by
      rw [Gateway.written, found, Option.elim_some]
    cases writes : socket.writer with
    | writing connection =>
      have next : gateway.toWrite? id =
          socket.writeFault.elim (gateway.registry.pool.waiting connection).head? fun _ => none := by
        rw [toWrite?, found, Option.bind_some, writes]
        cases socket.writeFault <;> rfl
      rw [before, next]
      simp only [write, found, writes]
      unfold Pool.waiting
      cases held : gateway.registry.pool.get? connection with
      | none => cases socket.writeFault <;> simp [before]
      | some holding =>
        simp only [Option.map_some, Option.elim_some]
        cases queue : holding.outbound with
        | nil =>
          refine (changed _ _ rfl).trans ?_
          cases socket.writeFault <;> simp
        | cons message rest =>
          cases faulty : socket.writeFault with
          | none =>
            simp only [writeMessage, faulty]
            exact changed _ _ rfl
          | some fault =>
            simp only [writeMessage, faulty]
            refine (changed _ _ rfl).trans ?_
            simp
    | _ => simp [write, found, toWrite?, writes]

end Gateway

namespace Station

open Gateway

/-- The message that is written to a socket in a scene. -/
def Scene.writes? (id : SocketId) (scene : Scene) : Option Wire.Message :=
  match scene.occurrence.action with
  | .task (.write number) => if number = id then scene.before.gateway.toWrite? id else none
  | _ => none

/-- The messages that a history writes to a socket, oldest first. -/
def writings (id : SocketId) (history : History) (station : Station) : List Wire.Message :=
  (station.scenes history).filterMap (Scene.writes? id)

/-- What a gateway emits says what it was meant to say. The messages are determined by the bytes,
since the frames spell them one after the other, and they are those that were queued. -/
structure Intelligible (history : History) (station : Station) : Prop where
  /-- What was written to a socket spells the messages that were taken from the queue for it. -/
  streams : ∀ id socket, (station.replay history).gateway.sockets[id]? = some socket →
    Spells socket.written (station.writings id history)
  /-- They are the first of those that were queued on its connection. -/
  queued : ∀ id connection, station.connectionOf id history = some connection →
    station.writings id history <+: Log.postedOn connection (station.log history)
  /-- Every datagram that is sent spells the message that was to be sent. -/
  datagrams : ∀ scene ∈ station.scenes history, ∀ datagram ∈ scene.sends,
    ∃ message, scene.transmits? = some (message, datagram.target) ∧ Spells datagram.bytes [message]
  /-- No other datagrams have come to the network. -/
  sent : (station.replay history).network.sent =
    station.network.sent ++ (station.scenes history).flatMap Scene.sends

variable {station : Station} {history : History} {occurrence : Occurrence} {id : SocketId}
  {scene : Scene} {message : Wire.Message}

/-- Whatever happens, a socket gets the message that is written to it, and nothing else. Among all
occurrences only the step of its own writer adds to what a socket has got. -/
theorem written_act (id : SocketId) (occurrence : Occurrence) (station : Station) :
    (station.act occurrence).gateway.written id =
      station.gateway.written id ++
        (Scene.writes? id ⟨station, occurrence⟩).elim [] Wire.Message.encode := by
  obtain ⟨moment, action⟩ := occurrence
  by_cases writes : action = .task (.write id)
  · subst writes
    have own : Scene.writes? id ⟨station, moment, .task (.write id)⟩ =
        station.gateway.toWrite? id := if_pos rfl
    rw [own]
    exact written_write id station.gateway
  · have silent : Scene.writes? id ⟨station, moment, action⟩ = none := by
      unfold Scene.writes?
      split
      · rename_i number same
        obtain rfl : action = .task (.write number) := same
        refine if_neg ?_
        rintro rfl
        exact writes rfl
      · rfl
    rw [silent, Option.elim_none, List.append_nil]
    rcases passes_act ⟨moment, action⟩ station with passes | ⟨peer, fault, -, grown, -⟩
    · exact passes.written writes
    · exact written_connect grown

/-- The last occurrence adds at most one writing. -/
theorem writings_concat (id : SocketId) (history : History) (occurrence : Occurrence)
    (station : Station) :
    station.writings id (history ++ [occurrence]) =
      station.writings id history ++
        (Scene.writes? id ⟨station.replay history, occurrence⟩).toList := by
  rw [writings, scenes_concat, List.filterMap_append]
  cases found : Scene.writes? id ⟨station.replay history, occurrence⟩ <;> simp [writings, found]

/-- What was written to a socket are the messages that were written, one after the other. -/
theorem written_replay (unvisited : station.gateway.Unvisited) (id : SocketId)
    (history : History) :
    (station.replay history).gateway.written id =
      (station.writings id history).flatMap Wire.Message.encode := by
  induction history using List.reverseRecOn with
  | nil =>
    rw [replay, List.foldl_nil, Gateway.written, unvisited.sockets]
    rfl
  | append_singleton past occurrence inductionHypothesis =>
    rw [replay_concat, written_act, inductionHypothesis, writings_concat, List.flatMap_append]
    cases Scene.writes? id ⟨station.replay past, occurrence⟩ <;> simp

/-- What comes next on a socket has waited in a queue. It is the head of the queue of the connection
that the socket is written for. -/
theorem Scene.waits_of_writes? (writes : scene.writes? id = some message) :
    ∃ connection, message ∈ scene.before.gateway.registry.pool.waiting connection := by
  unfold writes? at writes
  split at writes
  · split at writes
    · obtain ⟨socket, -, next⟩ := Option.bind_eq_some_iff.mp writes
      split at next
      · exact ⟨_, List.mem_of_mem_head? next⟩
      · cases next
    · cases writes
  · cases writes

/-- Everything that is written is legible. A message is queued before it is written, and the run up
to there has queued legible ones only. -/
theorem Possible.legible_writings (possible : station.Possible history)
    (unvisited : station.gateway.Unvisited) (candid : station.gateway.Candid)
    (unset : ∀ occurrence ∈ history, occurrence.action.setsHook = false) :
    ∀ message ∈ station.writings id history, message.Legible := by
  intro message member
  obtain ⟨scene, played, writes⟩ := List.mem_filterMap.mp member
  obtain ⟨past, future, split, before⟩ := mem_scenes_iff.mp played
  obtain ⟨connection, waits⟩ := Scene.waits_of_writes? writes
  rw [split] at possible unset
  have front := possible.append.1.candid unvisited candid fun other listed =>
    unset other (List.mem_append_left _ listed)
  rw [before] at waits
  exact front.queued connection message waits

/-- What was sent are the datagrams of the scenes, one after the other. -/
theorem sent_replay (history : History) (station : Station) :
    (station.replay history).network.sent =
      station.network.sent ++ (station.scenes history).flatMap Scene.sends := by
  induction history generalizing station with
  | nil => exact (List.append_nil _).symm
  | cons first rest inductionHypothesis =>
    have begins := Scene.sent_after ⟨station, first⟩
    refine (inductionHypothesis (station.act first)).trans ?_
    rw [scenes, List.flatMap_cons, ← List.append_assoc, ← begins]
    rfl

/-- A datagram spells the message that was to be sent. A scene sends at most one datagram, and it
consists of the one message. -/
theorem Scene.spells_of_sends {datagram : Net.Datagram} (sent : datagram ∈ scene.sends) :
    ∃ message, scene.transmits? = some (message, datagram.target) ∧
      Spells datagram.bytes [message] := by
  rcases scene.sends_cases with none | ⟨message, target, sockets, transmits, -, one⟩
  · rw [none] at sent
    cases sent
  · rw [one] at sent
    obtain rfl := List.mem_singleton.mp sent
    have spelt := (notice_of_transmits transmits).2.spells .nothing
    rw [List.append_nil] at spelt
    exact ⟨message, transmits, spelt⟩

/-- A candid gateway emits what can be read as what it is. What was queued is legible, the writer
spells what it takes, and a datagram is the encoding of a notice. -/
theorem Possible.intelligible (possible : station.Possible history)
    (unvisited : station.gateway.Unvisited) (candid : station.gateway.Candid)
    (unset : ∀ occurrence ∈ history, occurrence.action.setsHook = false) :
    station.Intelligible history where
  streams id socket found := by
    have written := written_replay unvisited id history
    rw [Gateway.written, found, Option.elim_some] at written
    rw [written]
    exact Wire.spells_flatMap (possible.legible_writings unvisited candid unset)
  queued id connection owns := by
    obtain ⟨socket, found, -⟩ := (assigned_replay unvisited history).served owns
    have written := written_replay unvisited id history
    rw [Gateway.written, found, Option.elim_some] at written
    have ordered := (possible.delivery unvisited owns found).ordered
    rw [written] at ordered
    refine Wire.prefix_of_flatMap (possible.legible_writings unvisited candid unset) ?_ ordered
    exact fun _ member => (possible.legible_log unvisited candid unset).of_mem_postedOn member
  datagrams _ _ _ sent := Scene.spells_of_sends sent
  sent := sent_replay history station

end Station

namespace Gateway

open Station

/-- Every frame that a gateway emits is accepted by the codec and decoded as the message that was
queued or to be sent, whatever the configuration and whatever happens, as long as the configured
responses are short enough and no ECU gets a hook. -/
theorem frames_intelligible {library : Pattern.Library} {config : GatewayConfig} {gateway : Gateway}
    (made : Gateway.new library config = .ok gateway) (room : config.HasRoom)
    {network : Net.Network} {history : History}
    (possible : (Station.mk gateway network).Possible history)
    (unset : ∀ occurrence ∈ history, occurrence.action.setsHook = false) :
    (Station.mk gateway network).Intelligible history := by
  unfold Gateway.new at made
  split at made
  · cases made
  · cases made
  · rename_i ecus valid built
    exact possible.intelligible (unvisited_withEcus made)
      (candid_withEcus made (GatewayConfig.plain_buildEcus built room)) unset

/-- A gateway with the engine of the demonstration. -/
def engineGateway : Gateway :=
  (Gateway.new Pattern.Plain.library .demo).toOption.get (by decide +kernel)

/-- The gateway with one engine is made of the configuration of the demonstration. The configuration
passes validation with this library, which is computed. -/
theorem engineGateway_made : Gateway.new Pattern.Plain.library .demo = .ok engineGateway := by
  have same : some engineGateway = (Gateway.new Pattern.Plain.library .demo).toOption :=
    Option.some_get _
  cases made : Gateway.new Pattern.Plain.library .demo with
  | ok gateway =>
    rw [made] at same
    exact congrArg Except.ok (Option.some.inj same).symm
  | error fault =>
    rw [made] at same
    cases same

/-- A tester is registered and asks the engine for its identification. Meanwhile another one asks
the gateway who it is. -/
def identification : History :=
  [⟨0, .event .start⟩,
    ⟨0, .event (.connect ⟨.v4 .loopback, 50001⟩ none)⟩,
    ⟨0, .task .accept⟩,
    ⟨0, .task (.read 0)⟩,
    ⟨0, .event (.deliver 0
      (Wire.Message.routingActivationRequest ⟨0x0E00, .default, none⟩).encode)⟩,
    ⟨0, .task (.read 0)⟩,
    ⟨0, .event (.deliver 0 (Wire.Message.diagnostic 0x0E00 0x0001 [0x22, 0xF1, 0x90]).encode)⟩,
    ⟨0, .task (.read 0)⟩,
    ⟨0, .event (.receipt (.datagram ⟨.v4 .loopback, 50002⟩
      Wire.Message.vehicleIdentificationRequest.encode))⟩,
    ⟨0, .task .receive⟩,
    ⟨0, .task (.work 0)⟩,
    ⟨0, .task .route⟩,
    ⟨0, .task (.write 0)⟩,
    ⟨0, .task (.write 0)⟩,
    ⟨0, .task (.write 0)⟩]

/-- The tester gets the answer to its activation, an acknowledgement and the identification. These
are the bytes on the wire, so a tester that reads them has these three messages and no others. -/
theorem frames_intelligible_identification :
    ∃ socket, ((Station.mk engineGateway .new).replay identification).gateway.sockets[0]? =
        some socket ∧
      Spells socket.written [
        .activationResponse 0x0E00 0x0010 .success,
        .diagnosticAck 0x0001 0x0E00,
        .diagnostic 0x0001 0x0E00 (0x62 :: 0xF1 :: 0x90 :: Bytes.ofText "WVWZZZ1JZ3W386752")] := by
  have possible : (Station.mk engineGateway .new).Possible identification := by decide +kernel
  have intelligible := frames_intelligible engineGateway_made (by decide +kernel) possible (by decide)
  obtain ⟨socket, found⟩ : ∃ socket, ((Station.mk engineGateway .new).replay
      identification).gateway.sockets[0]? = some socket :=
    Option.isSome_iff_exists.mp (by decide +kernel)
  refine ⟨socket, found, ?_⟩
  have spelt := intelligible.streams 0 socket found
  have writings : (Station.mk engineGateway .new).writings 0 identification = [
      .activationResponse 0x0E00 0x0010 .success,
      .diagnosticAck 0x0001 0x0E00,
      .diagnostic 0x0001 0x0E00 (0x62 :: 0xF1 :: 0x90 :: Bytes.ofText "WVWZZZ1JZ3W386752")] := by
    decide +kernel
  rwa [writings] at spelt

end Gateway

end DiagnosticGateway
