import DiagnosticGateway.Proofs.Gateway.Answers
import DiagnosticGateway.Proofs.Without.Interference
import Mathlib.Data.List.ModifyLast

/-!
# The frames of a tester and their answers

The reader of a socket takes frames from the stream of its tester, and queues answers to them. An
exchange is one frame with what the reader has queued about it so far. The exchanges of a history
are kept here by looking at the steps of the reader, scene by scene: a step takes the next frame, or
goes on about the last one, or concerns no frame. Whatever else happens takes nothing from the
stream, so the frames are those at the front of the stream, in their order.
-/

namespace DiagnosticGateway

open Log

/-- What the step of a reader is about. -/
inductive Turn where
  /-- The next frame is taken. -/
  | takes (connection : ConnectionId) (frame : Wire.Frame)
  /-- It is about the last frame, whose answer had to wait. -/
  | resumes (connection : ConnectionId)

/-- What the next step of the reader of a socket is about, if it concerns a frame. -/
def Socket.turn? (limit : UInt32) (socket : Socket) : Option Turn :=
  match socket.reader with
  | .reading connection =>
    match socket.inbound? limit with
    | some (.frame frame) => some (.takes connection frame)
    | _ => none
  | .deciding connection _ _ => some (.resumes connection)
  | _ => none

namespace Gateway

/-- What the next step of the reader of a socket is about, if it concerns a frame. -/
def turn? (id : SocketId) (gateway : Gateway) : Option Turn :=
  (gateway.sockets[id]?).bind (Socket.turn? gateway.config.maxDataSize)

variable {gateway : Gateway} {id other : SocketId} {connection : ConnectionId} {now : Milliseconds}
  {socket : Socket} {frame : Wire.Frame}

/-- What a reader's next step is about can be read off its socket. -/
theorem turn?_of_found (found : gateway.sockets[id]? = some socket) :
    gateway.turn? id = socket.turn? gateway.config.maxDataSize := by
  rw [turn?, found]
  rfl

/-- A frame is taken by a reader that reads, as soon as it is there. In the other phases of a reader
there is a turn of another kind, or none. -/
theorem frame_of_turn? (turn : gateway.turn? id = some (.takes connection frame)) :
    ∃ socket, gateway.sockets[id]? = some socket ∧ socket.reader = .reading connection ∧
      socket.inbound? gateway.config.maxDataSize = some (.frame frame) := by
  obtain ⟨socket, found, takes⟩ := Option.bind_eq_some_iff.mp turn
  unfold Socket.turn? at takes
  split at takes
  · rename_i reads
    split at takes
    · rename_i inbound
      obtain ⟨rfl, rfl⟩ := Turn.takes.inj (Option.some.inj takes)
      exact ⟨socket, found, reads, inbound⟩
    · cases takes
  · cases takes
  · cases takes

/-- The frame that is taken is the first one of the bytes that wait to be read. -/
theorem front_of_turn? (turn : gateway.turn? id = some (.takes connection frame)) :
    Wire.Frame.read? gateway.config.maxDataSize (gateway.unread id) = some frame := by
  obtain ⟨socket, found, -, inbound⟩ := frame_of_turn? turn
  rw [unread, found]
  exact front_of_inbound? inbound

/-- The step of a reader leaves the rest of its stream, and the streams of others. If it takes
a frame, what is left is the rest behind the frame; in all other cases the bytes stay where
they are. -/
theorem unread_read (now : Milliseconds) (id other : SocketId) :
    (gateway.read now id).value.unread other =
      if id = other then
        match gateway.turn? id with
        | some (.takes _ frame) => frame.rest
        | _ => gateway.unread other
      else gateway.unread other := by
  have rests : ∀ {later : Gateway}, gateway.Still later →
      (∀ connection frame, gateway.turn? id ≠ some (.takes connection frame)) →
        later.unread other = if id = other then
          match gateway.turn? id with
          | some (.takes _ frame) => frame.rest
          | _ => gateway.unread other
        else gateway.unread other := by
    intro later still untaken
    rw [still.unread]
    split
    · split
      · exact absurd ‹_› (untaken _ _)
      · rfl
    · rfl
  unfold read
  cases found : gateway.sockets[id]? with
  | none => exact rests still_self (by simp [turn?, found])
  | some socket =>
    have turn := turn?_of_found found
    cases reads : socket.reader with
    | accepted =>
      simp only [reads]
      have serving : Still _ (gateway.serve now id socket).value := still_serve socket
      rw [serving.unread]
      show gateway.unread other = _
      exact rests still_self (by simp [turn, Socket.turn?, reads])
    | reading connection =>
      simp only [reads]
      have still := still_readNext now id connection socket gateway
      cases inbound : socket.inbound? gateway.config.maxDataSize with
      | none =>
        rw [inbound] at still
        exact rests still (by simp [turn, Socket.turn?, reads, inbound])
      | some next =>
        rw [inbound] at still
        cases next with
        | ended ending => exact rests still (by simp [turn, Socket.turn?, reads, inbound])
        | frame frame =>
          rw [still.unread, unread_updateSocket, turn]
          by_cases here : id = other
          · subst here
            simp [found, Socket.turn?, reads, inbound]
          · simp [here, unread]
    | deciding connection request source =>
      simp only [reads]
      have pursued : gateway.Still
          (gateway.resumeDecision now id socket connection request source).value :=
        (still_pursueActivation request source).trans (still_continueReading socket.peer _)
      exact rests pursued (by simp [turn, Socket.turn?, reads])
    | waiting =>
      simp only [reads]
      exact rests still_self (by simp [turn, Socket.turn?, reads])
    | finished =>
      simp only [reads]
      exact rests still_self (by simp [turn, Socket.turn?, reads])

end Gateway

namespace Station

open Gateway

/-- A frame that was taken from the stream of a tester. -/
structure Exchange where
  /-- The gateway when the frame was taken. -/
  gateway : Gateway
  content : Except Wire.Fault Wire.Message
  /-- What the reader has queued on its connection about the frame. -/
  answers : List Wire.Message

/-- What a scene is about for the reader of a socket, if it concerns one of its frames. -/
def Scene.turn? (id : SocketId) (scene : Scene) : Option Turn :=
  match scene.occurrence.action with
  | .task (.read other) => if other = id then scene.before.gateway.turn? id else none
  | _ => none

/-- A scene that is no step of a socket's reader takes nothing up for this reader. -/
theorem Scene.turn?_of_apart {id : SocketId} {scene : Scene}
    (apart : scene.occurrence.action ≠ .task (.read id)) : scene.turn? id = none := by
  unfold turn?
  split
  · rename_i reader action
    exact if_neg fun same => apart (by rw [action, same])
  · rfl

/-- The exchanges with a tester after one more scene. -/
def Scene.converse (id : SocketId) (exchanges : List Exchange) (scene : Scene) : List Exchange :=
  match scene.turn? id with
  | some (.takes connection frame) =>
    exchanges ++ [⟨scene.before.gateway, frame.content, postedOn connection scene.log⟩]
  | some (.resumes connection) =>
    exchanges.modifyLast fun last =>
      { last with answers := last.answers ++ postedOn connection scene.log }
  | none => exchanges

/-- The exchanges with a tester in a history, oldest first. -/
def exchanges (id : SocketId) (history : History) (station : Station) : List Exchange :=
  (station.scenes history).foldl (Scene.converse id) []

variable {station : Station} {history : History} {occurrence : Occurrence} {id : SocketId}
  {connection : ConnectionId}

/-- The conversation goes on with what the last scene adds to it. -/
theorem exchanges_concat (id : SocketId) (history : History) (occurrence : Occurrence)
    (station : Station) :
    station.exchanges id (history ++ [occurrence]) =
      Scene.converse id (station.exchanges id history) ⟨station.replay history, occurrence⟩ := by
  rw [exchanges, scenes_concat, List.foldl_append]
  rfl

/-- The stream of a tester grows by what arrives last. -/
theorem stream_concat (id : SocketId) (history : History) (occurrence : Occurrence)
    (station : Station) :
    station.stream id (history ++ [occurrence]) =
      station.stream id history ++
        (station.replay history).gateway.arriving id occurrence.action := by
  induction history generalizing station with
  | nil => exact List.append_nil _
  | cons first rest inductionHypothesis =>
    show _ ++ (station.act first).stream id (rest ++ [occurrence]) = (_ ++ _) ++ _
    rw [inductionHypothesis, List.append_assoc]
    rfl

/-- Nothing that happens changes the configuration. -/
theorem config_replay (history : History) (station : Station) :
    (station.replay history).gateway.config = station.gateway.config := by
  induction history using List.reverseRecOn with
  | nil => rfl
  | append_singleton past occurrence inductionHypothesis =>
    rw [replay_concat]
    exact (intake_act occurrence _).config.trans inductionHypothesis

/-- A frame is taken from the front of what waits to be read, and everything else only adds to it.
Deliveries at other sockets and the steps of other readers do not show here. -/
theorem unread_act (id : SocketId) (occurrence : Occurrence) (station : Station) :
    (station.act occurrence).gateway.unread id =
      match Scene.turn? id ⟨station, occurrence⟩ with
      | some (.takes _ frame) => frame.rest
      | _ => station.gateway.unread id ++ station.gateway.arriving id occurrence.action := by
  obtain ⟨moment, action⟩ := occurrence
  by_cases reads : ∃ reader, action = .task (.read reader)
  · obtain ⟨reader, rfl⟩ := reads
    refine (unread_read moment reader id).trans ?_
    by_cases here : reader = id
    · subst here
      simp [Scene.turn?, arriving]
    · simp [Scene.turn?, arriving, here]
  · rw [Scene.turn?_of_apart fun same => reads ⟨id, same⟩]
    by_cases delivers : ∃ socket bytes, action = .event (.deliver socket bytes)
    · obtain ⟨socket, bytes, rfl⟩ := delivers
      show (station.gateway.updateSocket socket (Socket.deliver bytes)).unread id = _
      rw [unread_updateSocket, unread, arriving]
      cases station.gateway.sockets[id]? with
      | none => simp
      | some own =>
        by_cases here : socket = id
        · simp [here, Socket.deliver]
        · simp [here]
    · have still := still_act_apart ⟨moment, action⟩ station (fun id same => reads ⟨id, same⟩)
        fun id bytes same => delivers ⟨id, bytes, same⟩
      rw [still.unread, arriving_of_undelivered fun id bytes same => delivers ⟨id, bytes, same⟩]
      exact (List.append_nil _).symm

/-- Answers that are added to the last exchange leave the contents of all as they are. -/
theorem contents_modifyLast (answers : List Wire.Message) (exchanges : List Exchange) :
    (exchanges.modifyLast fun last =>
      { last with answers := last.answers ++ answers }).map Exchange.content =
        exchanges.map Exchange.content := by
  induction exchanges using List.reverseRecOn with
  | nil => rfl
  | append_singleton past last _ =>
    rw [List.modifyLast_concat]
    simp

/-- The frames are taken in the order of the stream, and what was not taken waits to be read. The
induction is on the history. Deliveries add to the end of the stream, and a reader that takes a
frame takes it off the front. -/
theorem takes_replay (unvisited : station.gateway.Unvisited) (id : SocketId) (history : History) :
    Wire.Takes station.gateway.config.maxDataSize (station.stream id history)
      ((station.exchanges id history).map Exchange.content)
      ((station.replay history).gateway.unread id) := by
  induction history using List.reverseRecOn with
  | nil =>
    have empty : station.gateway.unread id = [] := by
      rw [unread, unvisited.sockets]
      rfl
    show Wire.Takes _ [] [] (station.gateway.unread id)
    rw [empty]
    exact .nothing
  | append_singleton past occurrence inductionHypothesis =>
    rw [stream_concat, exchanges_concat, replay_concat, unread_act, Scene.converse]
    have arrives := inductionHypothesis.arrive
      ((station.replay past).gateway.arriving id occurrence.action)
    cases turn : Scene.turn? id ⟨station.replay past, occurrence⟩ with
    | none => exact arrives
    | some step =>
      cases step with
      | resumes connection =>
        dsimp only
        rw [contents_modifyLast]
        exact arrives
      | takes connection frame =>
        -- The step of a reader brings no bytes.
        have reads : (station.replay past).gateway.turn? id = some (.takes connection frame) ∧
            (station.replay past).gateway.arriving id occurrence.action = [] := by
          unfold Scene.turn? at turn
          split at turn
          · rename_i action
            split at turn
            · exact ⟨turn, by rw [show occurrence.action = _ from action]; rfl⟩
            · cases turn
          · cases turn
        have front := front_of_turn? reads.1
        rw [config_replay] at front
        rw [reads.2, List.append_nil, List.map_append]
        exact inductionHypothesis.concat front

end Station

end DiagnosticGateway
