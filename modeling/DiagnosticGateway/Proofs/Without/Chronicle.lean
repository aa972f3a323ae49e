import DiagnosticGateway.Proofs.Gateway.Chronicle
import DiagnosticGateway.Proofs.Without.Occurrences

/-!
# Chronicles without strangers

A history without the strangers is what is left when their affairs are taken out of it. As long as
the strangers are unobtrusive, the image of a station has the same chronicles along what is left as
the station has along the history.
-/

namespace DiagnosticGateway

namespace Gateway

variable {strangers : Strangers} {gateway image : Gateway} {id : SocketId}

/-! ## What is brought to the ECUs -/

/-- What a message hands over to the ECUs does not depend on the strangers. -/
theorem LooksLike.handed (alike : gateway.LooksLike strangers image) {connection : ConnectionId}
    (known : strangers.connections connection = false) (message : Wire.Message) :
    image.handed (place strangers.connections connection) message =
      gateway.handed connection message := by
  cases message with
  | diagnosticMessage body =>
    have targets : image.targets body.targetAddress = gateway.targets body.targetAddress := by
      rw [Gateway.targets, alike.ecus]
      rfl
    simp only [Gateway.handed, alike.sourceAddress known, targets]
  | _ => rfl

/-- A stranger is not registered, so its messages are handed to nobody. -/
theorem LooksLike.handed_of_strange (alike : gateway.LooksLike strangers image)
    {connection : ConnectionId} (stranger : strangers.connections connection = true)
    (message : Wire.Message) : gateway.handed connection message = [] := by
  cases message with
  | diagnosticMessage body =>
    have unregistered := alike.registry.unregistered connection stranger
    simp [Gateway.handed, unregistered]
  | _ => rfl

/-- What a reader hands over is handed over at its place. Its frame is the same, and the address and
the targets it is judged by are those of the image. -/
theorem LooksLike.handedBy (alike : gateway.LooksLike strangers image)
    (known : strangers.sockets id = false) :
    image.handedBy (place strangers.sockets id) = gateway.handedBy id := by
  unfold Gateway.handedBy
  rw [alike.getElem?_sockets known]
  cases found : gateway.sockets[id]? with
  | none => rfl
  | some socket =>
    have inbound : (socket.renumbered strangers.connections).inbound? image.config.maxDataSize =
        socket.inbound? gateway.config.maxDataSize := by
      rw [alike.config]
      rfl
    have reader : (socket.renumbered strangers.connections).reader =
        socket.reader.renumbered strangers.connections := rfl
    simp only [Option.map_some, inbound, reader]
    cases reads : socket.reader with
    | reading connection =>
      have knownConnection :=
        ((alike.sockets id socket found).reading connection reads).trans known
      simp only [Reader.renumbered]
      cases socket.inbound? gateway.config.maxDataSize with
      | none => rfl
      | some inbound =>
        cases inbound with
        | ended ending => rfl
        | frame frame =>
          cases content : frame.content with
          | error fault => simp only [content]
          | ok message => simpa only [content] using alike.handed knownConnection message
    | _ => rfl

/-- A stranger's reader hands over nothing to the ECUs. It would have to be registered for that, and
no stranger is. -/
theorem LooksLike.handedBy_of_strange (alike : gateway.LooksLike strangers image)
    (stranger : strangers.sockets id = true) : gateway.handedBy id = [] := by
  unfold Gateway.handedBy
  cases found : gateway.sockets[id]? with
  | none => rfl
  | some socket =>
    cases reads : socket.reader with
    | reading connection =>
      have strange := ((alike.sockets id socket found).reading connection reads).trans stranger
      simp only [reads]
      cases socket.inbound? gateway.config.maxDataSize with
      | none => rfl
      | some inbound =>
        cases inbound with
        | ended ending => rfl
        | frame frame =>
          cases content : frame.content with
          | error fault => simp only [content]
          | ok message => simpa only [content] using alike.handed_of_strange strange message
    | _ => simp only [reads]

/-! ## What is seen of a tester -/

/-- What is written to a socket is written at its place. -/
theorem LooksLike.writtenTo (alike : gateway.LooksLike strangers image)
    (known : strangers.sockets id = false) :
    image.writtenTo (place strangers.sockets id) = gateway.writtenTo id := by
  unfold Gateway.writtenTo
  rw [alike.getElem?_sockets known]
  cases gateway.sockets[id]? <;> rfl

/-- The connection that a socket serves is found under its place. -/
theorem connection?_renumbered (strange : ConnectionId → Bool) (socket : Socket) :
    (socket.renumbered strange).connection? = socket.connection?.map (place strange) := by
  obtain ⟨peer, nodelay, incoming, ending, reader, written, fault, writer⟩ := socket
  cases writer <;> cases reader <;> rfl

/-- The connection that serves a socket is a stranger's exactly if the socket is. A socket has one
connection for both of its halves. -/
theorem connection?_fits {socket : Socket} (fits : socket.Fits strangers id)
    {connection : ConnectionId} (served : socket.connection? = some connection) :
    strangers.connections connection = strangers.sockets id := by
  unfold Socket.connection? at served
  cases writes : socket.writer with
  | writing other =>
    simp only [writes] at served
    obtain rfl := Option.some.inj served
    exact fits.writing other writes
  | _ =>
    simp only [writes] at served
    cases reads : socket.reader with
    | reading other =>
      simp only [reads] at served
      obtain rfl := Option.some.inj served
      exact fits.reading other reads
    | deciding other request source =>
      simp only [reads] at served
      obtain rfl := Option.some.inj served
      exact (fits.deciding other request source reads).1
    | _ =>
      simp only [reads] at served
      cases served

/-- A tester sees the same state of its connection. The number of the connection is not part of that
state, since a tester does not know it. -/
theorem LooksLike.testerState (alike : gateway.LooksLike strangers image)
    (known : strangers.sockets id = false) :
    image.testerState (place strangers.sockets id) = gateway.testerState id := by
  unfold Gateway.testerState
  rw [alike.getElem?_sockets known]
  cases found : gateway.sockets[id]? with
  | none => rfl
  | some socket =>
    have unnumbered : (socket.renumbered strangers.connections).unnumbered = socket.unnumbered := by
      obtain ⟨peer, nodelay, incoming, ending, reader, written, fault, writer⟩ := socket
      cases reader <;> cases writer <;> rfl
    simp only [Option.map_some, unnumbered, connection?_renumbered]
    cases served : socket.connection? with
    | none => rfl
    | some connection =>
      have knownConnection := (connection?_fits (alike.sockets id socket found) served).trans known
      have same : (image.registry.pool.get? (place strangers.connections connection)).map
          Connection.unnumbered =
            (gateway.registry.pool.get? connection).map Connection.unnumbered := by
        rw [alike.image]
        refine (congrArg (Option.map Connection.unnumbered)
          (Pool.get?_without knownConnection gateway.registry.pool)).trans ?_
        rw [Option.map_map]
        rfl
      simp only [Option.map_some, Option.bind_some, same]

end Gateway

namespace Station

variable {strangers : Strangers} {station image : Station} {history : History}

/-- What an occurrence brings to the ECUs it brings to those of the image, and strangers bring
nothing. -/
theorem LooksLike.ecuEvents (alike : station.LooksLike strangers image) (occurrence : Occurrence) :
    station.ecuEvents occurrence =
      (occurrence.without strangers station.gateway).elim [] fun occurrence =>
        image.ecuEvents occurrence := by
  obtain ⟨moment, action⟩ := occurrence
  have otherwise : ∀ {strange : Nat → Bool} {number : Nat} {action : Nat → Action}
      {events : List (Nat × Ecu.Event)},
      (strange number = false → events = image.ecuEvents ⟨moment, action (place strange number)⟩) →
      (strange number = true → events = []) →
      events = ((unlessStrange strange number action).map (Occurrence.mk moment)).elim []
        fun occurrence => image.ecuEvents occurrence := by
    intro strange number action events known stranger
    unfold unlessStrange
    cases isStrange : strange number with
    | true => exact stranger isStrange
    | false => exact known isStrange
  have numbers := alike.gateway.ecuNumbers
  cases action with
  | event event =>
    cases event with
    | start =>
      show station.ecuEvents _ = image.ecuEvents ⟨moment, .event .start⟩
      simp only [Station.ecuEvents, alike.started, numbers]
    | stop =>
      have running : image.gateway.running? = station.gateway.running? := by
        rw [Gateway.running?, alike.phase]
        rfl
      show station.ecuEvents _ = image.ecuEvents ⟨moment, .event .stop⟩
      simp only [Station.ecuEvents, running, numbers]
    | connect peer fault =>
      simp only [Occurrence.without, Action.without]
      split
      · refine otherwise (fun _ => ?_) fun _ => ?_ <;> rfl
      · rfl
    | deliver id bytes | finish id ending | failWriting id fault =>
      simp only [Occurrence.without, Action.without]
      refine otherwise (fun _ => ?_) fun _ => ?_ <;> rfl
    | _ => rfl
  | task task =>
    cases task with
    | accept =>
      simp only [Occurrence.without, Action.without]
      split
      · refine otherwise (fun _ => ?_) fun _ => ?_ <;> rfl
      · rfl
    | read id =>
      simp only [Occurrence.without, Action.without]
      refine otherwise (fun known => ?_) fun stranger => ?_
      · exact (alike.gateway.handedBy known).symm
      · exact alike.gateway.handedBy_of_strange stranger
    | timer id | leave id | write id =>
      simp only [Occurrence.without, Action.without]
      refine otherwise (fun _ => ?_) fun _ => ?_ <;> rfl
    | _ => rfl

/-! ## Along a history -/

/-- A history without the strangers. -/
def without (strangers : Strangers) : History → Station → History
  | [], _ => []
  | occurrence :: rest, station =>
    (occurrence.without strangers station.gateway).toList ++
      without strangers rest (station.act occurrence)

/-- The strangers are unobtrusive at every occurrence of a history. -/
def Undisturbed (strangers : Strangers) : History → Station → Prop
  | [], _ => True
  | occurrence :: rest, station =>
    Unobtrusive strangers station.gateway occurrence.action ∧
      Undisturbed strangers rest (station.act occurrence)

/-- A station looks like its image after every history without disturbance. -/
theorem LooksLike.replay (alike : station.LooksLike strangers image)
    (undisturbed : station.Undisturbed strangers history) :
    (station.replay history).LooksLike strangers
      (image.replay (station.without strangers history)) := by
  induction history generalizing station image with
  | nil => exact alike
  | cons occurrence rest inductionHypothesis =>
    obtain ⟨unobtrusive, later⟩ := undisturbed
    have next := inductionHypothesis (alike.act unobtrusive) later
    rw [without, replay_append]
    exact next

/-- What every occurrence brings in the image as well, and no affair of strangers brings, is brought
in the image along what is left of a history. -/
theorem LooksLike.chronicle (alike : station.LooksLike strangers image)
    (undisturbed : station.Undisturbed strangers history) {item : Type}
    {brings bringsImage : Occurrence → Station → List item}
    (same : ∀ {station image : Station} {occurrence : Occurrence},
      station.LooksLike strangers image →
      Unobtrusive strangers station.gateway occurrence.action →
      brings occurrence station = (occurrence.without strangers station.gateway).elim []
        fun occurrence => bringsImage occurrence image) :
    station.chronicle brings history =
      image.chronicle bringsImage (station.without strangers history) := by
  induction history generalizing station image with
  | nil => rfl
  | cons occurrence rest inductionHypothesis =>
    obtain ⟨unobtrusive, later⟩ := undisturbed
    have next := inductionHypothesis (alike.act unobtrusive) later
    have here := same alike unobtrusive
    rw [Station.chronicle, without, here, next]
    unfold Occurrence.without
    cases occurrence.action.without strangers station.gateway <;> rfl

/-- Whatever is told from a view before and after an occurrence is told in the image as well, if the
view is the same there. -/
theorem LooksLike.told (alike : station.LooksLike strangers image) {occurrence : Occurrence}
    (unobtrusive : Unobtrusive strangers station.gateway occurrence.action) {aspect item : Type}
    {view viewImage : Gateway → aspect}
    (agrees : ∀ {gateway image : Gateway}, gateway.LooksLike strangers image →
      viewImage image = view gateway)
    (tells : aspect → aspect → List item) (still : ∀ view, tells view view = []) :
    tells (view station.gateway) (view (station.act occurrence).gateway) =
      (occurrence.without strangers station.gateway).elim [] fun occurrence =>
        tells (viewImage image.gateway) (viewImage (image.act occurrence).gateway) := by
  have later := alike.act unobtrusive
  rw [← agrees alike.gateway, ← agrees later.gateway]
  cases occurrence.without strangers station.gateway with
  | none => exact still _
  | some occurrence => rfl

/-- In a history that strangers do not disturb, a tester is written the same frames as without
them. -/
theorem LooksLike.frames (alike : station.LooksLike strangers image)
    (undisturbed : station.Undisturbed strangers history) {id : SocketId}
    (known : strangers.sockets id = false) :
    station.frames id history =
      image.frames (place strangers.sockets id) (station.without strangers history) :=
  alike.chronicle undisturbed fun alike unobtrusive =>
    alike.told unobtrusive (fun alike => alike.writtenTo known)
      (fun before after => if after = before then [] else [after.drop before.length])
      fun _ => if_pos rfl

/-- In such a history a tester's connection goes through the same states. -/
theorem LooksLike.states (alike : station.LooksLike strangers image)
    (undisturbed : station.Undisturbed strangers history) {id : SocketId}
    (known : strangers.sockets id = false) :
    station.states id history =
      image.states (place strangers.sockets id) (station.without strangers history) :=
  alike.chronicle undisturbed fun alike unobtrusive =>
    alike.told unobtrusive (fun alike => alike.testerState known)
      (fun before after => if after = before then [] else [after]) fun _ => if_pos rfl

/-- In such a history an ECU is given the same requests. -/
theorem LooksLike.requests (alike : station.LooksLike strangers image)
    (undisturbed : station.Undisturbed strangers history) (index : Nat) :
    station.requests index history =
      image.requests index (station.without strangers history) := by
  refine alike.chronicle undisturbed ?_
  intro station image occurrence alike _
  rw [handsTo, alike.ecuEvents]
  cases occurrence.without strangers station.gateway <;> rfl

/-- In such a history an ECU says the same. -/
theorem LooksLike.emissions (alike : station.LooksLike strangers image)
    (undisturbed : station.Undisturbed strangers history) (index : Nat) :
    station.emissions index history =
      image.emissions index (station.without strangers history) := by
  refine alike.chronicle undisturbed ?_
  intro station image occurrence alike _
  rw [emitsFrom, alike.ecuEvents, ← alike.gateway.ecus]
  cases occurrence.without strangers station.gateway with
  | none => cases image.gateway.ecus[index]? <;> rfl
  | some other => rfl

end Station

end DiagnosticGateway
