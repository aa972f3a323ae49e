import DiagnosticGateway.Proofs.Without.Conversation

/-!
# Sockets without strangers

The sockets of other testers are accepted, served, read and written in the image as they are in the
gateway, at their places. Of the sockets of strangers nothing is seen.
-/

namespace DiagnosticGateway

namespace Socket

variable {strangers : Strangers} {id : SocketId} {socket : Socket}

/-- A socket with another reader fits if the reader does. -/
theorem Fits.read (fits : socket.Fits strangers id) {reader : Reader}
    (reading : ∀ connection, reader = .reading connection →
      strangers.connections connection = strangers.sockets id)
    (deciding : ∀ connection request source, reader = .deciding connection request source →
      strangers.connections connection = strangers.sockets id ∧ strangers.sockets id = false) :
    { socket with reader := reader }.Fits strangers id :=
  ⟨reading, deciding, fits.writing⟩

/-- A socket that nobody reads or serves any more fits, if nobody else writes to it. -/
theorem Fits.finished (fits : socket.Fits strangers id) :
    { socket with reader := .finished }.Fits strangers id :=
  fits.read (by simp) (by simp)

/-- A socket and the connection that begins to serve it are strangers together. -/
theorem serving_fits {connection : ConnectionId}
    (own : strangers.connections connection = strangers.sockets id) :
    (socket.serving connection).Fits strangers id := by
  refine ⟨?_, fun _ _ _ same => (by cases same), ?_⟩
  · rintro _ same
    obtain rfl := Reader.reading.inj same
    exact own
  · rintro _ same
    obtain rfl := Writer.writing.inj same
    exact own

/-- An abandoned socket serves no connection, so it fits among strangers and others alike. -/
theorem fits_abandon (socket : Socket) : socket.abandon.Fits strangers id :=
  ⟨by simp [abandon], by simp [abandon], by simp [abandon]⟩

end Socket

namespace Gateway

variable {strangers : Strangers} {gateway image : Gateway} {id : SocketId} {socket : Socket}
  {connection : ConnectionId}

/-- If a socket is about to be served, its connection will be a stranger's exactly if the socket
is. -/
def Assigns (strangers : Strangers) (id : SocketId) (gateway : Gateway) : Prop :=
  ∀ socket : Socket, gateway.sockets[id]? = some socket → socket.reader = .accepted →
    strangers.connections gateway.registry.nextConnection = strangers.sockets id

/-- What the reader of a socket finds next is no well-formed routing activation request of a
supported type. -/
def Harmless (id : SocketId) (gateway : Gateway) : Prop :=
  ∀ (socket : Socket) (connection : ConnectionId) (frame : Wire.Frame) (message : Wire.Message),
    gateway.sockets[id]? = some socket → socket.reader = .reading connection →
      socket.inbound? gateway.config.maxDataSize = some (.frame frame) →
        frame.content = .ok message → message.isSupportedActivation = false

/-! ## The sockets of others -/

/-- The end of a reader is the end of the reader at its place. The connection is stopped and removed
by actions that concern it alone. -/
theorem LooksLike.finishReading (alike : gateway.LooksLike strangers image)
    (knownSocket : strangers.sockets id = false)
    (known : strangers.connections connection = false) (peer : Net.Endpoint) :
    (gateway.finishReading id peer connection).value.LooksLike strangers
      (image.finishReading (place strangers.sockets id) peer
        (place strangers.connections connection)).value := by
  have stopped := alike.act ⟨0, .event (.stop connection)⟩ fun id concerns => by
    obtain rfl := Option.some.inj concerns
    exact known
  have removed := stopped.act ⟨0, .event (.remove connection)⟩ fun id concerns => by
    obtain rfl := Option.some.inj concerns
    exact known
  exact removed.updateSocket knownSocket (fun _ => rfl) fun socket found =>
    (alike.sockets id socket found).finished

/-- A reader goes on, waits or comes to its end in the image as well. What it waits for is a
request, and requests have the same numbers in the image. -/
theorem LooksLike.continueReading (alike : gateway.LooksLike strangers image)
    (knownSocket : strangers.sockets id = false)
    (known : strangers.connections connection = false) (peer : Net.Endpoint) (flow : Flow) :
    (gateway.continueReading id peer connection flow).value.LooksLike strangers
      (image.continueReading (place strangers.sockets id) peer
        (place strangers.connections connection) flow).value := by
  have own : strangers.connections connection = strangers.sockets id :=
    known.trans knownSocket.symm
  cases flow with
  | proceed =>
    refine alike.updateSocket knownSocket (fun _ => rfl) fun socket found => ?_
    refine (alike.sockets id socket found).read ?_ (by simp)
    rintro _ same
    obtain rfl := Reader.reading.inj same
    exact own
  | wait request source =>
    refine alike.updateSocket knownSocket (fun _ => rfl) fun socket found => ?_
    refine (alike.sockets id socket found).read (by simp) ?_
    rintro _ _ _ same
    obtain ⟨rfl, -, -⟩ := Reader.deciding.inj same
    exact ⟨own, knownSocket⟩
  | close => exact alike.finishReading knownSocket known peer

/-- A socket that is no stranger's gets the next connection, which in the image is the next one too,
the strangers before it not being counted. -/
theorem LooksLike.serve (alike : gateway.LooksLike strangers image)
    (knownSocket : strangers.sockets id = false)
    (known : strangers.connections gateway.registry.nextConnection = false) (now : Milliseconds)
    (socket : Socket) :
    (gateway.serve now id socket).value.LooksLike strangers
      (image.serve now (place strangers.sockets id)
        (socket.renumbered strangers.connections)).value := by
  have opened := alike.act ⟨now, .event (.openConnection gateway.config.timings)⟩
    fun id concerns => by
      obtain rfl := Option.some.inj concerns
      exact known
  have added := opened.act ⟨now, .event (.add gateway.registry.nextConnection)⟩
    fun id concerns => by
      obtain rfl := Option.some.inj concerns
      exact known
  have started := added.act ⟨now, .event (.start gateway.registry.nextConnection)⟩
    fun id concerns => by
      obtain rfl := Option.some.inj concerns
      exact known
  have next : image.registry.nextConnection =
      place strangers.connections gateway.registry.nextConnection := by
    rw [alike.image]
    rfl
  have same : ∀ socket : Socket,
      (socket.renumbered strangers.connections).serving
          (place strangers.connections gateway.registry.nextConnection) =
        (socket.serving gateway.registry.nextConnection).renumbered strangers.connections :=
    fun _ => rfl
  have value := serve_value now (place strangers.sockets id)
    (socket.renumbered strangers.connections) image
  have timings : image.config.timings = gateway.config.timings := by rw [alike.config]
  rw [timings, next] at value
  rw [serve_value, value]
  exact started.updateSocket knownSocket same fun _ _ =>
    Socket.serving_fits (known.trans knownSocket.symm)

/-- A reader finds the same frame at its place, since the bytes that have come in are those of its
own socket. -/
theorem LooksLike.readNext (alike : gateway.LooksLike strangers image)
    (knownSocket : strangers.sockets id = false)
    (known : strangers.connections connection = false) (now : Milliseconds) (socket : Socket) :
    (gateway.readNext now id socket connection).value.LooksLike strangers
      (image.readNext now (place strangers.sockets id) (socket.renumbered strangers.connections)
        (place strangers.connections connection)).value := by
  have inbound : (socket.renumbered strangers.connections).inbound? image.config.maxDataSize =
      socket.inbound? gateway.config.maxDataSize := by
    rw [alike.config]
    rfl
  unfold Gateway.readNext
  rw [inbound]
  cases socket.inbound? gateway.config.maxDataSize with
  | none => exact alike
  | some inbound =>
    cases inbound with
    | ended ending => exact alike.finishReading knownSocket known socket.peer
    | frame frame =>
      have taken : LooksLike strangers
          (gateway.updateSocket id fun socket => { socket with incoming := frame.rest })
          (image.updateSocket (place strangers.sockets id) fun socket =>
            { socket with incoming := frame.rest }) :=
        alike.updateSocket knownSocket (fun _ => rfl) fun other same =>
          ⟨(alike.sockets id other same).reading, (alike.sockets id other same).deciding,
            (alike.sockets id other same).writing⟩
      obtain ⟨answered, flow⟩ := taken.onFrame known now frame.content
      simp only [Logged.value_bind]
      rw [flow]
      exact answered.continueReading knownSocket known socket.peer _

/-- A step of a reader that is no stranger's is a step of the reader at its place. A socket that is
about to be served gets the next connection, which is a known one by assumption. -/
theorem LooksLike.read (alike : gateway.LooksLike strangers image)
    (knownSocket : strangers.sockets id = false) (assigns : gateway.Assigns strangers id)
    (now : Milliseconds) :
    (gateway.read now id).value.LooksLike strangers
      (image.read now (place strangers.sockets id)).value := by
  unfold Gateway.read
  rw [alike.getElem?_sockets knownSocket]
  cases found : gateway.sockets[id]? with
  | none => exact alike
  | some socket =>
    have fits := alike.sockets id socket found
    have reader : (socket.renumbered strangers.connections).reader =
        socket.reader.renumbered strangers.connections := rfl
    simp only [Option.map_some, reader]
    cases reads : socket.reader with
    | accepted =>
      exact alike.serve knownSocket ((assigns socket found reads).trans knownSocket) now socket
    | reading connection =>
      exact alike.readNext knownSocket ((fits.reading connection reads).trans knownSocket) now socket
    | deciding connection request source =>
      have known := (fits.deciding connection request source reads).1.trans knownSocket
      obtain ⟨answered, flow⟩ := alike.pursueActivation known now request source
      simp only [Reader.renumbered, Gateway.resumeDecision, Logged.value_bind]
      rw [flow]
      exact answered.continueReading knownSocket known socket.peer _
    | waiting => exact alike
    | finished => exact alike

/-- A connection is removed at its place when its serving task ends. It can tell by its connection,
which is closed in the image exactly if it is closed here. -/
theorem LooksLike.leave (alike : gateway.LooksLike strangers image)
    (knownSocket : strangers.sockets id = false) :
    (gateway.leave id).value.LooksLike strangers
      (image.leave (place strangers.sockets id)).value := by
  unfold Gateway.leave
  rw [alike.getElem?_sockets knownSocket]
  cases found : gateway.sockets[id]? with
  | none => exact alike
  | some socket =>
    have reader : (socket.renumbered strangers.connections).reader =
        socket.reader.renumbered strangers.connections := rfl
    simp only [Option.map_some, reader]
    cases reads : socket.reader with
    | reading connection =>
      have known := ((alike.sockets id socket found).reading connection reads).trans knownSocket
      exact alike.finishReading knownSocket known socket.peer
    | _ => exact alike

/-! ## The sockets of strangers -/

/-- The end of a stranger's reader is not seen. -/
theorem LooksLike.finishReading_of_strange (alike : gateway.LooksLike strangers image)
    (strangeSocket : strangers.sockets id = true)
    (stranger : strangers.connections connection = true) (peer : Net.Endpoint) :
    (gateway.finishReading id peer connection).value.LooksLike strangers image := by
  have stopped := alike.act_of_strange ⟨0, .event (.stop connection)⟩ rfl stranger (by simp)
  have removed := stopped.act_of_strange ⟨0, .event (.remove connection)⟩ rfl stranger (by simp)
  exact removed.updateSocket_of_strange strangeSocket fun socket found =>
    (alike.sockets id socket found).finished

/-- How a stranger's reader goes on is not seen, if it does not come to wait for a decision of the
registry. -/
theorem LooksLike.continueReading_of_strange (alike : gateway.LooksLike strangers image)
    (strangeSocket : strangers.sockets id = true)
    (stranger : strangers.connections connection = true) (peer : Net.Endpoint) {flow : Flow}
    (undecided : ∀ request source, flow ≠ .wait request source) :
    (gateway.continueReading id peer connection flow).value.LooksLike strangers image := by
  cases flow with
  | proceed =>
    refine alike.updateSocket_of_strange strangeSocket fun socket found => ?_
    refine (alike.sockets id socket found).read ?_ (by simp)
    rintro _ same
    obtain rfl := Reader.reading.inj same
    exact stranger.trans strangeSocket.symm
  | wait request source => exact absurd rfl (undecided request source)
  | close => exact alike.finishReading_of_strange strangeSocket stranger peer

/-- That a stranger's socket is served is not seen, except that a number is spent; the image skips
it. -/
theorem LooksLike.serve_of_strange (alike : gateway.LooksLike strangers image)
    (strangeSocket : strangers.sockets id = true)
    (stranger : strangers.connections gateway.registry.nextConnection = true)
    (now : Milliseconds) (socket : Socket) :
    (gateway.serve now id socket).value.LooksLike strangers image := by
  have opened := alike.act_of_strange ⟨now, .event (.openConnection gateway.config.timings)⟩ rfl
    stranger (by simp)
  have added := opened.act_of_strange
    ⟨now, .event (.add gateway.registry.nextConnection)⟩ rfl stranger (by simp)
  have started := added.act_of_strange
    ⟨now, .event (.start gateway.registry.nextConnection)⟩ rfl stranger (by simp)
  rw [serve_value]
  exact started.updateSocket_of_strange strangeSocket fun _ _ =>
    Socket.serving_fits (stranger.trans strangeSocket.symm)

/-- A step of a stranger's reader is not seen as long as the stranger does not ask to be
activated. -/
theorem LooksLike.read_of_strange (alike : gateway.LooksLike strangers image)
    (strangeSocket : strangers.sockets id = true) (assigns : gateway.Assigns strangers id)
    (harmless : gateway.Harmless id) (now : Milliseconds) :
    (gateway.read now id).value.LooksLike strangers image := by
  unfold Gateway.read
  cases found : gateway.sockets[id]? with
  | none => exact alike
  | some socket =>
    have fits := alike.sockets id socket found
    cases reads : socket.reader with
    | accepted =>
      simp only [reads]
      exact alike.serve_of_strange strangeSocket
        ((assigns socket found reads).trans strangeSocket) now socket
    | reading connection =>
      have stranger := (fits.reading connection reads).trans strangeSocket
      simp only [reads, Gateway.readNext]
      cases finds : socket.inbound? gateway.config.maxDataSize with
      | none => exact alike
      | some inbound =>
        cases inbound with
        | ended ending => exact alike.finishReading_of_strange strangeSocket stranger socket.peer
        | frame frame =>
          have taken : LooksLike strangers
              (gateway.updateSocket id fun socket => { socket with incoming := frame.rest }) image :=
            alike.updateSocket_of_strange strangeSocket fun other same =>
              ⟨(alike.sockets id other same).reading, (alike.sockets id other same).deciding,
                (alike.sockets id other same).writing⟩
          obtain ⟨answered, undecided⟩ := taken.onFrame_of_strange stranger now
            fun message content => harmless socket connection frame message found reads finds content
          simp only [Logged.value_bind]
          exact answered.continueReading_of_strange strangeSocket stranger socket.peer undecided
    | deciding connection request source =>
      have known := (fits.deciding connection request source reads).2
      rw [strangeSocket] at known
      cases known
    | waiting =>
      simp only [reads]
      exact alike
    | finished =>
      simp only [reads]
      exact alike

/-- That a stranger leaves is not seen. Its connection is removed from the table, where the image
does not have it. -/
theorem LooksLike.leave_of_strange (alike : gateway.LooksLike strangers image)
    (strangeSocket : strangers.sockets id = true) :
    (gateway.leave id).value.LooksLike strangers image := by
  unfold Gateway.leave
  cases found : gateway.sockets[id]? with
  | none => exact alike
  | some socket =>
    cases reads : socket.reader with
    | reading connection =>
      have stranger :=
        ((alike.sockets id socket found).reading connection reads).trans strangeSocket
      simp only [reads]
      exact alike.finishReading_of_strange strangeSocket stranger socket.peer
    | _ =>
      simp only [reads]
      exact alike

end Gateway

end DiagnosticGateway
