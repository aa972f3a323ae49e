import DiagnosticGateway.Gateway.Run
import DiagnosticGateway.Proofs.Without.Actions

/-!
# Gateways without strangers

The strangers of a gateway are some of its sockets, and the connections that serve them. A gateway
may leave them out and number the others by their places. The gateway looks like another one then,
as long as it overlooks the strangers: whatever is done for another tester is done for it in the
image as well.
-/

namespace DiagnosticGateway

/-- The sockets of strangers, and the connections that serve them. -/
structure Strangers where
  sockets : SocketId → Bool
  connections : ConnectionId → Bool

/-- The reader of a connection under its new number. -/
def Reader.renumbered (strange : ConnectionId → Bool) : Reader → Reader
  | reading connection => .reading (place strange connection)
  | deciding connection request source => .deciding (place strange connection) request source
  | waiting => .waiting
  | accepted => .accepted
  | finished => .finished

/-- The writer of a connection under its new number. -/
def Writer.renumbered (strange : ConnectionId → Bool) : Writer → Writer
  | writing connection => .writing (place strange connection)
  | waiting => .waiting
  | finished => .finished

/-- What waits at the listening socket, unless it is a stranger. -/
def Arrival.without (strange : SocketId → Bool) : Arrival → Option Arrival
  | socket id => if strange id then none else some (.socket (place strange id))
  | fault reason => some (.fault reason)

namespace Socket

/-- The socket of a connection under its new number. -/
def renumbered (strange : ConnectionId → Bool) (socket : Socket) : Socket :=
  { socket with
    reader := socket.reader.renumbered strange
    writer := socket.writer.renumbered strange }

/-- Strangers are served by strange connections, and no decision is theirs. -/
structure Fits (strangers : Strangers) (id : SocketId) (socket : Socket) : Prop where
  reading : ∀ connection, socket.reader = .reading connection →
    strangers.connections connection = strangers.sockets id
  deciding : ∀ connection request source, socket.reader = .deciding connection request source →
    strangers.connections connection = strangers.sockets id ∧ strangers.sockets id = false
  writing : ∀ connection, socket.writer = .writing connection →
    strangers.connections connection = strangers.sockets id

end Socket

namespace Gateway

/-- The gateway without strangers. -/
def without (strangers : Strangers) (gateway : Gateway) : Gateway :=
  { gateway with
    registry := gateway.registry.without strangers.connections
    arrivals := gateway.arrivals.filterMap (Arrival.without strangers.sockets)
    sockets := (others strangers.sockets gateway.sockets).map
      (Socket.renumbered strangers.connections) }

/-- A gateway overlooks strangers, and without them it looks like its image. -/
structure LooksLike (strangers : Strangers) (gateway image : Gateway) : Prop where
  registry : gateway.registry.Overlooks strangers.connections
  sockets : ∀ (id : SocketId) (socket : Socket), gateway.sockets[id]? = some socket →
    socket.Fits strangers id
  image : image = gateway.without strangers

variable {strangers : Strangers} {gateway image : Gateway} {id : SocketId}
  {connection : ConnectionId} {now : Milliseconds}

/-- What concerns neither connections nor sockets happens to the image as well. -/
theorem LooksLike.change (alike : gateway.LooksLike strangers image) (change : Gateway → Gateway)
    (registry : (change gateway).registry = gateway.registry)
    (sockets : (change gateway).sockets = gateway.sockets)
    (commutes : change (gateway.without strangers) = (change gateway).without strangers) :
    (change gateway).LooksLike strangers (change image) where
  registry := registry ▸ alike.registry
  sockets := sockets ▸ alike.sockets
  image := by rw [alike.image, commutes]

/-! ## Sockets -/

/-- A socket that is not strange is found at its place. -/
theorem LooksLike.getElem?_sockets (alike : gateway.LooksLike strangers image)
    (known : strangers.sockets id = false) :
    image.sockets[place strangers.sockets id]? =
      (gateway.sockets[id]?).map (Socket.renumbered strangers.connections) := by
  rw [alike.image]
  show ((others strangers.sockets gateway.sockets).map _)[_]? = _
  rw [List.getElem?_map, getElem?_others _ known]

/-- Sockets fit if all that have changed do. One socket is changed, and the others fit as before. -/
theorem LooksLike.fits_modify (alike : gateway.LooksLike strangers image) (step : Socket → Socket)
    (fits : ∀ socket : Socket, gateway.sockets[id]? = some socket →
      (step socket).Fits strangers id) :
    ∀ (other : SocketId) (socket : Socket),
      (gateway.sockets.modify id step)[other]? = some socket → socket.Fits strangers other := by
  intro other socket found
  rw [List.getElem?_modify] at found
  obtain ⟨before, earlier, rfl⟩ := Option.map_eq_some_iff.mp found
  split
  · rename_i here
    subst here
    exact fits before earlier
  · exact alike.sockets other before earlier

/-- A change to a socket is the same change at its place, if it does not look at the number of the
connection. -/
theorem LooksLike.updateSocket (alike : gateway.LooksLike strangers image)
    (known : strangers.sockets id = false) {step stepImage : Socket → Socket}
    (same : ∀ socket, stepImage (socket.renumbered strangers.connections) =
      (step socket).renumbered strangers.connections)
    (fits : ∀ socket : Socket, gateway.sockets[id]? = some socket →
      (step socket).Fits strangers id) :
    (gateway.updateSocket id step).LooksLike strangers
      (image.updateSocket (place strangers.sockets id) stepImage) where
  registry := alike.registry
  sockets := alike.fits_modify step fits
  image := by
    have moved : ∀ (sockets : List Socket) (number : Nat),
        (sockets.map (Socket.renumbered strangers.connections)).modify number stepImage =
          (sockets.modify number step).map (Socket.renumbered strangers.connections) := by
      intro sockets number
      apply List.ext_getElem?
      intro position
      simp only [List.getElem?_modify, List.getElem?_map]
      cases sockets[position]? with
      | none => rfl
      | some socket =>
        simp only [Option.map_some, Option.map_eq_map]
        split
        · rw [same]
        · rfl
    rw [alike.image]
    simp only [Gateway.updateSocket, without, others_modify_of_known _ _ known, moved]

/-- Nothing is seen of what happens to the socket of a stranger. -/
theorem LooksLike.updateSocket_of_strange (alike : gateway.LooksLike strangers image)
    (stranger : strangers.sockets id = true) {step : Socket → Socket}
    (fits : ∀ socket : Socket, gateway.sockets[id]? = some socket →
      (step socket).Fits strangers id) :
    (gateway.updateSocket id step).LooksLike strangers image where
  registry := alike.registry
  sockets := alike.fits_modify step fits
  image := by
    rw [alike.image]
    simp only [Gateway.updateSocket, without, others_modify_of_strange _ _ stranger]

/-! ## The registry -/

/-- What is done in the registry and concerns no stranger is done in the image. The sockets have no
part in it. -/
theorem LooksLike.act (alike : gateway.LooksLike strangers image)
    (occurrence : Registry.Occurrence)
    (known : ∀ id, gateway.registry.subject occurrence.action = some id →
      strangers.connections id = false) :
    LooksLike strangers { gateway with registry := gateway.registry.act occurrence }
      { image with
        registry := image.registry.act (occurrence.renumbered strangers.connections) } where
  registry := by
    refine alike.registry.act fun connection source asks => known connection ?_
    rw [asks]
    rfl
  sockets := alike.sockets
  image := by
    rw [alike.image]
    exact congrArg (fun registry => { gateway.without strangers with registry := registry })
      (alike.registry.act_of_known known)

/-- Nothing is seen of what a stranger does in the registry, unless it asks. -/
theorem LooksLike.act_of_strange (alike : gateway.LooksLike strangers image)
    (occurrence : Registry.Occurrence)
    (concerns : gateway.registry.subject occurrence.action = some connection)
    (stranger : strangers.connections connection = true)
    (asks : ∀ other source, occurrence.action ≠ .event (.request other source)) :
    LooksLike strangers { gateway with registry := gateway.registry.act occurrence } image where
  registry := alike.registry.act fun other source request => absurd request (asks other source)
  sockets := alike.sockets
  image := by
    rw [alike.image]
    exact congrArg (fun registry => { gateway.without strangers with registry := registry })
      (alike.registry.act_of_strange concerns stranger (asks connection)).symm

/-- Only the queue of a connection is changed. The step must not depend on the number that the
connection goes by. -/
theorem LooksLike.update (alike : gateway.LooksLike strangers image)
    (known : strangers.connections connection = false) (change : Connection → Connection)
    (queue : ∀ connection, change connection =
      { connection with
        receiving := (change connection).receiving
        outbound := (change connection).outbound })
    (same : ∀ connection, change (connection.renumbered strangers.connections) =
      (change connection).renumbered strangers.connections) :
    { gateway with registry := { gateway.registry with
        pool := gateway.registry.pool.update connection change } }.LooksLike strangers
      { image with registry := { image.registry with
        pool := image.registry.pool.update (place strangers.connections connection) change } } where
  registry := alike.registry.update connection change queue
  sockets := alike.sockets
  image := by
    have keepsId : ∀ connection, (change connection).id = connection.id := by
      intro connection
      rw [queue]
    rw [alike.image]
    exact congrArg (fun pool => { gateway.without strangers with
        registry := { gateway.registry.without strangers.connections with pool := pool } })
      (Pool.without_update_of_known known change keepsId same gateway.registry.pool)

/-- A change to a stranger's connection is not seen. As only its queue is changed, it stays
unregistered and nobody's probe concerns it. -/
theorem LooksLike.update_of_strange (alike : gateway.LooksLike strangers image)
    (stranger : strangers.connections connection = true) (change : Connection → Connection)
    (queue : ∀ connection, change connection =
      { connection with
        receiving := (change connection).receiving
        outbound := (change connection).outbound }) :
    { gateway with registry := { gateway.registry with
        pool := gateway.registry.pool.update connection change } }.LooksLike strangers image where
  registry := alike.registry.update connection change queue
  sockets := alike.sockets
  image := by
    have keepsId : ∀ connection, (change connection).id = connection.id := by
      intro connection
      rw [queue]
    rw [alike.image]
    exact congrArg (fun pool => { gateway.without strangers with
        registry := { gateway.registry.without strangers.connections with pool := pool } })
      (Pool.without_update_of_strange stranger change keepsId gateway.registry.pool).symm

end Gateway

end DiagnosticGateway
