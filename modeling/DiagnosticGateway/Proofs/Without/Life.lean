import DiagnosticGateway.Proofs.Gateway.Life
import DiagnosticGateway.Proofs.Without.Reading

/-!
# The life of a gateway without strangers

A gateway accepts the sockets of others, writes to them and routes responses to them as it does
without strangers, as long as there is room for a socket. It is started and stopped together with
its image, and both run on networks that differ in nothing but the datagrams that were sent: the
count of open sockets in a datagram is the one thing in which a stranger shows.
-/

namespace DiagnosticGateway

namespace Gateway

variable {strangers : Strangers} {gateway image : Gateway} {id : SocketId} {socket : Socket}
  {connection : ConnectionId}

/-! ## Accepting -/

/-- There is room for the socket that is to be accepted next, if there is one. -/
def HasRoom (gateway : Gateway) : Prop :=
  ∀ id rest, gateway.arrivals = .socket id :: rest →
    gateway.registry.openConnections.length < gateway.config.maxSockets.toNat

instance HasRoom.decidable (gateway : Gateway) : Decidable gateway.HasRoom :=
  match arrivals : gateway.arrivals with
  | [] => .isTrue (by simp [HasRoom, arrivals])
  | .fault _ :: _ => .isTrue (by simp [HasRoom, arrivals])
  | .socket _ :: _ =>
    decidable_of_iff
      (gateway.registry.openConnections.length < gateway.config.maxSockets.toNat)
      (by simp [HasRoom, arrivals])

/-- Without strangers there are no more open connections than with them. -/
theorem LooksLike.length_openConnections (alike : gateway.LooksLike strangers image) :
    image.registry.openConnections.length ≤ gateway.registry.openConnections.length := by
  rw [alike.image]
  exact Registry.length_openConnections_without gateway.registry

/-- The arrivals of the image are those that do not come from strangers. -/
theorem LooksLike.arrivals (alike : gateway.LooksLike strangers image) :
    image.arrivals = gateway.arrivals.filterMap (Arrival.without strangers.sockets) := by
  rw [alike.image]
  rfl

/-- What waits at the listening socket is replaced. -/
theorem LooksLike.replace (alike : gateway.LooksLike strangers image) (arrivals : List Arrival) :
    LooksLike strangers { gateway with arrivals := arrivals }
      { image with arrivals := arrivals.filterMap (Arrival.without strangers.sockets) } := by
  obtain ⟨overlooks, fits, rfl⟩ := alike
  exact ⟨overlooks, fits, rfl⟩

/-- Somebody who is no stranger is accepted by the image as well, if the gateway has room: the
image, with fewer connections, has room too. -/
theorem LooksLike.accept (alike : gateway.LooksLike strangers image) (room : gateway.HasRoom)
    (known : ∀ id rest, gateway.arrivals = .socket id :: rest → strangers.sockets id = false) :
    gateway.accept.value.LooksLike strangers image.accept.value := by
  have arrivals := alike.arrivals
  cases waits : gateway.arrivals with
  | nil =>
    rw [waits] at arrivals
    simpa [Gateway.accept, waits, arrivals] using alike
  | cons first rest =>
    have taken := alike.replace rest
    rw [waits] at arrivals
    cases first with
    | fault reason =>
      have waitsThere : image.arrivals =
          .fault reason :: rest.filterMap (Arrival.without strangers.sockets) := arrivals
      simp only [Gateway.accept, waits, waitsThere]
      exact taken
    | socket id =>
      have knownSocket := known id rest waits
      have waitsThere : image.arrivals = .socket (place strangers.sockets id) ::
          rest.filterMap (Arrival.without strangers.sockets) := by
        rw [arrivals, List.filterMap_cons, Arrival.without, knownSocket]
        rfl
      have roomHere := room id rest waits
      have roomThere : image.registry.openConnections.length < image.config.maxSockets.toNat := by
        rw [alike.config]
        exact Nat.lt_of_le_of_lt alike.length_openConnections roomHere
      rw [accept_value waits, accept_value waitsThere, if_neg (Nat.not_le.mpr roomHere),
        if_neg (Nat.not_le.mpr roomThere)]
      exact taken.updateSocket knownSocket (fun _ => rfl) fun socket found =>
        (alike.sockets id socket found).read (by simp) (by simp)

/-- Nothing is seen of a stranger that is accepted or refused. Its arrival is left out of the queue,
and its socket out of the list. -/
theorem LooksLike.accept_of_strange (alike : gateway.LooksLike strangers image)
    {rest : List Arrival} (waits : gateway.arrivals = .socket id :: rest)
    (stranger : strangers.sockets id = true) :
    gateway.accept.value.LooksLike strangers image := by
  have arrivals := alike.arrivals
  have taken := alike.replace rest
  have same : rest.filterMap (Arrival.without strangers.sockets) = image.arrivals := by
    rw [arrivals, waits, List.filterMap_cons, Arrival.without, stranger]
    rfl
  rw [same] at taken
  rw [accept_value waits]
  refine taken.updateSocket_of_strange stranger fun socket found => ?_
  split
  · exact Socket.fits_abandon socket
  · exact (alike.sockets id socket found).read (by simp) (by simp)

/-! ## Writing -/

/-- The queue of a connection is emptied at its place. -/
theorem LooksLike.setOutbound (alike : gateway.LooksLike strangers image)
    (known : strangers.connections connection = false) (outbound : List Wire.Message) :
    (gateway.setOutbound connection outbound).LooksLike strangers
      (image.setOutbound (place strangers.connections connection) outbound) :=
  alike.update known _ (fun _ => rfl) fun _ => rfl

/-- The end of a writer is the end of the writer at its place. -/
theorem LooksLike.finishWriting (alike : gateway.LooksLike strangers image)
    (knownSocket : strangers.sockets id = false)
    (known : strangers.connections connection = false) :
    (gateway.finishWriting id connection).value.LooksLike strangers
      (image.finishWriting (place strangers.sockets id)
        (place strangers.connections connection)).value := by
  have dropped := alike.update known Connection.dropReceiver (fun _ => rfl) fun _ => rfl
  refine dropped.updateSocket knownSocket (fun _ => rfl) fun socket found => ?_
  have fits := alike.sockets id socket found
  exact ⟨fits.reading, fits.deciding, by simp⟩

/-- A message is written to the same tester, and the write fails where it fails. A failure is that
of the socket, which has the same fault in the image; the connection is closed in both. -/
theorem LooksLike.writeMessage (alike : gateway.LooksLike strangers image)
    (knownSocket : strangers.sockets id = false)
    (known : strangers.connections connection = false) (socket : Socket)
    (message : Wire.Message) :
    (gateway.writeMessage id socket connection message).value.LooksLike strangers
      (image.writeMessage (place strangers.sockets id) (socket.renumbered strangers.connections)
        (place strangers.connections connection) message).value := by
  have same : (socket.renumbered strangers.connections).writeFault = socket.writeFault := rfl
  unfold Gateway.writeMessage
  rw [same]
  cases socket.writeFault with
  | some fault =>
    have stopped := alike.act ⟨0, .event (.stop connection)⟩ fun id concerns => by
      obtain rfl := Option.some.inj concerns
      exact known
    exact stopped.finishWriting knownSocket known
  | none =>
    refine alike.updateSocket knownSocket (fun _ => rfl) fun socket found => ?_
    have fits := alike.sockets id socket found
    exact ⟨fits.reading, fits.deciding, fits.writing⟩

/-- A step of a writer that is no stranger's is a step of the writer at its place. The queue that it
takes from is the one of its own connection. -/
theorem LooksLike.write (alike : gateway.LooksLike strangers image)
    (knownSocket : strangers.sockets id = false) :
    (gateway.write id).value.LooksLike strangers
      (image.write (place strangers.sockets id)).value := by
  unfold Gateway.write
  rw [alike.getElem?_sockets knownSocket]
  cases found : gateway.sockets[id]? with
  | none => exact alike
  | some socket =>
    have writer : (socket.renumbered strangers.connections).writer =
        socket.writer.renumbered strangers.connections := rfl
    simp only [Option.map_some, writer]
    cases writes : socket.writer with
    | writing connection =>
      have known := ((alike.sockets id socket found).writing connection writes).trans knownSocket
      have queue : (image.registry.pool.get? (place strangers.connections connection)).map
          Connection.outbound = (gateway.registry.pool.get? connection).map
            Connection.outbound := by
        rw [alike.image]
        refine (congrArg (Option.map Connection.outbound)
          (Pool.get?_without known gateway.registry.pool)).trans ?_
        rw [Option.map_map]
        rfl
      simp only [Writer.renumbered, queue]
      cases (gateway.registry.pool.get? connection).map Connection.outbound with
      | none => exact alike
      | some outbound =>
        cases outbound with
        | nil => exact alike.finishWriting knownSocket known
        | cons message rest =>
          exact (alike.setOutbound known rest).writeMessage knownSocket known socket message
    | _ => exact alike

/-- The end of a stranger's writer is not seen. -/
theorem LooksLike.finishWriting_of_strange (alike : gateway.LooksLike strangers image)
    (strangeSocket : strangers.sockets id = true)
    (stranger : strangers.connections connection = true) :
    (gateway.finishWriting id connection).value.LooksLike strangers image := by
  have dropped := alike.update_of_strange stranger Connection.dropReceiver fun _ => rfl
  refine dropped.updateSocket_of_strange strangeSocket fun socket found => ?_
  have fits := alike.sockets id socket found
  exact ⟨fits.reading, fits.deciding, by simp⟩

/-- What is written to a stranger is not seen. Its queue and its socket are left out together, and a
failure closes no connection but its own. -/
theorem LooksLike.write_of_strange (alike : gateway.LooksLike strangers image)
    (strangeSocket : strangers.sockets id = true) :
    (gateway.write id).value.LooksLike strangers image := by
  unfold Gateway.write
  cases found : gateway.sockets[id]? with
  | none => exact alike
  | some socket =>
    cases writes : socket.writer with
    | writing connection =>
      have stranger :=
        ((alike.sockets id socket found).writing connection writes).trans strangeSocket
      simp only [writes]
      cases (gateway.registry.pool.get? connection).map Connection.outbound with
      | none => exact alike
      | some outbound =>
        cases outbound with
        | nil => exact alike.finishWriting_of_strange strangeSocket stranger
        | cons message rest =>
          have taken : LooksLike strangers (gateway.setOutbound connection rest) image :=
            alike.update_of_strange stranger _ fun _ => rfl
          simp only [Gateway.writeMessage]
          cases socket.writeFault with
          | some fault =>
            have stopped := taken.act_of_strange ⟨0, .event (.stop connection)⟩ rfl stranger
              (by simp)
            exact stopped.finishWriting_of_strange strangeSocket stranger
          | none =>
            refine taken.updateSocket_of_strange strangeSocket fun socket found => ?_
            have fits := alike.sockets id socket found
            exact ⟨fits.reading, fits.deciding, fits.writing⟩
    | _ =>
      simp only [writes]
      exact alike

/-! ## Routing -/

/-- A response goes to the same tester. The lookup finds the registered holder of the address, and
strangers are never registered. -/
theorem LooksLike.route (alike : gateway.LooksLike strangers image) :
    gateway.route.value.LooksLike strangers image.route.value := by
  have responses : image.responses = gateway.responses := by
    rw [alike.image]
    rfl
  unfold Gateway.route
  rw [responses]
  cases gateway.responses with
  | nil =>
    exact alike.change (fun gateway => { gateway with routing := false, responses := [] }) rfl rfl
      rfl
  | cons response rest =>
    have taken := alike.change (fun gateway => { gateway with responses := rest }) rfl rfl rfl
    have unregistered := alike.registry.unregistered
    have lookup : image.registry.lookup response.target =
        (gateway.registry.lookup response.target).map (place strangers.connections) := by
      rw [alike.image]
      exact Registry.lookup_without unregistered response.target
    simp only [Gateway.onResponse, lookup]
    cases found : gateway.registry.lookup response.target with
    | none => exact taken
    | some connection =>
      have held := List.find?_some found
      exact taken.send (unregistered.known (by simpa using held)) _

end Gateway

end DiagnosticGateway
