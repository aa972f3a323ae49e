import DiagnosticGateway.Proofs.Without.Life

/-!
# Stations without strangers

A gateway and its image are started and stopped together, and answer the same datagrams. The
networks on which they run differ in nothing but the datagrams that were sent: the count of open
sockets in an entity status is the one thing in which a stranger shows.
-/

namespace DiagnosticGateway

namespace Net.Network

variable {network : Network} {sent : List Datagram}

/-- The network, had other datagrams been sent. -/
def withSent (sent : List Datagram) (network : Network) : Network :=
  { network with sent := sent }

/-- What a network has sent does not decide whether an endpoint can be bound. It depends on the
outcomes, the next port and what is bound. -/
theorem bind_withSent (protocol : Protocol) (endpoint : Endpoint) :
    (network.withSent sent).bind protocol endpoint =
      ((network.bind protocol endpoint).1,
        (network.bind protocol endpoint).2.withSent sent) := by
  unfold bind withSent
  simp only
  cases network.bindOutcomes.head?.join with
  | some fault => rfl
  | none =>
    unfold choosePort isBound
    simp only
    split <;> split <;> rfl

/-- Nor does it decide whether a group can be joined. -/
theorem join_withSent (group : Ipv4) :
    (network.withSent sent).join group =
      ((network.join group).1, (network.join group).2.withSent sent) := by
  unfold join withSent
  simp only
  cases network.joinOutcomes.head?.join <;> rfl

/-- Whether a datagram is sent does not depend on what was sent before, or on what it says. -/
theorem send_withSent (network : Network) (sent : List Datagram) (datagram other : Datagram) :
    ∃ later, (network.withSent sent).send other =
      ((network.send datagram).1, (network.send datagram).2.withSent later) := by
  unfold send withSent
  simp only
  cases network.sendOutcomes.head?.join with
  | some fault => exact ⟨sent, rfl⟩
  | none => exact ⟨sent ++ [other], rfl⟩

end Net.Network

namespace Sockets

variable {network : Net.Network} {sent : List Net.Datagram}

/-- What a series of calls comes to, had other datagrams been sent. -/
def resent {result : Type} (sent : List Net.Datagram) (called : Called result) : Called result :=
  (called.1, called.2.withSent sent)

/-- A call that is made while an endpoint is held does the same in a network that has sent other
datagrams, if the call itself does. -/
theorem holding_resent {result : Type} (protocol : Net.Protocol) (endpoint : Net.Endpoint)
    {calls others : Logged (Called result)} (same : others.value = resent sent calls.value) :
    (holding protocol endpoint others).value =
      resent sent (holding protocol endpoint calls).value := by
  simp only [holding, Logged.value_bind, same]
  obtain ⟨⟨result | result, network⟩, events⟩ := calls <;> rfl

/-- Joining the discovery groups, one after the other, leaves what was sent as it is. -/
theorem join_resent (config : GatewayConfig) :
    (join config (network.withSent sent)).value = resent sent (join config network).value := by
  unfold join
  cases config.multicastAddress with
  | none => rfl
  | some group =>
    simp only [Net.Network.join_withSent]
    obtain ⟨_ | fault, later⟩ := network.join group <;> rfl

/-- Binding the two endpoints and joining the groups fails or succeeds without regard to what the
network has sent. -/
theorem prepare_resent (config : GatewayConfig) (tcp udp : Net.Endpoint) :
    (prepare config tcp udp (network.withSent sent)).value =
      resent sent (prepare config tcp udp network).value := by
  have broadcast : (network.withSent sent).allowBroadcast =
      (network.allowBroadcast.1, network.allowBroadcast.2.withSent sent) := rfl
  have address : ∀ network : Net.Network, (network.withSent sent).address =
      (network.address.1, network.address.2.withSent sent) := fun _ => rfl
  unfold prepare
  rw [broadcast]
  obtain ⟨_ | fault, network⟩ := network.allowBroadcast
  · simp only [Logged.value_bind, join_resent]
    obtain ⟨fault | joined, network⟩ := (join config network).value
    · rfl
    · simp only [resent, address]
      obtain ⟨_ | fault, network⟩ := network.address
      · simp only [address]
        obtain ⟨_ | fault, network⟩ := network.address <;> rfl
      · rfl
  · rfl

/-- The sockets that are opened do not depend on what was sent before. The cases are the outcomes of
the two bindings, and what follows them. -/
theorem opened_resent (config : GatewayConfig) :
    (opened config (network.withSent sent)).value = resent sent (opened config network).value := by
  unfold opened
  rw [Net.Network.bind_withSent]
  obtain ⟨fault | tcp, network⟩ := network.bind .tcp config.endpoint
  · rfl
  · refine holding_resent .tcp tcp ?_
    simp only [Net.Network.bind_withSent]
    obtain ⟨fault | udp, network⟩ := network.bind .udp config.endpoint
    · rfl
    · exact holding_resent .udp udp (prepare_resent config tcp udp)

end Sockets

namespace Gateway

variable {strangers : Strangers} {gateway image : Gateway}

/-- Strangers have no ECUs, so the image numbers its ECUs as the gateway does. -/
theorem LooksLike.ecuNumbers (alike : gateway.LooksLike strangers image) :
    image.ecuNumbers = gateway.ecuNumbers := by
  rw [Gateway.ecuNumbers, alike.ecus]
  rfl

/-- An event of the ECUs is the same event in the image. -/
theorem LooksLike.changeEcus (alike : gateway.LooksLike strangers image) (event : Ecu.Event)
    (numbers : List Nat) :
    (gateway.changeEcus event numbers).value.LooksLike strangers
      (image.changeEcus event numbers).value := by
  rw [changeEcus_value, changeEcus_value]
  exact alike.undergo _

/-- A gateway that begins to run listens to its ECUs in the image as well, on the same sockets. -/
theorem LooksLike.run (alike : gateway.LooksLike strangers image) (now : Milliseconds)
    (sockets : Sockets) :
    (gateway.run now sockets).value.LooksLike strangers (image.run now sockets).value := by
  have begun := alike.change
    (fun gateway => { gateway with phase := .running sockets, routing := true }) rfl rfl rfl
  have launched := begun.undergo (launching gateway.ecuNumbers)
  rw [run_value, run_value, alike.ecuNumbers]
  exact launched.change
    (fun gateway => { gateway with announcing := gateway.firstAnnouncement now }) rfl rfl rfl

/-- The tasks of the gateway end in the image as well. A socket that waited to be accepted is
abandoned, and it fits as before. -/
theorem LooksLike.endTasks (alike : gateway.LooksLike strangers image) :
    gateway.endTasks.LooksLike strangers image.endTasks := by
  obtain ⟨overlooks, fits, rfl⟩ := alike
  refine ⟨overlooks, ?_, ?_⟩
  · intro id socket found
    rw [Gateway.endTasks, List.getElem?_map] at found
    obtain ⟨before, earlier, rfl⟩ := Option.map_eq_some_iff.mp found
    unfold abandonWaiting
    split
    · exact Socket.fits_abandon before
    · exact fits id before earlier
  · have moved : ((others strangers.sockets gateway.sockets).map
        (Socket.renumbered strangers.connections)).map abandonWaiting =
          (others strangers.sockets (gateway.sockets.map abandonWaiting)).map
            (Socket.renumbered strangers.connections) := by
      rw [others_map, List.map_map, List.map_map]
      refine List.map_congr_left fun socket _ => ?_
      have reader : (socket.renumbered strangers.connections).reader =
          socket.reader.renumbered strangers.connections := rfl
      unfold abandonWaiting Function.comp
      simp only [reader]
      cases socket.reader <;> rfl
    simp only [Gateway.endTasks, without, moved]
    rfl

/-- Stopping closes every connection, and the image has every connection that is not a
stranger's. -/
theorem LooksLike.halt (alike : gateway.LooksLike strangers image) :
    gateway.halt.value.LooksLike strangers image.halt.value := by
  have closed := alike.act ⟨0, .event .stopAll⟩ fun id concerns => by cases concerns
  have stopped : LooksLike strangers
      { gateway with phase := .stopped, registry := gateway.registry.stopAll.value }
      { image with phase := .stopped, registry := image.registry.stopAll.value } :=
    closed.change (fun gateway => { gateway with phase := .stopped }) rfl rfl rfl
  have quiet := stopped.changeEcus .stop gateway.ecuNumbers
  have left := quiet.endTasks.changeEcus (.dropListener listener)
    (Gateway.changeEcus .stop gateway.ecuNumbers { gateway with
      phase := .stopped, registry := gateway.registry.stopAll.value }).value.ecuNumbers
  unfold Gateway.halt
  simp only [Logged.value_bind]
  rw [alike.ecuNumbers, quiet.ecuNumbers]
  exact left

end Gateway

namespace Station

/-- The gateway of a station looks like that of its image, and the networks differ in nothing but
the datagrams that were sent. -/
structure LooksLike (strangers : Strangers) (station image : Station) : Prop where
  gateway : station.gateway.LooksLike strangers image.gateway
  network : ∃ sent, image.network = station.network.withSent sent

variable {strangers : Strangers} {station image : Station}

/-- A station and its image are in the same phase. -/
theorem LooksLike.phase (alike : station.LooksLike strangers image) :
    image.gateway.phase = station.gateway.phase := by
  rw [alike.gateway.image]
  rfl

/-- A station and its image were made with the same configuration. -/
theorem LooksLike.config (alike : station.LooksLike strangers image) :
    image.gateway.config = station.gateway.config :=
  alike.gateway.config

/-- A step of the gateway alone is one of the image. -/
theorem LooksLike.onGateway (alike : station.LooksLike strangers image)
    {step stepImage : Gateway → Logged Gateway}
    (same : (step station.gateway).value.LooksLike strangers (stepImage image.gateway).value) :
    (station.onGateway step).value.LooksLike strangers (image.onGateway stepImage).value :=
  ⟨same, alike.network⟩

/-- The image starts exactly when the station does; only what the network had sent before may be
something else. -/
theorem LooksLike.start (alike : station.LooksLike strangers image) (now : Milliseconds) :
    (station.start now).value.1.LooksLike strangers (image.start now).value.1 := by
  obtain ⟨sent, network⟩ := alike.network
  unfold Station.start
  rw [alike.phase, alike.config, network]
  cases station.gateway.phase with
  | created =>
    simp only [Logged.value_bind, Sockets.opened_resent]
    obtain ⟨fault | sockets, later⟩ := (Sockets.opened station.gateway.config station.network).value
    · exact ⟨alike.gateway, sent, rfl⟩
    · exact ⟨alike.gateway.run now sockets, sent, rfl⟩
  | _ => exact alike

/-- A start comes to the same in the image. The networks differ only in what was sent. -/
theorem LooksLike.started (alike : station.LooksLike strangers image) (now : Milliseconds) :
    (image.start now).value.2 = (station.start now).value.2 := by
  obtain ⟨sent, network⟩ := alike.network
  unfold Station.start
  rw [alike.phase, alike.config, network]
  cases station.gateway.phase with
  | created =>
    simp only [Logged.value_bind, Sockets.opened_resent]
    obtain ⟨fault | sockets, later⟩ := (Sockets.opened station.gateway.config station.network).value
    · rfl
    · rfl
  | _ => rfl

/-- The image stops as the station does. -/
theorem LooksLike.stop (alike : station.LooksLike strangers image) :
    station.stop.value.LooksLike strangers image.stop.value := by
  obtain ⟨sent, network⟩ := alike.network
  unfold Station.stop
  rw [alike.phase, network]
  cases station.gateway.phase with
  | running sockets => exact ⟨alike.gateway.halt, sent, rfl⟩
  | _ => exact alike

/-- What the datagrams say may differ. The image may count fewer sockets in a status report; that is
the one trace that strangers leave. -/
theorem LooksLike.transmit (alike : station.LooksLike strangers image)
    (message other : Wire.Message) (target : Net.Endpoint) :
    (station.transmit message target).value.LooksLike strangers
      (image.transmit other target).value := by
  obtain ⟨sent, network⟩ := alike.network
  have running : image.gateway.running? = station.gateway.running? := by
    rw [Gateway.running?, alike.phase]
    rfl
  unfold Station.transmit
  rw [running]
  cases station.gateway.running? with
  | none => exact alike
  | some sockets =>
    obtain ⟨later, same⟩ := Net.Network.send_withSent station.network sent
      ⟨sockets.udp, target, message.encode⟩ ⟨sockets.udp, target, other.encode⟩
    rw [← network] at same
    simp only [same]
    obtain ⟨_ | fault, after⟩ := station.network.send ⟨sockets.udp, target, message.encode⟩
    · exact ⟨alike.gateway, later, rfl⟩
    · exact ⟨alike.gateway, later, rfl⟩

end Station

namespace Gateway

variable {strangers : Strangers} {gateway image : Gateway}

/-- A datagram that is answered is answered in the image, though perhaps with another count. Whether
there is an answer depends on the type and on the identity, not on how many are connected. -/
theorem LooksLike.answerDatagram (alike : gateway.LooksLike strangers image) (peer : Net.Endpoint)
    (bytes : Bytes) :
    (image.answerDatagram peer bytes).value.isSome =
      (gateway.answerDatagram peer bytes).value.isSome := by
  simp only [Gateway.answerDatagram, Logged.value_bind]
  cases Wire.Message.ofDatagram bytes with
  | error fault => rfl
  | ok message =>
    cases message with
    | vehicleIdentificationRequestWithEid eid =>
      simp only [answerMessage, alike.identity]
      split <;> rfl
    | vehicleIdentificationRequestWithVin vin =>
      simp only [answerMessage, alike.identity]
      split <;> rfl
    | _ => rfl

end Gateway

namespace Station

variable {strangers : Strangers} {station image : Station}

/-- A datagram is received in the image as in the station, and answered if it is answered there,
though the answer may report another number of connections. -/
theorem LooksLike.receive (alike : station.LooksLike strangers image) (now : Milliseconds) :
    (station.receive now).value.LooksLike strangers (image.receive now).value := by
  have receipts : image.gateway.receipts = station.gateway.receipts := by
    rw [alike.gateway.image]
    rfl
  unfold Station.receive
  rw [receipts]
  cases station.gateway.receipts with
  | nil => exact alike
  | cons first rest =>
    cases first with
    | fault reason =>
      exact ⟨alike.gateway.change (fun gateway => { gateway with
        receipts := rest, pausedUntil := some (now + Gateway.receivePause) }) rfl rfl rfl,
          alike.network⟩
    | datagram peer bytes =>
      have taken := alike.gateway.change (fun gateway => { gateway with
        receipts := rest, pausedUntil := none }) rfl rfl rfl
      have answers := taken.answerDatagram peer (bytes.take Gateway.maxDatagram)
      have without : LooksLike strangers
          { station with gateway := { station.gateway with receipts := rest, pausedUntil := none } }
          { image with gateway := { image.gateway with receipts := rest, pausedUntil := none } } :=
        ⟨taken, alike.network⟩
      simp only [Logged.value_bind]
      split
      · rename_i answer given
        split
        · rename_i other _
          exact without.transmit answer other peer
        · rename_i missing
          rw [given, missing] at answers
          cases answers
      · rename_i missing
        split
        · rename_i other given
          rw [given, missing] at answers
          cases answers
        · exact without

/-- An announcement is sent in the image as in the station. It says who the vehicle is, which
strangers have no part in. -/
theorem LooksLike.announce (alike : station.LooksLike strangers image) (now : Milliseconds) :
    (station.announce now).value.LooksLike strangers (image.announce now).value := by
  have announcing : image.gateway.announcing = station.gateway.announcing := by
    rw [alike.gateway.image]
    rfl
  have target : image.gateway.announcementTarget = station.gateway.announcementTarget := by
    rw [Gateway.announcementTarget, alike.config]
    rfl
  unfold Station.announce
  rw [announcing]
  cases station.gateway.announcing with
  | none => exact alike
  | some announcing =>
    have sent := alike.transmit station.gateway.vehicleAnnouncement
      image.gateway.vehicleAnnouncement station.gateway.announcementTarget
    simp only [Logged.value_bind, target]
    exact ⟨sent.gateway.change (fun gateway => { gateway with
      announcing := Gateway.nextAnnouncement now announcing }) rfl rfl rfl, sent.network⟩

end Station

end DiagnosticGateway
