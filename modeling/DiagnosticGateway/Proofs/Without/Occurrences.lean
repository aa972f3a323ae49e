import DiagnosticGateway.Proofs.Gateway.History
import DiagnosticGateway.Proofs.Without.Station

/-!
# What happens without strangers

Every occurrence at a station either is an affair of strangers, and disappears without them, or
happens in the image as well, under new numbers. The station goes on looking like its image as long
as no stranger asks to be registered and there is room for every socket that is accepted.
-/

namespace DiagnosticGateway

namespace Gateway

variable {strangers : Strangers} {gateway image : Gateway}

/-! ## Arrivals -/

/-- Whoever connects is not served yet, and so fits among the strangers and the others. -/
theorem fits_connect (alike : gateway.LooksLike strangers image) (peer : Net.Endpoint)
    (fault : Option Net.SystemFault) :
    ∀ (id : SocketId) (socket : Socket),
      (gateway.sockets ++ [Socket.new peer fault])[id]? = some socket →
        socket.Fits strangers id := by
  intro id socket found
  rw [List.getElem?_append] at found
  split at found
  · exact alike.sockets id socket found
  · obtain rfl := List.mem_singleton.mp (List.mem_of_getElem? found)
    exact ⟨by simp [Socket.new], by simp [Socket.new], by simp [Socket.new]⟩

/-- A tester that connects comes behind those that are there. Its place is the number of the known
sockets so far. -/
theorem LooksLike.connect (alike : gateway.LooksLike strangers image)
    (known : strangers.sockets gateway.sockets.length = false) (peer : Net.Endpoint)
    (fault : Option Net.SystemFault) :
    (gateway.connect peer fault).LooksLike strangers (image.connect peer fault) := by
  have fits := fits_connect alike peer fault
  obtain ⟨overlooks, earlier, rfl⟩ := alike
  have running : (gateway.without strangers).running? = gateway.running? := rfl
  unfold Gateway.connect
  rw [running]
  split
  · refine ⟨overlooks, fits, ?_⟩
    simp only [without, others_concat, known, List.map_append, List.filterMap_append,
      List.filterMap_cons, Arrival.without, List.length_map, length_others]
    rfl
  · exact ⟨overlooks, earlier, rfl⟩

/-- Nothing is seen of a stranger that connects. Neither its socket nor its arrival is in the
image. -/
theorem LooksLike.connect_of_strange (alike : gateway.LooksLike strangers image)
    (stranger : strangers.sockets gateway.sockets.length = true) (peer : Net.Endpoint)
    (fault : Option Net.SystemFault) :
    (gateway.connect peer fault).LooksLike strangers image := by
  have fits := fits_connect alike peer fault
  obtain ⟨overlooks, earlier, rfl⟩ := alike
  unfold Gateway.connect
  split
  · refine ⟨overlooks, fits, ?_⟩
    simp only [without, others_concat, stranger, List.filterMap_append, List.filterMap_cons,
      Arrival.without, if_true, List.filterMap_nil, List.append_nil]
  · exact ⟨overlooks, earlier, rfl⟩

/-- A fault of the listening socket is nobody's, so the image has it too. It comes behind the
arrivals of those who are known. -/
theorem LooksLike.failAccepting (alike : gateway.LooksLike strangers image)
    (fault : Net.SystemFault) :
    (gateway.failAccepting fault).LooksLike strangers (image.failAccepting fault) := by
  obtain ⟨overlooks, fits, rfl⟩ := alike
  have running : (gateway.without strangers).running? = gateway.running? := rfl
  unfold Gateway.failAccepting
  rw [running]
  split
  · refine ⟨overlooks, fits, ?_⟩
    simp only [without, List.filterMap_append]
    rfl
  · exact ⟨overlooks, fits, rfl⟩

/-- A datagram is taken by the image as by the gateway. -/
theorem LooksLike.takeReceipt (alike : gateway.LooksLike strangers image) (receipt : Receipt) :
    (gateway.takeReceipt receipt).LooksLike strangers (image.takeReceipt receipt) := by
  obtain ⟨overlooks, fits, rfl⟩ := alike
  have running : (gateway.without strangers).running? = gateway.running? := rfl
  unfold Gateway.takeReceipt
  rw [running]
  split <;> exact ⟨overlooks, fits, rfl⟩

end Gateway

namespace Station

variable {strangers : Strangers} {station image : Station} {occurrence : Occurrence}
  {history : History}

/-! ## Occurrences -/

/-- An action on what stands under a number, unless the number is strange. -/
def unlessStrange (strange : Nat → Bool) (number : Nat) (action : Nat → Action) : Option Action :=
  if strange number then none else some (action (place strange number))

/-- What an action is without the strangers. A tester that connects to a gateway that does not run
is nobody. -/
def Action.without (strangers : Strangers) (gateway : Gateway) : Action → Option Action
  | .event (.connect peer fault) =>
    if gateway.running?.isSome then
      unlessStrange strangers.sockets gateway.sockets.length fun _ => .event (.connect peer fault)
    else none
  | .event (.deliver socket bytes) =>
    unlessStrange strangers.sockets socket fun place => .event (.deliver place bytes)
  | .event (.finish socket ending) =>
    unlessStrange strangers.sockets socket fun place => .event (.finish place ending)
  | .event (.failWriting socket fault) =>
    unlessStrange strangers.sockets socket fun place => .event (.failWriting place fault)
  | .task (.timer connection) =>
    unlessStrange strangers.connections connection fun place => .task (.timer place)
  | .task .accept =>
    match gateway.arrivals with
    | .socket id :: _ => unlessStrange strangers.sockets id fun _ => .task .accept
    | _ => some (.task .accept)
  | .task (.read socket) => unlessStrange strangers.sockets socket fun place => .task (.read place)
  | .task (.leave socket) =>
    unlessStrange strangers.sockets socket fun place => .task (.leave place)
  | .task (.write socket) =>
    unlessStrange strangers.sockets socket fun place => .task (.write place)
  | other => some other

/-- What an occurrence is without the strangers. -/
def Occurrence.without (strangers : Strangers) (gateway : Gateway) (occurrence : Occurrence) :
    Option Occurrence :=
  (occurrence.action.without strangers gateway).map (Occurrence.mk occurrence.moment)

/-- What is asked of strangers: the connection of a socket is a stranger's exactly if the socket is,
what a stranger sends is no request to be registered, and there is room for a socket that is
accepted. -/
def Unobtrusive (strangers : Strangers) (gateway : Gateway) : Action → Prop
  | .task .accept => gateway.HasRoom
  | .task (.read id) => gateway.Assigns strangers id ∧
      (strangers.sockets id = true → gateway.Harmless id)
  | _ => True

/-- It is enough to look at strangers and others in turn. -/
theorem looksLike_unlessStrange {later : Station} {strange : Nat → Bool} {number : Nat}
    {action : Nat → Action} (moment : Milliseconds)
    (seen : strange number = false →
      later.LooksLike strangers (image.act ⟨moment, action (place strange number)⟩))
    (unseen : strange number = true → later.LooksLike strangers image) :
    later.LooksLike strangers
      (image.replay ((unlessStrange strange number action).map (Occurrence.mk moment)).toList) := by
  unfold unlessStrange
  cases stranger : strange number with
  | true => exact unseen stranger
  | false => exact seen stranger

/-- What happens to a socket from outside leaves its reader and its writer alone. So it fits among
the strangers or the others as it did before. -/
theorem LooksLike.updateSocket (alike : station.LooksLike strangers image) (moment : Milliseconds)
    (id : SocketId) (step : Socket → Socket) (action : SocketId → Action)
    (keeps : ∀ socket : Socket, (step socket).reader = socket.reader ∧
      (step socket).writer = socket.writer)
    (same : ∀ socket : Socket, step (socket.renumbered strangers.connections) =
      (step socket).renumbered strangers.connections)
    (acts : ∀ (place : SocketId) (station : Station), station.act ⟨moment, action place⟩ =
      { station with gateway := station.gateway.updateSocket place step }) :
    (station.act ⟨moment, action id⟩).LooksLike strangers
      (image.replay
        ((unlessStrange strangers.sockets id action).map (Occurrence.mk moment)).toList) := by
  have fits : ∀ socket : Socket, station.gateway.sockets[id]? = some socket →
      (step socket).Fits strangers id := by
    intro socket found
    have fits := alike.gateway.sockets id socket found
    obtain ⟨reader, writer⟩ := keeps socket
    exact ⟨reader ▸ fits.reading, reader ▸ fits.deciding, writer ▸ fits.writing⟩
  refine looksLike_unlessStrange moment (fun known => ?_) fun stranger => ?_
  · rw [acts, acts]
    exact ⟨alike.gateway.updateSocket known same fits, alike.network⟩
  · rw [acts]
    exact ⟨alike.gateway.updateSocket_of_strange stranger fits, alike.network⟩

/-- The end of a stream does not depend on the number of the connection. -/
theorem finish_renumbered (strange : ConnectionId → Bool) (ending : StreamEnd) (socket : Socket) :
    (socket.renumbered strange).finish ending = (socket.finish ending).renumbered strange := by
  have same : (socket.renumbered strange).ending = socket.ending := rfl
  unfold Socket.finish
  rw [same]
  split <;> rfl

/-- An occurrence that is an affair of strangers is not seen, and any other happens in the
image. The cases are those of the occurrence, and for a task they are those of whose socket or
connection it is. -/
theorem LooksLike.act (alike : station.LooksLike strangers image)
    (unobtrusive : Unobtrusive strangers station.gateway occurrence.action) :
    (station.act occurrence).LooksLike strangers
      (image.replay (occurrence.without strangers station.gateway).toList) := by
  obtain ⟨moment, action⟩ := occurrence
  cases action with
  | event event =>
    cases event with
    | start => exact alike.start moment
    | stop => exact alike.stop
    | connect peer fault =>
      simp only [Occurrence.without, Action.without]
      by_cases running : station.gateway.running?.isSome = true
      · rw [if_pos running]
        refine looksLike_unlessStrange moment (fun known => ?_) fun stranger => ?_
        · exact alike.onGateway (alike.gateway.connect known peer fault)
        · exact ⟨alike.gateway.connect_of_strange stranger peer fault, alike.network⟩
      · have refused : station.act ⟨moment, .event (.connect peer fault)⟩ = station := by
          show { station with gateway := station.gateway.connect peer fault } = station
          rw [Gateway.connect, if_neg running]
        rw [if_neg running, refused]
        exact alike
    | acceptFault fault => exact alike.onGateway (alike.gateway.failAccepting fault)
    | deliver id bytes =>
      exact alike.updateSocket moment id (Socket.deliver bytes)
        (fun place => .event (.deliver place bytes)) (fun _ => ⟨rfl, rfl⟩) (fun _ => rfl)
        fun _ _ => rfl
    | finish id ending =>
      refine alike.updateSocket moment id (Socket.finish ending)
        (fun place => .event (.finish place ending)) (fun socket => ?_)
        (finish_renumbered strangers.connections ending) fun _ _ => rfl
      unfold Socket.finish
      split <;> exact ⟨rfl, rfl⟩
    | failWriting id fault =>
      exact alike.updateSocket moment id (fun socket => { socket with writeFault := some fault })
        (fun place => .event (.failWriting place fault)) (fun _ => ⟨rfl, rfl⟩) (fun _ => rfl)
        fun _ _ => rfl
    | receipt receipt => exact alike.onGateway (alike.gateway.takeReceipt receipt)
    | ecu index event => exact alike.onGateway (alike.gateway.changeEcu index event)
  | task task =>
    cases task with
    | timer connection =>
      simp only [Occurrence.without, Action.without]
      refine looksLike_unlessStrange moment (fun known => ?_) fun stranger => ?_
      · refine ⟨alike.gateway.act ⟨moment, .task (.timer connection)⟩ fun id concerns => ?_,
          alike.network⟩
        obtain rfl := Option.some.inj concerns
        exact known
      · exact ⟨alike.gateway.act_of_strange ⟨moment, .task (.timer connection)⟩ rfl stranger
          (by simp), alike.network⟩
    | accept =>
      have kept : (∀ id rest, station.gateway.arrivals = .socket id :: rest →
          strangers.sockets id = false) →
          (station.act ⟨moment, .task .accept⟩).LooksLike strangers
            (image.act ⟨moment, .task .accept⟩) :=
        fun known => alike.onGateway (alike.gateway.accept unobtrusive known)
      simp only [Occurrence.without, Action.without]
      split
      · rename_i id rest waits
        refine looksLike_unlessStrange moment (fun known => kept ?_) fun stranger => ?_
        · intro other others same
          obtain ⟨front, -⟩ := List.cons.inj (waits.symm.trans same)
          obtain rfl := Arrival.socket.inj front
          exact known
        · exact ⟨alike.gateway.accept_of_strange waits stranger, alike.network⟩
      · rename_i other
        exact kept fun id rest waits => absurd waits (other id rest)
    | read id =>
      obtain ⟨assigns, harmless⟩ := unobtrusive
      simp only [Occurrence.without, Action.without]
      refine looksLike_unlessStrange moment (fun known => ?_) fun stranger => ?_
      · exact alike.onGateway (alike.gateway.read known assigns moment)
      · exact ⟨alike.gateway.read_of_strange stranger assigns (harmless stranger) moment,
          alike.network⟩
    | leave id =>
      simp only [Occurrence.without, Action.without]
      refine looksLike_unlessStrange moment (fun known => ?_) fun stranger => ?_
      · exact alike.onGateway (alike.gateway.leave known)
      · exact ⟨alike.gateway.leave_of_strange stranger, alike.network⟩
    | write id =>
      simp only [Occurrence.without, Action.without]
      refine looksLike_unlessStrange moment (fun known => ?_) fun stranger => ?_
      · exact alike.onGateway (alike.gateway.write known)
      · exact ⟨alike.gateway.write_of_strange stranger, alike.network⟩
    | receive => exact alike.receive moment
    | announce => exact alike.announce moment
    | route => exact alike.onGateway alike.gateway.route
    | work index => exact alike.onGateway (alike.gateway.changeEcu index .work)

end Station

end DiagnosticGateway
