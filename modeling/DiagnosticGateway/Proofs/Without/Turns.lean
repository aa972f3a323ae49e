import DiagnosticGateway.Proofs.Without.Occurrences

/-!
# Turns without strangers

Strangers neither give turns to others nor take any from them. A task of another tester, of an ECU
or of the gateway itself can take a step in the image exactly if it can take one in the gateway.
Only accepting waits for strangers: those that connected earlier are accepted first.
-/

namespace DiagnosticGateway

/-- A timer has come in the image exactly if it has come in the pool. Renumbering a connection keeps
its timer. -/
theorem Pool.expired_without {strange : ConnectionId → Bool} {id : ConnectionId}
    (known : strange id = false) (now : Milliseconds) (pool : Pool) :
    place strange id ∈ (pool.without strange).expired now ↔ id ∈ pool.expired now := by
  have due : ∀ connection : Connection,
      (connection.renumbered strange).timer = connection.timer := fun _ => rfl
  have number : ∀ connection : Connection,
      (connection.renumbered strange).id = place strange connection.id := fun _ => rfl
  simp only [expired, without, List.mem_map, List.mem_filter]
  constructor
  · rintro ⟨_, ⟨⟨connection, ⟨member, other⟩, rfl⟩, come⟩, same⟩
    have knownOther : strange connection.id = false := by simpa using other
    exact ⟨connection, ⟨member, come⟩, (place_inj knownOther known).mp same⟩
  · rintro ⟨connection, ⟨member, come⟩, rfl⟩
    exact ⟨_, ⟨⟨connection, ⟨member, by simp [known]⟩, rfl⟩, come⟩, rfl⟩

namespace Gateway

variable {strangers : Strangers} {gateway image : Gateway} {id : SocketId} {socket : Socket}
  {now : Milliseconds}

/-! ## Sockets -/

/-- If a task can go on with a socket exactly if it can with the image of the socket, it can go on
with the sockets of others exactly if it can with those of the image. -/
theorem LooksLike.able_socket (alike : gateway.LooksLike strangers image)
    (known : strangers.sockets id = false) {can canThere : Socket → Bool}
    (same : ∀ socket, gateway.sockets[id]? = some socket →
      canThere (socket.renumbered strangers.connections) = can socket) :
    (∃ socket, image.sockets[place strangers.sockets id]? = some socket ∧
        canThere socket = true) ↔
      ∃ socket, gateway.sockets[id]? = some socket ∧ can socket = true := by
  rw [alike.getElem?_sockets known]
  cases found : gateway.sockets[id]? with
  | none => simp
  | some socket => simp [same socket found]

/-- A reader can leave in the image when it can in the gateway. The connection of a known socket is
known as well, so it is open in both or in neither. -/
theorem LooksLike.canLeave (alike : gateway.LooksLike strangers image)
    (known : strangers.sockets id = false) (found : gateway.sockets[id]? = some socket) :
    image.canLeave (socket.renumbered strangers.connections) = gateway.canLeave socket := by
  have reader : (socket.renumbered strangers.connections).reader =
      socket.reader.renumbered strangers.connections := rfl
  unfold Gateway.canLeave
  rw [reader]
  cases reads : socket.reader with
  | reading connection =>
    have knownConnection := ((alike.sockets id socket found).reading connection reads).trans known
    have same := Pool.isOpen_without knownConnection gateway.registry.pool
    rw [alike.image]
    exact congrArg (fun isOpen => !isOpen) same
  | _ => rfl

/-- A reader can go on in the image when it can in the gateway. It depends on its reader, on the
bytes that have come in and, while it waits, on the request it waits for. -/
theorem LooksLike.canRead (alike : gateway.LooksLike strangers image) (socket : Socket) :
    image.canRead now (socket.renumbered strangers.connections) = gateway.canRead now socket := by
  have reader : (socket.renumbered strangers.connections).reader =
      socket.reader.renumbered strangers.connections := rfl
  unfold Gateway.canRead
  rw [reader, alike.image]
  cases socket.reader with
  | deciding connection request source =>
    have same : (gateway.registry.without strangers.connections).request? request = _ :=
      Registry.request?_without request gateway.registry
    show ((gateway.registry.without strangers.connections).request? request).any _ =
      (gateway.registry.request? request).any _
    rw [same]
    cases gateway.registry.request? request with
    | none => rfl
    | some request =>
      exact Registry.canStep_without strangers.connections now request gateway.registry
  | _ => rfl

/-- A writer can go on in the image when it can in the gateway. It depends on the queue of its own
connection and on whether that is closed. -/
theorem LooksLike.canWrite (alike : gateway.LooksLike strangers image)
    (known : strangers.sockets id = false) (found : gateway.sockets[id]? = some socket) :
    image.canWrite (socket.renumbered strangers.connections) = gateway.canWrite socket := by
  have writer : (socket.renumbered strangers.connections).writer =
      socket.writer.renumbered strangers.connections := rfl
  unfold Gateway.canWrite
  rw [writer]
  cases writes : socket.writer with
  | writing connection =>
    have knownConnection := ((alike.sockets id socket found).writing connection writes).trans known
    have same := Pool.get?_without knownConnection gateway.registry.pool
    rw [alike.image]
    show ((gateway.registry.pool.without strangers.connections).get?
      (place strangers.connections connection)).any _ =
        (gateway.registry.pool.get? connection).any _
    rw [same]
    cases gateway.registry.pool.get? connection <;> rfl
  | _ => rfl

end Gateway

namespace Station

variable {strangers : Strangers} {station image : Station} {occurrence imageOccurrence : Occurrence}
  {history : History}

/-- What is seen of an action is the action at the place of somebody who is no stranger. -/
theorem unlessStrange_eq_some {strange : Nat → Bool} {number : Nat} {action : Nat → Action}
    {seen : Action} :
    unlessStrange strange number action = some seen ↔
      strange number = false ∧ action (place strange number) = seen := by
  unfold unlessStrange
  cases strange number <;> simp

/-- An event without strangers is an event. Only its number may be another one; it does not become
the step of a task. -/
theorem event_without {event : Event} {gateway : Gateway} {action : Action}
    (seen : Action.without strangers gateway (.event event) = some action) :
    ∃ imageEvent, action = .event imageEvent := by
  cases event with
  | connect peer fault =>
    simp only [Action.without] at seen
    split at seen
    · obtain ⟨-, rfl⟩ := unlessStrange_eq_some.mp seen
      exact ⟨_, rfl⟩
    · cases seen
  | deliver id bytes | finish id ending | failWriting id fault =>
    simp only [Action.without] at seen
    obtain ⟨-, rfl⟩ := unlessStrange_eq_some.mp seen
    exact ⟨_, rfl⟩
  | _ => exact ⟨_, (Option.some.inj seen).symm⟩

/-- A task without strangers is a task, which can take a step in the image exactly if it can take
one in the gateway. -/
theorem able_without {task : Task} {gateway image : Gateway} {action : Action} {now : Milliseconds}
    (alike : gateway.LooksLike strangers image)
    (seen : Action.without strangers gateway (.task task) = some action) :
    ∃ imageTask, action = .task imageTask ∧ (image.Able now imageTask ↔ gateway.Able now task) := by
  cases task with
  | timer connection =>
    simp only [Action.without] at seen
    obtain ⟨known, rfl⟩ := unlessStrange_eq_some.mp seen
    have come := Pool.expired_without known now gateway.registry.pool
    refine ⟨_, rfl, ?_⟩
    rw [Gateway.Able, alike.image]
    exact come
  | accept =>
    have running : image.running? = gateway.running? := by
      rw [alike.image]
      rfl
    have waits : action = .task .accept ∧ image.arrivals.isEmpty = gateway.arrivals.isEmpty := by
      simp only [Action.without] at seen
      rw [alike.arrivals]
      split at seen
      · rename_i id rest first
        obtain ⟨known, rfl⟩ := unlessStrange_eq_some.mp seen
        rw [first, List.filterMap_cons, Arrival.without, known]
        exact ⟨rfl, rfl⟩
      · rename_i other
        obtain rfl := Option.some.inj seen
        cases first : gateway.arrivals with
        | nil => exact ⟨rfl, rfl⟩
        | cons arrival rest =>
          cases arrival with
          | socket id => exact absurd first (other id rest)
          | fault reason => exact ⟨rfl, rfl⟩
    obtain ⟨rfl, empty⟩ := waits
    refine ⟨_, rfl, ?_⟩
    rw [Gateway.Able, Gateway.Able, Gateway.canAccept, Gateway.canAccept, running, empty]
  | read id =>
    simp only [Action.without] at seen
    obtain ⟨known, rfl⟩ := unlessStrange_eq_some.mp seen
    exact ⟨_, rfl, alike.able_socket known fun socket _ => alike.canRead socket⟩
  | leave id =>
    simp only [Action.without] at seen
    obtain ⟨known, rfl⟩ := unlessStrange_eq_some.mp seen
    exact ⟨_, rfl, alike.able_socket known fun _ found => alike.canLeave known found⟩
  | write id =>
    simp only [Action.without] at seen
    obtain ⟨known, rfl⟩ := unlessStrange_eq_some.mp seen
    exact ⟨_, rfl, alike.able_socket known fun _ found => alike.canWrite known found⟩
  | _ =>
    obtain rfl := Option.some.inj seen
    refine ⟨_, rfl, ?_⟩
    rw [Gateway.Able, Gateway.Able, alike.image]
    exact Iff.rfl

/-- What is seen of an occurrence can happen in the image exactly if the occurrence can. An event
can always happen, and a task if it is enabled. -/
theorem LooksLike.canHappen (alike : station.LooksLike strangers image)
    (seen : occurrence.without strangers station.gateway = some imageOccurrence) :
    image.CanHappen imageOccurrence ↔ station.CanHappen occurrence := by
  obtain ⟨moment, action⟩ := occurrence
  obtain ⟨imageAction, sees, rfl⟩ := Option.map_eq_some_iff.mp seen
  cases action with
  | event event =>
    obtain ⟨imageEvent, rfl⟩ := event_without sees
    exact Iff.rfl
  | task task =>
    obtain ⟨imageTask, rfl, able⟩ := able_without alike.gateway sees
    exact Gateway.mem_enabled.trans (able.trans Gateway.mem_enabled.symm)

end Station

end DiagnosticGateway
