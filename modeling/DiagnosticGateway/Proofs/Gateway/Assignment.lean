import DiagnosticGateway.Proofs.Gateway.Requests
import DiagnosticGateway.Proofs.Gateway.Sockets

/-!
# Sockets and their connections

When a socket is served it gets a connection, and it keeps that one: its reader and its writer work
for it until they end, and for no other. Two sockets never have the same connection, and a socket
without one was never written to. So whatever a writer takes from a queue goes to the one tester
whose connection that is.
-/

namespace DiagnosticGateway

namespace Socket

/-- Nobody serves the socket. -/
structure Unserved (socket : Socket) : Prop where
  reader : ∀ connection, ¬ socket.reader.Serves connection
  writer : ∀ connection, socket.writer ≠ .writing connection
  written : socket.written = []

/-- Whoever reads from the socket and whoever writes to it does so for one connection. -/
structure ServedBy (connection : ConnectionId) (socket : Socket) : Prop where
  reader : socket.reader.Serves connection ∨ socket.reader = .finished
  writer : socket.writer = .writing connection ∨ socket.writer = .finished

variable {socket : Socket} {connection other : ConnectionId}

/-- A socket that has just connected is not served. -/
theorem unserved_new (peer : Net.Endpoint) (fault : Option Net.SystemFault) :
    (new peer fault).Unserved :=
  ⟨fun _ serves => serves, fun _ => Writer.noConfusion, rfl⟩

/-- A socket that is served has been accepted. -/
theorem ServedBy.not_waiting (served : socket.ServedBy connection) : socket.reader ≠ .waiting := by
  intro waiting
  rcases served.reader with serves | finished
  · rw [waiting] at serves
    exact serves
  · rw [waiting] at finished
    cases finished

/-- A reader serves one connection. -/
theorem ServedBy.eq_of_serves (served : socket.ServedBy connection)
    (serves : socket.reader.Serves other) : other = connection := by
  rcases served.reader with same | finished
  · exact serves.eq same
  · rw [finished] at serves
    exact serves.elim

/-- A writer serves one connection. -/
theorem ServedBy.eq_of_writes (served : socket.ServedBy connection)
    (writes : socket.writer = .writing other) : other = connection := by
  rcases served.writer with same | finished
  · exact Writer.writing.inj (writes.symm.trans same)
  · rw [writes] at finished
    cases finished

end Socket

namespace Gateway

/-- The connection that an action brings a socket. -/
def gets? (id : SocketId) (action : Station.Action) (gateway : Gateway) : Option ConnectionId :=
  if gateway.serves? action = some id then some gateway.registry.nextConnection else none

/-- Sockets have the connections that they are said to have. A socket without a connection is not
served yet, and no connection belongs to two sockets. -/
structure Assigned (owner : SocketId → Option ConnectionId) (gateway : Gateway) : Prop where
  below : ∀ {id connection}, owner id = some connection →
    connection < gateway.registry.nextConnection
  distinct : ∀ {id other connection}, owner id = some connection →
    owner other = some connection → id = other
  unserved : ∀ {id socket}, owner id = none → gateway.sockets[id]? = some socket →
    socket.Unserved
  served : ∀ {id connection}, owner id = some connection →
    ∃ socket, gateway.sockets[id]? = some socket ∧ socket.ServedBy connection
  waiting : ∀ id ∈ gateway.unaccepted,
    ∃ socket, gateway.sockets[id]? = some socket ∧ socket.reader = .waiting
  once : gateway.unaccepted.Nodup

variable {gateway before after : Gateway} {owner : SocketId → Option ConnectionId} {id : SocketId}
  {action : Station.Action} {socket later : Socket} {connection : ConnectionId}

/-- A gateway without sockets has nothing to assign. Nobody has a connection, nobody waits, and the
numbers of the connections may begin anywhere. -/
theorem assigned_of_unconnected (sockets : gateway.sockets = [])
    (arrivals : gateway.arrivals = []) : gateway.Assigned fun _ => none := by
  have nobody : gateway.unaccepted = [] := by
    rw [unaccepted, arrivals]
    rfl
  refine ⟨?_, ?_, ?_, ?_, ?_, ?_⟩
  · intro id connection owns
    cases owns
  · intro id other connection owns
    cases owns
  · intro id socket _ found
    rw [sockets] at found
    cases found
  · intro id connection owns
    cases owns
  · intro id member
    rw [nobody] at member
    cases member
  · rw [nobody]
    exact List.nodup_nil

/-! ## One step -/

/-- A socket has the connection for which it is read. -/
theorem Assigned.owns_of_serves (assigned : before.Assigned owner)
    (found : before.sockets[id]? = some socket) (serves : socket.reader.Serves connection) :
    owner id = some connection := by
  cases owns : owner id with
  | none => exact absurd serves ((assigned.unserved owns found).reader connection)
  | some held =>
    obtain ⟨same, there, served⟩ := assigned.served owns
    obtain rfl := Option.some.inj (there.symm.trans found)
    rw [served.eq_of_serves serves]

/-- Nobody else reads for the connection of a socket. -/
theorem Assigned.eq_of_serves {other : SocketId} (assigned : before.Assigned owner)
    (owns : owner id = some connection) (found : before.sockets[other]? = some socket)
    (serves : socket.reader.Serves connection) : other = id :=
  assigned.distinct (assigned.owns_of_serves found serves) owns

/-- Nobody else writes for the connection of a socket. -/
theorem Assigned.eq_of_writes {other : SocketId} (assigned : before.Assigned owner)
    (owns : owner id = some connection) (found : before.sockets[other]? = some socket)
    (writes : socket.writer = .writing connection) : other = id := by
  cases own : owner other with
  | none => exact absurd writes ((assigned.unserved own found).writer connection)
  | some held =>
    obtain ⟨same, there, served⟩ := assigned.served own
    obtain rfl := Option.some.inj (there.symm.trans found)
    obtain rfl := served.eq_of_writes writes
    exact assigned.distinct own owns

/-- The socket that is accepted next is one that waits. -/
theorem Assigned.waits_first (assigned : before.Assigned owner)
    (found : before.sockets[id]? = some socket)
    (first : before.unaccepted = id :: after.unaccepted) : socket.reader = .waiting := by
  obtain ⟨same, there, waits⟩ := assigned.waiting id (first ▸ List.mem_cons_self)
  obtain rfl := Option.some.inj (there.symm.trans found)
  exact waits

/-- A socket that is not served stays so, unless it gets a connection. It may be accepted or
refused, or abandoned by a stop; each time its writer has written nothing. -/
theorem Becomes.unserved (becomes : before.Becomes id after socket action later)
    (idle : socket.Unserved) (none : before.serves? action ≠ some id)
    (found : before.sockets[id]? = some socket) : later.Unserved := by
  cases becomes with
  | rests reader writer written =>
    exact ⟨reader ▸ idle.reader, writer ▸ idle.writer, written ▸ idle.written⟩
  | admitted => exact ⟨fun _ serves => serves, idle.writer, idle.written⟩
  | refused => exact ⟨fun _ serves => serves, fun _ => Writer.noConfusion, idle.written⟩
  | abandoned => exact ⟨fun _ serves => serves, fun _ => Writer.noConfusion, idle.written⟩
  | served accepted => exact absurd (by simp [serves?, found, accepted]) none
  | read serves => exact absurd serves (idle.reader _)
  | @left connection reads =>
    have serves : socket.reader.Serves connection := by
      rw [reads]
      exact rfl
    exact absurd serves (idle.reader connection)
  | wrote writes => exact absurd writes (idle.writer _)
  | silenced writes => exact absurd writes (idle.writer _)

/-- A socket that is served by a connection stays with it. Its reader and its writer come to their
ends, each by its own step, and no other connection takes their place. -/
theorem Becomes.servedBy (becomes : before.Becomes id after socket action later)
    (served : socket.ServedBy connection)
    (accepted : before.unaccepted = id :: after.unaccepted → socket.reader = .waiting) :
    later.ServedBy connection := by
  cases becomes with
  | rests reader writer => exact ⟨reader ▸ served.reader, writer ▸ served.writer⟩
  | admitted first => exact absurd (accepted first) served.not_waiting
  | refused first => exact absurd (accepted first) served.not_waiting
  | abandoned waiting => exact absurd waiting served.not_waiting
  | served ready =>
    rcases served.reader with serves | finished
    · rw [ready] at serves
      exact serves.elim
    · rw [ready] at finished
      cases finished
  | read serves reader writer =>
    obtain rfl := served.eq_of_serves serves
    exact ⟨reader, writer ▸ served.writer⟩
  | left => exact ⟨Or.inr rfl, served.writer⟩
  | wrote => exact ⟨served.reader, served.writer⟩
  | silenced => exact ⟨served.reader, Or.inr rfl⟩

/-- A socket that waits to be accepted goes on waiting as long as it is listed. It leaves the list
when it is accepted or refused, and these take the first of the list only. -/
theorem Becomes.waits (becomes : before.Becomes id after socket action later)
    (once : before.unaccepted.Nodup) (still : id ∈ after.unaccepted)
    (waits : socket.reader = .waiting) : later.reader = .waiting := by
  have taken : before.unaccepted ≠ id :: after.unaccepted := by
    intro first
    rw [first] at once
    exact (List.nodup_cons.mp once).1 still
  cases becomes with
  | rests reader => exact reader.trans waits
  | admitted first => exact absurd first taken
  | refused first => exact absurd first taken
  | abandoned _ none =>
    rw [none] at still
    cases still
  | served accepted =>
    rw [waits] at accepted
    cases accepted
  | read serves =>
    rw [waits] at serves
    exact serves.elim
  | left reads =>
    rw [waits] at reads
    cases reads
  | wrote => exact waits
  | silenced => exact waits

/-- Nothing is assigned anew while no socket gets a connection. Sockets go through what the action
makes of them, and none of this touches whose connection is whose. -/
theorem Assigned.passes (assigned : before.Assigned owner) (passes : before.Passes action after)
    (idle : before.serves? action = none)
    (next : after.registry.nextConnection = before.registry.nextConnection) :
    after.Assigned owner where
  below owns := next ▸ assigned.below owns
  distinct := assigned.distinct
  unserved := by
    intro id later owns found
    cases there : before.sockets[id]? with
    | none =>
      rw [passes.missing there] at found
      cases found
    | some socket =>
      obtain ⟨same, foundLater, becomes⟩ := passes.becomes there
      obtain rfl := Option.some.inj (foundLater.symm.trans found)
      exact becomes.unserved (assigned.unserved owns there) (by simp [idle]) there
  served := by
    intro id connection owns
    obtain ⟨socket, there, served⟩ := assigned.served owns
    obtain ⟨later, found, becomes⟩ := passes.becomes there
    exact ⟨later, found, becomes.servedBy served (assigned.waits_first there)⟩
  waiting := by
    intro id member
    obtain ⟨socket, there, waits⟩ := assigned.waiting id (passes.unaccepted.subset member)
    obtain ⟨later, found, becomes⟩ := passes.becomes there
    exact ⟨later, found, becomes.waits assigned.once member waits⟩
  once := assigned.once.sublist passes.unaccepted

/-- A socket that has just connected waits to be accepted. It stands at the end, behind all that
have connected before, and so it is new in the list of those that wait. -/
theorem Assigned.connect (assigned : before.Assigned owner) {peer : Net.Endpoint}
    {fault : Option Net.SystemFault} (sockets : after.sockets = before.sockets ++ [.new peer fault])
    (unaccepted : after.unaccepted = before.unaccepted ++ [before.sockets.length])
    (next : after.registry.nextConnection = before.registry.nextConnection) :
    after.Assigned owner := by
  have kept : ∀ {id : SocketId} {socket : Socket}, before.sockets[id]? = some socket →
      after.sockets[id]? = some socket := by
    intro id socket found
    obtain ⟨within, -⟩ := List.getElem?_eq_some_iff.mp found
    rw [sockets, List.getElem?_append_left within, found]
  have new : after.sockets[before.sockets.length]? = some (.new peer fault) := by
    rw [sockets]
    exact List.getElem?_concat_length
  refine ⟨fun owns => next ▸ assigned.below owns, assigned.distinct, ?_, ?_, ?_, ?_⟩
  · intro id later owns found
    by_cases old : id < before.sockets.length
    · rw [sockets, List.getElem?_append_left old] at found
      exact assigned.unserved owns found
    · obtain ⟨within, -⟩ := List.getElem?_eq_some_iff.mp found
      rw [sockets, List.length_append, List.length_singleton] at within
      have last : id = before.sockets.length :=
        Nat.le_antisymm (Nat.le_of_lt_succ within) (Nat.le_of_not_lt old)
      subst last
      obtain rfl := Option.some.inj (new.symm.trans found)
      exact Socket.unserved_new peer fault
  · intro id connection owns
    obtain ⟨socket, found, served⟩ := assigned.served owns
    exact ⟨socket, kept found, served⟩
  · intro id member
    rw [unaccepted] at member
    rcases List.mem_append.mp member with old | last
    · obtain ⟨socket, found, waits⟩ := assigned.waiting id old
      exact ⟨socket, kept found, waits⟩
    · obtain rfl := List.mem_singleton.mp last
      exact ⟨_, new, rfl⟩
  · rw [unaccepted]
    refine List.nodup_append.mpr ⟨assigned.once, List.nodup_singleton _, ?_⟩
    rintro id old other last rfl
    obtain rfl := List.mem_singleton.mp last
    obtain ⟨socket, found, -⟩ := assigned.waiting _ old
    obtain ⟨within, -⟩ := List.getElem?_eq_some_iff.mp found
    exact Nat.lt_irrefl _ within

/-- A socket that has been accepted has no connection yet. A socket that has one is read already or
has been read to its end. -/
theorem Assigned.owner_of_accepted (assigned : before.Assigned owner)
    (found : before.sockets[id]? = some socket) (accepted : socket.reader = .accepted) :
    owner id = none := by
  cases owns : owner id with
  | none => rfl
  | some connection =>
    obtain ⟨same, there, served⟩ := assigned.served owns
    obtain rfl := Option.some.inj (there.symm.trans found)
    rcases served.reader with serves | finished
    · rw [accepted] at serves
      exact serves.elim
    · rw [accepted] at finished
      cases finished

/-- Whoever has a connection after one was given had it before, or has got it. -/
theorem owner_or_given {given : ConnectionId} {other : SocketId}
    (owns : ((owner other).or (if some id = some other then some given else none)) =
      some connection) : owner other = some connection ∨ other = id ∧ connection = given := by
  rcases Option.or_eq_some_iff.mp owns with old | ⟨-, new⟩
  · exact Or.inl old
  · split at new
    · rename_i here
      exact Or.inr ⟨(Option.some.inj here).symm, (Option.some.inj new).symm⟩
    · cases new

/-- A socket that is served gets the next connection. The number is one that no socket has got,
since it is not below the next number of the registry; after this step it is. -/
theorem Assigned.serving (assigned : before.Assigned owner)
    (found : before.sockets[id]? = some socket) (accepted : socket.reader = .accepted)
    (sockets : after.sockets = before.sockets.modify id
      (Socket.serving before.registry.nextConnection))
    (unaccepted : after.unaccepted = before.unaccepted)
    (next : after.registry.nextConnection = before.registry.nextConnection + 1) :
    after.Assigned fun other =>
      (owner other).or (if some id = some other then some before.registry.nextConnection
        else none) := by
  have fresh := assigned.owner_of_accepted found accepted
  have changed : ∀ other, after.sockets[other]? = (before.sockets[other]?).map fun socket =>
      if id = other then socket.serving before.registry.nextConnection else socket := by
    intro other
    rw [sockets, List.getElem?_modify]
    rfl
  refine ⟨?_, ?_, ?_, ?_, ?_, unaccepted ▸ assigned.once⟩
  · intro other connection owns
    rw [next]
    rcases owner_or_given owns with old | ⟨-, rfl⟩
    · exact Nat.lt_succ_of_lt (assigned.below old)
    · exact Nat.lt_succ_self _
  · intro first second connection owns same
    rcases owner_or_given owns with old | ⟨rfl, rfl⟩ <;> rcases owner_or_given same with again | ⟨rfl, isNext⟩
    · exact assigned.distinct old again
    · exact absurd (assigned.below old) (isNext ▸ Nat.lt_irrefl _)
    · exact absurd (assigned.below again) (Nat.lt_irrefl _)
    · rfl
  · intro other later owns there
    obtain ⟨unowned, apart⟩ := Option.or_eq_none_iff.mp owns
    have elsewhere : id ≠ other := by
      rintro rfl
      simp at apart
    rw [changed] at there
    obtain ⟨earlier, foundEarlier, rfl⟩ := Option.map_eq_some_iff.mp there
    rw [if_neg elsewhere]
    exact assigned.unserved unowned foundEarlier
  · intro other connection owns
    rcases owner_or_given owns with old | ⟨rfl, rfl⟩
    · obtain ⟨earlier, there, served⟩ := assigned.served old
      have elsewhere : id ≠ other := by
        rintro rfl
        rw [fresh] at old
        cases old
      exact ⟨earlier, by rw [changed, there, Option.map_some, if_neg elsewhere], served⟩
    · have serving : after.sockets[other]? =
          some (socket.serving before.registry.nextConnection) := by
        rw [changed, found, Option.map_some, if_pos rfl]
      exact ⟨_, serving, Or.inl rfl, Or.inl rfl⟩
  · intro other member
    rw [unaccepted] at member
    obtain ⟨earlier, there, waits⟩ := assigned.waiting other member
    have elsewhere : id ≠ other := by
      rintro rfl
      obtain rfl := Option.some.inj (there.symm.trans found)
      rw [accepted] at waits
      cases waits
    exact ⟨earlier, by rw [changed, there, Option.map_some, if_neg elsewhere], waits⟩

/-- An action that serves a socket is the first step of its reader. Later steps of the same reader
find a socket that reads already. -/
theorem serves?_eq_some_iff :
    gateway.serves? action = some id ↔ action = .task (.read id) ∧
      ∃ socket, gateway.sockets[id]? = some socket ∧ socket.reader = .accepted := by
  unfold serves?
  split
  · rename_i other
    by_cases accepted : (gateway.sockets[other]?).map Socket.reader = some .accepted
    · rw [if_pos accepted]
      obtain ⟨socket, found, reads⟩ := Option.map_eq_some_iff.mp accepted
      constructor
      · intro same
        obtain rfl := Option.some.inj same
        exact ⟨rfl, socket, found, reads⟩
      · rintro ⟨same, -⟩
        obtain rfl : other = id := by simpa using same
        rfl
    · rw [if_neg accepted]
      refine ⟨fun none => absurd none (Option.some_ne_none id).symm, ?_⟩
      rintro ⟨same, socket, found, reads⟩
      obtain rfl : other = id := by simpa using same
      exact absurd (by rw [found, ← reads]; rfl) accepted
  · rename_i other
    refine ⟨fun none => absurd none (Option.some_ne_none id).symm, ?_⟩
    rintro ⟨same, -⟩
    exact absurd same (other id)

/-- A socket gets the next connection when it has been accepted and its reader takes a step. -/
theorem gets?_eq_some_iff :
    gateway.gets? id action = some connection ↔
      connection = gateway.registry.nextConnection ∧ action = .task (.read id) ∧
        ∃ socket, gateway.sockets[id]? = some socket ∧ socket.reader = .accepted := by
  rw [← serves?_eq_some_iff]
  unfold gets?
  split
  · rename_i serves
    simp [serves, eq_comm]
  · rename_i idle
    simp [idle]

/-- Whatever happens, sockets keep the connections they have, and one that is served gets a
connection. -/
theorem Assigned.act {station : Station} (assigned : station.gateway.Assigned owner)
    (occurrence : Station.Occurrence) :
    (station.act occurrence).gateway.Assigned fun id =>
      (owner id).or (station.gateway.gets? id occurrence.action) := by
  have intake := intake_act occurrence station
  cases serves : station.gateway.serves? occurrence.action with
  | none =>
    have next : (station.act occurrence).gateway.registry.nextConnection =
        station.gateway.registry.nextConnection := by simp [intake.next, serves]
    have same : (fun id => (owner id).or (station.gateway.gets? id occurrence.action)) = owner := by
      funext id
      simp [gets?, serves]
    rw [same]
    rcases Station.passes_act occurrence station with passes | ⟨_, _, -, sockets, unaccepted⟩
    · exact assigned.passes passes serves next
    · exact assigned.connect sockets unaccepted next
  | some id =>
    have next : (station.act occurrence).gateway.registry.nextConnection =
        station.gateway.registry.nextConnection + 1 := by simp [intake.next, serves]
    obtain ⟨action, socket, found, accepted⟩ := serves?_eq_some_iff.mp serves
    have value : (station.act occurrence).gateway =
        (station.gateway.serve occurrence.moment id socket).value := by
      rw [Station.act, action]
      show (station.gateway.read occurrence.moment id).value = _
      simp only [read, found, accepted]
    simp only [gets?, serves]
    refine assigned.serving found accepted ?_ ?_ next
    · rw [value, serve_value]
      rfl
    · rw [value, serve_value]
      rfl

end Gateway

namespace Station

variable {station : Station} {history : History} {id : SocketId}

/-- The connection that a socket has got in a history. -/
def connectionOf (id : SocketId) (history : History) (station : Station) : Option ConnectionId :=
  (station.scenes history).findSome? fun scene =>
    scene.before.gateway.gets? id scene.occurrence.action

/-- A socket has the connection it had, or gets one by the last occurrence. -/
theorem connectionOf_concat (id : SocketId) (history : History) (occurrence : Occurrence)
    (station : Station) :
    station.connectionOf id (history ++ [occurrence]) =
      (station.connectionOf id history).or
        ((station.replay history).gateway.gets? id occurrence.action) := by
  rw [connectionOf, scenes_concat, List.findSome?_append]
  simp [connectionOf]

/-- A history assigns to every socket the connection that the socket has got. -/
theorem assigned_replay (unvisited : station.gateway.Unvisited) (history : History) :
    (station.replay history).gateway.Assigned fun id => station.connectionOf id history := by
  induction history using List.reverseRecOn with
  | nil => exact Gateway.assigned_of_unconnected unvisited.sockets unvisited.arrivals
  | append_singleton past occurrence inductionHypothesis =>
    rw [replay_concat]
    simp only [connectionOf_concat]
    exact inductionHypothesis.act occurrence

end Station

end DiagnosticGateway
