import DiagnosticGateway.Proofs.Gateway.Openings

/-!
# How many connections are open

A socket is accepted only while fewer connections are open than the configuration allows. Its
connection is opened later, though, when the task that serves the socket takes its first step, and
until then nothing counts it. Whatever is accepted in the meantime comes on top of the limit. So the
limit is exceeded by no more than the number of sockets that were still to be served when another
one was accepted, and it holds where every socket is served before the next one is accepted.
-/

namespace DiagnosticGateway

/-- The socket was accepted and is still to be served. -/
def Socket.isAdmitted (socket : Socket) : Bool :=
  socket.reader == .accepted

namespace Gateway

/-- The sockets that were accepted and are still to be served. -/
def admissions (gateway : Gateway) : List SocketId :=
  gateway.socketsWhere Socket.isAdmitted

/-- How many connections are open, or will be when the sockets that were accepted are served. -/
def occupancy (gateway : Gateway) : Nat :=
  gateway.registry.openConnections.length + gateway.admissions.length

/-- How many sockets are still to be served when an action takes the next arrival. -/
def overtaken (action : Station.Action) (gateway : Gateway) : Nat :=
  match action with
  | .task .accept => gateway.admissions.length
  | _ => 0

variable {gateway after : Gateway} {action : Station.Action} {id : SocketId}
  {socket later : Socket}

/-- A socket is among those to be served if its reader has not begun. -/
theorem mem_admissions :
    id ∈ gateway.admissions ↔
      ∃ socket, gateway.sockets[id]? = some socket ∧ socket.reader = .accepted := by
  simp [admissions, mem_socketsWhere, Socket.isAdmitted]

/-- No socket is to be served twice. -/
theorem nodup_admissions (gateway : Gateway) : gateway.admissions.Nodup := by
  have numbers : (gateway.sockets.zipIdx.map Prod.snd).Nodup := by
    rw [List.zipIdx_map_snd]
    exact List.nodup_range'
  exact numbers.sublist (List.Sublist.map Prod.snd List.filter_sublist)

/-- Sockets that are among others are not more than these. -/
theorem length_admissions_le {ids : List SocketId} (among : after.admissions ⊆ ids) :
    after.admissions.length ≤ ids.length :=
  (List.subperm_of_subset after.nodup_admissions among).length_le

/-! ## Accepting -/

/-- Only the task that accepts makes a socket one that is to be served. It is the other ways round
that are common: a socket that is to be served is served or abandoned. -/
theorem Becomes.accepted (becomes : gateway.Becomes id after socket action later)
    (apart : action ≠ .task .accept) (accepted : later.reader = .accepted) :
    socket.reader = .accepted := by
  cases becomes with
  | rests reader => exact reader.symm.trans accepted
  | admitted => exact absurd rfl apart
  | refused => exact absurd rfl apart
  | abandoned => cases accepted
  | served => cases accepted
  | read _ reader =>
    rcases reader with serves | finished
    · rw [accepted] at serves
      exact serves.elim
    · rw [accepted] at finished
      cases finished
  | left => cases accepted
  | wrote => exact accepted
  | silenced => exact accepted

/-- A change to one socket adds at most that one to those that are to be served. -/
theorem admissions_updateSocket (step : Socket → Socket) :
    (gateway.updateSocket id step).admissions ⊆ id :: gateway.admissions := by
  intro other member
  obtain ⟨later, found, accepted⟩ := mem_admissions.mp member
  rw [getElem?_updateSocket] at found
  by_cases here : id = other
  · exact here ▸ List.mem_cons_self
  · simp only [here, if_false, Option.map_id'] at found
    exact List.mem_cons_of_mem _ (mem_admissions.mpr ⟨later, found, accepted⟩)

/-- A socket that is refused is not to be served. All other sockets are left as they are. -/
theorem admissions_abandon : (gateway.updateSocket id Socket.abandon).admissions ⊆
    gateway.admissions := by
  intro other member
  obtain ⟨later, found, accepted⟩ := mem_admissions.mp member
  rw [getElem?_updateSocket] at found
  obtain ⟨socket, there, same⟩ := Option.map_eq_some_iff.mp found
  by_cases here : id = other
  · rw [if_pos here] at same
    subst same
    cases accepted
  · rw [if_neg here] at same
    exact mem_admissions.mpr ⟨socket, there, same ▸ accepted⟩

/-- Where a socket is accepted, there was room for one more among the open connections. What it is
accepted beside are the sockets that are still to be served, which no limit has counted. -/
theorem occupancy_accept (gateway : Gateway) :
    gateway.accept.value.occupancy ≤
      max gateway.occupancy (gateway.config.maxSockets.toNat + gateway.admissions.length) := by
  cases waits : gateway.arrivals with
  | nil =>
    simp only [accept, waits]
    exact Nat.le_max_left _ _
  | cons first rest =>
    cases first with
    | fault reason =>
      simp only [accept, waits]
      exact Nat.le_max_left _ _
    | socket id =>
      let taken := { gateway with arrivals := rest }
      rw [accept_value waits]
      split
      · have fewer := length_admissions_le
          (admissions_abandon : (taken.updateSocket id _).admissions ⊆ _)
        exact Nat.le_trans (Nat.add_le_add_left fewer _) (Nat.le_max_left _ _)
      · -- The socket is one more to be served, and there was room for its connection.
        rename_i room
        have grown := length_admissions_le
          (admissions_updateSocket Socket.admitted : (taken.updateSocket id _).admissions ⊆ _)
        refine Nat.le_trans ?_ (Nat.le_max_right _ _)
        calc (taken.updateSocket id Socket.admitted).occupancy
            ≤ gateway.registry.openConnections.length + (gateway.admissions.length + 1) :=
              Nat.add_le_add_left grown _
          _ ≤ gateway.config.maxSockets.toNat + gateway.admissions.length := by omega

end Gateway

namespace Station

open Gateway

variable {station : Station} {occurrence : Occurrence} {history : History} {id : SocketId}

/-- The most sockets that were still to be served when the next arrival was taken. -/
def backlog : History → Station → Nat
  | [], _ => 0
  | occurrence :: rest, station =>
    max (station.gateway.overtaken occurrence.action) ((station.act occurrence).backlog rest)

/-! ## Serving -/

/-- Only the accepting task adds to the sockets that are to be served. A socket that has just
connected waits in the backlog, and is not among them. -/
theorem admissions_act (apart : occurrence.action ≠ .task .accept) :
    (station.act occurrence).gateway.admissions ⊆ station.gateway.admissions := by
  intro id member
  obtain ⟨later, foundLater, accepted⟩ := mem_admissions.mp member
  rcases passes_act occurrence station with passes | ⟨peer, fault, -, grown, -⟩
  · cases found : station.gateway.sockets[id]? with
    | none =>
      rw [passes.missing found] at foundLater
      cases foundLater
    | some socket =>
      obtain ⟨_, same, becomes⟩ := passes.becomes found
      obtain rfl := Option.some.inj (foundLater.symm.trans same)
      exact mem_admissions.mpr ⟨socket, found, becomes.accepted apart accepted⟩
  · -- The socket of the tester that connects waits to be accepted.
    rw [grown, List.getElem?_append] at foundLater
    split at foundLater
    · exact mem_admissions.mpr ⟨later, foundLater, accepted⟩
    · obtain rfl := List.mem_singleton.mp (List.mem_of_getElem? foundLater)
      cases accepted

/-- A socket that is served is no more to be served. Its reader goes over from accepted to reading
in this step. -/
theorem served_notMem_admissions
    (serves : station.gateway.serves? occurrence.action = some id) :
    id ∈ station.gateway.admissions ∧ id ∉ (station.act occurrence).gateway.admissions := by
  obtain ⟨action, socket, found, accepted⟩ := serves?_eq_some_iff.mp serves
  refine ⟨mem_admissions.mpr ⟨socket, found, accepted⟩, fun member => ?_⟩
  obtain ⟨later, foundLater, reads⟩ := mem_admissions.mp member
  have serving : (station.act occurrence).gateway.sockets[id]? =
      some (socket.serving station.gateway.registry.nextConnection) := by
    rw [act, action]
    show (station.gateway.read occurrence.moment id).value.sockets[id]? = _
    rw [read_of_accepted occurrence.moment found accepted]
    exact getElem?_serve found
  obtain rfl := Option.some.inj (foundLater.symm.trans serving)
  cases reads

/-- Without accepting, a connection is opened only in place of a socket that was to be served. A
socket that begins to be served leaves the one count as its connection comes into the other, so the
sum stays the same. -/
theorem occupancy_act_le (served : station.gateway.registry.Served)
    (able : station.CanHappen occurrence) (apart : occurrence.action ≠ .task .accept) :
    (station.act occurrence).gateway.occupancy ≤ station.gateway.occupancy := by
  have servedLater := served_act served able
  have opened : ∀ id ∈ (station.act occurrence).gateway.registry.openConnections,
      id ∈ station.gateway.registry.openConnections ∨
        (station.gateway.serves? occurrence.action).isSome = true ∧
          id = station.gateway.registry.nextConnection := by
    intro id member
    rw [served.mem_openConnections]
    exact isOpen_act served able (servedLater.mem_openConnections.mp member)
  have distinct := servedLater.sound.nodup_openConnections
  have waiting : (station.act occurrence).gateway.admissions ⊆ station.gateway.admissions :=
    admissions_act apart
  cases serves : station.gateway.serves? occurrence.action with
  | none =>
    have kept : (station.act occurrence).gateway.registry.openConnections ⊆
        station.gateway.registry.openConnections := fun id member =>
      (opened id member).resolve_right fun fresh => by simp [serves] at fresh
    exact Nat.add_le_add (List.subperm_of_subset distinct kept).length_le
      (length_admissions_le waiting)
  | some id =>
    obtain ⟨waited, gone⟩ := served_notMem_admissions serves
    have grown : (station.act occurrence).gateway.registry.openConnections ⊆
        station.gateway.registry.nextConnection ::
          station.gateway.registry.openConnections := by
      intro id member
      rcases opened id member with kept | ⟨-, rfl⟩
      · exact List.mem_cons_of_mem _ kept
      · exact List.mem_cons_self
    have fewer : (station.act occurrence).gateway.admissions ⊆
        station.gateway.admissions.erase id := by
      intro other member
      have elsewhere : other ≠ id := fun same => gone (same ▸ member)
      exact (List.mem_erase_of_ne elsewhere).mpr (waiting member)
    have connections := (List.subperm_of_subset distinct grown).length_le
    have sockets := length_admissions_le fewer
    have positive := List.length_pos_of_mem waited
    rw [List.length_erase_of_mem waited] at sockets
    rw [List.length_cons] at connections
    unfold occupancy
    omega

/-- What is open or about to open after an occurrence was so before, or there was room for it apart
from the sockets that were still to be served. -/
theorem occupancy_act (served : station.gateway.registry.Served)
    (able : station.CanHappen occurrence) :
    (station.act occurrence).gateway.occupancy ≤
      max station.gateway.occupancy
        (station.gateway.config.maxSockets.toNat + station.gateway.overtaken occurrence.action) := by
  by_cases accepts : occurrence.action = .task .accept
  · rw [act, accepts]
    exact occupancy_accept station.gateway
  · exact Nat.le_trans (occupancy_act_le served able accepts) (Nat.le_max_left _ _)

/-- In every possible history the gateway is occupied within its limit and what was still to be
served when somebody was accepted. -/
theorem Possible.occupancy_le (possible : station.Possible history)
    (served : station.gateway.registry.Served) :
    (station.replay history).gateway.occupancy ≤
      max station.gateway.occupancy
        (station.gateway.config.maxSockets.toNat + station.backlog history) := by
  induction history generalizing station with
  | nil => exact Nat.le_max_left _ _
  | cons first rest inductionHypothesis =>
    obtain ⟨able, possible⟩ := possible
    have later := inductionHypothesis possible (served_act served able)
    have now := occupancy_act served able
    rw [(intake_act first station).config] at later
    rw [replay_cons, backlog]
    omega

end Station

namespace Gateway

open Station

/-- However arrivals, closings and the steps of the tasks are ordered, no more connections are open
than the configuration allows, but for as many as there were sockets still to be served when
another one was accepted. The limit is never exceeded where each socket is served before the next
one is accepted. -/
theorem openConnections_le_maxSockets {library : Pattern.Library} {config : GatewayConfig}
    {ecus : List Ecu} {gateway : Gateway} (made : withEcus library config ecus = .ok gateway)
    {network : Net.Network} {history : History}
    (possible : (Station.mk gateway network).Possible history) :
    ((Station.mk gateway network).replay history).gateway.registry.openConnections.length ≤
      config.maxSockets.toNat + (Station.mk gateway network).backlog history := by
  have fresh := eq_of_withEcus made
  have unvisited := unvisited_withEcus made
  have empty : gateway.occupancy = 0 := by
    rw [fresh]
    rfl
  have allowed : gateway.config = config := by rw [fresh]
  have bound := possible.occupancy_le unvisited.served
  rw [empty, allowed, Nat.zero_max] at bound
  exact Nat.le_trans (Nat.le_add_right _ _) bound

/-- A gateway that allows one connection. -/
def narrow : Gateway :=
  { demonstration with config := { demonstration.config with maxSockets := 1 } }

/-- The narrow gateway is one that a configuration makes. -/
theorem narrow_made : withEcus Pattern.Plain.library narrow.config [holdingEcu] = .ok narrow := by
  have valid : narrow.config.validate Pattern.Plain.library = .ok () := by decide +kernel
  have identity : narrow.config.identity = .ok narrow.identity := by decide +kernel
  simp only [withEcus, valid, identity]
  rfl

/-- One tester connects, and another one after the first was served. -/
def oneByOne : History :=
  [⟨0, .event .start⟩,
    ⟨0, .event (.connect ⟨.v4 .loopback, 50001⟩ none)⟩,
    ⟨0, .task .accept⟩,
    ⟨0, .task (.read 0)⟩,
    ⟨0, .event (.connect ⟨.v4 .loopback, 50002⟩ none)⟩,
    ⟨0, .task .accept⟩]

/-- The second of them is refused. -/
theorem openConnections_le_maxSockets_oneByOne :
    (Station.mk narrow .new).backlog oneByOne = 0 ∧
      ((Station.mk narrow .new).replay oneByOne).gateway.registry.openConnections.length ≤ 1 := by
  have possible : (Station.mk narrow .new).Possible oneByOne := by decide +kernel
  have prompt : (Station.mk narrow .new).backlog oneByOne = 0 := by decide +kernel
  have bound := openConnections_le_maxSockets narrow_made possible
  rw [prompt] at bound
  exact ⟨prompt, bound⟩

/-- Two testers connect, and both are accepted before either is served. -/
def bothAtOnce : History :=
  [⟨0, .event .start⟩,
    ⟨0, .event (.connect ⟨.v4 .loopback, 50001⟩ none)⟩,
    ⟨0, .event (.connect ⟨.v4 .loopback, 50002⟩ none)⟩,
    ⟨0, .task .accept⟩,
    ⟨0, .task .accept⟩,
    ⟨0, .task (.read 0)⟩,
    ⟨0, .task (.read 1)⟩]

/-- Two connections are open where one is allowed. -/
theorem maxSockets_lt_openConnections :
    withEcus Pattern.Plain.library narrow.config [holdingEcu] = .ok narrow ∧
      (Station.mk narrow .new).Possible bothAtOnce ∧
      ((Station.mk narrow .new).replay bothAtOnce).gateway.running?.isSome = true ∧
      narrow.config.maxSockets.toNat <
        ((Station.mk narrow .new).replay bothAtOnce).gateway.registry.openConnections.length := by
  refine ⟨narrow_made, ?_, ?_, ?_⟩ <;> decide +kernel

end Gateway

end DiagnosticGateway
