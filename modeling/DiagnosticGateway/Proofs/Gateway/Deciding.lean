import DiagnosticGateway.Proofs.Gateway.Answers
import DiagnosticGateway.Proofs.Gateway.Handling

/-!
# Readers that wait for a decision

A reader that waits for a decision waits for a request of its own connection. Since every socket has
a connection of its own, no two readers wait for the same request, and a request is moved on by
nobody but the reader that waits for it.
-/

namespace DiagnosticGateway

namespace Registry

/-- A request was made for a connection. -/
def RequestFor (number : RequestId) (connection : ConnectionId) (registry : Registry) : Prop :=
  ∃ request, registry.request? number = some request ∧ request.connection = connection

variable {registry after : Registry} {number : RequestId} {connection : ConnectionId}
  {own : RequestId → Prop}

/-- A request that a connection waits for is one that it has made. -/
theorem Awaits.requestFor {source : UInt16} (awaits : registry.Awaits number connection source) :
    registry.RequestFor number connection := by
  obtain ⟨request, found, same, -, -⟩ := awaits
  exact ⟨request, found, same⟩

/-- A request stays that of its connection. -/
theorem RequestFor.leads (held : registry.RequestFor number connection)
    (leads : registry.Leads own after) : after.RequestFor number connection := by
  refine leads.keeps held fun registry occurrence held => ?_
  obtain ⟨request, found, same⟩ := held
  have moved : ∃ stage, (registry.act occurrence).request? number =
      some { request with stage := stage } := Registry.request?_act found
  obtain ⟨stage, later⟩ := moved
  exact ⟨_, later, same⟩

end Registry

namespace Gateway

open Registry

variable {gateway : Gateway} {id other : SocketId} {connection : ConnectionId}
  {now : Milliseconds} {number : RequestId} {source : UInt16} {socket later : Socket}

/-- Moving a request on leaves every request to its connection. -/
theorem requestFor_pursueActivation {request : RequestId} {asked : UInt16}
    {own : ConnectionId} (held : gateway.registry.RequestFor number connection) :
    (gateway.pursueActivation now own request asked).value.1.registry.RequestFor number
      connection := by
  have conducts : gateway.Conducts (fun _ => True)
      (gateway.pursueActivation now own request asked).value.1 :=
    conducts_pursueActivation request asked trivial
  exact held.leads conducts

/-- Whoever waits on waits for the same request. -/
theorem wait_pursueActivation {request : RequestId} {asked : UInt16}
    (waits : (gateway.pursueActivation now connection request asked).value.2 =
      .wait number source) : number = request := by
  rw [pursueActivation_value] at waits
  split at waits
  · rw [answerActivation_value] at waits
    dsimp only at waits
    split at waits <;> cases waits
  · exact (Flow.wait.inj waits).1.symm

/-- Only an activation request makes a reader wait, which has then just begun to wait for it. The
request is made and its first step taken in one stretch, so the reader waits only if that step has
not decided it. -/
theorem onMessage_of_wait (message : Wire.Message)
    (waits : (gateway.onMessage now connection message).value.2 = .wait number source) :
    ∃ asked, (gateway.onMessage now connection message).value =
      ({ gateway with registry := (gateway.registry.request connection asked).1 }.pursueActivation
        now connection gateway.registry.requests.length asked).value := by
  cases message with
  | routingActivationRequest body =>
    refine ⟨body.sourceAddress, ?_⟩
    simp only [onMessage, onActivation] at waits ⊢
    split at waits
    · rename_i supported
      rw [if_pos supported]
      rfl
    · have answered := answerActivation_value connection body.sourceAddress
        .deniedUnsupportedActivationType gateway
      rw [Logged.value_bind, answered] at waits
      dsimp only at waits
      split at waits <;> cases waits
  | diagnosticMessage body =>
    have flow := (onDiagnostic_value connection body gateway).1
    rw [show (gateway.onDiagnostic connection body).value.2 = _ from waits] at flow
    split at flow <;> cases flow
  | _ => cases waits

/-- A frame after which the reader waits has made a request, and its first step has not decided
it. -/
theorem onFrame_of_wait (content : Except Wire.Fault Wire.Message)
    (waits : (gateway.onFrame now connection content).value.2 = .wait number source) :
    ∃ (received : Gateway) (asked : UInt16),
      received.registry = gateway.registry.dataReceived now connection ∧
        (gateway.onFrame now connection content).value =
          ({ received with
              registry := (received.registry.request connection asked).1 }.pursueActivation
            now connection received.registry.requests.length asked).value := by
  cases content with
  | ok message =>
    obtain ⟨asked, same⟩ := onMessage_of_wait message waits
    exact ⟨_, asked, rfl, same⟩
  | error fault =>
    simp only [onFrame, onInvalidFrame, Logged.value_bind, Logged.value_pure] at waits
    split at waits <;> cases waits

/-- Whoever begins to wait waits for a request that was just made for the connection. -/
theorem wait_onFrame (sound : gateway.registry.Sound) (content : Except Wire.Fault Wire.Message)
    (waits : (gateway.onFrame now connection content).value.2 = .wait number source) :
    (gateway.onFrame now connection content).value.1.registry.RequestFor number connection := by
  obtain ⟨received, asked, heard, same⟩ := onFrame_of_wait content waits
  have soundLater : received.registry.Sound := by
    rw [heard]
    exact Registry.sound_act ⟨now, .event (.dataReceived connection)⟩ sound
  rw [same] at waits ⊢
  obtain rfl := wait_pursueActivation waits
  exact requestFor_pursueActivation (awaits_request soundLater connection asked).requestFor

/-! ## One step -/

/-- Every reader that waits for a decision waits for a request of its connection. -/
def Decides (gateway : Gateway) : Prop :=
  ∀ (id : SocketId) (socket : Socket) (connection : ConnectionId) (number : RequestId)
    (source : UInt16), gateway.sockets[id]? = some socket →
      socket.reader = .deciding connection number source →
        gateway.registry.RequestFor number connection

/-- Whoever waits after the step of a reader waits for a request of the connection. It is a request
that the frame has just made, or the one that was waited for already. -/
theorem Decides.wait {middle : Gateway} {events : List Log.Event} (decides : gateway.Decides)
    (sound : gateway.registry.Sound) (found : gateway.sockets[id]? = some socket)
    (handles : Handles now id connection gateway socket middle (.wait number source) events) :
    middle.registry.RequestFor number connection := by
  generalize same : Flow.wait number source = flow at handles
  cases handles with
  | @frame frame _ reads inbound handled =>
    subst handled
    have takenSound : (gateway.taking id frame).registry.Sound := sound
    exact wait_onFrame takenSound frame.content same.symm
  | @decision request asked _ waits handled =>
    subst handled
    obtain rfl := wait_pursueActivation same.symm
    exact requestFor_pursueActivation (decides id socket connection number asked found waits)
  | ended => cases same

/-- A reader that waits after its own step has done something for its connection that makes it
wait. -/
theorem deciding_read (able : gateway.canRead now socket = true)
    (there : gateway.sockets[id]? = some socket)
    (found : (gateway.read now id).value.sockets[id]? = some later)
    (waits : later.reader = .deciding connection number source) :
    ∃ middle events,
      Handles now id connection gateway socket middle (.wait number source) events ∧
        (gateway.read now id).value.registry = middle.registry := by
  rcases handles_of_canRead able with accepted | ⟨own, middle, flow, events, handles⟩
  · rw [read_of_accepted now there accepted, getElem?_serve there] at found
    obtain rfl := Option.some.inj found
    cases waits
  · rw [handles.reader there found] at waits
    cases flow with
    | wait request asked =>
      obtain ⟨rfl, rfl, rfl⟩ := Reader.deciding.inj waits
      refine ⟨middle, events, handles, ?_⟩
      rw [handles.read there]
      rfl
    | _ => cases waits

end Gateway

namespace Station

open Gateway

variable {station : Station} {history : History} {occurrence : Occurrence}
  {connection : ConnectionId} {number : RequestId} {id : SocketId} {socket later : Socket}
  {source : UInt16}

/-- A request stays that of its connection, whatever happens. Requests keep their connections, and a
writer changes no request at all. -/
theorem requestFor_act (occurrence : Occurrence)
    (held : station.gateway.registry.RequestFor number connection) :
    (station.act occurrence).gateway.registry.RequestFor number connection := by
  cases writes : occurrence.action.writes with
  | false => exact held.leads (Station.conducts_act occurrence writes station)
  | true =>
    obtain ⟨moment, action⟩ := occurrence
    cases action with
    | event event => cases writes
    | task task =>
      cases task with
      | write id =>
        obtain ⟨request, found, same⟩ := held
        refine ⟨request, ?_, same⟩
        show (station.gateway.write id).value.registry.request? number = some request
        rw [Registry.request?, requests_write]
        exact found
      | _ => cases writes

/-- Whoever waits for a decision after an occurrence waited for it before and did not go on, or has
just taken a step of its own after which it waits. -/
theorem deciding_act (able : station.CanHappen occurrence)
    (found : (station.act occurrence).gateway.sockets[id]? = some later)
    (waits : later.reader = .deciding connection number source) :
    ∃ socket, station.gateway.sockets[id]? = some socket ∧
      (socket.reader = .deciding connection number source ∧
          occurrence.action ≠ .task (.read id) ∨
        ∃ middle events,
          Handles occurrence.moment id connection station.gateway socket middle
            (.wait number source) events ∧
          (station.act occurrence).gateway.registry = middle.registry) := by
  by_cases reads : occurrence.action = .task (.read id)
  · obtain ⟨moment, action⟩ := occurrence
    subst reads
    obtain ⟨socket, there, ready⟩ := mem_enabled.mp able
    exact ⟨socket, there, Or.inr (deciding_read ready there found waits)⟩
  · rcases passes_act occurrence station with passes | ⟨peer, fault, -, grown, -⟩
    · cases there : station.gateway.sockets[id]? with
      | none =>
        rw [passes.missing there] at found
        cases found
      | some socket =>
        refine ⟨socket, rfl, Or.inl ⟨?_, reads⟩⟩
        obtain ⟨same, foundSame, becomes⟩ := passes.becomes there
        obtain rfl := Option.some.inj (foundSame.symm.trans found)
        obtain ⟨moment, action⟩ := occurrence
        cases becomes with
        | rests reader => exact reader.symm.trans waits
        | read => exact absurd rfl reads
        | wrote => exact waits
        | silenced => exact waits
        | _ => cases waits
    · -- Nobody reads yet from the socket of the tester that connects.
      rw [grown, List.getElem?_append] at found
      split at found
      · exact ⟨later, found, Or.inl ⟨waits, reads⟩⟩
      · obtain rfl := List.mem_singleton.mp (List.mem_of_getElem? found)
        cases waits

/-- What a reader waits for goes on being a request of its own connection. -/
theorem decides_act (decides : station.gateway.Decides) (sound : station.gateway.registry.Sound)
    (able : station.CanHappen occurrence) : (station.act occurrence).gateway.Decides := by
  intro id later connection number source found waits
  obtain ⟨socket, there, ⟨same, -⟩ | ⟨middle, events, handles, rests⟩⟩ :=
    deciding_act able found waits
  · exact requestFor_act occurrence (decides id socket connection number source there same)
  · rw [rests]
    exact decides.wait sound there handles

/-- At every moment readers wait for requests of their own connections. -/
theorem Possible.decides (possible : station.Possible history)
    (unvisited : station.gateway.Unvisited) :
    (station.replay history).gateway.Decides := by
  refine (possible.keeps (motive := fun station =>
    station.gateway.registry.Served ∧ station.gateway.Decides) ⟨unvisited.served, ?_⟩ ?_).2
  · intro id socket connection number source found
    rw [unvisited.sockets] at found
    cases found
  · rintro station occurrence ⟨served, decides⟩ able
    exact ⟨served_act served able, decides_act decides served.sound able⟩

/-- Nobody but the reader that waits for a request moves it on. Another reader would have to serve
the same connection, and each connection has one socket. -/
theorem Possible.not_moves (possible : station.Possible history)
    (unvisited : station.gateway.Unvisited)
    (owns : station.connectionOf id history = some connection)
    (awaits : (station.replay history).gateway.registry.Awaits number connection source)
    {action : Action} (apart : action ≠ .task (.read id)) :
    ¬ (station.replay history).gateway.moves action number := by
  obtain ⟨request, found, own, -, -⟩ := awaits
  have assigned := assigned_replay unvisited history
  rintro ⟨reader, rfl, fresh | ⟨socket, other, asked, there, waits⟩⟩
  · have below := (possible.served unvisited.served).sound.numbered _ request found
    rw [fresh] at below
    exact Nat.lt_irrefl _ below
  · obtain ⟨same, foundSame, others⟩ :=
      possible.decides unvisited reader socket other number asked there waits
    obtain rfl := Option.some.inj (foundSame.symm.trans found)
    have serves : socket.reader.Serves connection := waits ▸ others.symm.trans own
    obtain rfl := assigned.eq_of_serves owns there serves
    exact apart rfl

/-- Whoever waits for a decision waits on while others take their steps. -/
theorem Possible.awaits_act (possible : station.Possible history)
    (unvisited : station.gateway.Unvisited)
    (owns : station.connectionOf id history = some connection)
    (awaits : (station.replay history).gateway.registry.Awaits number connection source)
    (apart : occurrence.action ≠ .task (.read id)) :
    ((station.replay history).act occurrence).gateway.registry.Awaits number connection source := by
  have still := possible.not_moves unvisited owns awaits apart
  obtain ⟨request, found, own, asked, undecided⟩ := awaits
  have later := Station.request?_act found still
  refine ⟨request, later, own, asked, ?_⟩
  rw [Registry.answer?, later]
  rw [Registry.answer?, found] at undecided
  exact undecided

end Station

end DiagnosticGateway
