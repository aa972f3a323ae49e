import DiagnosticGateway.Proofs.Gateway.Exchanges
import DiagnosticGateway.Proofs.Gateway.Mailbox
import DiagnosticGateway.Proofs.Gateway.Roster

/-!
# The table and the sockets that are open

A connection is closed by its timer, by its reader, by its writer, by a probe of another tester or
by the stop, wherever its own reader is at that moment. The reader takes it out of the table as soon
as it notices, which is at once unless it waits for a decision. So once nothing is left to be done,
what is closed and still in the table waits for a decision. What is open is in the table at any
time, and the state of the sockets that is reported counts it once.
-/

namespace DiagnosticGateway

namespace Gateway

variable {gateway middle : Gateway} {id : SocketId} {connection : ConnectionId}
  {now : Milliseconds} {number : RequestId} {source : UInt16} {socket : Socket}
  {events : List Log.Event}

/-! ## Waiting for a decision -/

/-- Nobody waits on for a decision that has fallen. It would have been answered in the same step. -/
theorem undecided_pursueActivation {request : RequestId} {asked : UInt16}
    (waits : (gateway.pursueActivation now connection request asked).value.2 =
      .wait number source) :
    (gateway.pursueActivation now connection request asked).value.1.registry.answer? number =
      none := by
  obtain rfl := wait_pursueActivation waits
  rw [pursueActivation_value] at waits ⊢
  split at waits
  · rw [answerActivation_value] at waits
    dsimp only at waits
    split at waits <;> cases waits
  · rename_i undecided
    simp only [undecided]

/-- A reader waits only for what is undecided. Both ways to wait come from moving the request on,
which answers it when it can. -/
theorem Handles.undecided
    (handles : Handles now id connection gateway socket middle (.wait number source) events) :
    middle.registry.answer? number = none := by
  generalize same : Flow.wait number source = flow at handles
  cases handles with
  | @frame frame _ reads inbound handled =>
    subst handled
    obtain ⟨received, asked, -, pursued⟩ := onFrame_of_wait frame.content same.symm
    rw [pursued] at same ⊢
    exact undecided_pursueActivation same.symm
  | @decision request asked _ waits handled =>
    subst handled
    exact undecided_pursueActivation same.symm
  | ended => cases same

/-- No reader waits for a decision that has fallen. -/
def Undecided (gateway : Gateway) : Prop :=
  ∀ (id : SocketId) (socket : Socket) (connection : ConnectionId) (number : RequestId)
    (source : UInt16), gateway.sockets[id]? = some socket →
      socket.reader = .deciding connection number source → gateway.registry.answer? number = none

/-! ## When nothing is left to be done -/

/-- When nothing is left to be done, every socket that was accepted is served. -/
theorem admissions_of_quiescent (quiescent : gateway.enabled now = []) :
    gateway.admissions = [] := by
  refine List.eq_nil_iff_forall_not_mem.mpr fun id waits => ?_
  obtain ⟨socket, found, accepted⟩ := mem_admissions.mp waits
  exact not_able quiescent (.read id) ⟨socket, found, by simp [canRead, accepted]⟩

/-- When nothing is left to be done, the reader of a closed connection has finished or waits for a
decision. -/
theorem reader_of_quiescent (quiescent : gateway.enabled now = [])
    (found : gateway.sockets[id]? = some socket) (served : socket.ServedBy connection)
    (closed : gateway.registry.pool.isOpen connection = false) :
    socket.reader = .finished ∨
      ∃ number source, socket.reader = .deciding connection number source := by
  refine served.reader.symm.imp_right fun serves => ?_
  cases reads : socket.reader with
  | reading own =>
    rw [reads] at serves
    obtain rfl : own = connection := serves
    have ready : gateway.canLeave socket = true := by simp [canLeave, reads, closed]
    exact absurd ⟨socket, found, ready⟩ (not_able quiescent (.leave id))
  | deciding own number source =>
    rw [reads] at serves
    obtain rfl : own = connection := serves
    exact ⟨number, source, rfl⟩
  | _ =>
    rw [reads] at serves
    exact serves.elim

end Gateway

namespace Station

open Gateway

variable {station : Station} {history : History} {occurrence : Occurrence} {id : SocketId}
  {connection : ConnectionId} {number : RequestId} {source : UInt16} {socket : Socket}
  {now : Milliseconds}

/-- At every moment readers wait for what is undecided. The induction is on the history: a reader
comes to wait when the request is still to be decided, and it is the reader itself that takes the
steps of its request. -/
theorem Possible.undecided (possible : station.Possible history)
    (unvisited : station.gateway.Unvisited) :
    (station.replay history).gateway.Undecided := by
  refine possible.byOccurrence ?_ ?_
  · intro id socket connection number source found
    rw [replay_nil, unvisited.sockets] at found
    cases found
  · intro past occurrence front able undecided id later connection number source found waits
    rw [replay_concat] at found ⊢
    obtain ⟨socket, there, ⟨same, apart⟩ | ⟨middle, events, handles, rests⟩⟩ :=
      deciding_act able found waits
    · -- Nobody but the reader itself moves its request on.
      have before := undecided id socket connection number source there same
      obtain ⟨request, made, forOwn⟩ :=
        front.decides unvisited id socket connection number source there same
      have serves : socket.reader.Serves connection := same ▸ rfl
      have owns := (assigned_replay unvisited past).owns_of_serves there serves
      obtain ⟨_, -, -, -, still⟩ :=
        front.awaits_act unvisited owns ⟨request, made, forOwn, rfl, before⟩ apart
      exact still
    · rw [rests]
      exact handles.undecided

/-! ## Being served -/

/-- A socket that is to be served stays so until it is served. Only its own reader takes it from
there, with the step that serves it. -/
theorem admissions_act_or_serves {owner : SocketId → Option ConnectionId}
    (assigned : station.gateway.Assigned owner) (waits : id ∈ station.gateway.admissions) :
    id ∈ (station.act occurrence).gateway.admissions ∨
      station.gateway.serves? occurrence.action = some id := by
  obtain ⟨socket, found, accepted⟩ := mem_admissions.mp waits
  obtain ⟨later, foundLater, becomes⟩ := becomes_act found occurrence
  have still : later.reader = .accepted → id ∈ (station.act occurrence).gateway.admissions :=
    fun reader => mem_admissions.mpr ⟨later, foundLater, reader⟩
  have idle : ∀ {reader : Reader}, socket.reader = reader → reader = .accepted :=
    fun reader => reader.symm.trans accepted
  obtain ⟨moment, action⟩ := occurrence
  cases becomes with
  | rests reader => exact Or.inl (still (reader.trans accepted))
  | admitted => exact Or.inl (still rfl)
  | refused first => cases idle (assigned.waits_first found first)
  | abandoned waiting => cases idle waiting
  | served => exact Or.inr (serves?_eq_some_iff.mpr ⟨rfl, socket, found, accepted⟩)
  | read serves =>
    rw [accepted] at serves
    exact serves.elim
  | left reads => cases idle reads
  | wrote => exact Or.inl (still accepted)
  | silenced => exact Or.inl (still accepted)

/-- A socket that was accepted is still to be served, or it has got a connection. The induction is
on what happens later, and the step that takes it from the one state brings it into the other. -/
theorem Possible.served_of_accepted {past later : History}
    (possible : station.Possible (past ++ later)) (unvisited : station.gateway.Unvisited)
    (accepted : id ∈ (station.replay past).gateway.admissions) :
    id ∈ (station.replay (past ++ later)).gateway.admissions ∨
      (station.connectionOf id (past ++ later)).isSome = true := by
  induction later using List.reverseRecOn with
  | nil =>
    rw [List.append_nil]
    exact Or.inl accepted
  | append_singleton between occurrence inductionHypothesis =>
    rw [← List.append_assoc] at possible ⊢
    rcases inductionHypothesis (possible_concat.mp possible).1 with waits | owns
    · have assigned := assigned_replay unvisited (past ++ between)
      rw [replay_concat]
      refine (admissions_act_or_serves assigned waits).imp_right fun serves => ?_
      rw [connectionOf_of_serves unvisited serves]
      rfl
    · rw [connectionOf_concat]
      exact Or.inr (by simp [owns])

/-! ## Counting -/

/-- The sockets whose connections are open. -/
def openSockets (history : History) (station : Station) : List SocketId :=
  (List.range (station.replay history).gateway.sockets.length).filter fun id =>
    (station.connectionOf id history).any (station.replay history).gateway.registry.pool.isOpen

/-- A socket is open if it has a connection that is open. -/
theorem mem_openSockets (unvisited : station.gateway.Unvisited) :
    id ∈ station.openSockets history ↔ ∃ connection,
      station.connectionOf id history = some connection ∧
        (station.replay history).gateway.registry.pool.isOpen connection = true := by
  simp only [openSockets, List.mem_filter, List.mem_range, Option.any_eq_true]
  refine ⟨And.right, fun ⟨connection, owns, opened⟩ => ⟨?_, connection, owns, opened⟩⟩
  obtain ⟨socket, found, -⟩ := (assigned_replay unvisited history).served owns
  exact (List.getElem?_eq_some_iff.mp found).1

/-- What the registry counts are the sockets whose connections are open. The two lists are
permutations of each other: an open connection is in the table, and the table has the
connections of sockets. -/
theorem Possible.length_openSockets (possible : station.Possible history)
    (unvisited : station.gateway.Unvisited) (empty : station.gateway.registry.table = []) :
    (station.replay history).gateway.registry.openConnections.length =
      (station.openSockets history).length := by
  have served := possible.served unvisited.served
  have assigned := assigned_replay unvisited history
  have enrolled := possible.enrolled unvisited empty
  have distinct : (station.openSockets history).Nodup := List.nodup_range.filter _
  have same : (station.replay history).gateway.registry.openConnections.Perm
      ((station.openSockets history).filterMap fun id => station.connectionOf id history) := by
    refine (List.perm_ext_iff_of_nodup served.sound.nodup_openConnections
      (distinct.filterMap fun id other connection owns also => ?_)).mpr fun connection => ?_
    · exact assigned.distinct owns also
    · rw [served.mem_openConnections, List.mem_filterMap]
      constructor
      · intro opened
        obtain ⟨listed, -⟩ := List.mem_filter.mp (served.mem_openConnections.mpr opened)
        obtain ⟨id, owns⟩ := enrolled.owned connection listed
        exact ⟨id, (mem_openSockets unvisited).mpr ⟨connection, owns, opened⟩, owns⟩
      · rintro ⟨id, member, owns⟩
        obtain ⟨held, also, opened⟩ := (mem_openSockets unvisited).mp member
        obtain rfl := Option.some.inj (also.symm.trans owns)
        exact opened
  refine same.length_eq.trans (List.filterMap_length_eq_length.mpr fun id member => ?_)
  obtain ⟨connection, owns, -⟩ := (mem_openSockets unvisited).mp member
  exact Option.isSome_iff_exists.mpr ⟨connection, owns⟩

/-! ## The books -/

/-- What a gateway reports of its sockets after a history: how many connections it allows, and how
many sockets are open, of which no more than 255 are counted. -/
def socketReport (history : History) (station : Station) : Wire.Message :=
  .entityStatusResponse
    { nodeType := nodeType
      maxConcurrentSockets := station.gateway.config.maxSockets
      openSockets := UInt8.ofNat (min 255 (station.openSockets history).length)
      maxDataSize := some station.gateway.config.maxDataSize }

/-- The table of a gateway is kept right. What the table holds, what is open and what the status
reports are compared whenever there is nothing left to be done. -/
structure KeepsBooks (history : History) (station : Station) : Prop where
  /-- Once nothing is left to be done, every socket that was ever accepted has got a connection. -/
  served : ∀ past later now, history = past ++ later →
    (station.replay history).gateway.enabled now = [] →
      ∀ id ∈ (station.replay past).gateway.admissions,
        (station.connectionOf id history).isSome = true
  /-- Every connection that is open is in the table. -/
  listed : ∀ id connection, station.connectionOf id history = some connection →
    (station.replay history).gateway.registry.pool.isOpen connection = true →
      connection ∈ (station.replay history).gateway.registry.table
  /-- Once nothing is left to be done, what is closed and in the table has a reader that waits for
  the decision of a request. -/
  waiting : ∀ now, (station.replay history).gateway.enabled now = [] →
    ∀ connection ∈ (station.replay history).gateway.registry.table,
      (station.replay history).gateway.registry.pool.isOpen connection = false →
        ∃ id socket number source, station.connectionOf id history = some connection ∧
          (station.replay history).gateway.sockets[id]? = some socket ∧
          socket.reader = .deciding connection number source ∧
          (station.replay history).gateway.registry.RequestFor number connection ∧
          (station.replay history).gateway.registry.answer? number = none
  /-- A connection whose reader has finished is not in the table. -/
  gone : ∀ id socket connection, station.connectionOf id history = some connection →
    (station.replay history).gateway.sockets[id]? = some socket → socket.reader = .finished →
      connection ∉ (station.replay history).gateway.registry.table
  /-- Whoever asks for the state of the sockets is told how many are open. -/
  reported : ∀ now sockets peer bytes rest,
    (station.replay history).gateway.running? = some sockets →
      (station.replay history).gateway.receipts = .datagram peer bytes :: rest →
        Wire.Message.ofDatagram (bytes.take maxDatagram) = .ok .entityStatusRequest →
          ((station.replay history).act ⟨now, .task .receive⟩).network =
            handing sockets peer (some (station.socketReport history))
              (station.replay history).network

/-- Who asks for the state of the sockets is told how many connections the registry counts. -/
theorem network_receive_status {sockets : Sockets} {peer : Net.Endpoint} {bytes : Bytes}
    {rest : List Receipt} (runs : station.gateway.running? = some sockets)
    (waits : station.gateway.receipts = .datagram peer bytes :: rest)
    (asks : Wire.Message.ofDatagram (bytes.take maxDatagram) = .ok .entityStatusRequest) :
    (station.act ⟨now, .task .receive⟩).network =
      handing sockets peer (some station.gateway.entityStatus) station.network := by
  have answers : station.gateway.reply (bytes.take maxDatagram) =
      some station.gateway.entityStatus := by
    rw [reply, asks]
    rfl
  show (station.receive now).value.network = _
  rw [receive_value runs waits, answers]

end Station

namespace Gateway

open Station

/-- Whatever happens to the connections of a gateway, its table is kept right. The books are
kept by the connections' own tasks, and when these have nothing to do each of them has
finished its entry. -/
theorem keepsBooks {library : Pattern.Library} {config : GatewayConfig} {ecus : List Ecu}
    {gateway : Gateway} (made : withEcus library config ecus = .ok gateway) {network : Net.Network}
    {history : History} (possible : (Station.mk gateway network).Possible history) :
    (Station.mk gateway network).KeepsBooks history := by
  have unvisited : (Station.mk gateway network).gateway.Unvisited := unvisited_withEcus made
  have empty : (Station.mk gateway network).gateway.registry.table = [] := by
    rw [eq_of_withEcus made]
    rfl
  have served := possible.served unvisited.served
  have enrolled := possible.enrolled unvisited empty
  refine ⟨?served, ?listed, ?waiting, enrolled.gone, ?reported⟩
  case served =>
    rintro past later now rfl quiescent id accepted
    refine (possible.served_of_accepted unvisited accepted).resolve_left ?_
    rw [admissions_of_quiescent quiescent]
    exact List.not_mem_nil
  case listed =>
    intro id connection owns opened
    exact (List.mem_filter.mp (served.mem_openConnections.mpr opened)).1
  case waiting =>
    intro now quiescent connection listed closed
    obtain ⟨id, owns⟩ := enrolled.owned connection listed
    obtain ⟨socket, found, servedBy⟩ := (assigned_replay unvisited history).served owns
    rcases reader_of_quiescent quiescent found servedBy closed with
      finished | ⟨number, source, waits⟩
    · exact absurd listed (enrolled.gone id socket connection owns found finished)
    · have own := possible.decides unvisited id socket connection number source found waits
      have undecided := possible.undecided unvisited id socket connection number source found waits
      exact ⟨id, socket, number, source, owns, found, waits, own, undecided⟩
  case reported =>
    intro now sockets peer bytes rest runs waits asks
    rw [network_receive_status runs waits asks, entityStatus,
      possible.length_openSockets unvisited empty, config_replay]
    rfl

/-- Two testers want the same address. While the second one waits for the decision, writing to it
fails, so its connection is closed. -/
def stranded : History :=
  [⟨0, .event .start⟩,
    ⟨0, .event (.connect ⟨.v4 .loopback, 50001⟩ none)⟩,
    ⟨0, .task .accept⟩,
    ⟨0, .task (.read 0)⟩,
    ⟨0, .event (.deliver 0
      (Wire.Message.routingActivationRequest ⟨0x0E00, .default, none⟩).encode)⟩,
    ⟨0, .task (.read 0)⟩,
    ⟨0, .event (.connect ⟨.v4 .loopback, 50002⟩ none)⟩,
    ⟨0, .task .accept⟩,
    ⟨0, .task (.read 1)⟩,
    ⟨0, .event (.deliver 1 (Wire.Header.write ⟨0x02, 0x1234, 0⟩))⟩,
    ⟨0, .task (.read 1)⟩,
    ⟨0, .event (.deliver 1
      (Wire.Message.routingActivationRequest ⟨0x0E00, .default, none⟩).encode)⟩,
    ⟨0, .task (.read 1)⟩,
    ⟨0, .event (.failWriting 1 ⟨104⟩)⟩,
    ⟨0, .task (.write 1)⟩,
    ⟨0, .task (.write 0)⟩,
    ⟨0, .task (.write 0)⟩]

/-- Then somebody asks for the state of the sockets. -/
def curious : History :=
  stranded ++ [⟨0, .event (.receipt (.datagram ⟨.v4 .loopback, 50003⟩
    Wire.Message.entityStatusRequest.encode))⟩]

/-- The closed connection is still in the table, where it waits for the decision, and one socket is
reported to be open. -/
theorem keepsBooks_stranded :
    ((Station.mk demonstration .new).replay stranded).gateway.registry.table = [1, 2] ∧
      (∃ id socket number source,
        (Station.mk demonstration .new).connectionOf id stranded = some 2 ∧
        ((Station.mk demonstration .new).replay stranded).gateway.sockets[id]? = some socket ∧
        socket.reader = .deciding 2 number source ∧
        ((Station.mk demonstration .new).replay stranded).gateway.registry.RequestFor number 2 ∧
        ((Station.mk demonstration .new).replay stranded).gateway.registry.answer? number =
          none) ∧
      ∃ sockets, (((Station.mk demonstration .new).replay curious).act
          ⟨0, .task .receive⟩).network =
        handing sockets ⟨.v4 .loopback, 50003⟩
          (some (.entityStatusResponse ⟨0x00, demonstration.config.maxSockets, 1,
            some demonstration.config.maxDataSize⟩))
          ((Station.mk demonstration .new).replay curious).network := by
  have possible : (Station.mk demonstration .new).Possible stranded := by decide +kernel
  have table : ((Station.mk demonstration .new).replay stranded).gateway.registry.table =
      [1, 2] := by decide +kernel
  have quiescent : ((Station.mk demonstration .new).replay stranded).gateway.enabled 0 = [] := by
    decide +kernel
  have closed : ((Station.mk demonstration .new).replay stranded).gateway.registry.pool.isOpen 2 =
      false := by decide +kernel
  have listed : 2 ∈ ((Station.mk demonstration .new).replay stranded).gateway.registry.table := by
    simp [table]
  have held := (keepsBooks demonstration_made possible).waiting 0 quiescent 2 listed closed
  refine ⟨table, held, ?_⟩
  have possible : (Station.mk demonstration .new).Possible curious := by decide +kernel
  have running : ((Station.mk demonstration .new).replay curious).gateway.running?.isSome =
      true := by decide +kernel
  have waits : ((Station.mk demonstration .new).replay curious).gateway.receipts =
      [.datagram ⟨.v4 .loopback, 50003⟩ Wire.Message.entityStatusRequest.encode] := by
    decide +kernel
  have asks : Wire.Message.ofDatagram
      (List.take maxDatagram Wire.Message.entityStatusRequest.encode) =
        .ok .entityStatusRequest := by decide +kernel
  have counted : ((Station.mk demonstration .new).openSockets curious).length = 1 := by
    decide +kernel
  have report : (Station.mk demonstration .new).socketReport curious = .entityStatusResponse
      ⟨0x00, demonstration.config.maxSockets, 1, some demonstration.config.maxDataSize⟩ := by
    rw [socketReport, counted]
    rfl
  obtain ⟨sockets, runs⟩ := Option.isSome_iff_exists.mp running
  have books := keepsBooks demonstration_made possible
  have reported := books.reported 0 sockets _ _ [] runs waits asks
  rw [report] at reported
  exact ⟨sockets, reported⟩

end Gateway

end DiagnosticGateway
