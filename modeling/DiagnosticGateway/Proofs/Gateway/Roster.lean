import DiagnosticGateway.Proofs.Gateway.Stopping

/-!
# Who is in the table

A connection comes into the table when its socket is served, and it is taken out of it by the reader
of its socket as its last step. The stop empties the table, and nothing else changes it: not the
frames that are handled, nor the arbitration, the timers, the writers or the responses of ECUs. So
every connection in the table is that of a socket whose reader has not finished.
-/

namespace DiagnosticGateway

namespace Registry

variable {registry : Registry} {occurrence : Occurrence}

/-- The table is changed by an addition, a removal and the final stop only. The stop of the registry
empties it; steps of requests find the table as it is and leave it so. -/
theorem table_act (unadded : ∀ id, occurrence.action ≠ .event (.add id))
    (unremoved : ∀ id, occurrence.action ≠ .event (.remove id))
    (runs : occurrence.action ≠ .event .stopAll) (registry : Registry) :
    (registry.act occurrence).table = registry.table := by
  rcases act_cases registry occurrence with outside | ⟨id, -, ⟨-, same⟩ | ⟨request, -, move⟩⟩
  · obtain ⟨moment, action⟩ := occurrence
    cases action with
    | event event =>
      cases event with
      | add id => exact absurd rfl (unadded id)
      | remove id => exact absurd rfl (unremoved id)
      | stopAll => exact absurd rfl runs
      | _ => rfl
    | task task =>
      cases task with
      | timer connection => rfl
      | request id => exact outside.elim
  · rw [same]
  · exact move.frame.1

/-- A step of a request puts nobody into the table and takes nobody out. -/
theorem table_advance (now : Milliseconds) (number : RequestId) (registry : Registry) :
    (registry.act ⟨now, .task (.request number)⟩).table = registry.table :=
  table_act (by simp) (by simp) (by simp) registry

end Registry

namespace Gateway

variable {gateway middle : Gateway} {id : SocketId} {connection other : ConnectionId}
  {now : Milliseconds} {socket : Socket} {flow : Flow} {events : List Log.Event}

/-! ## What leaves the table alone -/

/-- The ECUs have no part in the table. -/
theorem table_undergo (events : List (Nat × Ecu.Event)) :
    (gateway.undergo events).registry.table = gateway.registry.table :=
  congrArg Registry.table (registry_undergo events)

/-- An answer that is queued leaves the table as it is. -/
theorem table_answerActivation (source : UInt16) (code : Wire.ActivationCode) :
    (gateway.answerActivation connection source code).value.1.registry.table =
      gateway.registry.table := by
  rw [answerActivation_value]
  rfl

/-- Going on with an activation leaves the table as it is; a tester whose place is taken leaves by
its own task. -/
theorem table_pursueActivation (request : RequestId) (source : UInt16) :
    (gateway.pursueActivation now connection request source).value.1.registry.table =
      gateway.registry.table := by
  have advances := Registry.table_advance now request gateway.registry
  rw [pursueActivation_value]
  split
  · exact (table_answerActivation source _).trans advances
  · exact advances

/-- No message changes the table. A tester gets into the table when its socket is served, and out of
it when its reader ends, whatever it says in between. -/
theorem table_onMessage (message : Wire.Message) :
    (gateway.onMessage now connection message).value.1.registry.table = gateway.registry.table := by
  cases message with
  | routingActivationRequest body =>
    simp only [onMessage, onActivation]
    split
    · exact table_pursueActivation _ _
    · exact table_answerActivation _ _
  | diagnosticMessage body =>
    simp only [onMessage, onDiagnostic, Logged.value_bind]
    split
    · split
      · rfl
      · simp only [Logged.value_bind, forward_value]
        exact table_undergo _
    · rfl
  | _ => rfl

/-- No frame changes the table, whether it can be decoded or not. -/
theorem table_onFrame (content : Except Wire.Fault Wire.Message) :
    (gateway.onFrame now connection content).value.1.registry.table = gateway.registry.table := by
  cases content with
  | ok message => exact table_onMessage message
  | error fault => rfl

/-- Whatever a reader does for its connection before it goes on leaves the table alone. A connection
leaves it only when its reader goes on to finish. -/
theorem Handles.table (handles : Handles now id connection gateway socket middle flow events) :
    middle.registry.table = gateway.registry.table := by
  cases handles with
  | @frame frame _ reads inbound handled =>
    subst handled
    exact table_onFrame frame.content
  | @decision number source _ waits handled =>
    subst handled
    exact table_pursueActivation number source
  | ended => rfl

/-- A writer, even one that fails, leaves the removal to the serving task. It stops the connection,
which stays in the table as a closed one. -/
theorem table_write (id : SocketId) :
    (gateway.write id).value.registry.table = gateway.registry.table := by
  unfold write writeMessage
  split
  · rfl
  · split
    · split
      · rfl
      · rfl
      · split <;> rfl
    · rfl

/-- Routing a response leaves the table as it is. -/
theorem table_route : gateway.route.value.registry.table = gateway.registry.table := by
  unfold route onResponse
  split
  · split <;> rfl
  · rfl

/-! ## Who comes and goes -/

/-- A reader that finishes takes its connection out of the table. The stop before that changes
no entry. -/
theorem mem_table_finishReading (peer : Net.Endpoint) :
    other ∈ (gateway.finishReading id peer connection).value.registry.table ↔
      other ∈ gateway.registry.table ∧ other ≠ connection := by
  let stopped := gateway.registry.act ⟨0, .event (.stop connection)⟩
  have same : stopped.table = gateway.registry.table :=
    Registry.table_act (by simp) (by simp) (by simp) gateway.registry
  have outside : Registry.Action.IsOutside (.event (.remove connection)) := trivial
  have removed : other ∈ (stopped.act ⟨0, .event (.remove connection)⟩).table ↔ _ :=
    Registry.mem_table_outside outside
  rw [same] at removed
  refine removed.trans ?_
  simp [eq_comm (a := connection)]

/-- Whoever is in the table after a socket was served was there before, or is its connection. The
connection is opened, added and started in one stretch, and only the addition is about the table. -/
theorem mem_table_serve (socket : Socket)
    (listed : other ∈ (gateway.serve now id socket).value.registry.table) :
    other ∈ gateway.registry.table ∨ other = gateway.registry.nextConnection := by
  let number := gateway.registry.nextConnection
  let opened := gateway.registry.act ⟨now, .event (.openConnection gateway.config.timings)⟩
  let added := opened.act ⟨now, .event (.add number)⟩
  have same : opened.table = gateway.registry.table :=
    Registry.table_act (by simp) (by simp) (by simp) gateway.registry
  have started : (added.act ⟨now, .event (.start number)⟩).table = added.table :=
    Registry.table_act (by simp) (by simp) (by simp) added
  have outside : Registry.Action.IsOutside (.event (.add number)) := trivial
  rw [serve_value] at listed
  have listed : other ∈ (added.act ⟨now, .event (.start number)⟩).table := listed
  rw [started, Registry.mem_table_outside outside, same] at listed
  rcases listed with adds | ⟨old, -⟩
  · exact Or.inr (by simpa [eq_comm] using adds)
  · exact Or.inl old

/-- Whoever is in the table after a reader has gone on was there before, and is not its connection
if that was given up. -/
theorem mem_table_continueReading (peer : Net.Endpoint)
    (listed : other ∈ (gateway.continueReading id peer connection flow).value.registry.table) :
    other ∈ gateway.registry.table ∧ (flow = .close → other ≠ connection) := by
  cases flow with
  | close =>
    obtain ⟨old, apart⟩ := (mem_table_finishReading peer).mp listed
    exact ⟨old, fun _ => apart⟩
  | proceed => exact ⟨listed, nofun⟩
  | wait => exact ⟨listed, nofun⟩

/-- Whoever is in the table after a reader has gone on was there before, or its socket has just been
served. -/
theorem mem_table_read (found : gateway.sockets[id]? = some socket)
    (ready : gateway.canRead now socket = true)
    (listed : connection ∈ (gateway.read now id).value.registry.table) :
    connection ∈ gateway.registry.table ∨
      (gateway.serves? (.task (.read id))).isSome = true ∧
        connection = gateway.registry.nextConnection := by
  rcases handles_of_canRead ready with accepted | ⟨own, middle, flow, events, handles⟩
  · have serves := serves?_eq_some_iff.mpr ⟨rfl, socket, found, accepted⟩
    rw [read_of_accepted now found accepted] at listed
    refine (mem_table_serve socket listed).imp_right fun next => ⟨?_, next⟩
    rw [serves]
    rfl
  · rw [handles.read found] at listed
    have kept := (mem_table_continueReading socket.peer listed).1
    exact Or.inl (handles.table ▸ kept)

/-- Nobody comes into the table when a reader leaves. -/
theorem mem_table_leave (listed : connection ∈ (gateway.leave id).value.registry.table) :
    connection ∈ gateway.registry.table := by
  unfold leave at listed
  split at listed
  · exact listed
  · split at listed
    · exact ((mem_table_finishReading _).mp listed).1
    · exact listed

/-- The stop empties the table. -/
theorem table_halt (gateway : Gateway) : gateway.halt.value.registry.table = [] := by
  rw [(halt_value gateway).2.1]
  rfl

end Gateway

namespace Station

open Gateway

variable {station : Station} {occurrence : Occurrence} {history : History} {id : SocketId}
  {connection : ConnectionId} {socket later : Socket} {owner : SocketId → Option ConnectionId}

/-- Only readers and the stop change the table. A writer that fails gives up its own half only, and
a timer closes without removing. -/
theorem table_act_apart (unread : ∀ id, occurrence.action ≠ .task (.read id))
    (unleft : ∀ id, occurrence.action ≠ .task (.leave id))
    (unstopped : occurrence.action ≠ .event .stop) (station : Station) :
    (station.act occurrence).gateway.registry.table = station.gateway.registry.table := by
  obtain ⟨moment, action⟩ := occurrence
  cases action with
  | event event =>
    cases event with
    | stop => exact absurd rfl unstopped
    | _ => exact congrArg Registry.table (registry_act rfl station)
  | task task =>
    cases task with
    | timer connection => rfl
    | read id => exact absurd rfl (unread id)
    | leave id => exact absurd rfl (unleft id)
    | write id => exact table_write id
    | route => exact table_route
    | _ => exact congrArg Registry.table (registry_act rfl station)

/-- Whoever is in the table was there before, or its socket has just been served. Readers that
finish and readers that leave take out, and the stop does so for all. -/
theorem mem_table_act (able : station.CanHappen occurrence)
    (listed : connection ∈ (station.act occurrence).gateway.registry.table) :
    connection ∈ station.gateway.registry.table ∨
      (station.gateway.serves? occurrence.action).isSome = true ∧
        connection = station.gateway.registry.nextConnection := by
  by_cases reads : ∃ id, occurrence.action = .task (.read id)
  · obtain ⟨id, action⟩ := reads
    obtain ⟨moment, _⟩ := occurrence
    subst action
    obtain ⟨socket, found, ready⟩ := mem_enabled.mp able
    exact mem_table_read found ready listed
  by_cases leaves : ∃ id, occurrence.action = .task (.leave id)
  · obtain ⟨id, action⟩ := leaves
    obtain ⟨moment, _⟩ := occurrence
    subst action
    exact Or.inl (mem_table_leave listed)
  by_cases stops : occurrence.action = .event .stop
  · obtain ⟨moment, _⟩ := occurrence
    subst stops
    have listed : connection ∈ station.stop.value.gateway.registry.table := listed
    rcases stop_cases station with same | halts
    · exact Or.inl (same ▸ listed)
    · rw [halts, table_halt] at listed
      cases listed
  · rw [table_act_apart (fun id same => reads ⟨id, same⟩) (fun id same => leaves ⟨id, same⟩) stops]
      at listed
    exact Or.inl listed

/-- When the reader of a connection finishes, the connection is taken out of the table. The
connection is stopped and removed in the same stretch in which the reader comes to its end, so there
is no moment in between. -/
theorem notMem_table_of_finishes (assigned : station.gateway.Assigned owner)
    (able : station.CanHappen occurrence) (found : station.gateway.sockets[id]? = some socket)
    (serves : socket.reader.Serves connection)
    (foundLater : (station.act occurrence).gateway.sockets[id]? = some later)
    (finished : later.reader = .finished) :
    connection ∉ (station.act occurrence).gateway.registry.table := by
  have busy : ∀ {reader : Reader}, socket.reader = reader → reader.Serves connection :=
    fun same => same ▸ serves
  intro listed
  obtain ⟨same, foundSame, becomes⟩ := becomes_act found occurrence
  obtain rfl := Option.some.inj (foundSame.symm.trans foundLater)
  obtain ⟨moment, action⟩ := occurrence
  cases becomes with
  | rests reader => exact busy (reader.symm.trans finished)
  | admitted first => exact busy (assigned.waits_first found first)
  | refused first => exact busy (assigned.waits_first found first)
  | abandoned waiting => exact busy waiting
  | served accepted => exact busy accepted
  | wrote => exact busy finished
  | silenced => exact busy finished
  | @left own reads =>
    obtain rfl : own = connection := busy reads
    have listed : own ∈ (station.gateway.leave id).value.registry.table := listed
    simp only [leave, found, reads] at listed
    exact ((mem_table_finishReading socket.peer).mp listed).2 rfl
  | read =>
    obtain ⟨same, foundOwn, ready⟩ := mem_enabled.mp able
    obtain rfl := Option.some.inj (foundOwn.symm.trans found)
    have listed : connection ∈ (station.gateway.read moment id).value.registry.table := listed
    rcases handles_of_canRead ready with accepted | ⟨own, middle, flow, events, handles⟩
    · exact busy accepted
    · have goesOn := handles.reader found foundLater
      rw [handles.read found] at listed
      have apart := (mem_table_continueReading same.peer listed).2
      rw [finished] at goesOn
      cases flow with
      | close => exact apart rfl (serves.eq handles.serves)
      | proceed => cases goesOn
      | wait => cases goesOn

/-- Every connection in the table is that of a socket, and none is that of a socket whose reader has
finished. -/
structure Enrolled (owner : SocketId → Option ConnectionId) (gateway : Gateway) : Prop where
  owned : ∀ connection ∈ gateway.registry.table, ∃ id, owner id = some connection
  gone : ∀ id socket connection, owner id = some connection → gateway.sockets[id]? = some socket →
    socket.reader = .finished → connection ∉ gateway.registry.table

/-- The table is kept like that at all times. The induction is on the history. A connection
gets into the table in the step in which its socket gets it, and leaves in the step that ends
the reader. -/
theorem Possible.enrolled (possible : station.Possible history)
    (unvisited : station.gateway.Unvisited) (empty : station.gateway.registry.table = []) :
    Enrolled (fun id => station.connectionOf id history) (station.replay history).gateway := by
  refine possible.byOccurrence ?_ ?_
  · refine ⟨fun connection listed => ?_, fun id socket connection owns => ?_⟩
    · rw [replay_nil, empty] at listed
      cases listed
    · cases owns
  intro past occurrence front able enrolled
  have assigned := assigned_replay unvisited past
  rw [replay_concat]
  refine ⟨fun connection listed => ?_, fun id later connection owns foundLater finished listed => ?_⟩
  · simp only [connectionOf_concat]
    rcases mem_table_act able listed with old | ⟨serves, rfl⟩
    · obtain ⟨id, owns⟩ := enrolled.owned connection old
      exact ⟨id, by rw [owns]; rfl⟩
    · obtain ⟨id, serves⟩ := Option.isSome_iff_exists.mp serves
      exact ⟨id, (connectionOf_concat ..).symm.trans (connectionOf_of_serves unvisited serves)⟩
  · rw [connectionOf_concat] at owns
    rcases Option.or_eq_some_iff.mp owns with old | ⟨-, gets⟩
    · obtain ⟨socket, found, served⟩ := assigned.served old
      rcases served.reader with serves | ended
      · exact notMem_table_of_finishes assigned able found serves foundLater finished listed
      · -- Its reader had finished before, so the connection can only have come back.
        have unlisted := enrolled.gone id socket connection old found ended
        rcases mem_table_act able listed with still | ⟨-, rfl⟩
        · exact unlisted still
        · exact Nat.lt_irrefl _ (assigned.below old)
    · obtain ⟨rfl, action, socket, found, accepted, serves, -⟩ := serve_of_gets gets
      rw [serves, getElem?_serve found] at foundLater
      obtain rfl := Option.some.inj foundLater
      cases finished

end Station

end DiagnosticGateway
