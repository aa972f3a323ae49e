import DiagnosticGateway.Proofs.Gateway.Exchanges
import DiagnosticGateway.Proofs.Gateway.Handling
import DiagnosticGateway.Proofs.Registry.Ageing

/-!
# Which bytes keep a tester registered

The reader of a connection restarts the inactivity timer when it takes a frame, and nobody else
does. Bytes that wait at the socket are not looked at until the frame to which they belong is there.
So a registered connection lasts as long as whole frames arrive in time, each before the general
time has passed since the last one or since the registration. Bytes that bring no frame to its end
do not count, however many they are.
-/

namespace DiagnosticGateway

/-- The reader of the connection finds the next frame at its socket, down to its last byte. -/
def Socket.offers (limit : UInt32) (connection : ConnectionId) (socket : Socket) : Bool :=
  socket.reader == .reading connection && (Wire.Frame.read? limit socket.incoming).isSome

/-- What a socket offers is a whole frame at the front of what has come in, to a reader that serves
this connection; the first bytes of a frame are not yet an offer. -/
theorem Socket.offers_iff {limit : UInt32} {connection : ConnectionId} {socket : Socket} :
    socket.offers limit connection = true ↔ socket.reader = .reading connection ∧
      ∃ frame, Wire.Frame.read? limit socket.incoming = some frame := by
  simp [offers, Option.isSome_iff_exists]

namespace Gateway

/-- Some reader finds the next frame of the connection. -/
def offers (connection : ConnectionId) (gateway : Gateway) : Bool :=
  gateway.sockets.any (Socket.offers gateway.config.maxDataSize connection)

/-- The reader of a socket finds the next frame of the connection. -/
def offersAt (id : SocketId) (connection : ConnectionId) (gateway : Gateway) : Bool :=
  (gateway.sockets[id]?).any (Socket.offers gateway.config.maxDataSize connection)

variable {gateway middle after : Gateway} {id : SocketId} {connection own : ConnectionId}
  {now : Milliseconds} {timings : Timings} {socket : Socket} {holding : Connection} {flow : Flow}
  {events : List Log.Event}

/-- At a socket that is there, the offer can be read off the socket. -/
theorem offersAt_of_found (found : gateway.sockets[id]? = some socket) :
    gateway.offersAt id connection = socket.offers gateway.config.maxDataSize connection := by
  simp [offersAt, found]

/-- The gateway has something for a connection when one of its sockets does. It is asked of the list
of sockets in one case, and of a place in the other. -/
theorem offers_iff :
    gateway.offers connection = true ↔ ∃ id, gateway.offersAt id connection = true := by
  constructor
  · intro offers
    obtain ⟨socket, member, here⟩ := List.any_eq_true.mp offers
    obtain ⟨id, found⟩ := List.getElem?_of_mem member
    exact ⟨id, (offersAt_of_found found).trans here⟩
  · rintro ⟨id, offers⟩
    obtain ⟨socket, found, here⟩ := (Option.any_eq_true _ _).mp offers
    exact List.any_eq_true.mpr ⟨socket, List.mem_of_getElem? found, here⟩

/-! ## What lets a connection age -/

/-- From one gateway to another one a connection has aged. -/
def Ages (now : Milliseconds) (timings : Timings) (connection : ConnectionId)
    (before after : Gateway) : Prop :=
  before.registry.Ages now timings connection after.registry

/-- What leaves the registry alone renews no timer and advances none. -/
theorem ages_of_same (registry : after.registry = gateway.registry) :
    gateway.Ages now timings connection after :=
  Registry.ages_of_same (congrArg Registry.pool registry)

/-- A connection that ages through two stretches ages through both. -/
theorem Ages.trans (first : gateway.Ages now timings connection middle)
    (second : middle.Ages now timings connection after) :
    gateway.Ages now timings connection after :=
  Registry.Ages.trans first second

/-- An occurrence of the registry other than data on the connection. -/
theorem ages_act (occurrence : Registry.Occurrence)
    (silent : occurrence.action ≠ .event (.dataReceived connection))
    (opens : ∀ other, occurrence.action = .event (.openConnection other) → other = timings) :
    gateway.Ages occurrence.moment timings connection
      { gateway with registry := gateway.registry.act occurrence } :=
  Registry.ages_act occurrence silent opens gateway.registry

/-- Sending is not hearing: a message that is queued for a tester does not renew its timer. -/
theorem ages_send (message : Wire.Message) :
    gateway.Ages now timings connection (gateway.send own message).value :=
  ages_act ⟨now, .event (.send own message)⟩ (by simp) (by simp)

/-- The end of a reader stops its connection, and a stopped connection has no timer to renew. -/
theorem ages_finishReading (peer : Net.Endpoint) :
    gateway.Ages now timings connection (gateway.finishReading id peer own).value := by
  have stops : gateway.Ages now timings connection _ :=
    ages_act ⟨now, .event (.stop own)⟩ (by simp) (by simp)
  exact stops.trans (ages_act ⟨now, .event (.remove own)⟩ (by simp) (by simp))

/-- Whether the reader goes on or comes to its end, no timer is renewed. -/
theorem ages_continueReading (peer : Net.Endpoint) (flow : Flow) :
    gateway.Ages now timings connection (gateway.continueReading id peer own flow).value := by
  cases flow with
  | close => exact ages_finishReading peer
  | _ => exact ages_of_same rfl

/-- An answer to an activation is sent, not heard. -/
theorem ages_answerActivation (source : UInt16) (code : Wire.ActivationCode) :
    gateway.Ages now timings connection (gateway.answerActivation own source code).value.1 := by
  rw [answerActivation_value]
  exact ages_send _

/-- Going on with an activation renews the timer only by registering the connection, which ageing
allows. -/
theorem ages_pursueActivation (request : RequestId) (source : UInt16) :
    gateway.Ages now timings connection
      (gateway.pursueActivation now own request source).value.1 := by
  have advances : gateway.Ages now timings connection _ :=
    ages_act ⟨now, .task (.request request)⟩ (by simp) (by simp)
  rw [pursueActivation_value]
  split
  · exact advances.trans (ages_answerActivation source _)
  · exact advances

/-- The dispatcher does not renew a timer; the reader has done so before it hands the message
over. -/
theorem ages_onMessage (message : Wire.Message) :
    gateway.Ages now timings connection (gateway.onMessage now own message).value.1 := by
  cases message with
  | routingActivationRequest body =>
    simp only [onMessage, onActivation]
    split
    · have asks : gateway.Ages now timings connection _ :=
        ages_act ⟨now, .event (.request own body.sourceAddress)⟩ (by simp) (by simp)
      exact asks.trans (ages_pursueActivation _ _)
    · exact ages_answerActivation _ _
  | aliveCheckResponse source =>
    exact ages_act ⟨now, .event (.aliveResponse own source)⟩ (by simp) (by simp)
  | diagnosticMessage body =>
    simp only [onMessage, onDiagnostic, Logged.value_bind]
    split
    · split
      · exact ages_send _
      · simp only [Logged.value_bind, forward_value]
        exact (ages_send _).trans (ages_of_same (registry_undergo _))
    · exact ages_send _
  | _ => exact ages_of_same rfl

/-- The gateway with data on a connection. -/
def hearing (now : Milliseconds) (connection : ConnectionId) (gateway : Gateway) : Gateway :=
  { gateway with registry := gateway.registry.dataReceived now connection }

/-- A frame is data on the connection that it comes from. What is done about it is none. -/
theorem ages_onFrame (content : Except Wire.Fault Wire.Message) :
    (gateway.hearing now own).Ages now timings connection
      (gateway.onFrame now own content).value.1 := by
  cases content with
  | ok message => exact ages_onMessage message
  | error fault => exact ages_send _

/-- A response that is routed to a tester is sent to it and renews nothing. -/
theorem ages_route : gateway.Ages now timings connection gateway.route.value := by
  unfold route
  split
  · rename_i response rest _
    have taken : gateway.Ages now timings connection { gateway with responses := rest } :=
      ages_of_same rfl
    refine taken.trans ?_
    unfold onResponse
    split
    · exact ages_of_same rfl
    · exact ages_send _
  · exact ages_of_same rfl

/-- The end of a serving task takes its connection out of the registry. -/
theorem ages_leave : gateway.Ages now timings connection (gateway.leave id).value := by
  unfold leave
  split
  · exact ages_of_same rfl
  · split
    · exact ages_finishReading _
    · exact ages_of_same rfl

/-- Stopping the gateway closes the connections, which end their timers. -/
theorem ages_halt : gateway.Ages now timings connection gateway.halt.value := by
  have stops : gateway.Ages now timings connection
      { gateway with registry := gateway.registry.stopAll.value } :=
    ages_act ⟨now, .event .stopAll⟩ (by simp) (by simp)
  exact stops.trans (ages_of_same (halt_value gateway).2.1)

/-- A socket that is served gets a connection with the timings of the configuration. -/
theorem ages_serve (socket : Socket) :
    gateway.Ages now gateway.config.timings connection (gateway.serve now id socket).value := by
  let number := gateway.registry.nextConnection
  have opens : gateway.Ages now gateway.config.timings connection _ :=
    ages_act ⟨now, .event (.openConnection gateway.config.timings)⟩ (by simp)
      fun _ same => by simpa using same.symm
  have adds := opens.trans (ages_act ⟨now, .event (.add number)⟩ (by simp) (by simp))
  rw [serve_value]
  exact adds.trans (ages_act ⟨now, .event (.start number)⟩ (by simp) (by simp))

/-- A writer may close its connection, but restarts no timer. It closes it when a write has failed,
and a connection that is closed has no timer to age. -/
theorem WritesAt.ages (writes : gateway.WritesAt id own holding socket events after)
    (held : gateway.registry.pool.get? own = some holding) :
    gateway.Ages now timings connection after := by
  by_cases here : connection = own
  · subst here
    refine ⟨fun {earlier} found => ?_, fun missing => ?_⟩
    · obtain rfl := Option.some.inj (held.symm.trans found)
      obtain ⟨next, later, step, foundNext, -⟩ := writes.step
      refine ⟨next, foundNext, ?_⟩
      cases step with
      | ends => exact Connection.ages_dropReceiver
      | writes => exact Connection.ages_of_same rfl rfl rfl
      | @fails message rest fault events queue logged =>
        have taken : Connection.Ages now { holding with outbound := rest } holding :=
          Connection.ages_of_same rfl rfl rfl
        exact Connection.ages_dropReceiver.trans (Connection.ages_stop.trans taken)
    · rw [held] at missing
      cases missing
  · have same := writes.connections connection here
    refine ⟨fun found => ⟨_, same.trans found, Connection.ages_self⟩, fun missing later found => ?_⟩
    rw [same, missing] at found
    cases found

/-! ## The steps of a reader -/

/-- What a reader does for its connection before it goes on is data on that connection if it takes a
frame, and lets every other connection age. -/
theorem Handles.ages (handles : Handles now id own gateway socket middle flow events)
    (found : gateway.sockets[id]? = some socket) :
    (if gateway.offersAt id connection then gateway.hearing now connection else gateway).Ages now
      timings connection middle := by
  rw [offersAt_of_found found]
  cases handles with
  | @frame frame _ reads inbound handled =>
    subst handled
    have front := front_of_inbound? inbound
    by_cases here : own = connection
    · subst here
      rw [if_pos (Socket.offers_iff.mpr ⟨reads, frame, front⟩)]
      have heard : ((gateway.taking id frame).hearing now own).Ages now timings own _ :=
        ages_onFrame frame.content
      exact heard
    · have unoffered : ¬ socket.offers gateway.config.maxDataSize connection = true := by
        simp [Socket.offers, reads, here]
      rw [if_neg unoffered]
      have data : (gateway.taking id frame).Ages now timings connection _ :=
        ages_act ⟨now, .event (.dataReceived own)⟩ (by simpa using here) (by simp)
      exact data.trans (ages_onFrame frame.content)
  | @decision number source _ waits handled =>
    subst handled
    rw [if_neg (by simp [Socket.offers, waits])]
    exact ages_pursueActivation number source
  | ended reads inbound =>
    have unfinished : Wire.Frame.read? gateway.config.maxDataSize socket.incoming = none := by
      unfold Socket.inbound? at inbound
      split at inbound
      · cases inbound
      · assumption
    rw [if_neg (by simp [Socket.offers, unfinished])]
    exact ages_of_same rfl

/-- A reader's step renews the timer of a connection only with a whole frame that has come in on it.
Any other step of a reader lets the connection age as it is. -/
theorem ages_read (able : gateway.Able now (.read id)) :
    (if gateway.offersAt id connection then gateway.hearing now connection else gateway).Ages now
      gateway.config.timings connection (gateway.read now id).value := by
  obtain ⟨socket, found, ready⟩ := able
  rcases handles_of_canRead ready with accepted | ⟨own, middle, flow, events, handles⟩
  · rw [offersAt_of_found found, if_neg (by simp [Socket.offers, accepted]),
      read_of_accepted now found accepted]
    exact ages_serve socket
  · rw [handles.read found]
    exact (handles.ages found).trans (ages_continueReading socket.peer flow)

end Gateway

namespace Station

open Gateway

/-- The reader of the connection takes its next frame in the scene. -/
def Scene.hears (connection : ConnectionId) (scene : Scene) : Bool :=
  match scene.occurrence.action with
  | .task (.read id) => scene.before.gateway.offersAt id connection
  | _ => false

/-- The connection becomes registered in the scene. -/
def Scene.registers (connection : ConnectionId) (scene : Scene) : Bool :=
  !scene.before.gateway.registry.pool.isRegistered connection &&
    scene.after.gateway.registry.pool.isRegistered connection

/-- The moment at which a frame of the connection was taken last, or at which the connection was
registered if that came later. -/
def lastRenewal (connection : ConnectionId) (history : History) (station : Station) :
    Option Milliseconds :=
  (station.scenes history).foldl
    (fun latest scene =>
      if scene.hears connection || scene.registers connection then some scene.occurrence.moment
      else latest)
    none

variable {station : Station} {history : History} {occurrence : Occurrence} {id : SocketId}
  {connection : ConnectionId} {moment : Milliseconds}

/-- The last renewal after one more occurrence is that occurrence, if it was heard or registered the
connection, and the earlier one otherwise. -/
theorem lastRenewal_concat (connection : ConnectionId) (history : History)
    (occurrence : Occurrence) (station : Station) :
    station.lastRenewal connection (history ++ [occurrence]) =
      if Scene.hears connection ⟨station.replay history, occurrence⟩ ||
          Scene.registers connection ⟨station.replay history, occurrence⟩ then
        some occurrence.moment
      else station.lastRenewal connection history := by
  rw [lastRenewal, scenes_concat, List.foldl_append]
  rfl

/-- Whatever happens at a station lets a connection age, once the frame that is taken from it has
been heard. -/
theorem ages_act (able : station.CanHappen occurrence) (connection : ConnectionId) :
    (if Scene.hears connection ⟨station, occurrence⟩ then
        station.gateway.hearing occurrence.moment connection else station.gateway).Ages
      occurrence.moment station.gateway.config.timings connection
      (station.act occurrence).gateway := by
  obtain ⟨moment, action⟩ := occurrence
  cases action with
  | event event =>
    show station.gateway.Ages _ _ _ _
    cases event with
    | stop =>
      show station.gateway.Ages _ _ _ station.stop.value.gateway
      rcases stop_cases station with same | halts
      · rw [same]
        exact Gateway.ages_of_same rfl
      · rw [halts]
        exact ages_halt
    | _ => exact Gateway.ages_of_same (registry_act rfl station)
  | task task =>
    cases task with
    | read id => exact ages_read (mem_enabled.mp able)
    | timer own => exact Gateway.ages_act ⟨moment, .task (.timer own)⟩ (by simp) (by simp)
    | leave id => exact ages_leave
    | write id =>
      obtain ⟨other, socket, own, holding, -, -, -, held, step⟩ := write_of_writes able rfl
      exact step.ages held
    | route => exact ages_route
    | _ => exact Gateway.ages_of_same (registry_act rfl station)

/-! ## When a registration runs out -/

/-- At every moment of a history the time of a registered connection runs from the moment at which a
frame of it was taken last, or at which it was registered. -/
theorem Possible.runsFrom (possible : station.Possible history)
    (unopened : station.gateway.registry.pool.get? connection = none) :
    ∀ holding, (station.replay history).gateway.registry.pool.get? connection = some holding →
      holding.RunsFrom station.gateway.config.timings (station.lastRenewal connection history) := by
  refine possible.byOccurrence ?_ ?_
  · intro holding found
    rw [replay_nil, unopened] at found
    cases found
  intro past occurrence possible able inductionHypothesis
  have ages := ages_act able connection
  rw [config_replay] at ages
  rw [replay_concat, lastRenewal_concat]
  cases hears : Scene.hears connection ⟨station.replay past, occurrence⟩ with
  | true =>
    rw [hears, if_pos rfl] at ages
    refine Registry.Ages.runsFrom ages (Registry.runsFrom_dataReceived fun earlier found =>
      (inductionHypothesis earlier found).timed) ?_ ?_ <;> simp
  | false =>
    rw [hears, if_neg Bool.false_ne_true] at ages
    refine Registry.Ages.runsFrom ages inductionHypothesis (fun before => ?_) fun before after => ?_
    · simp [Scene.registers, before]
    · have registers :
          Scene.registers connection ⟨station.replay past, occurrence⟩ = true := by
        simp [Scene.registers, Scene.after, before, after]
      simp [registers]

/-- A timer expires on a registered connection only when the general time has passed since a frame
of it was taken last, or since it was registered. -/
theorem Possible.silence
    (possible : station.Possible (history ++ [⟨moment, .task (.timer connection)⟩]))
    (unvisited : station.gateway.Unvisited)
    (unopened : station.gateway.registry.pool.get? connection = none)
    (registered : (station.replay history).gateway.registry.pool.isRegistered connection = true) :
    ∃ latest, station.lastRenewal connection history = some latest ∧
      latest + station.gateway.config.timings.general ≤ moment := by
  obtain ⟨front, able⟩ := possible_concat.mp possible
  have served := front.served unvisited.served
  obtain ⟨holding, timer, found, running, due⟩ :=
    Pool.due_of_expired served.numbered.distinct (mem_enabled.mp able)
  obtain ⟨same, foundSame, active⟩ := Pool.isRegistered_iff.mp registered
  obtain rfl := Option.some.inj (found.symm.trans foundSame)
  obtain ⟨latest, renewed, deadline⟩ := (front.runsFrom unopened holding found).runs active
  rw [Connection.deadline?, running] at deadline
  exact ⟨latest, renewed, Option.some.inj deadline ▸ due⟩

/-! ## Frames that wait for their reader -/

/-- A frame that is there waits until its reader takes it, as long as the connection is open. Only
its own reader takes it, and that reader would have heard it. -/
theorem offers_act {owner : SocketId → Option ConnectionId}
    (assigned : station.gateway.Assigned owner) (able : station.CanHappen occurrence)
    (opened : station.gateway.registry.pool.isOpen connection = true)
    (offers : station.gateway.offers connection = true)
    (unheard : Scene.hears connection ⟨station, occurrence⟩ = false) :
    (station.act occurrence).gateway.offers connection = true := by
  obtain ⟨id, here⟩ := offers_iff.mp offers
  obtain ⟨socket, found, offered⟩ := (Option.any_eq_true _ _).mp here
  obtain ⟨reads, frame, front⟩ := Socket.offers_iff.mp offered
  have apart : occurrence.action ≠ .task (.read id) := by
    intro action
    simp [Scene.hears, action, here] at unheard
  obtain ⟨later, foundLater, becomes⟩ := becomes_act found occurrence
  have untaken : Scene.turn? id ⟨station, occurrence⟩ = none := Scene.turn?_of_apart apart
  have incoming : later.incoming =
      socket.incoming ++ station.gateway.arriving id occurrence.action := by
    simpa [Gateway.unread, found, foundLater, untaken] using unread_act id occurrence station
  have config := (intake_act occurrence station).config
  refine offers_iff.mpr ⟨id, (offersAt_of_found foundLater).trans (Socket.offers_iff.mpr ⟨?_, ?_⟩)⟩
  · generalize action : occurrence.action = action at becomes
    cases becomes with
    | rests reader => exact reader.trans reads
    | admitted first =>
      rw [assigned.waits_first found first] at reads
      cases reads
    | refused first =>
      rw [assigned.waits_first found first] at reads
      cases reads
    | abandoned waiting =>
      rw [waiting] at reads
      cases reads
    | served => exact absurd action apart
    | read => exact absurd action apart
    | left =>
      -- A reader leaves only a connection that is closed.
      obtain ⟨moment, _⟩ := occurrence
      subst action
      obtain ⟨same, foundSame, leaves⟩ := mem_enabled.mp able
      obtain rfl := Option.some.inj (foundSame.symm.trans found)
      simp [canLeave, reads, opened] at leaves
    | wrote => exact reads
    | silenced => exact reads
  · rw [incoming, config]
    exact ⟨_, Wire.Frame.read?_append front _⟩

/-! ## Frames that arrive in time -/

/-- Time does not go back, and it goes on only when no frame of the connection waits for its reader
any more. -/
def Prompt (connection : ConnectionId) (history : History) (station : Station) : Prop :=
  Throughout history fun past next =>
    (∀ earlier ∈ past, earlier.moment ≤ next.moment) ∧
      ((station.replay past).gateway.offers connection = true →
        ∃ earlier ∈ past, next.moment = earlier.moment)

/-- As long as the connection is registered, less than the span has passed at any time since its
registration or a scene that counts. -/
def Fed (counts : Scene → Bool) (connection : ConnectionId) (span : Milliseconds)
    (history : History) (station : Station) : Prop :=
  Throughout history fun past next =>
    (station.replay past).gateway.registry.pool.isRegistered connection = true →
      ∃ scene ∈ station.scenes past,
        (counts scene || scene.registers connection) = true ∧
          next.moment < scene.occurrence.moment + span

/-- Bytes arrive in the scene for the reader of the connection. -/
def Scene.receives (connection : ConnectionId) (scene : Scene) : Bool :=
  match scene.occurrence.action with
  | .event (.deliver id bytes) =>
    !bytes.isEmpty && (scene.before.gateway.sockets[id]?).any fun socket =>
      socket.reader == .reading connection
  | _ => false

/-- Bytes arrive in the scene, and then the next frame of the connection is there. -/
def Scene.completes (connection : ConnectionId) (scene : Scene) : Bool :=
  match scene.occurrence.action with
  | .event (.deliver id _) => scene.after.gateway.offersAt id connection
  | _ => false

/-- Every frame of the connection that came in time has renewed its registration in time, or it
waits for the reader, and no time has passed since. -/
def Renewed (connection : ConnectionId) (span : Milliseconds) (history : History)
    (station : Station) : Prop :=
  (station.replay history).gateway.registry.pool.isRegistered connection = true →
    ∃ latest, station.lastRenewal connection history = some latest ∧
      ∀ scene ∈ station.scenes history,
        (scene.completes connection || scene.registers connection) = true →
          scene.occurrence.moment ≤ latest ∨
            (station.replay history).gateway.offers connection = true ∧
              (∀ other ∈ history, other.moment ≤ scene.occurrence.moment) ∧
                scene.occurrence.moment < latest + span

variable {span : Milliseconds}

/-- So the connection is still within its time at whatever happens next. -/
theorem Renewed.lt {latest : Milliseconds} (renewed : station.Renewed connection span history)
    (prompt : station.Prompt connection (history ++ [occurrence]))
    (fed : station.Fed (Scene.completes connection) connection span (history ++ [occurrence]))
    (registered : (station.replay history).gateway.registry.pool.isRegistered connection = true)
    (since : station.lastRenewal connection history = some latest) :
    occurrence.moment < latest + span := by
  obtain ⟨same, sinceSame, heard⟩ := renewed registered
  obtain rfl := Option.some.inj (since.symm.trans sinceSame)
  obtain ⟨scene, member, counts, within⟩ := fed.last registered
  rcases heard scene member counts with earlier | ⟨offers, final, inTime⟩
  · exact Nat.lt_of_lt_of_le within (Nat.add_le_add_right earlier span)
  · obtain ⟨last, among, now⟩ := prompt.last.2 offers
    exact Nat.lt_of_le_of_lt (now ▸ final last among) inTime

/-- Whatever happens next, every frame has still renewed the registration, or waits for the reader.
Its cases are those of the occurrence: a frame is completed, it is taken, or time has passed; in the
last case the bound on the span keeps the deadline away. -/
theorem Renewed.concat (renewed : station.Renewed connection span history)
    (unvisited : station.gateway.Unvisited)
    (able : (station.replay history).CanHappen occurrence)
    (prompt : station.Prompt connection (history ++ [occurrence]))
    (fed : station.Fed (Scene.completes connection) connection span (history ++ [occurrence])) :
    station.Renewed connection span (history ++ [occurrence]) := by
  intro after
  obtain ⟨chronological, waits⟩ := prompt.last
  let scene : Scene := ⟨station.replay history, occurrence⟩
  have moments : ∀ earlier ∈ station.scenes (history ++ [occurrence]),
      earlier.occurrence.moment ≤ occurrence.moment := by
    intro earlier member
    obtain ⟨past, future, split, -⟩ := mem_scenes_iff.mp member
    have among : earlier.occurrence ∈ history ++ [occurrence] := by simp [split]
    rcases List.mem_append.mp among with before | last
    · exact chronological _ before
    · rw [List.mem_singleton.mp last]
  rw [replay_concat] at after
  by_cases renews : (scene.hears connection || scene.registers connection) = true
  · refine ⟨occurrence.moment, by rw [lastRenewal_concat, if_pos renews], ?_⟩
    exact fun earlier member _ => Or.inl (moments earlier member)
  obtain ⟨unheard, unregistering⟩ : scene.hears connection = false ∧
      scene.registers connection = false := by simpa using renews
  have before : (station.replay history).gateway.registry.pool.isRegistered connection = true := by
    by_contra unregistered
    simp [Scene.registers, scene, Scene.after, after, unregistered] at unregistering
  obtain ⟨latest, since, heard⟩ := renewed before
  have stays : (station.replay history).gateway.offers connection = true →
      ((station.replay history).act occurrence).gateway.offers connection = true := by
    obtain ⟨holding, found, active⟩ := Pool.isRegistered_iff.mp before
    have opened := Pool.isOpen_iff.mpr ⟨holding, found, by simp [active]⟩
    exact fun offers => offers_act (assigned_replay unvisited history) able opened offers unheard
  refine ⟨latest, by rw [lastRenewal_concat, if_neg renews, since], fun earlier member counts => ?_⟩
  rw [replay_concat]
  rw [scenes_concat] at member
  rcases List.mem_append.mp member with front | last
  · rcases heard earlier front counts with renewed | ⟨offers, final, inTime⟩
    · exact Or.inl renewed
    · refine Or.inr ⟨stays offers, fun other among => ?_, inTime⟩
      rcases List.mem_append.mp among with old | new
      · exact final other old
      · -- Nothing happens at a new moment while a frame waits.
        obtain ⟨reference, inPast, now⟩ := waits offers
        rw [List.mem_singleton.mp new, now]
        exact final reference inPast
  · obtain rfl : earlier = scene := List.mem_singleton.mp last
    have completes : scene.completes connection = true := by simpa [unregistering] using counts
    refine Or.inr ⟨?_, fun other among => ?_, renewed.lt prompt fed before since⟩
    · unfold Scene.completes at completes
      split at completes
      · exact offers_iff.mpr ⟨_, completes⟩
      · cases completes
    · rcases List.mem_append.mp among with old | new
      · exact chronological other old
      · rw [List.mem_singleton.mp new]

/-- As long as frames are completed in time, they renew the registration in time. -/
theorem Possible.renewed (possible : station.Possible history)
    (unvisited : station.gateway.Unvisited)
    (unopened : station.gateway.registry.pool.get? connection = none)
    (prompt : station.Prompt connection history)
    (fed : station.Fed (Scene.completes connection) connection span history) :
    station.Renewed connection span history := by
  revert prompt fed
  refine possible.byOccurrence ?_ ?_
  · intro _ _ registered
    simp [Pool.isRegistered, unopened] at registered
  · intro past occurrence front able inductionHypothesis prompt fed
    exact (inductionHypothesis prompt.front fed.front).concat unvisited able prompt fed

end Station

namespace Gateway

open Station

/-- Whole frames keep a tester registered. A timer expires on a registered connection only when the
general time has passed since its reader took a frame last, or since it was registered. So if bytes
with which a frame is complete arrive at gaps shorter than that, counted from the registration, and
the reader keeps up with them, the timer never closes the connection. Bytes that complete no frame
do not count. -/
theorem whole_frames_keep_alive {library : Pattern.Library} {config : GatewayConfig}
    {ecus : List Ecu} {gateway : Gateway} (made : withEcus library config ecus = .ok gateway)
    {network : Net.Network} {history : History}
    (possible : (Station.mk gateway network).Possible history) (connection : ConnectionId) :
    Throughout history (fun past next =>
      ((Station.mk gateway network).replay past).gateway.registry.pool.isRegistered connection =
          true → next.action = .task (.timer connection) →
        ∃ latest, (Station.mk gateway network).lastRenewal connection past = some latest ∧
          latest + config.generalInactivityTime ≤ next.moment) ∧
      ((Station.mk gateway network).Prompt connection history →
        (Station.mk gateway network).Fed (Scene.completes connection) connection
          config.generalInactivityTime history →
        Throughout history fun past next =>
          ((Station.mk gateway network).replay past).gateway.registry.pool.isRegistered connection =
            true → next.action ≠ .task (.timer connection)) := by
  have fresh := eq_of_withEcus made
  have unvisited : (Station.mk gateway network).gateway.Unvisited := unvisited_withEcus made
  have unopened : (Station.mk gateway network).gateway.registry.pool.get? connection = none := by
    rw [fresh]
    rfl
  have general : gateway.config.timings.general = config.generalInactivityTime := by
    rw [fresh]
    rfl
  have silence : Throughout history fun past next =>
      ((Station.mk gateway network).replay past).gateway.registry.pool.isRegistered connection =
          true → next.action = .task (.timer connection) →
        ∃ latest, (Station.mk gateway network).lastRenewal connection past = some latest ∧
          latest + config.generalInactivityTime ≤ next.moment := by
    rintro past ⟨moment, _⟩ future rfl registered rfl
    rw [← general]
    refine Possible.silence ?_ unvisited unopened registered
    rw [List.append_cons] at possible
    exact possible.append.1
  refine ⟨silence, fun prompt fed => ?_⟩
  intro past next future split registered expires
  obtain ⟨latest, since, due⟩ := silence past next future split registered expires
  rw [List.append_cons] at split
  subst split
  have front := (possible_append.mp possible.append.1).1
  have renewed := front.renewed unvisited unopened prompt.front.front fed.front.front
  exact absurd due (Nat.not_le_of_lt (renewed.lt prompt.front fed.front registered since))

/-- The first frame that the tester sends once it is registered. -/
def testerPresent : Bytes :=
  (Wire.Message.diagnostic 0x0E00 0x0001 [0x3E, 0x00]).encode

/-- A registered tester sends a frame in two pieces and another one as a whole, the second when the
time since its registration is long over. -/
def pulse : History :=
  exchange.take 6 ++
    [⟨200000, .event (.deliver 0 (testerPresent.take 5))⟩,
      ⟨250000, .event (.deliver 0 (testerPresent.drop 5))⟩,
      ⟨250000, .task (.read 0)⟩,
      ⟨500000, .event (.deliver 0 testerPresent)⟩,
      ⟨500000, .task (.read 0)⟩,
      ⟨750000, .task (.write 0)⟩]

/-- It is still registered in the end. A frame arrives in two pieces, and each follows the one
before within the general time. -/
theorem whole_frames_keep_alive_pulse :
    (Station.mk demonstration .new).Possible pulse ∧
      (Station.mk demonstration .new).Prompt 1 pulse ∧
      (Station.mk demonstration .new).Fed (Scene.completes 1) 1 300000 pulse ∧
      ((Station.mk demonstration .new).replay pulse).gateway.registry.pool.isRegistered 1 = true ∧
      Throughout pulse fun past next =>
        ((Station.mk demonstration .new).replay past).gateway.registry.pool.isRegistered 1 = true →
          next.action ≠ .task (.timer 1) := by
  have possible : (Station.mk demonstration .new).Possible pulse := by decide +kernel
  have prompt : (Station.mk demonstration .new).Prompt 1 pulse := by
    unfold Station.Prompt
    decide +kernel
  have fed : (Station.mk demonstration .new).Fed (Scene.completes 1) 1 300000 pulse := by
    unfold Station.Fed
    decide +kernel
  exact ⟨possible, prompt, fed, by decide +kernel,
    (whole_frames_keep_alive demonstration_made possible 1).2 prompt fed⟩

/-- A registered tester sends a frame piece by piece, and the last piece is missing when the time
since its registration is over. -/
def dribble : History :=
  exchange.take 6 ++
    [⟨200000, .event (.deliver 0 (testerPresent.take 5))⟩,
      ⟨299999, .event (.deliver 0 ((testerPresent.drop 5).take 5))⟩,
      ⟨300000, .task (.timer 1)⟩]

/-- The timer closes the connection although the last bytes have arrived one moment before. -/
theorem closed_amid_bytes :
    withEcus Pattern.Plain.library demonstration.config [holdingEcu] = .ok demonstration ∧
      demonstration.config.generalInactivityTime = 300000 ∧
      (Station.mk demonstration .new).Possible dribble ∧
      (Station.mk demonstration .new).Prompt 1 dribble ∧
      (Station.mk demonstration .new).Fed (Scene.receives 1) 1 300000 dribble ∧
      (∃ past, dribble = past ++ [⟨300000, .task (.timer 1)⟩] ∧
        ((Station.mk demonstration .new).replay past).gateway.registry.pool.isRegistered 1 =
          true) ∧
      ((Station.mk demonstration .new).replay dribble).gateway.registry.pool.isOpen 1 = false := by
  refine ⟨demonstration_made, rfl, by decide +kernel, ?_, ?_, ⟨dribble.take 8, rfl, by decide +kernel⟩,
    by decide +kernel⟩
  · unfold Station.Prompt
    decide +kernel
  · unfold Station.Fed
    decide +kernel

end Gateway

end DiagnosticGateway
