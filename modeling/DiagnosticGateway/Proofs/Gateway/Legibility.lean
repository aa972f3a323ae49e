import DiagnosticGateway.Proofs.Ecu.Plain
import DiagnosticGateway.Proofs.Gateway.Provenance
import DiagnosticGateway.Proofs.Gateway.Senders
import DiagnosticGateway.Proofs.Registry.Codes

/-!
# What is queued is legible

A message that is queued on a connection answers a frame, or asks for a sign of life, or is the
response of an ECU. The codes of the answers have names, and as long as no ECU gets a hook the
responses can be carried by diagnostic messages. So every message in a queue will be read as what it
is.
-/

namespace DiagnosticGateway

open Log
open Wire (Carriable)

/-- The messages that are queued are legible. -/
def Log.Legible (events : List Log.Event) : Prop :=
  ∀ post ∈ posts events, post.2.Legible

namespace Log

variable {connection : ConnectionId} {earlier later events : List Log.Event}

/-- Where nothing is queued, everything that is queued is legible. -/
theorem legible_of_silent (silent : posts events = []) : Log.Legible events := by
  intro post member
  rw [silent] at member
  cases member

/-- Two stretches whose messages are legible make one. -/
theorem Legible.append (first : Log.Legible earlier) (second : Log.Legible later) :
    Log.Legible (earlier ++ later) := by
  intro post member
  rw [posts_append] at member
  exact (List.mem_append.mp member).elim (first post) (second post)

/-- Whether events are legible depends only on what they put into the queues. -/
theorem Legible.congr (legible : Log.Legible earlier) (same : posts later = posts earlier) :
    Log.Legible later := by
  intro post member
  rw [same] at member
  exact legible post member

/-- At most one message is queued. -/
theorem legible_of_message {message : Wire.Message} {opened : Bool} (legible : message.Legible)
    (told : posts events = if opened then [(connection, message)] else []) :
    Log.Legible events := by
  intro post member
  rw [told] at member
  split at member
  · obtain rfl := List.mem_singleton.mp member
    exact legible
  · cases member

/-- Whoever is spared asks others. -/
theorem legible_of_spares (spares : Registry.Spares connection events) : Log.Legible events := by
  obtain ⟨targets, -, asks⟩ := spares
  intro post member
  rw [(asks post member).2]
  exact Wire.Message.legible_aliveCheckRequest

/-- What is queued on one connection is legible. -/
theorem Legible.of_mem_postedOn (legible : Log.Legible events) {message : Wire.Message}
    (member : message ∈ postedOn connection events) : message.Legible := by
  obtain ⟨post, chosen, rfl⟩ := List.mem_map.mp member
  exact legible post (List.mem_filter.mp chosen).1

end Log

namespace Gateway

variable {gateway middle : Gateway} {id : SocketId} {connection : ConnectionId}
  {now : Milliseconds} {number : RequestId} {source : UInt16} {socket : Socket} {flow : Flow}
  {events : List Log.Event}

/-! ## Answers to frames -/

/-- An acknowledge, positive or negative, has a code with a name. -/
theorem legible_acknowledgement (body : Wire.Diagnostic) :
    (gateway.acknowledgement connection body).Legible := by
  unfold acknowledgement
  split
  · split
    · exact Wire.Message.legible_diagnosticNack (by simp)
    · exact Wire.Message.legible_diagnosticAck
  · exact Wire.Message.legible_diagnosticNack (by simp)

/-- No frame is refused under a reserved code. -/
theorem legible_refusal (fault : Wire.Fault) : (Wire.Message.genericNack fault.nackCode).Legible := by
  refine Wire.Message.legible_genericNack fun byte same => ?_
  cases fault <;> cases same

/-- A request is decided by a code with a name, and so its answer is legible. On the way to it only
requests for signs of life are queued, and these are legible anyway. -/
theorem legible_pursueActivation (sound : gateway.registry.Sound)
    (named : gateway.registry.DecidesByName)
    (held : gateway.registry.RequestFor number connection) :
    Log.Legible (gateway.pursueActivation now connection number source).events := by
  obtain ⟨request, found, rfl⟩ := held
  have spares : Registry.Spares request.connection (gateway.registry.advance now number).events :=
    Registry.spares_advance sound.consistent found
  have advanced : (gateway.registry.act ⟨now, .task (.request number)⟩).Sound :=
    Registry.sound_act ⟨now, .task (.request number)⟩ sound
  have names := named.act ⟨now, .task (.request number)⟩
  unfold pursueActivation
  simp only [Logged.events_bind]
  refine (legible_of_spares spares).append ?_
  split
  · rename_i code decided
    exact legible_of_message (Wire.Message.legible_activationResponse (names number code decided))
      (posts_answerActivation advanced.consistent)
  · exact legible_of_silent rfl

/-- Every answer to a message can be read by whoever gets it. Only activations and diagnostic
messages are answered, and both with codes that have names. -/
theorem legible_onMessage (sound : gateway.registry.Sound)
    (named : gateway.registry.DecidesByName) (message : Wire.Message) :
    Log.Legible (gateway.onMessage now connection message).events := by
  cases message with
  | routingActivationRequest body =>
    simp only [onMessage, onActivation]
    split
    · have made : (gateway.registry.request connection body.sourceAddress).1.Sound :=
        Registry.sound_act ⟨now, .event (.request connection body.sourceAddress)⟩ sound
      have names : (gateway.registry.request connection body.sourceAddress).1.DecidesByName :=
        named.act ⟨now, .event (.request connection body.sourceAddress)⟩
      exact legible_pursueActivation made names
        (Registry.awaits_request sound connection body.sourceAddress).requestFor
    · refine (legible_of_silent rfl).append ?_
      exact legible_of_message (Wire.Message.legible_activationResponse (by simp))
        (posts_answerActivation sound.consistent)
  | diagnosticMessage body =>
    exact legible_of_message (legible_acknowledgement body) (posts_onDiagnostic sound.consistent body)
  | aliveCheckResponse source =>
    exact legible_of_silent (by simp [onMessage, Registry.aliveResponse])
  | _ => exact legible_of_silent rfl

/-- So can every answer to a frame with a fault. That the timer is renewed first leaves the registry
sound, and its decisions as they were. -/
theorem legible_onFrame (sound : gateway.registry.Sound) (named : gateway.registry.DecidesByName)
    (content : Except Wire.Fault Wire.Message) :
    Log.Legible (gateway.onFrame now connection content).events := by
  let heard := { gateway with registry := gateway.registry.dataReceived now connection }
  have heardSound : heard.registry.Sound :=
    Registry.sound_act ⟨now, .event (.dataReceived connection)⟩ sound
  have names : heard.registry.DecidesByName := named.act ⟨now, .event (.dataReceived connection)⟩
  cases content with
  | ok message => exact legible_onMessage heardSound names message
  | error fault =>
    exact legible_of_message (legible_refusal fault)
      (posts_onInvalidFrame heardSound.consistent fault)

/-- A reader queues what is legible. The cases are what a reader can do: take a frame, pursue a
decision, or find the end. -/
theorem Handles.legible (handles : Handles now id connection gateway socket middle flow events)
    (sound : gateway.registry.Sound) (named : gateway.registry.DecidesByName)
    (decides : gateway.Decides) (found : gateway.sockets[id]? = some socket) :
    Log.Legible events := by
  cases handles with
  | @frame frame _ reads inbound handled =>
    subst handled
    have takenSound : (gateway.taking id frame).registry.Sound := sound
    exact legible_onFrame takenSound named frame.content
  | @decision number source _ waits handled =>
    subst handled
    exact legible_pursueActivation sound named (decides id socket connection number source found waits)
  | @ended ending =>
    refine legible_of_silent ?_
    cases ending <;> rfl

/-! ## Responses of ECUs -/

/-- A response that can be carried is queued as a legible message. -/
theorem legible_onResponse (served : gateway.registry.Served) {response : Ecu.Message}
    (carriable : Carriable response.data) :
    Log.Legible (gateway.onResponse response).events := by
  intro post member
  rw [posts_onResponse served, Option.mem_toList] at member
  obtain ⟨connection, -, rfl⟩ := Option.map_eq_some_iff.mp member
  exact Wire.Message.legible_diagnostic carriable

/-- Plain ECUs stay plain whatever happens to them, unless they get a hook, and what they say can be
carried. -/
theorem plain_undergo {events : List (Nat × Ecu.Event)} (plain : ∀ ecu ∈ gateway.ecus, ecu.Plain)
    (unset : ∀ entry ∈ events, ∀ hook, entry.2 ≠ .setHook hook) :
    (∀ ecu ∈ (gateway.undergo events).ecus, ecu.Plain) ∧
      ∀ entry ∈ gateway.saidBy events, Carriable entry.2.data := by
  refine ⟨undergo_keeps plain fun entry member ecu still =>
    (still.says_apply (unset entry member)).1, ?_⟩
  induction events generalizing gateway with
  | nil => exact fun _ member => absurd member List.not_mem_nil
  | cons entry rest inductionHypothesis =>
    have first := unset entry List.mem_cons_self
    have later : ∀ ecu ∈ (gateway.changeEcu entry.1 entry.2).value.ecus, ecu.Plain :=
      @undergo_keeps gateway [entry] _ plain fun same member ecu still => by
        obtain rfl := List.mem_singleton.mp member
        exact (still.says_apply first).1
    intro said member
    rcases List.mem_append.mp member with here | there
    · obtain ⟨response, heard, rfl⟩ := List.mem_map.mp here
      unfold Gateway.said at heard
      cases found : gateway.ecus[entry.1]? with
      | none =>
        rw [found] at heard
        cases heard
      | some ecu =>
        rw [found] at heard
        obtain ⟨emission, sent, rfl⟩ := List.mem_map.mp heard
        exact ((plain ecu (List.mem_of_getElem? found)).says_apply first).2 emission
          (List.mem_filter.mp sent).1
    · exact inductionHypothesis later
        (fun other listed => unset other (List.mem_cons_of_mem _ listed)) said there

/-- What a writer leaves in a queue was there before. It takes the first message, or the whole
queue is lost. -/
theorem WritesAt.of_mem_waiting {after : Gateway} {holding : Connection} {other : ConnectionId}
    {message : Wire.Message} (writes : gateway.WritesAt id connection holding socket events after)
    (held : gateway.registry.pool.get? connection = some holding)
    (waits : message ∈ after.registry.pool.waiting other) :
    message ∈ gateway.registry.pool.waiting other := by
  unfold Pool.waiting at waits ⊢
  by_cases here : other = connection
  · subst here
    obtain ⟨next, later, change, foundNext, -⟩ := writes.step
    rw [foundNext, Option.elim_some] at waits
    rw [held, Option.elim_some]
    cases change with
    | ends => cases waits
    | writes queue => exact queue ▸ List.mem_cons_of_mem _ waits
    | fails => cases waits
  · rwa [writes.connections other here] at waits

/-! ## What is on its way -/

/-- Whatever a gateway has to send to testers can be read as what it is: its ECUs are plain, their
responses can be carried, the decisions of its registry have names, and the messages in its queues
are legible. -/
structure Candid (gateway : Gateway) : Prop where
  plain : ∀ ecu ∈ gateway.ecus, ecu.Plain
  carriable : ∀ response ∈ gateway.responses, Carriable response.data
  named : gateway.registry.DecidesByName
  queued : ∀ connection, ∀ message ∈ gateway.registry.pool.waiting connection, message.Legible

/-- A gateway with plain ECUs starts like that. -/
theorem candid_withEcus {library : Pattern.Library} {config : GatewayConfig} {ecus : List Ecu}
    (made : withEcus library config ecus = .ok gateway) (plain : ∀ ecu ∈ ecus, ecu.Plain) :
    gateway.Candid := by
  rw [eq_of_withEcus made]
  exact ⟨plain, fun _ member => absurd member List.not_mem_nil, Registry.decidesByName_new _,
    fun _ _ member => absurd member List.not_mem_nil⟩

end Gateway

namespace Station

open Gateway

variable {station : Station} {history : History} {occurrence : Occurrence}

/-- An ECU gets a hook. -/
def Action.setsHook : Action → Bool
  | .event (.ecu _ (.setHook _)) => true
  | _ => false

/-- No other occurrence gives an ECU a hook. Requests, releases and listeners come and go; a hook is
set from outside, by whoever owns the ECU. -/
theorem unset_ecuEvents (unset : occurrence.action.setsHook = false) (station : Station) :
    ∀ entry ∈ station.ecuEvents occurrence, ∀ hook, entry.2 ≠ .setHook hook := by
  have launches : ∀ entry ∈ launching station.gateway.ecuNumbers, ∀ hook,
      entry.2 ≠ .setHook hook := by
    intro entry member
    obtain ⟨number, -, listed⟩ := List.mem_flatMap.mp member
    simp only [List.mem_cons, List.not_mem_nil, or_false] at listed
    rcases listed with rfl | rfl <;> simp
  have dismisses : ∀ entry ∈ dismissing station.gateway.ecuNumbers, ∀ hook,
      entry.2 ≠ .setHook hook := by
    intro entry member
    rcases List.mem_append.mp member with listed | listed
    all_goals
      obtain ⟨number, -, rfl⟩ := List.mem_map.mp listed
      simp
  obtain ⟨moment, action⟩ := occurrence
  intro entry member
  cases action with
  | event event =>
    cases event with
    | start =>
      simp only [ecuEvents] at member
      split at member
      · exact launches entry member
      · cases member
    | stop =>
      simp only [ecuEvents] at member
      split at member
      · exact dismisses entry member
      · cases member
    | ecu index change =>
      obtain rfl := List.mem_singleton.mp member
      rintro hook rfl
      cases unset
    | _ => cases member
  | task task =>
    cases task with
    | read id =>
      obtain ⟨-, -, -, -, -, -, -, -, -, target, -, rfl⟩ := mem_handedBy member
      simp
    | work index =>
      obtain rfl := List.mem_singleton.mp member
      simp
    | _ => cases member

/-- What a candid gateway queues is legible. A reader answers, the router forwards a response, and
nothing else queues a message for a tester. -/
theorem legible_logged (candid : station.gateway.Candid)
    (served : station.gateway.registry.Served) (decides : station.gateway.Decides)
    (able : station.CanHappen occurrence) : Log.Legible (station.logged occurrence).events := by
  by_cases reads : ∃ id, occurrence.action = .task (.read id)
  · obtain ⟨id, action⟩ := reads
    obtain ⟨moment, _⟩ := occurrence
    subst action
    obtain ⟨socket, found, ready⟩ := mem_enabled.mp able
    have told := posts_logged_read moment id station
    rcases handles_of_canRead ready with accepted | ⟨connection, middle, flow, events, handles⟩
    · refine legible_of_silent (told.trans ?_)
      rw [read_of_accepted moment found accepted]
      exact posts_serve socket
    · exact (handles.legible served.sound candid.named decides found).congr
        (told.trans (handles.posts found))
  by_cases routes : occurrence.action = .task .route
  · obtain ⟨moment, _⟩ := occurrence
    subst routes
    have told : posts (station.logged ⟨moment, .task .route⟩).events =
        posts station.gateway.route.events := by
      show posts (station.gateway.route.events ++ []) = _
      rw [List.append_nil]
    refine Legible.congr ?_ told
    cases waits : station.gateway.responses with
    | nil =>
      simp only [route, waits]
      exact legible_of_silent rfl
    | cons response rest =>
      have takenServed : { station.gateway with responses := rest }.registry.Served := served
      simp only [route, waits]
      exact legible_onResponse takenServed
        (candid.carriable response (waits ▸ List.mem_cons_self))
  · exact legible_of_silent (posts_act_apart able (fun id same => reads ⟨id, same⟩) routes)

/-- Whatever happens, unless an ECU gets a hook, a candid gateway stays candid. Its ECUs stay plain,
so what comes to wait is what they say, and that can be carried. -/
theorem candid_act (candid : station.gateway.Candid) (served : station.gateway.registry.Served)
    (decides : station.gateway.Decides) (able : station.CanHappen occurrence)
    (unset : occurrence.action.setsHook = false) : (station.act occurrence).gateway.Candid where
  plain := by
    rw [ecus_act]
    exact (plain_undergo candid.plain (unset_ecuEvents unset station)).1
  carriable := by
    intro response member
    have said := (plain_undergo candid.plain (unset_ecuEvents unset station)).2
    rcases bears served able with ⟨-, -, -, -, -, responses⟩ | ⟨-, -, -, responses⟩ |
      ⟨brings, -, -, responses⟩
    · exact candid.carriable response (responses ▸ member)
    · rw [responses] at member
      cases member
    · rw [brings] at said
      rw [responses] at member
      rcases List.mem_append.mp member with waited | new
      · exact candid.carriable response (List.mem_of_mem_drop waited)
      · split at new
        · obtain ⟨entry, listed, rfl⟩ := List.mem_map.mp new
          exact said entry listed
        · cases new
  named := by
    cases writes : occurrence.action.writes with
    | false =>
      exact (conducts_act occurrence writes station).keeps candid.named
        fun registry occurrence named => named.act occurrence
    | true =>
      obtain ⟨id, -, -, -, action, -⟩ := write_of_writes able writes
      intro number code returns
      refine candid.named number code ?_
      have requests : (station.act occurrence).gateway.registry.requests =
          station.gateway.registry.requests := by
        rw [Station.act, action]
        exact requests_write id
      rwa [Registry.answer?, Registry.request?, requests] at returns
  queued := by
    intro connection message member
    cases writes : occurrence.action.writes with
    | false =>
      have accounts := (tells_act occurrence writes station).accounts
      rw [accounts.queued served.attended_pool] at member
      rcases List.mem_append.mp member with waited | new
      · exact candid.queued connection message waited
      · exact (legible_logged candid served decides able).of_mem_postedOn new
    | true =>
      obtain ⟨id, socket, own, holding, -, -, -, held, step⟩ := write_of_writes able writes
      exact candid.queued connection message (step.of_mem_waiting held member)

/-- At every moment of a possible history in which no ECU gets a hook, the gateway is candid. -/
theorem Possible.candid (possible : station.Possible history)
    (unvisited : station.gateway.Unvisited) (candid : station.gateway.Candid)
    (unset : ∀ occurrence ∈ history, occurrence.action.setsHook = false) :
    (station.replay history).gateway.Candid := by
  revert unset
  refine possible.byOccurrence (fun _ => candid) ?_
  intro past occurrence front able inductionHypothesis unset
  rw [replay_concat]
  exact candid_act (inductionHypothesis fun other member => unset other (by simp [member]))
    (front.served unvisited.served) (front.decides unvisited) able (unset occurrence (by simp))

/-- Whatever was queued in such a history is legible. The induction is on the history, with the
gateway candid before each occurrence. -/
theorem Possible.legible_log (possible : station.Possible history)
    (unvisited : station.gateway.Unvisited) (candid : station.gateway.Candid)
    (unset : ∀ occurrence ∈ history, occurrence.action.setsHook = false) :
    Log.Legible (station.log history) := by
  revert unset
  refine possible.byOccurrence (fun _ => legible_of_silent rfl) ?_
  intro past occurrence front able inductionHypothesis unset
  have earlier : ∀ occurrence ∈ past, occurrence.action.setsHook = false :=
    fun other member => unset other (List.mem_append_left _ member)
  rw [log_concat]
  exact (inductionHypothesis earlier).append
    (legible_logged (front.candid unvisited candid earlier) (front.served unvisited.served)
      (front.decides unvisited) able)

end Station

end DiagnosticGateway
