import DiagnosticGateway.Proofs.Gateway.Conservation
import DiagnosticGateway.Proofs.Gateway.Intake
import DiagnosticGateway.Proofs.Without.Chronicle
import DiagnosticGateway.Proofs.Without.Turns

/-!
# Strangers do not interfere

A tester is a stranger if it never sends a well-formed routing activation request of a supported
type. Strangers may connect, disconnect and send anything else, at any time. As long as there is
room for the sockets that are accepted, the others and the ECUs see nothing of them: two histories
of a gateway that are the same without their strangers have the same chronicles.
-/

namespace DiagnosticGateway.Station

/-- The bytes that arrive from a tester. -/
def stream (id : SocketId) : History → Station → Bytes
  | [], _ => []
  | occurrence :: rest, station =>
    station.gateway.arriving id occurrence.action ++ stream id rest (station.act occurrence)

/-- A tester sends a well-formed routing activation request of a supported type. -/
def Activates (id : SocketId) (history : History) (station : Station) : Prop :=
  ∃ message : Wire.Message, message.isSupportedActivation = true ∧
    Wire.Carries station.gateway.config.maxDataSize (station.stream id history) (.ok message)

/-- There is room for the socket that an action accepts, if it accepts one. -/
def Admits (gateway : Gateway) : Action → Prop
  | .task .accept => gateway.HasRoom
  | _ => True

/-- There is room for every socket that is accepted. -/
def Roomy : History → Station → Prop
  | [], _ => True
  | occurrence :: rest, station =>
    Admits station.gateway occurrence.action ∧ Roomy rest (station.act occurrence)

instance Admits.decidable (gateway : Gateway) : (action : Action) →
    Decidable (Admits gateway action)
  | .task .accept => inferInstanceAs (Decidable gateway.HasRoom)
  | .event _ | .task (.timer _) | .task (.read _) | .task (.leave _) | .task (.write _)
  | .task .receive | .task .announce | .task .route | .task (.work _) => .isTrue trivial

instance Roomy.decidable : (history : History) → (station : Station) →
    Decidable (station.Roomy history)
  | [], _ => .isTrue trivial
  | occurrence :: rest, station =>
    have _ := Roomy.decidable rest (station.act occurrence)
    inferInstanceAs (Decidable (Admits station.gateway occurrence.action ∧
      Roomy rest (station.act occurrence)))

/-- Whether a connection will serve a stranger. -/
def serves (strange : SocketId → Bool) : History → Station → ConnectionId → Bool
  | [], _, _ => false
  | occurrence :: rest, station, connection =>
    ((station.gateway.serves? occurrence.action).any strange &&
        station.gateway.registry.nextConnection == connection) ||
      serves strange rest (station.act occurrence) connection

/-- The strangers of a history: their sockets, and the connections that serve these. -/
def strangers (strange : SocketId → Bool) (history : History) (station : Station) : Strangers :=
  ⟨strange, station.serves strange history⟩

variable {strangers : Strangers} {strange : SocketId → Bool} {station : Station}
  {history : History} {occurrence : Occurrence} {connection : ConnectionId}

/-! ## Who is a stranger -/

/-- Connections that have their number already serve nobody else. The induction is on the history,
and numbers are given in ascending order. -/
theorem serves_of_lt (used : connection < station.gateway.registry.nextConnection) :
    station.serves strange history connection = false := by
  induction history generalizing station with
  | nil => rfl
  | cons occurrence rest inductionHypothesis =>
    have grows := (Gateway.intake_act occurrence station).next_le
    have later : (station.act occurrence).serves strange rest connection = false :=
      inductionHypothesis (Nat.lt_of_lt_of_le used grows)
    have other : (station.gateway.registry.nextConnection == connection) = false :=
      beq_false_of_ne (Nat.ne_of_gt used)
    simp [serves, later, other]

/-- A connection that has no number yet will serve whom it serves after the next occurrence. The
number that the next occurrence may give is a smaller one. -/
theorem serves_of_le
    (free : (station.act occurrence).gateway.registry.nextConnection ≤ connection) :
    station.serves strange (occurrence :: history) connection =
      (station.act occurrence).serves strange history connection := by
  have next := (Gateway.intake_act occurrence station).next
  rw [next] at free
  cases served : station.gateway.serves? occurrence.action with
  | none => simp [serves, served]
  | some id =>
    have other : (station.gateway.registry.nextConnection == connection) = false := by
      rw [served] at free
      exact beq_false_of_ne (Nat.ne_of_lt free)
    simp [serves, other]

/-- The connection of a socket that is served serves a stranger exactly if the socket is one. -/
theorem serves_next {id : SocketId}
    (served : station.gateway.serves? occurrence.action = some id) :
    station.serves strange (occurrence :: history) station.gateway.registry.nextConnection =
      strange id := by
  have next := (Gateway.intake_act occurrence station).next
  rw [served] at next
  have later : (station.act occurrence).serves strange history
      station.gateway.registry.nextConnection = false := serves_of_lt (next ▸ Nat.lt_succ_self _)
  simp [serves, served, later]

/-- Connections yet to be opened are strange if they will serve strangers, and no stranger will
send a request to be registered. Then there is no disturbance as long as there is room. -/
theorem undisturbed (roomy : station.Roomy history)
    (connections : ∀ connection, station.gateway.registry.nextConnection ≤ connection →
      strangers.connections connection = station.serves strangers.sockets history connection)
    (harmless : ∀ (id : SocketId) (message : Wire.Message), strangers.sockets id = true →
      Wire.Carries station.gateway.config.maxDataSize
        (station.gateway.unread id ++ station.stream id history) (.ok message) →
          message.isSupportedActivation = false) :
    station.Undisturbed strangers history := by
  -- What a stranger will have read and sent from here on only gets shorter, and connections that
  -- have their number keep it, so both assumptions pass on to the rest of the history.
  induction history generalizing station with
  | nil => trivial
  | cons occurrence rest inductionHypothesis =>
    obtain ⟨room, roomyRest⟩ := roomy
    have intake := Gateway.intake_act occurrence station
    refine ⟨?_, inductionHypothesis roomyRest ?_ ?_⟩
    · obtain ⟨moment, action⟩ := occurrence
      cases action with
      | event event => trivial
      | task task =>
        cases task with
        | accept => exact room
        | read id =>
          refine ⟨fun socket found accepted => ?_, fun stranger => ?_⟩
          · rw [connections _ (Nat.le_refl _)]
            exact serves_next (by simp [Gateway.serves?, found, accepted])
          · -- The frame that is read now is carried by all that the stranger sends.
            intro socket connection frame message found reads inbound content
            have front := Gateway.front_of_inbound? inbound
            have waits : station.gateway.unread id = socket.incoming := by
              rw [Gateway.unread, found]
              rfl
            have carries := Wire.Carries.first (Wire.Frame.read?_append front
              (station.stream id (⟨moment, .task (.read id)⟩ :: rest)))
            rw [content] at carries
            exact harmless id message stranger (waits ▸ carries)
        | _ => trivial
    · intro connection free
      rw [← serves_of_le free]
      exact connections connection (Nat.le_trans intake.next_le free)
    · intro id message stranger carries
      rw [intake.config] at carries
      exact harmless id message stranger ((intake.flows id).carries carries)

/-! ## Two histories -/

/-- Strangers are hidden in a history: none asks to be registered, and there is room for all. -/
structure Hides (strange : SocketId → Bool) (history : History) (station : Station) : Prop where
  silent : ∀ id, strange id = true → ¬ station.Activates id history
  roomy : station.Roomy history

/-- A history that is possible is possible without its strangers. The induction is on the history;
an occurrence that is seen could happen, and so it can in the image. -/
theorem LooksLike.possible {image : Station} (alike : station.LooksLike strangers image)
    (undisturbed : station.Undisturbed strangers history) (possible : station.Possible history) :
    image.Possible (station.without strangers history) := by
  induction history generalizing station image with
  | nil => trivial
  | cons occurrence rest inductionHypothesis =>
    obtain ⟨unobtrusive, later⟩ := undisturbed
    obtain ⟨able, possibleRest⟩ := possible
    have next := inductionHypothesis (alike.act unobtrusive) later possibleRest
    rw [without]
    cases seen : occurrence.without strangers station.gateway with
    | none =>
      rw [seen] at next
      exact next
    | some imageOccurrence =>
      rw [seen] at next
      exact ⟨(alike.canHappen seen).mpr able, next⟩

variable {library : Pattern.Library} {config : GatewayConfig} {ecus : List Ecu}

/-- A gateway that has just been made looks like itself, whoever will be a stranger. -/
theorem looksLike_made (made : Gateway.withEcus library config ecus = .ok station.gateway)
    (known : strangers.connections 0 = false) : station.LooksLike strangers station := by
  refine ⟨?_, station.network.sent, rfl⟩
  rw [Gateway.eq_of_withEcus made]
  refine ⟨Registry.overlooks_new _, fun id socket found => ?_, ?_⟩
  · cases found
  · simp [Gateway.without, Registry.without, Registry.new, place, places, others, known,
      Pool.without, Pool.empty]

/-- Hidden strangers do not disturb a gateway that has just been made, and without them it looks
like itself. -/
theorem Hides.overlooked (made : Gateway.withEcus library config ecus = .ok station.gateway)
    (hides : station.Hides strange history) :
    station.LooksLike (station.strangers strange history) station ∧
      station.Undisturbed (station.strangers strange history) history := by
  have empty := Gateway.eq_of_withEcus made
  refine ⟨looksLike_made made (serves_of_lt ?_), undisturbed hides.roomy (fun _ _ => rfl) ?_⟩
  · rw [empty]
    exact Nat.one_pos
  · intro id message stranger carries
    have unread : station.gateway.unread id = [] := by
      rw [empty]
      rfl
    rw [unread, List.nil_append] at carries
    by_contra activates
    exact hides.silent id stranger ⟨message, by simpa using activates, carries⟩

/-- A history that is possible is possible without its hidden strangers. -/
theorem Hides.possible (made : Gateway.withEcus library config ecus = .ok station.gateway)
    (hides : station.Hides strange history) (possible : station.Possible history) :
    station.Possible (station.without (station.strangers strange history) history) := by
  obtain ⟨alike, undisturbed⟩ := hides.overlooked made
  exact alike.possible undisturbed possible

/-- Two histories of a gateway that differ in nothing but hidden strangers are the same to everybody
else: to the other testers, which are told apart by their places, and to the ECUs. Whatever is left
of an occurrence without strangers can happen next after both histories or after neither. -/
theorem chronicles_eq_of_hides (made : Gateway.withEcus library config ecus = .ok station.gateway)
    {first second : History} {strangeFirst strangeSecond : SocketId → Bool}
    (hidesFirst : station.Hides strangeFirst first)
    (hidesSecond : station.Hides strangeSecond second)
    (same : station.without (station.strangers strangeFirst first) first =
      station.without (station.strangers strangeSecond second) second) :
    (∀ id other, strangeFirst id = false → strangeSecond other = false →
      place strangeFirst id = place strangeSecond other →
        station.frames id first = station.frames other second ∧
          station.states id first = station.states other second) ∧
      (∀ index, station.requests index first = station.requests index second ∧
        station.emissions index first = station.emissions index second) ∧
      ∀ occurrence other seen,
        occurrence.without (station.strangers strangeFirst first)
            (station.replay first).gateway = some seen →
          other.without (station.strangers strangeSecond second)
              (station.replay second).gateway = some seen →
            ((station.replay first).CanHappen occurrence ↔
              (station.replay second).CanHappen other) := by
  let rest := station.without (station.strangers strangeFirst first) first
  have same : rest = station.without (station.strangers strangeSecond second) second := same
  obtain ⟨alikeFirst, undisturbedFirst⟩ := hidesFirst.overlooked made
  obtain ⟨alikeSecond, undisturbedSecond⟩ := hidesSecond.overlooked made
  refine ⟨fun id other known knownOther alike => ?_, fun index => ?_, ?_⟩
  · have frames : station.frames id first = station.frames (place strangeFirst id) rest :=
      alikeFirst.frames undisturbedFirst known
    have states : station.states id first = station.states (place strangeFirst id) rest :=
      alikeFirst.states undisturbedFirst known
    have framesOther : station.frames other second =
        station.frames (place strangeSecond other) rest :=
      same ▸ alikeSecond.frames undisturbedSecond knownOther
    have statesOther : station.states other second =
        station.states (place strangeSecond other) rest :=
      same ▸ alikeSecond.states undisturbedSecond knownOther
    rw [alike] at frames states
    exact ⟨frames.trans framesOther.symm, states.trans statesOther.symm⟩
  · have requests : station.requests index first = station.requests index rest :=
      alikeFirst.requests undisturbedFirst index
    have emissions : station.emissions index first = station.emissions index rest :=
      alikeFirst.emissions undisturbedFirst index
    have requestsOther : station.requests index second = station.requests index rest :=
      same ▸ alikeSecond.requests undisturbedSecond index
    have emissionsOther : station.emissions index second = station.emissions index rest :=
      same ▸ alikeSecond.emissions undisturbedSecond index
    exact ⟨requests.trans requestsOther.symm, emissions.trans emissionsOther.symm⟩
  · intro occurrence other seen sees seesOther
    have alike : (station.replay first).LooksLike _ (station.replay rest) :=
      alikeFirst.replay undisturbedFirst
    have alikeOther : (station.replay second).LooksLike _ (station.replay rest) :=
      same ▸ alikeSecond.replay undisturbedSecond
    exact (alike.canHappen sees).symm.trans (alikeOther.canHappen seesOther)

/-- A gateway that was not started, on its network. -/
def bench : Station :=
  ⟨Gateway.demonstration, .new⟩

/-- With this a tester asks to be registered. -/
def activation : Bytes :=
  (Wire.Message.routingActivationRequest ⟨0x0E00, .default, none⟩).encode

/-- The request of the tester. -/
def enquiry : Bytes :=
  (Wire.Message.diagnostic 0x0E00 0x0001 [0x3E, 0x00]).encode

/-- The tester in front has its request answered. Behind it a stranger gives the other's sign of
life and sends a request under the other's address. -/
def forgery : History :=
  [⟨0, .event .start⟩,
    ⟨1, .event (.connect ⟨.v4 .loopback, 50001⟩ none)⟩,
    ⟨1, .task .accept⟩,
    ⟨1, .task (.read 0)⟩,
    ⟨2, .event (.connect ⟨.v4 .loopback, 50002⟩ none)⟩,
    ⟨2, .task .accept⟩,
    ⟨2, .task (.read 1)⟩,
    ⟨3, .event (.deliver 0 activation)⟩,
    ⟨3, .task (.read 0)⟩,
    ⟨3, .task (.write 0)⟩,
    ⟨4, .event (.deliver 1 ((Wire.Message.aliveCheckResponse 0x0E00).encode ++
      (Wire.Message.diagnostic 0x0E00 0x0001 [0x11, 0x01]).encode))⟩,
    ⟨4, .task (.read 1)⟩,
    ⟨4, .task (.read 1)⟩,
    ⟨5, .event (.deliver 0 enquiry)⟩,
    ⟨5, .task (.read 0)⟩,
    ⟨5, .task (.work 0)⟩,
    ⟨5, .task .route⟩,
    ⟨5, .task (.write 0)⟩,
    ⟨5, .task (.write 0)⟩]

/-- The tester behind has its request answered. The stranger in front asks for an activation of a
type that is not supported. -/
def intrusion : History :=
  [⟨0, .event .start⟩,
    ⟨0, .event (.connect ⟨.v4 .loopback, 50003⟩ none)⟩,
    ⟨0, .task .accept⟩,
    ⟨0, .task (.read 0)⟩,
    ⟨1, .event (.connect ⟨.v4 .loopback, 50001⟩ none)⟩,
    ⟨1, .task .accept⟩,
    ⟨1, .task (.read 1)⟩,
    ⟨2, .event (.deliver 0
      (Wire.Message.routingActivationRequest ⟨0x0E00, .centralSecurity, none⟩).encode)⟩,
    ⟨2, .task (.read 0)⟩,
    ⟨3, .event (.deliver 1 activation)⟩,
    ⟨3, .task (.read 1)⟩,
    ⟨3, .task (.write 1)⟩,
    ⟨5, .event (.deliver 1 enquiry)⟩,
    ⟨5, .task (.read 1)⟩,
    ⟨5, .task (.work 0)⟩,
    ⟨5, .task .route⟩,
    ⟨5, .task (.write 1)⟩,
    ⟨5, .task (.write 1)⟩]

/-- The forger can be left out: it is never activated, and its two frames are no activation request
of a supported type. -/
theorem hides_forgery : bench.Hides (fun id => id == 1) forgery := by
  refine ⟨fun id stranger => ?_, by decide +kernel⟩
  obtain rfl : id = 1 := by simpa using stranger
  rintro ⟨message, activates, carries⟩
  have sign : Wire.Frame.read? bench.gateway.config.maxDataSize (bench.stream 1 forgery) =
      some ⟨.ok (.aliveCheckResponse 0x0E00),
        (Wire.Message.diagnostic 0x0E00 0x0001 [0x11, 0x01]).encode⟩ := rfl
  have order : Wire.Frame.read? bench.gateway.config.maxDataSize
      (Wire.Message.diagnostic 0x0E00 0x0001 [0x11, 0x01]).encode =
        some ⟨.ok (.diagnostic 0x0E00 0x0001 [0x11, 0x01]), []⟩ := rfl
  rcases (Wire.carries_iff sign).mp carries with same | later
  · obtain rfl := Except.ok.inj same
    cases activates
  · rcases (Wire.carries_iff order).mp later with same | none
    · obtain rfl := Except.ok.inj same
      cases activates
    · exact Wire.not_carries rfl none

/-- The intruder can be left out: the type of activation that it asks for is not supported. Its
stream carries one frame, and that frame activates nothing. -/
theorem hides_intrusion : bench.Hides (fun id => id == 0) intrusion := by
  refine ⟨fun id stranger => ?_, by decide +kernel⟩
  obtain rfl : id = 0 := by simpa using stranger
  rintro ⟨message, activates, carries⟩
  have front : Wire.Frame.read? bench.gateway.config.maxDataSize (bench.stream 0 intrusion) =
      some ⟨.ok (.routingActivationRequest ⟨0x0E00, .centralSecurity, none⟩), []⟩ := rfl
  rcases (Wire.carries_iff front).mp carries with same | none
  · obtain rfl := Except.ok.inj same
    cases activates
  · exact Wire.not_carries rfl none

/-- The tester and the ECU see the same in both histories. The two histories differ in what the
stranger sends, and are the same without it. -/
theorem chronicles_eq_of_hides_intrusion :
    bench.frames 0 forgery = bench.frames 1 intrusion ∧
      bench.states 0 forgery = bench.states 1 intrusion ∧
      bench.requests 0 forgery = bench.requests 0 intrusion ∧
      bench.emissions 0 forgery = bench.emissions 0 intrusion ∧
      (bench.frames 0 forgery).map Prod.fst = [3, 5, 5] := by
  have made : Gateway.withEcus Pattern.Plain.library Gateway.demonstration.config
      [Gateway.holdingEcu] =
      .ok bench.gateway := Gateway.demonstration_made
  have same : bench.without (bench.strangers (fun id => id == 1) forgery) forgery =
      bench.without (bench.strangers (fun id => id == 0) intrusion) intrusion := rfl
  obtain ⟨testers, ecus, -⟩ := chronicles_eq_of_hides made hides_forgery hides_intrusion same
  obtain ⟨frames, states⟩ := testers 0 1 rfl rfl rfl
  obtain ⟨requests, emissions⟩ := ecus 0
  exact ⟨frames, states, requests, emissions, by decide +kernel⟩

end DiagnosticGateway.Station
