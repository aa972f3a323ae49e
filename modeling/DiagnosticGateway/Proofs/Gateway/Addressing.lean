import DiagnosticGateway.Proofs.Config.Validation
import DiagnosticGateway.Proofs.Gateway.Isolation

/-!
# Whom a diagnostic message reaches

The addresses of the ECUs are those of the configuration, whatever happens to them. A diagnostic
message is handed once to every ECU with its target as one of its addresses, under the addressing of
that address; where both addresses are the same, the physical one counts.

Nothing in a configuration keeps two ECUs from having the same physical address. A message to that
address reaches both of them as a physical request.
-/

namespace DiagnosticGateway

/-! ## Configured addresses -/

/-- The addressing under which a target reaches an ECU, by its configuration. The physical address
comes first. -/
def EcuConfig.addressingFor (target : UInt16) (config : EcuConfig) : Option Addressing :=
  if target = config.physicalAddress then some .physical
  else if target = config.functionalAddress then some .functional
  else none

/-- An ECU has the addresses of its configuration. -/
theorem EcuConfig.addressingFor_build {library : Pattern.Library} {config : EcuConfig}
    {maxLookup maxLogging : Nat} {ecu : Ecu}
    (built : config.build library maxLookup maxLogging = .ok ecu) (target : UInt16) :
    ecu.addressingFor target = config.addressingFor target := by
  unfold build at built
  split at built
  · cases built
  · obtain rfl := Except.ok.inj built
    rfl

/-- An ECU is addressed as its configuration says, whatever its table holds. The induction is on the
configurations, which give one ECU each, in their order. -/
theorem EcuConfig.addressings_build {library : Pattern.Library} {configs : List EcuConfig}
    {maxLookup maxLogging : Nat} {ecus : List Ecu}
    (built : configs.mapM (build library maxLookup maxLogging) = .ok ecus) (target : UInt16) :
    ecus.map (Ecu.addressingFor target) = configs.map (EcuConfig.addressingFor target) := by
  induction configs generalizing ecus with
  | nil =>
    obtain rfl := Except.ok.inj built
    rfl
  | cons first rest inductionHypothesis =>
    rw [List.mapM_cons] at built
    cases builtFirst : first.build library maxLookup maxLogging with
    | error fault =>
      rw [builtFirst] at built
      cases built
    | ok head =>
      cases builtRest : rest.mapM (build library maxLookup maxLogging) with
      | error fault =>
        rw [builtFirst, builtRest] at built
        cases built
      | ok others =>
        rw [builtFirst, builtRest] at built
        obtain rfl := Except.ok.inj built
        rw [List.map_cons, List.map_cons, addressingFor_build builtFirst,
          inductionHypothesis builtRest]

/-! ## Reached places -/

/-- The places that are reached, by number, with the addressing. -/
def reachedPlaces (start : Nat) (addressings : List (Option Addressing)) :
    List (Nat × Addressing) :=
  (addressings.zipIdx start).filterMap fun entry =>
    entry.1.map fun addressing => (entry.2, addressing)

variable {start index : Nat} {addressing : Addressing} {addressings : List (Option Addressing)}

/-- The first ECU is reached if it is addressed, and the others one place further on. -/
theorem reachedPlaces_cons (first : Option Addressing) :
    reachedPlaces start (first :: addressings) =
      (first.map fun addressing => (start, addressing)).toList ++
        reachedPlaces (start + 1) addressings := by
  cases first <;> rfl

/-- The ECUs that are reached are those that are addressed, each at its place. The places are
counted from a given start, so that the statement can be used in inductions. -/
theorem mem_reachedPlaces_iff :
    (index, addressing) ∈ reachedPlaces start addressings ↔
      start ≤ index ∧ addressings[index - start]? = some (some addressing) := by
  simp only [reachedPlaces, List.mem_filterMap, Option.map_eq_some_iff, Prod.mk.injEq]
  constructor
  · rintro ⟨⟨entry, place⟩, listed, found, rfl, rfl, rfl⟩
    obtain ⟨within, here⟩ := List.mk_mem_zipIdx_iff_le_and_getElem?_sub.mp listed
    exact ⟨within, here⟩
  · rintro ⟨within, here⟩
    exact ⟨(some addressing, index), List.mk_mem_zipIdx_iff_le_and_getElem?_sub.mpr ⟨within, here⟩,
      addressing, rfl, rfl, rfl⟩

/-- No place is reached twice. The induction is on the addressings: every later place is greater
than the first one. -/
theorem nodup_reachedPlaces (start : Nat) (addressings : List (Option Addressing)) :
    ((reachedPlaces start addressings).map Prod.fst).Nodup := by
  induction addressings generalizing start with
  | nil => exact List.nodup_nil
  | cons first rest inductionHypothesis =>
    cases first with
    | none => exact inductionHypothesis (start + 1)
    | some addressing =>
      refine List.nodup_cons.mpr ⟨fun again => ?_, inductionHypothesis (start + 1)⟩
      obtain ⟨⟨place, other⟩, listed, same⟩ := List.mem_map.mp again
      have later := (mem_reachedPlaces_iff.mp listed).1
      dsimp only at same
      omega

/-- As many places are reached under an addressing as have it. -/
theorem countP_reachedPlaces (wanted : Addressing) (start : Nat)
    (addressings : List (Option Addressing)) :
    (reachedPlaces start addressings).countP (fun entry => entry.2 = wanted) =
      addressings.count (some wanted) := by
  induction addressings generalizing start with
  | nil => rfl
  | cons first rest inductionHypothesis =>
    rw [reachedPlaces_cons, List.countP_append, inductionHypothesis, List.count_cons, Nat.add_comm]
    cases first <;> simp [List.countP_cons]

deriving instance DecidableEq for Wire.Frame, Turn

namespace Gateway

/-- The targets of a gateway are the places of its ECUs that are addressed. -/
theorem targets_eq (target : UInt16) (gateway : Gateway) :
    gateway.targets target =
      reachedPlaces 0 (gateway.ecus.map (Ecu.addressingFor target)) := by
  rw [reachedPlaces, List.zipIdx_map, List.filterMap_map]
  rfl

end Gateway

namespace Station

open Gateway

variable {station : Station} {history : History} {scene : Scene} {connection : ConnectionId}
  {body : Wire.Diagnostic}

/-- Nothing that happens changes the addresses of the ECUs. -/
theorem addressings_replay (target : UInt16) (history : History) (station : Station) :
    (station.replay history).gateway.ecus.map (Ecu.addressingFor target) =
      station.gateway.ecus.map (Ecu.addressingFor target) := by
  induction history generalizing station with
  | nil => rfl
  | cons occurrence rest inductionHypothesis =>
    refine (inductionHypothesis (station.act occurrence)).trans (List.ext_getElem? fun index => ?_)
    rw [List.getElem?_map, List.getElem?_map, ecus_act]
    exact addressingFor_undergo _ station.gateway index target

/-- Whether an event is a request under physical addressing. -/
def isPhysicalRequest : Ecu.Event → Bool
  | .put request => request.addressing = .physical
  | _ => false

/-- Whom a diagnostic message reaches that is taken from a connection in a scene. The clauses
about the ECUs it reaches, about how often each is reached, and about unicast are given for
one scene at a time. -/
structure Scene.Addressed (config : GatewayConfig) (connection : ConnectionId)
    (body : Wire.Diagnostic) (scene : Scene) : Prop where
  /-- If its source is registered on the connection, it reaches the ECUs that have its target as an
  address, under the addressing of that address. Nothing else happens to any ECU. -/
  reached : ∀ index event, (index, event) ∈ scene.brings ↔
    scene.before.gateway.registry.pool.sourceAddress connection = some body.sourceAddress ∧
      ∃ ecu addressing, config.ecus[index]? = some ecu ∧
        ecu.addressingFor body.targetAddress = some addressing ∧
        event = .put ⟨body.sourceAddress, body.targetAddress, addressing, body.userData⟩
  /-- No ECU is handed the message twice. -/
  once : (scene.brings.map Prod.fst).Nodup
  /-- Under physical addressing it reaches no more ECUs than have the target as their physical
  address, so at most one unless two of them share it. -/
  unicast : scene.brings.countP (fun entry => isPhysicalRequest entry.2) ≤
    (config.ecus.map EcuConfig.physicalAddress).count body.targetAddress

/-- What is handed over goes to the places that are reached. -/
theorem handed_eq (connection : ConnectionId) (body : Wire.Diagnostic) (gateway : Gateway) :
    gateway.handed connection (.diagnosticMessage body) =
      if gateway.registry.pool.sourceAddress connection = some body.sourceAddress then
        (reachedPlaces 0 (gateway.ecus.map (Ecu.addressingFor body.targetAddress))).map fun entry =>
          (entry.1, .put ⟨body.sourceAddress, body.targetAddress, entry.2, body.userData⟩)
      else [] := by
  rw [← targets_eq]
  rfl

/-- A place is reached physically if the target is its physical address. A physical address that is
also the functional one counts as physical. -/
theorem count_physical (target : UInt16) (configs : List EcuConfig) :
    (configs.map (EcuConfig.addressingFor target)).count (some .physical) =
      (configs.map EcuConfig.physicalAddress).count target := by
  induction configs with
  | nil => rfl
  | cons config rest inductionHypothesis =>
    rw [List.map_cons, List.map_cons, List.count_cons, List.count_cons, inductionHypothesis]
    congr 1
    unfold EcuConfig.addressingFor
    split
    · rename_i same
      simp [same]
    · rename_i other
      split <;> simp [Ne.symm other]

/-- Where the ECUs have the addresses of a configuration, a diagnostic message reaches those of the
configuration. -/
theorem Scene.Asks.addressed {config : GatewayConfig} (asks : scene.Asks connection body)
    (configured : scene.before.gateway.ecus.map (Ecu.addressingFor body.targetAddress) =
      config.ecus.map (EcuConfig.addressingFor body.targetAddress)) :
    scene.Addressed config connection body := by
  have brings := asks.brings
  rw [handed_eq, configured] at brings
  constructor
  case reached =>
    intro index event
    rw [brings]
    split
    · rename_i registered
      simp only [List.mem_map, Prod.mk.injEq, Prod.exists, mem_reachedPlaces_iff, Nat.zero_le,
        Nat.sub_zero, true_and, List.getElem?_map, Option.map_eq_some_iff]
      constructor
      · rintro ⟨place, addressing, ⟨ecu, found, reaches⟩, rfl, rfl⟩
        exact ⟨registered, ecu, addressing, found, reaches, rfl⟩
      · rintro ⟨-, ecu, addressing, found, reaches, rfl⟩
        exact ⟨index, addressing, ⟨ecu, found, reaches⟩, rfl, rfl⟩
    · rename_i unregistered
      simp [unregistered]
  case once =>
    rw [brings]
    split
    · rw [List.map_map]
      exact nodup_reachedPlaces 0 _
    · exact List.nodup_nil
  case unicast =>
    rw [brings, ← count_physical, ← countP_reachedPlaces .physical 0]
    split
    · rw [List.countP_map]
      exact Nat.le_of_eq rfl
    · exact Nat.zero_le _

end Station

namespace Gateway

open Station

/-- Whatever happens at a gateway that is made of a valid configuration, a diagnostic message that
is taken reaches no ECU twice, and under physical addressing only those that are configured with the
physical address that it has as its target. -/
theorem reaches_configured {library : Pattern.Library} {config : GatewayConfig}
    (valid : config.validate library = .ok ()) :
    ∃ gateway, Gateway.new library config = .ok gateway ∧
      ∀ network history scene connection body,
        (Station.mk gateway network).Possible history →
        scene ∈ (Station.mk gateway network).scenes history → scene.Asks connection body →
          scene.Addressed config connection body := by
  obtain ⟨gateway, ecus, made, built, same⟩ := new_of_valid valid
  refine ⟨gateway, made, fun network history scene connection body _ member asks => ?_⟩
  obtain ⟨past, future, -, before⟩ := mem_scenes_iff.mp member
  refine asks.addressed ?_
  rw [before, addressings_replay]
  show gateway.ecus.map _ = _
  rw [eq_of_withEcus same]
  exact EcuConfig.addressings_build built body.targetAddress

/-- A configuration with an engine and a gearbox, which share their functional address. -/
def couple (engine gearbox : UInt16) : GatewayConfig :=
  { GatewayConfig.demo with
    ecus := [⟨"engine", engine, 0xE400, []⟩, ⟨"gearbox", gearbox, 0xE400, []⟩] }

/-- The gateway that is made of it. -/
def coupleGateway (engine gearbox : UInt16) : Gateway :=
  { demonstration with
    config := couple engine gearbox
    ecus := [.new "engine" engine 0xE400 ⟨[]⟩ 64 64, .new "gearbox" gearbox 0xE400 ⟨[]⟩ 64 64] }

/-- Nothing in a configuration forbids that two ECUs share an address, be it physical or
functional. -/
theorem couple_valid (engine gearbox : UInt16) :
    (couple engine gearbox).validate Pattern.Plain.library = .ok () := by
  have rest : (couple 0 0).validate Pattern.Plain.library = .ok () := by decide +kernel
  exact rest

/-- A gateway is made of it, with both ECUs. -/
theorem couple_made (engine gearbox : UInt16) :
    Gateway.new Pattern.Plain.library (couple engine gearbox) =
      .ok (coupleGateway engine gearbox) := by
  have built : (couple engine gearbox).buildEcus Pattern.Plain.library =
      .ok (coupleGateway engine gearbox).ecus := rfl
  have identity : (couple engine gearbox).identity = .ok demonstration.identity := by
    have same : GatewayConfig.demo.identity = .ok demonstration.identity := by decide +kernel
    exact same
  simp only [Gateway.new, withEcus, couple_valid, built, identity]
  rfl

/-- A tester is registered and sends a request to an address. -/
def calling (target : UInt16) : History :=
  exchange.take 6 ++
    [⟨0, .event (.deliver 0 (Wire.Message.diagnostic 0x0E00 target [0x3E, 0x00]).encode)⟩,
      ⟨0, .task (.read 0)⟩]

/-- The scene in which that request is taken. -/
def called (engine gearbox target : UInt16) : Scene :=
  ⟨(Station.mk (coupleGateway engine gearbox) .new).replay ((calling target).take 7),
    ⟨0, .task (.read 0)⟩⟩

/-- The request is taken in a scene of the history. -/
theorem called_mem (engine gearbox target : UInt16) :
    called engine gearbox target ∈
      (Station.mk (coupleGateway engine gearbox) .new).scenes (calling target) :=
  mem_scenes_concat ((calling target).take 7) ⟨0, .task (.read 0)⟩ _

/-- Of two ECUs with physical addresses of their own, a request to one of these reaches its ECU
alone. -/
theorem reaches_configured_couple :
    (called 1 2 1).Asks 1 ⟨0x0E00, 1, [0x3E, 0x00]⟩ ∧
      (called 1 2 1).Addressed (couple 1 2) 1 ⟨0x0E00, 1, [0x3E, 0x00]⟩ ∧
      (called 1 2 1).brings.map (fun entry => (entry.1, request? entry.2)) =
        [(0, some ⟨0x0E00, 1, .physical, [0x3E, 0x00]⟩)] := by
  obtain ⟨gateway, made, reaches⟩ := reaches_configured (couple_valid 1 2)
  obtain rfl := Except.ok.inj ((couple_made 1 2).symm.trans made)
  have asks : (called 1 2 1).Asks 1 ⟨0x0E00, 1, [0x3E, 0x00]⟩ :=
    ⟨0, ⟨.ok (.diagnosticMessage ⟨0x0E00, 1, [0x3E, 0x00]⟩), []⟩, by decide +kernel, rfl⟩
  have possible : (Station.mk (coupleGateway 1 2) .new).Possible (calling 1) := by decide +kernel
  exact ⟨asks, reaches _ _ _ _ _ possible (called_mem 1 2 1) asks, by decide +kernel⟩

/-- A configuration is valid although two ECUs have the same physical address. A request to it
reaches both of them, under physical addressing. -/
theorem two_reached_physically :
    (couple 1 1).validate Pattern.Plain.library = .ok () ∧
      Gateway.new Pattern.Plain.library (couple 1 1) = .ok (coupleGateway 1 1) ∧
      (Station.mk (coupleGateway 1 1) .new).Possible (calling 1) ∧
      called 1 1 1 ∈ (Station.mk (coupleGateway 1 1) .new).scenes (calling 1) ∧
      (called 1 1 1).Asks 1 ⟨0x0E00, 1, [0x3E, 0x00]⟩ ∧
      (called 1 1 1).brings.map (fun entry => (entry.1, request? entry.2)) =
        [(0, some ⟨0x0E00, 1, .physical, [0x3E, 0x00]⟩),
          (1, some ⟨0x0E00, 1, .physical, [0x3E, 0x00]⟩)] ∧
      (called 1 1 1).brings.countP (fun entry => isPhysicalRequest entry.2) = 2 :=
  ⟨couple_valid 1 1, couple_made 1 1, by decide +kernel, called_mem 1 1 1,
    ⟨0, ⟨.ok (.diagnosticMessage ⟨0x0E00, 1, [0x3E, 0x00]⟩), []⟩, by decide +kernel, rfl⟩,
    by decide +kernel, by decide +kernel⟩

end Gateway

end DiagnosticGateway
