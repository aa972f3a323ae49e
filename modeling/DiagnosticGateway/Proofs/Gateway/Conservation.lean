import DiagnosticGateway.Proofs.Gateway.Balance
import DiagnosticGateway.Proofs.Pattern.Plain

/-!
# Conservation of diagnostic requests

A running gateway loses no request and no response. Every request that it acknowledges is handed
to the ECUs that its target reaches, every such ECU answers it once, and every answer is routed:
it is queued on the one connection that is registered with its target, or dropped because there is
none. When nothing is left to do, the routed responses of an ECU to a tester are as many as the
acknowledged requests of the tester that reach the ECU.

The books of a history list what was heard, routed and queued, occurrence by occurrence.
-/

namespace DiagnosticGateway

/-- A response that is routed, with the gateway before and after that. -/
structure Routing where
  response : Ecu.Message
  before : Gateway
  after : Gateway

/-- The response is queued on exactly one connection, which is registered with its target, or it is
dropped because no connection is. -/
def Routing.Settled (routing : Routing) : Prop :=
  (∃ connection,
    routing.before.registry.pool.sourceAddress connection = some routing.response.target ∧
      ∀ id, routing.after.registry.pool.waiting id =
        routing.before.registry.pool.waiting id ++
          if id = connection then
            [.diagnostic routing.response.source routing.response.target routing.response.data]
          else []) ∨
    (∀ id, routing.before.registry.pool.sourceAddress id ≠ some routing.response.target) ∧
      routing.after.registry.pool = routing.before.registry.pool

namespace Station

/-- The response that an occurrence routes, if it does. -/
def routing? (occurrence : Occurrence) (station : Station) : Option Routing :=
  match occurrence.action, station.gateway.responses with
  | .task .route, response :: _ =>
    some ⟨response, station.gateway, (station.act occurrence).gateway⟩
  | _, _ => none

/-- The responses that are routed, oldest first. -/
def routings : History → Station → List Routing
  | [], _ => []
  | occurrence :: rest, station =>
    (station.routing? occurrence).toList ++ routings rest (station.act occurrence)

/-- The responses that the gateway hears, oldest first, each with the number of the ECU that sent
it. -/
def heard : History → Station → List (Nat × Ecu.Message)
  | [], _ => []
  | occurrence :: rest, station =>
    station.gateway.heardBy occurrence.action ++ heard rest (station.act occurrence)

/-- The responses that are routed, each with the number of its ECU. -/
def routed (history : History) (station : Station) : List (Nat × Ecu.Message) :=
  (station.heard history).take (station.routings history).length

/-- The messages that come into the queues of the connections. -/
def queued : History → Station → List Wire.Message
  | [], _ => []
  | occurrence :: rest, station =>
    Pool.gains station.gateway.registry.pool (station.act occurrence).gateway.registry.pool ++
      queued rest (station.act occurrence)

variable {station : Station} {occurrence : Occurrence} {history : History} {index : Nat} {ecu : Ecu}

/-- The routing takes what waits longest. -/
theorem routing?_response (occurrence : Occurrence) (station : Station) :
    (station.routing? occurrence).toList.map Routing.response =
      station.gateway.responses.take occurrence.action.taken := by
  obtain ⟨moment, action⟩ := occurrence
  cases action with
  | event event => cases waits : station.gateway.responses <;> simp [routing?, Action.taken]
  | task task =>
    cases task <;> cases waits : station.gateway.responses <;> simp [routing?, Action.taken, waits]

end Station

namespace Gateway

open Station

variable {gateway : Gateway} {station : Station} {occurrence : Occurrence} {history : History}
  {index : Nat} {ecu : Ecu}

/-- A lookup finds an open connection that is registered with the address, if there is one. Whoever
is registered is open and, since the registry serves it, in the table; so a lookup that finds nobody
tells that there is nobody. -/
theorem lookup_cases {registry : Registry} (served : registry.Served) (source : UInt16) :
    (∃ connection, registry.lookup source = some connection ∧
      registry.pool.sourceAddress connection = some source ∧
      registry.pool.isOpen connection = true) ∨
    registry.lookup source = none ∧ ∀ id, registry.pool.sourceAddress id ≠ some source := by
  have opens := fun id (held : registry.pool.sourceAddress id = some source) =>
    served.sound.consistent.isOpen_of_registered held
  cases found : registry.lookup source with
  | some connection =>
    have held : registry.pool.sourceAddress connection = some source := by
      simpa using List.find?_some found
    exact Or.inl ⟨connection, rfl, held, opens connection held⟩
  | none =>
    refine Or.inr ⟨rfl, fun id held => ?_⟩
    obtain ⟨connection, listed, opened⟩ := Pool.isOpen_iff.mp (opens id held)
    have missing := List.find?_eq_none.mp found id (served.listed listed opened)
    simp [held] at missing

/-- A response is settled when it is routed. It went to the one connection that is registered under
its target address at that moment, or it was dropped because there was none. -/
theorem Attends.settled (attends : station.gateway.Attends) {routing : Routing}
    (routes : station.routing? occurrence = some routing) : routing.Settled := by
  unfold routing? at routes
  split at routes
  · rename_i response rest action waits
    obtain rfl := Option.some.inj routes
    have after : (station.act occurrence).gateway = station.gateway.route.value := by
      rw [Station.act, action]
      rfl
    rcases lookup_cases attends.served response.target with
      ⟨connection, found, held, opened⟩ | ⟨none, unregistered⟩
    · refine Or.inl ⟨connection, held, fun id => ?_⟩
      have sent := attends.served.waiting_send 0 connection id
        (.diagnostic response.source response.target response.data)
      simp only [opened, and_true] at sent
      rw [← sent, after]
      simp only [route, waits, onResponse, found]
      rfl
    · refine Or.inr ⟨unregistered, ?_⟩
      rw [after]
      simp only [route, waits, onResponse, none]
      rfl
  · cases routes

/-- Under a number the gateway has an ECU of given addresses. -/
def Hosts (index : Nat) (ecu : Ecu) (gateway : Gateway) : Prop :=
  ∃ current, gateway.ecus[index]? = some current ∧
    ∀ target, current.addressingFor target = ecu.addressingFor target

/-- A gateway hosts its ECUs whatever they go through. What matters of an ECU here is its addresses,
which no event changes. -/
theorem Hosts.undergo (hosts : gateway.Hosts index ecu) (events : List (Nat × Ecu.Event)) :
    (gateway.undergo events).Hosts index ecu := by
  obtain ⟨current, found, same⟩ := hosts
  obtain ⟨within, -⟩ := List.getElem?_eq_some_iff.mp found
  obtain ⟨later, listed⟩ : ∃ later, (gateway.undergo events).ecus[index]? = some later :=
    ⟨_, List.getElem?_eq_getElem ((length_undergo events gateway).symm ▸ within)⟩
  refine ⟨later, listed, fun target => ?_⟩
  have kept := addressingFor_undergo events gateway index target
  rw [listed, found] at kept
  exact (Option.some.inj kept).trans (same target)

/-- No occurrence before the stop changes the addresses of an ECU. The cases are an ordinary
occurrence, the start, and the stop that is excluded. -/
theorem Attends.hosts_act (attends : station.gateway.Attends) (able : station.CanHappen occurrence)
    (confined : occurrence.action.IsConfined)
    (goes : (station.act occurrence).gateway.phase ≠ .stopped)
    (hosts : station.gateway.Hosts index ecu) :
    (station.act occurrence).gateway.Hosts index ecu := by
  rcases act_cases attends.served attends.inhabited able confined with
    proceeds | ⟨-, -, -, sockets, starts⟩ | halts
  · have kept := hosts.undergo (station.gateway.activity occurrence.action)
    rwa [Hosts, ← proceeds.ecus] at kept
  · rw [starts]
    simp only [run, Logged.value_bind, Logged.value_pure, startEcus_value]
    have begun : { station.gateway with phase := .running sockets, routing := true }.Hosts
        index ecu := hosts
    exact begun.undergo _
  · exact absurd (halts ▸ (halt_value station.gateway).1) goes

/-! ## Whole histories -/

/-- Through a confined history a gateway attends to its ECUs. -/
theorem Attends.replay (attends : station.gateway.Attends) (possible : station.Possible history)
    (confined : ∀ occurrence ∈ history, occurrence.action.IsConfined) :
    (station.replay history).gateway.Attends := by
  induction history generalizing station with
  | nil => exact attends
  | cons first rest inductionHypothesis =>
    exact inductionHypothesis (attends.act possible.1 (confined first List.mem_cons_self))
      possible.2 fun occurrence member => confined occurrence (List.mem_cons_of_mem _ member)

/-- A gateway that is stopped stays stopped. -/
theorem Attends.stopped_replay (attends : station.gateway.Attends)
    (stopped : station.gateway.phase = .stopped) (possible : station.Possible history)
    (confined : ∀ occurrence ∈ history, occurrence.action.IsConfined) :
    (station.replay history).gateway.phase = .stopped := by
  induction history generalizing station with
  | nil => exact stopped
  | cons first rest inductionHypothesis =>
    have confinedFirst := confined first List.mem_cons_self
    exact inductionHypothesis (attends.act possible.1 confinedFirst)
      (attends.stopped_act stopped possible.1 confinedFirst) possible.2
      fun occurrence member => confined occurrence (List.mem_cons_of_mem _ member)

/-- The books of a history balance: every response is settled when it is routed, responses are
routed in the order in which they are heard, and what is acknowledged and what waits at an ECU at
the start make up what is heard and what waits at the end. -/
theorem Attends.books (attends : station.gateway.Attends) (possible : station.Possible history)
    (confined : ∀ occurrence ∈ history, occurrence.action.IsConfined)
    (goes : (station.replay history).gateway.phase ≠ .stopped)
    (hosts : station.gateway.Hosts index ecu) (tester : UInt16) :
    (∀ routing ∈ station.routings history, routing.Settled) ∧
      station.gateway.responses ++ (station.heard history).map Prod.snd =
        (station.routings history).map Routing.response ++
          (station.replay history).gateway.responses ∧
      (station.queued history).countP (Wire.Message.acknowledges tester ecu) +
          station.gateway.waitingAt index tester =
        answeredBy index tester (station.heard history) +
          (station.replay history).gateway.waitingAt index tester := by
  induction history generalizing station with
  | nil => exact ⟨by simp [routings], by simp [heard, routings], by simp [queued, heard, answeredBy]⟩
  | cons first rest inductionHypothesis =>
    have able := possible.1
    have confinedFirst := confined first List.mem_cons_self
    have confinedRest : ∀ occurrence ∈ rest, occurrence.action.IsConfined := fun occurrence member =>
      confined occurrence (List.mem_cons_of_mem _ member)
    have attendsNext := attends.act able confinedFirst
    have goesFirst : (station.act first).gateway.phase ≠ .stopped := fun stopped =>
      goes (attendsNext.stopped_replay stopped possible.2 confinedRest)
    obtain ⟨settled, ordered, counted⟩ := inductionHypothesis attendsNext possible.2 confinedRest
      goes (attends.hosts_act able confinedFirst goesFirst hosts)
    obtain ⟨current, found, same⟩ := hosts
    have balances := attends.balances able confinedFirst goesFirst found tester
    refine ⟨?_, ?_, ?_⟩
    · intro routing member
      rcases List.mem_append.mp member with here | later
      · exact attends.settled (Option.mem_toList.mp here)
      · exact settled routing later
    · have takes := routing?_response first station
      calc station.gateway.responses ++ (station.heard (first :: rest)).map Prod.snd
          = (station.gateway.responses ++
              (station.gateway.heardBy first.action).map Prod.snd) ++
                ((station.act first).heard rest).map Prod.snd := by
            rw [heard, List.map_append, List.append_assoc]
        _ = (station.routing? first).toList.map Routing.response ++
              ((station.act first).gateway.responses ++
                ((station.act first).heard rest).map Prod.snd) := by
            rw [balances.ordered, takes, List.append_assoc]
        _ = (station.routings (first :: rest)).map Routing.response ++
              (station.replay (first :: rest)).gateway.responses := by
            rw [ordered, routings, List.map_append, List.append_assoc, replay_cons]
    · have countedFirst := balances.counted
      rw [Wire.Message.acknowledges_congr tester same] at countedFirst
      rw [queued, List.countP_append, heard, answeredBy_append, replay_cons]
      omega

/-- When no task of a running gateway can take a step, no response and no request waits. Both the
router and the workers could go on otherwise: the one while a response waits, the others while a
request does. -/
theorem Active.settled {now : Milliseconds} (active : gateway.Active)
    (quiescent : gateway.enabled now = []) :
    gateway.responses = [] ∧ ∀ index tester, gateway.waitingAt index tester = 0 := by
  have still := not_able quiescent
  refine ⟨?_, fun index tester => waitingAt_of_unqueued fun ecu found => ?_⟩
  · by_contra waits
    exact still .route (by simp [Able, canRoute, active.routing, waits])
  · cases queue : ecu.queue with
    | none => rfl
    | some waiting =>
      cases waiting with
      | nil => rfl
      | cons request rest =>
        have able : ecu.canWork = true := by simp [Ecu.canWork, queue]
        exact absurd ⟨ecu, found, able⟩ (still (.work index))

/-- Whenever no task of a running gateway can take a step, every response that was routed was
queued on exactly one connection or had nowhere to go, and an ECU has had as many responses to a
tester routed as requests of the tester that reach it were acknowledged. -/
theorem acknowledged_eq_routed {library : Pattern.Library} {config : GatewayConfig}
    {ecus : List Ecu} {network : Net.Network} {now : Milliseconds}
    (made : withEcus library config ecus = .ok gateway) (fresh : ∀ ecu ∈ ecus, ecu.Fresh listener)
    (possible : (Station.mk gateway network).Possible history)
    (confined : ∀ occurrence ∈ history, occurrence.action.IsConfined)
    (running : ((Station.mk gateway network).replay history).gateway.running?.isSome = true)
    (quiescent : ((Station.mk gateway network).replay history).gateway.enabled now = [])
    (found : ecus[index]? = some ecu) (tester : UInt16) :
    (∀ routing ∈ (Station.mk gateway network).routings history, routing.Settled) ∧
      ((Station.mk gateway network).routed history).map Prod.snd =
        ((Station.mk gateway network).routings history).map Routing.response ∧
      answeredBy index tester ((Station.mk gateway network).routed history) =
        ((Station.mk gateway network).queued history).countP
          (Wire.Message.acknowledges tester ecu) := by
  let station := Station.mk gateway network
  obtain ⟨idle, served, rfl⟩ := idle_withEcus made fresh
  have attends : station.gateway.Attends :=
    ⟨served, List.ne_nil_of_mem (List.mem_of_getElem? found), Or.inl idle⟩
  have active : (station.replay history).gateway.Active := by
    rcases (attends.replay possible confined).life with idle | active | stopped
    · rw [running?, idle.created] at running
      cases running
    · exact active
    · rw [running?, stopped] at running
      cases running
  have goes : (station.replay history).gateway.phase ≠ .stopped := by
    intro stopped
    rw [running?, stopped] at running
    cases running
  obtain ⟨settled, ordered, counted⟩ := attends.books possible confined goes
    ⟨ecu, found, fun _ => rfl⟩ tester
  obtain ⟨routedAll, nothingWaits⟩ := active.settled quiescent
  have order : (station.heard history).map Prod.snd =
      (station.routings history).map Routing.response := by
    have responses : station.gateway.responses = [] := idle.responses
    rw [responses, routedAll, List.append_nil] at ordered
    exact ordered
  have all : station.routed history = station.heard history := by
    have length : (station.routings history).length = (station.heard history).length := by
      simpa using (congrArg List.length order).symm
    rw [routed, length, List.take_length]
  refine ⟨settled, ?_, ?_⟩
  · show (station.routed history).map Prod.snd = _
    rw [all, order]
  · have before : station.gateway.waitingAt index tester = 0 := idle.waitingAt index tester
    rw [before, nothingWaits] at counted
    show answeredBy index tester (station.routed history) = _
    rw [all]
    exact counted.symm

/-- An ECU whose hook answers every request and holds it. -/
def holdingEcu : Ecu :=
  { Ecu.new "engine" 0x0001 0xE400 ⟨[]⟩ 64 64 with
    hook := some fun _ => .respondAndHold [0x7E, 0x00] }

/-- A gateway that was not started, with this ECU and with room for one registered connection. It is
what the witnesses about conservation start from. -/
def demonstration : Gateway where
  config := { GatewayConfig.demo with ecus := [] }
  identity :=
    ⟨⟨Bytes.ofText "WVWZZZ1JZ3W386752", by decide +kernel⟩,
      ⟨[0x10, 0x20, 0x30, 0x40, 0x50, 0x60], rfl⟩, ⟨[0x10, 0x20, 0x30, 0x40, 0x50, 0x60], rfl⟩,
      0x0010⟩
  registry := .new 1
  ecus := [holdingEcu]
  phase := .created
  arrivals := []
  sockets := []
  receipts := []
  pausedUntil := none
  announcing := none
  routing := false
  responses := []

/-- The gateway of the demonstration is one that a configuration makes. -/
theorem demonstration_made :
    withEcus Pattern.Plain.library demonstration.config [holdingEcu] = .ok demonstration := by
  have valid : demonstration.config.validate Pattern.Plain.library = .ok () := by decide +kernel
  have identity : demonstration.config.identity = .ok demonstration.identity := by decide +kernel
  simp only [withEcus, valid, identity]
  rfl

/-- A tester is registered and sends two requests, one to each address of the ECU. The first is
answered and held, and the second finds the ECU busy. -/
def exchange : History :=
  [⟨0, .event .start⟩,
    ⟨0, .event (.connect ⟨.v4 .loopback, 50001⟩ none)⟩,
    ⟨0, .task .accept⟩,
    ⟨0, .task (.read 0)⟩,
    ⟨0, .event (.deliver 0
      (Wire.Message.routingActivationRequest ⟨0x0E00, .default, none⟩).encode)⟩,
    ⟨0, .task (.read 0)⟩,
    ⟨0, .event (.deliver 0 (Wire.Message.diagnostic 0x0E00 0x0001 [0x3E, 0x00]).encode)⟩,
    ⟨0, .task (.read 0)⟩,
    ⟨0, .task (.work 0)⟩,
    ⟨0, .event (.deliver 0 (Wire.Message.diagnostic 0x0E00 0xE400 [0x3E, 0x00]).encode)⟩,
    ⟨0, .task (.read 0)⟩,
    ⟨0, .task .route⟩,
    ⟨0, .task .route⟩,
    ⟨0, .task (.write 0)⟩,
    ⟨0, .task (.write 0)⟩,
    ⟨0, .task (.write 0)⟩,
    ⟨0, .task (.write 0)⟩,
    ⟨0, .task (.write 0)⟩]

/-- Both requests of the exchange were acknowledged, and both responses were routed. One request is
answered by the table and one by the hook, and what is counted agrees in the end. -/
theorem acknowledged_eq_routed_exchange :
    (∀ routing ∈ (Station.mk demonstration .new).routings exchange, routing.Settled) ∧
      ((Station.mk demonstration .new).routed exchange).map Prod.snd =
        ((Station.mk demonstration .new).routings exchange).map Routing.response ∧
      answeredBy 0 0x0E00 ((Station.mk demonstration .new).routed exchange) = 2 ∧
      ((Station.mk demonstration .new).queued exchange).countP
        (Wire.Message.acknowledges 0x0E00 holdingEcu) = 2 := by
  have fresh : ∀ ecu ∈ [holdingEcu], ecu.Fresh listener := by
    intro ecu member
    obtain rfl := List.mem_singleton.mp member
    exact ⟨rfl, rfl, rfl⟩
  have possible : (Station.mk demonstration .new).Possible exchange := by decide +kernel
  have confined : ∀ occurrence ∈ exchange, occurrence.action.IsConfined := by
    simp [exchange, Action.IsConfined]
  have running : ((Station.mk demonstration .new).replay exchange).gateway.running?.isSome = true := by
    decide +kernel
  have quiescent : ((Station.mk demonstration .new).replay exchange).gateway.enabled 0 = [] := by
    decide +kernel
  have found : [holdingEcu][0]? = some holdingEcu := rfl
  obtain ⟨settled, order, counted⟩ :=
    acknowledged_eq_routed demonstration_made fresh possible confined running quiescent found 0x0E00
  have two : answeredBy 0 0x0E00 ((Station.mk demonstration .new).routed exchange) = 2 := by
    decide +kernel
  exact ⟨settled, order, two, counted.symm.trans two⟩

end Gateway

end DiagnosticGateway
