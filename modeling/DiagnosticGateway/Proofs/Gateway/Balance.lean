import DiagnosticGateway.Proofs.Gateway.Life

/-!
# The balance of every occurrence

A gateway attends its ECUs from the moment when it is made. With every occurrence, until the
gateway stops, the requests that are acknowledged and those that waited before are as many as the
responses that are heard and the requests that wait afterwards.
-/

namespace DiagnosticGateway

/-- The same messages acknowledge requests that reach ECUs of the same addresses. -/
theorem Wire.Message.acknowledges_congr {first second : Ecu} (tester : UInt16)
    (same : ∀ target, first.addressingFor target = second.addressingFor target) :
    Wire.Message.acknowledges tester first = Wire.Message.acknowledges tester second := by
  funext message
  cases message <;> simp [acknowledges, same]

namespace Gateway

variable {gateway : Gateway} {station : Station} {occurrence : Station.Occurrence} {index : Nat}
  {ecu : Ecu} {library : Pattern.Library}

/-- A gateway that has just been made is empty but for its ECUs. So everything that holds of an
empty gateway can be computed for the one that was made. -/
theorem eq_of_withEcus {config : GatewayConfig} {ecus : List Ecu}
    (made : withEcus library config ecus = .ok gateway) :
    gateway =
      { config := config
        identity := gateway.identity
        registry := .new config.maxRegisteredConnections
        ecus := ecus
        phase := .created
        arrivals := []
        sockets := []
        receipts := []
        pausedUntil := none
        announcing := none
        routing := false
        responses := [] } := by
  unfold withEcus at made
  split at made
  · cases made
  · cases made
  · obtain rfl := Except.ok.inj made
    rfl

/-- A gateway that was made with fresh ECUs is idle and serves nobody. -/
theorem idle_withEcus {config : GatewayConfig} {ecus : List Ecu}
    (made : withEcus library config ecus = .ok gateway)
    (fresh : ∀ ecu ∈ ecus, ecu.Fresh listener) :
    gateway.Idle ∧ gateway.registry.Served ∧ gateway.ecus = ecus := by
  rw [eq_of_withEcus made]
  exact ⟨⟨rfl, rfl, rfl, rfl, fresh⟩, Registry.served_new _, rfl⟩

/-- The stop ends the life of the gateway and keeps its ECUs. -/
theorem halt_value (gateway : Gateway) :
    gateway.halt.value.phase = .stopped ∧
      gateway.halt.value.registry = gateway.registry.stopAll.value ∧
      gateway.halt.value.ecus.length = gateway.ecus.length := by
  simp only [halt, Logged.value_bind, changeEcus_value]
  refine ⟨?_, ?_, ?_⟩
  · rw [undergo_value, endTasks, undergo_value]
  · rw [undergo_value, endTasks, undergo_value]
  · rw [length_undergo, endTasks, length_undergo]

/-- A gateway attends its ECUs, whatever happens. It is idle, active or stopped, and an occurrence
is a step, the start or the stop; most of the combinations exclude each other. -/
theorem Attends.act (attends : station.gateway.Attends) (able : station.CanHappen occurrence)
    (confined : occurrence.action.IsConfined) : (station.act occurrence).gateway.Attends := by
  rcases act_cases attends.served attends.inhabited able confined with
    proceeds | ⟨created, -, -, sockets, starts⟩ | halts
  · refine ⟨proceeds.served, ?_, ?_⟩
    · rw [proceeds.ecus]
      exact fun none => attends.inhabited (List.length_eq_zero_iff.mp
        ((length_undergo _ _).symm.trans (List.length_eq_zero_iff.mpr none)))
    · rcases attends.life with idle | active | stopped
      · refine Or.inl ⟨proceeds.phase.trans idle.created, idle.unconnected_act occurrence,
          proceeds.routing.trans idle.routing, ?_, ?_⟩
        · rw [proceeds.responses, undergo_value, idle.routing, idle.responses]
          exact List.drop_nil
        · rw [proceeds.ecus]
          exact undergo_keeps idle.fresh fun entry member _ fresh =>
            fresh.apply (idle.foreign confined entry member)
      · refine Or.inr (Or.inl ⟨?_, proceeds.routing.trans active.routing, ?_⟩)
        · rw [running?, proceeds.phase]
          exact active.running
        · intro ecu member
          rw [proceeds.ecus] at member
          refine undergo_keeps active.heeds (fun entry member _ heeded => ?_) ecu member
          exact (Ecu.apply_balance heeded (retains_activity _ confined entry member) 0).1
      · exact Or.inr (Or.inr (proceeds.phase.trans stopped))
  · rcases attends.life with idle | active | stopped
    · obtain ⟨registry, active, -, ecus⟩ := idle.run occurrence.moment sockets
      rw [starts]
      refine ⟨registry ▸ attends.served, fun none => ?_, Or.inr (Or.inl active)⟩
      obtain ⟨ecu, rest, first⟩ := List.exists_cons_of_ne_nil attends.inhabited
      have launched := ecus 0
      rw [none, first] at launched
      cases launched
    · have running := active.running
      rw [running?, created] at running
      cases running
    · rw [created] at stopped
      cases stopped
  · obtain ⟨stopped, registry, length⟩ := halt_value station.gateway
    rw [halts]
    refine ⟨?_, fun none => ?_, Or.inr (Or.inr stopped)⟩
    · have kept : (station.gateway.registry.act ⟨0, .event .stopAll⟩).Served :=
        attends.served.act (by simp) (by simp)
      rw [registry]
      exact kept
    · rw [none] at length
      exact attends.inhabited (List.length_eq_zero_iff.mp length.symm)

/-- A gateway that is stopped stays stopped. -/
theorem Attends.stopped_act (attends : station.gateway.Attends)
    (stopped : station.gateway.phase = .stopped) (able : station.CanHappen occurrence)
    (confined : occurrence.action.IsConfined) :
    (station.act occurrence).gateway.phase = .stopped := by
  rcases act_cases attends.served attends.inhabited able confined with
    proceeds | ⟨created, -⟩ | halts
  · exact proceeds.phase.trans stopped
  · rw [created] at stopped
    cases stopped
  · rw [halts]
    exact (halt_value station.gateway).1

/-! ## One step -/

/-- Nothing waits at an ECU without a queue or with an empty one. -/
theorem waitingAt_of_unqueued {tester : UInt16}
    (unqueued : ∀ ecu, gateway.ecus[index]? = some ecu → ecu.queue.getD [] = []) :
    gateway.waitingAt index tester = 0 := by
  unfold waitingAt
  cases found : gateway.ecus[index]? with
  | none => rfl
  | some ecu => simp [Ecu.waiting, unqueued ecu found]

/-- The routing takes responses in the order in which they were heard, and what is acknowledged
and waits makes up what is heard and still waits. -/
structure Balances (action : Station.Action) (index : Nat) (ecu : Ecu) (tester : UInt16)
    (before after : Gateway) : Prop where
  ordered : before.responses ++ (before.heardBy action).map Prod.snd =
    before.responses.take action.taken ++ after.responses
  counted : (Pool.gains before.registry.pool after.registry.pool).countP
        (Wire.Message.acknowledges tester ecu) + before.waitingAt index tester =
      answeredBy index tester (before.heardBy action) + after.waitingAt index tester

variable {action : Station.Action} {before after : Gateway}

/-- An idle gateway hears nothing. -/
theorem Idle.heardBy (idle : gateway.Idle) (action : Station.Action) :
    gateway.heardBy action = [] := by
  rw [Gateway.heardBy, idle.routing]
  rfl

/-- At an idle gateway no answer waits for a tester. -/
theorem Idle.waitingAt (idle : gateway.Idle) (index : Nat) (tester : UInt16) :
    gateway.waitingAt index tester = 0 :=
  waitingAt_of_unqueued fun ecu found => by
    simp [(idle.fresh ecu (List.mem_of_getElem? found)).queue]

/-- Before the start nothing is acknowledged and nothing is heard. Its ECUs were not started and
have no requests, so there is nothing on either side. -/
theorem Idle.balances (idle : before.Idle) (confined : action.IsConfined)
    (proceeds : Proceeds action.taken (before.activity action) before after)
    (found : before.ecus[index]? = some ecu) (tester : UInt16) :
    Balances action index ecu tester before after := by
  have stillUnqueued : after.waitingAt index tester = 0 :=
    waitingAt_of_unqueued fun ecu found => by
      have fresh := undergo_keeps idle.fresh (fun entry member _ fresh =>
        fresh.apply (idle.foreign confined entry member)) ecu
        (proceeds.ecus ▸ List.mem_of_getElem? found)
      simp [fresh.queue]
  have unasked : askedOf index tester (before.activity action) = 0 := by
    refine List.sum_eq_zero fun count member => ?_
    obtain ⟨entry, listed, rfl⟩ := List.mem_map.mp member
    simp [(idle.foreign confined entry listed).asked]
  refine ⟨?_, ?_⟩
  · rw [idle.heardBy, proceeds.responses, undergo_value, idle.routing, idle.responses]
    simp
  · rw [idle.heardBy, proceeds.acknowledged index ecu tester found, unasked, idle.waitingAt,
      stillUnqueued]
    rfl

/-- While the gateway runs, its ECUs balance what they are asked. What an ECU is asked and what it
answers are balanced by the ECU itself; the gateway adds the responses that wait to be routed. -/
theorem Active.balances (active : before.Active) (confined : action.IsConfined)
    (proceeds : Proceeds action.taken (before.activity action) before after)
    (found : before.ecus[index]? = some ecu) (tester : UInt16) :
    Balances action index ecu tester before after := by
  obtain ⟨within, -⟩ := List.getElem?_eq_some_iff.mp found
  have hears : before.heardBy action = before.saidBy (before.activity action) := by
    rw [heardBy, active.routing]
    rfl
  have waiting : after.waitingAt index tester =
      (before.undergo (before.activity action)).waitingAt index tester := by
    rw [waitingAt, waitingAt, proceeds.ecus]
  obtain ⟨-, -, balance⟩ :=
    undergo_balance active.heeds (retains_activity before confined) within tester
  refine ⟨?_, ?_⟩
  · rw [hears, proceeds.responses, undergo_value, active.routing, if_pos rfl,
      List.drop_append_of_le_length proceeds.available, ← List.append_assoc,
      List.take_append_drop]
  · rw [hears, proceeds.acknowledged index ecu tester found, waiting]
    omega

/-- Nothing waits when the gateway has just started. The ECUs are started with empty queues, and the
start puts nothing to them. -/
theorem Idle.balances_run (idle : before.Idle) (now : Milliseconds) (sockets : Sockets)
    (takes : action.taken = 0) (tester : UInt16) :
    Balances action index ecu tester before (before.run now sockets).value := by
  obtain ⟨registry, -, responses, ecus⟩ := idle.run now sockets
  have unqueued : (before.run now sockets).value.waitingAt index tester = 0 :=
    waitingAt_of_unqueued fun ecu found => by
      obtain ⟨earlier, listed, rfl⟩ := Option.map_eq_some_iff.mp ((ecus index).symm.trans found)
      simp [(idle.fresh earlier (List.mem_of_getElem? listed)).launched.2]
  have gained : Pool.gains before.registry.pool
      (before.run now sockets).value.registry.pool = [] := by
    rw [registry]
    exact Pool.gains_of_length_le fun _ => Nat.le_refl _
  refine ⟨?_, ?_⟩
  · rw [idle.heardBy, responses, idle.responses, takes]
    rfl
  · rw [idle.heardBy, gained, idle.waitingAt, unqueued]
    rfl

/-- As long as it is not stopped, a gateway balances with every occurrence. The stop is left out,
because it throws away what waits: that is where answers are lost. -/
theorem Attends.balances (attends : station.gateway.Attends) (able : station.CanHappen occurrence)
    (confined : occurrence.action.IsConfined)
    (goes : (station.act occurrence).gateway.phase ≠ .stopped)
    (found : station.gateway.ecus[index]? = some ecu) (tester : UInt16) :
    Balances occurrence.action index ecu tester station.gateway (station.act occurrence).gateway := by
  rcases act_cases attends.served attends.inhabited able confined with
    proceeds | ⟨created, takes, -, sockets, starts⟩ | halts
  · rcases attends.life with idle | active | stopped
    · exact idle.balances confined proceeds found tester
    · exact active.balances confined proceeds found tester
    · exact absurd (proceeds.phase.trans stopped) goes
  · rcases attends.life with idle | active | stopped
    · rw [starts]
      exact idle.balances_run _ sockets takes tester
    · have running := active.running
      rw [running?, created] at running
      cases running
    · rw [created] at stopped
      cases stopped
  · exact absurd (halts ▸ (halt_value station.gateway).1) goes

end Gateway

end DiagnosticGateway
