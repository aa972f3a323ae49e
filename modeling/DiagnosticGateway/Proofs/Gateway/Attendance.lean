import DiagnosticGateway.Proofs.Gateway.Proceeding

/-!
# Gateways that attend their ECUs

A gateway starts its ECUs when it starts and stops them when it stops. From outside, others may
listen to an ECU, set its hook and release its holds, but they neither start nor stop it, and hand
it no requests. Then an ECU is fresh until the gateway starts, and as long as the gateway runs the
ECU runs and the gateway hears every response.

Every occurrence is a step between start and stop, or the start, or the stop.
-/

namespace DiagnosticGateway

namespace Ecu

/-- What may be done to an ECU behind the back of the party that listens under a number. -/
def Event.IsForeign (id : ListenerId) : Event → Prop
  | .start | .stop | .put _ => False
  | .addListener other | .dropListener other => other ≠ id
  | _ => True

/-- An ECU that was not started, without the listener. -/
structure Fresh (id : ListenerId) (ecu : Ecu) : Prop where
  running : ecu.running = false
  queue : ecu.queue = none
  unheard : (ecu.listeners.countP fun listener => listener.id = id ∧ listener.present = true) = 0

/-- An ECU that was given a listener and started. -/
def launched (id : ListenerId) (ecu : Ecu) : Ecu :=
  ((ecu.apply (.addListener id)).value.ecu.apply .start).value.ecu

variable {id : ListenerId} {ecu : Ecu} {event : Event}

/-- What is foreign to a listener does not drop it. -/
theorem Event.IsForeign.retains (foreign : event.IsForeign id) : event.Retains id := by
  cases event <;> first | exact foreign.elim | exact foreign

/-- What is foreign to a listener asks nothing for a tester. -/
theorem Event.IsForeign.asked (foreign : event.IsForeign id) (tester : UInt16) :
    event.asked tester = 0 := by
  cases event <;> first | exact foreign.elim | rfl

/-- A fresh ECU stays fresh whatever others do to it. Its queue is made by its own start, and the
listener in question is added by the gateway. -/
theorem Fresh.apply (fresh : ecu.Fresh id) (foreign : event.IsForeign id) :
    (ecu.apply event).value.ecu.Fresh id := by
  cases event with
  | release =>
    have value : (ecu.apply .release).value.ecu =
        if ecu.held then { ecu with held := false, busy := false } else ecu := by
      simp only [Ecu.apply, release, Logged.value_bind, Logged.value_pure]
      split <;> rfl
    rw [value]
    split <;> exact ⟨fresh.running, fresh.queue, fresh.unheard⟩
  | setHook hook => exact ⟨fresh.running, fresh.queue, fresh.unheard⟩
  | addListener other =>
    exact ⟨fresh.running, fresh.queue, (countP_addListener foreign).trans fresh.unheard⟩
  | dropListener other =>
    exact ⟨fresh.running, fresh.queue, (countP_dropListener foreign).trans fresh.unheard⟩
  | work =>
    have value : (ecu.apply .work).value.ecu = ecu := by
      simp [Ecu.apply, work, fresh.queue]
    rw [value]
    exact fresh
  | _ => exact foreign.elim

/-- A fresh ECU that is launched runs with an empty queue. Listening comes before the start, and
neither touches what the other sets. -/
theorem Fresh.launched (fresh : ecu.Fresh id) :
    (ecu.launched id).Heeded id ∧ (ecu.launched id).queue = some [] := by
  have value : ecu.launched id =
      { ecu with
        running := true, busy := false, held := false, queue := some []
        listeners := ecu.listeners ++ [⟨id, true⟩] } := by
    simp [Ecu.launched, Ecu.apply, start, addListener, fresh.running]
  rw [value]
  refine ⟨⟨rfl, rfl, ?_⟩, rfl⟩
  simpa using fresh.unheard

end Ecu

namespace Gateway

variable {gateway : Gateway} {events : List (Nat × Ecu.Event)}

/-- No ECU comes or goes by what the ECUs go through. -/
theorem length_undergo (events : List (Nat × Ecu.Event)) (gateway : Gateway) :
    (gateway.undergo events).ecus.length = gateway.ecus.length := by
  induction events generalizing gateway with
  | nil => rfl
  | cons entry rest inductionHypothesis =>
    refine (inductionHypothesis _).trans ?_
    rw [changeEcu_value, ecusAfter]
    cases gateway.ecus[entry.1]? <;> simp

/-- What every event at an ECU keeps is kept by events at the ECUs. The induction is on the events,
each of which is met by one ECU while the others are as they were. -/
theorem undergo_keeps {motive : Ecu → Prop} (start : ∀ ecu ∈ gateway.ecus, motive ecu)
    (step : ∀ entry ∈ events, ∀ ecu, motive ecu → motive (ecu.apply entry.2).value.ecu) :
    ∀ ecu ∈ (gateway.undergo events).ecus, motive ecu := by
  induction events generalizing gateway with
  | nil => exact start
  | cons entry rest inductionHypothesis =>
    refine inductionHypothesis (fun ecu member => ?_) fun later member =>
      step later (List.mem_cons_of_mem _ member)
    rw [changeEcu_value] at member
    obtain ⟨position, found⟩ := List.getElem?_of_mem member
    rw [getElem?_ecusAfter] at found
    obtain ⟨before, earlier, rfl⟩ := Option.map_eq_some_iff.mp found
    have held := start before (List.mem_of_getElem? earlier)
    split
    · exact step entry List.mem_cons_self before held
    · exact held

/-- No event changes the addresses of the ECUs. The induction is on the events, each of which
changes one ECU and keeps its addresses. -/
theorem addressingFor_undergo (events : List (Nat × Ecu.Event)) (gateway : Gateway) (index : Nat)
    (target : UInt16) :
    ((gateway.undergo events).ecus[index]?).map (Ecu.addressingFor target) =
      (gateway.ecus[index]?).map (Ecu.addressingFor target) := by
  induction events generalizing gateway with
  | nil => rfl
  | cons entry rest inductionHypothesis =>
    refine (inductionHypothesis _).trans ?_
    rw [changeEcu_value, getElem?_ecusAfter, Option.map_map]
    congr 1
    funext ecu
    rw [Function.comp_apply]
    split
    · exact Ecu.addressingFor_apply entry.2 target ecu
    · rfl

/-- One event for several ECUs is as many events, one for each. -/
theorem changeEcus_value (event : Ecu.Event) (numbers : List Nat) (gateway : Gateway) :
    (gateway.changeEcus event numbers).value =
      gateway.undergo (numbers.map fun number => (number, event)) := by
  induction numbers generalizing gateway with
  | nil => rfl
  | cons number rest inductionHypothesis => exact inductionHypothesis _

/-! ## Start and stop -/

/-- The events by which the gateway listens to its ECUs and starts them. -/
def launching (numbers : List Nat) : List (Nat × Ecu.Event) :=
  numbers.flatMap fun number => [(number, .addListener listener), (number, .start)]

/-- Starting the ECUs is launching them, one after the other. -/
theorem startEcus_value (numbers : List Nat) (gateway : Gateway) :
    (gateway.startEcus numbers).value = gateway.undergo (launching numbers) := by
  induction numbers generalizing gateway with
  | nil => rfl
  | cons number rest inductionHypothesis => exact inductionHypothesis _

/-- A gateway that runs has launched its ECUs. -/
theorem run_value (now : Milliseconds) (sockets : Sockets) (gateway : Gateway) :
    (gateway.run now sockets).value =
      let later := { gateway with phase := .running sockets, routing := true }.undergo
        (launching gateway.ecuNumbers)
      { later with announcing := later.firstAnnouncement now } := by
  simp only [run, Logged.value_bind, Logged.value_pure, startEcus_value]

/-- Launching ECUs brings no response. An ECU that gets a listener or is started has nothing
to answer. -/
theorem saidBy_launching (numbers : List Nat) (gateway : Gateway) :
    gateway.saidBy (launching numbers) = [] := by
  have silent : ∀ (index : Nat) (event : Ecu.Event) (gateway : Gateway),
      (∀ ecu : Ecu, (ecu.apply event).value.emissions = []) → gateway.said index event = [] := by
    intro index event gateway emits
    unfold said
    cases gateway.ecus[index]? with
    | none => rfl
    | some ecu => simp [Ecu.Outcome.heard, emits ecu]
  induction numbers generalizing gateway with
  | nil => rfl
  | cons number rest inductionHypothesis =>
    have adds := silent number (.addListener listener) gateway fun _ => rfl
    have starts := silent number .start (gateway.changeEcu number (.addListener listener)).value
      fun _ => rfl
    show gateway.saidBy ((number, .addListener listener) :: (number, .start) :: launching rest) = []
    simp only [saidBy, adds, starts, inductionHypothesis, List.map_nil, List.append_nil]

/-- Every ECU that is named is launched, once. Each number occurs once, and so no ECU gets its
listener twice. -/
theorem getElem?_launching {numbers : List Nat} (distinct : numbers.Nodup) (gateway : Gateway)
    (index : Nat) :
    (gateway.undergo (launching numbers)).ecus[index]? =
      (gateway.ecus[index]?).map fun ecu =>
        if index ∈ numbers then ecu.launched listener else ecu := by
  induction numbers generalizing gateway with
  | nil => simp [launching, undergo]
  | cons number rest inductionHypothesis =>
    obtain ⟨once, distinctRest⟩ := List.nodup_cons.mp distinct
    show (((gateway.changeEcu number (.addListener listener)).value.changeEcu number
      .start).value.undergo (launching rest)).ecus[index]? = _
    rw [inductionHypothesis distinctRest, changeEcu_value, getElem?_ecusAfter, changeEcu_value,
      getElem?_ecusAfter, Option.map_map, Option.map_map]
    congr 1
    funext ecu
    by_cases here : index = number
    · subst here
      simp [once, Ecu.launched]
    · simp [here]

end Gateway

end DiagnosticGateway
