import Mathlib.Algebra.GroupWithZero.Nat
import DiagnosticGateway.Proofs.Ecu.Balance
import DiagnosticGateway.Proofs.Gateway.History
import DiagnosticGateway.Proofs.Gateway.Traffic

/-!
# What a gateway does to its ECUs

Every action of a station comes down to a list of events at the ECUs, in order: the requests of a
message that is read, the step of a worker, or what is done to an ECU from outside. The responses
which the gateway hears meanwhile are listed with the number of the ECU that sent them, and they
come behind those that wait to be routed.
-/

namespace DiagnosticGateway

namespace Gateway

/-- The gateway after some events at its ECUs, each with the number of its ECU. -/
def undergo : List (Nat × Ecu.Event) → Gateway → Gateway
  | [], gateway => gateway
  | entry :: rest, gateway => undergo rest (gateway.changeEcu entry.1 entry.2).value

/-- The responses that one event at an ECU brings the gateway. -/
def said (index : Nat) (event : Ecu.Event) (gateway : Gateway) : List Ecu.Message :=
  (gateway.ecus[index]?).elim [] fun ecu => (ecu.apply event).value.heard listener

/-- The responses that some events at the ECUs bring the gateway, each with the number of the ECU
that sent it. -/
def saidBy : List (Nat × Ecu.Event) → Gateway → List (Nat × Ecu.Message)
  | [], _ => []
  | entry :: rest, gateway =>
    (gateway.said entry.1 entry.2).map (fun response => (entry.1, response)) ++
      saidBy rest (gateway.changeEcu entry.1 entry.2).value

/-- The ECUs after an event at one of them. -/
def ecusAfter (index : Nat) (event : Ecu.Event) (ecus : List Ecu) : List Ecu :=
  (ecus[index]?).elim ecus fun ecu => ecus.set index (ecu.apply event).value.ecu

variable {gateway other : Gateway} {index number : Nat} {event : Ecu.Event}
  {events : List (Nat × Ecu.Event)} {tester : UInt16}

/-- An event at an ECU changes the ECU and brings its responses. -/
theorem changeEcu_value (index : Nat) (event : Ecu.Event) (gateway : Gateway) :
    (gateway.changeEcu index event).value =
      { gateway with
        ecus := ecusAfter index event gateway.ecus
        responses :=
          if gateway.routing then gateway.responses ++ gateway.said index event
          else gateway.responses } := by
  unfold changeEcu said ecusAfter
  cases gateway.ecus[index]? with
  | none => simp
  | some ecu => rfl

/-- Events at the ECUs change nothing but the ECUs and what waits to be routed. The induction is on
the events, in the order in which they happen. -/
theorem undergo_value (events : List (Nat × Ecu.Event)) (gateway : Gateway) :
    gateway.undergo events =
      { gateway with
        ecus := (gateway.undergo events).ecus
        responses :=
          if gateway.routing then gateway.responses ++ (gateway.saidBy events).map Prod.snd
          else gateway.responses } := by
  induction events generalizing gateway with
  | nil => simp [undergo, saidBy]
  | cons entry rest inductionHypothesis =>
    have later := inductionHypothesis (gateway.changeEcu entry.1 entry.2).value
    simp only [undergo, saidBy, List.map_append, List.map_map]
    rw [later, changeEcu_value]
    cases gateway.routing <;> simp [Function.comp_def]

/-- What the ECUs come to depends on nothing but the ECUs. The registry and the sockets are
not asked. -/
theorem undergo_congr (same : gateway.ecus = other.ecus) :
    (gateway.undergo events).ecus = (other.undergo events).ecus ∧
      gateway.saidBy events = other.saidBy events := by
  induction events generalizing gateway other with
  | nil => exact ⟨same, rfl⟩
  | cons entry rest inductionHypothesis =>
    have next : (gateway.changeEcu entry.1 entry.2).value.ecus =
        (other.changeEcu entry.1 entry.2).value.ecus := by
      rw [changeEcu_value, changeEcu_value, same]
    obtain ⟨ecus, responses⟩ := inductionHypothesis next
    exact ⟨ecus, by simp only [saidBy, said, same, responses]⟩

/-- An event at one ECU leaves the others alone. An event for an ECU that does not exist leaves all
of them as they are. -/
theorem getElem?_ecusAfter (ecus : List Ecu) :
    (ecusAfter index event ecus)[number]? =
      (ecus[number]?).map fun ecu => if number = index then (ecu.apply event).value.ecu else ecu := by
  unfold ecusAfter
  cases found : ecus[index]? with
  | none =>
    by_cases here : number = index
    · rw [here, found]
      simp [found]
    · simp [here]
  | some ecu =>
    obtain ⟨within, -⟩ := List.getElem?_eq_some_iff.mp found
    by_cases here : number = index
    · subst here
      rw [found]
      simp [within]
    · simp [here, Ne.symm here]

/-- Whoever may be handed requests. -/
def Heeds (gateway : Gateway) : Prop :=
  ∀ ecu ∈ gateway.ecus, ecu.Heeded listener

/-- How many requests of a tester wait at one ECU. -/
def waitingAt (index : Nat) (tester : UInt16) (gateway : Gateway) : Nat :=
  (gateway.ecus[index]?).elim 0 (Ecu.waiting tester)

/-- How many of some responses come from an ECU and go to a tester. -/
def answeredBy (index : Nat) (tester : UInt16) (responses : List (Nat × Ecu.Message)) : Nat :=
  responses.countP fun entry => entry.1 = index ∧ entry.2.target = tester

/-- How many requests of a tester are put to an ECU by some events. -/
def askedOf (index : Nat) (tester : UInt16) (events : List (Nat × Ecu.Event)) : Nat :=
  (events.map fun entry => if entry.1 = index then entry.2.asked tester else 0).sum

/-- Where nothing happens, nothing is asked. -/
@[simp] theorem askedOf_nil : askedOf index tester [] = 0 :=
  rfl

/-- What an ECU was asked for a tester adds up, event by event. -/
@[simp] theorem askedOf_cons (entry : Nat × Ecu.Event) :
    askedOf index tester (entry :: events) =
      (if entry.1 = index then entry.2.asked tester else 0) + askedOf index tester events :=
  List.sum_cons

/-- What an ECU has answered a tester adds up. -/
theorem answeredBy_append (earlier later : List (Nat × Ecu.Message)) :
    answeredBy index tester (earlier ++ later) =
      answeredBy index tester earlier + answeredBy index tester later :=
  List.countP_append

/-- What one ECU says is its own answer and nobody else's. -/
theorem answeredBy_map (responses : List Ecu.Message) :
    answeredBy index tester (responses.map fun response => (number, response)) =
      if number = index then Ecu.answered tester responses else 0 := by
  unfold answeredBy Ecu.answered
  rw [List.countP_map]
  by_cases here : number = index
  · simp [here, Function.comp_def]
  · simp [here, Function.comp_def]

/-- One event balances at every ECU. What is answered by it and what waits after it are what was
asked by it and what waited before. -/
theorem changeEcu_balance (heeds : gateway.Heeds) (retains : event.Retains listener)
    (within : index < gateway.ecus.length) (tester : UInt16) :
    (gateway.changeEcu number event).value.Heeds ∧
      (gateway.changeEcu number event).value.ecus.length = gateway.ecus.length ∧
      (gateway.changeEcu number event).value.waitingAt index tester +
          answeredBy index tester ((gateway.said number event).map fun response =>
            (number, response)) =
        gateway.waitingAt index tester + if number = index then event.asked tester else 0 := by
  have after : (gateway.changeEcu number event).value.ecus =
      ecusAfter number event gateway.ecus := by rw [changeEcu_value]
  refine ⟨?_, ?_, ?_⟩
  · intro ecu member
    rw [after] at member
    obtain ⟨position, found⟩ := List.getElem?_of_mem member
    rw [getElem?_ecusAfter] at found
    obtain ⟨before, earlier, rfl⟩ := Option.map_eq_some_iff.mp found
    have heeded := heeds before (List.mem_of_getElem? earlier)
    split
    · exact (Ecu.apply_balance heeded retains tester).1
    · exact heeded
  · rw [after, ecusAfter]
    cases gateway.ecus[number]? <;> simp
  · obtain ⟨ecu, found⟩ : ∃ ecu, gateway.ecus[index]? = some ecu :=
      ⟨_, List.getElem?_eq_getElem within⟩
    rw [waitingAt, waitingAt, after, getElem?_ecusAfter, answeredBy_map, found]
    by_cases here : number = index
    · subst here
      have balance := (Ecu.apply_balance (heeds ecu (List.mem_of_getElem? found)) retains tester).2
      simpa [said, found] using balance
    · simp [here, Ne.symm here]

/-- Events at running ECUs balance: what waits and what is said make up what waited and what was
asked. -/
theorem undergo_balance (heeds : gateway.Heeds)
    (retain : ∀ entry ∈ events, entry.2.Retains listener) (within : index < gateway.ecus.length)
    (tester : UInt16) :
    (gateway.undergo events).Heeds ∧
      (gateway.undergo events).ecus.length = gateway.ecus.length ∧
      (gateway.undergo events).waitingAt index tester +
          answeredBy index tester (gateway.saidBy events) =
        gateway.waitingAt index tester + askedOf index tester events := by
  induction events generalizing gateway with
  | nil => exact ⟨heeds, rfl, rfl⟩
  | cons entry rest inductionHypothesis =>
    obtain ⟨stillHeeds, length, first⟩ :=
      changeEcu_balance heeds (retain entry List.mem_cons_self) within tester
    obtain ⟨laterHeeds, laterLength, later⟩ := inductionHypothesis stillHeeds
      (fun entry member => retain entry (List.mem_cons_of_mem _ member)) (length ▸ within)
    refine ⟨laterHeeds, laterLength.trans length, ?_⟩
    simp only [undergo, saidBy, answeredBy_append, askedOf, List.map_cons, List.sum_cons] at *
    omega

/-! ## Requests -/

/-- The requests that one step of the reader of a socket brings to the ECUs. A step that takes no
frame with a message hands over nothing. -/
def handedBy (socket : SocketId) (gateway : Gateway) : List (Nat × Ecu.Event) :=
  match gateway.sockets[socket]? with
  | none => []
  | some found =>
    match found.reader, found.inbound? gateway.config.maxDataSize with
    | .reading connection, some (.frame frame) =>
      match frame.content with
      | .ok message => gateway.handed connection message
      | .error _ => []
    | _, _ => []

/-- What an action brings to the ECUs while the gateway neither starts nor stops. -/
def activity (action : Station.Action) (gateway : Gateway) : List (Nat × Ecu.Event) :=
  match action with
  | .event (.ecu index event) => [(index, event)]
  | .task (.read socket) => gateway.handedBy socket
  | .task (.work index) => [(index, .work)]
  | _ => []

/-- Handing a request to ECUs is a list of events at them. Each target gets its own event, and they
do not depend on one another. -/
theorem forward_value (body : Wire.Diagnostic) (targets : List (Nat × Addressing))
    (gateway : Gateway) :
    (gateway.forward body targets).value =
      gateway.undergo (targets.map fun entry =>
        (entry.1, .put ⟨body.sourceAddress, body.targetAddress, entry.2, body.userData⟩)) := by
  induction targets generalizing gateway with
  | nil => rfl
  | cons entry rest inductionHypothesis =>
    obtain ⟨index, addressing⟩ := entry
    cases found : gateway.ecus[index]? with
    | none =>
      have same : (gateway.changeEcu index
          (.put ⟨body.sourceAddress, body.targetAddress, addressing, body.userData⟩)).value =
            gateway := by
        simp [changeEcu, found]
      simp only [forward, found, List.map_cons, undergo, same]
      exact inductionHypothesis gateway
    | some ecu =>
      simp only [forward, found, Logged.value_bind, List.map_cons, undergo]
      exact inductionHypothesis _

/-- Of some ECUs with consecutive numbers, those that a target reaches are handed the request once,
and no other. -/
theorem askedOf_zipIdx (body : Wire.Diagnostic) (index : Nat) (tester : UInt16) (ecus : List Ecu)
    (position : Nat) :
    askedOf index tester (((ecus.zipIdx position).filterMap fun entry =>
        (entry.1.addressingFor body.targetAddress).map fun addressing =>
          (entry.2, addressing)).map fun entry => (entry.1,
            .put ⟨body.sourceAddress, body.targetAddress, entry.2, body.userData⟩)) =
      if position ≤ index ∧ body.sourceAddress = tester ∧
          ((ecus[index - position]?).bind
            (Ecu.addressingFor body.targetAddress)).isSome = true then 1
      else 0 := by
  induction ecus generalizing position with
  | nil => simp
  | cons ecu rest inductionHypothesis =>
    have later := inductionHypothesis (position + 1)
    rw [List.zipIdx_cons]
    rcases Nat.lt_trichotomy index position with before | rfl | after
    · have out : ¬ position ≤ index := Nat.not_le.mpr before
      have outLater : ¬ position + 1 ≤ index := by omega
      have apart : ¬ position = index := Nat.ne_of_gt before
      simp only [outLater, false_and, if_false] at later
      simp only [out, false_and, if_false]
      cases reached : ecu.addressingFor body.targetAddress with
      | none => simpa [reached] using later
      | some addressing => simpa [reached, apart] using later
    · have outLater : ¬ index + 1 ≤ index := by omega
      simp only [outLater, false_and, if_false] at later
      cases reached : ecu.addressingFor body.targetAddress with
      | none => simpa [reached] using later
      | some addressing =>
        rw [List.filterMap_cons, reached, Option.map_some, List.map_cons, askedOf_cons, later]
        simp [reached, Ecu.Event.asked]
    · have apart : ¬ position = index := Nat.ne_of_lt after
      have into : position ≤ index := Nat.le_of_lt after
      have intoLater : position + 1 ≤ index := after
      have place : index - position = index - (position + 1) + 1 := by omega
      simp only [intoLater, true_and] at later
      simp only [into, true_and, place, List.getElem?_cons_succ]
      rw [← later]
      cases reached : ecu.addressingFor body.targetAddress with
      | none => simp [reached]
      | some addressing => simp [reached, apart]

/-- Every ECU that a target reaches is handed the request once, and no other. -/
theorem askedOf_targets (body : Wire.Diagnostic) (gateway : Gateway) (index : Nat)
    (tester : UInt16) :
    askedOf index tester ((gateway.targets body.targetAddress).map fun entry =>
        (entry.1, .put ⟨body.sourceAddress, body.targetAddress, entry.2, body.userData⟩)) =
      if body.sourceAddress = tester ∧
          ((gateway.ecus[index]?).bind (Ecu.addressingFor body.targetAddress)).isSome = true then 1
      else 0 := by
  have whole := askedOf_zipIdx body index tester gateway.ecus 0
  simpa only [Nat.zero_le, true_and, Nat.sub_zero, targets] using whole

end Gateway

end DiagnosticGateway
