import DiagnosticGateway.Ecu.Run

/-!
# Requests and responses of an ECU

A running ECU answers every request that it is given, and answers it once. A request that finds
another one in flight is answered as busy at once. Any other request waits in the queue until the
worker takes it and answers it, whatever the hook makes of it. Neither a hold nor its release
takes a request away or adds a response.

So for every tester the responses that a listener hears and the requests that wait balance the
requests that were put.
-/

namespace DiagnosticGateway.Ecu

/-- The ECU runs, and there is one listener under the number. -/
structure Heeded (id : ListenerId) (ecu : Ecu) : Prop where
  running : ecu.running = true
  queue : ecu.queue.isSome = true
  listener : (ecu.listeners.countP fun listener => listener.id = id ∧ listener.present = true) = 1

/-- An event after which a running ECU still runs and has the listener. -/
def Event.Retains (id : ListenerId) : Event → Prop
  | .stop => False
  | .addListener other | .dropListener other => other ≠ id
  | _ => True

/-- The messages that go to one listener. -/
def Outcome.heard (id : ListenerId) (outcome : Outcome) : List Message :=
  (outcome.emissions.filter fun emission => emission.listener == id).map Emission.message

/-- How many requests of a tester wait for the worker. -/
def waiting (tester : UInt16) (ecu : Ecu) : Nat :=
  (ecu.queue.getD []).countP fun request => request.source = tester

/-- How many requests of a tester an event puts. -/
def Event.asked (tester : UInt16) : Event → Nat
  | .put request => if request.source = tester then 1 else 0
  | _ => 0

/-- How many of some responses go to a tester. -/
def answered (tester : UInt16) (responses : List Message) : Nat :=
  responses.countP fun response => response.target = tester

variable {ecu : Ecu} {id other : ListenerId} {event : Event}

/-- Another listener that comes does not take the place of the one under the number. -/
theorem countP_addListener (different : other ≠ id) :
    ((ecu.addListener other).listeners.countP fun listener =>
        listener.id = id ∧ listener.present = true) =
      ecu.listeners.countP fun listener => listener.id = id ∧ listener.present = true := by
  have same : (ecu.addListener other).listeners = ecu.listeners ++ [⟨other, true⟩] := rfl
  simp [same, different]

/-- Another listener that goes leaves the one under the number. -/
theorem countP_dropListener (different : other ≠ id) :
    ((ecu.dropListener other).listeners.countP fun listener =>
        listener.id = id ∧ listener.present = true) =
      ecu.listeners.countP fun listener => listener.id = id ∧ listener.present = true := by
  have same : (ecu.dropListener other).listeners = ecu.listeners.map fun listener =>
      if listener.id = other then { listener with present := false } else listener := rfl
  rw [same, List.countP_map]
  refine List.countP_congr fun listener _ => ?_
  by_cases gone : listener.id = other
  · simp [gone, different]
  · simp [gone]

/-- An ECU that is heeded stays so without the listeners that have gone. -/
theorem Heeded.present (heeded : ecu.Heeded id) :
    { ecu with listeners := ecu.listeners.filter Listener.present }.Heeded id := by
  refine ⟨heeded.running, heeded.queue, ?_⟩
  rw [← heeded.listener, List.countP_filter]
  refine List.countP_congr fun listener _ => ?_
  simp

/-- A response that is sent is heard once. A listener that has gone gets nothing, and one that is
listed twice would be sent it twice; so the count of those who are present has to be one. -/
theorem heard_emit (response : Message)
    (listener : (ecu.listeners.countP fun listener =>
      listener.id = id ∧ listener.present = true) = 1) :
    (ecu.emit response).value.heard id = [response] := by
  have heard : ∀ listeners : List Listener,
      Outcome.heard id ⟨ecu, (listeners.filter Listener.present).map fun listener =>
        ⟨listener.id, response⟩⟩ =
          List.replicate (listeners.countP fun listener =>
            listener.id = id ∧ listener.present = true) response := by
    intro listeners
    induction listeners with
    | nil => rfl
    | cons first rest inductionHypothesis =>
      simp only [Outcome.heard] at inductionHypothesis ⊢
      by_cases present : first.present = true
      · by_cases own : first.id = id
        · simp [present, own, inductionHypothesis, List.replicate_succ]
        · simp [present, own, inductionHypothesis]
      · simp [present, inductionHypothesis]
  have sent := heard ecu.listeners
  rw [listener] at sent
  exact sent

/-- A running ECU answers a request as busy, or puts it in its queue. Busy, it answers at once and
nothing comes to wait; otherwise nothing is answered and one request more waits. -/
theorem put_balance (heeded : ecu.Heeded id) (request : Message) (tester : UInt16) :
    (ecu.put request).value.ecu.Heeded id ∧
      (ecu.put request).value.ecu.waiting tester +
          answered tester ((ecu.put request).value.heard id) =
        ecu.waiting tester + if request.source = tester then 1 else 0 := by
  by_cases busy : ecu.busy = true
  · let answer := ecu.responseTo request
      (Uds.negativeResponse (Uds.requestService request.data) Uds.busyRepeatRequest)
    have heard := heard_emit answer heeded.listener
    have same : (ecu.put request).value.heard id = [answer] := by
      simp only [put, heeded.running, busy, Bool.not_true, Bool.false_eq_true, if_false, if_true,
        Logged.value_bind]
      split <;> exact heard
    refine ⟨?_, ?_⟩
    · have kept := heeded.present
      simp only [put, heeded.running, busy, Bool.not_true, Bool.false_eq_true, if_false, if_true,
        Logged.value_bind]
      split
      · exact ⟨kept.running, kept.queue, kept.listener⟩
      · exact kept
    · have unqueued : (ecu.put request).value.ecu.waiting tester = ecu.waiting tester := by
        simp only [put, heeded.running, busy, Bool.not_true, Bool.false_eq_true, if_false, if_true,
          Logged.value_bind]
        split <;> rfl
      rw [same, unqueued]
      simp [answered, answer, responseTo]
  · obtain ⟨queue, queued⟩ := Option.isSome_iff_exists.mp heeded.queue
    have value : (ecu.put request).value =
        ⟨{ ecu with queue := some (queue ++ [request]), busy := true }, []⟩ := by
      simp [put, heeded.running, busy, queued]
    rw [value]
    refine ⟨⟨heeded.running, rfl, heeded.listener⟩, ?_⟩
    simp [waiting, queued, Outcome.heard, answered, List.countP_singleton]

/-- The worker answers the request that it takes from the queue. Whether its hook or its table gives
the response, the request leaves the queue and exactly one response goes out for it. -/
theorem work_balance (heeded : ecu.Heeded id) (tester : UInt16) :
    ecu.work.value.ecu.Heeded id ∧
      ecu.work.value.ecu.waiting tester + answered tester (ecu.work.value.heard id) =
        ecu.waiting tester := by
  obtain ⟨queue, queued⟩ := Option.isSome_iff_exists.mp heeded.queue
  cases queue with
  | nil =>
    have value : ecu.work.value = ⟨ecu, []⟩ := by simp [work, queued]
    rw [value]
    exact ⟨heeded, by simp [Outcome.heard, answered]⟩
  | cons request rest =>
    obtain ⟨answer, later, value, target, running, queue, listeners⟩ : ∃ answer : Message,
        ∃ later : Ecu, ecu.work.value = (later.emit answer).value ∧
          answer.target = request.source ∧ later.running = true ∧ later.queue = some rest ∧
          later.listeners = ecu.listeners := by
      simp only [work, queued, process, Logged.value_bind]
      split
      · exact ⟨_, _, rfl, rfl, heeded.running, rfl, rfl⟩
      · exact ⟨_, _, rfl, rfl, heeded.running, rfl, rfl⟩
    have laterHeeded : later.Heeded id :=
      ⟨running, by simp [queue], listeners ▸ heeded.listener⟩
    rw [value, heard_emit answer laterHeeded.listener]
    refine ⟨laterHeeded.present, ?_⟩
    have left : (later.emit answer).value.ecu.waiting tester =
        rest.countP fun request => request.source = tester := by
      simp [emit, waiting, queue]
    rw [left]
    simp [waiting, queued, answered, target, List.countP_cons]

/-- Every event that leaves an ECU running balances: what waits and what is heard make up what
waited and what was put. -/
theorem apply_balance (heeded : ecu.Heeded id) (retains : event.Retains id) (tester : UInt16) :
    (ecu.apply event).value.ecu.Heeded id ∧
      (ecu.apply event).value.ecu.waiting tester +
          answered tester ((ecu.apply event).value.heard id) =
        ecu.waiting tester + event.asked tester := by
  cases event with
  | start =>
    have value : (ecu.apply .start).value = ⟨ecu, []⟩ := by
      simp [apply, start, heeded.running]
    rw [value]
    exact ⟨heeded, rfl⟩
  | stop => exact retains.elim
  | put request => exact put_balance heeded request tester
  | release =>
    have value : (ecu.apply .release).value =
        ⟨if ecu.held then { ecu with held := false, busy := false } else ecu, []⟩ := by
      simp only [apply, release, Logged.value_bind, Logged.value_pure]
      split <;> rfl
    rw [value]
    split <;> exact ⟨⟨heeded.running, heeded.queue, heeded.listener⟩, rfl⟩
  | setHook hook => exact ⟨⟨heeded.running, heeded.queue, heeded.listener⟩, rfl⟩
  | addListener other =>
    exact ⟨⟨heeded.running, heeded.queue, (countP_addListener retains).trans heeded.listener⟩, rfl⟩
  | dropListener other =>
    exact ⟨⟨heeded.running, heeded.queue, (countP_dropListener retains).trans heeded.listener⟩, rfl⟩
  | work =>
    obtain ⟨still, balance⟩ := work_balance heeded tester
    exact ⟨still, balance⟩

/-- No event changes the addresses of an ECU. So the ECUs that a message reaches can be read off the
configuration at any time. -/
theorem addressingFor_apply (event : Event) (target : UInt16) (ecu : Ecu) :
    (ecu.apply event).value.ecu.addressingFor target = ecu.addressingFor target := by
  cases event with
  | start => simp only [apply, start]; split <;> rfl
  | stop => simp only [apply, stop]; split <;> rfl
  | put request =>
    simp only [apply, put]
    split
    · rfl
    · split
      · simp only [Logged.value_bind]
        split <;> rfl
      · split <;> rfl
  | release => simp only [apply, release]; split <;> rfl
  | work =>
    simp only [apply, work]
    split
    · simp only [process, Logged.value_bind]
      split <;> rfl
    · rfl
  | _ => rfl

end DiagnosticGateway.Ecu
