import DiagnosticGateway.Proofs.Ecu.Response

/-!
# One request in flight

An ECU tells by three flags and a queue what it is occupied with. In every state that it can come to
they agree: a hold is part of being busy, only a running ECU is busy or has a queue, and the queue
holds the request in flight until the worker takes it, and never another one.

All of it is read off the duty of the ECU, of which flags and queue are functions.
-/

namespace DiagnosticGateway.Ecu

/-- The flags of an ECU agree with each other and with its queue. Together they say that the flags
can be told from the queue and the hold. -/
structure Coherent (ecu : Ecu) : Prop where
  busy_of_held : ecu.held = true → ecu.busy = true
  running_of_busy : ecu.busy = true → ecu.running = true
  /-- There is a queue exactly while the ECU runs. -/
  queue : ecu.queue.isSome = true ↔ ecu.running = true
  /-- At most one request waits. -/
  single : ∀ waiting, ecu.queue = some waiting → waiting.length ≤ 1
  /-- A request waits exactly when one is in flight and is not held. -/
  waits : (∃ request, ecu.queue = some [request]) ↔ ecu.busy = true ∧ ecu.held = false

variable {ecu origin : Ecu} {service : Service} {request : Message} {waiting : List Message}

/-- Whatever an ECU is occupied with, its flags and its queue agree. -/
theorem Serves.coherent (serves : ecu.Serves origin service) : ecu.Coherent := by
  rw [serves.state]
  obtain ⟨past, duty, replies⟩ := service
  cases duty <;> constructor <;> simp [onDuty, Duty.running, Duty.busy, Duty.held, Duty.queue]

/-- The worker finds a single request, and none is held at that time. -/
theorem Coherent.alone (coherent : ecu.Coherent) (queued : ecu.queue = some (request :: waiting)) :
    waiting = [] ∧ ecu.held = false := by
  have none : waiting = [] := by
    have few := coherent.single _ queued
    rw [List.length_cons] at few
    exact List.eq_nil_of_length_eq_zero (by omega)
  subst none
  exact ⟨rfl, (coherent.waits.mp ⟨request, queued⟩).2⟩

/-- When the worker has taken a request, the queue is as if that had been the first. -/
theorem queue_work (queued : ecu.queue = some (request :: waiting)) :
    ecu.work.value.ecu.queue = some waiting := by
  simp only [work, queued, process, Logged.value_bind]
  split <;> rfl

/-- A running ECU without a request that waits or is held takes the next one into its queue. By
coherence an ECU is busy only if one of the two is there, so this one is not busy. -/
theorem Coherent.put (coherent : ecu.Coherent) (running : ecu.running = true)
    (unheld : ecu.held = false) (idle : ecu.canWork = false) (request : Message) :
    (ecu.put request).value = ⟨{ ecu with queue := some [request], busy := true }, []⟩ := by
  obtain ⟨waiting, queued⟩ := Option.isSome_iff_exists.mp (coherent.queue.mpr running)
  have empty : waiting = [] := by
    cases waiting with
    | nil => rfl
    | cons first rest => simp [canWork, queued] at idle
  subst empty
  have free : ecu.busy = false := by
    cases busy : ecu.busy with
    | false => rfl
    | true =>
      obtain ⟨request, waits⟩ := coherent.waits.mpr ⟨busy, unheld⟩
      rw [queued] at waits
      cases waits
  simp [Ecu.put, running, free, queued]

/-- In every state of an ECU its flags and its queue agree. So the worker never finds a second
request beside the one that it takes, nor any while one is held, and leaves none behind; and a
running ECU that holds no request and has none waiting puts the next one into its queue. -/
theorem flags_agree (name : String) (physical functional : UInt16) (lookup : LookupTable)
    (maxLookup maxLogging : Nat) (events : List Event) :
    let ecu := ((new name physical functional lookup maxLookup maxLogging).run events).value.ecu
    ecu.Coherent ∧
      (∀ request waiting, ecu.queue = some (request :: waiting) →
        waiting = [] ∧ ecu.held = false ∧ ecu.work.value.ecu.queue = some []) ∧
      (ecu.running = true → ecu.held = false → ecu.canWork = false → ∀ request,
        (ecu.put request).value = ⟨{ ecu with queue := some [request], busy := true }, []⟩) := by
  intro ecu
  have begins := serves_new name physical functional lookup maxLookup maxLogging
  have coherent : ecu.Coherent := (goesOn_run begins events).serves.coherent
  refine ⟨coherent, ?_, coherent.put⟩
  intro request waiting queued
  obtain ⟨rfl, unheld⟩ := coherent.alone queued
  exact ⟨rfl, unheld, queue_work queued⟩

end DiagnosticGateway.Ecu
