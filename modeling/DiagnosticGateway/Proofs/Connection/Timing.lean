import DiagnosticGateway.Proofs.Connection.LifeCycle

/-!
# The timers of a connection

Three events set a timer: the start of a connection, its activation and the data that arrives
while it is registered. No other event disturbs the running timer, except that a stop calls it
off. An expiry is heeded only in the name of the running timer, whose generation is that of the
connection.
-/

namespace DiagnosticGateway

namespace Connection

/-- The timer that an event sets in a phase: an unassigned connection is started, an open one
that is not registered is activated, and data renews a registration. -/
def Event.sets (phase : Phase) : Event → Option TimerKind
  | .start => if phase = .notAssigned then some .initial else none
  | .activate _ => if phase = .closed ∨ phase = .registeredActive then none else some .general
  | .dataReceived => if phase = .registeredActive then some .general else none
  | _ => none

/-- A start sets the initial timer, once. -/
@[simp] theorem Event.sets_start (phase : Phase) :
    Event.start.sets phase = if phase = .notAssigned then some .initial else none :=
  rfl

/-- An activation sets the general timer, unless the connection is closed or was activated
before. -/
@[simp] theorem Event.sets_activate (phase : Phase) (source : UInt16) :
    (Event.activate source).sets phase =
      if phase = .closed ∨ phase = .registeredActive then none else some .general :=
  rfl

/-- Data restart the general timer of a registered connection, and no other timer. -/
@[simp] theorem Event.sets_dataReceived (phase : Phase) :
    Event.dataReceived.sets phase = if phase = .registeredActive then some .general else none :=
  rfl

/-- The event is the expiry of a timer. -/
def Event.isExpiry : Event → Bool
  | .timerExpired _ _ => true
  | _ => false

/-- The phase in which a timer runs. -/
def timedPhase : TimerKind → Phase
  | .initial => .initialized
  | .general => .registeredActive

variable {connection : Connection} {event : Event} {kind : TimerKind} {generation : Nat}

/-- A timer that is set replaces the one before it, in a new generation. -/
structure Reset (now : Milliseconds) (kind : TimerKind) (before after : Connection) : Prop where
  phase : after.phase = timedPhase kind
  timings : after.timings = before.timings
  generation : after.generation = before.generation + 1
  timer : after.timer =
    some ⟨kind, before.generation + 1, now + before.timings.span kind⟩

/-- The timer goes on as before. -/
structure Undisturbed (before after : Connection) : Prop where
  phase : after.phase = before.phase
  timings : after.timings = before.timings
  generation : after.generation = before.generation
  timer : after.timer = before.timer

/-- A connection that is left alone is not disturbed. -/
theorem undisturbed_self : connection.Undisturbed connection :=
  ⟨rfl, rfl, rfl, rfl⟩

/-- Data means nothing to a connection that is not registered. -/
theorem dataReceived_of_unregistered (now : Milliseconds)
    (unregistered : connection.phase ≠ .registeredActive) :
    connection.dataReceived now = connection := by
  unfold dataReceived
  cases phase : connection.phase with
  | registeredActive => exact absurd phase unregistered
  | _ => rfl

/-- An event that sets a timer replaces the running one by a timer of the next generation. Each of
the three events that set one does so in its own phase, and in no other phase does it set any. -/
theorem reset_next (now : Milliseconds) (sets : event.sets connection.phase = some kind) :
    connection.Reset now kind (connection.next now event) := by
  cases event with
  | start =>
    obtain ⟨unassigned, rfl⟩ : connection.phase = .notAssigned ∧ .initial = kind := by
      simpa using sets
    simp only [next, apply, start, unassigned]
    exact ⟨rfl, rfl, rfl, rfl⟩
  | activate source =>
    obtain ⟨unsettled, rfl⟩ :
        ¬ (connection.phase = .closed ∨ connection.phase = .registeredActive) ∧
          .general = kind := by
      simpa using sets
    obtain ⟨opened, unregistered⟩ := not_or.mp unsettled
    have activated := activate_of_unregistered now source opened unregistered
    simp only [next, apply, Logged.value_bind, Logged.value_pure, activated]
    exact ⟨rfl, rfl, rfl, rfl⟩
  | dataReceived =>
    obtain ⟨registered, rfl⟩ : connection.phase = .registeredActive ∧ .general = kind := by
      simpa using sets
    simp only [next, apply, dataReceived, registered]
    exact ⟨registered, rfl, rfl, rfl⟩
  | _ => cases sets

/-- Every other event leaves the timer running as it was set. Stops and expiries are left out, since
they take the timer away. -/
theorem undisturbed_next (now : Milliseconds) (keeps : event.sets connection.phase = none)
    (goesOn : event ≠ .stop) (outside : event.isExpiry = false) :
    connection.Undisturbed (connection.next now event) := by
  cases event with
  | start =>
    have assigned : connection.phase ≠ .notAssigned := by simpa using keeps
    have same : connection.next now .start = connection := by
      simp only [next, apply, start]
      cases phase : connection.phase with
      | notAssigned => exact absurd phase assigned
      | _ => rfl
    rw [same]
    exact undisturbed_self
  | activate source =>
    have settled : connection.phase = .closed ∨ connection.phase = .registeredActive := by
      rw [Event.sets_activate] at keeps
      split at keeps
      case isTrue settled => exact settled
      case isFalse => cases keeps
    have same : connection.next now (.activate source) = connection :=
      congrArg Prod.fst (activate_of_settled now source settled)
    rw [same]
    exact undisturbed_self
  | dataReceived =>
    have unregistered : connection.phase ≠ .registeredActive := by
      simpa using keeps
    have same : connection.next now .dataReceived = connection :=
      dataReceived_of_unregistered now unregistered
    rw [same]
    exact undisturbed_self
  | send message =>
    simp only [next, apply, Logged.value_bind, Logged.value_pure, send_value]
    split
    · exact ⟨rfl, rfl, rfl, rfl⟩
    · exact undisturbed_self
  | stop => exact absurd rfl goesOn
  | subscribe mailbox =>
    simp only [next, apply, subscribe]
    cases phase : connection.phase <;> exact ⟨by simp [phase], rfl, rfl, rfl⟩
  | unsubscribe id => exact ⟨rfl, rfl, rfl, rfl⟩
  | aliveResponse source => exact undisturbed_self
  | timerExpired kind generation => cases outside
  | dropReceiver => exact ⟨rfl, rfl, rfl, rfl⟩

/-- Closing a connection keeps its spans, and its generations go on. -/
theorem stop_keeps (connection : Connection) :
    connection.stop.value.timings = connection.timings ∧
      connection.generation ≤ connection.stop.value.generation := by
  by_cases closed : connection.phase = .closed
  · rw [stop_of_closed closed]
    exact ⟨rfl, Nat.le_refl _⟩
  · rw [stop_of_open closed]
    exact ⟨rfl, Nat.le_succ _⟩

/-- A timer runs in the generation of its connection and in the phase that calls for it. Where no
phase calls for one, no timer runs. -/
theorem Consistent.running {timer : Timer} (consistent : connection.Consistent)
    (running : connection.timer = some timer) :
    timer.generation = connection.generation ∧ connection.phase = timedPhase timer.kind := by
  have fits := consistent.timer
  unfold TimerFits at fits
  split at fits
  case h_1 phase | h_2 phase =>
    obtain ⟨deadline, only⟩ := fits
    cases only.symm.trans running
    exact ⟨rfl, phase⟩
  case h_3 => cases fits.symm.trans running

/-- No timer runs on a closed connection. -/
theorem Consistent.timer_of_closed (consistent : connection.Consistent)
    (closed : connection.phase = .closed) : connection.timer = none := by
  have fits := consistent.timer
  rwa [TimerFits, closed] at fits

/-- The expiry of the running timer closes the connection. It is heeded because a timer that runs
has the generation of its connection. -/
theorem Consistent.phase_timerExpired {timer : Timer} (consistent : connection.Consistent)
    (running : connection.timer = some timer) :
    (connection.timerExpired timer.kind timer.generation).value.phase = .closed := by
  have opened : connection.phase ≠ .closed := by
    intro closed
    cases (consistent.timer_of_closed closed).symm.trans running
  have heeded : (connection.isCurrent timer.kind timer.generation &&
      connection.phase != .closed) = true := by
    simp [isCurrent, running, opened]
  rw [timerExpired, if_pos heeded]
  exact phase_stop _

/-- The expiry of a timer of another generation means nothing, and neither does any expiry on a
closed connection. -/
theorem Consistent.timerExpired_of_stray (consistent : connection.Consistent)
    (stray : connection.phase = .closed ∨ generation ≠ connection.generation) :
    (connection.timerExpired kind generation).value = connection := by
  have unheeded : (connection.isCurrent kind generation && connection.phase != .closed) = false := by
    rcases stray with closed | other
    · simp [closed]
    · cases running : connection.timer with
      | none => simp [isCurrent, running]
      | some timer =>
        have own := (consistent.running running).1
        have different : timer.generation ≠ generation := fun same => other (same.symm.trans own)
        simp [isCurrent, running, different]
  simp [timerExpired, unheeded]

end Connection

end DiagnosticGateway
