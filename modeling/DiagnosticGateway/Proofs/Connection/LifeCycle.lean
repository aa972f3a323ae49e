import DiagnosticGateway.Connection.Run

/-!
# The life of a connection

A connection is consistent when its fields agree with its phase: an address is held exactly
while it is registered, a timer runs exactly while it waits for data, and a closed connection
has given up its queue and its subscribers. Every event keeps a connection consistent.

Events divide into those that a registry passes on from outside and those by which an
arbitration acts. The former never give a connection an address or a subscriber, and as long
as the connection stays open they leave both as they are. What is closed stays closed.
-/

namespace DiagnosticGateway.Connection

/-- The connection that one event leaves behind. -/
def next (now : Milliseconds) (event : Event) (connection : Connection) : Connection :=
  (connection.apply now event).value.connection

/-- The timer that a phase calls for: its kind, set in the current generation. -/
def TimerFits (connection : Connection) : Prop :=
  match connection.phase with
  | .initialized =>
    ∃ deadline, connection.timer = some ⟨.initial, connection.generation, deadline⟩
  | .registeredActive =>
    ∃ deadline, connection.timer = some ⟨.general, connection.generation, deadline⟩
  | _ => connection.timer = none

/-- The fields of a connection agree with its phase. -/
structure Consistent (connection : Connection) : Prop where
  /-- The two phases that are kept in reserve are never entered. -/
  entered : connection.phase ≠ .pendingAuthentication ∧ connection.phase ≠ .pendingConfirmation
  address : connection.sourceAddress.isSome = true ↔ connection.phase = .registeredActive
  timer : connection.TimerFits
  sending : connection.sending = true ↔ connection.phase ≠ .closed
  subscribers : connection.phase = .closed → connection.subscribers = []
  signal : connection.closedSignal = true ↔ connection.phase = .closed

/-- A connection that has not been started is consistent. -/
theorem consistent_new (id : ConnectionId) (timings : Timings) : (new id timings).Consistent := by
  refine ⟨⟨?_, ?_⟩, ?_, rfl, ?_, ?_, ?_⟩ <;> simp [new]

/-- Starting sets the initial timer of a connection in its first phase. In any other phase nothing
is set, whoever asks for it. -/
theorem consistent_start (now : Milliseconds) {connection : Connection}
    (consistent : connection.Consistent) : (connection.start now).value.Consistent := by
  unfold start
  cases unassigned : connection.phase with
  | notAssigned =>
    refine ⟨⟨?_, ?_⟩, ?_, ⟨_, rfl⟩, ?_, ?_, ?_⟩
    · simp [restartTimer]
    · simp [restartTimer]
    · have address := consistent.address
      simpa [restartTimer, unassigned] using address
    · have sending := consistent.sending
      simpa [restartTimer, unassigned] using sending
    · simp [restartTimer]
    · have signal := consistent.signal
      simpa [restartTimer, unassigned] using signal
  | _ => exact consistent

/-- An activation gives the connection its address and the general timer together with the phase
that has them. -/
theorem consistent_activate (now : Milliseconds) (source : UInt16) {connection : Connection}
    (consistent : connection.Consistent) :
    (connection.activate now source).value.1.Consistent := by
  have sending := consistent.sending
  have signal := consistent.signal
  unfold activate
  cases unregistered : connection.phase with
  | closed => exact consistent
  | registeredActive => exact consistent
  | _ =>
    refine ⟨⟨?_, ?_⟩, ?_, ⟨_, rfl⟩, ?_, ?_, ?_⟩
    · simp [restartTimer]
    · simp [restartTimer]
    · simp [restartTimer]
    · simpa [restartTimer, unregistered] using sending
    · simp [restartTimer]
    · simpa [restartTimer, unregistered] using signal

/-- Data restart the running timer in the phase it belongs to. -/
theorem consistent_dataReceived (now : Milliseconds) {connection : Connection}
    (consistent : connection.Consistent) : (connection.dataReceived now).Consistent := by
  unfold dataReceived
  cases registered : connection.phase with
  | registeredActive =>
    refine ⟨consistent.entered, consistent.address, ?_, consistent.sending,
      consistent.subscribers, consistent.signal⟩
    simp [TimerFits, restartTimer, registered]
  | _ => exact consistent

/-- A message changes nothing but the queue, and that only if someone reads it. -/
theorem send_value (message : Wire.Message) (connection : Connection) :
    (connection.send message).value.1 =
      if connection.sending && connection.receiving then
        { connection with outbound := connection.outbound ++ [message] }
      else connection := by
  unfold send
  by_cases sending : connection.sending = true
  · by_cases receiving : connection.receiving = true <;> simp [sending, receiving]
  · simp [sending]

/-- Queueing a message changes none of the fields that the phase decides. -/
theorem consistent_send (message : Wire.Message) {connection : Connection}
    (consistent : connection.Consistent) : (connection.send message).value.1.Consistent := by
  rw [send_value]
  split
  · exact ⟨consistent.entered, consistent.address, consistent.timer, consistent.sending,
      consistent.subscribers, consistent.signal⟩
  · exact consistent

/-- Closing ends everything that depends on the connection being open. The new generation makes
every timer that was set before a stray one. -/
theorem stop_of_open {connection : Connection} (opened : connection.phase ≠ .closed) :
    connection.stop.value =
      { connection with
        phase := .closed
        sourceAddress := none
        generation := connection.generation + 1
        sending := false
        subscribers := []
        timer := none
        closedSignal := true } := by
  unfold stop
  cases phase : connection.phase with
  | closed => exact absurd phase opened
  | _ => rfl

/-- Closing a closed connection changes nothing. -/
theorem stop_of_closed {connection : Connection} (closed : connection.phase = .closed) :
    connection.stop.value = connection := by
  simp [stop, closed]

/-- What has been stopped is closed. -/
@[simp] theorem phase_stop (connection : Connection) : connection.stop.value.phase = .closed := by
  by_cases closed : connection.phase = .closed
  · rw [stop_of_closed closed, closed]
  · rw [stop_of_open closed]

/-- Closing takes the address, the timer, the listeners and the sending half away at once. -/
theorem consistent_stop {connection : Connection} (consistent : connection.Consistent) :
    connection.stop.value.Consistent := by
  by_cases closed : connection.phase = .closed
  · rw [stop_of_closed closed]
    exact consistent
  · rw [stop_of_open closed]
    exact ⟨⟨by simp, by simp⟩, by simp, rfl, by simp, by simp, by simp⟩

/-- An expiry that is heeded closes the connection like any other stop. One that is not heeded
changes nothing. -/
theorem timerExpired_value (kind : TimerKind) (generation : Nat) (connection : Connection) :
    (connection.timerExpired kind generation).value = connection ∨
      (connection.timerExpired kind generation).value = connection.stop.value := by
  unfold timerExpired
  by_cases current : (connection.isCurrent kind generation && connection.phase != .closed) = true
  · right
    have opened : connection.phase ≠ .closed := by simp_all
    have silenced : { connection with timer := none }.phase ≠ .closed := opened
    rw [if_pos current, stop_of_open opened]
    exact stop_of_open silenced
  · left
    rw [if_neg current]
    rfl

/-- An expiry closes the connection or is dropped as superseded. -/
theorem consistent_timerExpired (kind : TimerKind) (generation : Nat) {connection : Connection}
    (consistent : connection.Consistent) :
    (connection.timerExpired kind generation).value.Consistent := by
  rcases timerExpired_value kind generation connection with same | stopped
  · rw [same]
    exact consistent
  · rw [stopped]
    exact consistent_stop consistent

/-- An open connection takes a subscriber under the next number. -/
theorem subscribe_of_open (mailbox : MailboxId) {connection : Connection}
    (opened : connection.phase ≠ .closed) :
    connection.subscribe mailbox =
      ({ connection with
          subscribers := connection.subscribers ++ [⟨connection.nextSubscriber, mailbox⟩]
          nextSubscriber := connection.nextSubscriber + 1 },
        some connection.nextSubscriber) := by
  unfold subscribe
  cases phase : connection.phase with
  | closed => exact absurd phase opened
  | _ => rfl

/-- A closed connection takes no subscriber. -/
theorem subscribe_of_closed (mailbox : MailboxId) {connection : Connection}
    (closed : connection.phase = .closed) : connection.subscribe mailbox = (connection, none) := by
  simp [subscribe, closed]

/-- Whoever subscribes to a closed connection is not listed. -/
theorem consistent_subscribe (mailbox : MailboxId) {connection : Connection}
    (consistent : connection.Consistent) : (connection.subscribe mailbox).1.Consistent := by
  by_cases closed : connection.phase = .closed
  · rw [subscribe_of_closed mailbox closed]
    exact consistent
  · rw [subscribe_of_open mailbox closed]
    exact ⟨consistent.entered, consistent.address, consistent.timer, consistent.sending,
      fun closes => absurd closes closed, consistent.signal⟩

/-- One listener less leaves the fields in agreement. -/
theorem consistent_unsubscribe (id : SubscriberId) {connection : Connection}
    (consistent : connection.Consistent) : (connection.unsubscribe id).Consistent :=
  ⟨consistent.entered, consistent.address, consistent.timer, consistent.sending,
    fun closed => by simp [unsubscribe, consistent.subscribers closed], consistent.signal⟩

/-- Every event keeps a connection consistent. There is one case for each event, and in each the
fields that go with the phase are set in the same step as the phase. -/
theorem consistent_next (now : Milliseconds) (event : Event) {connection : Connection}
    (consistent : connection.Consistent) : (connection.next now event).Consistent := by
  cases event with
  | start => exact consistent_start now consistent
  | activate source => exact consistent_activate now source consistent
  | dataReceived => exact consistent_dataReceived now consistent
  | send message => exact consistent_send message consistent
  | stop => exact consistent_stop consistent
  | subscribe mailbox => exact consistent_subscribe mailbox consistent
  | unsubscribe id => exact consistent_unsubscribe id consistent
  | aliveResponse source => exact consistent
  | timerExpired kind generation => exact consistent_timerExpired kind generation consistent
  | dropReceiver =>
    exact ⟨consistent.entered, consistent.address, consistent.timer, consistent.sending,
      consistent.subscribers, consistent.signal⟩

/-! ## What events leave alone -/

/-- An open connection that is activated without an address takes the given one, and its
general timer starts. -/
theorem activate_of_unregistered (now : Milliseconds) (source : UInt16) {connection : Connection}
    (opened : connection.phase ≠ .closed) (unregistered : connection.phase ≠ .registeredActive) :
    (connection.activate now source).value =
      ({ connection with
          phase := .registeredActive
          sourceAddress := some source
          generation := connection.generation + 1
          timer := some ⟨.general, connection.generation + 1,
            now + connection.timings.general⟩ },
        true) := by
  unfold activate
  cases phase : connection.phase with
  | closed => exact absurd phase opened
  | registeredActive => exact absurd phase unregistered
  | _ => rfl

/-- A connection that is closed or registered is not activated. -/
theorem activate_of_settled (now : Milliseconds) (source : UInt16) {connection : Connection}
    (settled : connection.phase = .closed ∨ connection.phase = .registeredActive) :
    (connection.activate now source).value = (connection, false) := by
  rcases settled with closed | registered
  · simp [activate, closed]
  · simp [activate, registered]

/-- The events that a registry passes on to a connection without arbitrating. -/
def Event.isPassive : Event → Bool
  | .start | .dataReceived | .send _ | .stop | .timerExpired _ _ => true
  | _ => false

/-- A connection that is closed keeps its number. -/
@[simp] theorem id_stop (connection : Connection) : connection.stop.value.id = connection.id := by
  unfold stop
  cases connection.phase <;> rfl

/-- A connection keeps its number. The number is its name in the table and in the subscriptions, and
so no event may touch it. -/
@[simp] theorem id_next (now : Milliseconds) (event : Event) (connection : Connection) :
    (connection.next now event).id = connection.id := by
  cases event with
  | start => simp only [next, apply, start]; cases connection.phase <;> rfl
  | activate source => simp only [next, apply, activate]; cases connection.phase <;> rfl
  | dataReceived => simp only [next, apply, dataReceived]; cases connection.phase <;> rfl
  | send message =>
    simp only [next, apply, Logged.value_bind, Logged.value_pure, send_value]
    split <;> rfl
  | stop => exact id_stop connection
  | subscribe mailbox => simp only [next, apply, subscribe]; cases connection.phase <;> rfl
  | timerExpired kind generation =>
    rcases timerExpired_value kind generation connection with same | stopped
    · exact congrArg id same
    · exact (congrArg id stopped).trans (id_stop connection)
  | _ => rfl

/-- A passive event does not touch the reader of the queue. The reader is the writing task of the
socket, which goes away by an event of its own. -/
theorem receiving_next (now : Milliseconds) {event : Event} (connection : Connection)
    (passive : event.isPassive = true) :
    (connection.next now event).receiving = connection.receiving := by
  have stopped : connection.stop.value.receiving = connection.receiving := by
    unfold stop
    cases connection.phase <;> rfl
  cases event with
  | start => simp only [next, apply, start]; cases connection.phase <;> rfl
  | dataReceived => simp only [next, apply, dataReceived]; cases connection.phase <;> rfl
  | send message =>
    simp only [next, apply, Logged.value_bind, Logged.value_pure, send_value]
    split <;> rfl
  | stop => exact stopped
  | timerExpired kind generation =>
    rcases timerExpired_value kind generation connection with same | closed
    · exact congrArg receiving same
    · exact (congrArg receiving closed).trans stopped
  | _ => cases passive

/-- A connection that a passive event leaves open was open before, and the event has touched
neither its address nor its subscribers. -/
theorem next_of_passive (now : Milliseconds) {event : Event} {connection : Connection}
    (passive : event.isPassive = true) (opened : (connection.next now event).phase ≠ .closed) :
    connection.phase ≠ .closed ∧
      (connection.next now event).sourceAddress = connection.sourceAddress ∧
      (connection.next now event).subscribers = connection.subscribers := by
  cases event with
  | start =>
    simp only [next, apply, start] at opened ⊢
    cases phase : connection.phase <;> simp_all [restartTimer]
  | dataReceived =>
    simp only [next, apply, dataReceived] at opened ⊢
    cases phase : connection.phase <;> simp_all [restartTimer]
  | send message =>
    have value := send_value message connection
    by_cases queued : (connection.sending && connection.receiving) = true
    · rw [if_pos queued] at value
      simp_all [next, apply]
    · rw [if_neg queued] at value
      simp_all [next, apply]
  | stop => exact absurd (phase_stop connection) opened
  | timerExpired kind generation =>
    rcases timerExpired_value kind generation connection with same | stopped
    · have unchanged : connection.next now (.timerExpired kind generation) = connection := same
      rw [unchanged] at opened ⊢
      exact ⟨opened, rfl, rfl⟩
    · have closes : connection.next now (.timerExpired kind generation) = connection.stop.value :=
        stopped
      rw [closes] at opened
      exact absurd (phase_stop connection) opened
  | _ => cases passive

/-- What is closed stays closed. Whatever an event changes, it changes it in an open phase only. -/
theorem next_of_closed (now : Milliseconds) (event : Event) {connection : Connection}
    (closed : connection.phase = .closed) : (connection.next now event).phase = .closed := by
  cases event with
  | start => simp [next, apply, start, closed]
  | activate source => simp [next, apply, activate, closed]
  | dataReceived => simp [next, apply, dataReceived, closed]
  | send message =>
    simp only [next, apply, Logged.value_bind, Logged.value_pure, send_value]
    split <;> exact closed
  | stop => exact phase_stop connection
  | subscribe mailbox => simp [next, apply, subscribe, closed]
  | timerExpired kind generation =>
    rcases timerExpired_value kind generation connection with same | stopped
    · exact (congrArg phase same).trans closed
    · exact (congrArg phase stopped).trans (phase_stop connection)
  | _ => exact closed

end DiagnosticGateway.Connection
