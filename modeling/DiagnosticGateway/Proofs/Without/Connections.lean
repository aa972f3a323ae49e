import DiagnosticGateway.AliveCheck
import DiagnosticGateway.Proofs.Connection.Lookup
import DiagnosticGateway.Proofs.Without.Places

/-!
# Connections without strangers

The number of a connection is its name and nothing else. Whatever happens to a connection happens
to it under a new number as well. So a pool may leave out strange connections and number the
others by their places: what is done to a strange connection is not seen then, and what is done to
another one is done at its place.
-/

namespace DiagnosticGateway

namespace AliveReport

/-- The report about the connection under its new number. -/
def renumbered (strange : ConnectionId → Bool) (report : AliveReport) : AliveReport :=
  { report with connection := place strange report.connection }

end AliveReport

namespace Delivery

def renumbered (strange : ConnectionId → Bool) (delivery : Delivery) : Delivery :=
  { delivery with report := delivery.report.renumbered strange }

end Delivery

namespace Connection

/-- The connection under its new number. -/
def renumbered (strange : ConnectionId → Bool) (connection : Connection) : Connection :=
  { connection with id := place strange connection.id }

variable {strange : ConnectionId → Bool}

/-- Stopping a connection does not depend on the number it goes by. -/
theorem stop_renumbered (connection : Connection) :
    (connection.renumbered strange).stop.value = connection.stop.value.renumbered strange := by
  obtain ⟨id, timings, phase⟩ := connection
  cases phase <;> rfl

/-- The number of a connection has no say in what becomes of it. The cases are those of the event
and of the phase, and each of them carries the number along. -/
theorem next_renumbered (now : Milliseconds) (event : Event) (connection : Connection) :
    (connection.renumbered strange).next now event =
      (connection.next now event).renumbered strange := by
  cases event with
  | start =>
    obtain ⟨id, timings, phase⟩ := connection
    cases phase <;> rfl
  | activate source =>
    obtain ⟨id, timings, phase⟩ := connection
    cases phase <;> rfl
  | dataReceived =>
    obtain ⟨id, timings, phase⟩ := connection
    cases phase <;> rfl
  | send message =>
    obtain ⟨id, timings, phase, address, sending, receiving⟩ := connection
    cases sending <;> cases receiving <;> rfl
  | stop => exact stop_renumbered connection
  | subscribe mailbox =>
    obtain ⟨id, timings, phase⟩ := connection
    cases phase <;> rfl
  | timerExpired kind generation =>
    show ((connection.renumbered strange).timerExpired kind generation).value =
      (connection.timerExpired kind generation).value.renumbered strange
    by_cases current : (connection.isCurrent kind generation && connection.phase != .closed) = true
    · have alsoCurrent : ((connection.renumbered strange).isCurrent kind generation &&
          (connection.renumbered strange).phase != .closed) = true := current
      rw [timerExpired, timerExpired, if_pos current, if_pos alsoCurrent]
      exact stop_renumbered { connection with timer := none }
    · have alsoOther : ¬ ((connection.renumbered strange).isCurrent kind generation &&
          (connection.renumbered strange).phase != .closed) = true := current
      rw [timerExpired, timerExpired, if_neg current, if_neg alsoOther]
      rfl
  | _ => rfl

/-- Nor does activating it: the address and the moment decide. -/
theorem activate_renumbered (now : Milliseconds) (source : UInt16) (connection : Connection) :
    ((connection.renumbered strange).activate now source).value =
      ((connection.activate now source).value.1.renumbered strange,
        (connection.activate now source).value.2) := by
  obtain ⟨id, timings, phase⟩ := connection
  cases phase <;> rfl

/-- A subscription is taken in the list of the connection, whatever its number. -/
theorem subscribe_renumbered (mailbox : MailboxId) (connection : Connection) :
    (connection.renumbered strange).subscribe mailbox =
      ((connection.subscribe mailbox).1.renumbered strange, (connection.subscribe mailbox).2) := by
  obtain ⟨id, timings, phase⟩ := connection
  cases phase <;> rfl

/-- Its reports name the connection by its new number. -/
theorem aliveResponse_renumbered (source : UInt16) (connection : Connection) :
    ((connection.renumbered strange).aliveResponse source).value =
      (connection.aliveResponse source).value.map (Delivery.renumbered strange) := by
  have same : (connection.renumbered strange).subscribers = connection.subscribers := rfl
  unfold aliveResponse
  rw [same]
  cases connection.subscribers with
  | nil => rfl
  | cons first rest => simp [Delivery.renumbered, AliveReport.renumbered, reportOf, renumbered]

end Connection

namespace Pool

/-- The pool without strange connections. -/
def without (strange : ConnectionId → Bool) (pool : Pool) : Pool :=
  ⟨(pool.connections.filter fun connection => !strange connection.id).map
    (Connection.renumbered strange)⟩

variable {strange : ConnectionId → Bool} {id : ConnectionId} {answer : Type}

/-- A connection that is not strange is found under its new number. Numbers in a pool may repeat;
what is found is the first of them, and the places are in the same order. -/
theorem get?_without (known : strange id = false) (pool : Pool) :
    (pool.without strange).get? (place strange id) =
      (pool.get? id).map (Connection.renumbered strange) := by
  obtain ⟨connections⟩ := pool
  induction connections with
  | nil => rfl
  | cons first rest inductionHypothesis =>
    simp only [get?, without] at inductionHypothesis ⊢
    cases stranger : strange first.id with
    | true =>
      have different : first.id ≠ id := by
        rintro rfl
        rw [known] at stranger
        cases stranger
      simpa [stranger, different] using inductionHypothesis
    | false =>
      by_cases here : first.id = id
      · have moved : (first.renumbered strange).id = place strange id :=
          congrArg (place strange) here
        simp [here, known, moved]
      · have apart : place strange first.id ≠ place strange id := fun same =>
          here ((place_inj stranger known).mp same)
        simpa [stranger, here, apart, Connection.renumbered] using inductionHypothesis

/-- Nothing is seen of a change to a strange connection. The connection is left out, whatever has
become of it. -/
theorem without_ask_of_strange (stranger : strange id = true)
    (change : Connection → Logged (Connection × answer))
    (keepsId : ∀ connection, (change connection).value.1.id = connection.id) (pool : Pool) :
    (pool.ask id change).value.1.without strange = pool.without strange := by
  have changed : ∀ connections : List Connection,
      (changeList id change connections).value.1.filter (fun connection => !strange connection.id) =
        connections.filter fun connection => !strange connection.id := by
    intro connections
    induction connections with
    | nil => rfl
    | cons first rest inductionHypothesis =>
      by_cases here : first.id = id
      · simp [changeList, here, keepsId, stranger]
      · simp [changeList, here, List.filter_cons, inductionHypothesis]
  simp only [without, ask, Logged.value_bind, Logged.value_pure, changed]

/-- A change to another connection happens under its new number. The answer that the change gives is
the same too, since it may depend on everything but the number. -/
theorem without_ask_of_known (known : strange id = false)
    (change : Connection → Logged (Connection × answer))
    (keepsId : ∀ connection, (change connection).value.1.id = connection.id)
    (same : ∀ connection, (change (connection.renumbered strange)).value =
      ((change connection).value.1.renumbered strange, (change connection).value.2))
    (pool : Pool) :
    ((pool.without strange).ask (place strange id) change).value =
      ((pool.ask id change).value.1.without strange, (pool.ask id change).value.2) := by
  have changed : ∀ connections : List Connection,
      (changeList (place strange id) change
          ((connections.filter fun connection => !strange connection.id).map
            (Connection.renumbered strange))).value =
        (((changeList id change connections).value.1.filter fun connection =>
            !strange connection.id).map (Connection.renumbered strange),
          (changeList id change connections).value.2) := by
    intro connections
    induction connections with
    | nil => rfl
    | cons first rest inductionHypothesis =>
      cases stranger : strange first.id with
      | true =>
        have different : first.id ≠ id := by
          rintro rfl
          rw [known] at stranger
          cases stranger
        simp [changeList, different, stranger, inductionHypothesis]
      | false =>
        by_cases here : first.id = id
        · have moved : (first.renumbered strange).id = place strange id :=
            congrArg (place strange) here
          simp [changeList, here, known, moved, keepsId, same]
        · have apart : (first.renumbered strange).id ≠ place strange id := fun equal =>
            here ((place_inj stranger known).mp equal)
          simp [changeList, here, stranger, apart, inductionHypothesis]
  simp only [without, ask, Logged.value_bind, Logged.value_pure, changed]

/-- A change to a connection that is left out cannot be seen afterwards. -/
theorem without_change_of_strange (stranger : strange id = true)
    (step : Connection → Logged Connection)
    (keepsId : ∀ connection, (step connection).value.id = connection.id) (pool : Pool) :
    (pool.change id step).value.without strange = pool.without strange :=
  without_ask_of_strange stranger (fun connection => do return (← step connection, ())) keepsId pool

/-- A change to a connection that is kept is the same change to its place, when the step itself does
not look at the number. -/
theorem without_change_of_known (known : strange id = false)
    (step : Connection → Logged Connection)
    (keepsId : ∀ connection, (step connection).value.id = connection.id)
    (same : ∀ connection, (step (connection.renumbered strange)).value =
      (step connection).value.renumbered strange) (pool : Pool) :
    ((pool.without strange).change (place strange id) step).value =
      (pool.change id step).value.without strange := by
  have asked := without_ask_of_known known (fun connection => do return (← step connection, ()))
    keepsId (fun connection => Prod.ext (same connection) rfl) pool
  exact congrArg Prod.fst asked

/-- As `without_change_of_strange`, for a step that has no log. The connection is left out in
both cases. -/
theorem without_update_of_strange (stranger : strange id = true) (step : Connection → Connection)
    (keepsId : ∀ connection, (step connection).id = connection.id) (pool : Pool) :
    (pool.update id step).without strange = pool.without strange := by
  have changed : ∀ connections : List Connection,
      (connections.map fun connection => if connection.id = id then step connection
        else connection).filter (fun connection => !strange connection.id) =
          connections.filter fun connection => !strange connection.id := by
    intro connections
    induction connections with
    | nil => rfl
    | cons first rest inductionHypothesis =>
      by_cases here : first.id = id
      · simp [here, keepsId, stranger, inductionHypothesis]
      · simp [here, List.filter_cons, inductionHypothesis]
  simp only [without, update, changed]

/-- As `without_change_of_known`, for a step that has no log. The step must not depend on the number
that the connection has. -/
theorem without_update_of_known (known : strange id = false) (step : Connection → Connection)
    (keepsId : ∀ connection, (step connection).id = connection.id)
    (same : ∀ connection, step (connection.renumbered strange) =
      (step connection).renumbered strange) (pool : Pool) :
    (pool.without strange).update (place strange id) step =
      (pool.update id step).without strange := by
  have changed : ∀ connections : List Connection,
      ((connections.filter fun connection => !strange connection.id).map
          (Connection.renumbered strange)).map (fun connection =>
            if connection.id = place strange id then step connection else connection) =
        ((connections.map fun connection => if connection.id = id then step connection
          else connection).filter fun connection => !strange connection.id).map
            (Connection.renumbered strange) := by
    intro connections
    induction connections with
    | nil => rfl
    | cons first rest inductionHypothesis =>
      cases stranger : strange first.id with
      | true =>
        have different : first.id ≠ id := by
          rintro rfl
          rw [known] at stranger
          cases stranger
        simpa [different, stranger] using inductionHypothesis
      | false =>
        by_cases here : first.id = id
        · have moved : (first.renumbered strange).id = place strange id :=
            congrArg (place strange) here
          simpa [here, known, moved, keepsId, same] using inductionHypothesis
        · have apart : (first.renumbered strange).id ≠ place strange id := fun equal =>
            here ((place_inj stranger known).mp equal)
          simpa [here, stranger, apart] using inductionHypothesis
  simp only [without, update, changed]

/-- A connection that comes in is left out, or comes in under its place. -/
theorem without_insert (strange : ConnectionId → Bool) (connection : Connection) (pool : Pool) :
    (pool.insert connection).without strange =
      if strange connection.id then pool.without strange
      else (pool.without strange).insert (connection.renumbered strange) := by
  cases stranger : strange connection.id <;> simp [without, insert, stranger]

/-! ## What pools are asked and told -/

/-- A kept connection is registered under the same address, whoever else is there. -/
theorem sourceAddress_without (known : strange id = false) (pool : Pool) :
    (pool.without strange).sourceAddress (place strange id) = pool.sourceAddress id := by
  unfold sourceAddress
  rw [get?_without known]
  cases pool.get? id <;> rfl

/-- Whether a kept connection is registered can be asked under its place. -/
theorem isRegistered_without (known : strange id = false) (pool : Pool) :
    (pool.without strange).isRegistered (place strange id) = pool.isRegistered id := by
  unfold isRegistered
  rw [get?_without known]
  cases pool.get? id <;> rfl

/-- Whether a kept connection is open can be asked under its place. -/
theorem isOpen_without (known : strange id = false) (pool : Pool) :
    (pool.without strange).isOpen (place strange id) = pool.isOpen id := by
  unfold isOpen
  rw [get?_without known]
  cases pool.get? id <;> rfl

/-- Whoever listens to a connection hears of its new number. -/
theorem aliveResponse_without (known : strange id = false) (source : UInt16) (pool : Pool) :
    ((pool.without strange).aliveResponse (place strange id) source).value =
      (pool.aliveResponse id source).value.map (Delivery.renumbered strange) := by
  unfold aliveResponse
  rw [get?_without known]
  cases pool.get? id with
  | none => rfl
  | some connection => exact Connection.aliveResponse_renumbered source connection

/-- Stopping a stranger is not seen without the strangers. -/
theorem without_stop_of_strange (stranger : strange id = true) (pool : Pool) :
    (pool.stop id).value.without strange = pool.without strange :=
  without_change_of_strange stranger Connection.stop Connection.id_stop pool

/-- A kept connection is stopped under its place. -/
theorem without_stop_of_known (known : strange id = false) (pool : Pool) :
    ((pool.without strange).stop (place strange id)).value =
      (pool.stop id).value.without strange :=
  without_change_of_known known Connection.stop Connection.id_stop Connection.stop_renumbered pool

/-- When all connections of a list are closed, the others are closed. The induction is on the list:
a stranger in it is closed unseen, and any other connection is closed under its new number. -/
theorem without_stopAll (strange : ConnectionId → Bool) (ids : List ConnectionId) (pool : Pool) :
    ((pool.without strange).stopAll
        ((ids.filter fun id => !strange id).map (place strange))).value =
      (pool.stopAll ids).value.without strange := by
  induction ids generalizing pool with
  | nil => rfl
  | cons first rest inductionHypothesis =>
    cases stranger : strange first with
    | true =>
      rw [List.filter_cons_of_neg (by simp [stranger])]
      have later := inductionHypothesis (pool.stop first).value
      rwa [without_stop_of_strange stranger] at later
    | false =>
      rw [List.filter_cons_of_pos (by simp [stranger]), List.map_cons]
      have later := inductionHypothesis (pool.stop first).value
      rwa [← without_stop_of_known stranger] at later

/-- A message to a stranger is not seen without the strangers. -/
theorem without_send_of_strange (stranger : strange id = true) (message : Wire.Message)
    (pool : Pool) : (pool.send id message).value.without strange = pool.without strange :=
  without_change_of_strange stranger _ (Connection.id_next 0 (.send message)) pool

/-- A message to a kept connection goes to its place. -/
theorem without_send_of_known (known : strange id = false) (message : Wire.Message) (pool : Pool) :
    ((pool.without strange).send (place strange id) message).value =
      (pool.send id message).value.without strange :=
  without_change_of_known known _ (Connection.id_next 0 (.send message))
    (Connection.next_renumbered 0 (.send message)) pool

/-- What the expiry of a timer makes of a connection. -/
theorem expiry_keeps (connection : Connection) :
    (match connection.timer with
      | some timer => connection.timerExpired timer.kind timer.generation
      | none => return connection : Logged Connection).value.id = connection.id := by
  cases connection.timer with
  | none => rfl
  | some timer => exact Connection.id_next 0 (.timerExpired timer.kind timer.generation) connection

/-- The expiry of a stranger's timer is not seen without the strangers. -/
theorem without_expire_of_strange (stranger : strange id = true) (pool : Pool) :
    (pool.expire id).value.without strange = pool.without strange :=
  without_change_of_strange stranger _ expiry_keeps pool

/-- The timer of a kept connection expires under its place, in the same generation. -/
theorem without_expire_of_known (known : strange id = false) (pool : Pool) :
    ((pool.without strange).expire (place strange id)).value =
      (pool.expire id).value.without strange := by
  refine without_change_of_known known _ expiry_keeps (fun connection => ?_) pool
  have same : (connection.renumbered strange).timer = connection.timer := rfl
  rw [same]
  cases connection.timer with
  | none => rfl
  | some timer =>
    exact Connection.next_renumbered 0 (.timerExpired timer.kind timer.generation) connection

end Pool

end DiagnosticGateway
