import DiagnosticGateway.Proofs.Connection.Probing

/-!
# The time a registration has left

A registered connection has until the deadline of its general timer. Activation sets the
deadline for the first time and inbound data sets it anew. Nothing else that leaves the
connection open moves it: neither messages in either direction, nor being probed, nor a
request for the address that it has already.
-/

namespace DiagnosticGateway

namespace Connection

/-- The connection is registered with an address and has until the deadline. -/
structure RunsUntil (source : UInt16) (timings : Timings) (deadline : Milliseconds)
    (connection : Connection) : Prop where
  registered : connection.phase = .registeredActive
  address : connection.sourceAddress = some source
  timed : connection.timings = timings
  timer : connection.timer = some ⟨.general, connection.generation, deadline⟩

variable {connection : Connection} {source : UInt16} {timings : Timings}
  {deadline now : Milliseconds}

/-- Activation gives a connection its first deadline. -/
theorem runsUntil_activate (opened : connection.phase ≠ .closed)
    (unregistered : connection.phase ≠ .registeredActive) :
    RunsUntil source connection.timings (now + connection.timings.general)
      (connection.activate now source).value.1 := by
  rw [activate_of_unregistered now source opened unregistered]
  exact ⟨rfl, rfl, rfl, rfl⟩

/-- Inbound data gives a connection a new deadline. -/
theorem RunsUntil.dataReceived (runs : RunsUntil source timings deadline connection) :
    RunsUntil source timings (now + timings.general) (connection.dataReceived now) := by
  have restarted : connection.dataReceived now = connection.restartTimer now .general := by
    simp [Connection.dataReceived, runs.registered]
  rw [restarted]
  refine ⟨runs.registered, runs.address, runs.timed, ?_⟩
  simp [restartTimer, Timings.span, runs.timed]

/-- A registered connection is not started again. -/
theorem RunsUntil.start (runs : RunsUntil source timings deadline connection) :
    (connection.start now).value = connection := by
  simp [Connection.start, runs.registered]

/-- A message that is sent does not move the deadline. -/
theorem RunsUntil.send (runs : RunsUntil source timings deadline connection)
    (message : Wire.Message) :
    RunsUntil source timings deadline (connection.send message).value.1 := by
  rw [send_value]
  split
  · exact ⟨runs.registered, runs.address, runs.timed, runs.timer⟩
  · exact runs

/-- Nor does a request for a sign of life: only the answer does. -/
theorem RunsUntil.asked (runs : RunsUntil source timings deadline connection)
    (mailbox : MailboxId) : RunsUntil source timings deadline (connection.asked mailbox) := by
  have opened : connection.phase ≠ .closed := by simp [runs.registered]
  rw [asked_of_open opened]
  exact ⟨runs.registered, runs.address, runs.timed, runs.timer⟩

/-- Nor do several of them. -/
theorem RunsUntil.askedAmong (runs : RunsUntil source timings deadline connection)
    (mailbox : MailboxId) (id : ConnectionId) (targets : List ConnectionId) :
    RunsUntil source timings deadline (connection.askedAmong mailbox id targets) := by
  induction targets generalizing connection with
  | nil => exact runs
  | cons target rest inductionHypothesis =>
    simp only [Connection.askedAmong, List.foldl_cons]
    split
    · exact inductionHypothesis (runs.asked mailbox)
    · exact inductionHypothesis runs

/-- Asking a registered connection queues one request on it. -/
theorem RunsUntil.outbound_asked (runs : RunsUntil source timings deadline connection)
    (consistent : connection.Consistent) (receiving : connection.receiving = true)
    (mailbox : MailboxId) :
    (connection.asked mailbox).outbound = connection.outbound ++ [.aliveCheckRequest] := by
  have opened : connection.phase ≠ .closed := by simp [runs.registered]
  rw [asked_of_open opened]
  simp [consistent.sending.mpr opened, receiving]

end Connection

/-- The end of a check leaves a connection that was heard its time. -/
theorem AliveCheck.runsUntil_left {check : AliveCheck} {reports : List AliveReport}
    {id : ConnectionId} {connection : Connection} {source : UInt16} {timings : Timings}
    {deadline : Milliseconds} (runs : connection.RunsUntil source timings deadline)
    (heard : ¬ (id ∈ check.targets ∧ counting reports id = [])) :
    (check.left reports id connection).RunsUntil source timings deadline := by
  rw [left_of_heard heard]
  exact ⟨runs.registered, runs.address, runs.timed, runs.timer⟩

end DiagnosticGateway
