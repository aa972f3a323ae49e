import DiagnosticGateway.Proofs.Registry.Move

/-!
# What an arbitration does to a connection

A probe that starts asks its targets, a probe that ends closes the silent ones, and a success
registers the connection that asked. Each is a function of the single connection, so what is
found under a number afterwards depends on nothing but what was found there before. No
arbitration removes a connection, opens a closed one, or gives an address to any connection but
the one that asked for it.
-/

namespace DiagnosticGateway.Registry

/-- The connection that a decision leaves behind under a number. -/
def settled (now : Milliseconds) (request : Request) (code : Wire.ActivationCode)
    (id : ConnectionId) (connection : Connection) : Connection :=
  if code = .success ∧ id = request.connection then
    (connection.activate now request.source).value.1
  else connection

variable {registry next : Registry} {now : Milliseconds} {request : Request}
  {occurrence : Occurrence} {code : Wire.ActivationCode} {id : ConnectionId}
  {connection : Connection} {source : UInt16}

/-- What is found under each number after a success has been committed. -/
theorem get?_committed (now : Milliseconds) (request : Request) (id : ConnectionId) (pool : Pool) :
    (committed now request pool).get? id =
      (pool.get? id).map fun connection =>
        if id = request.connection then (connection.activate now request.source).value.1
        else connection :=
  Pool.get?_ask request.connection id (Connection.activate now request.source)
    (Connection.id_next now (.activate request.source)) pool

/-- What is found under each number after a decision. Only a success changes a connection, and only
that of the request. -/
theorem get?_concluded (now : Milliseconds) (request : Request) (code : Wire.ActivationCode)
    (registry : Registry) (id : ConnectionId) :
    (registry.concluded now request code).pool.get? id =
      (registry.pool.get? id).map (settled now request code id) := by
  rw [concluded_value]
  by_cases success : code = .success
  · simp only [if_pos success, get?_committed]
    congr 1
    funext connection
    simp [settled, success]
  · have unsettled : settled now request code id = fun connection => connection := by
      funext connection
      simp [settled, success]
    simp [success, unsettled]

/-- What is found under each number when a probe has ended. -/
theorem get?_probed (check : AliveCheck) (registry : Registry) (id : ConnectionId) :
    (registry.probed check).pool.get? id =
      (registry.pool.get? id).map
        (check.left (registry.mail.reports check.mailbox) id) := by
  have finished := AliveCheck.get?_finish false (registry.mail.reports check.mailbox) check id
    registry.pool
  rw [AliveCheck.finish_value] at finished
  exact finished

/-- What is found under each number when a probe has just been started. -/
theorem get?_probing (now : Milliseconds) (request : Request) (purpose : ProbePurpose)
    (targets : List ConnectionId) (registry : Registry) (id : ConnectionId) :
    (registry.probing now request purpose targets).pool.get? id =
      (registry.pool.get? id).map (Connection.askedAmong request.id id targets) :=
  AliveCheck.get?_askTargets request.id id targets registry.pool

/-! ## What a decision leaves alone -/

/-- Registering a connection leaves its subscribers alone. -/
theorem subscribers_settled :
    (settled now request code id connection).subscribers = connection.subscribers := by
  unfold settled
  split
  · unfold Connection.activate
    cases connection.phase <;> rfl
  · rfl

/-- A decision leaves consistent connections behind. -/
theorem consistent_settled (consistent : connection.Consistent) :
    (settled now request code id connection).Consistent := by
  unfold settled
  split
  · exact Connection.consistent_activate now request.source consistent
  · exact consistent

/-- A closed connection is not registered any more. -/
theorem settled_of_closed (closed : connection.phase = .closed) :
    settled now request code id connection = connection := by
  unfold settled
  rw [Connection.activate_of_settled now request.source (Or.inl closed)]
  exact ite_self _

/-- Whoever holds an address after a decision has held it before, unless it is that of the
request and was granted. -/
theorem sourceAddress_settled
    (held : (settled now request code id connection).sourceAddress = some source) :
    connection.sourceAddress = some source ∨
      code = .success ∧ id = request.connection ∧ source = request.source := by
  by_cases granted : code = .success ∧ id = request.connection
  · simp only [settled, if_pos granted] at held
    by_cases opened : connection.phase = .closed ∨ connection.phase = .registeredActive
    · rw [Connection.activate_of_settled now request.source opened] at held
      exact Or.inl held
    · obtain ⟨notClosed, notRegistered⟩ := not_or.mp opened
      rw [Connection.activate_of_unregistered now request.source notClosed notRegistered] at held
      exact Or.inr ⟨granted.1, granted.2, (Option.some.inj held).symm⟩
  · simp only [settled, if_neg granted] at held
    exact Or.inl held

/-! ## What every occurrence leaves alone -/

/-- A connection that exists goes on existing, and a closed one stays closed. An arbitration may
close it or register it, and a quiet occurrence touches it once at most. -/
theorem found_act (occurrence : Occurrence) (found : registry.pool.get? id = some connection) :
    ∃ later, (registry.act occurrence).pool.get? id = some later ∧
      (connection.phase = .closed → later.phase = .closed) := by
  rcases quiet_or_arbitrates registry occurrence with quiet | ⟨request, -, -, arbitration⟩
  · refine ⟨_, quiet.get?_of_some found, ?_⟩
    intro closed
    cases touches : registry.touch id occurrence.action with
    | none => exact closed
    | some event => exact Connection.next_of_closed _ event closed
  · generalize registry.act occurrence = next at *
    cases arbitration with
    | grants turn unknown course =>
      refine ⟨settled occurrence.moment request .success id connection, ?_, ?_⟩
      · rw [get?_concluded, found]
        rfl
      · intro closed
        rw [settled_of_closed closed, closed]
    | probes turn unknown course =>
      refine ⟨_, by rw [get?_probing, found, Option.map_some], ?_⟩
      intro closed
      rw [Connection.phase_askedAmong, closed]
    | concludes waited ends =>
      refine ⟨_, by rw [get?_concluded, get?_probed, found, Option.map_some, Option.map_some], ?_⟩
      intro closed
      rw [settled_of_closed (AliveCheck.phase_left_of_closed closed),
        AliveCheck.phase_left_of_closed closed]

/-- Whoever holds an address after a quiet occurrence has held it before. A connection that was
opened in it holds none. -/
theorem Quiet.sourceAddress (quiet : registry.Quiet occurrence)
    (consistent : (registry.act occurrence).pool.Consistent)
    (held : (registry.act occurrence).pool.sourceAddress id = some source) :
    registry.pool.sourceAddress id = some source := by
  obtain ⟨later, found, address⟩ := Pool.sourceAddress_eq_some_iff.mp held
  rcases quiet.found found with ⟨before, earlier, rfl⟩ | ⟨timings, rfl⟩
  · have registered := (consistent id _ found).address.mp (by simp [address])
    have stillOpen : (before.touched occurrence.moment
        (registry.touch id occurrence.action)).phase ≠ .closed := by
      rw [registered]
      simp
    have kept := (open_of_touched stillOpen).2.1
    exact Pool.sourceAddress_eq_some_iff.mpr ⟨before, earlier, kept.symm.trans address⟩
  · cases address

/-- Being asked moves no address. -/
theorem sourceAddress_probing (now : Milliseconds) (request : Request) (purpose : ProbePurpose)
    (targets : List ConnectionId) (registry : Registry) (id : ConnectionId) :
    (registry.probing now request purpose targets).pool.sourceAddress id =
      registry.pool.sourceAddress id := by
  unfold Pool.sourceAddress
  rw [get?_probing]
  cases registry.pool.get? id with
  | none => rfl
  | some connection => exact Connection.sourceAddress_askedAmong

/-- Whoever holds an address when a probe has ended has held it before and was not silent. -/
theorem sourceAddress_probed {check : AliveCheck} (consistent : registry.pool.Consistent)
    (held : (registry.probed check).pool.sourceAddress id = some source) :
    registry.pool.sourceAddress id = some source ∧
      ¬ (id ∈ check.targets ∧
        AliveCheck.counting (registry.mail.reports check.mailbox) id = []) := by
  obtain ⟨later, found, address⟩ := Pool.sourceAddress_eq_some_iff.mp held
  rw [get?_probed] at found
  obtain ⟨before, earlier, rfl⟩ := Option.map_eq_some_iff.mp found
  obtain ⟨kept, heard⟩ := AliveCheck.sourceAddress_left (consistent id before earlier) address
  exact ⟨Pool.sourceAddress_eq_some_iff.mpr ⟨before, earlier, kept⟩, heard⟩

/-- Whoever holds an address after a decision has held it before, unless it was granted. -/
theorem sourceAddress_concluded
    (held : (registry.concluded now request code).pool.sourceAddress id = some source) :
    registry.pool.sourceAddress id = some source ∨
      code = .success ∧ id = request.connection ∧ source = request.source := by
  obtain ⟨later, found, address⟩ := Pool.sourceAddress_eq_some_iff.mp held
  rw [get?_concluded] at found
  obtain ⟨before, earlier, rfl⟩ := Option.map_eq_some_iff.mp found
  rcases sourceAddress_settled address with kept | granted
  · exact Or.inl (Pool.sourceAddress_eq_some_iff.mpr ⟨before, earlier, kept⟩)
  · exact Or.inr granted

/-- An arbitration gives no address but the one that its request asks for. The cases are a grant,
the start of a probe, which gives nothing, and its end. -/
theorem Arbitration.sourceAddress (arbitration : Arbitration now request registry next)
    (consistent : registry.pool.Consistent) (held : next.pool.sourceAddress id = some source) :
    registry.pool.sourceAddress id = some source ∨
      id = request.connection ∧ source = request.source := by
  cases arbitration with
  | grants turn unknown course => exact (sourceAddress_concluded held).imp_right And.right
  | probes turn unknown course =>
    rw [sourceAddress_probing] at held
    exact Or.inl held
  | concludes waited ends =>
    rcases sourceAddress_concluded held with kept | granted
    · exact Or.inl (sourceAddress_probed consistent kept).1
    · exact Or.inr granted.2

end DiagnosticGateway.Registry
