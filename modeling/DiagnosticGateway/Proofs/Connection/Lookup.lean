import Mathlib.Data.List.Nodup
import DiagnosticGateway.Connection.Pool
import DiagnosticGateway.Proofs.Connection.LifeCycle

/-!
# Connections found by number

Every operation of a pool is described by what it does to the connection found under each
number. An operation on one number acts on the connection found there and on no other, so a
statement about a pool is a statement about single connections.
-/

namespace DiagnosticGateway.Pool

/-- What is found under a number carries that number. -/
theorem id_of_get? {id : ConnectionId} {pool : Pool} {connection : Connection}
    (found : pool.get? id = some connection) : connection.id = id := by
  simpa using List.find?_some found

/-- A new connection is found under its number unless another was there before. -/
theorem get?_insert (id : ConnectionId) (connection : Connection) (pool : Pool) :
    (pool.insert connection).get? id =
      (pool.get? id).or (if connection.id = id then some connection else none) := by
  by_cases same : connection.id = id <;> simp [get?, insert, List.find?_append, same]

/-- Changing the first connection with a number changes what is found there. The induction is on the
list; a change may not alter the number, or else another connection would be found afterwards. -/
theorem find?_changeList {answer : Type} (id other : ConnectionId)
    (change : Connection → Logged (Connection × answer))
    (keepsId : ∀ connection, (change connection).value.1.id = connection.id)
    (connections : List Connection) :
    (changeList id change connections).value.1.find? (fun connection => connection.id == other) =
      (connections.find? fun connection => connection.id == other).map fun connection =>
        if other = id then (change connection).value.1 else connection := by
  induction connections with
  | nil => rfl
  | cons first rest inductionHypothesis =>
    by_cases here : first.id = id
    · by_cases sought : first.id = other
      · obtain rfl : other = id := sought.symm.trans here
        simp [changeList, here, keepsId]
      · have different : ¬ id = other := fun same => sought (here.trans same)
        have apart : ¬ other = id := fun same => different same.symm
        simp [changeList, here, keepsId, different, apart]
    · by_cases sought : first.id = other
      · have different : ¬ other = id := fun same => here (sought.trans same)
        simp [changeList, sought, different]
      · simp [changeList, here, sought, inductionHypothesis]

/-- The answer of a change is that of the connection found under the number. -/
theorem changeList_answer {answer : Type} (id : ConnectionId)
    (change : Connection → Logged (Connection × answer)) (connections : List Connection) :
    (changeList id change connections).value.2 =
      (connections.find? fun connection => connection.id == id).map fun connection =>
        (change connection).value.2 := by
  induction connections with
  | nil => rfl
  | cons first rest inductionHypothesis =>
    by_cases here : first.id = id
    · simp [changeList, here]
    · simp [changeList, here, inductionHypothesis]

/-- Asking a connection changes it and no other. -/
theorem get?_ask {answer : Type} (id other : ConnectionId)
    (change : Connection → Logged (Connection × answer))
    (keepsId : ∀ connection, (change connection).value.1.id = connection.id) (pool : Pool) :
    (pool.ask id change).value.1.get? other =
      (pool.get? other).map fun connection =>
        if other = id then (change connection).value.1 else connection :=
  find?_changeList id other change keepsId pool.connections

/-- The answer comes from the connection that was asked. -/
theorem ask_answer {answer : Type} (id : ConnectionId)
    (change : Connection → Logged (Connection × answer)) (pool : Pool) :
    (pool.ask id change).value.2 =
      (pool.get? id).map fun connection => (change connection).value.2 :=
  changeList_answer id change pool.connections

/-- A change is seen at the connection it is made to. -/
theorem get?_change (id other : ConnectionId) (step : Connection → Logged Connection)
    (keepsId : ∀ connection, (step connection).value.id = connection.id) (pool : Pool) :
    (pool.change id step).value.get? other =
      (pool.get? other).map fun connection =>
        if other = id then (step connection).value else connection :=
  get?_ask id other (fun connection => do return (← step connection, ())) keepsId pool

/-- An update is seen at the connection it is made to. All connections are looked at, but only those
with the number are changed. -/
theorem get?_update (id other : ConnectionId) (step : Connection → Connection)
    (keepsId : ∀ connection, (step connection).id = connection.id) (pool : Pool) :
    (pool.update id step).get? other =
      (pool.get? other).map fun connection =>
        if other = id then step connection else connection := by
  simp only [get?, update, List.find?_map]
  have sameSearch : ((fun connection => connection.id == other) ∘ fun connection : Connection =>
      if connection.id = id then step connection else connection) =
        fun connection => connection.id == other := by
    funext connection
    simp only [Function.comp_apply]
    split
    · rw [keepsId]
    · rfl
  rw [sameSearch]
  cases found : pool.connections.find? fun connection => connection.id == other with
  | none => rfl
  | some connection =>
    have number : connection.id = other := by simpa using List.find?_some found
    simp [number]

/-- Stopping a connection stops what is found under its number. -/
theorem get?_stop (id other : ConnectionId) (pool : Pool) :
    (pool.stop id).value.get? other =
      (pool.get? other).map fun connection =>
        if other = id then connection.stop.value else connection :=
  get?_change id other Connection.stop Connection.id_stop pool

/-- Stopping several connections stops each of them, however often it is named. The second stop of a
connection finds it closed already. -/
theorem get?_stopAll (other : ConnectionId) (ids : List ConnectionId) (pool : Pool) :
    (pool.stopAll ids).value.get? other =
      (pool.get? other).map fun connection =>
        if other ∈ ids then connection.stop.value else connection := by
  induction ids generalizing pool with
  | nil => simp [stopAll]
  | cons id rest inductionHypothesis =>
    simp only [stopAll, Logged.value_bind, inductionHypothesis, get?_stop, Option.map_map]
    congr 1
    funext connection
    have twice : connection.stop.value.stop.value = connection.stop.value :=
      Connection.stop_of_closed (Connection.phase_stop connection)
    by_cases here : other = id <;> by_cases later : other ∈ rest <;> simp [here, later, twice]

/-- An expiry concerns the connection with the number, and only if its timer is running. The number
of a connection is kept by the expiry, so it is found where it was. -/
theorem get?_expire (id other : ConnectionId) (pool : Pool) :
    (pool.expire id).value.get? other =
      (pool.get? other).map fun connection =>
        if other = id then
          connection.timer.elim connection fun timer =>
            (connection.timerExpired timer.kind timer.generation).value
        else connection := by
  unfold expire
  refine (get?_change id other _ ?_ pool).trans ?_
  · intro connection
    cases timed : connection.timer with
    | none => rfl
    | some timer => exact Connection.id_next 0 (.timerExpired _ _) connection
  · congr 1
    funext connection
    cases timed : connection.timer <;> rfl

/-- A registered address belongs to a connection. -/
theorem sourceAddress_eq_some_iff {id : ConnectionId} {source : UInt16} {pool : Pool} :
    pool.sourceAddress id = some source ↔
      ∃ connection, pool.get? id = some connection ∧ connection.sourceAddress = some source := by
  simp [sourceAddress, Option.bind_eq_some_iff]

/-- A number is open if an open connection is found under it. -/
theorem isOpen_iff {id : ConnectionId} {pool : Pool} :
    pool.isOpen id = true ↔
      ∃ connection, pool.get? id = some connection ∧ connection.phase ≠ .closed := by
  simp [isOpen, Connection.isClosed, Option.any_eq_true]

/-- A number is registered if a registered connection is found under it. -/
theorem isRegistered_iff {id : ConnectionId} {pool : Pool} :
    pool.isRegistered id = true ↔
      ∃ connection, pool.get? id = some connection ∧ connection.phase = .registeredActive := by
  simp [isRegistered, Connection.isRegistered, Option.any_eq_true]

/-- A response is reported once to every subscriber of the connection on which it arrives. Without a
connection or without subscribers there are no reports. -/
theorem aliveResponse_value (id : ConnectionId) (source : UInt16) (pool : Pool) :
    (pool.aliveResponse id source).value =
      (pool.get? id).elim [] fun connection =>
        connection.subscribers.map fun subscriber =>
          ⟨subscriber.mailbox, connection.reportOf source⟩ := by
  unfold aliveResponse
  cases pool.get? id with
  | none => rfl
  | some connection =>
    unfold Connection.aliveResponse
    cases none : connection.subscribers with
    | nil => simp [none]
    | cons first rest => simp [none]

/-- Every connection of the pool is consistent. -/
def Consistent (pool : Pool) : Prop :=
  ∀ id connection, pool.get? id = some connection → connection.Consistent

variable {pool : Pool}

/-- In a consistent pool a number is registered exactly if it holds an address. The phase and the
address go together, so either of them can be asked for. -/
theorem Consistent.isRegistered_iff (consistent : pool.Consistent) (id : ConnectionId) :
    pool.isRegistered id = true ↔ ∃ source, pool.sourceAddress id = some source := by
  rw [Pool.isRegistered_iff]
  constructor
  · rintro ⟨connection, found, registered⟩
    have held : connection.sourceAddress.isSome = true :=
      (consistent id connection found).address.mpr registered
    obtain ⟨source, address⟩ := Option.isSome_iff_exists.mp held
    exact ⟨source, sourceAddress_eq_some_iff.mpr ⟨connection, found, address⟩⟩
  · rintro ⟨source, held⟩
    obtain ⟨connection, found, address⟩ := sourceAddress_eq_some_iff.mp held
    have registered : connection.phase = .registeredActive :=
      (consistent id connection found).address.mp (by simp [address])
    exact ⟨connection, found, registered⟩

/-- Whatever holds an address is open. -/
theorem Consistent.isOpen_of_registered (consistent : pool.Consistent) {id : ConnectionId}
    {source : UInt16} (held : pool.sourceAddress id = some source) : pool.isOpen id = true := by
  obtain ⟨connection, found, registered⟩ :=
    Pool.isRegistered_iff.mp ((consistent.isRegistered_iff id).mpr ⟨source, held⟩)
  exact isOpen_iff.mpr ⟨connection, found, by simp [registered]⟩

/-! ## The numbers in use -/

/-- The numbers of the connections, in the order of their creation. -/
def numbers (pool : Pool) : List ConnectionId :=
  pool.connections.map Connection.id

/-- A connection that comes in is the last one of its pool. -/
theorem numbers_insert (connection : Connection) (pool : Pool) :
    (pool.insert connection).numbers = pool.numbers ++ [connection.id] := by
  simp [numbers, insert]

/-- Asking a connection changes no number. The change is found by number, and it does not
touch the number. -/
theorem numbers_ask {answer : Type} (id : ConnectionId)
    (change : Connection → Logged (Connection × answer))
    (keepsId : ∀ connection, (change connection).value.1.id = connection.id) (pool : Pool) :
    (pool.ask id change).value.1.numbers = pool.numbers := by
  have inList : ∀ connections : List Connection,
      (changeList id change connections).value.1.map Connection.id =
        connections.map Connection.id := by
    intro connections
    induction connections with
    | nil => rfl
    | cons first rest inductionHypothesis =>
      by_cases here : first.id = id
      · simp [changeList, here, keepsId]
      · simp [changeList, here, inductionHypothesis]
  exact inList pool.connections

/-- A change leaves the connections in their places. -/
theorem numbers_change (id : ConnectionId) (step : Connection → Logged Connection)
    (keepsId : ∀ connection, (step connection).value.id = connection.id) (pool : Pool) :
    (pool.change id step).value.numbers = pool.numbers :=
  numbers_ask id (fun connection => do return (← step connection, ())) keepsId pool

/-- An update leaves the connections in their places. -/
theorem numbers_update (id : ConnectionId) (step : Connection → Connection)
    (keepsId : ∀ connection, (step connection).id = connection.id) (pool : Pool) :
    (pool.update id step).numbers = pool.numbers := by
  simp only [numbers, update, List.map_map]
  apply List.map_congr_left
  intro connection _
  simp only [Function.comp_apply]
  split
  · exact keepsId connection
  · rfl

/-- Closing connections does not remove them. -/
theorem numbers_stopAll (ids : List ConnectionId) (pool : Pool) :
    (pool.stopAll ids).value.numbers = pool.numbers := by
  induction ids generalizing pool with
  | nil => rfl
  | cons id rest inductionHypothesis =>
    simp only [stopAll, Logged.value_bind, inductionHypothesis]
    exact numbers_change id Connection.stop Connection.id_stop pool

/-- A timer that expires does not remove its connection. -/
theorem numbers_expire (id : ConnectionId) (pool : Pool) :
    (pool.expire id).value.numbers = pool.numbers := by
  unfold expire
  refine numbers_change id _ ?_ pool
  intro connection
  cases timed : connection.timer with
  | none => rfl
  | some timer => exact Connection.id_next 0 (.timerExpired _ _) connection

/-- As long as no number is used twice, a timer that has come is that of the connection found
under its number. -/
theorem due_of_expired {id : ConnectionId} {now : Milliseconds} (distinct : pool.numbers.Nodup)
    (expired : id ∈ pool.expired now) :
    ∃ connection timer, pool.get? id = some connection ∧ connection.timer = some timer ∧
      timer.deadline ≤ now := by
  obtain ⟨connection, due, rfl⟩ := List.mem_map.mp expired
  obtain ⟨member, timed⟩ := List.mem_filter.mp due
  obtain ⟨timer, running, come⟩ := (Option.any_eq_true ..).mp timed
  have isFound : (pool.get? connection.id).isSome = true :=
    List.find?_isSome.mpr ⟨connection, member, beq_self_eq_true connection.id⟩
  obtain ⟨found, search⟩ := Option.isSome_iff_exists.mp isFound
  obtain rfl : found = connection := List.inj_on_of_nodup_map distinct
    (List.mem_of_find?_eq_some search) member (id_of_get? search)
  exact ⟨found, timer, search, running, by simpa using come⟩

end DiagnosticGateway.Pool
