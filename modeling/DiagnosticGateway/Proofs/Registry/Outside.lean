import DiagnosticGateway.Proofs.Connection.Probing
import DiagnosticGateway.Proofs.Registry.History

/-!
# Actions from outside the arbitration

Events and expiring timers act on a registry without arbitrating. They pass at most one event
on to each connection, and only events that give no connection an address or a subscriber.
They leave the arbitration lock alone. A new request is put behind the others and waits to be
looked at, a response is reported to whoever listens, and the table changes by additions,
removals and the final stop only.
-/

namespace DiagnosticGateway

/-- A connection after an event that may be missing. -/
def Connection.touched (now : Milliseconds) (event : Option Event) (connection : Connection) :
    Connection :=
  match event with
  | some event => connection.next now event
  | none => connection

namespace Registry

/-- Every action except the step of a request. -/
def Action.IsOutside : Action → Prop
  | .task (.request _) => False
  | _ => True

/-- The event that an action from outside passes on to the connection with a number. -/
def touch (id : ConnectionId) (registry : Registry) : Action → Option Connection.Event
  | .event (.start connection) => if id = connection then some .start else none
  | .event (.dataReceived connection) => if id = connection then some .dataReceived else none
  | .event (.send connection message) => if id = connection then some (.send message) else none
  | .event (.stop connection) => if id = connection then some .stop else none
  | .event .stopAll => if id ∈ registry.table then some .stop else none
  | .task (.timer connection) =>
    if id = connection then
      (registry.pool.get? id).bind fun found =>
        found.timer.map fun timer => .timerExpired timer.kind timer.generation
    else none
  | _ => none

/-- The connection that an action opens under a number. -/
def opened (id : ConnectionId) (registry : Registry) : Action → Option Connection
  | .event (.openConnection timings) =>
    if registry.nextConnection = id then some (.new id timings) else none
  | _ => none

/-- The request that an action makes. -/
def made (registry : Registry) : Action → List Request
  | .event (.request connection source) => [⟨registry.requests.length, connection, source, .asked⟩]
  | _ => []

/-- The reports that an action delivers. -/
def reported (registry : Registry) : Action → Mail
  | .event (.aliveResponse connection source) =>
    (registry.pool.aliveResponse connection source).value
  | _ => []

variable {registry : Registry} {occurrence : Occurrence} {id : ConnectionId}

/-- Nothing that comes from outside registers a connection by itself. Even the timer only closes; an
activation is what the holder of the lock does with a connection. -/
theorem touch_isPassive {event : Connection.Event}
    (touches : registry.touch id occurrence.action = some event) : event.isPassive = true := by
  unfold touch at touches
  split at touches
  case h_6 =>
    split at touches
    · obtain ⟨found, -, timed⟩ := Option.bind_eq_some_iff.mp touches
      obtain ⟨timer, -, rfl⟩ := Option.map_eq_some_iff.mp timed
      rfl
    · cases touches
  case h_7 => cases touches
  all_goals
    split at touches
    · cases touches
      rfl
    · cases touches

/-- An update of one connection is an event for that connection. -/
theorem map_touched_ite (now : Milliseconds) (event : Connection.Event) (connection : ConnectionId)
    (found : Option Connection) :
    (found.map fun current => if id = connection then current.next now event else current) =
      found.map (Connection.touched now (if id = connection then some event else none)) := by
  by_cases here : id = connection
  · simp only [if_pos here]
    rfl
  · simp only [if_neg here]
    rfl

/-- What an action from outside leaves behind under each number. There is one case for each
kind of action. A connection that is there is touched at most once, and one that is not there
may be opened. -/
theorem get?_outside (outside : occurrence.action.IsOutside) :
    (registry.act occurrence).pool.get? id =
      ((registry.pool.get? id).map
        (Connection.touched occurrence.moment (registry.touch id occurrence.action))).or
          (registry.opened id occurrence.action) := by
  obtain ⟨now, action⟩ := occurrence
  have same : registry.pool.get? id =
      ((registry.pool.get? id).map (Connection.touched now none)).or none := by
    cases registry.pool.get? id <;> rfl
  cases action with
  | event event =>
    cases event with
    | openConnection timings =>
      have inserted := Pool.get?_insert id (.new registry.nextConnection timings) registry.pool
      have matched : (if (Connection.new registry.nextConnection timings).id = id then
          some (Connection.new registry.nextConnection timings) else none) =
            registry.opened id (.event (.openConnection timings)) := by
        by_cases here : registry.nextConnection = id <;> simp [opened, Connection.new, here]
      rw [matched] at inserted
      refine inserted.trans ?_
      cases registry.pool.get? id <;> rfl
    | add connection => exact same
    | request connection source => exact same
    | aliveResponse connection source => exact same
    | remove connection =>
      have unchanged : (registry.act ⟨now, .event (.remove connection)⟩).pool = registry.pool := by
        simp only [act, apply, remove]
        split <;> rfl
      rw [unchanged]
      exact same
    | start connection =>
      refine Eq.trans ?_ Option.or_none.symm
      exact (Pool.get?_change connection id _ (Connection.id_next now .start) registry.pool).trans
        (map_touched_ite now .start connection _)
    | dataReceived connection =>
      refine Eq.trans ?_ Option.or_none.symm
      exact (Pool.get?_update connection id _ (Connection.id_next now .dataReceived)
        registry.pool).trans (map_touched_ite now .dataReceived connection _)
    | send connection message =>
      refine Eq.trans ?_ Option.or_none.symm
      exact (Pool.get?_change connection id _ (Connection.id_next now (.send message))
        registry.pool).trans (map_touched_ite now (.send message) connection _)
    | stop connection =>
      refine Eq.trans ?_ Option.or_none.symm
      exact (Pool.get?_stop connection id registry.pool).trans
        (map_touched_ite now .stop connection _)
    | stopAll =>
      refine Eq.trans ?_ Option.or_none.symm
      refine (Pool.get?_stopAll id registry.table registry.pool).trans ?_
      by_cases listed : id ∈ registry.table <;> simp only [touch, listed, if_true, if_false] <;> rfl
  | task task =>
    cases task with
    | request number => exact outside.elim
    | timer connection =>
      refine Eq.trans ?_ Option.or_none.symm
      refine (Pool.get?_expire connection id registry.pool).trans ?_
      cases found : registry.pool.get? id with
      | none => rfl
      | some current =>
        by_cases here : id = connection
        · cases timed : current.timer with
          | none => simp [touch, here ▸ found, here, timed, Connection.touched]
          | some timer =>
            simp [touch, here ▸ found, here, timed, Connection.touched, Connection.next,
              Connection.apply]
        · simp [touch, here, Connection.touched]

/-- Actions from outside leave the lock, its line and the limit alone. The stop of the registry
closes connections and leaves whoever waits for the lock in line. -/
theorem lock_outside (outside : occurrence.action.IsOutside) :
    (registry.act occurrence).lockHolder = registry.lockHolder ∧
      (registry.act occurrence).lockLine = registry.lockLine ∧
      (registry.act occurrence).limit = registry.limit := by
  obtain ⟨now, action⟩ := occurrence
  cases action with
  | event event =>
    cases event with
    | remove connection =>
      simp only [act, apply, remove]
      split <;> exact ⟨rfl, rfl, rfl⟩
    | _ => exact ⟨rfl, rfl, rfl⟩
  | task task =>
    cases task with
    | request number => exact outside.elim
    | timer connection => exact ⟨rfl, rfl, rfl⟩

/-- Actions from outside only add requests. The one that is added is the request that the action
makes, with the next number. -/
theorem requests_outside (outside : occurrence.action.IsOutside) :
    (registry.act occurrence).requests = registry.requests ++ registry.made occurrence.action := by
  obtain ⟨now, action⟩ := occurrence
  cases action with
  | event event =>
    cases event with
    | request connection source => rfl
    | remove connection =>
      simp only [act, apply, remove, made, List.append_nil]
      split <;> rfl
    | _ => exact (List.append_nil _).symm
  | task task =>
    cases task with
    | request number => exact outside.elim
    | timer connection => exact (List.append_nil _).symm

/-- Actions from outside only add mail. What is added is the report of a sign of life, once for each
listener of the connection. -/
theorem mail_outside (outside : occurrence.action.IsOutside) :
    (registry.act occurrence).mail = registry.mail ++ registry.reported occurrence.action := by
  obtain ⟨now, action⟩ := occurrence
  cases action with
  | event event =>
    cases event with
    | aliveResponse connection source => rfl
    | remove connection =>
      simp only [act, apply, remove, reported, List.append_nil]
      split <;> rfl
    | _ => exact (List.append_nil _).symm
  | task task =>
    cases task with
    | request number => exact outside.elim
    | timer connection => exact (List.append_nil _).symm

/-- A number is inserted once, at its place. The induction is on the table. A number that is there
already is found before its place is passed. -/
theorem mem_insertAscending {other : ConnectionId} {table : List ConnectionId} :
    other ∈ insertAscending id table ↔ other = id ∨ other ∈ table := by
  induction table with
  | nil => simp [insertAscending]
  | cons first rest inductionHypothesis =>
    unfold insertAscending
    split
    · simp
    · split
      · simp_all
      · simp only [List.mem_cons, inductionHypothesis]
        tauto

/-- A table in ascending order stays in that order when a number is inserted. A number that is there
already is not inserted a second time, so the order is strict. -/
theorem ascending_insertAscending {table : List ConnectionId} (ascending : table.Pairwise (· < ·)) :
    (insertAscending id table).Pairwise (· < ·) := by
  induction table with
  | nil => simp [insertAscending]
  | cons first rest inductionHypothesis =>
    obtain ⟨below, restAscending⟩ := List.pairwise_cons.mp ascending
    unfold insertAscending
    split
    · rename_i before
      refine List.pairwise_cons.mpr ⟨?_, ascending⟩
      intro other member
      rcases List.mem_cons.mp member with rfl | later
      · exact before
      · exact Nat.lt_trans before (below other later)
    · rename_i notBefore
      split
      · exact ascending
      · rename_i different
        refine List.pairwise_cons.mpr ⟨?_, inductionHypothesis restAscending⟩
        intro other member
        rcases mem_insertAscending.mp member with rfl | later
        · exact Nat.lt_of_le_of_ne (Nat.le_of_not_lt notBefore) (Ne.symm different)
        · exact below other later

/-- The table after an action from outside. An addition inserts, a removal takes out, and the stop
empties it; no other action looks at it. -/
theorem mem_table_outside (outside : occurrence.action.IsOutside) :
    id ∈ (registry.act occurrence).table ↔
      occurrence.action = .event (.add id) ∨
        id ∈ registry.table ∧ occurrence.action ≠ .event (.remove id) ∧
          occurrence.action ≠ .event .stopAll := by
  obtain ⟨now, action⟩ := occurrence
  cases action with
  | event event =>
    cases event with
    | add connection =>
      have inserted : (registry.act ⟨now, .event (.add connection)⟩).table =
          insertAscending connection registry.table := rfl
      rw [inserted, mem_insertAscending]
      simp [eq_comm (a := connection)]
    | remove connection =>
      have filtered : (registry.act ⟨now, .event (.remove connection)⟩).table =
          registry.table.filter fun other => other != connection := by
        simp only [act, apply, remove]
        split
        · rfl
        · rename_i missing
          refine (List.filter_eq_self.mpr ?_).symm
          intro other member
          have different : other ≠ connection := by
            rintro rfl
            exact missing (List.contains_iff_mem.mpr member)
          simpa using different
      rw [filtered, List.mem_filter]
      have kept : (id != connection) = true ↔ connection ≠ id := by
        simpa using ne_comm
      simp [kept]
    | stopAll =>
      have emptied : (registry.act ⟨now, .event .stopAll⟩).table = [] := rfl
      simp [emptied]
    | _ =>
      show id ∈ registry.table ↔ _
      simp
  | task task =>
    cases task with
    | request number => exact outside.elim
    | timer connection =>
      show id ∈ registry.table ↔ _
      simp

/-- The table stays in order. So the table can be read as a set, whatever the order in which the
connections came. -/
theorem ascending_outside (outside : occurrence.action.IsOutside)
    (ascending : registry.table.Pairwise (· < ·)) :
    (registry.act occurrence).table.Pairwise (· < ·) := by
  obtain ⟨now, action⟩ := occurrence
  cases action with
  | event event =>
    cases event with
    | add connection => exact ascending_insertAscending ascending
    | remove connection =>
      simp only [act, apply, remove]
      split
      · exact ascending.filter _
      · exact ascending
    | stopAll => exact List.Pairwise.nil
    | _ => exact ascending
  | task task =>
    cases task with
    | request number => exact outside.elim
    | timer connection => exact ascending

/-! ## Quiet occurrences -/

/-- Nothing is arbitrated: each connection is touched at most once from outside, the table
changes by additions, removals and the final stop only, and mail is only added. -/
structure Quiet (registry : Registry) (occurrence : Occurrence) : Prop where
  pool : ∀ id, (registry.act occurrence).pool.get? id =
    ((registry.pool.get? id).map
      (Connection.touched occurrence.moment (registry.touch id occurrence.action))).or
        (registry.opened id occurrence.action)
  table : ∀ id, id ∈ (registry.act occurrence).table ↔
    occurrence.action = .event (.add id) ∨
      id ∈ registry.table ∧ occurrence.action ≠ .event (.remove id) ∧
        occurrence.action ≠ .event .stopAll
  mail : (registry.act occurrence).mail = registry.mail ++ registry.reported occurrence.action

/-- Actions from outside are quiet. -/
theorem quiet_of_outside (outside : occurrence.action.IsOutside) : registry.Quiet occurrence :=
  ⟨fun _ => get?_outside outside, fun _ => mem_table_outside outside, mail_outside outside⟩

/-- The step of a request is quiet if it leaves the connections, the table and the mail alone. It
may change its own stage, the lock and the line. -/
theorem quiet_of_same {number : RequestId} (step : occurrence.action = .task (.request number))
    (pool : (registry.act occurrence).pool = registry.pool)
    (table : (registry.act occurrence).table = registry.table)
    (mail : (registry.act occurrence).mail = registry.mail) : registry.Quiet occurrence where
  pool id := by
    rw [pool, step]
    cases registry.pool.get? id <;> rfl
  table id := by
    rw [table, step]
    simp
  mail := by
    rw [mail, step]
    exact (List.append_nil _).symm

/-- What was there before a quiet occurrence is there afterwards, touched at most once. -/
theorem Quiet.get?_of_some (quiet : registry.Quiet occurrence) {before : Connection}
    (found : registry.pool.get? id = some before) :
    (registry.act occurrence).pool.get? id =
      some (before.touched occurrence.moment (registry.touch id occurrence.action)) := by
  rw [quiet.pool, found]
  rfl

/-- What is there after a quiet occurrence was there before, or has just been opened. In the first
case it was touched by the occurrence, if at all; in the second it is as new. -/
theorem Quiet.found (quiet : registry.Quiet occurrence) {later : Connection}
    (found : (registry.act occurrence).pool.get? id = some later) :
    (∃ before, registry.pool.get? id = some before ∧
        later = before.touched occurrence.moment (registry.touch id occurrence.action)) ∨
      ∃ timings, later = .new id timings := by
  rw [quiet.pool] at found
  cases earlier : registry.pool.get? id with
  | some before =>
    rw [earlier] at found
    exact Or.inl ⟨before, rfl, (Option.some.inj found).symm⟩
  | none =>
    rw [earlier] at found
    have new : registry.opened id occurrence.action = some later := found
    unfold opened at new
    split at new
    · split at new
      · exact Or.inr ⟨_, (Option.some.inj new).symm⟩
      · cases new
    · cases new

/-- A connection that is open after it was touched was open before, with the same address and
the same subscribers. -/
theorem open_of_touched {before : Connection}
    (opened : (before.touched occurrence.moment (registry.touch id occurrence.action)).phase ≠
      .closed) :
    before.phase ≠ .closed ∧
      (before.touched occurrence.moment (registry.touch id occurrence.action)).sourceAddress =
        before.sourceAddress ∧
      (before.touched occurrence.moment (registry.touch id occurrence.action)).subscribers =
        before.subscribers := by
  cases touches : registry.touch id occurrence.action with
  | none =>
    rw [touches] at opened
    exact ⟨opened, rfl, rfl⟩
  | some event =>
    rw [touches] at opened
    exact Connection.next_of_passive _ (touch_isPassive touches) opened

end Registry

end DiagnosticGateway
