import DiagnosticGateway.Proofs.AliveCheck.Asking
import DiagnosticGateway.Proofs.Registry.Upkeep

/-!
# What an occurrence leaves of a connection

Whatever happens to a registry, a connection is not opened again, keeps its reader and keeps what
is queued on it. New messages come behind the old ones: those that were sent to it, and the
requests of alive checks.

Registries that are served by a gateway are in better order than others. Every open connection is
in the table and is read, because a connection is added when it is opened and leaves when it is
closed.
-/

namespace DiagnosticGateway

namespace Connection

/-- A connection comes after another one without having been opened again. Its queue has grown by
messages of some kind. -/
structure Succeeds (kind : Wire.Message → Prop) (later before : Connection) : Prop where
  opened : later.phase ≠ .closed → before.phase ≠ .closed
  receiving : later.receiving = before.receiving
  queued : ∃ more, later.outbound = before.outbound ++ more ∧ ∀ message ∈ more, kind message

variable {kind : Wire.Message → Prop} {first second third connection : Connection}

/-- A connection succeeds itself. -/
theorem succeeds_self : connection.Succeeds kind connection :=
  ⟨fun opened => opened, rfl, [], by simp, by simp⟩

/-- A connection with the same queue has grown by nothing. -/
theorem succeeds_of_same (opened : second.phase ≠ .closed → first.phase ≠ .closed)
    (receiving : second.receiving = first.receiving) (outbound : second.outbound = first.outbound) :
    second.Succeeds kind first :=
  ⟨opened, receiving, [], by simp [outbound], by simp⟩

/-- What succeeds a successor succeeds: the messages that came into the queue second stand behind
those that came first. -/
theorem Succeeds.trans (later : third.Succeeds kind second) (earlier : second.Succeeds kind first) :
    third.Succeeds kind first := by
  obtain ⟨more, grown, ofKind⟩ := earlier.queued
  obtain ⟨again, grownAgain, ofKindAgain⟩ := later.queued
  refine ⟨fun opened => earlier.opened (later.opened opened),
    later.receiving.trans earlier.receiving, more ++ again, ?_, ?_⟩
  · rw [grownAgain, grown, List.append_assoc]
  · intro message member
    exact (List.mem_append.mp member).elim (ofKind message) (ofKindAgain message)

/-- Closing leaves the queue to its reader. -/
theorem succeeds_stop : connection.stop.value.Succeeds kind connection := by
  by_cases closed : connection.phase = .closed
  · rw [stop_of_closed closed]
    exact succeeds_self
  · rw [stop_of_open closed]
    exact succeeds_of_same (fun _ => closed) rfl rfl

/-- An event from outside queues nothing but the message that it sends. The events that are passive
do not activate, and of these only the sending adds to the queue. -/
theorem succeeds_next (now : Milliseconds) {event : Event} (passive : event.isPassive = true)
    (sends : ∀ message, event = .send message → kind message) :
    (connection.next now event).Succeeds kind connection where
  opened opened closed := opened (next_of_closed now event closed)
  receiving := receiving_next now connection passive
  queued := by
    cases event with
    | start =>
      refine ⟨[], ?_, by simp⟩
      unfold next apply start
      cases connection.phase <;> exact (List.append_nil _).symm
    | dataReceived =>
      refine ⟨[], ?_, by simp⟩
      unfold next apply dataReceived
      cases connection.phase <;> exact (List.append_nil _).symm
    | send message =>
      have value : connection.next now (.send message) = (connection.send message).value.1 := rfl
      rw [value, send_value]
      split
      · exact ⟨[message], rfl, by simpa using sends message rfl⟩
      · exact ⟨[], by simp, by simp⟩
    | stop => exact succeeds_stop.queued
    | timerExpired timer generation =>
      rcases timerExpired_value timer generation connection with same | stopped
      · exact ⟨[], (congrArg outbound same).trans (List.append_nil _).symm, by simp⟩
      · have stop : connection.stop.value.Succeeds kind connection := succeeds_stop
        rw [← stopped] at stop
        exact stop.queued
    | _ => cases passive

/-- Asking a connection queues requests for a sign of life. A connection that is closed or not named
gets none. -/
theorem succeeds_askedAmong (consistent : connection.Consistent) (mailbox : MailboxId)
    (id : ConnectionId) (targets : List ConnectionId) (asks : kind .aliveCheckRequest) :
    (connection.askedAmong mailbox id targets).Succeeds kind connection where
  opened opened := by rwa [phase_askedAmong] at opened
  receiving := receiving_askedAmong
  queued := by
    refine ⟨_, outbound_askedAmong consistent, ?_⟩
    intro message member
    split at member
    · obtain rfl := List.eq_of_mem_replicate member
      exact asks
    · exact absurd member List.not_mem_nil

/-- The end of a check queues nothing. -/
theorem succeeds_left (check : AliveCheck) (reports : List AliveReport) (id : ConnectionId) :
    (check.left reports id connection).Succeeds kind connection := by
  by_cases silent : id ∈ check.targets ∧ AliveCheck.counting reports id = []
  · simp only [AliveCheck.left, if_pos silent]
    exact succeeds_stop.trans (succeeds_of_same (fun opened => opened) rfl rfl)
  · rw [AliveCheck.left_of_heard silent]
    exact succeeds_of_same (fun opened => opened) rfl rfl

/-- Registration queues nothing and opens no connection. -/
theorem succeeds_activate (now : Milliseconds) (source : UInt16) :
    (connection.activate now source).value.1.Succeeds kind connection := by
  by_cases settled : connection.phase = .closed ∨ connection.phase = .registeredActive
  · rw [activate_of_settled now source settled]
    exact succeeds_self
  · obtain ⟨opened, unregistered⟩ := not_or.mp settled
    rw [activate_of_unregistered now source opened unregistered]
    exact succeeds_of_same (fun _ => opened) rfl rfl

end Connection

namespace Registry

variable {registry : Registry} {occurrence : Occurrence} {id : ConnectionId}
  {connection later : Connection}

/-- The messages that an occurrence can put into the queue of a connection. -/
def Queues (id : ConnectionId) (occurrence : Occurrence) (message : Wire.Message) : Prop :=
  message = .aliveCheckRequest ∨ occurrence.action = .event (.send id message)

/-- A connection that an occurrence touches succeeds the one it was, its queue having grown by what
this occurrence queues. -/
theorem succeeds_touched :
    (connection.touched occurrence.moment (registry.touch id occurrence.action)).Succeeds
      (Queues id occurrence) connection := by
  cases touches : registry.touch id occurrence.action with
  | none => exact Connection.succeeds_self
  | some event =>
    refine Connection.succeeds_next _ (touch_isPassive touches) ?_
    rintro message rfl
    refine Or.inr ?_
    unfold touch at touches
    split at touches
    case h_3 other sent action =>
      split at touches
      · rename_i here
        rw [action, here]
        exact congrArg (fun sent => Action.event (.send other sent))
          (Connection.Event.send.inj (Option.some.inj touches))
      · cases touches
    case h_6 =>
      split at touches
      · obtain ⟨expiring, -, timed⟩ := Option.bind_eq_some_iff.mp touches
        obtain ⟨timer, -, same⟩ := Option.map_eq_some_iff.mp timed
        cases same
      · cases touches
    case h_7 => cases touches
    all_goals
      split at touches
      · cases touches
      · cases touches

/-- A connection that was decided about succeeds the one it was, and nothing was queued on it. -/
theorem succeeds_settled {kind : Wire.Message → Prop} (now : Milliseconds) (request : Request)
    (code : Wire.ActivationCode) :
    (settled now request code id connection).Succeeds kind connection := by
  unfold settled
  split
  · exact Connection.succeeds_activate now request.source
  · exact Connection.succeeds_self

/-- What is found after an occurrence succeeds what was found before, unless it has just been
opened. -/
theorem succeeds_act (consistent : registry.pool.Consistent)
    (found : (registry.act occurrence).pool.get? id = some later) :
    (∃ before, registry.pool.get? id = some before ∧ later.Succeeds (Queues id occurrence) before) ∨
      ∃ timings, occurrence.action = .event (.openConnection timings) ∧
        id = registry.nextConnection ∧ later = .new id timings := by
  rcases quiet_or_arbitrates registry occurrence with quiet | ⟨request, -, -, arbitration⟩
  · rw [quiet.pool] at found
    cases earlier : registry.pool.get? id with
    | some before =>
      rw [earlier] at found
      obtain rfl := Option.some.inj found
      exact Or.inl ⟨before, rfl, succeeds_touched⟩
    | none =>
      rw [earlier] at found
      have new : registry.opened id occurrence.action = some later := found
      unfold opened at new
      split at new
      · rename_i timings opens
        split at new
        · rename_i next
          exact Or.inr ⟨timings, opens, next.symm, (Option.some.inj new).symm⟩
        · cases new
      · cases new
  · refine Or.inl ?_
    generalize registry.act occurrence = next at *
    cases arbitration with
    | grants turn unknown course =>
      rw [get?_concluded] at found
      obtain ⟨before, earlier, rfl⟩ := Option.map_eq_some_iff.mp found
      exact ⟨before, earlier, succeeds_settled ..⟩
    | probes turn unknown course =>
      rw [get?_probing] at found
      obtain ⟨before, earlier, rfl⟩ := Option.map_eq_some_iff.mp found
      exact ⟨before, earlier, Connection.succeeds_askedAmong (consistent id before earlier) _ _ _
        (Or.inl rfl)⟩
    | concludes waited ends =>
      rw [get?_concluded, get?_probed, Option.map_map] at found
      obtain ⟨before, earlier, rfl⟩ := Option.map_eq_some_iff.mp found
      exact ⟨before, earlier, (succeeds_settled ..).trans (Connection.succeeds_left ..)⟩

/-! ## Registries that are served -/

/-- The registry of a gateway that adds every connection which it opens, and takes away only what
is closed: an open connection is in the table, and somebody reads its queue. -/
structure Served (registry : Registry) : Prop where
  sound : registry.Sound
  numbered : registry.Numbered
  listed : ∀ {id connection}, registry.pool.get? id = some connection →
    connection.phase ≠ .closed → id ∈ registry.table
  attended : ∀ {id connection}, registry.pool.get? id = some connection →
    connection.phase ≠ .closed → connection.receiving = true

/-- A new registry serves nobody. -/
theorem served_new (limit : Nat) : (new limit).Served where
  sound := sound_new limit
  numbered := ⟨List.nodup_nil, fun _ member => absurd member List.not_mem_nil⟩
  listed found := by cases found
  attended found := by cases found

/-- What is open in a table stays there unless it is removed. -/
theorem mem_table_act (listed : id ∈ registry.table)
    (kept : occurrence.action ≠ .event (.remove id)) (running : occurrence.action ≠ .event .stopAll) :
    id ∈ (registry.act occurrence).table := by
  rcases act_cases registry occurrence with outside | ⟨number, -, ⟨-, same⟩ | ⟨request, -, move⟩⟩
  · exact (mem_table_outside outside).mpr (Or.inr ⟨listed, kept, running⟩)
  · rwa [same]
  · rwa [move.frame.1]

/-- Everything but the opening of a connection and a removal keeps a registry served. Each
connection succeeds the one it was, so it is open and listed as before, and the numbers in use have
not grown. -/
theorem Served.act (served : registry.Served)
    (opens : ∀ timings, occurrence.action ≠ .event (.openConnection timings))
    (removes : ∀ id, occurrence.action ≠ .event (.remove id)) :
    (registry.act occurrence).Served := by
  have earlier : ∀ {id later}, (registry.act occurrence).pool.get? id = some later →
      ∃ before, registry.pool.get? id = some before ∧
        later.Succeeds (Queues id occurrence) before := by
    intro id later found
    rcases succeeds_act served.sound.consistent found with before | ⟨timings, opened, -⟩
    · exact before
    · exact absurd opened (opens timings)
  refine ⟨sound_act occurrence served.sound, served.numbered.act occurrence, ?_, ?_⟩
  · intro id later found opened
    obtain ⟨before, foundBefore, succeeds⟩ := earlier found
    have listed := served.listed foundBefore (succeeds.opened opened)
    by_cases stops : occurrence.action = .event .stopAll
    · have outside : occurrence.action.IsOutside := by rw [stops]; trivial
      have closed : (registry.act occurrence).pool.get? id = some before.stop.value := by
        rw [(quiet_of_outside outside).get?_of_some foundBefore, stops]
        simp [touch, listed, Connection.touched, Connection.next, Connection.apply]
      obtain rfl := Option.some.inj (closed.symm.trans found)
      exact absurd (Connection.phase_stop before) opened
    · exact mem_table_act listed (removes id) stops
  · intro id later found opened
    obtain ⟨before, foundBefore, succeeds⟩ := earlier found
    exact succeeds.receiving.trans (served.attended foundBefore (succeeds.opened opened))

/-- A closed connection can be removed. The clause about open connections does not speak of it, so
it may leave the table. -/
theorem Served.remove (served : registry.Served) (now : Milliseconds)
    (closed : ∀ connection, registry.pool.get? id = some connection → connection.phase = .closed) :
    (registry.act ⟨now, .event (.remove id)⟩).Served := by
  have same : (registry.act ⟨now, .event (.remove id)⟩).pool = registry.pool := by
    simp only [Registry.act, apply, Registry.remove]
    split <;> rfl
  refine ⟨sound_act _ served.sound, served.numbered.act _, ?_, ?_⟩
  · intro other connection found opened
    rw [same] at found
    have outside : (⟨now, .event (.remove id)⟩ : Occurrence).action.IsOutside := trivial
    refine (mem_table_outside outside).mpr (Or.inr ⟨served.listed found opened, ?_, by simp⟩)
    intro removes
    obtain rfl : id = other := by simpa using removes
    exact opened (closed connection found)
  · intro other connection found
    rw [same] at found
    exact served.attended found

/-- A connection that is opened is added at once. Between these two occurrences the connection would
be open without being listed; that is why they are taken together. -/
theorem Served.openConnection (served : registry.Served) (now : Milliseconds) (timings : Timings) :
    ((registry.act ⟨now, .event (.openConnection timings)⟩).act
      ⟨now, .event (.add registry.nextConnection)⟩).Served := by
  have earlier : ∀ {id later}, ((registry.act ⟨now, .event (.openConnection timings)⟩).act
      ⟨now, .event (.add registry.nextConnection)⟩).pool.get? id = some later →
        registry.pool.get? id = some later ∨
          id = registry.nextConnection ∧ later = .new id timings := by
    intro id later found
    have inserted := Pool.get?_insert id (.new registry.nextConnection timings) registry.pool
    rcases Option.or_eq_some_iff.mp (inserted.symm.trans found) with old | ⟨-, new⟩
    · exact Or.inl old
    · split at new
      · rename_i number
        obtain rfl : registry.nextConnection = id := number
        exact Or.inr ⟨rfl, (Option.some.inj new).symm⟩
      · cases new
  refine ⟨sound_act _ (sound_act _ served.sound), (served.numbered.act _).act _, ?_, ?_⟩
  · intro id later found opened
    have outside : (⟨now, .event (.add registry.nextConnection)⟩ : Occurrence).action.IsOutside :=
      trivial
    refine (mem_table_outside outside).mpr ?_
    rcases earlier found with old | ⟨rfl, -⟩
    · exact Or.inr ⟨served.listed old opened, by simp, by simp⟩
    · exact Or.inl rfl
  · intro id later found opened
    rcases earlier found with old | ⟨-, rfl⟩
    · exact served.attended old opened
    · rfl

/-- When a queue is changed, the connections stay what they are otherwise. All other fields can be
read off the connection before the change. -/
theorem found_of_queued {number : ConnectionId} {change : Connection → Connection}
    (queue : ∀ connection, change connection =
      { connection with
        receiving := (change connection).receiving
        outbound := (change connection).outbound })
    {pool : Pool} (found : (pool.update number change).get? id = some later) :
    ∃ before, pool.get? id = some before ∧
      later = { before with receiving := later.receiving, outbound := later.outbound } ∧
      (later = before ∨ id = number ∧ later = change before) := by
  have keepsId : ∀ connection, (change connection).id = connection.id := by
    intro connection
    rw [queue]
  rw [Pool.get?_update number id change keepsId] at found
  obtain ⟨before, foundBefore, rfl⟩ := Option.map_eq_some_iff.mp found
  refine ⟨before, foundBefore, ?_⟩
  split
  · rename_i here
    exact ⟨queue before, Or.inr ⟨here, rfl⟩⟩
  · exact ⟨rfl, Or.inl rfl⟩

/-- Queues have no say in what keeps a registry sound. The clauses are about phases, addresses,
subscribers and mail. -/
theorem Sound.update (sound : registry.Sound) (number : ConnectionId)
    (change : Connection → Connection)
    (queue : ∀ connection, change connection =
      { connection with
        receiving := (change connection).receiving
        outbound := (change connection).outbound }) :
    { registry with pool := registry.pool.update number change }.Sound := by
  refine ⟨sound.numbered, ?_, sound.ascending, sound.exclusive, ?_, sound.delivered⟩
  · intro id later found
    obtain ⟨before, foundBefore, same, -⟩ := found_of_queued queue found
    have consistent := sound.consistent id before foundBefore
    rw [same]
    exact ⟨consistent.entered, consistent.address, consistent.timer, consistent.sending,
      consistent.subscribers, consistent.signal⟩
  · intro id later entry found listens
    obtain ⟨before, foundBefore, same, -⟩ := found_of_queued queue found
    rw [same] at listens
    exact sound.subscribed id before entry foundBefore listens

/-- The writer of a connection changes its queue, and goes away only after the close. Its reading
half is looked at while the connection is open, and that is where it may not be dropped. -/
theorem Served.update (served : registry.Served) (number : ConnectionId)
    (change : Connection → Connection)
    (queue : ∀ connection, change connection =
      { connection with
        receiving := (change connection).receiving
        outbound := (change connection).outbound })
    (reads : ∀ connection, registry.pool.get? number = some connection →
      connection.phase ≠ .closed → (change connection).receiving = connection.receiving) :
    { registry with pool := registry.pool.update number change }.Served := by
  have keepsId : ∀ connection, (change connection).id = connection.id := by
    intro connection
    rw [queue]
  refine ⟨served.sound.update number change queue, ⟨?_, ?_⟩, ?_, ?_⟩
  · rw [Pool.numbers_update number change keepsId]
    exact served.numbered.distinct
  · rw [Pool.numbers_update number change keepsId]
    exact served.numbered.below
  · intro id later found opened
    obtain ⟨before, foundBefore, same, -⟩ := found_of_queued queue found
    rw [same] at opened
    exact served.listed foundBefore opened
  · intro id later found opened
    obtain ⟨before, foundBefore, same, changed⟩ := found_of_queued queue found
    rw [same] at opened
    have attended := served.attended foundBefore opened
    rcases changed with rfl | ⟨rfl, rfl⟩
    · exact attended
    · exact (reads before foundBefore opened).trans attended

end Registry

end DiagnosticGateway
