import DiagnosticGateway.Proofs.Registry.ResponsiveTester

/-!
# How a registration runs out

A registered connection has until the deadline of its timer. As long as no data is heard on it, the
connection ages: it keeps that deadline whatever else happens, or it is closed. A connection that
becomes registered meanwhile gets its first deadline then. So the time that a registration has left
depends on the moments at which data was heard, and on nothing else.
-/

namespace DiagnosticGateway

namespace Connection

/-- The moment at which the running timer expires. -/
def deadline? (connection : Connection) : Option Milliseconds :=
  connection.timer.map Timer.deadline

/-- A connection comes after another one without any data: if it is registered, it has the deadline
that it had, or it has been registered now. -/
structure Ages (now : Milliseconds) (later before : Connection) : Prop where
  timed : later.timings = before.timings
  opened : later.phase ≠ .closed → before.phase ≠ .closed
  registered : before.phase = .registeredActive →
    later.phase = .registeredActive ∨ later.phase = .closed
  runs : later.phase = .registeredActive →
    before.phase = .registeredActive ∧ later.deadline? = before.deadline? ∨
      before.phase ≠ .registeredActive ∧ later.deadline? = some (now + later.timings.general)

variable {connection first second third : Connection} {now : Milliseconds}

/-- A change that leaves the phase and the timer alone is no news. -/
theorem ages_of_same (timed : second.timings = first.timings) (phase : second.phase = first.phase)
    (timer : second.timer = first.timer) : second.Ages now first where
  timed := timed
  opened opened := phase ▸ opened
  registered registered := Or.inl (phase.trans registered)
  runs registered := by
    refine Or.inl ⟨phase.symm.trans registered, ?_⟩
    rw [deadline?, timer, deadline?]

/-- A connection that is left alone ages. -/
theorem ages_self : connection.Ages now connection :=
  ages_of_same rfl rfl rfl

/-- A connection that has aged twice at one moment has aged: it was registered at most once in
between. A connection that is new in the second step has been opened there. -/
theorem Ages.trans (later : third.Ages now second) (earlier : second.Ages now first) :
    third.Ages now first where
  timed := later.timed.trans earlier.timed
  opened opened := earlier.opened (later.opened opened)
  registered registered := by
    rcases earlier.registered registered with still | closed
    · exact later.registered still
    · exact Or.inr (by_contra fun opened => later.opened opened closed)
  runs registered := by
    rcases later.runs registered with ⟨still, same⟩ | ⟨unregistered, fresh⟩
    · rcases earlier.runs still with ⟨before, kept⟩ | ⟨before, fresh⟩
      · exact Or.inl ⟨before, same.trans kept⟩
      · exact Or.inr ⟨before, by rw [same, fresh, later.timed]⟩
    · refine Or.inr ⟨fun before => ?_, fresh⟩
      -- What was registered before has been closed, and nothing registers it again.
      rcases earlier.registered before with still | closed
      · exact unregistered still
      · exact later.opened (by simp [registered]) closed

/-- A connection that has not been registered before and is not now. -/
theorem ages_of_unregistered (timed : second.timings = first.timings)
    (opened : second.phase ≠ .closed → first.phase ≠ .closed)
    (unregistered : first.phase ≠ .registeredActive) (still : second.phase ≠ .registeredActive) :
    second.Ages now first :=
  ⟨timed, opened, fun registered => absurd registered unregistered,
    fun registered => absurd registered still⟩

/-- A connection that is closed has no deadline any more. -/
theorem ages_stop : connection.stop.value.Ages now connection := by
  by_cases closed : connection.phase = .closed
  · rw [stop_of_closed closed]
    exact ages_self
  · rw [stop_of_open closed]
    exact ⟨rfl, fun _ => closed, fun _ => Or.inr rfl, nofun⟩

/-- A message that is sent does not move a deadline. -/
theorem ages_send (message : Wire.Message) :
    (connection.send message).value.1.Ages now connection := by
  rw [send_value]
  split
  · exact ages_of_same rfl rfl rfl
  · exact ages_self

/-- A connection ages when nobody reads its queue any more. -/
theorem ages_dropReceiver : connection.dropReceiver.Ages now connection :=
  ages_of_same rfl rfl rfl

/-- Only a connection that is not registered is started. -/
theorem ages_start : (connection.start now).value.Ages now connection := by
  unfold start
  split
  · rename_i unassigned
    exact ages_of_unregistered rfl (by simp [unassigned]) (by simp [unassigned]) nofun
  · exact ages_self

/-- What happens to a connection from outside lets it age, unless it is data. A start may set the
initial timer, which is not the one that matters once the connection is registered. -/
theorem ages_next {event : Event} (passive : event.isPassive = true)
    (silent : event ≠ .dataReceived) : (connection.next now event).Ages now connection := by
  cases event with
  | start => exact ages_start
  | dataReceived => exact absurd rfl silent
  | send message => exact ages_send message
  | stop => exact ages_stop
  | timerExpired kind generation =>
    show (connection.timerExpired kind generation).value.Ages now connection
    rcases timerExpired_value kind generation connection with same | stopped
    · rw [same]
      exact ages_self
    · rw [stopped]
      exact ages_stop
  | _ => cases passive

/-- Being asked for a sign of life is none. -/
theorem ages_askedAmong (mailbox : MailboxId) (id : ConnectionId) (targets : List ConnectionId) :
    (connection.askedAmong mailbox id targets).Ages now connection :=
  ages_of_same (askedAmong_keeps timings fun _ opened => by rw [asked_of_open opened])
    phase_askedAmong (askedAmong_keeps timer fun _ opened => by rw [asked_of_open opened])

/-- The end of a check closes a connection or leaves it its time. -/
theorem ages_left (check : AliveCheck) (reports : List AliveReport) (id : ConnectionId) :
    (check.left reports id connection).Ages now connection := by
  by_cases silent : id ∈ check.targets ∧ AliveCheck.counting reports id = []
  · simp only [AliveCheck.left, if_pos silent]
    exact ages_stop.trans (ages_of_same rfl rfl rfl)
  · rw [AliveCheck.left_of_heard silent]
    exact ages_of_same rfl rfl rfl

/-- Registration gives a connection its first deadline. -/
theorem ages_activate (source : UInt16) :
    (connection.activate now source).value.1.Ages now connection := by
  by_cases settled : connection.phase = .closed ∨ connection.phase = .registeredActive
  · rw [activate_of_settled now source settled]
    exact ages_self
  · obtain ⟨opened, unregistered⟩ := not_or.mp settled
    rw [activate_of_unregistered now source opened unregistered]
    exact ⟨rfl, fun _ => opened, fun registered => absurd registered unregistered,
      fun _ => Or.inr ⟨unregistered, rfl⟩⟩

/-! ## The moment from which the time runs -/

/-- If the connection is registered, its time runs from the given moment. -/
structure RunsFrom (timings : Timings) (latest : Option Milliseconds) (connection : Connection) :
    Prop where
  timed : connection.timings = timings
  runs : connection.phase = .registeredActive → ∃ moment, latest = some moment ∧
    connection.deadline? = some (moment + timings.general)

variable {timings : Timings} {latest next : Option Milliseconds}

/-- A new connection is not registered, so its time may run from anywhere. -/
theorem runsFrom_new (id : ConnectionId) : (new id timings).RunsFrom timings latest :=
  ⟨rfl, nofun⟩

/-- Data makes the time run from now. A connection that is not registered has no time that runs, and
the data leave it as it is. -/
theorem runsFrom_dataReceived (timed : connection.timings = timings) :
    (connection.dataReceived now).RunsFrom timings (some now) := by
  unfold dataReceived
  split
  · exact ⟨timed, fun _ => ⟨now, rfl, by rw [← timed]; rfl⟩⟩
  · rename_i unregistered
    exact ⟨timed, fun registered => absurd registered unregistered⟩

/-- A connection that ages keeps the moment from which its time runs. If it is registered meanwhile,
its time runs from now. -/
theorem Ages.runsFrom (ages : second.Ages now first) (runs : first.RunsFrom timings latest)
    (kept : first.phase = .registeredActive → next = latest)
    (fresh : first.phase ≠ .registeredActive → second.phase = .registeredActive →
      next = some now) : second.RunsFrom timings next where
  timed := ages.timed.trans runs.timed
  runs registered := by
    rcases ages.runs registered with ⟨before, same⟩ | ⟨before, begins⟩
    · obtain ⟨moment, since, deadline⟩ := runs.runs before
      exact ⟨moment, (kept before).trans since, same.trans deadline⟩
    · refine ⟨now, fresh before registered, ?_⟩
      rw [begins, ages.timed, runs.timed]

end Connection

namespace Registry

/-- A connection of a registry ages. One that is opened meanwhile has the given timings. -/
structure Ages (now : Milliseconds) (timings : Timings) (id : ConnectionId)
    (before after : Registry) : Prop where
  ages : ∀ {earlier}, before.pool.get? id = some earlier →
    ∃ later, after.pool.get? id = some later ∧ later.Ages now earlier
  opens : before.pool.get? id = none → ∀ {later}, after.pool.get? id = some later →
    later.Ages now (.new id timings)

variable {registry before middle after next : Registry} {request : Request} {id : ConnectionId}
  {timings : Timings} {now : Milliseconds}

/-- The connections of a pool that has not changed have aged. -/
theorem ages_of_same (pool : after.pool = before.pool) : before.Ages now timings id after where
  ages found := ⟨_, pool ▸ found, Connection.ages_self⟩
  opens missing _ found := by
    rw [pool, missing] at found
    cases found

/-- A registry that lets a connection age twice at one moment lets it age. -/
theorem Ages.trans (first : before.Ages now timings id middle)
    (second : middle.Ages now timings id after) : before.Ages now timings id after where
  ages found := by
    obtain ⟨between, foundBetween, earlier⟩ := first.ages found
    obtain ⟨later, foundLater, ages⟩ := second.ages foundBetween
    exact ⟨later, foundLater, ages.trans earlier⟩
  opens missing later foundLater := by
    cases found : middle.pool.get? id with
    | none => exact second.opens found foundLater
    | some between =>
      obtain ⟨same, foundSame, ages⟩ := second.ages found
      obtain rfl := Option.some.inj (foundSame.symm.trans foundLater)
      exact ages.trans (first.opens missing found)

/-- A change of each connection by itself lets the connection age if its own change does. -/
theorem ages_of_map {change : Connection → Connection}
    (changes : after.pool.get? id = (before.pool.get? id).map change)
    (ages : ∀ connection, (change connection).Ages now connection) :
    before.Ages now timings id after where
  ages found := ⟨_, by rw [changes, found]; rfl, ages _⟩
  opens missing _ found := by
    rw [changes, missing] at found
    cases found

/-- A decision registers the connection it is about or leaves it as it is; either way it ages. -/
theorem ages_settled (now : Milliseconds) (request : Request) (code : Wire.ActivationCode)
    (id : ConnectionId) (connection : Connection) :
    (settled now request code id connection).Ages now connection := by
  unfold settled
  split
  · exact Connection.ages_activate request.source
  · exact Connection.ages_self

/-- An arbitration lets every connection age. The cases are a grant, the start of a probe and
its end. -/
theorem Arbitration.ages (arbitration : Arbitration now request registry next) :
    registry.Ages now timings id next := by
  cases arbitration with
  | grants turn unknown course =>
    exact ages_of_map (get?_concluded ..) (ages_settled now request _ id)
  | probes turn unknown course =>
    exact ages_of_map (get?_probing ..) fun connection =>
      Connection.ages_askedAmong request.id id _
  | @concludes purpose check waited ends =>
    have probed : registry.Ages now timings id (registry.probed check) :=
      ages_of_map (get?_probed ..) fun connection => Connection.ages_left check _ id
    exact probed.trans (ages_of_map (get?_concluded ..) (ages_settled now request _ id))

/-- Whatever happens to a registry lets a connection age, unless it is data on that connection. Data
on other connections, probes and decisions are among what may happen; a decision may register it,
and then its time runs from that moment. -/
theorem ages_act (occurrence : Occurrence)
    (silent : occurrence.action ≠ .event (.dataReceived id))
    (opens : ∀ other, occurrence.action = .event (.openConnection other) → other = timings)
    (registry : Registry) :
    registry.Ages occurrence.moment timings id (registry.act occurrence) := by
  rcases quiet_or_arbitrates registry occurrence with quiet | ⟨request, -, -, arbitration⟩
  · refine ⟨fun {earlier} found => ⟨_, quiet.get?_of_some found, ?_⟩, fun missing later found => ?_⟩
    · cases touches : registry.touch id occurrence.action with
      | none => exact Connection.ages_self
      | some event =>
        refine Connection.ages_next (touch_isPassive touches) ?_
        rintro rfl
        rcases touch_cases touches with
          ⟨-, starts⟩ | ⟨feeds, -⟩ | ⟨message, -, sends⟩ | stops | stops | expires
        · cases starts
        · exact silent feeds
        · cases sends
        · simp [stops, touch] at touches
        · simp [stops, touch] at touches
        · simp [expires, touch, found] at touches
    · rw [quiet.pool, missing] at found
      have new : registry.opened id occurrence.action = some later := found
      unfold opened at new
      split at new
      · rename_i own action
        split at new
        · obtain rfl := Option.some.inj new
          rw [opens own action]
          exact Connection.ages_self
        · cases new
      · cases new
  · exact arbitration.ages

/-- What holds of the connection itself holds of what is found under its number. That moment is
passed along as long as the connection is registered, and given anew when it becomes so. -/
theorem Ages.runsFrom {latest following : Option Milliseconds}
    (ages : before.Ages now timings id after)
    (runs : ∀ earlier, before.pool.get? id = some earlier → earlier.RunsFrom timings latest)
    (kept : before.pool.isRegistered id = true → following = latest)
    (fresh : before.pool.isRegistered id = false → after.pool.isRegistered id = true →
      following = some now) :
    ∀ later, after.pool.get? id = some later → later.RunsFrom timings following := by
  intro later found
  have registered : later.phase = .registeredActive → after.pool.isRegistered id = true :=
    fun active => Pool.isRegistered_iff.mpr ⟨later, found, active⟩
  cases foundBefore : before.pool.get? id with
  | none =>
    have new : (Connection.new id timings).RunsFrom timings latest := Connection.runsFrom_new id
    refine (ages.opens foundBefore found).runsFrom new nofun
      fun _ active => fresh ?_ (registered active)
    simp [Pool.isRegistered, foundBefore]
  | some earlier =>
    obtain ⟨same, foundSame, succeeds⟩ := ages.ages foundBefore
    obtain rfl := Option.some.inj (foundSame.symm.trans found)
    refine succeeds.runsFrom (runs earlier foundBefore) (fun active => kept ?_)
      fun inactive active => fresh ?_ (registered active)
    · exact Pool.isRegistered_iff.mpr ⟨earlier, foundBefore, active⟩
    · simp [Pool.isRegistered, foundBefore, Connection.isRegistered, inactive]

/-- After data on a connection its time runs from now. -/
theorem runsFrom_dataReceived
    (timed : ∀ earlier, registry.pool.get? id = some earlier → earlier.timings = timings) :
    ∀ later, (registry.dataReceived now id).pool.get? id = some later →
      later.RunsFrom timings (some now) := by
  intro later found
  have same : (registry.dataReceived now id).pool.get? id =
      (registry.pool.get? id).map fun connection =>
        if id = id then connection.dataReceived now else connection :=
    Pool.get?_update id id (Connection.dataReceived now)
      (Connection.id_next now .dataReceived) registry.pool
  rw [same] at found
  obtain ⟨earlier, foundBefore, rfl⟩ := Option.map_eq_some_iff.mp found
  rw [if_pos rfl]
  exact Connection.runsFrom_dataReceived (timed earlier foundBefore)

end Registry

end DiagnosticGateway
