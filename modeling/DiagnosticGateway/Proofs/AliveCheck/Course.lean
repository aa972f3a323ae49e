import Mathlib.Data.List.Induction
import DiagnosticGateway.Proofs.AliveCheck.Asking
import DiagnosticGateway.Simulation.AliveCheckBench

/-!
# Alive checks side by side

Any number of alive checks run on the same connections. In between, connections are opened and
closed, registered and read, responses arrive in any order, and the signs of interruption are
set and taken back.

The checks do not get in each other's way. Every subscriber belongs to a check that waits and
has recorded it, and nobody else has recorded the same number on the same connection. Reports are
held only for checks that wait. So the end of a check takes away its own subscribers and its own
reports, and nothing else.
-/

namespace DiagnosticGateway

namespace Connection

/-- Whether an event is about a subscription. Only alive checks bring such events about. -/
def Event.isSubscription : Event → Bool
  | .subscribe _ | .unsubscribe _ => true
  | _ => false

variable {connection : Connection} {event : Event}

/-- Numbers for subscribers are given out by subscriptions only. Closing a connection empties
the list of its subscribers and still keeps the counter, so that no number is ever used for
two of them. -/
theorem nextSubscriber_next (now : Milliseconds) (apart : event.isSubscription = false) :
    (connection.next now event).nextSubscriber = connection.nextSubscriber := by
  have stopped : connection.stop.value.nextSubscriber = connection.nextSubscriber := by
    unfold stop
    cases connection.phase <;> rfl
  cases event with
  | start => simp only [next, apply, start]; cases connection.phase <;> rfl
  | activate source => simp only [next, apply, activate]; cases connection.phase <;> rfl
  | dataReceived => simp only [next, apply, dataReceived]; cases connection.phase <;> rfl
  | send message =>
    simp only [next, apply, Logged.value_bind, Logged.value_pure, send_value]
    split <;> rfl
  | stop => exact stopped
  | timerExpired kind generation =>
    rcases timerExpired_value kind generation connection with same | closed
    · exact congrArg nextSubscriber same
    · exact (congrArg nextSubscriber closed).trans stopped
  | subscribe mailbox => cases apart
  | unsubscribe id => cases apart
  | _ => rfl

/-- A connection that is open after an event was open before and has the same subscribers.
Subscriptions apart, the list changes only by the close, which empties it. -/
theorem subscribers_next (now : Milliseconds) (apart : event.isSubscription = false)
    (opened : (connection.next now event).phase ≠ .closed) :
    connection.phase ≠ .closed ∧
      (connection.next now event).subscribers = connection.subscribers := by
  have before : connection.phase ≠ .closed := fun closed =>
    opened (next_of_closed now event closed)
  refine ⟨before, ?_⟩
  cases event with
  | activate source =>
    simp only [next, apply, activate]
    cases connection.phase <;> rfl
  | subscribe mailbox => cases apart
  | unsubscribe id => cases apart
  | aliveResponse source => rfl
  | dropReceiver => rfl
  | _ => exact (next_of_passive now rfl opened).2.2

/-- An event brings no new subscriber. -/
theorem mem_subscribers_next (now : Milliseconds) (consistent : connection.Consistent)
    (apart : event.isSubscription = false) {entry : Subscriber}
    (listens : entry ∈ (connection.next now event).subscribers) :
    entry ∈ connection.subscribers := by
  by_cases closed : (connection.next now event).phase = .closed
  · rw [(consistent_next now event consistent).subscribers closed] at listens
    exact absurd listens List.not_mem_nil
  · rwa [(subscribers_next now apart closed).2] at listens

end Connection

/-- The end of a check gives out no number. -/
theorem AliveCheck.nextSubscriber_left {check : AliveCheck} {reports : List AliveReport}
    {id : ConnectionId} {connection : Connection} :
    (check.left reports id connection).nextSubscriber = connection.nextSubscriber := by
  by_cases silent : id ∈ check.targets ∧ counting reports id = []
  · simp only [left, if_pos silent]
    exact Connection.nextSubscriber_next 0 (rfl : Connection.Event.isSubscription .stop = false)
  · rw [left_of_heard silent]

namespace Simulation.AliveCheckBench

/-! ## What can happen -/

/-- Something that happens on the bench. Subscriptions are made and ended by the checks alone, so an
event of a connection is none of these. -/
inductive Happening where
  /-- A connection is opened. -/
  | opening (timings : Timings)
  /-- Something happens to a connection. -/
  | event (id : ConnectionId) (event : Connection.Event) (apart : event.isSubscription = false)
  /-- An alive check is started. -/
  | call (window : Milliseconds) (targets : List ConnectionId) (sign : SignId)
  | signal (sign : SignId) (interrupted : Bool)
  /-- The one who sets a sign goes away. -/
  | abandon (sign : SignId)
  /-- An alive check goes on, if it can. -/
  | goOn (number : Nat)

/-- A course of happenings, each at its moment. -/
abbrev Course := List (Milliseconds × Happening)

/-- A bench without connections. -/
def empty : AliveCheckBench :=
  (new AliveCheck.window ⟨0, 0⟩ [] []).value

/-- Let something happen to a connection. A response is reported to the subscribers. -/
def occur (now : Milliseconds) (id : ConnectionId) (event : Connection.Event) :
    Registry → Logged Registry :=
  match event with
  | .aliveResponse source => Registry.aliveResponse id source
  | event => Registry.changeConnection id fun connection => do
    return (← connection.apply now event).connection

/-- The bench after something has happened. A check is started on connections that exist. What goes
on by itself is taken only if the bench offers it. -/
def meet (now : Milliseconds) (happening : Happening) (bench : AliveCheckBench) :
    AliveCheckBench :=
  match happening with
  | .opening timings => { bench with registry := (bench.registry.openConnection timings).1 }
  | .event id event _ => (bench.act (occur now id event)).value
  | .call window targets sign =>
    if targets.all fun target => (bench.registry.pool.get? target).isSome then
      (bench.call window targets sign).1
    else bench
  | .signal sign interrupted => bench.signal sign interrupted
  | .abandon sign => bench.setSign sign .abandoned
  | .goOn number =>
    if Task.run number ∈ bench.enabled now then (bench.step now (.run number)).value else bench

/-- The bench after a course of happenings. -/
def follow (course : Course) (bench : AliveCheckBench) : AliveCheckBench :=
  course.foldl (fun current entry => current.meet entry.1 entry.2) bench

variable {bench : AliveCheckBench} {now : Milliseconds} {number other : Nat} {run : CheckRun}
  {check : AliveCheck} {id : ConnectionId} {connection : Connection}

/-- The last happening of a course is met by what the others have led to. -/
theorem follow_concat (course : Course) (entry : Milliseconds × Happening) :
    bench.follow (course ++ [entry]) = (bench.follow course).meet entry.1 entry.2 := by
  simp [follow]

/-- An event changes the connection it is about and no other. A sign of life is the one event that
does not change it either: it goes into the mail of those who listen. -/
theorem get?_occur (now : Milliseconds) (id : ConnectionId) (event : Connection.Event)
    (registry : Registry) (other : ConnectionId) :
    (occur now id event registry).value.pool.get? other =
      (registry.pool.get? other).map fun connection =>
        if other = id then connection.next now event else connection := by
  have changed := Pool.get?_change id other
    (fun connection => do return (← connection.apply now event).connection)
    (Connection.id_next now event) registry.pool
  cases event with
  | aliveResponse source =>
    have same : (fun connection : Connection =>
        if other = id then connection.next now (.aliveResponse source) else connection) =
          fun connection => connection := by
      funext connection
      split <;> rfl
    rw [same, Option.map_id']
    rfl
  | _ => exact changed

/-- An event brings the reports of the connection it is about. Only a response has reports; any
other event delivers nothing. -/
theorem mail_occur (event : Connection.Event) (registry : Registry) :
    (occur now id event registry).value.mail =
      registry.mail ++ (registry.pool.get? id).elim [] fun connection =>
        (connection.apply now event).value.deliveries := by
  cases event with
  | aliveResponse source =>
    simp only [occur, Registry.aliveResponse, Logged.value_bind, Logged.value_pure]
    congr 1
    unfold Pool.aliveResponse
    cases registry.pool.get? id <;> rfl
  | _ =>
    cases registry.pool.get? id <;> simp [occur, Registry.changeConnection, Connection.apply]

/-! ## How a check goes on -/

/-- A check has asked its targets and waits. -/
def Waits (bench : AliveCheckBench) (number : Nat) (run : CheckRun) (check : AliveCheck) : Prop :=
  bench.runs[number]? = some run ∧ run.stage = .waiting check

/-- The wait of a check is over: its sign ends it, or its window has elapsed. -/
def Over (bench : AliveCheckBench) (now : Milliseconds) (run : CheckRun) (check : AliveCheck) :
    Prop :=
  (bench.signs run.sign).endsWait = true ∨ check.deadline ≤ now

/-- The check that a run starts. -/
def started (now : Milliseconds) (number : Nat) (run : CheckRun) (bench : AliveCheckBench) :
    AliveCheck :=
  ⟨run.targets, (AliveCheck.askTargets number run.targets bench.registry.pool).value.2, number,
    now + run.window⟩

/-- The bench after a check has asked its targets. -/
def begun (now : Milliseconds) (number : Nat) (run : CheckRun) (bench : AliveCheckBench) :
    AliveCheckBench :=
  { bench with registry := { bench.registry with
    pool := (AliveCheck.askTargets number run.targets bench.registry.pool).value.1 } }.setStage
      number run (.waiting (bench.started now number run))

/-- The bench after a check has judged its targets. -/
def ended (now : Milliseconds) (number : Nat) (run : CheckRun) (check : AliveCheck)
    (bench : AliveCheckBench) : AliveCheckBench :=
  let reports := bench.registry.mail.reports number
  { bench with registry := { bench.registry with
    pool := (check.finish (decide (now < check.deadline)) reports bench.registry.pool).value.1
    mail := bench.registry.mail.discard number } }.setStage
      number run (.finished now (AliveCheck.responses check.targets reports))

/-- A check can go on exactly if it has not asked yet, or if its wait is over. -/
theorem run_mem_enabled :
    Task.run number ∈ bench.enabled now ↔
      ∃ run, bench.runs[number]? = some run ∧ bench.canStep now run = true := by
  simp only [enabled, List.mem_append, List.mem_map, List.mem_filter, reduceCtorEq, and_false,
    exists_false, false_or, Task.run.injEq, Prod.exists, List.mem_zipIdx_iff_getElem?]
  constructor
  · rintro ⟨run, position, ⟨found, able⟩, rfl⟩
    exact ⟨run, found, able⟩
  · rintro ⟨run, found, able⟩
    exact ⟨run, number, ⟨found, able⟩, rfl⟩

/-- A check that waits can go on when its wait is over, and not before. -/
theorem canStep_of_waiting (waiting : run.stage = .waiting check) :
    bench.canStep now run = true ↔ bench.Over now run check := by
  simp [canStep, waiting, Over]

/-- The step of a waiting check is enabled exactly when its wait is over. -/
theorem Waits.enabled_iff (waits : bench.Waits number run check) :
    Task.run number ∈ bench.enabled now ↔ bench.Over now run check := by
  rw [run_mem_enabled, ← canStep_of_waiting waits.2]
  constructor
  · rintro ⟨same, found, able⟩
    obtain rfl := Option.some.inj (waits.1.symm.trans found)
    exact able
  · exact fun able => ⟨run, waits.1, able⟩

/-- What becomes of the bench when a check may go on. -/
inductive GoesOn (now : Milliseconds) (number : Nat) (bench : AliveCheckBench) :
    AliveCheckBench → Prop
  | rests (unable : Task.run number ∉ bench.enabled now) : GoesOn now number bench bench
  | begins {run : CheckRun} (found : bench.runs[number]? = some run) (ready : run.stage = .ready) :
    GoesOn now number bench (bench.begun now number run)
  | ends {run : CheckRun} {check : AliveCheck} (waits : bench.Waits number run check)
    (due : bench.Over now run check) :
    GoesOn now number bench (bench.ended now number run check)

/-- The step of a check either cannot be taken, or asks the targets, or comes to the end. The bench
tries the step of each check at every happening, so the first case is the usual one. -/
theorem goesOn (now : Milliseconds) (number : Nat) (bench : AliveCheckBench) :
    GoesOn now number bench (bench.meet now (.goOn number)) := by
  by_cases able : Task.run number ∈ bench.enabled now
  · obtain ⟨run, found, canStep⟩ := run_mem_enabled.mp able
    have met : bench.meet now (.goOn number) = (bench.stepRun now number run).value := by
      simp [meet, able, step, found]
    rw [met]
    cases stage : run.stage with
    | ready =>
      have begins : (bench.stepRun now number run).value = bench.begun now number run := by
        simp [stepRun, stage, begun, started, AliveCheck.begin]
      rw [begins]
      exact .begins found stage
    | waiting check =>
      have ends : (bench.stepRun now number run).value = bench.ended now number run check := by
        simp [stepRun, stage, ended, AliveCheck.finish_value]
      rw [ends]
      exact .ends ⟨found, stage⟩ ((canStep_of_waiting stage).mp canStep)
    | finished moment responses => simp [AliveCheckBench.canStep, stage] at canStep
    | shown => simp [AliveCheckBench.canStep, stage] at canStep
  · have met : bench.meet now (.goOn number) = bench := by simp [meet, able]
    rw [met]
    exact .rests able

/-- The stage of a run is set. -/
theorem runs_setStage_self (stage : CheckStage) (found : bench.runs[number]? = some run) :
    (bench.setStage number run stage).runs[number]? = some { run with stage := stage } := by
  obtain ⟨within, -⟩ := List.getElem?_eq_some_iff.mp found
  simp [setStage, within]

/-- The other runs stay where they are. -/
theorem runs_setStage_other (stage : CheckStage) (different : other ≠ number) :
    (bench.setStage number run stage).runs[other]? = bench.runs[other]? := by
  simp [setStage, Ne.symm different]

/-- A check that goes on leaves the others where they are. -/
theorem waits_setStage_other {stage : CheckStage} {waiter : CheckRun} (different : other ≠ number) :
    (bench.setStage number run stage).Waits other waiter check ↔
      bench.Waits other waiter check := by
  rw [Waits, runs_setStage_other stage different, Waits]

/-! ## What is kept -/

/-- The checks on a bench keep to themselves. Each of them reads its own mailbox, and whoever
listens for it was recorded by it; this is what lets a check be understood without the others. -/
structure Kept (bench : AliveCheckBench) : Prop where
  consistent : bench.registry.pool.Consistent
  /-- Whoever listens was recorded by a check that waits. -/
  listening : ∀ {id connection entry}, bench.registry.pool.get? id = some connection →
    entry ∈ connection.subscribers → entry.id < connection.nextSubscriber ∧
      ∃ run check, bench.Waits entry.mailbox run check ∧ (id, entry.id) ∈ check.subscriptions
  /-- Nobody reports to another check than the one that recorded it. -/
  recorded : ∀ {number run check id subscriber}, bench.Waits number run check →
    (id, subscriber) ∈ check.subscriptions →
      ∃ connection, bench.registry.pool.get? id = some connection ∧
        subscriber < connection.nextSubscriber ∧
        ∀ entry ∈ connection.subscribers, entry.id = subscriber → entry.mailbox = number
  /-- Reports are held for checks that wait. -/
  delivered : ∀ delivery ∈ bench.registry.mail,
    ∃ run check, bench.Waits delivery.mailbox run check
  present : ∀ run ∈ bench.runs, ∀ target ∈ run.targets,
    ∃ connection, bench.registry.pool.get? target = some connection
  checks : ∀ {number run check}, bench.Waits number run check → check.targets = run.targets

/-- On an empty bench there is nobody to listen to and nothing reported. -/
theorem kept_empty : empty.Kept where
  consistent _ _ found := by cases found
  listening found := by cases found
  recorded waits := by cases waits.1
  delivered _ member := absurd member List.not_mem_nil
  present _ member := absurd member List.not_mem_nil
  checks waits := by cases waits.1

/-- Where the connections and the checks are the same, the same is kept. -/
theorem Kept.of_same (kept : bench.Kept) {later : AliveCheckBench}
    (registry : later.registry = bench.registry) (runs : later.runs = bench.runs) : later.Kept := by
  obtain ⟨laterRegistry, window, targets, signs, laterRuns⟩ := later
  cases registry
  cases runs
  exact ⟨kept.consistent, kept.listening, kept.recorded, kept.delivered, kept.present, kept.checks⟩

/-- A sign that ends the wait of a check touches no connection. -/
theorem Kept.signal (kept : bench.Kept) (sign : SignId) (interrupted : Bool) :
    (bench.signal sign interrupted).Kept := by
  unfold AliveCheckBench.signal
  split
  · exact kept.of_same rfl rfl
  · exact kept

/-- A new connection has no listeners. Its number is new as well, and so no check has recorded
anybody under it. -/
theorem Kept.opening (kept : bench.Kept) (timings : Timings) :
    (bench.meet now (.opening timings)).Kept := by
  have opened : ∀ id connection,
      (bench.meet now (.opening timings)).registry.pool.get? id = some connection →
        bench.registry.pool.get? id = some connection ∨
          connection = .new bench.registry.nextConnection timings := by
    intro id connection found
    rcases Option.or_eq_some_iff.mp ((Pool.get?_insert ..).symm.trans found) with old | ⟨-, new⟩
    · exact Or.inl old
    · split at new
      · exact Or.inr (Option.some.inj new).symm
      · cases new
  have stays : ∀ {id connection}, bench.registry.pool.get? id = some connection →
      (bench.meet now (.opening timings)).registry.pool.get? id = some connection :=
    fun found => (Pool.get?_insert ..).trans (by simp [found])
  refine ⟨?_, ?_, ?_, kept.delivered, ?_, kept.checks⟩
  · intro id connection found
    rcases opened id connection found with old | rfl
    · exact kept.consistent id connection old
    · exact Connection.consistent_new ..
  · intro id connection entry found listens
    rcases opened id connection found with old | rfl
    · exact kept.listening old listens
    · exact absurd listens List.not_mem_nil
  · intro number run check id subscriber waits member
    obtain ⟨connection, found, own⟩ := kept.recorded waits member
    exact ⟨connection, stays found, own⟩
  · intro run member target named
    obtain ⟨connection, found⟩ := kept.present run member target named
    exact ⟨connection, stays found⟩

/-- What an event leaves of the subscribers and what it delivers concerns checks that wait. Reports
go to the mailboxes of those who listen, and these are mailboxes of checks that wait. A connection
that closes loses its listeners, which takes nothing from a check but the reports to come. -/
theorem Kept.event (kept : bench.Kept) (event : Connection.Event)
    (apart : event.isSubscription = false) :
    (bench.meet now (.event id event apart)).Kept := by
  have changed := get?_occur now id event bench.registry
  have back : ∀ {other connection},
      (bench.meet now (.event id event apart)).registry.pool.get? other = some connection →
        ∃ earlier, bench.registry.pool.get? other = some earlier ∧
          connection.Consistent ∧ connection.nextSubscriber = earlier.nextSubscriber ∧
          ∀ entry ∈ connection.subscribers, entry ∈ earlier.subscribers := by
    intro other connection found
    obtain ⟨earlier, before, rfl⟩ := Option.map_eq_some_iff.mp ((changed other).symm.trans found)
    have consistent := kept.consistent other earlier before
    refine ⟨earlier, before, ?_⟩
    split
    · exact ⟨Connection.consistent_next now event consistent,
        Connection.nextSubscriber_next now apart, fun entry listens =>
        Connection.mem_subscribers_next now consistent apart listens⟩
    · exact ⟨consistent, rfl, fun _ listens => listens⟩
  have forth : ∀ {other earlier}, bench.registry.pool.get? other = some earlier →
      ∃ connection,
        (bench.meet now (.event id event apart)).registry.pool.get? other = some connection := by
    intro other earlier before
    exact ⟨_, (changed other).trans (by rw [before]; rfl)⟩
  refine ⟨?_, ?_, ?_, ?_, ?_, kept.checks⟩
  · intro other connection found
    obtain ⟨earlier, before, consistent, -⟩ := back found
    exact consistent
  · intro other connection entry found listens
    obtain ⟨earlier, before, -, next, subscribed⟩ := back found
    rw [next]
    exact kept.listening before (subscribed entry listens)
  · intro number run check other subscriber waits member
    obtain ⟨earlier, before, below, own⟩ := kept.recorded waits member
    obtain ⟨connection, found⟩ := forth before
    obtain ⟨same, alsoBefore, -, next, subscribed⟩ := back found
    obtain rfl := Option.some.inj (before.symm.trans alsoBefore)
    exact ⟨connection, found, next ▸ below, fun entry listens =>
      own entry (subscribed entry listens)⟩
  · intro delivery member
    rcases List.mem_append.mp ((mail_occur event bench.registry) ▸ member) with old | new
    · exact kept.delivered delivery old
    · cases found : bench.registry.pool.get? id with
      | none => simp [found] at new
      | some connection =>
        rw [found, Option.elim_some] at new
        cases event with
        | aliveResponse source =>
          have sent : delivery ∈ (bench.registry.pool.aliveResponse id source).value := by
            rw [Pool.aliveResponse, found]
            exact new
          rw [Pool.aliveResponse_value, found] at sent
          obtain ⟨entry, listens, rfl⟩ := List.mem_map.mp sent
          obtain ⟨-, run, check, waits, -⟩ := kept.listening found listens
          exact ⟨run, check, waits⟩
        | _ => simp [Connection.apply] at new
  · intro run member target named
    obtain ⟨connection, found⟩ := kept.present run member target named
    exact forth found

/-- A check that has just been started waits for nothing. The call is refused if one of the
targets does not exist. Otherwise a run is added behind the others, and all waits are the
waits of before. -/
theorem Kept.call (kept : bench.Kept) (window : Milliseconds) (targets : List ConnectionId)
    (sign : SignId) : (bench.meet now (.call window targets sign)).Kept := by
  by_cases exist : targets.all fun target => (bench.registry.pool.get? target).isSome
  · have met : bench.meet now (.call window targets sign) = (bench.call window targets sign).1 :=
      if_pos exist
    have waits : ∀ number run check, (bench.call window targets sign).1.Waits number run check ↔
        bench.Waits number run check := by
      intro number run check
      simp only [Waits, AliveCheckBench.call, List.getElem?_append]
      split
      · rfl
      · rename_i beyond
        have missing : bench.runs[number]? = none := List.getElem?_eq_none (by omega)
        rw [missing]
        constructor
        · rintro ⟨found, waiting⟩
          obtain rfl := List.mem_singleton.mp (List.mem_of_getElem? found)
          cases waiting
        · rintro ⟨found, -⟩
          cases found
    rw [met]
    refine ⟨kept.consistent, ?_, ?_, ?_, ?_, ?_⟩
    · intro id connection entry found listens
      obtain ⟨below, run, check, waiting, member⟩ := kept.listening found listens
      exact ⟨below, run, check, (waits ..).mpr waiting, member⟩
    · intro number run check id subscriber waiting member
      exact kept.recorded ((waits ..).mp waiting) member
    · intro delivery member
      obtain ⟨run, check, waiting⟩ := kept.delivered delivery member
      exact ⟨run, check, (waits ..).mpr waiting⟩
    · intro run member target named
      rcases List.mem_append.mp member with old | new
      · exact kept.present run old target named
      · obtain rfl := List.mem_singleton.mp new
        exact Option.isSome_iff_exists.mp (List.all_eq_true.mp exist target named)
    · intro number run check waiting
      exact kept.checks ((waits ..).mp waiting)
  · have met : bench.meet now (.call window targets sign) = bench := if_neg exist
    rw [met]
    exact kept

/-- A check that asks its targets takes numbers that nobody has recorded. They are taken from
the counter of each connection, which is above all numbers that were ever given out there. So
the subscriptions of this check and those of the others are different, although their targets
may be the same. -/
theorem Kept.begun (kept : bench.Kept) (found : bench.runs[number]? = some run)
    (ready : run.stage = .ready) : (bench.begun now number run).Kept := by
  have asked : ∀ id, (bench.begun now number run).registry.pool.get? id =
      (bench.registry.pool.get? id).map (Connection.askedAmong number id run.targets) := fun id =>
    AliveCheck.get?_askTargets number id run.targets bench.registry.pool
  have own : (bench.begun now number run).Waits number
      { run with stage := .waiting (bench.started now number run) } (bench.started now number run) :=
    ⟨runs_setStage_self _ found, rfl⟩
  have different : ∀ {other waiter check}, bench.Waits other waiter check → other ≠ number := by
    rintro other waiter check ⟨alsoFound, waiting⟩ rfl
    obtain rfl := Option.some.inj (found.symm.trans alsoFound)
    rw [ready] at waiting
    cases waiting
  have stillWaits : ∀ {other waiter check}, bench.Waits other waiter check →
      (bench.begun now number run).Waits other waiter check := fun waits =>
    (waits_setStage_other (different waits)).mpr waits
  have waitsBefore : ∀ {other waiter check}, (bench.begun now number run).Waits other waiter check →
      other = number ∧ waiter = { run with stage := .waiting (bench.started now number run) } ∧
          check = bench.started now number run ∨
        bench.Waits other waiter check := by
    intro other waiter check waits
    by_cases same : other = number
    · subst same
      obtain rfl := Option.some.inj (own.1.symm.trans waits.1)
      exact Or.inl ⟨rfl, rfl, (CheckStage.waiting.inj waits.2).symm⟩
    · exact Or.inr ((waits_setStage_other same).mp waits)
  refine ⟨?_, ?_, ?_, ?_, ?_, ?_⟩
  · intro id connection left
    obtain ⟨earlier, before, rfl⟩ := Option.map_eq_some_iff.mp ((asked id).symm.trans left)
    exact Connection.consistent_askedAmong (kept.consistent id earlier before)
  · intro id connection entry left listens
    obtain ⟨earlier, before, rfl⟩ := Option.map_eq_some_iff.mp ((asked id).symm.trans left)
    rcases AliveCheck.subscribers_askTargets number before left listens with old | ⟨mailbox, new⟩
    · obtain ⟨below, waiter, check, waits, member⟩ := kept.listening before old
      exact ⟨Nat.lt_of_lt_of_le below Connection.nextSubscriber_le_askedAmong, waiter, check,
        stillWaits waits, member⟩
    · obtain ⟨same, alsoBefore, -, below⟩ := AliveCheck.recorded_askTargets number new
      obtain rfl := Option.some.inj (before.symm.trans alsoBefore)
      rw [mailbox]
      exact ⟨below, _, _, own, new⟩
  · intro other waiter check id subscriber waits member
    rcases waitsBefore waits with ⟨rfl, -, rfl⟩ | waited
    · obtain ⟨earlier, before, above, below⟩ := AliveCheck.recorded_askTargets _ member
      refine ⟨_, (asked id).trans (by rw [before]; rfl), below, ?_⟩
      rintro entry listens rfl
      rcases Connection.mem_subscribers_askedAmong listens with old | ⟨mailbox, -⟩
      · exact absurd (kept.listening before old).1 (Nat.not_lt.mpr above)
      · exact mailbox
    · obtain ⟨earlier, before, below, mailbox⟩ := kept.recorded waited member
      refine ⟨_, (asked id).trans (by rw [before]; rfl),
        Nat.lt_of_lt_of_le below Connection.nextSubscriber_le_askedAmong, ?_⟩
      rintro entry listens rfl
      rcases Connection.mem_subscribers_askedAmong listens with old | ⟨-, above, -⟩
      · exact mailbox entry old rfl
      · exact absurd below (Nat.not_lt.mpr above)
  · intro delivery member
    obtain ⟨waiter, check, waits⟩ := kept.delivered delivery member
    exact ⟨waiter, check, stillWaits waits⟩
  · intro waiter member target named
    have listed : ∃ earlier ∈ bench.runs, target ∈ earlier.targets := by
      rcases List.mem_or_eq_of_mem_set member with old | rfl
      · exact ⟨waiter, old, named⟩
      · exact ⟨run, List.mem_of_getElem? found, named⟩
    obtain ⟨earlier, old, alsoNamed⟩ := listed
    obtain ⟨connection, before⟩ := kept.present earlier old target alsoNamed
    exact ⟨_, (asked target).trans (by rw [before]; rfl)⟩
  · intro other waiter check waits
    rcases waitsBefore waits with ⟨-, rfl, rfl⟩ | waited
    · rfl
    · exact kept.checks waited

/-- A check that judges its targets takes away its own subscribers and its own reports. What remains
concerns other checks: their subscribers have other numbers, and their reports lie in other
mailboxes. -/
theorem Kept.ended (kept : bench.Kept) (waits : bench.Waits number run check) :
    (bench.ended now number run check).Kept := by
  have judged : ∀ id, (bench.ended now number run check).registry.pool.get? id =
      (bench.registry.pool.get? id).map (check.left (bench.registry.mail.reports number) id) :=
    fun id => AliveCheck.get?_finish _ _ check id bench.registry.pool
  have stillWaits : ∀ {other waiter held}, other ≠ number →
      ((bench.ended now number run check).Waits other waiter held ↔
        bench.Waits other waiter held) := fun different => waits_setStage_other different
  have different : ∀ {other waiter held},
      (bench.ended now number run check).Waits other waiter held → other ≠ number := by
    rintro other waiter held later rfl
    have finished := runs_setStage_self
      (.finished now (AliveCheck.responses check.targets (bench.registry.mail.reports other))) waits.1
    obtain rfl := Option.some.inj (finished.symm.trans later.1)
    cases later.2
  refine ⟨?_, ?_, ?_, ?_, ?_, ?_⟩
  · intro id connection left
    obtain ⟨earlier, before, rfl⟩ := Option.map_eq_some_iff.mp ((judged id).symm.trans left)
    exact AliveCheck.consistent_left (kept.consistent id earlier before)
  · intro id connection entry left listens
    obtain ⟨earlier, before, rfl⟩ := Option.map_eq_some_iff.mp ((judged id).symm.trans left)
    obtain ⟨old, unrecorded⟩ :=
      AliveCheck.mem_subscribers_left (kept.consistent id earlier before) listens
    obtain ⟨below, waiter, held, waited, member⟩ := kept.listening before old
    have another : entry.mailbox ≠ number := by
      intro same
      rw [same] at waited
      obtain rfl := Option.some.inj (waits.1.symm.trans waited.1)
      obtain rfl := CheckStage.waiting.inj (waits.2.symm.trans waited.2)
      exact unrecorded member
    refine ⟨?_, waiter, held, (stillWaits another).mpr waited, member⟩
    rw [AliveCheck.nextSubscriber_left]
    exact below
  · intro other waiter held id subscriber waited member
    obtain ⟨earlier, before, below, mailbox⟩ :=
      kept.recorded ((stillWaits (different waited)).mp waited) member
    refine ⟨_, (judged id).trans (by rw [before]; rfl), ?_, ?_⟩
    · rw [AliveCheck.nextSubscriber_left]
      exact below
    · intro entry listens
      exact mailbox entry
        (AliveCheck.mem_subscribers_left (kept.consistent id earlier before) listens).1
  · intro delivery member
    obtain ⟨old, another⟩ := List.mem_filter.mp member
    obtain ⟨waiter, held, waited⟩ := kept.delivered delivery old
    exact ⟨waiter, held, (stillWaits (by simpa using another)).mpr waited⟩
  · intro waiter member target named
    have listed : ∃ earlier ∈ bench.runs, target ∈ earlier.targets := by
      rcases List.mem_or_eq_of_mem_set member with old | rfl
      · exact ⟨waiter, old, named⟩
      · exact ⟨run, List.mem_of_getElem? waits.1, named⟩
    obtain ⟨earlier, old, alsoNamed⟩ := listed
    obtain ⟨connection, before⟩ := kept.present earlier old target alsoNamed
    exact ⟨_, (judged target).trans (by rw [before]; rfl)⟩
  · intro other waiter held waited
    exact kept.checks ((stillWaits (different waited)).mp waited)

/-- Whatever happens, the checks keep to themselves. One case for each kind of happening; only the
beginning and the end of a check are more than bookkeeping. -/
theorem Kept.meet (kept : bench.Kept) (happening : Happening) :
    (bench.meet now happening).Kept := by
  cases happening with
  | opening timings => exact kept.opening timings
  | event id event apart => exact kept.event event apart
  | call window targets sign => exact kept.call window targets sign
  | signal sign interrupted => exact kept.signal sign interrupted
  | abandon sign => exact kept.of_same rfl rfl
  | goOn number =>
    have progress := goesOn now number bench
    generalize bench.meet now (.goOn number) = later at progress
    cases progress with
    | rests unable => exact kept
    | begins found ready => exact kept.begun found ready
    | ends waits due => exact kept.ended waits

/-- Through any course the checks on a bench keep to themselves. -/
theorem Kept.follow (kept : bench.Kept) (course : Course) : (bench.follow course).Kept := by
  induction course using List.reverseRecOn with
  | nil => exact kept
  | append_singleton course entry inductionHypothesis =>
    rw [follow_concat]
    exact inductionHypothesis.meet entry.2

/-- A check that does not wait has no listeners. -/
theorem Kept.no_listener (kept : bench.Kept)
    (idle : ∀ run check, ¬ bench.Waits number run check)
    (found : bench.registry.pool.get? id = some connection) :
    ∀ entry ∈ connection.subscribers, entry.mailbox ≠ number := by
  rintro entry listens rfl
  obtain ⟨-, run, check, waits, -⟩ := kept.listening found listens
  exact idle run check waits

end Simulation.AliveCheckBench

end DiagnosticGateway
