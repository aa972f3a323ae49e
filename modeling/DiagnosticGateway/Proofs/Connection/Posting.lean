import DiagnosticGateway.Proofs.AliveCheck.Asking
import DiagnosticGateway.Proofs.Gateway.Traffic

/-!
# What a log tells of the queues

Whenever a message is queued on a connection, the log tells so. As long as every connection that
still sends is read, the log tells the truth: what comes into the queues is what was logged, message
by message and in the same order, and a connection that has ended its sending gets nothing more.

An account is made up of the accounts of its parts, so it is given here for every operation on one
connection and on a pool, up to both halves of an alive check.
-/

namespace DiagnosticGateway

namespace Log

/-- The message that an event tells was queued, with its connection. -/
def Event.post? : Event → Option (ConnectionId × Wire.Message)
  | messageQueued connection message => some (connection, message)
  | _ => none

/-- The messages that were queued, oldest first, each with its connection. -/
def posts (events : List Event) : List (ConnectionId × Wire.Message) :=
  events.filterMap Event.post?

/-- The messages that were queued on one connection, oldest first. -/
def postedOn (id : ConnectionId) (events : List Event) : List Wire.Message :=
  ((posts events).filter fun post => post.1 = id).map Prod.snd

variable {id : ConnectionId} {events : List Event}

/-- An empty log tells of no message. -/
@[simp] theorem posts_nil : posts [] = [] := rfl

/-- The first event of a log tells of a message or of none, and the rest of the log tells of its
own. -/
@[simp] theorem posts_cons (event : Event) (rest : List Event) :
    posts (event :: rest) = event.post?.toList ++ posts rest := by
  unfold posts
  rw [List.filterMap_cons]
  cases event.post? <;> rfl

/-- What a log tells is told by its parts, in their order. -/
@[simp] theorem posts_append (earlier later : List Event) :
    posts (earlier ++ later) = posts earlier ++ posts later :=
  List.filterMap_append

/-- An empty log tells of no message on a connection. -/
@[simp] theorem postedOn_nil : postedOn id [] = [] := rfl

/-- What a log tells of one connection is told by its parts, in their order. -/
@[simp] theorem postedOn_append (earlier later : List Event) :
    postedOn id (earlier ++ later) = postedOn id earlier ++ postedOn id later := by
  simp [postedOn]

/-- If no message was queued at all, none was queued on a connection. -/
theorem postedOn_of_silent (silent : posts events = []) : postedOn id events = [] := by
  simp [postedOn, silent]

/-- What is queued on one connection only. -/
theorem postedOn_of_own (own : ∀ post ∈ posts events, post.1 = id) (other : ConnectionId) :
    postedOn other events = if other = id then (posts events).map Prod.snd else [] := by
  unfold postedOn
  split
  · rename_i here
    rw [List.filter_eq_self.mpr fun post member => by simp [own post member, here]]
  · rename_i elsewhere
    rw [List.filter_eq_nil_iff.mpr fun post member => ?_, List.map_nil]
    simpa [own post member] using fun same : id = other => elsewhere same.symm

end Log

open Log

namespace Connection

/-- The connection is read as long as it sends. -/
def Attended (connection : Connection) : Prop :=
  connection.sending = true → connection.receiving = true

/-- The events tell what has come into the queue of a connection. -/
structure Accounts (before : Connection) (events : List Log.Event) (after : Connection) : Prop where
  id : after.id = before.id
  own : ∀ post ∈ posts events, post.1 = before.id
  ended : before.sending = false → after.sending = false ∧ posts events = []
  attended : before.Attended → after.Attended
  queued : before.Attended → after.outbound = before.outbound ++ (posts events).map Prod.snd

variable {connection before after : Connection} {events : List Log.Event}

/-- An operation that queues nothing and does not begin to send. It is the account of all operations
that concern other fields. -/
theorem accounts_of_same (silent : posts events = []) (id : after.id = before.id)
    (sending : after.sending = true → before.sending = true)
    (receiving : after.receiving = before.receiving) (outbound : after.outbound = before.outbound) :
    before.Accounts events after where
  id := id
  own post member := by rw [silent] at member; cases member
  ended ended := by
    refine ⟨?_, silent⟩
    cases sends : after.sending with
    | false => rfl
    | true => exact (ended.symm.trans (sending sends)).symm
  attended attended sends := receiving.trans (attended (sending sends))
  queued _ := by rw [outbound, silent, List.map_nil, List.append_nil]

/-- To start a connection is to set its timer, and queues nothing. -/
@[simp] theorem posts_start (now : Milliseconds) : posts (connection.start now).events = [] := by
  unfold start
  cases connection.phase <;> rfl

/-- To register a connection changes its phase and its timer, and queues nothing. The answer to the
tester is sent apart from it. -/
@[simp] theorem posts_activate (now : Milliseconds) (source : UInt16) :
    posts (connection.activate now source).events = [] := by
  unfold activate
  cases connection.phase <;> rfl

/-- A connection that is stopped keeps what waits in its queue, and gets nothing more. -/
@[simp] theorem posts_stop : posts connection.stop.events = [] := by
  unfold stop
  cases connection.phase <;> rfl

/-- A timer that expires stops its connection at most, so it queues nothing. -/
@[simp] theorem posts_timerExpired (kind : TimerKind) (generation : Nat) :
    posts (connection.timerExpired kind generation).events = [] := by
  unfold timerExpired
  split
  · exact posts_stop
  · rfl

/-- An alive check response goes to the subscribers of the connection and not into its queue. -/
@[simp] theorem posts_aliveResponse (source : UInt16) :
    posts (connection.aliveResponse source).events = [] := by
  unfold aliveResponse
  split <;> rfl

/-- A message that is sent is logged as queued unless the sending has ended. -/
theorem posts_send (message : Wire.Message) :
    posts (connection.send message).events =
      if connection.sending then [(connection.id, message)] else [] := by
  unfold send
  by_cases sending : connection.sending = true
  · by_cases receiving : connection.receiving = true <;> simp [sending, receiving] <;> rfl
  · simp only [sending]
    rfl

/-- A message that is sent is queued and logged, or neither if the connection has ended its
sending. -/
theorem accounts_send (message : Wire.Message) :
    connection.Accounts (connection.send message).events (connection.send message).value.1 := by
  by_cases sending : connection.sending = true
  · have told : posts (connection.send message).events = [(connection.id, message)] := by
      rw [posts_send, if_pos sending]
    have unended : connection.sending ≠ false := by simp [sending]
    refine ⟨?_, ?_, fun ended => absurd ended unended, ?_, fun attended => ?_⟩
    · rw [send_value]
      split <;> rfl
    · intro post member
      rw [told] at member
      obtain rfl := List.mem_singleton.mp member
      rfl
    · intro attended
      rw [send_value]
      split <;> exact attended
    · rw [send_value, told, if_pos (by simp [sending, attended sending])]
      rfl
  · unfold send
    rw [if_neg sending]
    exact accounts_of_same rfl rfl (fun sends => sends) rfl rfl

/-- The account of a start: nothing was queued. -/
theorem accounts_start (now : Milliseconds) :
    connection.Accounts (connection.start now).events (connection.start now).value := by
  unfold start
  cases connection.phase <;> exact accounts_of_same rfl rfl (fun sends => sends) rfl rfl

/-- The account of a registration: nothing was queued. -/
theorem accounts_activate (now : Milliseconds) (source : UInt16) :
    connection.Accounts (connection.activate now source).events
      (connection.activate now source).value.1 := by
  unfold activate
  cases connection.phase <;> exact accounts_of_same rfl rfl (fun sends => sends) rfl rfl

/-- Data that arrives renews the timer and has nothing to be told of. -/
theorem accounts_dataReceived (now : Milliseconds) :
    connection.Accounts [] (connection.dataReceived now) := by
  unfold dataReceived
  cases connection.phase <;> exact accounts_of_same rfl rfl (fun sends => sends) rfl rfl

/-- The account of a stop: the queue is as it was, and from now on nothing may come into it. -/
theorem accounts_stop : connection.Accounts connection.stop.events connection.stop.value := by
  by_cases closed : connection.phase = .closed
  · rw [stop_of_closed closed]
    exact accounts_of_same posts_stop rfl (fun sends => sends) rfl rfl
  · rw [stop_of_open closed]
    refine accounts_of_same posts_stop rfl (fun sends => ?_) rfl rfl
    cases sends

/-- The account of a timer that expires is that of a stop, or nothing has happened because the timer
is not the current one. -/
theorem accounts_timerExpired (kind : TimerKind) (generation : Nat) :
    connection.Accounts (connection.timerExpired kind generation).events
      (connection.timerExpired kind generation).value := by
  unfold timerExpired
  split
  · let untimed := { connection with timer := none }
    have stops : untimed.Accounts untimed.stop.events untimed.stop.value := accounts_stop
    exact ⟨stops.id, stops.own, stops.ended, stops.attended, stops.queued⟩
  · exact accounts_of_same rfl rfl (fun sends => sends) rfl rfl

/-- A subscription has nothing to be told of. -/
theorem accounts_subscribe (mailbox : MailboxId) :
    connection.Accounts [] (connection.subscribe mailbox).1 := by
  unfold subscribe
  cases connection.phase <;> exact accounts_of_same rfl rfl (fun sends => sends) rfl rfl

/-- The end of a subscription has nothing to be told of. -/
theorem accounts_unsubscribe (id : SubscriberId) :
    connection.Accounts [] (connection.unsubscribe id) :=
  accounts_of_same rfl rfl (fun sends => sends) rfl rfl

end Connection

namespace Pool

/-- Every connection that sends is read. -/
def Attended (pool : Pool) : Prop :=
  ∀ id connection, pool.get? id = some connection → connection.Attended

/-- A connection has ended its sending. -/
def HasEnded (id : ConnectionId) (pool : Pool) : Prop :=
  ∃ connection, pool.get? id = some connection ∧ connection.sending = false

/-- The events tell what has come into the queues of the connections. -/
structure Accounts (before : Pool) (events : List Log.Event) (after : Pool) : Prop where
  ended : ∀ id, before.HasEnded id → after.HasEnded id ∧ postedOn id events = []
  attended : before.Attended → after.Attended
  queued : before.Attended → ∀ id, after.waiting id = before.waiting id ++ postedOn id events

variable {pool before middle after : Pool} {id : ConnectionId} {earlier later : List Log.Event}

/-- Where nothing has changed, a log that tells of no message is a true account. -/
theorem accounts_of_same (silent : posts earlier = []) (same : after = before) :
    before.Accounts earlier after where
  ended id ended := ⟨same ▸ ended, postedOn_of_silent silent⟩
  attended attended := same ▸ attended
  queued _ id := by rw [same, postedOn_of_silent silent, List.append_nil]

/-- An account goes on from where another one ends. What one connection is sent in both is what it
is sent in the first, then in the second. -/
theorem Accounts.trans (first : before.Accounts earlier middle)
    (second : middle.Accounts later after) : before.Accounts (earlier ++ later) after where
  ended id ended := by
    obtain ⟨between, quiet⟩ := first.ended id ended
    obtain ⟨still, quietLater⟩ := second.ended id between
    exact ⟨still, by rw [postedOn_append, quiet, quietLater, List.append_nil]⟩
  attended attended := second.attended (first.attended attended)
  queued attended id := by
    rw [second.queued (first.attended attended), first.queued attended, postedOn_append,
      List.append_assoc]

/-- What is logged besides does not matter. -/
theorem Accounts.congr (accounts : before.Accounts earlier after)
    (same : posts later = posts earlier) : before.Accounts later after := by
  have posted : ∀ id, postedOn id later = postedOn id earlier := fun id => by
    rw [postedOn, same, postedOn]
  exact ⟨fun id ended => posted id ▸ accounts.ended id ended, accounts.attended,
    fun attended id => posted id ▸ accounts.queued attended id⟩

/-- Whoever asks a connection logs what the connection logs. It is the first connection with the
number that is asked, and where there is none nothing is logged. -/
theorem events_ask {answer : Type} (id : ConnectionId)
    (change : Connection → Logged (Connection × answer)) (pool : Pool) :
    (pool.ask id change).events =
      (pool.get? id).elim [] fun connection => (change connection).events := by
  have changes : ∀ connections : List Connection, (changeList id change connections).events =
      (connections.find? fun connection => connection.id == id).elim [] fun connection =>
        (change connection).events := by
    intro connections
    induction connections with
    | nil => rfl
    | cons first rest inductionHypothesis =>
      by_cases here : first.id = id
      · simp [changeList, here]
      · simp [changeList, here, inductionHypothesis]
  simp only [ask, Logged.events_bind, Logged.events_pure, List.append_nil]
  exact changes pool.connections

/-- Whatever is silent on each connection is silent on the pool. -/
theorem posts_ask {answer : Type} {change : Connection → Logged (Connection × answer)}
    (silent : ∀ connection, posts (change connection).events = []) :
    posts (pool.ask id change).events = [] := by
  rw [events_ask]
  cases pool.get? id with
  | none => rfl
  | some connection => exact silent connection

/-- A step that queues nothing on any connection queues nothing when it is taken by one of a
pool. -/
theorem posts_change {step : Connection → Logged Connection}
    (silent : ∀ connection, posts (step connection).events = []) :
    posts (pool.change id step).events = [] := by
  have asks : posts (pool.ask id fun connection => do return (← step connection, ())).events = [] :=
    posts_ask fun connection => by simpa using silent connection
  simpa [Pool.change] using asks

/-- To stop a connection of a pool queues nothing. -/
@[simp] theorem posts_stop : posts (pool.stop id).events = [] :=
  posts_change fun _ => Connection.posts_stop

/-- To stop several connections queues nothing, by induction on those that are still to be
stopped. -/
@[simp] theorem posts_stopAll (ids : List ConnectionId) : posts (pool.stopAll ids).events = [] := by
  induction ids generalizing pool with
  | nil => rfl
  | cons id rest inductionHypothesis => simp [stopAll, inductionHypothesis]

/-- A timer that expires in a pool queues nothing. -/
@[simp] theorem posts_expire : posts (pool.expire id).events = [] := by
  refine posts_change fun connection => ?_
  cases connection.timer with
  | none => rfl
  | some timer => exact connection.posts_timerExpired timer.kind timer.generation

/-- An alive check response that arrives in a pool queues nothing. -/
@[simp] theorem posts_aliveResponse (source : UInt16) :
    posts (pool.aliveResponse id source).events = [] := by
  unfold aliveResponse
  cases pool.get? id with
  | none => rfl
  | some connection => exact connection.posts_aliveResponse source

/-- To send on a connection of a pool logs what the connection logs, and nothing if there is no such
connection. -/
theorem events_send (id : ConnectionId) (message : Wire.Message) (pool : Pool) :
    (pool.send id message).events =
      (pool.get? id).elim [] fun connection => (connection.send message).events := by
  simp only [Pool.send, Pool.change, Logged.events_bind, Logged.events_pure, List.append_nil,
    events_ask]

/-- Nothing is queued but the message that is sent. A connection that does not send any more queues
nothing at all. -/
theorem eq_of_mem_posts_send {message : Wire.Message} {post : ConnectionId × Wire.Message}
    (member : post ∈ posts (pool.send id message).events) : post = (id, message) := by
  rw [events_send] at member
  cases found : pool.get? id with
  | none =>
    rw [found] at member
    cases member
  | some connection =>
    rw [found, Option.elim_some, Connection.posts_send, id_of_get? found] at member
    split at member
    · exact List.mem_singleton.mp member
    · cases member

/-- A message that is sent to an open connection is logged as queued on it, and any other is
dropped. -/
theorem posts_send (consistent : pool.Consistent) (message : Wire.Message) :
    posts (pool.send id message).events = if pool.isOpen id then [(id, message)] else [] := by
  rw [events_send, isOpen]
  cases found : pool.get? id with
  | none => rfl
  | some connection =>
    rw [Option.elim_some, Connection.posts_send, id_of_get? found]
    have sending := (consistent id connection found).sending
    by_cases closed : connection.phase = .closed
    · have silent : connection.sending ≠ true := fun sends => sending.mp sends closed
      simp [Connection.isClosed, closed, silent]
    · simp [Connection.isClosed, closed, sending.mpr closed]

/-- A change of the connections under one number is accounted for by what it does to each. The
events name that number and no other, so the queues of all others have to be the same, and
they are. -/
theorem accounts_of_get? {change : Connection → Connection} {events : List Log.Event}
    (found : ∀ other, after.get? other =
      (pool.get? other).map fun connection => if other = id then change connection else connection)
    (accounts : ∀ connection, pool.get? id = some connection →
      connection.Accounts events (change connection))
    (missing : pool.get? id = none → posts events = []) : pool.Accounts events after := by
  have own : ∀ post ∈ posts events, post.1 = id := by
    intro post member
    cases there : pool.get? id with
    | none =>
      rw [missing there] at member
      cases member
    | some connection =>
      rw [(accounts connection there).own post member, id_of_get? there]
  refine ⟨?_, ?_, ?_⟩
  · rintro other ⟨connection, there, ended⟩
    by_cases here : other = id
    · subst here
      obtain ⟨still, silent⟩ := (accounts connection there).ended ended
      exact ⟨⟨change connection, by rw [found, there]; simp, still⟩, postedOn_of_silent silent⟩
    · refine ⟨⟨connection, by rw [found, there]; simp [here], ended⟩, ?_⟩
      rw [postedOn_of_own own, if_neg here]
  · intro attended other later there
    rw [found] at there
    obtain ⟨connection, earlier, rfl⟩ := Option.map_eq_some_iff.mp there
    by_cases here : other = id
    · subst here
      rw [if_pos rfl]
      exact (accounts connection earlier).attended (attended other connection earlier)
    · rw [if_neg here]
      exact attended other connection earlier
  · intro attended other
    rw [postedOn_of_own own]
    unfold waiting
    rw [found]
    cases there : pool.get? other with
    | none =>
      by_cases here : other = id
      · simp [here, missing (here ▸ there)]
      · simp [here]
    | some connection =>
      by_cases here : other = id
      · subst here
        simpa using (accounts connection there).queued (attended other connection there)
      · simp [here]

/-- If a step gives a true account of every connection, it gives one of a pool when it is taken by
one of its connections: the others have neither changed nor been told of. -/
theorem accounts_ask {answer : Type} {change : Connection → Logged (Connection × answer)}
    (accounts : ∀ connection,
      Connection.Accounts connection (change connection).events (change connection).value.1) :
    pool.Accounts (pool.ask id change).events (pool.ask id change).value.1 := by
  refine accounts_of_get? (fun other => get?_ask id other change (fun c => (accounts c).id) pool)
    ?_ ?_
  · intro connection found
    rw [events_ask, found]
    exact accounts connection
  · intro missing
    rw [events_ask, missing]
    rfl

/-- The same of a step that has no answer. -/
theorem accounts_change {step : Connection → Logged Connection}
    (accounts : ∀ connection,
      Connection.Accounts connection (step connection).events (step connection).value) :
    pool.Accounts (pool.change id step).events (pool.change id step).value := by
  let asked := pool.ask id fun connection => do return (← step connection, ())
  have asks : pool.Accounts asked.events asked.value.1 :=
    accounts_ask fun connection => by simpa using accounts connection
  simpa [Pool.change, asked] using asks

/-- The same of a step that logs nothing. -/
theorem accounts_update {change : Connection → Connection}
    (accounts : ∀ connection : Connection, connection.Accounts [] (change connection)) :
    pool.Accounts [] (pool.update id change) :=
  accounts_of_get? (fun other => get?_update id other change (fun c => (accounts c).id) pool)
    (fun connection _ => accounts connection) fun _ => rfl

/-- A new connection has an empty queue. Under its number nothing was found before, so nothing can
have been queued there. -/
theorem accounts_insert (id : ConnectionId) (timings : Timings) :
    pool.Accounts [] (pool.insert (.new id timings)) := by
  have found := fun other => get?_insert other (.new id timings) pool
  refine ⟨?_, ?_, ?_⟩
  · rintro other ⟨connection, there, ended⟩
    exact ⟨⟨connection, by rw [found, there]; rfl, ended⟩, rfl⟩
  · intro attended other connection there
    rw [found] at there
    rcases Option.or_eq_some_iff.mp there with old | ⟨-, new⟩
    · exact attended other connection old
    · split at new
      · obtain rfl := Option.some.inj new
        exact fun _ => rfl
      · cases new
  · intro _ other
    unfold waiting
    rw [found]
    cases pool.get? other with
    | some connection => simp
    | none =>
      by_cases here : id = other
      · simp [Connection.new, here]
      · simp [Connection.new, here]

/-- The account of a message that is sent in a pool is that of the connection it is sent on. -/
theorem accounts_send (id : ConnectionId) (message : Wire.Message) (pool : Pool) :
    pool.Accounts (pool.send id message).events (pool.send id message).value :=
  accounts_change fun connection => by simpa using connection.accounts_send message

/-- The account of a connection that is stopped in a pool. -/
theorem accounts_stop : pool.Accounts (pool.stop id).events (pool.stop id).value :=
  accounts_change fun connection => connection.accounts_stop

/-- The account of several connections that are stopped in order is made up of those of the single
ones. -/
theorem accounts_stopAll (ids : List ConnectionId) :
    pool.Accounts (pool.stopAll ids).events (pool.stopAll ids).value := by
  induction ids generalizing pool with
  | nil => exact accounts_of_same rfl rfl
  | cons id rest inductionHypothesis => exact accounts_stop.trans inductionHypothesis

/-- The account of a timer that expires in a pool. -/
theorem accounts_expire : pool.Accounts (pool.expire id).events (pool.expire id).value := by
  refine accounts_change fun connection => ?_
  cases connection.timer with
  | none => exact Connection.accounts_of_same rfl rfl (fun sends => sends) rfl rfl
  | some timer => exact connection.accounts_timerExpired timer.kind timer.generation

end Pool

namespace AliveCheck

variable {pool : Pool}

/-- A check queues nothing but requests for signs of life, and only on its targets. -/
def Asks (targets : List ConnectionId) (events : List Log.Event) : Prop :=
  ∀ post ∈ posts events, post.1 ∈ targets ∧ post.2 = .aliveCheckRequest

/-- Where nothing is queued, nothing is asked of anybody but the targets. -/
theorem asks_of_silent {targets : List ConnectionId} {events : List Log.Event}
    (silent : posts events = []) : Asks targets events := by
  intro post member
  rw [silent] at member
  cases member

/-- Two parts of a log that ask nothing but the targets make up one that does not either. -/
theorem Asks.append {targets : List ConnectionId} {earlier later : List Log.Event}
    (first : Asks targets earlier) (second : Asks targets later) :
    Asks targets (earlier ++ later) := by
  intro post member
  rw [posts_append] at member
  exact (List.mem_append.mp member).elim (first post) (second post)

/-- Who is not a target is asked nothing. -/
theorem Asks.postedOn {targets : List ConnectionId} {events : List Log.Event}
    (asks : Asks targets events) {id : ConnectionId} (other : id ∉ targets) :
    Log.postedOn id events = [] := by
  refine List.map_eq_nil_iff.mpr (List.filter_eq_nil_iff.mpr fun post member => ?_)
  intro here
  exact other (of_decide_eq_true here ▸ (asks post member).1)

/-- Asking one target is accounted for. The subscription queues nothing, and the request for a sign
of life is queued on the target. -/
theorem accounts_askTarget (mailbox : MailboxId) (target : ConnectionId) (pool : Pool) :
    pool.Accounts (askTarget mailbox target pool).events
      (askTarget mailbox target pool).value.1 := by
  have subscribes : pool.Accounts _ (pool.ask target fun connection =>
      return connection.subscribe mailbox).value.1 :=
    Pool.accounts_ask fun connection => connection.accounts_subscribe mailbox
  unfold askTarget
  simp only [Logged.value_bind, Logged.events_bind]
  refine subscribes.trans ?_
  split
  · exact (Pool.accounts_send target .aliveCheckRequest _).trans (Pool.accounts_of_same rfl rfl)
  · exact Pool.accounts_of_same rfl rfl

/-- To ask a target queues a request for a sign of life on it, if it can be subscribed to. A target
that takes no subscription is asked nothing. -/
theorem asks_askTarget (mailbox : MailboxId) (target : ConnectionId) (pool : Pool) :
    Asks [target] (askTarget mailbox target pool).events := by
  unfold askTarget
  simp only [Logged.events_bind]
  refine Asks.append (asks_of_silent (Pool.posts_ask fun _ => rfl)) ?_
  split
  · refine Asks.append (fun post member => ?_) (asks_of_silent rfl)
    obtain rfl := Pool.eq_of_mem_posts_send member
    exact ⟨List.mem_singleton_self _, rfl⟩
  · exact asks_of_silent rfl

/-- The account of a check that begins is made up of those of its targets, each of which is
subscribed to and then asked. -/
theorem accounts_askTargets (mailbox : MailboxId) (targets : List ConnectionId) (pool : Pool) :
    pool.Accounts (askTargets mailbox targets pool).events
      (askTargets mailbox targets pool).value.1 := by
  induction targets generalizing pool with
  | nil => exact Pool.accounts_of_same rfl rfl
  | cons target rest inductionHypothesis =>
    exact (accounts_askTarget mailbox target pool).trans
      ((inductionHypothesis _).trans (Pool.accounts_of_same rfl rfl))

/-- A check that begins asks all of its targets and nobody else. The induction is on the targets,
and the requests of each come before those of the next. -/
theorem asks_askTargets (mailbox : MailboxId) (targets : List ConnectionId) (pool : Pool) :
    Asks targets (askTargets mailbox targets pool).events := by
  induction targets generalizing pool with
  | nil => exact asks_of_silent rfl
  | cons target rest inductionHypothesis =>
    refine Asks.append (fun post member => ?_) (Asks.append (fun post member => ?_)
      (asks_of_silent rfl))
    · obtain ⟨named, request⟩ := asks_askTarget mailbox target pool post member
      obtain rfl : post.1 = target := List.mem_singleton.mp named
      exact ⟨List.mem_cons_self, request⟩
    · obtain ⟨named, request⟩ := inductionHypothesis _ post member
      exact ⟨List.mem_cons_of_mem _ named, request⟩

/-- A response that does not count is logged, and nobody gets a message for it. -/
@[simp] theorem posts_logIgnored (reports : List AliveReport) :
    posts (logIgnored reports).events = [] := by
  induction reports with
  | nil => rfl
  | cons report rest inductionHypothesis =>
    unfold logIgnored
    split <;> simpa [Log.Event.post?] using inductionHypothesis

/-- The account of a check that closes the silent among its targets is made up of stops. The
induction is on the targets, of which the others are left alone. -/
theorem accounts_closeSilent (reports : List AliveReport) (targets : List ConnectionId)
    (pool : Pool) :
    pool.Accounts (closeSilent reports targets pool).events
      (closeSilent reports targets pool).value := by
  induction targets generalizing pool with
  | nil => exact Pool.accounts_of_same rfl rfl
  | cons target rest inductionHypothesis =>
    unfold closeSilent
    split
    · have logs : pool.Accounts [.aliveCheckSilent target] pool := Pool.accounts_of_same rfl rfl
      exact logs.trans (Pool.accounts_stop.trans (inductionHypothesis _))
    · exact inductionHypothesis pool

/-- A check that ends queues nothing: whoever is silent is closed without a word. -/
@[simp] theorem posts_closeSilent (reports : List AliveReport) (targets : List ConnectionId)
    (pool : Pool) : posts (closeSilent reports targets pool).events = [] := by
  induction targets generalizing pool with
  | nil => rfl
  | cons target rest inductionHypothesis =>
    unfold closeSilent
    split
    · simp [inductionHypothesis, Log.Event.post?]
    · exact inductionHypothesis pool

/-- When a check ends its subscriptions there is nothing to be told of. -/
theorem accounts_unsubscribeAll (subscriptions : List (ConnectionId × SubscriberId)) (pool : Pool) :
    pool.Accounts [] (unsubscribeAll subscriptions pool) := by
  induction subscriptions generalizing pool with
  | nil => exact Pool.accounts_of_same rfl rfl
  | cons subscription rest inductionHypothesis =>
    have ends : pool.Accounts [] (pool.update subscription.1 (Connection.unsubscribe subscription.2)) :=
      Pool.accounts_update fun connection => connection.accounts_unsubscribe subscription.2
    exact ends.trans (inductionHypothesis _)

/-- The end of a check queues nothing. The subscriptions are ended, silent targets are stopped, and
neither sends anything. -/
theorem accounts_finish (interrupted : Bool) (reports : List AliveReport) (check : AliveCheck)
    (pool : Pool) :
    pool.Accounts (check.finish interrupted reports pool).events
        (check.finish interrupted reports pool).value.1 ∧
      posts (check.finish interrupted reports pool).events = [] := by
  have closes := (accounts_unsubscribeAll check.subscriptions pool).trans
    (accounts_closeSilent reports check.targets _)
  have silent : posts (check.finish interrupted reports pool).events = [] := by
    unfold finish
    split <;> simp [Log.Event.post?]
  refine ⟨?_, silent⟩
  rw [finish_value]
  refine closes.congr ?_
  rw [silent]
  simp

end AliveCheck

end DiagnosticGateway
