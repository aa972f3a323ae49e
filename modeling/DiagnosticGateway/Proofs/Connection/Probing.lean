import DiagnosticGateway.AliveCheck
import DiagnosticGateway.Proofs.Connection.Lookup

/-!
# What an alive check does to a connection

The first half of a check asks its targets: an open target gains a subscriber for the check's
mailbox and an alive check request in its queue, once for every time it is named. The second
half ends exactly the subscriptions that were made and closes the targets without a counting
report. Neither half touches an address or a timer of a connection that it leaves open.

The judgement is read off the reports alone. A target counts as alive when some report from it
named the address that was registered when it arrived.
-/

namespace DiagnosticGateway

namespace Connection

/-- The connection after an alive check has asked it once. -/
def asked (mailbox : MailboxId) (connection : Connection) : Connection :=
  match connection.phase with
  | .closed => connection
  | _ => ((connection.subscribe mailbox).1.send .aliveCheckRequest).value.1

/-- The connection found under a number after an alive check has asked a list of targets. -/
def askedAmong (mailbox : MailboxId) (id : ConnectionId) (targets : List ConnectionId)
    (connection : Connection) : Connection :=
  targets.foldl (fun current target => if id = target then current.asked mailbox else current)
    connection

variable {connection : Connection} {mailbox : MailboxId}

/-- A closed connection is not asked, and nobody listens to it. -/
theorem asked_of_closed (closed : connection.phase = .closed) :
    connection.asked mailbox = connection := by
  simp [asked, closed]

/-- Being asked adds one subscriber and, while someone reads the queue, one request. The
subscription is entered before the request is queued, so that no answer to it can come too early. -/
theorem asked_of_open (opened : connection.phase ≠ .closed) :
    connection.asked mailbox =
      { connection with
        subscribers := connection.subscribers ++ [⟨connection.nextSubscriber, mailbox⟩]
        nextSubscriber := connection.nextSubscriber + 1
        outbound :=
          if connection.sending && connection.receiving then
            connection.outbound ++ [.aliveCheckRequest]
          else connection.outbound } := by
  have queued : connection.asked mailbox =
      ((connection.subscribe mailbox).1.send .aliveCheckRequest).value.1 := by
    unfold asked
    cases phase : connection.phase with
    | closed => exact absurd phase opened
    | _ => rfl
  rw [queued, subscribe_of_open mailbox opened, send_value]
  split <;> rfl

/-- Being asked leaves the fields of a connection in agreement. -/
theorem consistent_asked (consistent : connection.Consistent) :
    (connection.asked mailbox).Consistent := by
  unfold asked
  split
  · exact consistent
  · exact consistent_send _ (consistent_subscribe mailbox consistent)

/-- What being asked once leaves alone is left alone however often a connection is asked. The field
is any function of the connection, and the induction on the targets is done once for all fields. -/
theorem askedAmong_keeps {field : Type} (read : Connection → field) {id : ConnectionId}
    {targets : List ConnectionId}
    (keeps : ∀ connection : Connection, connection.phase ≠ .closed →
      read (connection.asked mailbox) = read connection) :
    read (connection.askedAmong mailbox id targets) = read connection := by
  have once : ∀ connection : Connection,
      read (connection.asked mailbox) = read connection := by
    intro connection
    by_cases closed : connection.phase = .closed
    · rw [asked_of_closed closed]
    · exact keeps connection closed
  induction targets generalizing connection with
  | nil => rfl
  | cons target rest inductionHypothesis =>
    by_cases here : id = target
    · simp only [askedAmong, List.foldl_cons, if_pos here]
      exact inductionHypothesis.trans (once connection)
    · simp only [askedAmong, List.foldl_cons, if_neg here]
      exact inductionHypothesis

/-- Being asked does not change the phase. -/
theorem phase_askedAmong {id : ConnectionId} {targets : List ConnectionId} :
    (connection.askedAmong mailbox id targets).phase = connection.phase :=
  askedAmong_keeps phase fun _ opened => by rw [asked_of_open opened]

/-- Being asked does not change the address. -/
theorem sourceAddress_askedAmong {id : ConnectionId} {targets : List ConnectionId} :
    (connection.askedAmong mailbox id targets).sourceAddress = connection.sourceAddress :=
  askedAmong_keeps sourceAddress fun _ opened => by rw [asked_of_open opened]

/-- Being asked does not change whether the connection still receives. -/
theorem receiving_askedAmong {id : ConnectionId} {targets : List ConnectionId} :
    (connection.askedAmong mailbox id targets).receiving = connection.receiving :=
  askedAmong_keeps receiving fun _ opened => by rw [asked_of_open opened]

/-- Being asked, however often a number is among the targets, leaves the fields of a connection in
agreement. -/
theorem consistent_askedAmong {id : ConnectionId} {targets : List ConnectionId}
    (consistent : connection.Consistent) :
    (connection.askedAmong mailbox id targets).Consistent := by
  induction targets generalizing connection with
  | nil => exact consistent
  | cons target rest inductionHypothesis =>
    simp only [askedAmong, List.foldl_cons]
    split
    · exact inductionHypothesis (consistent_asked consistent)
    · exact inductionHypothesis consistent

/-- A connection that is not among the targets is not asked. -/
theorem askedAmong_of_not_mem {id : ConnectionId} {targets : List ConnectionId}
    (apart : id ∉ targets) : connection.askedAmong mailbox id targets = connection := by
  induction targets generalizing connection with
  | nil => rfl
  | cons target rest inductionHypothesis =>
    have different : id ≠ target := fun same => apart (same ▸ List.mem_cons_self)
    simp only [askedAmong, List.foldl_cons, if_neg different]
    exact inductionHypothesis fun member => apart (List.mem_cons_of_mem target member)

/-- A target that is named once is asked once. The induction is on the targets: before its turn and
after it the connection is not touched. -/
theorem askedAmong_of_mem {id : ConnectionId} {targets : List ConnectionId}
    (distinct : targets.Nodup) (member : id ∈ targets) :
    connection.askedAmong mailbox id targets = connection.asked mailbox := by
  induction targets generalizing connection with
  | nil => exact absurd member List.not_mem_nil
  | cons target rest inductionHypothesis =>
    have fresh : target ∉ rest := (List.nodup_cons.mp distinct).1
    have restDistinct : rest.Nodup := (List.nodup_cons.mp distinct).2
    by_cases here : id = target
    · simp only [askedAmong, List.foldl_cons, if_pos here]
      exact askedAmong_of_not_mem (here ▸ fresh)
    · simp only [askedAmong, List.foldl_cons, if_neg here]
      exact inductionHypothesis restDistinct (List.mem_of_ne_of_mem here member)

end Connection

namespace AliveCheck

open Connection

/-- Asking one target changes that connection and no other. Whether the request is sent depends on
what the subscription has answered, and a connection answers it by its phase. -/
theorem get?_askTarget (mailbox : MailboxId) (target other : ConnectionId) (pool : Pool) :
    (askTarget mailbox target pool).value.1.get? other =
      (pool.get? other).map fun connection =>
        if other = target then connection.asked mailbox else connection := by
  have subscribed : ∀ number, (pool.ask target fun connection =>
      return connection.subscribe mailbox).value.1.get? number =
        (pool.get? number).map fun connection =>
          if number = target then (connection.subscribe mailbox).1 else connection := fun number =>
    Pool.get?_ask target number _ (fun connection => id_next 0 (.subscribe mailbox) connection) pool
  have answer := Pool.ask_answer target
    (fun connection => return connection.subscribe mailbox) pool
  unfold askTarget
  simp only [Logged.value_bind, Logged.value_pure] at answer subscribed ⊢
  cases found : pool.get? target with
  | none =>
    simp only [found, Option.map_none] at answer
    simp only [answer, Logged.value_bind, Logged.value_pure, subscribed]
    by_cases here : other = target
    · rw [here, found]
      rfl
    · simp [here]
  | some connection =>
    simp only [found, Option.map_some] at answer
    by_cases closed : connection.phase = .closed
    · simp only [answer, subscribe_of_closed mailbox closed, Logged.value_bind, Logged.value_pure,
        subscribed]
      by_cases here : other = target
      · rw [here, found]
        simp [subscribe_of_closed mailbox closed, asked_of_closed closed]
      · simp [here]
    · simp only [answer, subscribe_of_open mailbox closed, Logged.value_bind, Logged.value_pure]
      rw [Pool.send, Pool.get?_change target other _
        (fun connection => id_next 0 (.send .aliveCheckRequest) connection), subscribed,
        Option.map_map]
      by_cases here : other = target
      · rw [here, found]
        have queued : connection.asked mailbox =
            ((connection.subscribe mailbox).1.send .aliveCheckRequest).value.1 := by
          rw [asked_of_open closed, subscribe_of_open mailbox closed, send_value]
          split <;> rfl
        simp [queued]
      · simp [here, Function.comp_def]

/-- An open target answers with the number of its new subscriber. A closed target gives no number,
and neither does one that does not exist. -/
theorem askTarget_answer (mailbox : MailboxId) (target : ConnectionId) (pool : Pool) :
    (askTarget mailbox target pool).value.2 =
      (pool.get? target).bind fun connection => (connection.subscribe mailbox).2 := by
  have answer := Pool.ask_answer target
    (fun connection => return connection.subscribe mailbox) pool
  unfold askTarget
  simp only [Logged.value_bind, Logged.value_pure] at answer ⊢
  cases found : pool.get? target with
  | none => simp [answer, found]
  | some connection =>
    cases number : (connection.subscribe mailbox).2 <;> simp [answer, found, number]

/-- Asking a list of targets asks each connection as often as it is named. -/
theorem get?_askTargets (mailbox : MailboxId) (other : ConnectionId)
    (targets : List ConnectionId) (pool : Pool) :
    (askTargets mailbox targets pool).value.1.get? other =
      (pool.get? other).map (askedAmong mailbox other targets) := by
  induction targets generalizing pool with
  | nil => cases found : pool.get? other <;> simp [askTargets, askedAmong, found]
  | cons target rest inductionHypothesis =>
    simp only [askTargets, Logged.value_bind, Logged.value_pure, inductionHypothesis,
      get?_askTarget, Option.map_map]
    rfl

/-- Whoever listens to a connection after the targets were asked has listened before, or
belongs to a subscription of this check. -/
theorem subscribers_askTargets (mailbox : MailboxId) {id : ConnectionId}
    {targets : List ConnectionId} {pool : Pool} {before after : Connection}
    (found : pool.get? id = some before)
    (left : (askTargets mailbox targets pool).value.1.get? id = some after)
    {entry : Subscriber} (listens : entry ∈ after.subscribers) :
    entry ∈ before.subscribers ∨
      entry.mailbox = mailbox ∧ (id, entry.id) ∈ (askTargets mailbox targets pool).value.2 := by
  induction targets generalizing pool before with
  | nil =>
    have same : before = after := by
      simpa [askTargets, found] using left
    exact Or.inl (same ▸ listens)
  | cons target rest inductionHypothesis =>
    simp only [askTargets, Logged.value_bind, Logged.value_pure] at left ⊢
    have first := get?_askTarget mailbox target id pool
    rw [found, Option.map_some] at first
    rcases inductionHypothesis first left with earlier | ⟨own, recorded⟩
    · by_cases here : id = target
      · by_cases closed : before.phase = .closed
        · rw [if_pos here, asked_of_closed closed] at earlier
          exact Or.inl earlier
        · rw [if_pos here, asked_of_open closed] at earlier
          rcases List.mem_append.mp earlier with old | new
          · exact Or.inl old
          · obtain rfl : entry = ⟨before.nextSubscriber, mailbox⟩ := List.mem_singleton.mp new
            refine Or.inr ⟨rfl, List.mem_append_left _ ?_⟩
            rw [askTarget_answer, ← here, found, Option.bind_some, subscribe_of_open _ closed]
            simp
      · rw [if_neg here] at earlier
        exact Or.inl earlier
    · exact Or.inr ⟨own, List.mem_append_right _ recorded⟩

/-- A check records its targets only. The induction is on the targets, in the order in which they
are asked. -/
theorem target_of_recorded (mailbox : MailboxId) {targets : List ConnectionId} {pool : Pool}
    {entry : ConnectionId × SubscriberId}
    (recorded : entry ∈ (askTargets mailbox targets pool).value.2) :
    entry.1 ∈ targets := by
  induction targets generalizing pool with
  | nil => exact absurd recorded List.not_mem_nil
  | cons target rest inductionHypothesis =>
    simp only [askTargets, Logged.value_bind, Logged.value_pure] at recorded
    rcases List.mem_append.mp recorded with first | later
    · obtain ⟨number, -, rfl⟩ := Option.map_eq_some_iff.mp (Option.mem_toList.mp first)
      exact List.mem_cons_self
    · exact List.mem_cons_of_mem _ (inductionHypothesis later)

/-- Ending subscriptions takes exactly the recorded subscribers from each connection. The induction
is on the subscriptions; a number that is no longer listed is passed over. -/
theorem get?_unsubscribeAll (subscriptions : List (ConnectionId × SubscriberId))
    (other : ConnectionId) (pool : Pool) :
    (unsubscribeAll subscriptions pool).get? other =
      (pool.get? other).map fun connection =>
        { connection with
          subscribers := connection.subscribers.filter fun entry =>
            (other, entry.id) ∉ subscriptions } := by
  induction subscriptions generalizing pool with
  | nil =>
    have all : ∀ connection : Connection, connection.subscribers.filter (fun entry =>
        (other, entry.id) ∉ ([] : List (ConnectionId × SubscriberId))) = connection.subscribers :=
      fun connection => List.filter_eq_self.mpr (by simp)
    simp only [unsubscribeAll, List.foldl_nil, all]
    cases pool.get? other <;> rfl
  | cons subscription rest inductionHypothesis =>
    have step : unsubscribeAll (subscription :: rest) pool =
        unsubscribeAll rest (pool.update subscription.1 (unsubscribe subscription.2)) := rfl
    rw [step, inductionHypothesis,
      Pool.get?_update _ _ (unsubscribe subscription.2) (fun _ => rfl), Option.map_map]
    congr 1
    funext connection
    by_cases here : other = subscription.1
    · simp only [Function.comp_apply, if_pos here, unsubscribe, List.filter_filter]
      congr 1
      apply List.filter_congr
      intro entry _
      have pair : (other, entry.id) = subscription ↔ entry.id = subscription.2 := by
        rw [here]
        exact ⟨fun same => congrArg Prod.snd same, fun same => Prod.ext rfl same⟩
      rw [Bool.eq_iff_iff]
      simp [pair, and_comm]
    · have pair : ∀ entry : Subscriber, ¬ (other, entry.id) = subscription := fun entry same =>
        here (congrArg Prod.fst same)
      simp [here, pair]

/-- Closing the silent targets closes each target that has no counting report. A target that is
listed twice is closed twice, which is no different from once. -/
theorem get?_closeSilent (reports : List AliveReport) (other : ConnectionId)
    (targets : List ConnectionId) (pool : Pool) :
    (closeSilent reports targets pool).value.get? other =
      (pool.get? other).map fun connection =>
        if other ∈ targets ∧ counting reports other = [] then connection.stop.value
        else connection := by
  induction targets generalizing pool with
  | nil => simp [closeSilent]
  | cons target rest inductionHypothesis =>
    have twice : ∀ connection : Connection,
        connection.stop.value.stop.value = connection.stop.value := fun connection =>
      stop_of_closed (phase_stop connection)
    unfold closeSilent
    by_cases silent : counting reports target = []
    · simp only [silent, List.isEmpty_nil, if_true, Logged.value_bind, inductionHypothesis,
        Pool.get?_stop, Option.map_map]
      congr 1
      funext connection
      by_cases here : other = target
      · by_cases again : other ∈ rest <;> simp [here, silent, twice]
      · simp [here]
    · have speaks : (counting reports target).isEmpty = false := by simpa using silent
      simp only [speaks, Bool.false_eq_true, if_false, inductionHypothesis]
      congr 1
      funext connection
      by_cases here : other = target
      · simp [here, silent]
      · simp [here]

/-- The connection that the end of a check leaves behind under a number. -/
def left (check : AliveCheck) (reports : List AliveReport) (id : ConnectionId)
    (connection : Connection) : Connection :=
  let released : Connection :=
    { connection with
      subscribers := connection.subscribers.filter fun entry =>
        (id, entry.id) ∉ check.subscriptions }
  if id ∈ check.targets ∧ counting reports id = [] then released.stop.value else released

/-- The end of a check, apart from what it logs. -/
theorem finish_value (interrupted : Bool) (reports : List AliveReport) (check : AliveCheck)
    (pool : Pool) :
    (check.finish interrupted reports pool).value =
      ((closeSilent reports check.targets (unsubscribeAll check.subscriptions pool)).value,
        responses check.targets reports) := by
  cases interrupted <;> rfl

/-- The end of a check acts on every connection by itself. -/
theorem get?_finish (interrupted : Bool) (reports : List AliveReport) (check : AliveCheck)
    (other : ConnectionId) (pool : Pool) :
    (check.finish interrupted reports pool).value.1.get? other =
      (pool.get? other).map (check.left reports other) := by
  rw [finish_value, get?_closeSilent, get?_unsubscribeAll, Option.map_map]
  rfl

/-- A target confirms an address if a counting report names it. Naming a target twice makes no
difference here. -/
theorem confirms_responses (targets : List ConnectionId) (reports : List AliveReport)
    (target : ConnectionId) (source : UInt16) :
    (responses targets reports).confirms target source = true ↔
      target ∈ targets ∧ source ∈ counting reports target := by
  simp only [Responses.confirms, responses, List.any_map, List.any_eq_true,
    Function.comp_apply, Bool.and_eq_true, beq_iff_eq, List.contains_iff_mem,
    List.mem_eraseDups]
  constructor
  · rintro ⟨_, member, rfl, named⟩
    exact ⟨member, named⟩
  · rintro ⟨member, named⟩
    exact ⟨target, member, rfl, named⟩

/-- A list without repetition has nothing to lose. So the targets of a probe are counted once
each. -/
theorem eraseDups_of_nodup {targets : List ConnectionId} (distinct : targets.Nodup) :
    targets.eraseDups = targets := by
  induction targets with
  | nil => rfl
  | cons target rest inductionHypothesis =>
    have fresh : target ∉ rest := (List.nodup_cons.mp distinct).1
    have kept : rest.filter (fun other => !other == target) = rest := by
      apply List.filter_eq_self.mpr
      intro other member
      have different : other ≠ target := fun same => fresh (same ▸ member)
      simpa using different
    rw [List.eraseDups_cons, kept, inductionHypothesis (List.nodup_cons.mp distinct).2]

/-- The targets that count as alive are those with a counting report. -/
theorem alive_responses {targets : List ConnectionId} (distinct : targets.Nodup)
    (reports : List AliveReport) :
    (responses targets reports).alive =
      (targets.filter fun target => counting reports target ≠ []).length := by
  simp only [Responses.alive, responses, eraseDups_of_nodup distinct, List.filter_map,
    List.length_map]
  congr 1
  apply List.filter_congr
  intro target _
  cases heard : counting reports target <;> simp [heard]

/-! ## The numbers in use -/

/-- A check brings no connection into the pool and takes none out of it when it asks. Both a
subscription and a message change the connection in its place. -/
theorem numbers_askTargets (mailbox : MailboxId) (targets : List ConnectionId) (pool : Pool) :
    (askTargets mailbox targets pool).value.1.numbers = pool.numbers := by
  have single : ∀ (target : ConnectionId) (pool : Pool),
      (askTarget mailbox target pool).value.1.numbers = pool.numbers := by
    intro target pool
    have subscribed := Pool.numbers_ask target
      (fun connection => return connection.subscribe mailbox)
      (fun connection => id_next 0 (.subscribe mailbox) connection) pool
    have sent := Pool.numbers_change target
      (fun connection => do return (← connection.send .aliveCheckRequest).1)
      (fun connection => id_next 0 (.send .aliveCheckRequest) connection)
    unfold askTarget
    simp only [Logged.value_bind]
    split
    · exact (sent _).trans subscribed
    · exact subscribed
  induction targets generalizing pool with
  | nil => rfl
  | cons target rest inductionHypothesis =>
    simp only [askTargets, Logged.value_bind, Logged.value_pure, inductionHypothesis, single]

/-- Nor does it when it ceases to listen. -/
theorem numbers_unsubscribeAll (subscriptions : List (ConnectionId × SubscriberId)) (pool : Pool) :
    (unsubscribeAll subscriptions pool).numbers = pool.numbers := by
  induction subscriptions generalizing pool with
  | nil => rfl
  | cons subscription rest inductionHypothesis =>
    exact (inductionHypothesis _).trans
      (Pool.numbers_update subscription.1 (unsubscribe subscription.2) (fun _ => rfl) pool)

/-- Silent targets are closed; they are removed by their own tasks. Closing keeps the number of a
connection. -/
theorem numbers_closeSilent (reports : List AliveReport) (targets : List ConnectionId)
    (pool : Pool) : (closeSilent reports targets pool).value.numbers = pool.numbers := by
  induction targets generalizing pool with
  | nil => rfl
  | cons target rest inductionHypothesis =>
    unfold closeSilent
    split
    · simp only [Logged.value_bind, inductionHypothesis]
      exact Pool.numbers_change target Connection.stop id_stop pool
    · exact inductionHypothesis pool

section Left

variable {check : AliveCheck} {reports : List AliveReport} {id : ConnectionId}
  {connection : Connection}

/-- A silent target is closed. -/
theorem left_of_silent (silent : id ∈ check.targets ∧ counting reports id = []) :
    (check.left reports id connection).phase = .closed := by
  simp only [left, if_pos silent]
  exact phase_stop _

/-- A closed connection stays closed. -/
theorem phase_left_of_closed (closed : connection.phase = .closed) :
    (check.left reports id connection).phase = .closed := by
  by_cases silent : id ∈ check.targets ∧ counting reports id = []
  · exact left_of_silent silent
  · simpa only [left, if_neg silent] using closed

/-- The end of a check does not decide whether a connection still receives. -/
theorem receiving_left : (check.left reports id connection).receiving = connection.receiving := by
  by_cases silent : id ∈ check.targets ∧ counting reports id = []
  · simp only [left, if_pos silent]
    exact receiving_next 0 _ (rfl : Event.isPassive .stop = true)
  · simp only [left, if_neg silent]

/-- Any other connection only loses the subscribers of the check. -/
theorem left_of_heard (heard : ¬ (id ∈ check.targets ∧ counting reports id = [])) :
    check.left reports id connection =
      { connection with
        subscribers := connection.subscribers.filter fun entry =>
          (id, entry.id) ∉ check.subscriptions } := by
  simp only [left, if_neg heard]

/-- A silent target is stopped, and one that was closed before is as it was. A closed connection has
no subscribers left, so ending the subscriptions does not touch it. -/
theorem left_of_silent_value (consistent : connection.Consistent)
    (silent : id ∈ check.targets ∧ counting reports id = []) :
    check.left reports id connection = connection.stop.value := by
  simp only [left, if_pos silent]
  by_cases closed : connection.phase = .closed
  · have nobody := consistent.subscribers closed
    have same : ({ connection with subscribers := connection.subscribers.filter fun entry =>
        (id, entry.id) ∉ check.subscriptions } : Connection) = connection := by
      rw [nobody, List.filter_nil, ← nobody]
    rw [same]
  · rw [stop_of_open closed]
    exact stop_of_open closed

/-- If nobody listens afterwards, a silent target is closed and any other connection is left to
itself. -/
theorem left_of_unheard (consistent : connection.Consistent)
    (unheard : (check.left reports id connection).subscribers = []) :
    check.left reports id connection =
      if id ∈ check.targets ∧ counting reports id = [] then connection.stop.value
      else { connection with subscribers := [] } := by
  by_cases silent : id ∈ check.targets ∧ counting reports id = []
  · rw [if_pos silent]
    exact left_of_silent_value consistent silent
  · rw [left_of_heard silent] at unheard ⊢
    rw [if_neg silent]
    exact congrArg (fun subscribers => { connection with subscribers := subscribers }) unheard

/-- What the end of a check leaves behind is a consistent connection, closed or not. Ending
subscriptions leaves fewer of them, and a closed connection had none. -/
theorem consistent_left (consistent : connection.Consistent) :
    (check.left reports id connection).Consistent := by
  have released : Consistent
      { connection with
        subscribers := connection.subscribers.filter fun entry =>
          (id, entry.id) ∉ check.subscriptions } :=
    ⟨consistent.entered, consistent.address, consistent.timer, consistent.sending,
      fun closed => by simp [consistent.subscribers closed], consistent.signal⟩
  unfold left
  dsimp only
  split
  · exact consistent_stop released
  · exact released

/-- Whoever still listens afterwards was not subscribed by the check. -/
theorem mem_subscribers_left {entry : Subscriber} (consistent : connection.Consistent)
    (listens : entry ∈ (check.left reports id connection).subscribers) :
    entry ∈ connection.subscribers ∧ (id, entry.id) ∉ check.subscriptions := by
  by_cases silent : id ∈ check.targets ∧ counting reports id = []
  · rw [(consistent_left consistent).subscribers (left_of_silent silent)] at listens
    exact absurd listens List.not_mem_nil
  · rw [left_of_heard silent] at listens
    simpa using List.mem_filter.mp listens

/-- Whoever holds an address afterwards has held it before and was not silent. -/
theorem sourceAddress_left {source : UInt16} (consistent : connection.Consistent)
    (held : (check.left reports id connection).sourceAddress = some source) :
    connection.sourceAddress = some source ∧
      ¬ (id ∈ check.targets ∧ counting reports id = []) := by
  by_cases silent : id ∈ check.targets ∧ counting reports id = []
  · have registered : (check.left reports id connection).phase = .registeredActive :=
      (consistent_left consistent).address.mp (by simp [held])
    rw [left_of_silent silent] at registered
    cases registered
  · rw [left_of_heard silent] at held
    exact ⟨held, silent⟩

end Left

end AliveCheck

end DiagnosticGateway
