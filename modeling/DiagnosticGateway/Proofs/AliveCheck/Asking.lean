import DiagnosticGateway.Proofs.Connection.Probing

/-!
# How often a target is asked

A check asks a target once for every time it is named. What that comes to is counted here: the
requests in the outbound queue, the subscribers that report to the mailbox of the check, and the
numbers under which the check has recorded them. These numbers are new, so no two checks ever
record the same subscriber.
-/

namespace DiagnosticGateway

namespace Connection

/-- How many subscribers report to a mailbox. -/
def listeners (mailbox : MailboxId) (connection : Connection) : Nat :=
  connection.subscribers.countP fun entry => entry.mailbox = mailbox

variable {connection : Connection} {mailbox other : MailboxId} {id : ConnectionId}
  {targets : List ConnectionId}

/-- Being asked once more, if the next target is this connection. -/
theorem askedAmong_cons (target : ConnectionId) :
    connection.askedAmong mailbox id (target :: targets) =
      (if id = target then connection.asked mailbox else connection).askedAmong mailbox id targets :=
  rfl

/-- An open connection that is read gets one request for every time it is named. The induction is on
the targets, each of which is asked by itself. -/
theorem outbound_askedAmong (consistent : connection.Consistent) :
    (connection.askedAmong mailbox id targets).outbound =
      connection.outbound ++
        if connection.phase ≠ .closed ∧ connection.receiving = true then
          List.replicate (targets.count id) .aliveCheckRequest
        else [] := by
  induction targets generalizing connection with
  | nil => simp [askedAmong]
  | cons target rest inductionHypothesis =>
    rw [askedAmong_cons]
    by_cases here : id = target
    · rw [if_pos here, inductionHypothesis (consistent_asked consistent)]
      by_cases closed : connection.phase = .closed
      · simp [asked_of_closed closed, closed]
      · have sending := consistent.sending.mpr closed
        cases receiving : connection.receiving with
        | false => simp [asked_of_open closed, receiving]
        | true => simp [asked_of_open closed, closed, sending, receiving, here, List.replicate_succ]
    · rw [if_neg here, inductionHypothesis consistent,
        List.count_cons_of_ne fun same => here same.symm]

/-- An open connection gets one listener for every time it is named, and other mailboxes none. The
subscriptions of other checks are not counted under this mailbox, though they may be on the same
connection. -/
theorem listeners_askedAmong (opened : connection.phase ≠ .closed) :
    (connection.askedAmong mailbox id targets).listeners other =
      connection.listeners other + if other = mailbox then targets.count id else 0 := by
  induction targets generalizing connection with
  | nil => simp [askedAmong]
  | cons target rest inductionHypothesis =>
    rw [askedAmong_cons]
    by_cases here : id = target
    · have stillOpen : (connection.asked mailbox).phase ≠ .closed := by
        rw [asked_of_open opened]
        exact opened
      rw [if_pos here, inductionHypothesis stillOpen, asked_of_open opened, here]
      by_cases own : other = mailbox
      · simp only [listeners, List.countP_append, own, if_true, List.count_cons_self]
        simp
        omega
      · have apart : ¬ mailbox = other := fun same => own same.symm
        simp [listeners, own, apart]
    · rw [if_neg here, inductionHypothesis opened,
        List.count_cons_of_ne fun same => here same.symm]

/-- The counter of subscribers never goes back. Each target either takes a subscriber or is
left as it is. -/
theorem nextSubscriber_le_askedAmong :
    connection.nextSubscriber ≤ (connection.askedAmong mailbox id targets).nextSubscriber := by
  induction targets generalizing connection with
  | nil => exact Nat.le_refl _
  | cons target rest inductionHypothesis =>
    rw [askedAmong_cons]
    refine Nat.le_trans ?_ inductionHypothesis
    split
    · by_cases closed : connection.phase = .closed
      · exact Nat.le_of_eq (by rw [asked_of_closed closed])
      · rw [asked_of_open closed]
        exact Nat.le_succ _
    · exact Nat.le_refl _

/-- Who listens after the connection was asked has listened before, or has a new number and
reports to the mailbox of the check. -/
theorem mem_subscribers_askedAmong {entry : Subscriber}
    (listens : entry ∈ (connection.askedAmong mailbox id targets).subscribers) :
    entry ∈ connection.subscribers ∨
      entry.mailbox = mailbox ∧ connection.nextSubscriber ≤ entry.id ∧
        entry.id < (connection.askedAmong mailbox id targets).nextSubscriber := by
  induction targets generalizing connection with
  | nil => exact Or.inl listens
  | cons target rest inductionHypothesis =>
    rw [askedAmong_cons] at listens ⊢
    have later := inductionHypothesis listens
    by_cases here : id = target
    · rw [if_pos here] at later ⊢
      by_cases closed : connection.phase = .closed
      · rwa [asked_of_closed closed] at later ⊢
      · have grown : (connection.asked mailbox).nextSubscriber ≤
            ((connection.asked mailbox).askedAmong mailbox id rest).nextSubscriber :=
          nextSubscriber_le_askedAmong
        have next : (connection.asked mailbox).nextSubscriber = connection.nextSubscriber + 1 := by
          rw [asked_of_open closed]
        rw [next] at grown
        rcases later with earlier | ⟨own, above, below⟩
        · rw [asked_of_open closed] at earlier
          rcases List.mem_append.mp earlier with old | new
          · exact Or.inl old
          · obtain rfl := List.mem_singleton.mp new
            exact Or.inr ⟨rfl, Nat.le_refl _, grown⟩
        · rw [next] at above
          exact Or.inr ⟨own, Nat.le_of_succ_le above, below⟩
    · rwa [if_neg here] at later ⊢

end Connection

namespace AliveCheck

/-- What a check records is new: the numbers lie between the counters of the connection before
and after. -/
theorem recorded_askTargets (mailbox : MailboxId) {targets : List ConnectionId} {pool : Pool}
    {id : ConnectionId} {number : SubscriberId}
    (recorded : (id, number) ∈ (askTargets mailbox targets pool).value.2) :
    ∃ connection, pool.get? id = some connection ∧ connection.nextSubscriber ≤ number ∧
      number < (connection.askedAmong mailbox id targets).nextSubscriber := by
  induction targets generalizing pool with
  | nil => exact absurd recorded List.not_mem_nil
  | cons target rest inductionHypothesis =>
    simp only [askTargets, Logged.value_bind, Logged.value_pure] at recorded
    rcases List.mem_append.mp recorded with first | later
    · rw [askTarget_answer] at first
      cases found : pool.get? target with
      | none => simp [found] at first
      | some connection =>
        rw [found, Option.bind_some] at first
        by_cases closed : connection.phase = .closed
        · simp [Connection.subscribe_of_closed mailbox closed] at first
        · rw [Connection.subscribe_of_open mailbox closed] at first
          obtain ⟨rfl, rfl⟩ : id = target ∧ number = connection.nextSubscriber := by
            simpa using first
          refine ⟨connection, found, Nat.le_refl _, ?_⟩
          rw [Connection.askedAmong_cons, if_pos rfl]
          refine Nat.lt_of_lt_of_le ?_ Connection.nextSubscriber_le_askedAmong
          rw [Connection.asked_of_open closed]
          exact Nat.lt_succ_self _
    · obtain ⟨asked, found, above, below⟩ := inductionHypothesis later
      rw [get?_askTarget] at found
      obtain ⟨connection, earlier, rfl⟩ := Option.map_eq_some_iff.mp found
      refine ⟨connection, earlier, Nat.le_trans ?_ above, below⟩
      split
      · by_cases closed : connection.phase = .closed
        · exact Nat.le_of_eq (by rw [Connection.asked_of_closed closed])
        · rw [Connection.asked_of_open closed]
          exact Nat.le_succ _
      · exact Nat.le_refl _

end AliveCheck

end DiagnosticGateway
