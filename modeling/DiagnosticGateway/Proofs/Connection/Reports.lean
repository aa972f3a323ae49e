import Mathlib.Data.List.Induction
import DiagnosticGateway.Proofs.AliveCheck.Conduct

/-!
# Reports to subscribers

A response that arrives on a connection is reported once for every subscription that lasts, with the
address that is registered at that moment. Which subscriptions last is told from the course of
events alone: one that was accepted lasts until it is ended under its number or the connection is
closed, and no number is given twice.

Subscribers do not notice each other. Every event takes away subscribers one by one and adds at most
one of its own, and nothing else about a connection depends on who has subscribed. A mailbox whose
owner has gone stays subscribed like any other; what comes there is lost.
-/

namespace DiagnosticGateway.Connection

/-- Something that happens to a connection, or to a mailbox that its reports go to. -/
inductive Happening where
  | event (now : Milliseconds) (event : Event)
  /-- The owner of a mailbox goes away. -/
  | leave (mailbox : MailboxId)

/-- A connection with the mailboxes around it. -/
structure Reporting where
  connection : Connection
  /-- The mailboxes whose owner has gone. -/
  abandoned : List MailboxId
  /-- What has come to the other mailboxes, oldest first. -/
  mail : Mail

namespace Reporting

/-- A connection that has not been started, and empty mailboxes. -/
def new (id : ConnectionId) (timings : Timings) : Reporting :=
  ⟨.new id timings, [], []⟩

/-- The deliveries to mailboxes that have an owner. -/
def received (deliveries : List Delivery) (reporting : Reporting) : List Delivery :=
  deliveries.filter fun delivery => !reporting.abandoned.contains delivery.mailbox

/-- What one more happening leaves behind. -/
def meet (happening : Happening) (reporting : Reporting) : Reporting :=
  match happening with
  | .event now event =>
    let outcome := (reporting.connection.apply now event).value
    { reporting with
      connection := outcome.connection
      mail := reporting.mail ++ reporting.received outcome.deliveries }
  | .leave mailbox => { reporting with abandoned := mailbox :: reporting.abandoned }

/-- What a course of happenings leaves behind. -/
def follow (course : List Happening) (reporting : Reporting) : Reporting :=
  course.foldl (fun current happening => current.meet happening) reporting

end Reporting

/-- The report about an event, if it is a response. -/
def heard (event : Event) (connection : Connection) : List AliveReport :=
  match event with
  | .aliveResponse source => [⟨connection.id, source, connection.sourceAddress⟩]
  | _ => []

/-- The reports that are owed to a subscriber in the rest of a course: one about every response up
to the close of the connection or the end of the subscription, whichever comes first. -/
def owed (number : SubscriberId) : Connection → List Happening → List AliveReport
  | _, [] => []
  | connection, .leave _ :: rest => owed number connection rest
  | connection, .event now event :: rest =>
    if connection.phase = .closed ∨ event = .unsubscribe number then []
    else connection.heard event ++ owed number (connection.next now event) rest

/-- A subscription that was accepted in a course of happenings and lasts to its end. -/
def Lasts (id : ConnectionId) (timings : Timings) (course : List Happening) (entry : Subscriber) :
    Prop :=
  ∃ before now after, course = before ++ .event now (.subscribe entry.mailbox) :: after ∧
    ((((Reporting.new id timings).follow before).connection).subscribe entry.mailbox).2 =
      some entry.id ∧
    (∀ moment, .event moment (.unsubscribe entry.id) ∉ after) ∧
    ((Reporting.new id timings).follow course).connection.phase ≠ .closed

variable {connection : Connection} {event : Event} {now : Milliseconds} {mailbox : MailboxId}
  {number : SubscriberId} {entry : Subscriber} {reporting other : Reporting}
  {course before after : List Happening} {happening : Happening} {id : ConnectionId}
  {timings : Timings}

/-! ## What an event does to the subscribers -/

/-- Whether an event takes a subscriber away. -/
def ends (event : Event) (entry : Subscriber) (connection : Connection) : Bool :=
  match event with
  | .unsubscribe id => entry.id == id
  | .stop => !connection.isClosed
  | .timerExpired kind generation => connection.isCurrent kind generation && !connection.isClosed
  | _ => false

/-- The subscriber that an event adds. -/
def joining (event : Event) (connection : Connection) : List Subscriber :=
  match event with
  | .subscribe mailbox =>
    if connection.isClosed then [] else [⟨connection.nextSubscriber, mailbox⟩]
  | _ => []

/-- An expiry closes the connection if the timer is the running one. -/
theorem next_timerExpired (now : Milliseconds) (kind : TimerKind) (generation : Nat)
    (connection : Connection) :
    connection.next now (.timerExpired kind generation) =
      if connection.isCurrent kind generation && !connection.isClosed then connection.stop.value
      else connection := by
  cases phase : connection.phase <;>
    cases current : connection.isCurrent kind generation <;>
    simp [next, apply, timerExpired, stop, isClosed, phase, current]

/-- Other subscribers would fare as those that there are, and make no difference for anything
else. -/
theorem next_withSubscribers (now : Milliseconds) (event : Event) (connection : Connection)
    (subscribers : List Subscriber) :
    { connection with subscribers := subscribers }.next now event =
      { connection.next now event with
        subscribers := (subscribers.filter fun entry => !connection.ends event entry) ++
          connection.joining event } := by
  have all : (subscribers.filter fun _ => true) = subscribers :=
    List.filter_eq_self.mpr fun _ _ => rfl
  cases event with
  | stop =>
    cases phase : connection.phase <;> simp [next, apply, stop, ends, joining, isClosed, phase, all]
  | timerExpired kind generation =>
    have current : { connection with subscribers := subscribers }.isCurrent kind generation =
        connection.isCurrent kind generation := rfl
    simp only [next_timerExpired, current, ends]
    cases phase : connection.phase <;>
      cases connection.isCurrent kind generation <;>
      simp [stop, joining, isClosed, phase, all]
  | start =>
    cases phase : connection.phase <;>
      simp [next, apply, start, restartTimer, ends, joining, phase, all]
  | activate source =>
    cases phase : connection.phase <;>
      simp [next, apply, activate, restartTimer, ends, joining, phase, all]
  | dataReceived =>
    cases phase : connection.phase <;>
      simp [next, apply, dataReceived, restartTimer, ends, joining, phase, all]
  | send message =>
    simp only [next, apply, Logged.value_bind, Logged.value_pure, send_value, ends, joining]
    split <;> simp [all]
  | subscribe mailbox =>
    cases phase : connection.phase <;>
      simp [next, apply, subscribe, ends, joining, isClosed, phase, all]
  | unsubscribe id => simp [next, apply, unsubscribe, ends, joining, bne]
  | aliveResponse source => simp [next, apply, ends, joining, all]
  | dropReceiver => simp [next, apply, dropReceiver, ends, joining, all]

/-- The subscribers after an event: those that it does not take away, and the one that it adds. -/
theorem subscribers_of_next (now : Milliseconds) (event : Event) (connection : Connection) :
    (connection.next now event).subscribers =
      (connection.subscribers.filter fun entry => !connection.ends event entry) ++
        connection.joining event :=
  congrArg subscribers (next_withSubscribers now event connection connection.subscribers)

/-- A number is used up exactly by a subscriber that is added. A subscription that is refused uses
none, so that the numbers of those who are listed follow one another without gaps. -/
theorem nextSubscriber_of_next (now : Milliseconds) (event : Event) (connection : Connection) :
    (connection.next now event).nextSubscriber =
      connection.nextSubscriber + (connection.joining event).length := by
  cases event with
  | stop => cases phase : connection.phase <;> simp [next, apply, stop, joining, phase]
  | timerExpired kind generation =>
    cases phase : connection.phase <;>
      cases current : connection.isCurrent kind generation <;>
      simp [next, apply, timerExpired, stop, joining, phase, current]
  | start =>
    cases phase : connection.phase <;> simp [next, apply, start, restartTimer, joining, phase]
  | activate source =>
    cases phase : connection.phase <;> simp [next, apply, activate, restartTimer, joining, phase]
  | dataReceived =>
    cases phase : connection.phase <;>
      simp [next, apply, dataReceived, restartTimer, joining, phase]
  | send message =>
    simp only [next, apply, Logged.value_bind, Logged.value_pure, send_value, joining]
    split <;> rfl
  | subscribe mailbox =>
    cases phase : connection.phase <;> simp [next, apply, subscribe, joining, isClosed, phase]
  | _ => rfl

/-- An event that takes a subscriber away ends its subscription or closes the connection. An expiry
takes subscribers away only if it is heeded, and then it closes the connection. -/
theorem closes_of_ends (now : Milliseconds) (leaves : connection.ends event entry = true) :
    event = .unsubscribe entry.id ∨ (connection.next now event).phase = .closed := by
  cases event with
  | unsubscribe id => exact Or.inl (congrArg Event.unsubscribe (eq_of_beq leaves).symm)
  | stop => exact Or.inr (phase_stop connection)
  | timerExpired kind generation =>
    have heeded : (connection.isCurrent kind generation && connection.phase != .closed) = true :=
      leaves
    refine Or.inr ?_
    simp only [next, apply, timerExpired, Logged.value_bind, Logged.value_pure, if_pos heeded]
    exact phase_stop _
  | _ => cases leaves

/-- The answer to a subscription names the subscriber that is added. -/
theorem joining_subscribe (mailbox : MailboxId) (connection : Connection) :
    connection.joining (.subscribe mailbox) =
      ((connection.subscribe mailbox).2.map fun id => (⟨id, mailbox⟩ : Subscriber)).toList := by
  cases phase : connection.phase <;> simp [joining, subscribe, isClosed, phase]

/-- Only a subscription adds a subscriber. -/
theorem eq_subscribe_of_joining (joins : entry ∈ connection.joining event) :
    event = .subscribe entry.mailbox ∧ (connection.subscribe entry.mailbox).2 = some entry.id := by
  cases event with
  | subscribe mailbox =>
    rw [joining_subscribe, Option.mem_toList] at joins
    obtain ⟨id, answered, rfl⟩ := Option.map_eq_some_iff.mp joins
    exact ⟨rfl, answered⟩
  | _ => cases joins

/-- A connection takes subscribers as long as it is open. -/
theorem subscribe_eq_none_iff :
    (connection.subscribe mailbox).2 = none ↔ connection.phase = .closed := by
  cases phase : connection.phase <;> simp [subscribe, phase]

/-! ## What an event delivers -/

/-- The subscribers whose reports go to a mailbox. -/
def subscribersOf (mailbox : MailboxId) (connection : Connection) : List Subscriber :=
  connection.subscribers.filter fun entry => entry.mailbox == mailbox

/-- A response is delivered once to every subscriber, and nothing else is. Any other event delivers
nothing, as nothing is heard in it. -/
theorem deliveries_apply (now : Milliseconds) (event : Event) (connection : Connection) :
    (connection.apply now event).value.deliveries =
      connection.subscribers.flatMap fun entry =>
        (connection.heard event).map fun report => ⟨entry.mailbox, report⟩ := by
  cases event with
  | aliveResponse source =>
    simp only [apply, aliveResponse, Logged.value_bind, heard]
    cases connection.subscribers with
    | nil => rfl
    | cons first rest =>
      simp only [Logged.value_pure, List.map_cons, List.map_nil, ← List.map_eq_flatMap]
      rfl
  | _ => simp [apply, heard]

/-- A mailbox gets a report for each of its subscribers. A mailbox that subscribed twice gets
two of them. -/
theorem reports_apply (now : Milliseconds) (event : Event) (connection : Connection)
    (mailbox : MailboxId) :
    Mail.reports mailbox (connection.apply now event).value.deliveries =
      (connection.subscribersOf mailbox).flatMap fun _ => connection.heard event := by
  rw [deliveries_apply, subscribersOf]
  induction connection.subscribers with
  | nil => rfl
  | cons first rest inductionHypothesis =>
    simp only [Mail.reports, List.flatMap_cons, List.filter_append, List.map_append]
      at inductionHypothesis ⊢
    rw [inductionHypothesis, List.filter_cons]
    by_cases own : first.mailbox = mailbox
    · simp [own, List.filter_map, Function.comp_def]
    · simp [own, List.filter_map, Function.comp_def]

/-! ## What comes to a mailbox -/

/-- A closed connection owes nobody anything. -/
theorem owed_of_closed (closed : connection.phase = .closed) (course : List Happening) :
    owed number connection course = [] := by
  induction course with
  | nil => rfl
  | cons happening rest inductionHypothesis =>
    cases happening with
    | event now event => exact if_pos (Or.inl closed)
    | leave mailbox => exact inductionHypothesis

namespace Reporting

/-- A course that is followed in two parts is followed as one. -/
theorem follow_append (earlier later : List Happening) (reporting : Reporting) :
    reporting.follow (earlier ++ later) = (reporting.follow earlier).follow later :=
  List.foldl_append

/-- A mailbox with an owner gets all its deliveries. -/
theorem reports_received (stays : mailbox ∉ reporting.abandoned) (deliveries : List Delivery) :
    Mail.reports mailbox (reporting.received deliveries) = Mail.reports mailbox deliveries := by
  simp only [Mail.reports, received, List.filter_filter]
  congr 1
  apply List.filter_congr
  intro delivery _
  by_cases own : delivery.mailbox = mailbox
  · simp [own, stays]
  · simp [own]

/-- A mailbox whose owner has gone gets nothing more. -/
theorem reports_received_of_abandoned (gone : mailbox ∈ reporting.abandoned)
    (deliveries : List Delivery) : Mail.reports mailbox (reporting.received deliveries) = [] := by
  simp only [Mail.reports, received, List.filter_filter, List.map_eq_nil_iff,
    List.filter_eq_nil_iff]
  intro delivery _
  by_cases own : delivery.mailbox = mailbox
  · simp [own, gone]
  · simp [own]

/-- A mailbox with an owner gets a report for each of its subscribers. -/
theorem reports_meet_event (now : Milliseconds) (event : Event)
    (stays : mailbox ∉ reporting.abandoned) :
    (reporting.meet (.event now event)).mail.reports mailbox =
      reporting.mail.reports mailbox ++
        (reporting.connection.subscribersOf mailbox).flatMap fun _ =>
          reporting.connection.heard event := by
  have appended := Mail.reports_append mailbox reporting.mail
    (reporting.received (reporting.connection.apply now event).value.deliveries)
  rwa [reports_received stays, reports_apply] at appended

/-- A mailbox whose owner has gone stays as it is. -/
theorem reports_meet_event_of_abandoned (now : Milliseconds) (event : Event)
    (gone : mailbox ∈ reporting.abandoned) :
    (reporting.meet (.event now event)).mail.reports mailbox = reporting.mail.reports mailbox := by
  have appended := Mail.reports_append mailbox reporting.mail
    (reporting.received (reporting.connection.apply now event).value.deliveries)
  rwa [reports_received_of_abandoned gone, List.append_nil] at appended

/-- A connection stays consistent. -/
theorem consistent_follow (consistent : reporting.connection.Consistent)
    (course : List Happening) : (reporting.follow course).connection.Consistent := by
  induction course generalizing reporting with
  | nil => exact consistent
  | cons happening rest inductionHypothesis =>
    cases happening with
    | event now event => exact inductionHypothesis (consistent_next now event consistent)
    | leave mailbox => exact inductionHypothesis consistent

end Reporting

/-- The subscribers of a mailbox after an event. -/
theorem subscribersOf_next (now : Milliseconds) (event : Event) (connection : Connection)
    (mailbox : MailboxId) :
    (connection.next now event).subscribersOf mailbox =
      ((connection.subscribersOf mailbox).filter fun entry => !connection.ends event entry) ++
        (connection.joining event).filter fun entry => entry.mailbox == mailbox := by
  simp only [subscribersOf, subscribers_of_next, List.filter_append, List.filter_filter,
    Bool.and_comm]

/-- A mailbox gets no other subscriber unless it is subscribed. -/
theorem subscribersOf_next_of_quiet (connection : Connection) (now : Milliseconds)
    (quiet : event ≠ .subscribe mailbox) :
    (connection.next now event).subscribersOf mailbox =
      (connection.subscribersOf mailbox).filter fun entry => !connection.ends event entry := by
  have none : ((connection.joining event).filter fun entry => entry.mailbox == mailbox) = [] := by
    refine List.filter_eq_nil_iff.mpr fun entry joins own => quiet ?_
    exact (eq_subscribe_of_joining joins).1.trans (congrArg Event.subscribe (eq_of_beq own))
  rw [subscribersOf_next, none, List.append_nil]

/-- Nobody subscribes a mailbox in a course. -/
def Unsubscribed (mailbox : MailboxId) (course : List Happening) : Prop :=
  ∀ moment, Happening.event moment (.subscribe mailbox) ∉ course

/-- A mailbox that is not subscribed stays so and gets nothing. The course is followed with the
connection in whatever state it is; neither its subscribers nor its mail know the mailbox. -/
theorem nothing_follow (reporting : Reporting)
    (nobody : reporting.connection.subscribersOf mailbox = [])
    (quiet : Unsubscribed mailbox course) :
    (reporting.follow course).connection.subscribersOf mailbox = [] ∧
      (reporting.follow course).mail.reports mailbox = reporting.mail.reports mailbox := by
  induction course generalizing reporting with
  | nil => exact ⟨nobody, rfl⟩
  | cons happening rest inductionHypothesis =>
    have calm : Unsubscribed mailbox rest := fun moment listed =>
      quiet moment (List.mem_cons_of_mem _ listed)
    cases happening with
    | leave gone => exact inductionHypothesis (reporting.meet (.leave gone)) nobody calm
    | event now event =>
      have other : event ≠ .subscribe mailbox := fun subscribes =>
        quiet now (subscribes ▸ List.mem_cons_self)
      have still : (reporting.connection.next now event).subscribersOf mailbox = [] := by
        rw [subscribersOf_next_of_quiet _ now other, nobody, List.filter_nil]
      obtain ⟨nobodyThen, sameThen⟩ :=
        inductionHypothesis (reporting.meet (.event now event)) still calm
      refine ⟨nobodyThen, sameThen.trans ?_⟩
      by_cases gone : mailbox ∈ reporting.abandoned
      · exact Reporting.reports_meet_event_of_abandoned now event gone
      · rw [Reporting.reports_meet_event now event gone, nobody, List.flatMap_nil,
          List.append_nil]

/-- A mailbox with one subscriber gets what is owed to it. The induction is on the course. The
subscriber is there until it is removed or the connection closes, and as long as it is there each
response adds one report. -/
theorem reports_follow (reporting : Reporting) (consistent : reporting.connection.Consistent)
    (single : reporting.connection.subscribersOf mailbox = [⟨number, mailbox⟩])
    (stays : mailbox ∉ reporting.abandoned) (quiet : Unsubscribed mailbox course)
    (keeps : .leave mailbox ∉ course) :
    (reporting.follow course).mail.reports mailbox =
      reporting.mail.reports mailbox ++ owed number reporting.connection course := by
  induction course generalizing reporting with
  | nil => exact (List.append_nil _).symm
  | cons happening rest inductionHypothesis =>
    have calm : Unsubscribed mailbox rest := fun moment listed =>
      quiet moment (List.mem_cons_of_mem _ listed)
    have keepsThen : .leave mailbox ∉ rest := fun listed => keeps (List.mem_cons_of_mem _ listed)
    cases happening with
    | leave gone =>
      have staysThen : mailbox ∉ gone :: reporting.abandoned := fun listed => by
        rcases List.mem_cons.mp listed with rfl | before
        · exact keeps List.mem_cons_self
        · exact stays before
      exact inductionHypothesis (reporting.meet (.leave gone)) consistent single staysThen calm
        keepsThen
    | event now event =>
      have other : event ≠ .subscribe mailbox := fun subscribes =>
        quiet now (subscribes ▸ List.mem_cons_self)
      have opened : reporting.connection.phase ≠ .closed := fun closed => by
        rw [subscribersOf, consistent.subscribers closed] at single
        cases single
      have after := subscribersOf_next_of_quiet reporting.connection now other
      have mail := Reporting.reports_meet_event now event stays
      rw [single] at after mail
      rw [List.flatMap_singleton] at mail
      -- The subscriber leaves at once, and then nothing more comes, or it stays for the rest.
      cases leaves : reporting.connection.ends event ⟨number, mailbox⟩ with
      | true =>
        have nobody : (reporting.connection.next now event).subscribersOf mailbox = [] := by
          rw [after]
          simp [leaves]
        have nothing := (nothing_follow (reporting.meet (.event now event)) nobody calm).2
        refine nothing.trans (mail.trans (congrArg _ ?_))
        by_cases ended : event = .unsubscribe number
        · subst ended
          exact (if_pos (Or.inr rfl)).symm
        · have closes := (closes_of_ends now leaves).resolve_left ended
          rw [owed, if_neg (not_or.mpr ⟨opened, ended⟩), owed_of_closed closes, List.append_nil]
      | false =>
        have lasts : (reporting.connection.next now event).subscribersOf mailbox =
            [⟨number, mailbox⟩] := by
          rw [after]
          simp [leaves]
        have ended : event ≠ .unsubscribe number := fun unsubscribes => by
          rw [unsubscribes] at leaves
          simp [ends] at leaves
        have more := inductionHypothesis (reporting.meet (.event now event))
          (consistent_next now event consistent) lasts stays calm keepsThen
        rw [owed, if_neg (not_or.mpr ⟨opened, ended⟩), ← List.append_assoc, ← mail]
        exact more

/-! ## Which subscriptions last -/

/-- The last happening of a course is met by what the others have led to. -/
theorem Reporting.follow_concat (course : List Happening) (happening : Happening)
    (reporting : Reporting) :
    reporting.follow (course ++ [happening]) = (reporting.follow course).meet happening := by
  simp [Reporting.follow]

/-- A connection that is open was open before. -/
theorem opened_of_meet (opened : (reporting.meet happening).connection.phase ≠ .closed) :
    reporting.connection.phase ≠ .closed := by
  cases happening with
  | event now event => exact fun closed => opened (next_of_closed now event closed)
  | leave mailbox => exact opened

/-- The subscribers of an open connection: those that there were and that are not unsubscribed, and
the one that is accepted. -/
theorem mem_subscribers_meet_iff
    (opened : (reporting.meet happening).connection.phase ≠ .closed) :
    entry ∈ (reporting.meet happening).connection.subscribers ↔
      (entry ∈ reporting.connection.subscribers ∧
          ∀ moment, happening ≠ .event moment (.unsubscribe entry.id)) ∨
        (∃ now, happening = .event now (.subscribe entry.mailbox)) ∧
          (reporting.connection.subscribe entry.mailbox).2 = some entry.id := by
  cases happening with
  | leave mailbox => simp [Reporting.meet]
  | event now event =>
    have after := subscribers_of_next now event reporting.connection
    have stays :
        reporting.connection.ends event entry = false ↔ event ≠ .unsubscribe entry.id := by
      constructor
      · rintro stays rfl
        simp [ends] at stays
      · intro kept
        by_contra leaves
        exact opened ((closes_of_ends now (eq_true_of_ne_false leaves)).resolve_left kept)
    have joins : entry ∈ reporting.connection.joining event ↔
        event = .subscribe entry.mailbox ∧
          (reporting.connection.subscribe entry.mailbox).2 = some entry.id := by
      refine ⟨eq_subscribe_of_joining, ?_⟩
      rintro ⟨rfl, answered⟩
      rw [joining_subscribe, answered]
      exact List.mem_singleton_self _
    change entry ∈ (reporting.connection.next now event).subscribers ↔ _
    simp [after, stays, joins]

/-- Nobody who has not subscribed is listed. -/
theorem not_lasts_nil : ¬ Lasts id timings [] entry := by
  rintro ⟨before, now, after, split, -⟩
  simp at split

/-- A subscription lasts when it has just been accepted, or when it has lasted so far and is not
ended, as long as the connection is open. -/
theorem lasts_concat_iff :
    Lasts id timings (course ++ [happening]) entry ↔
      ((Reporting.new id timings).follow (course ++ [happening])).connection.phase ≠ .closed ∧
        ((Lasts id timings course entry ∧
            ∀ moment, happening ≠ .event moment (.unsubscribe entry.id)) ∨
          (∃ now, happening = .event now (.subscribe entry.mailbox)) ∧
            (((Reporting.new id timings).follow course).connection.subscribe entry.mailbox).2 =
              some entry.id) := by
  constructor
  · rintro ⟨before, now, after, split, answered, kept, opened⟩
    refine ⟨opened, ?_⟩
    rcases after.eq_nil_or_concat' with rfl | ⟨between, last, rfl⟩
    · obtain ⟨rfl, latest⟩ := List.append_inj' split rfl
      obtain rfl := List.singleton_injective latest
      exact Or.inr ⟨⟨now, rfl⟩, answered⟩
    · rw [← List.cons_append, ← List.append_assoc] at split
      obtain ⟨rfl, latest⟩ := List.append_inj' split rfl
      obtain rfl := List.singleton_injective latest
      rw [Reporting.follow_concat] at opened
      refine Or.inl ⟨⟨before, now, between, rfl, answered, fun moment listed =>
        kept moment (List.mem_append_left _ listed), opened_of_meet opened⟩, ?_⟩
      rintro moment rfl
      exact kept moment (List.mem_append_right _ (List.mem_singleton_self _))
  · rintro ⟨opened, ⟨⟨before, now, after, rfl, answered, kept, -⟩, goesOn⟩ |
      ⟨⟨now, rfl⟩, answered⟩⟩
    · refine ⟨before, now, after ++ [happening], by simp, answered, ?_, opened⟩
      intro moment listed
      rcases List.mem_append.mp listed with earlier | latest
      · exact kept moment earlier
      · exact goesOn moment (List.mem_singleton.mp latest).symm
    · exact ⟨course, now, [], rfl, answered, fun _ => List.not_mem_nil, opened⟩

/-- The subscribers of a connection are the subscriptions that last. The close ends them all, so the
last happening is looked at first: after it either nobody is listed, or the list has changed by that
happening alone. -/
theorem mem_subscribers_iff_lasts :
    entry ∈ ((Reporting.new id timings).follow course).connection.subscribers ↔
      Lasts id timings course entry := by
  induction course using List.reverseRecOn with
  | nil => exact iff_of_false List.not_mem_nil not_lasts_nil
  | append_singleton course happening inductionHypothesis =>
    by_cases closed :
        ((Reporting.new id timings).follow (course ++ [happening])).connection.phase = .closed
    · have consistent :
          ((Reporting.new id timings).follow (course ++ [happening])).connection.Consistent :=
        Reporting.consistent_follow (consistent_new id timings) _
      refine iff_of_false ?_ fun lasts => (lasts_concat_iff.mp lasts).1 closed
      rw [consistent.subscribers closed]
      exact List.not_mem_nil
    · rw [lasts_concat_iff, ← inductionHypothesis]
      rw [Reporting.follow_concat] at closed ⊢
      rw [mem_subscribers_meet_iff closed]
      exact (and_iff_right closed).symm

/-! ## Numbers -/

/-- Numbers only grow. A subscription uses one up, and nothing gives one back. -/
theorem nextSubscriber_le_follow (course : List Happening) (reporting : Reporting) :
    reporting.connection.nextSubscriber ≤ (reporting.follow course).connection.nextSubscriber := by
  induction course generalizing reporting with
  | nil => exact Nat.le_refl _
  | cons happening rest inductionHypothesis =>
    refine Nat.le_trans ?_ (inductionHypothesis (reporting.meet happening))
    cases happening with
    | event now event =>
      exact (nextSubscriber_of_next now event reporting.connection).symm ▸ Nat.le_add_right _ _
    | leave mailbox => exact Nat.le_refl _

/-- A subscription is answered with the next number, which is then used up. That there is an answer
says that the connection was open. -/
theorem nextSubscriber_of_subscribe (now : Milliseconds)
    (answered : (connection.subscribe mailbox).2 = some number) :
    number = connection.nextSubscriber ∧
      (connection.next now (.subscribe mailbox)).nextSubscriber = number + 1 := by
  have opened : connection.phase ≠ .closed := fun closed => by
    rw [subscribe_eq_none_iff.mpr closed] at answered
    cases answered
  rw [subscribe_of_open mailbox opened] at answered
  cases answered
  refine ⟨rfl, ?_⟩
  simp only [next, apply, subscribe_of_open mailbox opened]
  rfl

/-- The subscribers are numbered in the order in which they came, below the next number. -/
def Numbered (connection : Connection) : Prop :=
  connection.subscribers.Pairwise (fun earlier later => earlier.id < later.id) ∧
    ∀ entry ∈ connection.subscribers, entry.id < connection.nextSubscriber

/-- No event gives a number of a listener out again. Those who stay keep their order, and one who
joins has a number above all of them. -/
theorem numbered_next (now : Milliseconds) (event : Event) (numbered : connection.Numbered) :
    (connection.next now event).Numbered := by
  have fresh : ∀ entry ∈ connection.joining event, entry.id = connection.nextSubscriber ∧
      (connection.next now event).nextSubscriber = connection.nextSubscriber + 1 := by
    intro entry joins
    obtain ⟨rfl, answered⟩ := eq_subscribe_of_joining joins
    obtain ⟨given, used⟩ := nextSubscriber_of_subscribe now answered
    exact ⟨given, given ▸ used⟩
  have single : (connection.joining event).Pairwise fun earlier later => earlier.id < later.id := by
    unfold joining
    split <;> try split
    all_goals simp
  unfold Numbered
  rw [subscribers_of_next]
  constructor
  · refine List.pairwise_append.mpr ⟨numbered.1.sublist List.filter_sublist, single, ?_⟩
    intro earlier listed later joins
    rw [(fresh later joins).1]
    exact numbered.2 earlier (List.mem_of_mem_filter listed)
  · intro entry listed
    rcases List.mem_append.mp listed with old | joins
    · rw [nextSubscriber_of_next]
      exact Nat.lt_add_right _ (numbered.2 entry (List.mem_of_mem_filter old))
    · obtain ⟨given, used⟩ := fresh entry joins
      rw [given, used]
      exact Nat.lt_succ_self _

/-- Through any course each listener has a number of its own. -/
theorem numbered_follow (numbered : reporting.connection.Numbered) (course : List Happening) :
    (reporting.follow course).connection.Numbered := by
  induction course generalizing reporting with
  | nil => exact numbered
  | cons happening rest inductionHypothesis =>
    cases happening with
    | event now event => exact inductionHypothesis (numbered_next now event numbered)
    | leave mailbox => exact inductionHypothesis numbered

/-! ## Subscribers do not notice each other -/

/-- Two courses of a connection agree on all but its subscribers, on the subscribers that are
concerned, and on the mail of those mailboxes whose every subscriber is concerned. -/
structure AlikeOn (concerned : Subscriber → Bool) (reporting other : Reporting) : Prop where
  connection : ∃ subscribers,
    other.connection = { reporting.connection with subscribers := subscribers }
  subscribers : other.connection.subscribers.filter concerned =
    reporting.connection.subscribers.filter concerned
  abandoned : other.abandoned = reporting.abandoned
  mail : ∀ mailbox, (∀ entry : Subscriber, entry.mailbox = mailbox → concerned entry = true) →
    other.mail.reports mailbox = reporting.mail.reports mailbox

variable {concerned : Subscriber → Bool}

/-- The subscribers of a mailbox are found among those that are concerned. -/
theorem subscribersOf_eq_filter
    (all : ∀ entry : Subscriber, entry.mailbox = mailbox → concerned entry = true)
    (connection : Connection) :
    connection.subscribersOf mailbox =
      (connection.subscribers.filter concerned).filter fun entry => entry.mailbox == mailbox := by
  rw [subscribersOf, List.filter_filter]
  apply List.filter_congr
  intro entry _
  by_cases own : entry.mailbox = mailbox
  · simp [own, all entry own]
  · simp [own]

/-- Whatever happens, those that are concerned do not notice the other subscribers. What joins
is above the numbers of before in both, and what ends or reports does so for each subscriber
by itself. -/
theorem AlikeOn.meet (alike : AlikeOn concerned reporting other) (happening : Happening) :
    AlikeOn concerned (reporting.meet happening) (other.meet happening) := by
  obtain ⟨subscribers, same⟩ := alike.connection
  cases happening with
  | leave gone =>
    exact ⟨alike.connection, alike.subscribers, congrArg (gone :: ·) alike.abandoned, alike.mail⟩
  | event now event =>
    have ends_same : ∀ entry, other.connection.ends event entry =
        reporting.connection.ends event entry := fun entry => by
      rw [same]
      rfl
    have joining_same : other.connection.joining event = reporting.connection.joining event := by
      rw [same]
      rfl
    have heard_same : other.connection.heard event = reporting.connection.heard event := by
      rw [same]
      rfl
    have exchange : ∀ (entries : List Subscriber) (stays : Subscriber → Bool),
        (entries.filter stays).filter concerned = (entries.filter concerned).filter stays :=
      fun entries stays => by simp only [List.filter_filter, Bool.and_comm]
    refine ⟨⟨_, (congrArg (next now event) same).trans (next_withSubscribers now event _ _)⟩, ?_,
      alike.abandoned, fun mailbox all => ?_⟩
    · change (other.connection.next now event).subscribers.filter concerned =
        (reporting.connection.next now event).subscribers.filter concerned
      simp only [subscribers_of_next, List.filter_append, exchange, alike.subscribers, ends_same,
        joining_same]
    · by_cases gone : mailbox ∈ reporting.abandoned
      · rw [Reporting.reports_meet_event_of_abandoned now event gone,
          Reporting.reports_meet_event_of_abandoned now event (alike.abandoned ▸ gone),
          alike.mail mailbox all]
      · rw [Reporting.reports_meet_event now event gone,
          Reporting.reports_meet_event now event (alike.abandoned ▸ gone), alike.mail mailbox all,
          subscribersOf_eq_filter all, subscribersOf_eq_filter all, alike.subscribers, heard_same]

/-- Two connections that are alike to the listeners concerned stay so through any course. -/
theorem AlikeOn.follow (alike : AlikeOn concerned reporting other) (course : List Happening) :
    AlikeOn concerned (reporting.follow course) (other.follow course) := by
  induction course generalizing reporting other with
  | nil => exact alike
  | cons happening rest inductionHypothesis => exact inductionHypothesis (alike.meet happening)

/-- The end of a subscription concerns only the subscriber that has its number. No report is
delivered by it, so all mailboxes are left as they were. -/
theorem alikeOn_unsubscribe (now : Milliseconds) (number : SubscriberId) (reporting : Reporting) :
    AlikeOn (fun entry => !(entry.id == number && reporting.connection.subscribers.contains entry))
      reporting (reporting.meet (.event now (.unsubscribe number))) where
  connection := ⟨_, rfl⟩
  subscribers := by
    change (reporting.connection.subscribers.filter fun entry => entry.id != number).filter _ = _
    rw [List.filter_filter]
    apply List.filter_congr
    intro entry listed
    simp [listed, bne]
  abandoned := rfl
  mail := fun mailbox _ => congrArg (Mail.reports mailbox) (List.append_nil reporting.mail)

/-! ## The fan-out -/

/-- What subscribers can rely on in a course of happenings. The clauses say what one subscriber
gets, what all of them get of one response, that numbers are not used twice, that nobody depends on
the others, and when a subscription is refused. -/
structure FansOut (id : ConnectionId) (timings : Timings) (course : List Happening) : Prop where
  /-- A mailbox that is subscribed once and keeps its owner gets what is owed to its subscription,
  in the order of the responses, and nothing if the subscription was refused. -/
  received : ∀ before now mailbox after,
    course = before ++ .event now (.subscribe mailbox) :: after →
    Unsubscribed mailbox before → Unsubscribed mailbox after → .leave mailbox ∉ course →
    ((Reporting.new id timings).follow course).mail.reports mailbox =
      let connection := ((Reporting.new id timings).follow before).connection
      match (connection.subscribe mailbox).2 with
      | some number => owed number (connection.next now (.subscribe mailbox)) after
      | none => []
  /-- A response delivers one report for every subscription that lasts when it arrives, also when
  several go to one mailbox, with the address that is registered then. -/
  shared : ∀ before now source after,
    course = before ++ .event now (.aliveResponse source) :: after →
    let connection := ((Reporting.new id timings).follow before).connection
    ∃ lasting : List Subscriber,
      lasting.Pairwise (fun earlier later => earlier.id < later.id) ∧
      (∀ entry, entry ∈ lasting ↔ Lasts id timings before entry) ∧
      (connection.apply now (.aliveResponse source)).value.deliveries =
        lasting.map fun entry => ⟨entry.mailbox, id, source, connection.sourceAddress⟩
  /-- A later subscription has a greater number. -/
  fresh : ∀ before now mailbox between moment other after number next,
    course = before ++ .event now (.subscribe mailbox) ::
      (between ++ .event moment (.subscribe other) :: after) →
    (((Reporting.new id timings).follow before).connection.subscribe mailbox).2 = some number →
    (((Reporting.new id timings).follow (before ++ .event now (.subscribe mailbox) ::
      between)).connection.subscribe other).2 = some next →
    number < next
  /-- The end of a subscription changes nothing for the others, and nothing for the mailboxes of
  others. -/
  independent : ∀ before now number after,
    course = before ++ .event now (.unsubscribe number) :: after →
    (∀ mailbox, ¬ Lasts id timings before ⟨number, mailbox⟩ →
      ((Reporting.new id timings).follow course).mail.reports mailbox =
        ((Reporting.new id timings).follow (before ++ after)).mail.reports mailbox) ∧
    ∀ entry : Subscriber, ¬ (entry.id = number ∧ Lasts id timings before entry) →
      (Lasts id timings course entry ↔ Lasts id timings (before ++ after) entry)
  /-- A closed connection takes no subscriber, and an open one does. -/
  refused : ∀ before now mailbox after,
    course = before ++ .event now (.subscribe mailbox) :: after →
    let connection := ((Reporting.new id timings).follow before).connection
    (connection.phase = .closed ↔ (connection.subscribe mailbox).2 = none) ∧
      (connection.phase = .closed →
        ((Reporting.new id timings).follow course).connection.phase = .closed ∧
          ∀ entry, ¬ Lasts id timings course entry)

/-- Only a mailbox whose owner goes away is abandoned. Going away is the only happening that adds to
the abandoned, and it names the mailbox. -/
theorem not_mem_abandoned_follow (reporting : Reporting) (stays : mailbox ∉ reporting.abandoned)
    (keeps : .leave mailbox ∉ course) : mailbox ∉ (reporting.follow course).abandoned := by
  induction course generalizing reporting with
  | nil => exact stays
  | cons happening rest inductionHypothesis =>
    have keepsThen : .leave mailbox ∉ rest := fun listed => keeps (List.mem_cons_of_mem _ listed)
    cases happening with
    | event now event =>
      exact inductionHypothesis (reporting.meet (.event now event)) stays keepsThen
    | leave gone =>
      refine inductionHypothesis (reporting.meet (.leave gone)) ?_ keepsThen
      rintro listed
      rcases List.mem_cons.mp listed with rfl | before
      · exact keeps List.mem_cons_self
      · exact stays before

/-- A connection keeps its number. -/
theorem id_follow (course : List Happening) (reporting : Reporting) :
    (reporting.follow course).connection.id = reporting.connection.id := by
  induction course generalizing reporting with
  | nil => rfl
  | cons happening rest inductionHypothesis =>
    refine (inductionHypothesis (reporting.meet happening)).trans ?_
    cases happening with
    | event now event => exact id_next now event reporting.connection
    | leave mailbox => rfl

/-- What is closed stays closed. -/
theorem closed_follow (closed : reporting.connection.phase = .closed) (course : List Happening) :
    (reporting.follow course).connection.phase = .closed := by
  induction course generalizing reporting with
  | nil => exact closed
  | cons happening rest inductionHypothesis =>
    cases happening with
    | event now event => exact inductionHypothesis (next_of_closed now event closed)
    | leave mailbox => exact inductionHypothesis closed

/-- A mailbox that is subscribed once gets what is owed to the subscription. Before it nothing
is owed; from it on there is a single subscriber, unless the connection was closed and has
refused it. -/
theorem reports_of_subscription (before : List Happening) (now : Milliseconds)
    (after : List Happening) (quiet : Unsubscribed mailbox before)
    (calm : Unsubscribed mailbox after)
    (keeps : .leave mailbox ∉ before ++ .event now (.subscribe mailbox) :: after) :
    ((Reporting.new id timings).follow
        (before ++ .event now (.subscribe mailbox) :: after)).mail.reports mailbox =
      let connection := ((Reporting.new id timings).follow before).connection
      match (connection.subscribe mailbox).2 with
      | some number => owed number (connection.next now (.subscribe mailbox)) after
      | none => [] := by
  obtain ⟨keepsBefore, keepsThen⟩ := not_or.mp (mt List.mem_append.mpr keeps)
  have keepsAfter : .leave mailbox ∉ after := fun listed =>
    keepsThen (List.mem_cons_of_mem _ listed)
  obtain ⟨nobody, nothing⟩ := nothing_follow (.new id timings) rfl quiet
  have stays := not_mem_abandoned_follow (.new id timings) List.not_mem_nil keepsBefore
  have consistent : ((Reporting.new id timings).follow before).connection.Consistent :=
    Reporting.consistent_follow (consistent_new id timings) before
  rw [Reporting.follow_append]
  generalize (Reporting.new id timings).follow before = reporting at nobody nothing stays consistent
  have empty :
      (reporting.meet (.event now (.subscribe mailbox))).mail.reports mailbox = [] := by
    rw [Reporting.reports_meet_event now _ stays, nobody, nothing]
    rfl
  have listed := subscribersOf_next now (.subscribe mailbox) reporting.connection mailbox
  rw [nobody, joining_subscribe] at listed
  cases answered : (reporting.connection.subscribe mailbox).2 with
  | none =>
    rw [answered] at listed
    have nothingThen :=
      (nothing_follow (reporting.meet (.event now (.subscribe mailbox))) listed calm).2
    simp only [answered]
    exact nothingThen.trans empty
  | some number =>
    rw [answered] at listed
    have single : (reporting.connection.next now (.subscribe mailbox)).subscribersOf mailbox =
        [⟨number, mailbox⟩] := by
      simpa using listed
    have gets := reports_follow (reporting.meet (.event now (.subscribe mailbox)))
      (consistent_next now _ consistent) single stays calm keepsAfter
    rw [empty, List.nil_append] at gets
    simp only [answered]
    exact gets

/-- Subscribers are reported to exactly as their subscriptions say, whatever the others do. The
clauses are put together from the lemmas above, each of which has been proved by an induction of its
own on the course. -/
theorem fans_out (id : ConnectionId) (timings : Timings) (course : List Happening) :
    FansOut id timings course where
  received := by
    rintro before now mailbox after rfl quiet calm keeps
    exact reports_of_subscription before now after quiet calm keeps
  shared := by
    rintro before now source after rfl
    have numbered : (Reporting.new id timings).connection.Numbered :=
      ⟨List.Pairwise.nil, fun _ listed => absurd listed List.not_mem_nil⟩
    refine ⟨((Reporting.new id timings).follow before).connection.subscribers,
      (numbered_follow numbered before).1, fun entry => mem_subscribers_iff_lasts, ?_⟩
    have own : ((Reporting.new id timings).follow before).connection.id = id :=
      id_follow before (.new id timings)
    rw [deliveries_apply]
    simp only [heard, own, List.map_cons, List.map_nil]
    exact List.map_eq_flatMap.symm
  fresh := by
    rintro before now mailbox between moment other after number next rfl answered answeredThen
    obtain ⟨-, used⟩ := nextSubscriber_of_subscribe now answered
    obtain ⟨given, -⟩ := nextSubscriber_of_subscribe now answeredThen
    rw [Reporting.follow_append] at given
    have grown := nextSubscriber_le_follow between (((Reporting.new id timings).follow before).meet
      (.event now (.subscribe mailbox)))
    exact given ▸ Nat.lt_of_lt_of_le (used ▸ Nat.lt_succ_self number) grown
  independent := by
    rintro before now number after rfl
    have alike := (alikeOn_unsubscribe now number ((Reporting.new id timings).follow before)).follow
      after
    have ended : (Reporting.new id timings).follow
        (before ++ .event now (.unsubscribe number) :: after) =
          (((Reporting.new id timings).follow before).meet
            (.event now (.unsubscribe number))).follow after :=
      Reporting.follow_append ..
    rw [← Reporting.follow_append, ← ended] at alike
    refine ⟨fun mailbox foreign => alike.mail mailbox ?_, fun entry stays => ?_⟩
    · intro entry own
      have different : ¬ (entry.id = number ∧ Lasts id timings before entry) := by
        rintro ⟨rfl, lasts⟩
        exact foreign (own ▸ lasts)
      rw [← mem_subscribers_iff_lasts] at different
      simpa [imp_iff_not_or] using different
    · rw [← mem_subscribers_iff_lasts] at stays
      rw [← mem_subscribers_iff_lasts, ← mem_subscribers_iff_lasts]
      have same := congrArg (entry ∈ ·) alike.subscribers
      simpa [not_and_or.mp stays] using same
  refused := by
    rintro before now mailbox after rfl
    refine ⟨subscribe_eq_none_iff.symm, fun closed => ?_⟩
    have ended : ((Reporting.new id timings).follow
        (before ++ .event now (.subscribe mailbox) :: after)).connection.phase = .closed := by
      rw [Reporting.follow_append]
      exact closed_follow closed _
    exact ⟨ended, fun entry lasts => (lasts.choose_spec.choose_spec.choose_spec).2.2.2 ended⟩

end DiagnosticGateway.Connection
