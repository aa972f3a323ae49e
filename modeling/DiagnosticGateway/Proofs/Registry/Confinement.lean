import DiagnosticGateway.Proofs.Registry.Posting
import DiagnosticGateway.Proofs.Registry.Ruling

/-!
# What a request touches

A probe chooses its targets when it starts and judges them when it ends. In between the table and
the connections change, and neither is looked at again. So whatever a request does to connections
stays within its choice: it asks those that it has chosen, it closes those among them that have not
confirmed, and it registers its own connection, which it never chooses. It obtains the lock once, so
there is one choice.
-/

namespace DiagnosticGateway.Registry

/-- An occurrence belongs to a request: the request is made by it, or it is one of its steps. -/
inductive BelongsTo (request : Request) (registry : Registry) (occurrence : Occurrence) : Prop
  | makes (number : request.id = registry.requests.length)
      (calls : occurrence.action = .event (.request request.connection request.source))
  | moves (found : registry.request? request.id = some request)
      (step : occurrence.action = .task (.request request.id))

/-- With this step the request obtains the lock. -/
def ObtainsLock (limit : Nat) (past : History) (look : Occurrence) (request : Request) : Prop :=
  look.action = .task (.request request.id) ∧
    ∃ stage, (after limit past).request? request.id = some { request with stage := stage } ∧
      (after limit past).Obtains { request with stage := stage }

/-- What an occurrence that belongs to a request does to a connection. It is spared, granted its
address, asked for a sign of life, released or closed as silent; each form says which connections it
may be applied to. -/
inductive Treatment (limit : Nat) (history : History) (occurrence : Occurrence) (request : Request)
    (id : ConnectionId) (connection : Connection) : Connection → Prop
  /-- Nothing. -/
  | spares : Treatment limit history occurrence request id connection connection
  /-- The request obtains the lock, and the connection is registered then: it is subscribed to and
  asked. -/
  | asks (obtains : ObtainsLock limit history occurrence request)
      (target : id ∈ (after limit history).registered) (other : id ≠ request.connection) :
      Treatment limit history occurrence request id connection
        { connection with
          subscribers := connection.subscribers ++ [⟨connection.nextSubscriber, request.id⟩]
          nextSubscriber := connection.nextSubscriber + 1
          outbound :=
            if connection.sending && connection.receiving then
              connection.outbound ++ [.aliveCheckRequest]
            else connection.outbound }
  /-- The subscription of the request ends. -/
  | releases :
      Treatment limit history occurrence request id connection
        { connection with
          subscribers := connection.subscribers.filter fun entry => entry.mailbox ≠ request.id }
  /-- The connection was registered and asked when the request obtained the lock, and has not
  confirmed since: it is closed. -/
  | closes {past window : History} {look : Occurrence} (split : history = past ++ look :: window)
      (obtains : ObtainsLock limit past look request)
      (target : id ∈ (after limit past).registered) (other : id ≠ request.connection)
      (asked : ∃ earlier, (after limit past).pool.get? id = some earlier ∧
        ((after limit past).act look).pool.get? id = some (earlier.asked request.id))
      (silent : (after limit past).confirms look window id = false) :
      Treatment limit history occurrence request id connection connection.stop.value
  /-- The connection is the one that the request is about, and not registered: it is registered. -/
  | activates (own : id = request.connection) (opened : connection.phase ≠ .closed)
      (unregistered : connection.phase ≠ .registeredActive) :
      Treatment limit history occurrence request id connection
        { connection with
          phase := .registeredActive
          sourceAddress := some request.source
          generation := connection.generation + 1
          timer := some ⟨.general, connection.generation + 1,
            occurrence.moment + connection.timings.general⟩ }

variable {registry next : Registry} {occurrence look other : Occurrence} {request : Request}
  {purpose : ProbePurpose} {check : AliveCheck} {limit : Nat}
  {history past window rest first later : History} {id : ConnectionId}
  {connection following : Connection} {now : Milliseconds} {code : Wire.ActivationCode}

/-! ## The lock is obtained once -/

/-- A request that obtains the lock does not wait for it afterwards. It is granted its address at
once or starts a probe, and both are further than the line. -/
theorem Move.rank_of_obtains (move : Move now request registry next)
    (turn : registry.Obtains request) {later : Request}
    (foundNext : next.request? request.id = some later) : 2 ≤ later.stage.rank := by
  have able : registry.canStep now request = true := by
    rcases turn with ⟨asked, -⟩ | ⟨inLine, holds⟩
    · simp [canStep, asked]
    · simp [canStep, inLine, holds]
  cases move with
  | rests still =>
    rw [able] at still
    cases still
  | answersAtOnce asked known =>
    rw [stage_of_set (request?_answer ..) foundNext]
    simp [RequestStage.rank]
  | goesInLine asked unknown taken =>
    rcases turn with ⟨-, free⟩ | ⟨inLine, -⟩
    · rw [free] at taken
      cases taken
    · rw [asked] at inLine
      cases inLine
  | answersInTurn inLine holds known =>
    rw [stage_of_set ((request?_release ..).trans (request?_answer ..)) foundNext]
    simp [RequestStage.rank]
  | arbitrates arbitration =>
    cases arbitration with
    | grants turn unknown course =>
      rw [stage_of_set (request?_concluded ..) foundNext]
      simp [RequestStage.rank]
    | probes turn unknown course =>
      rw [stage_of_set (request?_probing ..) foundNext]
      simp [RequestStage.rank]
    | concludes waited ends =>
      rw [stage_of_set (request?_concluded ..) foundNext]
      simp [RequestStage.rank]

/-- No occurrence takes a request back. Its own step takes it further or finds nothing to do, and
the steps of others leave its stage alone. -/
theorem rank_le_act {number : RequestId} {before later : Request}
    (found : registry.request? number = some before)
    (foundNext : (registry.act occurrence).request? number = some later) :
    before.stage.rank ≤ later.stage.rank := by
  by_cases own : occurrence.action = .task (.request number)
  · obtain rfl := id_of_request? found
    have move := move_of_step found own
    cases able : registry.canStep occurrence.moment before with
    | true => exact Nat.le_of_lt (move.rank_lt able foundNext)
    | false =>
      rw [move.eq_of_unable able, found] at foundNext
      obtain rfl := Option.some.inj foundNext
      exact Nat.le_refl _
  · rw [request?_unless_step found own] at foundNext
    obtain rfl := Option.some.inj foundNext
    exact Nat.le_refl _

/-- Ever after it has obtained the lock, a request does not wait for it. So the moment at which it
obtains the lock is the only one of its kind, and what is decided there is decided once. -/
theorem ObtainsLock.rank (obtains : ObtainsLock limit past look request) (window : History) :
    ∃ stage, (after limit (past ++ look :: window)).request? request.id =
      some { request with stage := stage } ∧ 2 ≤ stage.rank := by
  obtain ⟨step, stage, found, turn⟩ := obtains
  induction window using List.reverseRecOn with
  | nil =>
    rw [after_concat]
    have move := move_of_step found step
    obtain ⟨nextStage, foundNext⟩ := move.request?_self found
    exact ⟨nextStage, foundNext, move.rank_of_obtains turn foundNext⟩
  | append_singleton window occurrence inductionHypothesis =>
    obtain ⟨middle, foundMiddle, bound⟩ := inductionHypothesis
    rw [← List.cons_append, ← List.append_assoc, after_concat]
    obtain ⟨nextStage, foundNext⟩ := request?_act foundMiddle
    exact ⟨nextStage, foundNext, Nat.le_trans bound (rank_le_act foundMiddle foundNext)⟩

/-- A request that has obtained the lock does not obtain it later. From there on its stage has a
rank that it did not have before, and ranks never sink. -/
theorem ObtainsLock.not_again (obtains : ObtainsLock limit past look request) :
    ¬ ObtainsLock limit (past ++ look :: window) other request := by
  rintro ⟨-, stage, found, turn⟩
  obtain ⟨reached, alsoFound, bound⟩ := obtains.rank window
  obtain rfl : stage = reached :=
    congrArg Request.stage (Option.some.inj (found.symm.trans alsoFound))
  rcases turn with ⟨asked, -⟩ | ⟨inLine, -⟩
  · obtain rfl : stage = .asked := asked
    exact absurd bound (by decide)
  · obtain rfl : stage = .inLine := inLine
    exact absurd bound (by decide)

/-- A request obtains the lock at one place of a history at most. Of two such places one would be
later than the other. -/
theorem ObtainsLock.unique (obtains : ObtainsLock limit past look request)
    (again : ObtainsLock limit first other request)
    (same : past ++ look :: window = first ++ other :: rest) : past = first := by
  rcases List.append_eq_append_iff.mp same with ⟨between, rfl, split⟩ | ⟨between, rfl, split⟩
  · cases between with
    | nil => exact (List.append_nil past).symm
    | cons head tail =>
      obtain ⟨rfl, -⟩ := List.cons.inj split
      exact absurd again obtains.not_again
  · cases between with
    | nil => exact List.append_nil first
    | cons head tail =>
      obtain ⟨rfl, -⟩ := List.cons.inj split
      exact absurd obtains again.not_again

/-! ## What the steps of a request do to a connection -/

/-- A decision registers the connection that it is about, if that is open and not registered, and no
other connection. -/
theorem treatment_settled (step : occurrence.moment = now) :
    Treatment limit history occurrence request id connection
      (settled now request code id connection) := by
  subst step
  by_cases granted : code = .success ∧ id = request.connection
  · simp only [settled, if_pos granted]
    by_cases kept : connection.phase = .closed ∨ connection.phase = .registeredActive
    · rw [Connection.activate_of_settled _ _ kept]
      exact .spares
    · obtain ⟨opened, unregistered⟩ := not_or.mp kept
      rw [Connection.activate_of_unregistered _ _ opened unregistered]
      exact .activates granted.2 opened unregistered
  · simp only [settled, if_neg granted]
    exact .spares

/-- A request chooses among the registered connections of the table, and never its own. -/
theorem chosen_of_course (consistent : registry.pool.Consistent) {targets : List ConnectionId}
    (unknown : registry.pool.sourceAddress request.connection = none)
    (course : registry.course request.connection request.source = .probe purpose targets)
    (member : id ∈ targets) : id ∈ registry.registered ∧ id ≠ request.connection := by
  obtain ⟨listed, holds⟩ := registered_of_course consistent course id member
  refine ⟨List.mem_filter.mpr ⟨listed, (consistent.isRegistered_iff id).mpr holds⟩, ?_⟩
  rintro rfl
  exact not_mem_of_course consistent unknown course member

/-- A registered connection is open. -/
theorem phase_of_registered (registered : id ∈ registry.registered)
    (found : registry.pool.get? id = some connection) : connection.phase ≠ .closed := by
  obtain ⟨same, alsoFound, active⟩ := Pool.isRegistered_iff.mp (List.mem_filter.mp registered).2
  obtain rfl := Option.some.inj (found.symm.trans alsoFound)
  simp [active]

/-- The step that starts a probe asks the connections that it chooses. A connection that is no
target is spared. -/
theorem treatment_probing (obtains : ObtainsLock limit history occurrence request)
    (unknown : (after limit history).pool.sourceAddress request.connection = none)
    {targets : List ConnectionId}
    (course : (after limit history).course request.connection request.source =
      .probe purpose targets)
    (found : (after limit history).pool.get? id = some connection) :
    Treatment limit history occurrence request id connection
      (connection.askedAmong request.id id targets) := by
  have sound := sound_after limit history
  by_cases member : id ∈ targets
  · obtain ⟨target, apart⟩ := chosen_of_course sound.consistent unknown course member
    have opened : connection.phase ≠ .closed := phase_of_registered target found
    rw [Connection.askedAmong_of_mem (nodup_of_course sound.ascending course) member,
      Connection.asked_of_open opened]
    exact .asks obtains target apart
  · rw [Connection.askedAmong_of_not_mem member]
    exact .spares

/-- While a probe waits, every subscriber was subscribed by it. -/
theorem Session.listens (session : Session limit past look window request purpose check)
    (found : (after limit (past ++ look :: window)).pool.get? id = some connection)
    {entry : Subscriber} (listens : entry ∈ connection.subscribers) :
    entry.mailbox = request.id ∧ (id, entry.id) ∈ check.subscriptions := by
  have sound := sound_after limit (past ++ look :: window)
  obtain ⟨other, alsoCheck, probes, recorded⟩ :=
    sound.subscribed id connection entry found listens
  obtain ⟨mailbox, -, rfl⟩ :=
    sound.probes_unique probes (session.waits window List.prefix_rfl)
  exact ⟨mailbox, recorded⟩

/-- A waiting probe has obtained the lock when it started. -/
theorem Began.obtainsLock {stage : RequestStage}
    (began : (after limit past).Began look request purpose check) :
    ObtainsLock limit past look { request with stage := stage } :=
  ⟨began.step, request.stage, began.found, began.turn⟩

/-- What the probe of a request has done when it started. -/
theorem Began.asked (began : (after limit past).Began look request purpose check)
    (member : id ∈ check.targets) :
    ∃ earlier, (after limit past).pool.get? id = some earlier ∧
      ((after limit past).act look).pool.get? id = some (earlier.asked request.id) := by
  have sound := sound_after limit past
  obtain ⟨target, -⟩ := chosen_of_course sound.consistent began.unknown began.course member
  obtain ⟨earlier, found, -⟩ := Pool.isRegistered_iff.mp (List.mem_filter.mp target).2
  refine ⟨earlier, found, ?_⟩
  rw [began.act, get?_probing, found, Option.map_some,
    Connection.askedAmong_of_mem (nodup_of_course sound.ascending began.course) member]

/-- The step that ends a probe closes those of its targets that have not confirmed, and may register
the connection that the request is about. -/
theorem treatment_concluded (found : (after limit history).request? request.id = some request)
    (waited : request.stage = .probing purpose check)
    (alive : (after limit history).pool.get? id = some connection) :
    Treatment limit history occurrence request id connection
      (settled occurrence.moment request code id
        (check.left ((after limit history).mail.reports check.mailbox) id connection)) := by
  obtain ⟨past, look, window, begun, rfl, rfl, session⟩ := session_of_waiting found waited
  have began := session.began
  by_cases member : id ∈ check.targets
  · obtain ⟨target, apart⟩ := chosen_of_course (sound_after limit past).consistent began.unknown
      began.course member
    have unsettled : ∀ left : Connection,
        settled occurrence.moment { begun with stage := .probing purpose check } code id left =
          left := fun left => if_neg fun granted => apart granted.2
    rw [unsettled]
    by_cases silent : AliveCheck.counting
        ((after limit (past ++ look :: window)).mail.reports check.mailbox) id = []
    · rw [AliveCheck.left_of_silent_value ((sound_after limit _).consistent id connection alive)
        ⟨member, silent⟩]
      exact .closes rfl began.obtainsLock target apart (began.asked member)
        ((session.silent_iff member).mp silent)
    · rw [AliveCheck.left_of_heard fun quiet => silent quiet.2]
      have same : connection.subscribers.filter (fun entry => (id, entry.id) ∉ check.subscriptions) =
          connection.subscribers.filter fun entry => entry.mailbox ≠ begun.id := by
        refine List.filter_congr fun entry listens => ?_
        obtain ⟨mailbox, recorded⟩ := session.listens alive listens
        simp [mailbox, recorded]
      rw [same]
      exact .releases
  · have nobody : connection.subscribers = [] := by
      refine List.eq_nil_iff_forall_not_mem.mpr fun entry listens => member ?_
      have recorded := (session.listens alive listens).2
      rw [began.started] at recorded ⊢
      exact AliveCheck.target_of_recorded begun.id recorded
    have same : check.left ((after limit (past ++ look :: window)).mail.reports check.mailbox) id
        connection = connection := by
      rw [AliveCheck.left_of_heard fun quiet => member quiet.1, nobody, List.filter_nil, ← nobody]
    rw [same]
    exact treatment_settled rfl

/-- A request that is made is added to the others, and nothing else changes. -/
theorem act_of_call (calls : occurrence.action =
    .event (.request request.connection request.source)) :
    registry.act occurrence =
      { registry with
        requests := registry.requests ++
          [⟨registry.requests.length, request.connection, request.source, .asked⟩] } := by
  obtain ⟨moment, action⟩ := occurrence
  obtain rfl := calls
  rfl

/-- Whatever belongs to a request treats every connection in one of these ways. The making of the
request touches nobody; a step is a move, and what a move does to a connection has been listed. -/
theorem treatment_of_belongsTo (belongs : (after limit history).BelongsTo request occurrence)
    (found : (after limit history).pool.get? id = some connection) :
    ∃ following, (after limit (history ++ [occurrence])).pool.get? id = some following ∧
      Treatment limit history occurrence request id connection following := by
  rw [after_concat]
  cases belongs with
  | makes number calls =>
    rw [act_of_call calls]
    exact ⟨connection, found, .spares⟩
  | moves foundRequest step =>
    have move := move_of_step foundRequest step
    generalize act occurrence (after limit history) = next at move ⊢
    cases move with
    | rests still => exact ⟨connection, found, .spares⟩
    | answersAtOnce asked known => exact ⟨connection, found, .spares⟩
    | goesInLine asked unknown taken => exact ⟨connection, found, .spares⟩
    | answersInTurn inLine holds known =>
      rw [release_value]
      exact ⟨connection, found, .spares⟩
    | arbitrates arbitration =>
      cases arbitration with
      | grants turn unknown course =>
        refine ⟨_, by rw [get?_concluded, found, Option.map_some], treatment_settled rfl⟩
      | probes turn unknown course =>
        have obtains : ObtainsLock limit history occurrence request :=
          ⟨step, request.stage, foundRequest, turn⟩
        refine ⟨_, by rw [get?_probing, found, Option.map_some], ?_⟩
        exact treatment_probing obtains unknown course found
      | concludes waited ends =>
        refine ⟨_, by rw [get?_concluded, get?_probed, found, Option.map_some, Option.map_some], ?_⟩
        exact treatment_concluded foundRequest waited found

/-- What belongs to a request leaves the table and the numbers of connections alone. -/
theorem BelongsTo.frame (belongs : registry.BelongsTo request occurrence) :
    (registry.act occurrence).table = registry.table ∧
      (registry.act occurrence).limit = registry.limit ∧
      (registry.act occurrence).nextConnection = registry.nextConnection ∧
      (registry.act occurrence).stopping = registry.stopping := by
  cases belongs with
  | makes number calls =>
    rw [act_of_call calls]
    exact ⟨rfl, rfl, rfl, rfl⟩
  | moves found step => exact (move_of_step found step).frame

/-- What belongs to a request opens no connection. Connections come from outside, when a socket
begins to be served. -/
theorem BelongsTo.missing (belongs : registry.BelongsTo request occurrence)
    (missing : registry.pool.get? id = none) : (registry.act occurrence).pool.get? id = none := by
  cases belongs with
  | makes number calls =>
    rw [act_of_call calls]
    exact missing
  | moves found step =>
    have move := move_of_step found step
    generalize registry.act occurrence = next at move ⊢
    cases move with
    | rests still => exact missing
    | answersAtOnce asked known => exact missing
    | goesInLine asked unknown taken => exact missing
    | answersInTurn inLine holds known =>
      rw [release_value]
      exact missing
    | arbitrates arbitration =>
      cases arbitration with
      | grants turn unknown course => rw [get?_concluded, missing, Option.map_none]
      | probes turn unknown course => rw [get?_probing, missing, Option.map_none]
      | concludes waited ends =>
        rw [get?_concluded, get?_probed, missing, Option.map_none, Option.map_none]

/-! ## What is never done -/

/-- The connection that a request is about is not closed by it, and nothing is queued on it. -/
theorem Treatment.own
    (treatment : Treatment limit history occurrence request id connection following)
    (own : id = request.connection) :
    (following.phase = .closed ↔ connection.phase = .closed) ∧
      following.outbound = connection.outbound := by
  cases treatment with
  | spares => exact ⟨Iff.rfl, rfl⟩
  | asks obtains target other => exact absurd own other
  | releases => exact ⟨Iff.rfl, rfl⟩
  | closes split obtains target other asked silent => exact absurd own other
  | activates own opened unregistered => exact ⟨by simp [opened], rfl⟩

/-- A connection that was not registered when the request obtained the lock is not closed by it, and
nothing is queued on it. -/
theorem Treatment.unchosen
    (treatment : Treatment limit history occurrence request id connection following)
    (split : history ++ [occurrence] = past ++ look :: rest)
    (obtains : ObtainsLock limit past look request)
    (unregistered : id ∉ (after limit past).registered) :
    (following.phase = .closed ↔ connection.phase = .closed) ∧
      following.outbound = connection.outbound := by
  cases treatment with
  | spares => exact ⟨Iff.rfl, rfl⟩
  | asks again target other =>
    obtain rfl := again.unique obtains split
    exact absurd target unregistered
  | releases => exact ⟨Iff.rfl, rfl⟩
  | @closes first window other earlier again target apart asked silent =>
    rw [earlier, List.append_assoc, List.cons_append] at split
    obtain rfl := again.unique obtains split
    exact absurd target unregistered
  | activates own opened unregistered => exact ⟨by simp [opened], rfl⟩

/-- Any other connection that stays open keeps its address and its timer. -/
theorem Treatment.unrelated
    (treatment : Treatment limit history occurrence request id connection following)
    (other : id ≠ request.connection) (stays : following.phase ≠ .closed) :
    following.sourceAddress = connection.sourceAddress ∧ following.timer = connection.timer := by
  cases treatment with
  | spares => exact ⟨rfl, rfl⟩
  | asks obtains target other => exact ⟨rfl, rfl⟩
  | releases => exact ⟨rfl, rfl⟩
  | closes split obtains target other asked silent =>
    exact absurd (Connection.phase_stop connection) stays
  | activates own opened unregistered => exact absurd own other

/-- A request touches only what it must. Whatever else happens in between, an occurrence that
belongs to it leaves the table as it is and opens no connection, and all that it does to a
connection is to ask it, to release or to close it after that, or to register it. It never closes
its own connection or queues anything there. It never closes, and queues nothing on, a connection
that was not registered when the request obtained the lock. And every other connection that stays
open keeps its address and its timer. -/
theorem request_confined (limit : Nat) (history : History) (occurrence : Occurrence)
    (request : Request) (belongs : (after limit history).BelongsTo request occurrence) :
    let before := after limit history
    let next := after limit (history ++ [occurrence])
    (next.table = before.table ∧ next.limit = before.limit ∧
      next.nextConnection = before.nextConnection ∧ next.stopping = before.stopping) ∧
    (∀ id, before.pool.get? id = none → next.pool.get? id = none) ∧
    ∀ id connection, before.pool.get? id = some connection →
      ∃ following, next.pool.get? id = some following ∧
        Treatment limit history occurrence request id connection following ∧
        (id = request.connection →
          (following.phase = .closed ↔ connection.phase = .closed) ∧
            following.outbound = connection.outbound) ∧
        (∀ past look rest, history ++ [occurrence] = past ++ look :: rest →
          ObtainsLock limit past look request → id ∉ (after limit past).registered →
            (following.phase = .closed ↔ connection.phase = .closed) ∧
              following.outbound = connection.outbound) ∧
        (id ≠ request.connection → following.phase ≠ .closed →
          following.sourceAddress = connection.sourceAddress ∧
            following.timer = connection.timer) := by
  intro before next
  have reached : next = before.act occurrence := after_concat
  refine ⟨reached ▸ belongs.frame, fun id missing => reached ▸ belongs.missing missing, ?_⟩
  intro id connection found
  obtain ⟨following, foundNext, treatment⟩ := treatment_of_belongsTo belongs found
  exact ⟨following, foundNext, treatment, treatment.own,
    fun past look rest split obtains => treatment.unchosen split obtains, treatment.unrelated⟩

/-- The handover up to its last step, while a third connection is served that stays unregistered. -/
def watchedHandover : History :=
  handover.take 8 ++
    [⟨25, .event (.openConnection ⟨2000, 300000⟩)⟩, ⟨25, .event (.add 3)⟩, ⟨25, .event (.start 3)⟩,
      ⟨30, .event (.request 2 0x0E00)⟩, ⟨30, .task (.request 1)⟩]

/-- The last step of the handover closes the connection that did not answer and registers the one
that the request is about. The third one has its timer and its empty queue as before, no other
appears, and the table is as it was. -/
theorem request_confined_handover :
    let request : Request := ⟨1, 2, 0x0E00, .probing (.holder 1) ⟨[1], [(1, 0)], 1, 530⟩⟩
    let judging : Occurrence := ⟨530, .task (.request 1)⟩
    let before := after 2 watchedHandover
    let next := after 2 (watchedHandover ++ [judging])
    before.BelongsTo request judging ∧
      (next.table = before.table ∧ next.limit = before.limit ∧
        next.nextConnection = before.nextConnection ∧ next.stopping = before.stopping) ∧
      next.pool.get? 4 = none ∧
      (∃ holder following, before.pool.get? 1 = some holder ∧ next.pool.get? 1 = some following ∧
        Treatment 2 watchedHandover judging request 1 holder following ∧
        holder.phase = .registeredActive ∧ following.phase = .closed) ∧
      (∃ own following, before.pool.get? 2 = some own ∧ next.pool.get? 2 = some following ∧
        Treatment 2 watchedHandover judging request 2 own following ∧
        following.phase ≠ .closed ∧ following.outbound = own.outbound) ∧
      (∃ onlooker following, before.pool.get? 3 = some onlooker ∧
        next.pool.get? 3 = some following ∧
        Treatment 2 watchedHandover judging request 3 onlooker following ∧
        following.phase ≠ .closed ∧ following.outbound = onlooker.outbound ∧
        following.sourceAddress = onlooker.sourceAddress ∧ following.timer = onlooker.timer) ∧
      next.registered = [2] := by
  intro request judging before next
  have found : before.request? 1 = some request := by decide +kernel
  have belongs : before.BelongsTo request judging := .moves found rfl
  obtain ⟨frame, missing, touched⟩ := request_confined 2 watchedHandover judging request belongs
  have obtains : ObtainsLock 2 (watchedHandover.take 12) ⟨30, .task (.request 1)⟩ request :=
    ⟨rfl, .asked, by decide +kernel, Or.inl ⟨rfl, by decide +kernel⟩⟩
  have phases : ∀ entry ∈ [(1, Phase.registeredActive), (2, .initialized),
      (3, .initialized)], (before.pool.get? entry.1).map Connection.phase = some entry.2 := by
    decide +kernel
  obtain ⟨holder, foundHolder, active⟩ := Option.map_eq_some_iff.mp (phases _ (.head _))
  obtain ⟨own, foundOwn, ready⟩ := Option.map_eq_some_iff.mp (phases _ (.tail _ (.head _)))
  obtain ⟨onlooker, foundOnlooker, idle⟩ :=
    Option.map_eq_some_iff.mp (phases _ (.tail _ (.tail _ (.head _))))
  obtain ⟨gone, foundGone, ended, -⟩ := touched 1 holder foundHolder
  obtain ⟨registered, foundRegistered, changed, kept, -⟩ := touched 2 own foundOwn
  obtain ⟨same, foundSame, spared, -, unchosen, unrelated⟩ := touched 3 onlooker foundOnlooker
  have closed : gone.phase = .closed := by
    have last : (next.pool.get? 1).map Connection.phase = some .closed := by decide +kernel
    rw [foundGone] at last
    exact Option.some.inj last
  have keptOwn := kept rfl
  have keptOnlooker := unchosen _ _ [judging] rfl obtains (by decide +kernel)
  have opened : same.phase ≠ .closed := by
    rw [ne_eq, keptOnlooker.1, idle]
    decide
  refine ⟨belongs, frame, missing 4 (by decide +kernel),
    ⟨holder, gone, foundHolder, foundGone, ended, active, closed⟩,
    ⟨own, registered, foundOwn, foundRegistered, changed, ?_, keptOwn.2⟩,
    ⟨onlooker, same, foundOnlooker, foundSame, spared, opened, keptOnlooker.2,
      unrelated (by decide) opened⟩, by decide +kernel⟩
  rw [ne_eq, keptOwn.1, ready]
  decide

end DiagnosticGateway.Registry
