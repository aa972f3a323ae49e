import DiagnosticGateway.Proofs.Connection.Posting
import DiagnosticGateway.Proofs.Registry.Session

/-!
# What an arbitration puts into the queues

The step of a request queues nothing but requests for signs of life, and none on the connection that
asks to be registered: that one is not registered yet, so it is no target of the check. For the same
reason the end of the check does not close it.
-/

namespace DiagnosticGateway.Registry

open Log AliveCheck

variable {registry : Registry} {now : Milliseconds} {request : Request} {occurrence : Occurrence}
  {number : RequestId}

/-- A connection that is not registered is no target of the check that its request starts. -/
theorem not_mem_of_course (consistent : registry.pool.Consistent) {connection : ConnectionId}
    {source : UInt16} {purpose : ProbePurpose} {targets : List ConnectionId}
    (unknown : registry.pool.sourceAddress connection = none)
    (course : registry.course connection source = .probe purpose targets) :
    connection ∉ targets := by
  intro named
  obtain ⟨-, held, holds⟩ := registered_of_course consistent course connection named
  rw [unknown] at holds
  cases holds

/-- Events that ask others than a connection for signs of life, and queue nothing else. -/
def Spares (connection : ConnectionId) (events : List Log.Event) : Prop :=
  ∃ targets, connection ∉ targets ∧ Asks targets events

/-- Where nothing is queued, everybody is spared. -/
theorem spares_of_silent {connection : ConnectionId} {events : List Log.Event}
    (silent : posts events = []) : Spares connection events :=
  ⟨[], List.not_mem_nil, asks_of_silent silent⟩

/-- Silence before does not change who is spared. -/
theorem Spares.prefixed {connection : ConnectionId} {earlier later : List Log.Event}
    (silent : posts earlier = []) (spares : Spares connection later) :
    Spares connection (earlier ++ later) := by
  obtain ⟨targets, other, asks⟩ := spares
  exact ⟨targets, other, (asks_of_silent silent).append asks⟩

/-- Nothing is queued on the connection that is spared. -/
theorem Spares.postedOn {connection : ConnectionId} {events : List Log.Event}
    (spares : Spares connection events) : Log.postedOn connection events = [] := by
  obtain ⟨targets, other, asks⟩ := spares
  exact asks.postedOn other

/-! ## The parts of a step -/

/-- A request of a connection that is registered already is decided without a word to anybody. -/
@[simp] theorem posts_registeredAnswer (request : Request) (registry : Registry) :
    posts (registry.registeredAnswer request).events = [] := by
  unfold registeredAnswer
  split
  · rfl
  · split <;> rfl

/-- A decision is handed to whoever asked for it; the registry itself queues nothing. -/
@[simp] theorem posts_commit (now : Milliseconds) (request : Request) (registry : Registry) :
    posts (registry.commit now request).events = [] := by
  have asks : posts (registry.pool.ask request.connection
      (Connection.activate now request.source)).events = [] :=
    Pool.posts_ask fun connection => connection.posts_activate now request.source
  unfold commit
  simp only [Logged.events_bind]
  split <;> simp [asks, Log.Event.post?]

/-- Nothing is queued by a decision, and the events tell so. -/
theorem accounts_commit (now : Milliseconds) (request : Request) (registry : Registry) :
    registry.pool.Accounts (registry.commit now request).events
      (registry.commit now request).value.1.pool := by
  have asks : registry.pool.Accounts _ (committed now request registry.pool) :=
    Pool.accounts_ask fun connection => connection.accounts_activate now request.source
  rw [commit_value]
  refine asks.congr ?_
  rw [posts_commit]
  exact (Pool.posts_ask fun connection => connection.posts_activate now request.source).symm

/-- Judging the responses to a probe queues nothing. Whoever is closed as silent hears nothing, and
whoever is granted an address is told by its reader. -/
@[simp] theorem posts_judge (now : Milliseconds) (request : Request) (purpose : ProbePurpose)
    (responses : Responses) (registry : Registry) :
    posts (registry.judge now request purpose responses).events = [] := by
  unfold judge
  cases purpose with
  | capacity =>
    dsimp only
    split
    · rfl
    · exact posts_commit now request registry
  | holder holder =>
    dsimp only
    split
    · rfl
    · split
      · rfl
      · exact posts_commit now request registry

/-- Nothing is queued when the responses are judged, and the events tell so. The verdict decides
between the two cases, in one of which the address is committed. -/
theorem accounts_judge (now : Milliseconds) (request : Request) (purpose : ProbePurpose)
    (responses : Responses) (registry : Registry) :
    registry.pool.Accounts (registry.judge now request purpose responses).events
      (registry.judge now request purpose responses).value.1.pool := by
  unfold judge
  cases purpose with
  | capacity =>
    dsimp only
    split
    · exact Pool.accounts_of_same rfl rfl
    · exact accounts_commit now request registry
  | holder holder =>
    dsimp only
    split
    · exact Pool.accounts_of_same rfl rfl
    · split
      · exact Pool.accounts_of_same rfl rfl
      · exact accounts_commit now request registry

/-- Recording a decision does not touch the connections. -/
theorem accounts_conclude (now : Milliseconds) (request : Request) (code : Wire.ActivationCode)
    (registry : Registry) :
    registry.pool.Accounts (registry.conclude now request code).events
      (registry.conclude now request code).value.pool := by
  refine Pool.accounts_of_same rfl ?_
  have value : (registry.conclude now request code).value =
      (registry.answer now request code).release := rfl
  rw [value, release_value]
  rfl

/-- A probe asks its targets for a sign of life, each time telling what was queued. What is queued
are the requests for signs of life, in the order of the targets. -/
theorem accounts_probe (now : Milliseconds) (request : Request) (purpose : ProbePurpose)
    (targets : List ConnectionId) (registry : Registry) :
    registry.pool.Accounts (registry.probe now request purpose targets).events
        (registry.probe now request purpose targets).value.pool ∧
      Asks targets (registry.probe now request purpose targets).events := by
  have asks := asks_askTargets request.id targets registry.pool
  have accounts := accounts_askTargets request.id targets registry.pool
  have same : posts (registry.probe now request purpose targets).events =
      posts (askTargets request.id targets registry.pool).events := by
    simp [probe, begin]
  refine ⟨accounts.congr same, ?_⟩
  intro post member
  rw [same] at member
  exact asks post member

/-- At the end of a probe silent targets are closed; nothing is queued any more. The judgement may
register the connection of the request, which queues nothing either. -/
theorem accounts_endProbe (now : Milliseconds) (request : Request) (purpose : ProbePurpose)
    (check : AliveCheck) (registry : Registry) :
    registry.pool.Accounts (registry.endProbe now request purpose check).events
        (registry.endProbe now request purpose check).value.pool ∧
      posts (registry.endProbe now request purpose check).events = [] := by
  obtain ⟨finishes, silent⟩ := accounts_finish (decide (now < check.deadline))
    (registry.mail.reports check.mailbox) check registry.pool
  let finished := (check.finish (decide (now < check.deadline))
    (registry.mail.reports check.mailbox) registry.pool).value
  let ended := { registry with pool := finished.1, mail := registry.mail.discard check.mailbox }
  have judges := accounts_judge now request purpose finished.2 ended
  refine ⟨finishes.trans (judges.trans (accounts_conclude now request _ _)), ?_⟩
  unfold endProbe
  simp only [Logged.events_bind, posts_append, silent, posts_judge]
  rfl

/-- A request that holds the lock is granted, or asks others for signs of life. The log of a probe
comes before what it queues, and tells of no message. -/
theorem accounts_resolve (now : Milliseconds) (request : Request) (registry : Registry) :
    registry.pool.Accounts (registry.resolve now request).events
      (registry.resolve now request).value.pool := by
  have logs : ∀ event : Log.Event, event.post? = none → registry.pool.Accounts [event] registry.pool :=
    fun event silent => Pool.accounts_of_same (by simp [silent]) rfl
  unfold resolve
  split
  · exact (logs _ rfl).trans (accounts_probe now request _ _ registry).1
  · dsimp only
    split
    · exact (accounts_commit now request registry).trans (accounts_conclude now request _ _)
    · exact (logs _ rfl).trans (accounts_probe now request _ _ registry).1

/-- Resolving a request may ask others for a sign of life, but not the connection it is for, which
is not registered and so no target. -/
theorem spares_resolve (consistent : registry.pool.Consistent)
    (unknown : registry.pool.sourceAddress request.connection = none) :
    Spares request.connection (registry.resolve now request).events := by
  have probes : ∀ purpose targets,
      registry.course request.connection request.source = .probe purpose targets →
        ∀ event : Log.Event, event.post? = none →
          Spares request.connection
            (event :: (registry.probe now request purpose targets).events) := by
    intro purpose targets course event silent
    have first : AliveCheck.Asks targets [event] := asks_of_silent (by simp [silent])
    exact ⟨targets, not_mem_of_course consistent unknown course,
      first.append (accounts_probe now request purpose targets registry).2⟩
  cases held : registry.otherHolder request.connection request.source with
  | some holder =>
    have course : registry.course request.connection request.source =
        .probe (.holder holder) [holder] := by simp only [Registry.course, held]
    simp only [resolve, held]
    exact probes _ _ course _ rfl
  | none =>
    by_cases room : registry.registered.length < registry.limit
    · refine spares_of_silent ?_
      simp only [resolve, held, if_pos room, Logged.events_bind, posts_append, posts_commit]
      rfl
    · have course : registry.course request.connection request.source =
          .probe .capacity registry.registered := by simp only [Registry.course, held, if_neg room]
      simp only [resolve, held, if_neg room]
      exact probes _ _ course _ rfl

/-! ## The step of a request -/

/-- A step of a request, whatever it is, tells all that comes into a queue by it. The cases are the
stages of the request; only the start of a probe queues anything. -/
theorem accounts_advance (now : Milliseconds) (number : RequestId) (registry : Registry) :
    registry.pool.Accounts (registry.advance now number).events
      (registry.advance now number).value.pool := by
  have rests : registry.pool.Accounts [] registry.pool := Pool.accounts_of_same rfl rfl
  unfold advance
  cases registry.request? number with
  | none => exact rests
  | some request =>
    have answers : registry.pool.Accounts (registry.registeredAnswer request).events registry.pool :=
      Pool.accounts_of_same (posts_registeredAnswer request registry) rfl
    simp only [stepRequest]
    split
    · simp only [Logged.value_bind, Logged.events_bind]
      refine answers.trans ?_
      split
      · exact rests
      · unfold seekLock
        split
        · exact accounts_resolve now request { registry with lockHolder := some request.id }
        · exact rests
    · split
      · simp only [Logged.value_bind, Logged.events_bind]
        refine answers.trans ?_
        split
        · refine Pool.accounts_of_same rfl ?_
          rw [Logged.value_pure, release_value]
          rfl
        · exact accounts_resolve now request registry
      · exact rests
    · split
      · exact (accounts_endProbe now request _ _ registry).1
      · exact rests
    · exact rests

/-- The step of a request asks others for signs of life, and queues nothing else. The connection
that it is for is not registered as long as it is undecided, and only registered ones are asked. -/
theorem spares_advance (consistent : registry.pool.Consistent)
    (found : registry.request? number = some request) :
    Spares request.connection (registry.advance now number).events := by
  have rests : Spares request.connection [] := spares_of_silent rfl
  have answers := registeredAnswer_value request registry
  have resolves : ∀ holder, registry.pool.sourceAddress request.connection = none →
      Spares request.connection
        ({ registry with lockHolder := holder }.resolve now request).events :=
    fun _ unknown => spares_resolve consistent unknown
  unfold advance
  simp only [found, stepRequest]
  split
  · simp only [Logged.events_bind, answers]
    refine Spares.prefixed (posts_registeredAnswer request registry) ?_
    cases known : registry.pool.sourceAddress request.connection with
    | some held => exact rests
    | none =>
      simp only [Option.map_none, seekLock]
      split
      · exact resolves _ known
      · exact rests
  · split
    · simp only [Logged.events_bind, answers]
      refine Spares.prefixed (posts_registeredAnswer request registry) ?_
      cases known : registry.pool.sourceAddress request.connection with
      | some held => exact rests
      | none => exact resolves _ known
    · exact rests
  · split
    · exact spares_of_silent (accounts_endProbe now request _ _ registry).2
    · exact rests
  · exact rests

end DiagnosticGateway.Registry
