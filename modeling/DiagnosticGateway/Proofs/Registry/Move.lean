import DiagnosticGateway.Proofs.Registry.Outside

/-!
# What a step of a request can come to

A request is answered from its own connection if that is registered, or it waits for the lock.
When it holds the lock it is granted at once, or it starts a probe; when its probe has ended it
is judged. These moves are listed here, each with the conditions under which it is made and
with the registry that it leaves behind, and every step of a request is one of them.

A move changes the stage of its own request and of no other. The table, the limit and the
numbers of connections are not its business.
-/

namespace DiagnosticGateway.Registry

/-- How a request that holds the lock is taken further. -/
inductive Course where
  /-- The address is free and there is room. -/
  | grant
  /-- Somebody has to be asked first. -/
  | probe (purpose : ProbePurpose) (targets : List ConnectionId)
  deriving DecidableEq

/-- A holder of the address is asked alone. Without a holder everybody who is registered is
asked, unless there is room. -/
def course (connection : ConnectionId) (source : UInt16) (registry : Registry) : Course :=
  match registry.otherHolder connection source with
  | some holder => .probe (.holder holder) [holder]
  | none =>
    if registry.registered.length < registry.limit then .grant
    else .probe .capacity registry.registered

/-- The answer for a connection that holds an address already. -/
def knownAnswer (held source : UInt16) : Wire.ActivationCode :=
  if held = source then .success else .deniedDifferentSourceAddress

/-- The request finds the lock free, or has been handed it. -/
def Obtains (request : Request) (registry : Registry) : Prop :=
  request.stage = .asked ∧ registry.lockHolder = none ∨
    request.stage = .inLine ∧ registry.lockHolder = some request.id

/-- The pool after the connection of a request has been registered, if it can be. -/
def committed (now : Milliseconds) (request : Request) (pool : Pool) : Pool :=
  (pool.ask request.connection (Connection.activate now request.source)).value.1

/-- The decision that the responses to a probe lead to. -/
def verdict (request : Request) (purpose : ProbePurpose) (responses : AliveCheck.Responses)
    (registry : Registry) : Wire.ActivationCode :=
  match purpose with
  | .capacity => if registry.limit ≤ responses.alive then .deniedAllSocketsRegistered else .success
  | .holder holder =>
    if responses.confirms holder request.source then .deniedSourceAddressActiveElsewhere
    else if (registry.otherHolder request.connection request.source).isSome then
      .deniedSourceAddressActiveElsewhere
    else .success

/-- The registry when a probe has just been started for the holder of the lock. -/
def probing (now : Milliseconds) (request : Request) (purpose : ProbePurpose)
    (targets : List ConnectionId) (registry : Registry) : Registry :=
  let asked := (AliveCheck.askTargets request.id targets registry.pool).value
  setStage request.id
    (.probing purpose ⟨targets, asked.2, request.id, now + AliveCheck.window⟩)
    { registry with lockHolder := some request.id, pool := asked.1 }

/-- The registry when a probe has ended and is about to be judged. -/
def probed (check : AliveCheck) (registry : Registry) : Registry :=
  { registry with
    pool := (AliveCheck.closeSilent (registry.mail.reports check.mailbox) check.targets
      (AliveCheck.unsubscribeAll check.subscriptions registry.pool)).value
    mail := registry.mail.discard check.mailbox }

/-- The registry after a decision: a success has been committed, the decision is recorded and
the lock is given on. -/
def concluded (now : Milliseconds) (request : Request) (code : Wire.ActivationCode)
    (registry : Registry) : Registry :=
  release (answer now request code
    { registry with
      pool := if code = .success then committed now request registry.pool else registry.pool })

/-- What the holder of the lock can come to. Either it is decided at once, or a probe is started, or
the probe that it has started is judged; in each case this is where connections are touched on
behalf of a request. -/
inductive Arbitration (now : Milliseconds) (request : Request) (registry : Registry) :
    Registry → Prop
  /-- It obtains the lock and is granted a free address. -/
  | grants (turn : registry.Obtains request)
      (unknown : registry.pool.sourceAddress request.connection = none)
      (course : registry.course request.connection request.source = .grant) :
      Arbitration now request registry
        (concluded now request .success { registry with lockHolder := some request.id })
  /-- It obtains the lock and starts a probe. -/
  | probes {purpose : ProbePurpose} {targets : List ConnectionId} (turn : registry.Obtains request)
      (unknown : registry.pool.sourceAddress request.connection = none)
      (course : registry.course request.connection request.source = .probe purpose targets) :
      Arbitration now request registry (registry.probing now request purpose targets)
  /-- Its probe has ended, and it is judged. -/
  | concludes {purpose : ProbePurpose} {check : AliveCheck}
      (waited : request.stage = .probing purpose check)
      (ends : registry.probeEnds now check = true) :
      Arbitration now request registry
        (concluded now request
          (verdict request purpose
            (AliveCheck.responses check.targets (registry.mail.reports check.mailbox))
            (registry.probed check))
          (registry.probed check))

/-- What one step of a request can come to. There is one constructor for each way in which a
step ends. -/
inductive Move (now : Milliseconds) (request : Request) (registry : Registry) : Registry → Prop
  /-- The request waits or has been decided. -/
  | rests (still : registry.canStep now request = false) : Move now request registry registry
  /-- Its connection is registered already, and no lock is needed to see that. -/
  | answersAtOnce {held : UInt16} (asked : request.stage = .asked)
      (known : registry.pool.sourceAddress request.connection = some held) :
      Move now request registry (registry.answer now request (knownAnswer held request.source))
  /-- Another request holds the lock. -/
  | goesInLine {holder : RequestId} (asked : request.stage = .asked)
      (unknown : registry.pool.sourceAddress request.connection = none)
      (taken : registry.lockHolder = some holder) :
      Move now request registry
        (setStage request.id .inLine
          { registry with lockLine := registry.lockLine ++ [request.id] })
  /-- Its connection has been registered while the request was in line. -/
  | answersInTurn {held : UInt16} (inLine : request.stage = .inLine)
      (holds : registry.lockHolder = some request.id)
      (known : registry.pool.sourceAddress request.connection = some held) :
      Move now request registry
        (registry.answer now request (knownAnswer held request.source)).release
  /-- It holds the lock and does not know its answer. -/
  | arbitrates {next : Registry} (arbitration : Arbitration now request registry next) :
      Move now request registry next

/-- The answer from the registration of the connection itself. -/
theorem registeredAnswer_value (request : Request) (registry : Registry) :
    (registry.registeredAnswer request).value =
      (registry.pool.sourceAddress request.connection).map fun held =>
        knownAnswer held request.source := by
  unfold registeredAnswer
  cases registry.pool.sourceAddress request.connection with
  | none => rfl
  | some held =>
    by_cases own : held = request.source
    · simp [knownAnswer, own]
    · simp [knownAnswer, own]

/-- Committing registers the connection and changes nothing else. -/
theorem commit_value (now : Milliseconds) (request : Request) (registry : Registry) :
    (registry.commit now request).value =
      ({ registry with pool := committed now request registry.pool }, .success) := by
  unfold commit committed
  simp only [Logged.value_bind]
  split <;> rfl

/-- Judging commits exactly the successes. The verdict is computed from the responses alone, and
what follows from it is committed in one step. -/
theorem judge_value (now : Milliseconds) (request : Request) (purpose : ProbePurpose)
    (responses : AliveCheck.Responses) (registry : Registry) :
    (registry.judge now request purpose responses).value =
      ({ registry with
          pool := if registry.verdict request purpose responses = .success then
            committed now request registry.pool else registry.pool },
        registry.verdict request purpose responses) := by
  cases purpose with
  | capacity =>
    unfold judge verdict
    by_cases full : registry.limit ≤ responses.alive
    · simp [full]
    · simp [full, commit_value]
  | holder holder =>
    unfold judge verdict
    by_cases confirmed : responses.confirms holder request.source = true
    · simp [confirmed]
    · cases held : registry.otherHolder request.connection request.source with
      | some other => simp [confirmed]
      | none => simp [confirmed, commit_value]

/-- A request that takes the lock follows its course. What the registry looks at in order to
choose the course, the holder of the address and the number of the registered, is not changed
by taking the lock. -/
theorem resolve_value (now : Milliseconds) (request : Request) (registry : Registry) :
    ({ registry with lockHolder := some request.id }.resolve now request).value =
      match registry.course request.connection request.source with
      | .grant => concluded now request .success { registry with lockHolder := some request.id }
      | .probe purpose targets => registry.probing now request purpose targets := by
  have lookup : { registry with lockHolder := some request.id }.otherHolder request.connection
      request.source = registry.otherHolder request.connection request.source := rfl
  have counted : { registry with lockHolder := some request.id }.registered =
      registry.registered := rfl
  unfold resolve course
  rw [lookup, counted]
  cases registry.otherHolder request.connection request.source with
  | some holder => rfl
  | none =>
    by_cases room : registry.registered.length < registry.limit
    · simp only [room, if_true, Logged.value_bind, commit_value]
      rfl
    · simp only [room, if_false]
      rfl

/-- A request that holds the lock and does not know its answer is granted or starts a probe. -/
theorem resolve_arbitrates (now : Milliseconds) {request : Request} {registry : Registry}
    (turn : registry.Obtains request)
    (unknown : registry.pool.sourceAddress request.connection = none) :
    Arbitration now request registry
      ({ registry with lockHolder := some request.id }.resolve now request).value := by
  rw [resolve_value]
  cases course : registry.course request.connection request.source with
  | grant => exact .grants turn unknown course
  | probe purpose targets => exact .probes turn unknown course

/-- Every step of a request is a move. The cases are those of the stage the request is in, and in
the line those of the lock. From here on the definition of the step is not opened again. -/
theorem stepRequest_move (now : Milliseconds) (request : Request) (registry : Registry) :
    Move now request registry (registry.stepRequest now request).value := by
  have answered := registeredAnswer_value request registry
  unfold stepRequest
  cases stage : request.stage with
  | asked =>
    simp only [Logged.value_bind, answered]
    cases known : registry.pool.sourceAddress request.connection with
    | some held => exact .answersAtOnce stage known
    | none =>
      cases lock : registry.lockHolder with
      | some holder =>
        simp only [Option.map_none, seekLock, lock, Logged.value_pure]
        have queued : Move now request registry _ := .goesInLine stage known lock
        simpa only [lock] using queued
      | none =>
        simp only [Option.map_none, seekLock, lock]
        have resolved := resolve_arbitrates now (Or.inl ⟨stage, lock⟩) known
        simpa only [lock] using Move.arbitrates resolved
  | inLine =>
    by_cases holds : registry.lockHolder = some request.id
    · simp only [if_pos holds, Logged.value_bind, answered]
      cases known : registry.pool.sourceAddress request.connection with
      | some held => exact .answersInTurn stage holds known
      | none =>
        have resolved := resolve_arbitrates now (Or.inr ⟨stage, holds⟩) known
        rw [← holds] at resolved
        exact .arbitrates resolved
    · simp only [if_neg holds]
      exact .rests (by simp [canStep, stage, holds])
  | probing purpose check =>
    by_cases ends : registry.probeEnds now check = true
    · have finished := AliveCheck.finish_value (decide (now < check.deadline))
        (registry.mail.reports check.mailbox) check registry.pool
      simp only [if_pos ends, endProbe, Logged.value_bind, finished, judge_value]
      exact .arbitrates (.concludes stage ends)
    · simp only [if_neg ends]
      exact .rests (by simpa [canStep, stage] using ends)
  | answered code => exact .rests (by simp [canStep, stage])

/-- A request that obtains the lock and does not know its answer follows its course. -/
theorem Obtains.stepRequest {request : Request} {registry : Registry}
    (turn : registry.Obtains request)
    (unknown : registry.pool.sourceAddress request.connection = none) (now : Milliseconds) :
    (registry.stepRequest now request).value =
      ({ registry with lockHolder := some request.id }.resolve now request).value := by
  have answered := registeredAnswer_value request registry
  rcases turn with ⟨asked, free⟩ | ⟨inLine, holds⟩
  · simp only [Registry.stepRequest, asked, Logged.value_bind, answered, unknown, Option.map_none,
      seekLock, free]
  · simp only [Registry.stepRequest, inLine, if_pos holds, Logged.value_bind, answered, unknown,
      Option.map_none]
    rw [← holds]

/-- A request makes no other move than its step. So a move can be carried through a translation of
the registry and recognised as the step there. -/
theorem Move.eq_step {now : Milliseconds} {request : Request} {registry next : Registry}
    (move : Move now request registry next) :
    next = (registry.stepRequest now request).value := by
  have answered := registeredAnswer_value request registry
  cases move with
  | rests still =>
    cases stage : request.stage with
    | asked => simp [canStep, stage] at still
    | inLine =>
      have waits : registry.lockHolder ≠ some request.id := by simpa [canStep, stage] using still
      simp only [stepRequest, stage, if_neg waits, Logged.value_pure]
    | probing purpose check =>
      have waits : ¬ registry.probeEnds now check = true := by simpa [canStep, stage] using still
      simp only [stepRequest, stage, if_neg waits, Logged.value_pure]
    | answered code => simp only [stepRequest, stage, Logged.value_pure]
  | answersAtOnce asked known =>
    simp only [stepRequest, asked, Logged.value_bind, answered, known, Option.map_some,
      Logged.value_pure]
  | goesInLine asked unknown taken =>
    simp only [stepRequest, asked, Logged.value_bind, answered, unknown, Option.map_none, seekLock,
      taken, Logged.value_pure]
  | answersInTurn inLine holds known =>
    simp only [stepRequest, inLine, if_pos holds, Logged.value_bind, answered, known,
      Option.map_some, Logged.value_pure]
  | arbitrates arbitration =>
    cases arbitration with
    | grants turn unknown course => rw [turn.stepRequest unknown, resolve_value, course]
    | probes turn unknown course => rw [turn.stepRequest unknown, resolve_value, course]
    | @concludes purpose check waited ends =>
      have finished := AliveCheck.finish_value (decide (now < check.deadline))
        (registry.mail.reports check.mailbox) check registry.pool
      simp only [stepRequest, waited, if_pos ends, endProbe, Logged.value_bind, finished,
        judge_value]
      rfl

/-! ## What moves leave behind -/

section Fields

variable (registry : Registry) (now : Milliseconds) (request : Request)
  (code : Wire.ActivationCode) (stage : RequestStage) (id other : RequestId)

/-- Giving the lock on moves the line up and changes nothing else. -/
theorem release_value : registry.release =
    { registry with
      lockHolder := registry.lockLine.head?
      lockLine := registry.lockLine.tail } := by
  obtain ⟨pool, table, limit, nextConnection, stopping, holder, line, requests, mail, decisions⟩ :=
    registry
  cases line <;> rfl

/-- A stage is set for one number only. It is the request that goes by the number; all others are
found as they were. -/
@[simp] theorem request?_setStage : (registry.setStage id stage).request? other =
    (registry.request? other).map fun found =>
      if other = id then { found with stage := stage } else found := by
  simp only [request?, setStage, List.find?_map]
  have sameSearch : ((fun request : Request => request.id == other) ∘ fun request =>
      if request.id = id then { request with stage := stage } else request) =
        fun request => request.id == other := by
    funext request
    by_cases here : request.id = id <;> simp [here]
  rw [sameSearch]
  cases found : registry.requests.find? fun request => request.id == other with
  | none => rfl
  | some request =>
    have number : request.id = other := by simpa using List.find?_some found
    simp [number]

/-- An answer is given to the request it is for; the others stay as they are. -/
@[simp] theorem request?_answer : (registry.answer now request code).request? other =
    (registry.request? other).map fun found =>
      if other = request.id then { found with stage := .answered code } else found :=
  request?_setStage registry (.answered code) request.id other

/-- Releasing the lock moves nobody to another stage. -/
@[simp] theorem request?_release : registry.release.request? other = registry.request? other := by
  rw [release_value]
  rfl

/-- When a request is concluded it is answered, and the others stay as they are. -/
@[simp] theorem request?_concluded : (registry.concluded now request code).request? other =
    (registry.request? other).map fun found =>
      if other = request.id then { found with stage := .answered code } else found := by
  simp only [concluded, request?_release, request?_answer]
  rfl

/-- A probe changes the stage of the request it is for. -/
@[simp] theorem request?_probing (purpose : ProbePurpose) (targets : List ConnectionId) :
    (registry.probing now request purpose targets).request? other =
      (registry.request? other).map fun found =>
        if other = request.id then
          { found with
            stage := .probing purpose ⟨targets,
              (AliveCheck.askTargets request.id targets registry.pool).value.2, request.id,
              now + AliveCheck.window⟩ }
        else found :=
  request?_setStage _ _ request.id other

/-- A decision leaves everything but its request, the lock and the connection alone. -/
theorem concluded_value : registry.concluded now request code =
    { registry with
      pool := if code = .success then committed now request registry.pool else registry.pool
      lockHolder := registry.lockLine.head?
      lockLine := registry.lockLine.tail
      requests := (registry.setStage request.id (.answered code)).requests
      decisions := registry.decisions ++ [⟨request.id, code, now⟩] } := by
  rw [concluded, release_value]
  rfl

end Fields

variable {now : Milliseconds} {request : Request} {registry next : Registry}

/-- What is found under a number is the request with that number. -/
theorem id_of_request? {id : RequestId} (found : registry.request? id = some request) :
    request.id = id := by
  simpa using List.find?_some found

/-- A request is not moved by the steps of others. They may have to wait longer or move up in the
line, but their stages and what they ask for stay the same. -/
theorem Move.request?_other (move : Move now request registry next) {other : RequestId}
    (different : other ≠ request.id) : next.request? other = registry.request? other := by
  have unmoved : ∀ stage : RequestStage,
      ((registry.request? other).map fun found : Request =>
        if other = request.id then { found with stage := stage } else found) =
          registry.request? other := by
    intro stage
    simp [different]
  cases move with
  | rests still => rfl
  | answersAtOnce asked known => exact (request?_answer ..).trans (unmoved _)
  | goesInLine asked unknown taken => exact (request?_setStage ..).trans (unmoved _)
  | answersInTurn inLine holds known =>
    exact (request?_release ..).trans ((request?_answer ..).trans (unmoved _))
  | arbitrates arbitration =>
    cases arbitration with
    | grants turn unknown course => exact (request?_concluded ..).trans (unmoved _)
    | probes turn unknown course => exact (request?_probing ..).trans (unmoved _)
    | concludes waited ends => exact (request?_concluded ..).trans (unmoved _)

/-- A move changes nothing but the stage of its request. The connection, the address and the moment
of the call stay what they were when it was made. -/
theorem Move.request?_self (move : Move now request registry next)
    (found : registry.request? request.id = some request) :
    ∃ stage, next.request? request.id = some { request with stage := stage } := by
  have moved : ∀ stage : RequestStage,
      ((registry.request? request.id).map fun found : Request =>
        if request.id = request.id then { found with stage := stage } else found) =
          some { request with stage := stage } := by
    intro stage
    simp [found]
  cases move with
  | rests still => exact ⟨request.stage, found⟩
  | answersAtOnce asked known => exact ⟨_, (request?_answer ..).trans (moved _)⟩
  | goesInLine asked unknown taken => exact ⟨_, (request?_setStage ..).trans (moved _)⟩
  | answersInTurn inLine holds known =>
    exact ⟨_, (request?_release ..).trans ((request?_answer ..).trans (moved _))⟩
  | arbitrates arbitration =>
    cases arbitration with
    | grants turn unknown course => exact ⟨_, (request?_concluded ..).trans (moved _)⟩
    | probes turn unknown course => exact ⟨_, (request?_probing ..).trans (moved _)⟩
    | concludes waited ends => exact ⟨_, (request?_concluded ..).trans (moved _)⟩

/-- Moves leave the table, the limit and the numbers of connections as they are. What a move
may change is the lock, the stage of its request, and the connections that are asked or
decided about. -/
theorem Move.frame (move : Move now request registry next) :
    next.table = registry.table ∧ next.limit = registry.limit ∧
      next.nextConnection = registry.nextConnection ∧ next.stopping = registry.stopping := by
  cases move with
  | rests still => exact ⟨rfl, rfl, rfl, rfl⟩
  | answersAtOnce asked known => exact ⟨rfl, rfl, rfl, rfl⟩
  | goesInLine asked unknown taken => exact ⟨rfl, rfl, rfl, rfl⟩
  | answersInTurn inLine holds known =>
    rw [release_value]
    exact ⟨rfl, rfl, rfl, rfl⟩
  | arbitrates arbitration =>
    cases arbitration with
    | grants turn unknown course =>
      rw [concluded_value]
      exact ⟨rfl, rfl, rfl, rfl⟩
    | probes turn unknown course => exact ⟨rfl, rfl, rfl, rfl⟩
    | concludes waited ends =>
      rw [concluded_value]
      exact ⟨rfl, rfl, rfl, rfl⟩

/-- A step of a request that was made is a move of it, and no other step of a request does
anything. -/
theorem act_cases (registry : Registry) (occurrence : Occurrence) :
    occurrence.action.IsOutside ∨
      ∃ id, occurrence.action = .task (.request id) ∧
        (registry.request? id = none ∧ registry.act occurrence = registry ∨
          ∃ request, registry.request? id = some request ∧
            Move occurrence.moment request registry (registry.act occurrence)) := by
  obtain ⟨now, action⟩ := occurrence
  cases action with
  | event event => exact Or.inl trivial
  | task task =>
    cases task with
    | timer connection => exact Or.inl trivial
    | request id =>
      refine Or.inr ⟨id, rfl, ?_⟩
      cases found : registry.request? id with
      | none =>
        refine Or.inl ⟨rfl, ?_⟩
        simp [act, step, advance, found]
      | some request =>
        refine Or.inr ⟨request, rfl, ?_⟩
        have moved : registry.act ⟨now, .task (.request id)⟩ =
            (registry.stepRequest now request).value := by
          simp [act, step, advance, found]
        rw [moved]
        exact stepRequest_move now request registry

/-- Every occurrence is quiet, unless a request that holds the lock is taken further by it. Most
invariants are proved by these two cases: the quiet ones have the same short proof, and an
arbitration has three forms. -/
theorem quiet_or_arbitrates (registry : Registry) (occurrence : Occurrence) :
    registry.Quiet occurrence ∨
      ∃ request, occurrence.action = .task (.request request.id) ∧
        registry.request? request.id = some request ∧
        Arbitration occurrence.moment request registry (registry.act occurrence) := by
  rcases act_cases registry occurrence with outside | ⟨id, step, ⟨-, same⟩ | ⟨request, found, move⟩⟩
  · exact Or.inl (quiet_of_outside outside)
  · exact Or.inl (quiet_of_same step (by rw [same]) (by rw [same]) (by rw [same]))
  · obtain rfl := id_of_request? found
    have quiet : (registry.act occurrence).pool = registry.pool →
        (registry.act occurrence).table = registry.table →
        (registry.act occurrence).mail = registry.mail → registry.Quiet occurrence :=
      quiet_of_same step
    generalize registry.act occurrence = next at *
    cases move with
    | rests still => exact Or.inl (quiet rfl rfl rfl)
    | answersAtOnce asked known => exact Or.inl (quiet rfl rfl rfl)
    | goesInLine asked unknown taken => exact Or.inl (quiet rfl rfl rfl)
    | answersInTurn inLine holds known =>
      rw [release_value] at quiet ⊢
      exact Or.inl (quiet rfl rfl rfl)
    | arbitrates arbitration => exact Or.inr ⟨request, step, found, arbitration⟩

end DiagnosticGateway.Registry
