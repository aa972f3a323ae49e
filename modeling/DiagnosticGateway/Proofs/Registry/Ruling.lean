import DiagnosticGateway.Proofs.Registry.Hearing
import DiagnosticGateway.Proofs.Registry.UniqueAddress
import DiagnosticGateway.Proofs.Registry.Waiting

/-!
# The rule of routing activation

A request whose connection is registered, when it is made or when it obtains the lock, is
answered from that registration. Otherwise it is judged by what the registry is like when it
obtains the lock: a free address is granted while there is room; without room every registered
connection is probed, and the request is denied if enough of them confirm their addresses; a
holder of the address is probed alone and keeps it by confirming it. A probe is judged half a
second after it was started or once everything is being closed.

The rule also says what a request does to the connections: nothing, except that it registers
its own connection, asks those it probes and closes those among them that do not confirm.
-/

namespace DiagnosticGateway.Registry

/-- A step of the request takes it up: its first step, or one after it was put in line. -/
structure TakenUp (limit : Nat) (past : History) (look : Occurrence) (request : Request)
    (stage : RequestStage) : Prop where
  step : look.action = .task (.request request.id)
  found : (after limit past).request? request.id = some { request with stage := stage }
  queued : stage = .inLine → Queued limit past request

/-- A connection confirms the address that it holds when a probe is started: it gives it as a
response in the course of the probe, while it is open. -/
def confirms (look : Occurrence) (window : History) (registry : Registry)
    (target : ConnectionId) : Bool :=
  (registry.pool.sourceAddress target).any fun own =>
    responds target own window (registry.act look)

/-- A request obtains the lock, probes some connections and is judged. What the connections
look like is said for the moment in which it asks and for that in which it is judged; in
between it moves nobody. -/
structure Judged (limit : Nat) (past : History) (look : Occurrence) (window : History)
    (ending : Occurrence) (later : History) (request : Request) (stage : RequestStage)
    (targets : List ConnectionId) (code : Wire.ActivationCode) : Prop where
  takenUp : TakenUp limit past look request stage
  turn : (after limit past).Obtains { request with stage := stage }
  unknown : (after limit past).pool.sourceAddress request.connection = none
  /-- The targets are asked. -/
  asks : Changes
    (fun id connection =>
      if id ∈ targets then connection.asked request.id else connection)
    (after limit past) ((after limit past).act look)
  /-- Meanwhile the request waits. -/
  waits : ∀ earlier, earlier <+: window →
    ∃ purpose check, (after limit (past ++ look :: earlier)).Probes request.id purpose check
  judges : ending.action = .task (.request request.id)
  ends : (after limit (past ++ look :: window)).stopping = true ∨
    look.moment + AliveCheck.window ≤ ending.moment
  /-- The targets that do not confirm are closed, and a success registers the connection. -/
  closes : Changes
    (fun id connection => settled ending.moment request code id
      (if id ∈ targets ∧ (after limit past).confirms look window id = false then
        connection.stop.value
      else { connection with subscribers := [] }))
    (after limit (past ++ look :: window)) ((after limit (past ++ look :: window)).act ending)
  /-- Apart from that the request moves no connection. -/
  moves : MovesOnlyAt limit request.id [past, past ++ look :: window]
    (past ++ look :: window ++ ending :: later)

/-- How a request comes to be answered with a code. There is one form for each part of the rule,
with the moment at which it was decided and what was true at that moment. -/
inductive Ruling (limit : Nat) (request : Request) : History → Wire.ActivationCode → Prop
  /-- Its connection is registered already. -/
  | known {past later : History} {look : Occurrence} {stage : RequestStage} {held : UInt16}
      (takenUp : TakenUp limit past look request stage)
      (turn : stage = .asked ∨
        stage = .inLine ∧ (after limit past).lockHolder = some request.id)
      (registered : (after limit past).pool.sourceAddress request.connection = some held)
      (moves : MovesOnlyAt limit request.id [] (past ++ look :: later)) :
      Ruling limit request (past ++ look :: later) (knownAnswer held request.source)
  /-- Nobody else holds the address, and there is room. -/
  | granted {past later : History} {look : Occurrence} {stage : RequestStage}
      (takenUp : TakenUp limit past look request stage)
      (turn : (after limit past).Obtains { request with stage := stage })
      (unknown : (after limit past).pool.sourceAddress request.connection = none)
      (free : ∀ id, (after limit past).Holds id request.source → id = request.connection)
      (room : (after limit past).registered.length < limit)
      (commits : Changes (settled look.moment request .success) (after limit past)
        ((after limit past).act look))
      (moves : MovesOnlyAt limit request.id [past] (past ++ look :: later)) :
      Ruling limit request (past ++ look :: later) .success
  /-- Nobody else holds the address, but there is no room. -/
  | outOfRoom {past window later : History} {look ending : Occurrence} {stage : RequestStage}
      {code : Wire.ActivationCode}
      (free : ∀ id, (after limit past).Holds id request.source → id = request.connection)
      (full : limit ≤ (after limit past).registered.length)
      (judged : Judged limit past look window ending later request stage
        (after limit past).registered code)
      (decides : code =
        if limit ≤ ((after limit past).registered.filter
            ((after limit past).confirms look window)).length then
          .deniedAllSocketsRegistered
        else .success) :
      Ruling limit request (past ++ look :: window ++ ending :: later) code
  /-- Another connection holds the address. -/
  | contested {past window later : History} {look ending : Occurrence} {stage : RequestStage}
      {code : Wire.ActivationCode} {holder : ConnectionId}
      (holds : (after limit past).Holds holder request.source)
      (other : holder ≠ request.connection)
      (judged : Judged limit past look window ending later request stage [holder] code)
      (decides : code =
        if (after limit past).confirms look window holder then
          .deniedSourceAddressActiveElsewhere
        else .success) :
      Ruling limit request (past ++ look :: window ++ ending :: later) code

variable {registry next : Registry} {occurrence look ending : Occurrence} {request : Request}
  {purpose : ProbePurpose} {check : AliveCheck} {limit : Nat} {history past window : History}
  {number : RequestId} {now : Milliseconds} {code : Wire.ActivationCode} {target : ConnectionId}

/-! ## What a probe leads to -/

/-- A check that has begun reads the mailbox of its request. -/
theorem Began.mailbox (began : registry.Began look request purpose check) :
    check.mailbox = request.id := by
  rw [began.started]
  rfl

/-- A check that has begun ends one window after it has asked. -/
theorem Began.deadline (began : registry.Began look request purpose check) :
    check.deadline = look.moment + AliveCheck.window := by
  rw [began.started]
  rfl

/-- A target is silent in the eyes of the probe exactly if it has not confirmed its address. A
report counts if it gives the address that the target has, and the target keeps this while the
probe waits. -/
theorem Session.silent_iff (session : Session limit past look window request purpose check)
    (member : target ∈ check.targets) :
    AliveCheck.counting ((after limit (past ++ look :: window)).mail.reports check.mailbox)
        target = [] ↔
      (after limit past).confirms look window target = false := by
  have sound := sound_after limit past
  obtain ⟨-, own, held⟩ :=
    registered_of_course sound.consistent session.began.course target member
  have counts := (session.hears member held).counts
  have confirmed : (after limit past).confirms look window target =
      responds target own window ((after limit past).act look) := by
    rw [confirms, held]
    rfl
  rw [confirmed, session.began.mailbox, List.eq_nil_iff_forall_not_mem]
  constructor
  · intro silent
    have unheard := silent own
    rw [counts] at unheard
    simpa using unheard
  · intro unheard source counted
    have heard := ((counts source).mp counted).2
    rw [unheard] at heard
    cases heard

/-- A probe of everybody denies the request if the limit is reached by those who confirm. The
targets are distinct, being the table in its order, so each of them is counted once. -/
theorem Session.verdict_capacity
    (session : Session limit past look window request .capacity check) :
    ((after limit (past ++ look :: window)).probed check).verdict
        { request with stage := .probing .capacity check } .capacity
        (AliveCheck.responses check.targets
          ((after limit (past ++ look :: window)).mail.reports check.mailbox)) =
      if limit ≤ (check.targets.filter ((after limit past).confirms look window)).length then
        .deniedAllSocketsRegistered
      else .success := by
  have distinct := nodup_of_course (sound_after limit past).ascending session.began.course
  have same : check.targets.filter (fun target => AliveCheck.counting
      ((after limit (past ++ look :: window)).mail.reports check.mailbox) target ≠ []) =
        check.targets.filter ((after limit past).confirms look window) := by
    apply List.filter_congr
    intro target member
    have silent := session.silent_iff member
    cases confirmed : (after limit past).confirms look window target <;> simp_all
  have limited : ((after limit (past ++ look :: window)).probed check).limit = limit :=
    limit_after limit _
  simp only [verdict, limited, AliveCheck.alive_responses distinct, same]

/-- A holder that was probed and did not confirm its address was the only one who could hold it, so
nobody else holds it once the probe has ended. -/
theorem Session.otherHolder_of_unconfirmed {holder : ConnectionId}
    (session : Session limit past look window request (.holder holder) check)
    (orderly : Orderly limit (past ++ look :: window))
    (unconfirmed : (AliveCheck.responses check.targets
        ((after limit (past ++ look :: window)).mail.reports check.mailbox)).confirms holder
          request.source = false) :
    ((after limit (past ++ look :: window)).probed check).otherHolder request.connection
      request.source = none := by
  obtain ⟨alone, listed, -, held⟩ := holder_of_course session.began.course
  have member : holder ∈ check.targets := by simp [alone]
  have counts := (session.hears member held).counts
  rw [otherHolder_eq_none_iff]
  intro id holds
  obtain ⟨stillHolds, speaks⟩ := holds_of_probed (sound_after limit _).consistent holds
  obtain rfl : id = holder := unambiguous_of_orderly orderly.take id holder request.source
    (session.holds orderly stillHolds) ⟨listed, held⟩
  -- Whatever the holder has reported that counts is the address in question.
  refine absurd ⟨member, List.eq_nil_iff_forall_not_mem.mpr fun source counted => ?_⟩ speaks
  have named : source = request.source := by
    rw [session.began.mailbox, counts] at counted
    exact counted.1
  subst named
  have confirmed := (AliveCheck.confirms_responses ..).mpr ⟨member, counted⟩
  rw [unconfirmed] at confirmed
  cases confirmed

/-- A probe of the holder denies the request if the holder confirms. Otherwise the address is
free afterwards, since nobody else could hold it. -/
theorem Session.verdict_holder {holder : ConnectionId}
    (session : Session limit past look window request (.holder holder) check)
    (orderly : Orderly limit (past ++ look :: window)) :
    ((after limit (past ++ look :: window)).probed check).verdict
        { request with stage := .probing (.holder holder) check } (.holder holder)
        (AliveCheck.responses check.targets
          ((after limit (past ++ look :: window)).mail.reports check.mailbox)) =
      if (after limit past).confirms look window holder then .deniedSourceAddressActiveElsewhere
      else .success := by
  obtain ⟨alone, listed, -, held⟩ := holder_of_course session.began.course
  have member : holder ∈ check.targets := by simp [alone]
  have confirmed : (after limit past).confirms look window holder =
      responds holder request.source window ((after limit past).act look) := by
    rw [confirms, held]
    rfl
  have same : (AliveCheck.responses check.targets
      ((after limit (past ++ look :: window)).mail.reports check.mailbox)).confirms holder
        request.source = (after limit past).confirms look window holder := by
    rw [Bool.eq_iff_iff, AliveCheck.confirms_responses, session.began.mailbox,
      (session.hears member held).counts, confirmed]
    exact ⟨fun named => named.2.2, fun heard => ⟨member, rfl, heard⟩⟩
  cases heard : (after limit past).confirms look window holder with
  | true => simp only [verdict, same, heard, if_true]
  | false =>
    have free := session.otherHolder_of_unconfirmed orderly (same.trans heard)
    simp only [verdict, same, heard, free, Option.isSome_none, Bool.false_eq_true, if_false]

end DiagnosticGateway.Registry
