import DiagnosticGateway.Proofs.Registry.Session

/-!
# Requests before they are decided

A request is moved by its own steps only, and every step that it can take brings it further, so
three steps are enough. Until it obtains the lock its steps leave every connection alone: all
they can do is put it in line, and that happens when its connection is not registered and
another request holds the lock. While its probe waits, its steps do nothing.
-/

namespace DiagnosticGateway

/-- How far a request has come. -/
def RequestStage.rank : RequestStage → Nat
  | .asked => 0
  | .inLine => 1
  | .probing _ _ => 2
  | .answered _ => 3

namespace Registry

/-- The table stays, and every connection changes by itself. -/
def Changes (change : ConnectionId → Connection → Connection) (before next : Registry) : Prop :=
  next.table = before.table ∧ ∀ id, next.pool.get? id = (before.pool.get? id).map (change id)

/-- No connection changes. -/
abbrev Unmoved : Registry → Registry → Prop := Changes fun _ connection => connection

/-- Of the steps of a request only those after the given histories move a connection. -/
def MovesOnlyAt (limit : Nat) (number : RequestId) (decisive : List History) (history : History) :
    Prop :=
  Throughout history fun past step => step.action = .task (.request number) → past ∉ decisive →
    Unmoved (after limit past) ((after limit past).act step)

/-- The first step of a request has found its connection unregistered and the lock taken. -/
def Queued (limit : Nat) (history : History) (request : Request) : Prop :=
  ∃ past call rest, history = past ++ call :: rest ∧
    call.action = .task (.request request.id) ∧
    (after limit past).request? request.id = some { request with stage := .asked } ∧
    (after limit past).pool.sourceAddress request.connection = none ∧
    (after limit past).lockHolder ≠ none


variable {registry next : Registry} {occurrence look : Occurrence} {request later : Request}
  {purpose : ProbePurpose} {check : AliveCheck} {limit : Nat} {history past window : History}
  {number : RequestId} {now : Milliseconds}

/-- A registry with the same connections in the same table has moved nobody. -/
theorem unmoved_of_same (pool : next.pool = registry.pool) (table : next.table = registry.table) :
    Unmoved registry next := by
  refine ⟨table, ?_⟩
  intro id
  rw [pool]
  exact Option.map_id'.symm

/-- Setting the stage that a request is in changes nothing. -/
theorem with_stage_eq {stage : RequestStage} (same : request.stage = stage) :
    { request with stage := stage } = request := by
  rw [← same]

/-- A step that cannot be taken does nothing. All moves but the first say in which stage they are
made, and in that stage the step could be taken. -/
theorem Move.eq_of_unable (move : Move now request registry next)
    (unable : registry.canStep now request = false) : next = registry := by
  have late : ¬ registry.Obtains request := by
    rintro (⟨asked, -⟩ | ⟨inLine, holds⟩)
    · simp [canStep, asked] at unable
    · simp [canStep, inLine, holds] at unable
  cases move with
  | rests still => rfl
  | answersAtOnce asked known => simp [canStep, asked] at unable
  | goesInLine asked unknown taken => simp [canStep, asked] at unable
  | answersInTurn inLine holds known => simp [canStep, inLine, holds] at unable
  | arbitrates arbitration =>
    cases arbitration with
    | grants turn unknown course => exact absurd turn late
    | probes turn unknown course => exact absurd turn late
    | concludes waited ends => simp [canStep, waited, ends] at unable

/-- A step that can be taken brings the request further. The stages are ranked by how far a request
has come, and no move goes back. -/
theorem Move.rank_lt (move : Move now request registry next)
    (able : registry.canStep now request = true)
    (foundNext : next.request? request.id = some later) :
    request.stage.rank < later.stage.rank := by
  have early : registry.Obtains request → request.stage.rank < 2 := by
    rintro (⟨asked, -⟩ | ⟨inLine, -⟩)
    · simp [asked, RequestStage.rank]
    · simp [inLine, RequestStage.rank]
  cases move with
  | rests still =>
    rw [able] at still
    cases still
  | answersAtOnce asked known =>
    rw [stage_of_set (request?_answer ..) foundNext, asked]
    simp [RequestStage.rank]
  | goesInLine asked unknown taken =>
    rw [stage_of_set (request?_setStage ..) foundNext, asked]
    decide
  | answersInTurn inLine holds known =>
    rw [stage_of_set ((request?_release ..).trans (request?_answer ..)) foundNext, inLine]
    simp [RequestStage.rank]
  | arbitrates arbitration =>
    cases arbitration with
    | grants turn unknown course =>
      rw [stage_of_set (request?_concluded ..) foundNext]
      exact Nat.lt_succ_of_lt (early turn)
    | probes turn unknown course =>
      rw [stage_of_set (request?_probing ..) foundNext]
      exact early turn
    | concludes waited ends =>
      rw [stage_of_set (request?_concluded ..) foundNext, waited]
      exact Nat.lt_succ_self 2

/-- A step after which the request still waits for the lock has moved no connection. If it has
put the request in line, the connection is not registered and the lock is taken. -/
theorem Move.waits (move : Move now request registry next)
    (found : registry.request? request.id = some request)
    (foundNext : next.request? request.id = some later) (waiting : later.stage.rank < 2) :
    Unmoved registry next ∧ request.stage.rank < 2 ∧
      (later.stage = .inLine → request.stage = .inLine ∨ request.stage = .asked ∧
        registry.pool.sourceAddress request.connection = none ∧ registry.lockHolder ≠ none) := by
  cases move with
  | rests still =>
    obtain rfl : request = later := Option.some.inj (found.symm.trans foundNext)
    exact ⟨unmoved_of_same rfl rfl, waiting, Or.inl⟩
  | answersAtOnce asked known =>
    rw [stage_of_set (request?_answer ..) foundNext] at waiting
    exact absurd waiting (by simp [RequestStage.rank])
  | goesInLine asked unknown taken =>
    refine ⟨unmoved_of_same rfl rfl, by simp [asked, RequestStage.rank], ?_⟩
    intro _
    exact Or.inr ⟨asked, unknown, by simp [taken]⟩
  | answersInTurn inLine holds known =>
    rw [stage_of_set ((request?_release ..).trans (request?_answer ..)) foundNext] at waiting
    exact absurd waiting (by simp [RequestStage.rank])
  | arbitrates arbitration =>
    cases arbitration with
    | grants turn unknown course =>
      rw [stage_of_set (request?_concluded ..) foundNext] at waiting
      exact absurd waiting (by simp [RequestStage.rank])
    | probes turn unknown course =>
      rw [stage_of_set (request?_probing ..) foundNext] at waiting
      exact absurd waiting (by simp [RequestStage.rank])
    | concludes waited ends =>
      rw [stage_of_set (request?_concluded ..) foundNext] at waiting
      exact absurd waiting (by simp [RequestStage.rank])

/-! ## What has happened before the lock is obtained -/

/-- Until a request obtains the lock, its steps have moved no connection. The induction is on the
history. A step that did move some connection would have been taken with the lock. -/
theorem movesOnlyAt_of_waiting
    (waiting : ∀ request, (after limit history).request? number = some request →
      request.stage.rank < 2) : MovesOnlyAt limit number [] history := by
  induction history using List.reverseRecOn with
  | nil => exact throughout_nil
  | append_singleton history occurrence inductionHypothesis =>
    rw [after_concat] at waiting
    refine throughout_concat.mpr ⟨inductionHypothesis ?_, ?_⟩
    · intro request found
      by_cases own : occurrence.action = .task (.request number)
      · obtain rfl := id_of_request? found
        have move := move_of_step found own
        obtain ⟨stage, foundNext⟩ := move.request?_self found
        exact (move.waits found foundNext (waiting _ foundNext)).2.1
      · exact waiting request (request?_unless_step found own)
    · intro own _
      cases found : (after limit history).request? number with
      | none =>
        rw [act_of_missing found own]
        exact unmoved_of_same rfl rfl
      | some request =>
        obtain rfl := id_of_request? found
        have move := move_of_step found own
        obtain ⟨stage, foundNext⟩ := move.request?_self found
        exact (move.waits found foundNext (waiting _ foundNext)).1

/-- What was put in line in the past stays so. -/
theorem Queued.concat (queued : Queued limit history request) :
    Queued limit (history ++ [occurrence]) request := by
  obtain ⟨past, call, rest, rfl, called⟩ := queued
  exact ⟨past, call, rest ++ [occurrence], by simp, called⟩

/-- A request in line has been put there by its first step. The induction is on the history, and the
first step is the one by which it has come into the line. -/
theorem queued_of_inLine (found : (after limit history).request? number = some request)
    (inLine : request.stage = .inLine) : Queued limit history request := by
  induction history using List.reverseRecOn generalizing request with
  | nil => cases found
  | append_singleton history occurrence inductionHypothesis =>
    rw [after_concat] at found
    by_cases own : occurrence.action = .task (.request number)
    · cases earlier : (after limit history).request? number with
      | none =>
        rw [act_of_missing earlier own, earlier] at found
        cases found
      | some before =>
        obtain rfl := id_of_request? earlier
        have move := move_of_step earlier own
        obtain ⟨stage, foundNext⟩ := move.request?_self earlier
        obtain rfl := Option.some.inj (foundNext.symm.trans found)
        obtain rfl : stage = .inLine := inLine
        have waited := move.waits earlier foundNext (by simp [RequestStage.rank])
        rcases waited.2.2 rfl with already | ⟨asked, unknown, taken⟩
        · rw [with_stage_eq already]
          exact (inductionHypothesis earlier already).concat
        · refine ⟨history, occurrence, [], rfl, own, ?_, unknown, taken⟩
          exact earlier.trans (congrArg some (with_stage_eq asked).symm)
    · rcases request?_before found own with earlier | asked
      · exact (inductionHypothesis earlier inLine).concat
      · rw [asked] at inLine
        cases inLine

/-! ## What happens while a probe waits -/

/-- Of the steps of a request whose probe waits, only the one that has started the probe has
moved a connection. -/
theorem Session.movesOnlyAt (session : Session limit past look window request purpose check) :
    MovesOnlyAt limit request.id [past] (past ++ look :: window) := by
  induction window using List.reverseRecOn with
  | nil =>
    refine throughout_concat.mpr ⟨?_, ?_⟩
    · have waiting : MovesOnlyAt limit request.id [] past := by
        apply movesOnlyAt_of_waiting
        intro same found
        obtain rfl := Option.some.inj (session.began.found.symm.trans found)
        rcases session.began.turn with ⟨asked, -⟩ | ⟨inLine, -⟩
        · simp [asked, RequestStage.rank]
        · simp [inLine, RequestStage.rank]
      intro first step rest split own _
      exact waiting first step rest split own List.not_mem_nil
    · intro _ undecided
      exact absurd List.mem_cons_self undecided
  | append_singleton window occurrence inductionHypothesis =>
    rw [← List.cons_append, ← List.append_assoc]
    refine throughout_concat.mpr ⟨inductionHypothesis session.front, ?_⟩
    intro own _
    have found := session.front.request?
    have foundNext := session.request?
    rw [← List.cons_append, ← List.append_assoc, after_concat] at foundNext
    have move := move_of_step found own
    -- the stage is the same afterwards, so the step was not one that can be taken
    cases able : (after limit (past ++ look :: window)).canStep occurrence.moment
        { request with stage := .probing purpose check } with
    | true => exact absurd (move.rank_lt able foundNext) (Nat.lt_irrefl _)
    | false =>
      rw [move.eq_of_unable able]
      exact unmoved_of_same rfl rfl

end Registry

end DiagnosticGateway
