import DiagnosticGateway.Proofs.Registry.Ruling

/-!
# Every request is answered by the rule

The steps of a request are followed one by one. The step with which it is answered is one of
four moves, and each leads to its part of the rule; what comes later changes nothing about it.
-/

namespace DiagnosticGateway.Registry

variable {registry next : Registry} {occurrence look ending : Occurrence} {request : Request}
  {purpose : ProbePurpose} {check : AliveCheck} {limit : Nat} {history past window : History}
  {number : RequestId} {now : Milliseconds} {code : Wire.ActivationCode} {stage : RequestStage}

/-! ## What the deciding steps do to the connections -/

/-- Starting a probe asks the targets and nobody else. The targets are named once each, so each of
them is asked once. -/
theorem Began.changes (began : registry.Began look request purpose check)
    (ascending : registry.table.Pairwise (· < ·)) :
    Changes
      (fun id connection =>
        if id ∈ check.targets then connection.asked request.id else connection)
      registry (registry.act look) := by
  have distinct := nodup_of_course ascending began.course
  rw [began.act]
  refine ⟨rfl, ?_⟩
  intro id
  rw [get?_probing]
  congr 1
  funext connection
  dsimp only
  by_cases member : id ∈ check.targets
  · rw [if_pos member, Connection.askedAmong_of_mem distinct member]
  · rw [if_neg member, Connection.askedAmong_of_not_mem member]

/-- A decision registers the connection of the request or nobody. -/
theorem changes_concluded (now : Milliseconds) (request : Request) (code : Wire.ActivationCode)
    (registry : Registry) :
    Changes (settled now request code) registry (registry.concluded now request code) := by
  refine ⟨?_, fun id => get?_concluded now request code registry id⟩
  rw [concluded_value]

/-- Judging a probe closes the targets that have not confirmed, and settles the request. What each
connection looks like afterwards is given in one formula: closed if it was a silent target, free of
the subscription otherwise, and registered if it is the one that is granted. -/
theorem Session.changes (session : Session limit past look window request purpose check) :
    Changes
      (fun id connection => settled now request code id
        (if id ∈ check.targets ∧ (after limit past).confirms look window id = false then
          connection.stop.value
        else { connection with subscribers := [] }))
      (after limit (past ++ look :: window))
      (((after limit (past ++ look :: window)).probed check).concluded now
        { request with stage := .probing purpose check } code) := by
  have sound := sound_after limit (past ++ look :: window)
  have probes := session.waits window List.prefix_rfl
  refine ⟨(changes_concluded ..).1, ?_⟩
  intro id
  rw [get?_concluded, get?_probed]
  cases found : (after limit (past ++ look :: window)).pool.get? id with
  | none => rfl
  | some connection =>
    have unheard := sound.unheard_probed probes (by rw [get?_probed, found, Option.map_some])
    have silent : id ∈ check.targets ∧ AliveCheck.counting
          ((after limit (past ++ look :: window)).mail.reports check.mailbox) id = [] ↔
        id ∈ check.targets ∧ (after limit past).confirms look window id = false :=
      and_congr_right fun member => session.silent_iff member
    simp only [Option.map_some,
      AliveCheck.left_of_unheard (sound.consistent id connection found) unheard, silent]
    rfl

/-! ## One more step -/

/-- What decided a request goes on deciding it, whatever comes later. Each form of a ruling
speaks of the moment of the decision and of the steps since then, and one more occurrence
moves nothing of it. -/
theorem Ruling.concat (ruling : Ruling limit request history code)
    (still : occurrence.action = .task (.request request.id) →
      Unmoved (after limit history) ((after limit history).act occurrence)) :
    Ruling limit request (history ++ [occurrence]) code := by
  cases ruling with
  | @known past later look stage held takenUp turn registered moves =>
    rw [List.append_assoc, List.cons_append]
    refine .known takenUp turn registered ?_
    rw [← List.cons_append, ← List.append_assoc]
    exact throughout_concat.mpr ⟨moves, fun own _ => still own⟩
  | @granted past later look stage takenUp turn unknown free room commits moves =>
    rw [List.append_assoc, List.cons_append]
    refine .granted takenUp turn unknown free room commits ?_
    rw [← List.cons_append, ← List.append_assoc]
    exact throughout_concat.mpr ⟨moves, fun own _ => still own⟩
  | @outOfRoom past window later look ending stage _ free full judged decides =>
    rw [List.append_assoc, List.cons_append]
    refine .outOfRoom free full { judged with moves := ?_ } decides
    rw [← List.cons_append, ← List.append_assoc]
    exact throughout_concat.mpr ⟨judged.moves, fun own _ => still own⟩
  | @contested past window later look ending stage _ holder holds other judged decides =>
    rw [List.append_assoc, List.cons_append]
    refine .contested holds other { judged with moves := ?_ } decides
    rw [← List.cons_append, ← List.append_assoc]
    exact throughout_concat.mpr ⟨judged.moves, fun own _ => still own⟩

/-- A request that was found is taken up by its step. -/
theorem takenUp_of_found (found : (after limit history).request? request.id = some request)
    (own : occurrence.action = .task (.request request.id)) :
    TakenUp limit history occurrence { request with stage := .asked } request.stage :=
  ⟨own, found, queued_of_inLine found⟩

/-- Until a request obtains the lock, its steps have moved no connection. -/
theorem movesOnlyAt_of_early (found : (after limit history).request? number = some request)
    (early : request.stage = .asked ∨ request.stage = .inLine) :
    MovesOnlyAt limit number [] history := by
  apply movesOnlyAt_of_waiting
  intro same alsoFound
  obtain rfl := Option.some.inj (found.symm.trans alsoFound)
  rcases early with asked | inLine
  · simp [asked, RequestStage.rank]
  · simp [inLine, RequestStage.rank]

/-- A probe that is judged leads to its part of the rule. Whether anybody is silent, and how many
are alive, is read off the window by the lemmas about sessions. -/
theorem Session.ruling (session : Session limit past look window request purpose check)
    (orderly : Orderly limit (past ++ look :: window))
    (own : ending.action = .task (.request request.id))
    (ends : (after limit (past ++ look :: window)).probeEnds ending.moment check = true)
    (reached : (after limit (past ++ look :: window)).act ending =
      ((after limit (past ++ look :: window)).probed check).concluded ending.moment
        { request with stage := .probing purpose check } code)
    (decided : code = ((after limit (past ++ look :: window)).probed check).verdict
      { request with stage := .probing purpose check } purpose
      (AliveCheck.responses check.targets
        ((after limit (past ++ look :: window)).mail.reports check.mailbox))) :
    Ruling limit { request with stage := .asked } (past ++ look :: window ++ [ending]) code := by
  have judged : Judged limit past look window ending [] { request with stage := .asked }
      request.stage check.targets code := by
    refine ⟨takenUp_of_found session.began.found session.began.step, session.began.turn,
      session.began.unknown, session.began.changes (sound_after limit past).ascending,
      fun earlier front => ⟨purpose, check, session.waits earlier front⟩, own, ?_, ?_, ?_⟩
    · simpa [probeEnds, session.began.deadline] using ends
    · rw [reached]
      exact session.changes
    · refine throughout_concat.mpr ⟨?_, ?_⟩
      · intro first step rest split steps undecided
        refine session.movesOnlyAt first step rest split steps ?_
        intro decisive
        exact undecided (List.mem_cons.mpr (Or.inl (List.mem_singleton.mp decisive)))
      · intro _ undecided
        exact absurd (List.mem_cons_of_mem _ List.mem_cons_self) undecided
  cases purpose with
  | capacity =>
    obtain ⟨everybody, free, full⟩ := capacity_of_course session.began.course
    rw [session.verdict_capacity, everybody] at decided
    rw [everybody] at judged
    rw [limit_after] at full
    exact .outOfRoom (otherHolder_eq_none_iff.mp free) full judged decided
  | holder holder =>
    obtain ⟨alone, listed, other, held⟩ := holder_of_course session.began.course
    rw [session.verdict_holder orderly] at decided
    rw [alone] at judged
    exact .contested ⟨listed, held⟩ other judged decided

/-- A step that answers a request answers it by the rule. There is one case for each move that
answers; the others leave the request undecided. -/
theorem Move.ruling (orderly : Orderly limit history)
    (found : (after limit history).request? request.id = some request)
    (own : occurrence.action = .task (.request request.id))
    (able : (after limit history).canStep occurrence.moment request = true)
    (move : Move occurrence.moment request (after limit history)
      ((after limit history).act occurrence))
    (answered : ((after limit history).act occurrence).request? request.id =
      some { request with stage := .answered code }) :
    Ruling limit { request with stage := .asked } (history ++ [occurrence]) code := by
  have takenUp := takenUp_of_found found own
  generalize reached : (after limit history).act occurrence = next at move answered
  cases move with
  | rests still =>
    rw [able] at still
    cases still
  | answersAtOnce asked known =>
    obtain rfl := RequestStage.answered.inj (stage_of_set (request?_answer ..) answered)
    refine .known takenUp (Or.inl asked) known (throughout_concat.mpr ⟨?_, ?_⟩)
    · exact movesOnlyAt_of_early found (Or.inl asked)
    · intro _ _
      rw [reached]
      exact unmoved_of_same rfl rfl
  | goesInLine asked unknown taken =>
    cases stage_of_set (request?_setStage ..) answered
  | answersInTurn inLine holds known =>
    obtain rfl := RequestStage.answered.inj
      (stage_of_set ((request?_release ..).trans (request?_answer ..)) answered)
    refine .known takenUp (Or.inr ⟨inLine, holds⟩) known (throughout_concat.mpr ⟨?_, ?_⟩)
    · exact movesOnlyAt_of_early found (Or.inr inLine)
    · intro _ _
      rw [reached, release_value]
      exact unmoved_of_same rfl rfl
  | arbitrates arbitration =>
    cases arbitration with
    | grants turn unknown course =>
      obtain rfl := RequestStage.answered.inj (stage_of_set (request?_concluded ..) answered)
      obtain ⟨free, room⟩ := alone_of_grant course
      rw [limit_after] at room
      refine .granted takenUp turn unknown free room ?_ (throughout_concat.mpr ⟨?_, ?_⟩)
      · rw [reached]
        exact changes_concluded ..
      · intro first step rest split steps _
        exact movesOnlyAt_of_early found (turn.imp And.left And.left) first step rest split steps
          List.not_mem_nil
      · intro _ undecided
        exact absurd List.mem_cons_self undecided
    | probes turn unknown course => cases stage_of_set (request?_probing ..) answered
    | concludes waited ends =>
      have decided := RequestStage.answered.inj (stage_of_set (request?_concluded ..) answered)
      obtain ⟨past, look, window, begun, rfl, rfl, session⟩ := session_of_waiting found waited
      rw [← decided] at reached
      exact session.ruling orderly own ends reached decided

/-- In an orderly history every answered request was answered by the rule. The induction is on the
history: the last occurrence is the step that answers the request, or the request was answered
before it. -/
theorem ruling_of_answered (orderly : Orderly limit history)
    (found : (after limit history).request? number = some request)
    (answered : request.stage = .answered code) :
    Ruling limit { request with stage := .asked } history code := by
  induction history using List.reverseRecOn generalizing request with
  | nil => cases found
  | append_singleton history occurrence inductionHypothesis =>
    have before := (throughout_concat.mp orderly).1
    rw [after_concat] at found
    by_cases own : occurrence.action = .task (.request number)
    · cases earlier : (after limit history).request? number with
      | none =>
        rw [act_of_missing earlier own, earlier] at found
        cases found
      | some asker =>
        obtain rfl := id_of_request? earlier
        have move := move_of_step earlier own
        cases able : (after limit history).canStep occurrence.moment asker with
        | true =>
          obtain ⟨stage, foundNext⟩ := move.request?_self earlier
          obtain rfl := Option.some.inj (foundNext.symm.trans found)
          obtain rfl : stage = .answered code := answered
          have ruled : Ruling limit { asker with stage := .asked } (history ++ [occurrence]) code :=
            move.ruling before earlier own able found
          exact ruled
        | false =>
          have same := move.eq_of_unable able
          rw [same, earlier] at found
          obtain rfl := Option.some.inj found
          refine (inductionHypothesis before earlier answered).concat ?_
          intro _
          rw [same]
          exact unmoved_of_same rfl rfl
    · rcases request?_before found own with earlier | asked
      · refine (inductionHypothesis before earlier answered).concat ?_
        intro itsOwn
        obtain rfl := id_of_request? earlier
        exact absurd itsOwn own
      · rw [answered] at asked
        cases asked

/-- In an orderly history every request follows the rule. Once it is answered, the code and what
was done to the connections are those of the rule. While its probe waits, it can go on exactly
when half a second has passed since the probe was started, or when everything is being closed.
And whenever it can go on, its next step brings it further, so it is answered after three steps
at most. -/
theorem activation_follows_rule (orderly : Orderly limit history)
    (found : (after limit history).request? number = some request) :
    (∀ code, request.stage = .answered code →
      Ruling limit { request with stage := .asked } history code) ∧
    (∀ purpose check, request.stage = .probing purpose check →
      ∃ past look window, history = past ++ look :: window ∧
        look.action = .task (.request number) ∧
        ∀ now, (after limit history).canStep now request = true ↔
          (after limit history).stopping = true ∨ look.moment + AliveCheck.window ≤ now) ∧
    ∀ now, (after limit history).canStep now request = true →
      ∃ later, ((after limit history).act ⟨now, .task (.request number)⟩).request? number =
          some later ∧ request.stage.rank < later.stage.rank := by
  obtain rfl := id_of_request? found
  refine ⟨fun code answered => ruling_of_answered orderly found answered, ?_, ?_⟩
  · intro purpose check waited
    obtain ⟨past, look, window, begun, rfl, rfl, session⟩ := session_of_waiting found waited
    refine ⟨past, look, window, rfl, session.began.step, ?_⟩
    intro now
    simp [canStep, probeEnds, session.began.deadline]
  · intro now able
    have own : (⟨now, .task (.request request.id)⟩ : Occurrence).action =
        .task (.request request.id) := rfl
    have move := move_of_step found own
    obtain ⟨stage, foundNext⟩ := move.request?_self found
    exact ⟨_, foundNext, move.rank_lt able foundNext⟩

/-- The second request of the handover was answered by the rule for an address that another
connection holds. -/
theorem activation_follows_rule_handover :
    Orderly 2 handover ∧
      (after 2 handover).request? 1 = some ⟨1, 2, 0x0E00, .answered .success⟩ ∧
      Ruling 2 ⟨1, 2, 0x0E00, .asked⟩ handover .success := by
  have orderly : Orderly 2 handover := by decide +kernel
  have found : (after 2 handover).request? 1 = some ⟨1, 2, 0x0E00, .answered .success⟩ := by
    decide +kernel
  exact ⟨orderly, found, (activation_follows_rule orderly found).1 .success rfl⟩

end DiagnosticGateway.Registry
