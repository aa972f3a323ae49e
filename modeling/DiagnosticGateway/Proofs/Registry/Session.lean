import DiagnosticGateway.Proofs.Registry.Soundness

/-!
# The course of a probe

A request that waits for a probe started it at one step of the history, when it obtained the
lock, and has waited ever since. In between its mailbox fills by one rule: a target counts as
alive exactly when a response that named its address arrived while it was open. The address is
that with which the target was registered at the start, since an open connection keeps its
address.
-/

namespace DiagnosticGateway.Registry

/-- The step with which a request obtains the lock and starts a probe. -/
structure Began (registry : Registry) (look : Occurrence) (request : Request)
    (purpose : ProbePurpose) (check : AliveCheck) : Prop where
  step : look.action = .task (.request request.id)
  found : registry.request? request.id = some request
  turn : registry.Obtains request
  unknown : registry.pool.sourceAddress request.connection = none
  course : registry.course request.connection request.source = .probe purpose check.targets
  started : check = registry.startedCheck look.moment request check.targets

/-- Whether a response that names an address arrives on an open connection in the course of
some occurrences. -/
def responds (connection : ConnectionId) (source : UInt16) : History → Registry → Bool
  | [], _ => false
  | occurrence :: rest, registry =>
    (occurrence.action = .event (.aliveResponse connection source) &&
        registry.pool.isOpen connection) ||
      responds connection source rest (registry.act occurrence)

variable {registry : Registry} {occurrence look : Occurrence} {request : Request}
  {purpose : ProbePurpose} {check : AliveCheck} {limit : Nat} {history past window : History}
  {number : RequestId} {id : ConnectionId} {source : UInt16}

/-! ## Whose steps move a request -/

/-- A request that was made moves by its own steps. The other cases of an occurrence belong to other
requests, or to none. -/
theorem move_of_step (found : registry.request? number = some request)
    (step : occurrence.action = .task (.request number)) :
    Move occurrence.moment request registry (registry.act occurrence) := by
  rcases act_cases registry occurrence with
    outside | ⟨id, sameStep, ⟨missing, -⟩ | ⟨mover, moverFound, move⟩⟩
  · rw [step] at outside
    exact outside.elim
  · obtain rfl : number = id := by simpa using step.symm.trans sameStep
    rw [found] at missing
    cases missing
  · obtain rfl : number = id := by simpa using step.symm.trans sameStep
    obtain rfl : request = mover := Option.some.inj (found.symm.trans moverFound)
    exact move

/-- The step of a request that was never made does nothing. Requests are found by their numbers, and
this number is not given yet. -/
theorem act_of_missing (missing : registry.request? number = none)
    (step : occurrence.action = .task (.request number)) : registry.act occurrence = registry := by
  rcases act_cases registry occurrence with
    outside | ⟨id, sameStep, ⟨-, same⟩ | ⟨mover, moverFound, -⟩⟩
  · rw [step] at outside
    exact outside.elim
  · exact same
  · obtain rfl : number = id := by simpa using step.symm.trans sameStep
    rw [missing] at moverFound
    cases moverFound

/-- A request is left as it is by everything but its own steps. From outside only new requests come,
and a move is made by one request and changes its own stage. -/
theorem request?_unless_step (found : registry.request? number = some request)
    (other : occurrence.action ≠ .task (.request number)) :
    (registry.act occurrence).request? number = some request := by
  rcases act_cases registry occurrence with
    outside | ⟨id, step, ⟨-, same⟩ | ⟨mover, moverFound, move⟩⟩
  · rw [request?_outside outside, found]
    rfl
  · rw [same]
    exact found
  · obtain rfl := id_of_request? moverFound
    have different : number ≠ mover.id := by
      rintro rfl
      exact other step
    rw [move.request?_other different]
    exact found

/-- A request that is found after something else than its own step was there before, or it has
just been made. -/
theorem request?_before (found : (registry.act occurrence).request? number = some request)
    (other : occurrence.action ≠ .task (.request number)) :
    registry.request? number = some request ∨ request.stage = .asked := by
  rcases act_cases registry occurrence with
    outside | ⟨id, step, ⟨-, same⟩ | ⟨mover, moverFound, move⟩⟩
  · rw [request?_outside outside] at found
    rcases Option.or_eq_some_iff.mp found with earlier | ⟨-, new⟩
    · exact Or.inl earlier
    · exact Or.inr (asked_of_made (List.mem_of_find?_eq_some new)).2
  · rw [same] at found
    exact Or.inl found
  · obtain rfl := id_of_request? moverFound
    have different : number ≠ mover.id := by
      rintro rfl
      exact other step
    rw [move.request?_other different] at found
    exact Or.inl found

/-! ## Responses in a course of occurrences -/

/-- The last occurrence adds its response to those before. -/
theorem responds_concat (course : History) :
    registry.responds id source (course ++ [occurrence]) =
      (registry.responds id source course ||
        (occurrence.action = .event (.aliveResponse id source) &&
          (registry.replay course).pool.isOpen id)) := by
  induction course generalizing registry with
  | nil => simp [responds]
  | cons first rest inductionHypothesis =>
    simp only [List.cons_append, responds, inductionHypothesis, replay_cons, Bool.or_assoc]

/-- A response in a course arrives at one of its occurrences. The connection has to be open at that
moment: whoever is closed has no listeners. -/
theorem responds_iff (course : History) :
    registry.responds id source course = true ↔
      ∃ earlier occurrence later, course = earlier ++ occurrence :: later ∧
        occurrence.action = .event (.aliveResponse id source) ∧
        (registry.replay earlier).pool.isOpen id = true := by
  induction course generalizing registry with
  | nil => simp [responds]
  | cons first rest inductionHypothesis =>
    simp only [responds, Bool.or_eq_true, Bool.and_eq_true, decide_eq_true_eq,
      inductionHypothesis]
    constructor
    · rintro (⟨answers, opened⟩ | ⟨earlier, occurrence, later, rfl, answers, opened⟩)
      · exact ⟨[], first, rest, rfl, answers, opened⟩
      · exact ⟨first :: earlier, occurrence, later, rfl, answers, opened⟩
    · rintro ⟨earlier, occurrence, later, split, answers, opened⟩
      cases earlier with
      | nil =>
        obtain ⟨rfl, rfl⟩ := List.cons.inj split
        exact Or.inl ⟨answers, opened⟩
      | cons head tail =>
        obtain ⟨rfl, rest⟩ := List.cons.inj split
        exact Or.inr ⟨tail, occurrence, later, rest, answers, opened⟩

/-! ## From the first step of a probe to now -/

/-- The step that starts a probe leads to a registry in which it has just been started. It is the
turn of its request, whether the lock was free or it has come up in the line, and the course of the
registry is that probe. -/
theorem Began.act (began : registry.Began look request purpose check) :
    registry.act look = registry.probing look.moment request purpose check.targets := by
  have canStep : registry.canStep look.moment request = true := by
    rcases began.turn with ⟨asked, -⟩ | ⟨inLine, holds⟩
    · simp [Registry.canStep, asked]
    · simp [Registry.canStep, inLine, holds]
  have waiting : ∀ purpose check, request.stage ≠ .probing purpose check := by
    rcases began.turn with ⟨asked, -⟩ | ⟨inLine, -⟩
    · simp [asked]
    · simp [inLine]
  have move := move_of_step began.found began.step
  generalize registry.act look = next at move
  cases move with
  | rests still =>
    rw [canStep] at still
    cases still
  | answersAtOnce asked known =>
    rw [began.unknown] at known
    cases known
  | goesInLine asked unknown taken =>
    rcases began.turn with ⟨-, free⟩ | ⟨inLine, -⟩
    · rw [free] at taken
      cases taken
    · rw [asked] at inLine
      cases inLine
  | answersInTurn inLine holds known =>
    rw [began.unknown] at known
    cases known
  | arbitrates arbitration =>
    cases arbitration with
    | grants turn unknown course =>
      rw [began.course] at course
      cases course
    | probes turn unknown course =>
      obtain ⟨rfl, rfl⟩ := Course.probe.inj (began.course.symm.trans course)
      rfl
    | concludes waited ends => exact absurd waited (waiting _ _)

/-- Whoever probes after an occurrence has probed before, or has just begun. If the step is its own,
its stage before tells that it has begun by it; if not, its stage was the same. -/
theorem probes_act (probes : (registry.act occurrence).Probes number purpose check) :
    registry.Probes number purpose check ∨
      ∃ request, request.id = number ∧ registry.Began occurrence request purpose check := by
  obtain ⟨later, foundNext, waits⟩ := probes
  by_cases own : occurrence.action = .task (.request number)
  · cases found : registry.request? number with
    | none =>
      rw [act_of_missing found own, found] at foundNext
      cases foundNext
    | some request =>
      obtain rfl := id_of_request? found
      have move := move_of_step found own
      generalize registry.act occurrence = next at *
      cases move with
      | rests still => exact Or.inl ⟨later, foundNext, waits⟩
      | answersAtOnce asked known =>
        cases waits.symm.trans (stage_of_set (request?_answer ..) foundNext)
      | goesInLine asked unknown taken =>
        cases waits.symm.trans (stage_of_set (request?_setStage ..) foundNext)
      | answersInTurn inLine holds known =>
        cases waits.symm.trans
          (stage_of_set ((request?_release ..).trans (request?_answer ..)) foundNext)
      | arbitrates arbitration =>
        cases arbitration with
        | grants turn unknown course =>
          cases waits.symm.trans (stage_of_set (request?_concluded ..) foundNext)
        | concludes waited ends =>
          cases waits.symm.trans (stage_of_set (request?_concluded ..) foundNext)
        | probes turn unknown course =>
          obtain ⟨rfl, rfl⟩ := RequestStage.probing.inj
            (waits.symm.trans (stage_of_set (request?_probing ..) foundNext))
          exact Or.inr ⟨request, rfl, own, found, turn, unknown, course, rfl⟩
  · rcases request?_before foundNext own with earlier | asked
    · exact Or.inl ⟨later, earlier, waits⟩
    · rw [asked] at waits
      cases waits

/-- A probe that waits: the step that has started it, and what has happened since. -/
structure Session (limit : Nat) (past : History) (look : Occurrence) (window : History)
    (request : Request) (purpose : ProbePurpose) (check : AliveCheck) : Prop where
  began : (after limit past).Began look request purpose check
  waits : ∀ earlier, earlier <+: window →
    (after limit (past ++ look :: earlier)).Probes request.id purpose check

/-- Whoever waits for a probe has begun it at one step of the history and has waited ever
since. -/
theorem session_of_probes (probes : (after limit history).Probes number purpose check) :
    ∃ past look window request, history = past ++ look :: window ∧ request.id = number ∧
      Session limit past look window request purpose check := by
  induction history using List.reverseRecOn with
  | nil =>
    obtain ⟨request, found, -⟩ := probes
    cases found
  | append_singleton history occurrence inductionHypothesis =>
    have now := probes
    rw [after_concat] at probes
    rcases probes_act probes with before | ⟨request, rfl, began⟩
    · obtain ⟨past, look, window, request, rfl, rfl, session⟩ := inductionHypothesis before
      refine ⟨past, look, window ++ [occurrence], request, by simp, rfl, session.began, ?_⟩
      intro earlier front
      rcases List.prefix_concat_iff.mp front with rfl | front
      · simpa using now
      · exact session.waits earlier front
    · refine ⟨history, occurrence, [], request, by simp, rfl, began, ?_⟩
      intro earlier front
      obtain rfl := List.prefix_nil.mp front
      exact now

/-- A probe that waits now has waited all the time. -/
theorem Session.upTo (session : Session limit past look window request purpose check)
    {earlier : History} (front : earlier <+: window) :
    Session limit past look earlier request purpose check :=
  ⟨session.began, fun start within => session.waits start (within.trans front)⟩

/-- A session that still lasts at the end has lasted all the time. -/
theorem Session.front
    (session : Session limit past look (window ++ [occurrence]) request purpose check) :
    Session limit past look window request purpose check :=
  session.upTo (List.prefix_append ..)

/-- While a probe waits, nothing else is arbitrated. Only the holder of the lock arbitrates, and
that is the one who waits; an arbitration would end the wait. -/
theorem quiet_of_probes (sound : registry.Sound) (before : registry.Probes number purpose check)
    (after : (registry.act occurrence).Probes number purpose check) :
    registry.Quiet occurrence := by
  rcases quiet_or_arbitrates registry occurrence with quiet | ⟨request, step, found, arbitration⟩
  · exact quiet
  · generalize registry.act occurrence = next at *
    cases arbitration with
    | grants turn unknown course => exact absurd before (sound.idle_of_obtains found turn _ _ _)
    | probes turn unknown course => exact absurd before (sound.idle_of_obtains found turn _ _ _)
    | concludes waited ends =>
      have own : registry.Probes request.id _ _ := ⟨request, found, waited⟩
      obtain ⟨rfl, -, -⟩ := sound.probes_unique before own
      obtain ⟨answered, foundNext, waits⟩ := after
      exact absurd waits
        (unprobing_of_stage (request?_concluded ..) (by simp) answered purpose check foundNext)

/-- Whatever occurs while a session lasts is quiet. -/
theorem Session.quiet
    (session : Session limit past look (window ++ [occurrence]) request purpose check) :
    (after limit (past ++ look :: window)).Quiet occurrence := by
  have before := session.waits window (List.prefix_append ..)
  have now := session.waits (window ++ [occurrence]) List.prefix_rfl
  rw [← List.cons_append, ← List.append_assoc, after_concat] at now
  exact quiet_of_probes (sound_after limit _) before now

/-- What a probe starts with and every quiet occurrence keeps holds as long as it waits. -/
theorem Session.induct {motive : History → Prop}
    (session : Session limit past look window request purpose check) (start : motive [])
    (step : ∀ earlier occurrence, (after limit (past ++ look :: earlier)).Quiet occurrence →
      motive earlier → motive (earlier ++ [occurrence])) : motive window := by
  induction window using List.reverseRecOn with
  | nil => exact start
  | append_singleton window occurrence inductionHypothesis =>
    exact step window occurrence session.quiet (inductionHypothesis session.front)

/-! ## The request -/

/-- A request that was made is found ever after, and only its stage changes. -/
theorem request?_act (found : registry.request? number = some request) :
    ∃ stage, (registry.act occurrence).request? number = some { request with stage := stage } := by
  by_cases own : occurrence.action = .task (.request number)
  · obtain rfl := id_of_request? found
    exact (move_of_step found own).request?_self found
  · exact ⟨request.stage, request?_unless_step found own⟩

/-- The request that waits for a probe is the one that has begun it. Between its step and now it was
moved by nothing, as no occurrence of the window is a step that could move it. -/
theorem Session.request? (session : Session limit past look window request purpose check) :
    (after limit (past ++ look :: window)).request? request.id =
      some { request with stage := .probing purpose check } := by
  have kept : ∃ stage, (after limit (past ++ look :: window)).request? request.id =
      some { request with stage := stage } := by
    induction window using List.reverseRecOn with
    | nil =>
      rw [after_concat]
      exact request?_act session.began.found
    | append_singleton window occurrence inductionHypothesis =>
      obtain ⟨stage, found⟩ := inductionHypothesis session.front
      rw [← List.cons_append, ← List.append_assoc, after_concat]
      exact (request?_act found).imp fun _ foundNext => foundNext
  obtain ⟨stage, found⟩ := kept
  obtain ⟨waiting, alsoFound, waits⟩ := session.waits window List.prefix_rfl
  obtain rfl := Option.some.inj (found.symm.trans alsoFound)
  rw [found]
  exact congrArg some (congrArg (fun stage => { request with stage := stage }) waits)

/-- A request that waits for a probe has begun it at one step of the history. -/
theorem session_of_waiting (found : (after limit history).request? number = some request)
    (waited : request.stage = .probing purpose check) :
    ∃ past look window begun, history = past ++ look :: window ∧
      request = { begun with stage := .probing purpose check } ∧
      Session limit past look window begun purpose check := by
  obtain ⟨past, look, window, begun, rfl, rfl, session⟩ :=
    session_of_probes ⟨request, found, waited⟩
  exact ⟨past, look, window, begun, rfl, Option.some.inj (found.symm.trans session.request?),
    session⟩

/-! ## The targets -/

/-- The targets of a probe are registered connections of the table. The target is the holder of the
address, or each of the registered connections is one. -/
theorem registered_of_course {connection : ConnectionId} (consistent : registry.pool.Consistent)
    {targets : List ConnectionId}
    (course : registry.course connection source = .probe purpose targets) :
    ∀ target ∈ targets, target ∈ registry.table ∧
      ∃ held, registry.pool.sourceAddress target = some held := by
  intro target member
  unfold Registry.course at course
  split at course
  · rename_i holder held
    obtain ⟨-, rfl⟩ := Course.probe.inj course
    obtain rfl := List.mem_singleton.mp member
    have holds := List.find?_some held
    simp only [Bool.and_eq_true, beq_iff_eq] at holds
    exact ⟨List.mem_of_find?_eq_some held, source, holds.2⟩
  · split at course
    · cases course
    · obtain ⟨-, rfl⟩ := Course.probe.inj course
      obtain ⟨listed, isRegistered⟩ := List.mem_filter.mp member
      exact ⟨listed, (consistent.isRegistered_iff target).mp isRegistered⟩

/-- No target is named twice. A single holder is probed, or a part of the table, which has no
number twice. -/
theorem nodup_of_course {connection : ConnectionId} (ascending : registry.table.Pairwise (· < ·))
    {targets : List ConnectionId}
    (course : registry.course connection source = .probe purpose targets) : targets.Nodup := by
  unfold Registry.course at course
  split at course
  · obtain ⟨-, rfl⟩ := Course.probe.inj course
    exact List.pairwise_singleton _ _
  · split at course
    · cases course
    · obtain ⟨-, rfl⟩ := Course.probe.inj course
      exact (ascending.imp fun below => Nat.ne_of_lt below).filter _

/-- The holder of an address is another connection than the one that asks for it, and alone. It was
found by the search for another holder, and that is what the search looks for. -/
theorem holder_of_course {connection holder : ConnectionId} {targets : List ConnectionId}
    (course : registry.course connection source = .probe (.holder holder) targets) :
    targets = [holder] ∧ holder ∈ registry.table ∧ holder ≠ connection ∧
      registry.pool.sourceAddress holder = some source := by
  unfold Registry.course at course
  split at course
  · rename_i other held
    obtain ⟨same, rfl⟩ := Course.probe.inj course
    obtain rfl := ProbePurpose.holder.inj same
    have holds := List.find?_some held
    simp only [Bool.and_eq_true, bne_iff_ne, beq_iff_eq] at holds
    exact ⟨rfl, List.mem_of_find?_eq_some held, holds.1, holds.2⟩
  · split at course
    · cases course
    · cases course

/-- For want of room everybody is asked, and nobody else holds the address. The search for another
holder comes first, so it has failed. -/
theorem capacity_of_course {connection : ConnectionId} {targets : List ConnectionId}
    (course : registry.course connection source = .probe .capacity targets) :
    targets = registry.registered ∧ registry.otherHolder connection source = none ∧
      registry.limit ≤ registry.registered.length := by
  unfold Registry.course at course
  split at course
  · cases course
  · rename_i free
    split at course
    · cases course
    · rename_i full
      obtain ⟨-, rfl⟩ := Course.probe.inj course
      exact ⟨rfl, free, Nat.le_of_not_lt full⟩

end DiagnosticGateway.Registry
