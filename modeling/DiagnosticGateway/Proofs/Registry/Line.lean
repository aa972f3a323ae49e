import DiagnosticGateway.Proofs.Registry.Session

/-!
# The line for the lock

A request asks for the arbitration lock with its first step, unless its connection is registered
already. From then on its place is fixed: those who have asked are first the ones that were
decided, then the one that holds the lock, then the ones in line, and this is the order in which
they have asked. A request that has not been looked at is in no place, and nobody is decided
twice.

The lemmas say what each kind of step does to these places. A request joins the line at its end,
the lock goes to the first in line, and whoever is decided leaves from the front. An answer from
the registration of the connection itself passes the line by.
-/

namespace DiagnosticGateway

/-- The request waits for the lock or holds it. -/
def RequestStage.IsPending : RequestStage → Prop
  | .inLine | .probing _ _ => True
  | .asked | .answered _ => False

namespace Registry

/-- The request that holds the lock, and then those in line. -/
def queue (registry : Registry) : List RequestId :=
  registry.lockHolder.toList ++ registry.lockLine

/-- The requests that were decided, in the order of their decisions. -/
def decided (registry : Registry) : List RequestId :=
  registry.decisions.map Decision.request

/-- The decisions on one request. -/
def decisionsOn (number : RequestId) (registry : Registry) : List Decision :=
  registry.decisions.filter fun decision => decision.request = number

/-- What a request has come to. A request that was not made was not looked at either. -/
def stageOf (number : RequestId) (registry : Registry) : RequestStage :=
  ((registry.request? number).map Request.stage).getD .asked

/-- The request that asks for the lock by an occurrence: it is looked at for the first time, and
its connection is not registered. -/
def seeking (occurrence : Occurrence) (registry : Registry) : List RequestId :=
  match occurrence.action with
  | .task (.request number) =>
    match registry.request? number with
    | some request =>
      if request.stage = .asked ∧ registry.pool.sourceAddress request.connection = none then
        [number]
      else []
    | none => []
  | _ => []

/-- The requests that ask for the lock in a course of occurrences, in the order in which they
ask. -/
def seekers : History → Registry → List RequestId
  | [], _ => []
  | occurrence :: rest, registry =>
    registry.seeking occurrence ++ seekers rest (registry.act occurrence)

/-- Where a request is, by its stage: nowhere before it is looked at, then in the queue, and in
the end among the decisions, once. -/
def Stands (sought : List RequestId) (number : RequestId) (registry : Registry) : Prop :=
  match registry.stageOf number with
  | .asked => number ∉ sought ∧ number ∉ registry.queue ∧ registry.decisionsOn number = []
  | .inLine | .probing _ _ => number ∈ registry.queue ∧ registry.decisionsOn number = []
  | .answered code =>
    number ∉ registry.queue ∧ ∃ moment, registry.decisionsOn number = [⟨number, code, moment⟩]

/-- Everybody who has asked for the lock has one place. -/
structure Lined (sought : List RequestId) (registry : Registry) : Prop where
  /-- Those who have asked were decided, hold the lock or are in line, in this order. -/
  order : sought = registry.decided.filter (· ∈ sought) ++ registry.queue
  once : sought.Nodup
  /-- Nobody is in line for a free lock. -/
  free : registry.lockHolder = none → registry.lockLine = []
  stands : ∀ number, registry.Stands sought number

variable {registry next : Registry} {sought later : List RequestId} {request : Request}
  {stage : RequestStage} {occurrence : Occurrence} {history : History} {now : Milliseconds}
  {code : Wire.ActivationCode} {number : RequestId} {limit : Nat}

/-- The last occurrence may bring one more request that asks for the lock. -/
theorem seekers_concat :
    registry.seekers (history ++ [occurrence]) =
      registry.seekers history ++ (registry.replay history).seeking occurrence := by
  induction history generalizing registry with
  | nil => simp [seekers]
  | cons first rest inductionHypothesis =>
    simp only [List.cons_append, seekers, inductionHypothesis, replay_cons, List.append_assoc]

/-- A request that was made has come to its stage. -/
theorem stageOf_of_found (found : registry.request? number = some request) :
    registry.stageOf number = request.stage := by
  simp [stageOf, found]

/-- A request whose stage has been set has come to that stage. -/
theorem stageOf_of_set
    (set : next.request? request.id = (registry.request? request.id).map fun found =>
      if request.id = request.id then { found with stage := stage } else found)
    (found : registry.request? request.id = some request) :
    next.stageOf request.id = stage := by
  rw [found, Option.map_some, if_pos rfl] at set
  exact stageOf_of_found set

/-- A request whose stage was set to one in which it waits is pending. -/
theorem isPending_of_set
    (set : next.request? request.id = (registry.request? request.id).map fun found =>
      if request.id = request.id then { found with stage := stage } else found)
    (found : registry.request? request.id = some request) (pending : stage.IsPending) :
    (next.stageOf request.id).IsPending := by
  rwa [stageOf_of_set set found]

/-- A request that is not among the decided has no decision. -/
theorem decisionsOn_eq_nil : registry.decisionsOn number = [] ↔ number ∉ registry.decided := by
  simp [decisionsOn, decided]

/-- A further decision is one on its own request. -/
theorem decisionsOn_concat (decisions : next.decisions = registry.decisions ++ [⟨number, code, now⟩])
    (other : RequestId) :
    next.decisionsOn other =
      registry.decisionsOn other ++ if other = number then [⟨number, code, now⟩] else [] := by
  by_cases own : other = number
  · simp [decisionsOn, decisions, own]
  · have apart : ¬ number = other := fun same => own same.symm
    simp [decisionsOn, decisions, own, apart]

/-- When a request gives the lock on, the line is what remains of the queue. -/
theorem queue_release (registry : Registry) : registry.release.queue = registry.lockLine := by
  rw [queue, release_value]
  cases registry.lockLine <;> rfl

/-- A lock that is given on is free only if nobody is in line. -/
theorem free_release (registry : Registry) (free : registry.release.lockHolder = none) :
    registry.release.lockLine = [] := by
  rw [release_value] at free ⊢
  cases line : registry.lockLine with
  | nil => rfl
  | cons first rest =>
    rw [line] at free
    cases free

/-- Whoever has been decided about leaves the queue, and the line behind moves up. -/
theorem queue_concluded (registry : Registry) :
    (registry.concluded now request code).queue = registry.lockLine :=
  queue_release _

/-- A decision is the last one so far. -/
theorem decisions_concluded (registry : Registry) :
    (registry.concluded now request code).decisions =
      registry.decisions ++ [⟨request.id, code, now⟩] := by
  rw [concluded_value]

/-- Nobody has asked in a new registry. -/
theorem lined_new (limit : Nat) : (new limit).Lined [] where
  order := rfl
  once := List.nodup_nil
  free _ := rfl
  stands _ := ⟨List.not_mem_nil, List.not_mem_nil, rfl⟩

/-! ## Where a request stands -/

/-- A request that has not moved stands where it stood. That it has not moved is said by its stage,
the queue and the decisions. -/
theorem Stands.kept (stands : registry.Stands sought number)
    (stage : next.stageOf number = registry.stageOf number)
    (seeks : number ∈ later → number ∈ sought)
    (queue : number ∈ next.queue ↔ number ∈ registry.queue)
    (decisions : next.decisionsOn number = registry.decisionsOn number) :
    next.Stands later number := by
  unfold Stands at *
  rw [stage, queue, decisions]
  generalize registry.stageOf number = stood at stands ⊢
  cases stood with
  | asked => exact ⟨fun isLater => stands.1 (seeks isLater), stands.2⟩
  | inLine => exact stands
  | probing purpose check => exact stands
  | answered code => exact stands

/-- A request that was not looked at is nowhere. -/
theorem Stands.of_asked (stands : registry.Stands sought number)
    (asked : registry.stageOf number = .asked) :
    number ∉ sought ∧ number ∉ registry.queue ∧ registry.decisionsOn number = [] := by
  rwa [Stands, asked] at stands

/-- A pending request is in the queue and not decided. -/
theorem Stands.of_pending (stands : registry.Stands sought number)
    (pending : (registry.stageOf number).IsPending) :
    number ∈ registry.queue ∧ registry.decisionsOn number = [] := by
  unfold Stands at stands
  cases stage : registry.stageOf number with
  | asked => exact (stage ▸ pending).elim
  | inLine => rwa [stage] at stands
  | probing purpose check => rwa [stage] at stands
  | answered code => exact (stage ▸ pending).elim

/-- A decided request is not in the queue, and was decided once. -/
theorem Stands.of_answered (stands : registry.Stands sought number)
    (answered : registry.stageOf number = .answered code) :
    number ∉ registry.queue ∧ ∃ moment, registry.decisionsOn number = [⟨number, code, moment⟩] := by
  rwa [Stands, answered] at stands

/-- Whoever is in the queue is pending. -/
theorem Stands.pending (stands : registry.Stands sought number)
    (isQueued : number ∈ registry.queue) : (registry.stageOf number).IsPending := by
  cases stage : registry.stageOf number with
  | asked => exact absurd isQueued (stands.of_asked stage).2.1
  | inLine => trivial
  | probing purpose check => trivial
  | answered code => exact absurd isQueued (stands.of_answered stage).1

/-- A request that waits stands in the queue. -/
theorem stands_of_pending (pending : (registry.stageOf number).IsPending)
    (isQueued : number ∈ registry.queue) (undecided : registry.decisionsOn number = []) :
    registry.Stands sought number := by
  unfold Stands
  cases stage : registry.stageOf number with
  | asked => exact (stage ▸ pending).elim
  | inLine => exact ⟨isQueued, undecided⟩
  | probing purpose check => exact ⟨isQueued, undecided⟩
  | answered code => exact (stage ▸ pending).elim

/-- A request that was answered stands among the decisions, once. -/
theorem stands_of_answered (answered : registry.stageOf number = .answered code)
    (gone : number ∉ registry.queue)
    (once : registry.decisionsOn number = [⟨number, code, now⟩]) :
    registry.Stands sought number := by
  rw [Stands, answered]
  exact ⟨gone, now, once⟩

/-! ## What a step does to the places -/

section Steps

variable (lined : registry.Lined sought)
  (others : ∀ other, other ≠ number → next.stageOf other = registry.stageOf other)

include lined

/-- Nobody is in the queue twice. -/
theorem Lined.nodup_queue : registry.queue.Nodup := by
  have once := lined.once
  rw [lined.order] at once
  exact (List.nodup_append.mp once).2.1

/-- Whoever is in the queue has asked. -/
theorem Lined.sought_of_queued (isQueued : number ∈ registry.queue) : number ∈ sought := by
  rw [lined.order]
  exact List.mem_append_right _ isQueued

/-- As long as nobody moves, everybody stands where he stood. The clauses speak of stages, of the
lock and its line, and of the decisions, and all of these are the same. -/
theorem Lined.unmoved (stages : ∀ number, next.stageOf number = registry.stageOf number)
    (holder : next.lockHolder = registry.lockHolder) (line : next.lockLine = registry.lockLine)
    (decisions : next.decisions = registry.decisions) : next.Lined sought := by
  have sameQueue : next.queue = registry.queue := by rw [queue, queue, holder, line]
  have sameDecided : next.decided = registry.decided := by rw [decided, decided, decisions]
  refine ⟨?_, lined.once, ?_, ?_⟩
  · rw [sameDecided, sameQueue]
    exact lined.order
  · rw [holder, line]
    exact lined.free
  · intro number
    exact (lined.stands number).kept (stages number) id (by rw [sameQueue])
      (by rw [decisionsOn, decisionsOn, decisions])

include others

/-- A request that was not looked at joins the queue at its end. It has the lock if that was free,
and is the last in the line if not; in either case it is behind those that were there. -/
theorem Lined.joins (asked : registry.stageOf number = .asked)
    (pending : (next.stageOf number).IsPending) (queue : next.queue = registry.queue ++ [number])
    (decisions : next.decisions = registry.decisions)
    (free : next.lockHolder = none → next.lockLine = []) : next.Lined (sought ++ [number]) := by
  have sameDecided : next.decided = registry.decided := by rw [decided, decided, decisions]
  have sameDecisions : ∀ other, next.decisionsOn other = registry.decisionsOn other := by
    intro other
    rw [decisionsOn, decisionsOn, decisions]
  obtain ⟨fresh, -, undecided⟩ := (lined.stands number).of_asked asked
  refine ⟨?_, ?_, free, ?_⟩
  · have filtered : registry.decided.filter (· ∈ sought ++ [number]) =
        registry.decided.filter (· ∈ sought) := by
      apply List.filter_congr
      intro other isDecided
      have different : other ≠ number := fun same =>
        decisionsOn_eq_nil.mp undecided (same ▸ isDecided)
      simp [different]
    rw [queue, sameDecided, filtered, ← List.append_assoc, ← lined.order]
  · have distinct : ∀ other ∈ sought, other ≠ number := fun other isSought same =>
      fresh (same ▸ isSought)
    exact List.nodup_append.mpr ⟨lined.once, by simp, by simpa using distinct⟩
  · intro other
    by_cases own : other = number
    · subst own
      exact stands_of_pending pending (by simp [queue]) ((sameDecisions other).trans undecided)
    · exact (lined.stands other).kept (others other own) (by simp [own]) (by simp [queue, own])
        (sameDecisions other)

/-- A request that stays in the queue keeps its place. This is the step by which the holder of the
lock starts its probe. -/
theorem Lined.stays (isQueued : number ∈ registry.queue)
    (pending : (next.stageOf number).IsPending) (queue : next.queue = registry.queue)
    (decisions : next.decisions = registry.decisions)
    (free : next.lockHolder = none → next.lockLine = []) : next.Lined sought := by
  have sameDecided : next.decided = registry.decided := by rw [decided, decided, decisions]
  have sameDecisions : ∀ other, next.decisionsOn other = registry.decisionsOn other := by
    intro other
    rw [decisionsOn, decisionsOn, decisions]
  refine ⟨?_, lined.once, free, ?_⟩
  · rw [queue, sameDecided]
    exact lined.order
  · intro other
    by_cases own : other = number
    · subst own
      have stood := lined.stands other
      exact stands_of_pending pending (queue ▸ isQueued)
        ((sameDecisions other).trans (stood.of_pending (stood.pending isQueued)).2)
    · exact (lined.stands other).kept (others other own) id (by rw [queue]) (sameDecisions other)

variable (answered : next.stageOf number = .answered code)
  (decisions : next.decisions = registry.decisions ++ [⟨number, code, now⟩])

include answered decisions

/-- The first of the queue is decided and leaves it. It becomes the last of the decided, so the
order of those that have asked is the same before and after. -/
theorem Lined.leaves (queue : registry.queue = number :: next.queue)
    (free : next.lockHolder = none → next.lockLine = []) : next.Lined sought := by
  have onceMore : next.decided = registry.decided ++ [number] := by simp [decided, decisions]
  have isQueued : number ∈ registry.queue := by simp [queue]
  have isSought := lined.sought_of_queued isQueued
  have gone : number ∉ next.queue := by
    have distinct := lined.nodup_queue
    rw [queue] at distinct
    exact (List.nodup_cons.mp distinct).1
  refine ⟨?_, lined.once, free, ?_⟩
  · calc
      sought = registry.decided.filter (· ∈ sought) ++ number :: next.queue := by
        rw [← queue]
        exact lined.order
      _ = next.decided.filter (· ∈ sought) ++ next.queue := by
        simp [onceMore, isSought]
  · intro other
    by_cases own : other = number
    · subst own
      have stood := lined.stands other
      have undecided := (stood.of_pending (stood.pending isQueued)).2
      have last := decisionsOn_concat decisions other
      rw [undecided, if_pos rfl] at last
      exact stands_of_answered answered gone last
    · exact (lined.stands other).kept (others other own) id (by simp [queue, own])
        (by rw [decisionsOn_concat decisions, if_neg own, List.append_nil])

/-- A request that was not looked at is decided without having been in the queue. Its connection was
registered already, so it did not ask for the lock and is not among those that have. -/
theorem Lined.passesBy (asked : registry.stageOf number = .asked)
    (holder : next.lockHolder = registry.lockHolder) (line : next.lockLine = registry.lockLine) :
    next.Lined sought := by
  have onceMore : next.decided = registry.decided ++ [number] := by simp [decided, decisions]
  have sameQueue : next.queue = registry.queue := by rw [queue, queue, holder, line]
  obtain ⟨fresh, notQueued, undecided⟩ := (lined.stands number).of_asked asked
  refine ⟨?_, lined.once, ?_, ?_⟩
  · rw [sameQueue, onceMore]
    simpa [fresh] using lined.order
  · rw [holder, line]
    exact lined.free
  · intro other
    by_cases own : other = number
    · subst own
      have last := decisionsOn_concat decisions other
      rw [undecided, if_pos rfl] at last
      exact stands_of_answered answered (sameQueue ▸ notQueued) last
    · exact (lined.stands other).kept (others other own) id (by rw [sameQueue])
        (by rw [decisionsOn_concat decisions, if_neg own, List.append_nil])

end Steps

/-! ## Every history -/

/-- Actions from outside decide nothing, as a decision is taken by a step of its request. The cases
are the events, of which none decides, and the timers. -/
theorem decisions_outside (outside : occurrence.action.IsOutside) :
    (registry.act occurrence).decisions = registry.decisions := by
  obtain ⟨now, action⟩ := occurrence
  cases action with
  | event event =>
    cases event with
    | remove connection =>
      simp only [act, apply, remove]
      split <;> rfl
    | _ => rfl
  | task task =>
    cases task with
    | request number => exact outside.elim
    | timer connection => rfl

/-- A request that is made from outside was not looked at before, and is not looked at now. A
request that was just made is in the stage in which one that does not exist is said to be. -/
theorem stageOf_outside (outside : occurrence.action.IsOutside) (number : RequestId) :
    (registry.act occurrence).stageOf number = registry.stageOf number := by
  simp only [stageOf, request?_outside outside]
  cases registry.request? number with
  | some request => rfl
  | none =>
    cases new : (registry.made occurrence.action).find? fun request => request.id == number with
    | none => rfl
    | some request =>
      have asked := (asked_of_made (List.mem_of_find?_eq_some new)).2
      simpa using asked

/-- Nothing that comes from outside asks for the lock: a request asks by a step of its own. -/
theorem seeking_outside (outside : occurrence.action.IsOutside) :
    registry.seeking occurrence = [] := by
  unfold seeking
  split
  · rename_i step
    rw [step] at outside
    exact outside.elim
  · rfl

/-- A request asks for the lock when it is looked at for the first time and its connection is not
registered. -/
theorem seeking_of_step (step : occurrence.action = .task (.request number))
    (found : registry.request? number = some request) :
    registry.seeking occurrence =
      if request.stage = .asked ∧ registry.pool.sourceAddress request.connection = none then
        [number]
      else [] := by
  simp only [seeking, step, found]

/-- A request that obtains the lock has asked for it then, or has been in the queue. It can be
taken for one that was in the queue all along. -/
theorem Lined.obtains (lined : registry.Lined sought)
    (found : registry.request? request.id = some request) (turn : registry.Obtains request) :
    ∃ inTurn : Registry, inTurn.Lined
        (sought ++ if request.stage = .asked then [request.id] else []) ∧
      inTurn.queue = request.id :: registry.lockLine ∧ inTurn.decisions = registry.decisions ∧
      ∀ other, other ≠ request.id → inTurn.stageOf other = registry.stageOf other := by
  rcases turn with ⟨asked, free⟩ | ⟨inLine, holds⟩
  · have empty := lined.free free
    let inTurn : Registry :=
      setStage request.id .inLine { registry with lockHolder := some request.id }
    have set : ∀ other, inTurn.request? other = (registry.request? other).map fun found =>
        if other = request.id then { found with stage := .inLine } else found :=
      request?_setStage _ _ _
    have others : ∀ other, other ≠ request.id → inTurn.stageOf other = registry.stageOf other := by
      intro other different
      simp [stageOf, set, different]
    refine ⟨inTurn, ?_, rfl, rfl, others⟩
    rw [if_pos asked]
    refine lined.joins others ((stageOf_of_found found).trans asked)
      (isPending_of_set (set request.id) found trivial) ?_ rfl (by simp [inTurn, setStage])
    simp [queue, free, empty, inTurn, setStage]
  · have late : request.stage ≠ .asked := by simp [inLine]
    refine ⟨registry, ?_, by simp [queue, holds], rfl, fun other _ => rfl⟩
    rw [if_neg late, List.append_nil]
    exact lined

/-- Who asks for the lock by an occurrence comes after those who have asked before, and every
step leaves everybody at one place. -/
theorem Lined.act (lined : registry.Lined sought) (sound : registry.Sound)
    (occurrence : Occurrence) :
    (registry.act occurrence).Lined (sought ++ registry.seeking occurrence) := by
  rcases act_cases registry occurrence with
    outside | ⟨id, step, ⟨missing, same⟩ | ⟨request, found, move⟩⟩
  · rw [seeking_outside outside, List.append_nil]
    exact lined.unmoved (stageOf_outside outside) (lock_outside outside).1
      (lock_outside outside).2.1 (decisions_outside outside)
  · have nobody : registry.seeking occurrence = [] := by
      simp only [seeking, step, missing]
    rw [same, nobody, List.append_nil]
    exact lined
  · obtain rfl := id_of_request? found
    have others : ∀ other, other ≠ request.id →
        (registry.act occurrence).stageOf other = registry.stageOf other := by
      intro other different
      simp only [stageOf, move.request?_other different]
    rw [seeking_of_step step found]
    generalize registry.act occurrence = next at *
    cases move with
    | rests still =>
      have late : request.stage ≠ .asked := by
        intro asked
        simp [canStep, asked] at still
      simpa [late] using lined
    | answersAtOnce asked known =>
      simpa [known] using lined.passesBy others
        (by simp [stageOf, found]) rfl ((stageOf_of_found found).trans asked) rfl rfl
    | goesInLine asked unknown taken =>
      rw [if_pos ⟨asked, unknown⟩]
      refine lined.joins others ((stageOf_of_found found).trans asked)
        (isPending_of_set (request?_setStage ..) found trivial) ?_ rfl ?_
      · simp [queue, setStage]
      · simp [setStage, taken]
    | answersInTurn inLine holds known =>
      have late : request.stage ≠ .asked := by simp [inLine]
      rw [if_neg fun both => late both.1, List.append_nil]
      refine lined.leaves others
        (stageOf_of_set ((request?_release ..).trans (request?_answer ..)) found)
        (by rw [release_value]; rfl) ?_ (free_release _)
      rw [queue_release]
      simp [queue, holds, answer, setStage]
    | arbitrates arbitration =>
      cases arbitration with
      | grants turn unknown course =>
        obtain ⟨inTurn, linedUp, queue, decisions, apart⟩ := lined.obtains found turn
        simp only [unknown, and_true]
        refine linedUp.leaves (fun other different =>
            (others other different).trans (apart other different).symm)
          (stageOf_of_set (request?_concluded ..) found)
          ((decisions_concluded _).trans (congrArg (· ++ _) decisions.symm)) ?_ (free_release _)
        rw [queue, queue_concluded]
      | probes turn unknown course =>
        obtain ⟨inTurn, linedUp, queue, decisions, apart⟩ := lined.obtains found turn
        simp only [unknown, and_true]
        refine linedUp.stays (fun other different =>
            (others other different).trans (apart other different).symm)
          (by simp [queue]) (isPending_of_set (request?_probing ..) found trivial)
          (by rw [queue]; rfl) decisions.symm (by simp [probing, setStage])
      | concludes waited ends =>
        have late : request.stage ≠ .asked := by simp [waited]
        have holds := (sound.exclusive _ _ _ ⟨request, found, waited⟩).1
        rw [if_neg fun both => late both.1, List.append_nil]
        refine lined.leaves others (stageOf_of_set (request?_concluded ..) found)
          (decisions_concluded ..) ?_ (free_release _)
        rw [queue_concluded, queue, holds]
        rfl

/-- In every history those who have asked for the lock are lined up. -/
theorem lined_after (limit : Nat) (history : History) :
    (after limit history).Lined ((new limit).seekers history) := by
  induction history using List.reverseRecOn with
  | nil => exact lined_new limit
  | append_singleton history occurrence inductionHypothesis =>
    rw [after_concat, seekers_concat]
    exact inductionHypothesis.act (sound_after limit history) occurrence

end Registry

end DiagnosticGateway
