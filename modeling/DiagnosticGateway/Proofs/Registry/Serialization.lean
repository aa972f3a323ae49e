import DiagnosticGateway.Proofs.Registry.Hearing
import DiagnosticGateway.Proofs.Registry.Line

/-!
# Arbitration is serialized

When no task of a registry can take a step, every request that was made so far is at one of three
places: it has returned, it holds the arbitration lock while its probe waits, or it is in line for
the lock. Somebody is in line only while a probe waits, there is at most one probe, and exactly its
open targets have a subscriber. This holds whatever has happened, in any order, and needs no
condition on whoever uses the registry.

Those who had to ask for the lock are decided in the order in which they asked. Whoever is
registered already need not ask: its answer falls with the first step, which can be taken at any
moment and leaves the lock alone.
-/

namespace DiagnosticGateway

/-- Where a request can be while nothing moves. -/
inductive Place where
  /-- It was decided. -/
  | returned
  /-- It holds the lock, and its probe waits. -/
  | checking
  /-- It is in line for the lock. -/
  | waiting
  deriving DecidableEq

/-- The place that goes with a stage, if there is one. -/
def RequestStage.place : RequestStage → Option Place
  | .asked => none
  | .inLine => some .waiting
  | .probing _ _ => some .checking
  | .answered _ => some .returned

namespace Registry

/-- The request is at a place. -/
def IsAt (now : Milliseconds) (number : RequestId) (registry : Registry) : Place → Prop
  | .returned => ∃ code moment, registry.answer? number = some code ∧
      registry.decisionsOn number = [⟨number, code, moment⟩]
  | .checking => registry.lockHolder = some number ∧
      ∃ purpose check, registry.Probes number purpose check ∧ registry.probeEnds now check = false
  | .waiting => number ∈ registry.lockLine

/-- The requests that were made in a history: who asked, and for which address. -/
def calls (history : History) : List (ConnectionId × UInt16) :=
  history.filterMap fun occurrence =>
    match occurrence.action with
    | .event (.request connection source) => some (connection, source)
    | _ => none

/-- The arbitration of a registry in which nothing moves. Every request has one place, and the queue
is in the order in which the lock was asked for; only its first probes, and a request of somebody
who is registered already does not come into it. -/
structure Serialized (limit : Nat) (history : History) (now : Milliseconds) : Prop where
  /-- Every request that was made is there, at exactly one place. -/
  placed : ∀ number connection source, (calls history)[number]? = some (connection, source) →
    (∃ stage, (after limit history).request? number =
        some ⟨number, connection, source, stage⟩) ∧
      ∃! place, (after limit history).IsAt now number place
  /-- Somebody is in line only while the holder of the lock probes. -/
  held : (after limit history).lockLine ≠ [] →
    ∃ holder, (after limit history).IsAt now holder .checking
  /-- There is at most one probe. -/
  alone : ∀ number purpose check other otherPurpose otherCheck,
    (after limit history).Probes number purpose check →
      (after limit history).Probes other otherPurpose otherCheck →
        number = other ∧ purpose = otherPurpose ∧ check = otherCheck
  /-- Subscribed are exactly the open targets of the probe. -/
  heard : ∀ id connection, (after limit history).pool.get? id = some connection →
    (connection.subscribers ≠ [] ↔
      connection.phase ≠ .closed ∧ ∃ number purpose check,
        (after limit history).Probes number purpose check ∧ id ∈ check.targets)
  /-- Those who have asked for the lock were decided, hold it or are in line in the order in which
  they have asked, and nobody asks twice. -/
  inTurn : ((new limit).seekers history).Nodup ∧
    (new limit).seekers history =
      (after limit history).decided.filter (· ∈ (new limit).seekers history) ++
        (after limit history).lockHolder.toList ++ (after limit history).lockLine
  /-- At all times, a request on a registered connection can take its first step, returns with it
  and leaves the lock alone. -/
  atOnce : ∀ past, past <+: history → ∀ number request held,
    (after limit past).request? number = some request → request.stage = .asked →
      (after limit past).pool.sourceAddress request.connection = some held →
        ∀ moment, .request number ∈ (after limit past).enabled moment ∧
          ((after limit past).act ⟨moment, .task (.request number)⟩).answer? number =
            some (knownAnswer held request.source) ∧
          ((after limit past).act ⟨moment, .task (.request number)⟩).lockHolder =
            (after limit past).lockHolder ∧
          ((after limit past).act ⟨moment, .task (.request number)⟩).lockLine =
            (after limit past).lockLine

variable {registry : Registry} {request : Request} {history : History} {now : Milliseconds}
  {number : RequestId} {limit : Nat} {sought : List RequestId} {place : Place}

/-! ## The requests that were made -/

/-- The calls of a history follow one another. -/
theorem calls_concat (occurrence : Occurrence) :
    calls (history ++ [occurrence]) = calls history ++ calls [occurrence] :=
  List.filterMap_append

/-- An action makes the requests that are called for by it. -/
theorem calls_of_made (registry : Registry) (occurrence : Occurrence) :
    registry.made occurrence.action =
      (calls [occurrence]).map fun call =>
        ⟨registry.requests.length, call.1, call.2, .asked⟩ := by
  obtain ⟨moment, action⟩ := occurrence
  cases action with
  | event event => cases event <;> rfl
  | task task => rfl

/-- Only actions from outside make requests. -/
theorem calls_of_step {occurrence : Occurrence} {number : RequestId}
    (step : occurrence.action = .task (.request number)) : calls [occurrence] = [] := by
  simp [calls, step]

/-- There are as many requests as were made. The induction is on the history, and only calls make
requests. -/
theorem length_requests_after (limit : Nat) (history : History) :
    (after limit history).requests.length = (calls history).length := by
  induction history using List.reverseRecOn with
  | nil => rfl
  | append_singleton history occurrence inductionHypothesis =>
    rw [after_concat, calls_concat, List.length_append, ← inductionHypothesis]
    rcases act_cases (after limit history) occurrence with
      outside | ⟨id, step, ⟨-, same⟩ | ⟨request, -, move⟩⟩
    · rw [requests_outside outside, List.length_append, calls_of_made, List.length_map]
    · rw [same, calls_of_step step]
      rfl
    · rw [move.length_requests, calls_of_step step]
      rfl

/-- A request that was made is found under its number, with what was asked for. The induction is on
the history. Requests get their numbers in the order of the calls, and no occurrence changes what
was asked for. -/
theorem request?_of_call {connection : ConnectionId} {source : UInt16}
    (call : (calls history)[number]? = some (connection, source)) :
    ∃ stage, (after limit history).request? number =
      some ⟨number, connection, source, stage⟩ := by
  induction history using List.reverseRecOn with
  | nil => cases call
  | append_singleton history occurrence inductionHypothesis =>
    rw [calls_concat, List.getElem?_append] at call
    split at call
    · obtain ⟨stage, found⟩ := inductionHypothesis call
      rw [after_concat]
      exact request?_act found
    · rename_i recent
      rw [after_concat]
      rcases act_cases (after limit history) occurrence with
        outside | ⟨id, step, -⟩
      · have fresh : (after limit history).request? number = none := by
          cases found : (after limit history).request? number with
          | none => rfl
          | some earlier =>
            have below := (sound_after limit history).numbered number earlier found
            rw [length_requests_after] at below
            exact absurd below recent
        rw [request?_outside outside, fresh, Option.none_or, calls_of_made, length_requests_after]
        have single : (calls [occurrence]).length ≤ 1 := List.length_filterMap_le ..
        generalize calls [occurrence] = new at call single
        match new, single with
        | [last], _ =>
          obtain ⟨here, same⟩ := List.getElem?_eq_some_iff.mp call
          have number_eq : number = (calls history).length :=
            Nat.le_antisymm (Nat.sub_eq_zero_iff_le.mp (Nat.lt_one_iff.mp here))
              (Nat.le_of_not_lt recent)
          have last_eq : last = (connection, source) := by simpa using same
          exact ⟨.asked, by simp [number_eq, last_eq]⟩
      · rw [calls_of_step step] at call
        cases call

/-! ## Places and stages -/

/-- While no task can take a step, no request can. -/
theorem still_of_quiescent (quiescent : registry.enabled now = [])
    (found : registry.request? number = some request) : registry.canStep now request = false := by
  by_contra able
  have member : Task.request request.id ∈ registry.enabled now := by
    refine List.mem_append_right _ (List.mem_map.mpr ⟨request, ?_, rfl⟩)
    exact List.mem_filter.mpr ⟨List.mem_of_find?_eq_some found, by simpa using able⟩
  rw [quiescent] at member
  exact List.not_mem_nil member

/-- A request that has come to a stage was made. -/
theorem found_of_stageOf {stage : RequestStage} (is : registry.stageOf number = stage)
    (moved : stage ≠ .asked) :
    ∃ request, registry.request? number = some request ∧ request.stage = stage := by
  cases found : registry.request? number with
  | none =>
    rw [stageOf, found] at is
    exact absurd is.symm moved
  | some request => exact ⟨request, rfl, (stageOf_of_found found).symm.trans is⟩

/-- The place where a request is goes with its stage. So a request cannot be at two places, whatever
the registry looks like. -/
theorem IsAt.place_eq (lined : registry.Lined sought) (sound : registry.Sound)
    (isAt : registry.IsAt now number place) : (registry.stageOf number).place = some place := by
  cases place with
  | returned =>
    obtain ⟨code, -, answer, -⟩ := isAt
    obtain ⟨request, found, answered⟩ := Option.bind_eq_some_iff.mp answer
    rw [stageOf_of_found found]
    cases stage : request.stage with
    | answered code => rfl
    | asked => simp [stage] at answered
    | inLine => simp [stage] at answered
    | probing purpose check => simp [stage] at answered
  | checking =>
    obtain ⟨-, purpose, check, ⟨request, found, probes⟩, -⟩ := isAt
    rw [stageOf_of_found found, probes]
    rfl
  | waiting =>
    have isQueued : number ∈ registry.queue := List.mem_append_right _ isAt
    have pending := (lined.stands number).pending isQueued
    cases stage : registry.stageOf number with
    | inLine => rfl
    | asked => exact (stage ▸ pending).elim
    | answered code => exact (stage ▸ pending).elim
    | probing purpose check =>
      -- the holder of the lock is not in line
      obtain ⟨request, found, probes⟩ := found_of_stageOf stage (by simp)
      have holds := (sound.exclusive _ _ _ ⟨request, found, probes⟩).1
      have distinct := lined.nodup_queue
      rw [queue, holds] at distinct
      exact absurd isAt (List.nodup_cons.mp distinct).1

/-- When nothing moves, every request that was made is at the place that goes with its stage. A
request that was not looked at could be, and so could one that has come up in the line; neither of
them is left. -/
theorem isAt_of_quiescent (lined : registry.Lined sought) (sound : registry.Sound)
    (quiescent : registry.enabled now = []) (found : registry.request? number = some request) :
    ∃ place, registry.IsAt now number place := by
  have still := still_of_quiescent quiescent found
  have stage := stageOf_of_found found
  have number_eq := id_of_request? found
  cases is : request.stage with
  | asked => simp [canStep, is] at still
  | inLine =>
    refine ⟨.waiting, ?_⟩
    have unheld : registry.lockHolder ≠ some number := by
      simpa [canStep, is, number_eq] using still
    have isQueued := ((lined.stands number).of_pending (by rw [stage, is]; trivial)).1
    rcases List.mem_append.mp isQueued with holds | inLine
    · exact absurd (Option.mem_toList.mp holds) unheld
    · exact inLine
  | probing purpose check =>
    have probes : registry.Probes number purpose check := ⟨request, found, is⟩
    exact ⟨.checking, (sound.exclusive _ _ _ probes).1, purpose, check, probes,
      by simpa [canStep, is] using still⟩
  | answered code =>
    obtain ⟨-, moment, once⟩ := (lined.stands number).of_answered (stage.trans is)
    exact ⟨.returned, code, moment, by simp [answer?, found, is], once⟩

/-- When nothing moves, whoever holds the lock probes. It waits for its probe, as in any other stage
it could take a step. -/
theorem checking_of_holder (lined : registry.Lined sought)
    (quiescent : registry.enabled now = []) (holds : registry.lockHolder = some number) :
    registry.IsAt now number .checking := by
  have pending := (lined.stands number).pending (by simp [queue, holds])
  have moved : registry.stageOf number ≠ .asked := by
    intro asked
    rw [asked] at pending
    exact pending
  obtain ⟨request, found, stage⟩ := found_of_stageOf rfl moved
  have still := still_of_quiescent quiescent found
  rw [← stage] at pending moved
  cases is : request.stage with
  | asked => exact absurd is moved
  | inLine => simp [canStep, is, holds, id_of_request? found] at still
  | probing purpose check =>
    exact ⟨holds, purpose, check, ⟨request, found, is⟩, by simpa [canStep, is] using still⟩
  | answered code =>
    rw [is] at pending
    exact pending.elim

/-! ## Subscribers -/

/-- In every history, the open targets of a probe have a subscriber, and nobody else has one. One
direction is the soundness of the registry; for the other, a probe that has begun has subscribed
each of its open targets. -/
theorem subscribed_iff (limit : Nat) (history : History) {id : ConnectionId}
    {connection : Connection} (found : (after limit history).pool.get? id = some connection) :
    connection.subscribers ≠ [] ↔
      connection.phase ≠ .closed ∧ ∃ number purpose check,
        (after limit history).Probes number purpose check ∧ id ∈ check.targets := by
  have sound := sound_after limit history
  constructor
  · intro listened
    obtain ⟨entry, listens⟩ := List.exists_mem_of_ne_nil _ listened
    obtain ⟨purpose, check, probes, recorded⟩ :=
      sound.subscribed id connection entry found listens
    refine ⟨?_, _, purpose, check, probes, ?_⟩
    · intro closed
      exact listened ((sound.consistent id connection found).subscribers closed)
    · obtain ⟨past, look, window, request, -, -, session⟩ := session_of_probes probes
      have started := session.began.started
      rw [started] at recorded ⊢
      exact AliveCheck.target_of_recorded request.id recorded
  · rintro ⟨opened, number, purpose, check, probes, target⟩
    obtain ⟨past, look, window, request, rfl, rfl, session⟩ := session_of_probes probes
    have consistent := (sound_after limit past).consistent
    obtain ⟨-, own, held⟩ := registered_of_course consistent session.began.course id target
    obtain ⟨same, alsoFound, listens⟩ := (session.hears target held).listens
    obtain rfl := Option.some.inj (found.symm.trans alsoFound)
    obtain ⟨-, entry, isListed, -⟩ := listens opened
    exact List.ne_nil_of_mem isListed

/-! ## Requests that need no lock -/

/-- A request that was not looked at can take its first step at any moment. -/
theorem able_of_asked (found : registry.request? number = some request)
    (asked : request.stage = .asked) (moment : Milliseconds) :
    .request number ∈ registry.enabled moment := by
  refine List.mem_append_right _ (List.mem_map.mpr ⟨request, ?_, ?_⟩)
  · exact List.mem_filter.mpr ⟨List.mem_of_find?_eq_some found, by simp [canStep, asked]⟩
  · rw [id_of_request? found]

/-- A request on a registered connection returns with its first step. -/
theorem act_of_known (found : registry.request? number = some request)
    (asked : request.stage = .asked) {held : UInt16}
    (known : registry.pool.sourceAddress request.connection = some held) (moment : Milliseconds) :
    registry.act ⟨moment, .task (.request number)⟩ =
      registry.answer moment request (knownAnswer held request.source) := by
  have advanced : registry.act ⟨moment, .task (.request number)⟩ =
      (registry.stepRequest moment request).value := by
    simp [act, step, advance, found]
  rw [advanced]
  exact (Move.answersAtOnce asked known).eq_step.symm

/-- Whenever nothing in a registry moves, its arbitration is serialized, whatever has happened. The
line is known from the history alone, and where nothing can move its first request is one that
probes and waits. -/
theorem arbitration_serialized (quiescent : (after limit history).enabled now = []) :
    Serialized limit history now := by
  have lined := lined_after limit history
  have sound := sound_after limit history
  constructor
  case placed =>
    intro number connection source call
    obtain ⟨stage, found⟩ := request?_of_call call
    obtain ⟨place, isAt⟩ := isAt_of_quiescent lined sound quiescent found
    refine ⟨⟨stage, found⟩, place, isAt, ?_⟩
    intro other alsoAt
    exact Option.some.inj
      ((alsoAt.place_eq lined sound).symm.trans (isAt.place_eq lined sound))
  case held =>
    intro inLine
    cases holder : (after limit history).lockHolder with
    | none => exact absurd (lined.free holder) inLine
    | some number => exact ⟨number, checking_of_holder lined quiescent holder⟩
  case alone =>
    intro number purpose check other otherPurpose otherCheck probes alsoProbes
    exact sound.probes_unique probes alsoProbes
  case heard =>
    intro id connection found
    exact subscribed_iff limit history found
  case inTurn =>
    refine ⟨lined.once, ?_⟩
    rw [List.append_assoc]
    exact lined.order
  case atOnce =>
    intro past front number request held found asked known moment
    have returns := act_of_known found asked known moment
    refine ⟨able_of_asked found asked moment, ?_, ?_, ?_⟩
    · rw [returns, answer?, request?_answer, found, id_of_request? found]
      simp
    · rw [returns]
      rfl
    · rw [returns]
      rfl

/-- The second tester asks for the address of the first, the third is in line behind it, and the
first asks again. -/
def rush : History :=
  [⟨0, .event (.openConnection ⟨2000, 300000⟩)⟩, ⟨0, .event (.add 1)⟩, ⟨0, .event (.start 1)⟩,
    ⟨10, .event (.request 1 0x0E00)⟩, ⟨10, .task (.request 0)⟩,
    ⟨20, .event (.openConnection ⟨2000, 300000⟩)⟩, ⟨20, .event (.add 2)⟩,
    ⟨20, .event (.start 2)⟩, ⟨20, .event (.openConnection ⟨2000, 300000⟩)⟩,
    ⟨20, .event (.add 3)⟩, ⟨20, .event (.start 3)⟩, ⟨30, .event (.request 2 0x0E00)⟩,
    ⟨30, .task (.request 1)⟩, ⟨40, .event (.request 3 0x0E01)⟩, ⟨40, .task (.request 2)⟩,
    ⟨50, .event (.request 1 0x0E00)⟩, ⟨50, .task (.request 3)⟩]

/-- While the second waits for its probe and the third for the lock, the first has returned. -/
theorem arbitration_serialized_rush :
    (after 2 rush).enabled 100 = [] ∧ (after 2 rush).lockHolder = some 1 ∧
      (after 2 rush).lockLine = [2] ∧ (after 2 rush).answer? 3 = some .success ∧
      Serialized 2 rush 100 := by
  have quiescent : (after 2 rush).enabled 100 = [] := by decide +kernel
  exact ⟨quiescent, by decide +kernel, by decide +kernel, by decide +kernel,
    arbitration_serialized quiescent⟩

end Registry

end DiagnosticGateway
