import DiagnosticGateway.Proofs.Registry.Effect

/-!
# What every history keeps

The arbitration lock is the reason why at most one probe is under way: a request that waits for
a probe holds the lock. Whoever listens to a connection was subscribed by that probe, and
reports wait for that probe only. So when nobody probes, nobody listens and no mail waits,
and the next probe starts with an empty mailbox. Every history keeps this, together with the
consistency of the connections and the order of the table.
-/

namespace DiagnosticGateway.Registry

/-- The request with a number waits for a probe. -/
def Probes (number : RequestId) (purpose : ProbePurpose) (check : AliveCheck)
    (registry : Registry) : Prop :=
  ∃ request, registry.request? number = some request ∧ request.stage = .probing purpose check

/-- What holds of a registry at all times. The clauses tie the lock, the probe that waits, the
connections that are subscribed and the mail together; together they are kept by every
occurrence. -/
structure Sound (registry : Registry) : Prop where
  numbered : ∀ id request, registry.request? id = some request → id < registry.requests.length
  consistent : registry.pool.Consistent
  ascending : registry.table.Pairwise (· < ·)
  /-- Whoever probes holds the lock and has a mailbox of its own. -/
  exclusive : ∀ number purpose check, registry.Probes number purpose check →
    registry.lockHolder = some number ∧ check.mailbox = number
  /-- Whoever listens was subscribed by the probe. -/
  subscribed : ∀ id connection entry, registry.pool.get? id = some connection →
    entry ∈ connection.subscribers →
      ∃ purpose check, registry.Probes entry.mailbox purpose check ∧
        (id, entry.id) ∈ check.subscriptions
  /-- Reports wait for the probe. -/
  delivered : ∀ delivery ∈ registry.mail,
    ∃ purpose check, registry.Probes delivery.mailbox purpose check

variable {registry next : Registry} {now : Milliseconds} {request : Request}
  {occurrence : Occurrence}

/-- Nothing probes, listens or waits in a new registry. Every clause is about something that it does
not have. -/
theorem sound_new (limit : Nat) : (new limit).Sound where
  numbered id request found := by cases found
  consistent id connection found := by cases found
  ascending := List.Pairwise.nil
  exclusive number purpose check probes := by
    obtain ⟨request, found, -⟩ := probes
    cases found
  subscribed id connection entry found := by cases found
  delivered delivery member := absurd member List.not_mem_nil

/-- At most one probe is under way. A request that probes holds the lock, and the lock has one
holder. -/
theorem Sound.probes_unique (sound : registry.Sound) {number other : RequestId}
    {purpose otherPurpose : ProbePurpose} {check otherCheck : AliveCheck}
    (probes : registry.Probes number purpose check)
    (alsoProbes : registry.Probes other otherPurpose otherCheck) :
    number = other ∧ purpose = otherPurpose ∧ check = otherCheck := by
  have holds := (sound.exclusive _ _ _ probes).1
  have alsoHolds := (sound.exclusive _ _ _ alsoProbes).1
  obtain rfl : number = other := Option.some.inj (holds.symm.trans alsoHolds)
  obtain ⟨request, found, stage⟩ := probes
  obtain ⟨same, alsoFound, alsoStage⟩ := alsoProbes
  obtain rfl : request = same := Option.some.inj (found.symm.trans alsoFound)
  obtain ⟨samePurpose, sameCheck⟩ := RequestStage.probing.inj (stage.symm.trans alsoStage)
  exact ⟨rfl, samePurpose, sameCheck⟩

/-- While a request that does not probe has the lock, nobody probes. -/
theorem Sound.idle_of_holder (sound : registry.Sound)
    (found : registry.request? request.id = some request)
    (holds : registry.lockHolder = some request.id)
    (unprobing : ∀ purpose check, request.stage ≠ .probing purpose check) :
    ∀ number purpose check, ¬ registry.Probes number purpose check := by
  intro number purpose check probes
  have lock := (sound.exclusive _ _ _ probes).1
  obtain rfl : request.id = number := Option.some.inj (holds.symm.trans lock)
  obtain ⟨same, alsoFound, stage⟩ := probes
  obtain rfl : request = same := Option.some.inj (found.symm.trans alsoFound)
  exact unprobing purpose check stage

/-- When a request obtains the lock, nobody probes. -/
theorem Sound.idle_of_obtains (sound : registry.Sound)
    (found : registry.request? request.id = some request) (turn : registry.Obtains request) :
    ∀ number purpose check, ¬ registry.Probes number purpose check := by
  rcases turn with ⟨-, free⟩ | ⟨inLine, holds⟩
  · intro number purpose check probes
    have lock := (sound.exclusive _ _ _ probes).1
    rw [free] at lock
    cases lock
  · exact sound.idle_of_holder found holds (by simp [inLine])

/-- When nobody probes, nobody listens. -/
theorem Sound.unheard (sound : registry.Sound)
    (idle : ∀ number purpose check, ¬ registry.Probes number purpose check)
    {id : ConnectionId} {connection : Connection}
    (found : registry.pool.get? id = some connection) : connection.subscribers = [] := by
  apply List.eq_nil_iff_forall_not_mem.mpr
  intro entry listens
  obtain ⟨purpose, check, probes, -⟩ := sound.subscribed id connection entry found listens
  exact idle _ purpose check probes

/-- When nobody probes, no mail waits. -/
theorem Sound.no_mail (sound : registry.Sound)
    (idle : ∀ number purpose check, ¬ registry.Probes number purpose check) :
    registry.mail = [] := by
  apply List.eq_nil_iff_forall_not_mem.mpr
  intro delivery member
  obtain ⟨purpose, check, probes⟩ := sound.delivered delivery member
  exact idle _ purpose check probes

/-! ## Actions from outside -/

/-- A request found after an action from outside was there before, or has just been made. -/
theorem request?_outside (outside : occurrence.action.IsOutside) (number : RequestId) :
    (registry.act occurrence).request? number =
      (registry.request? number).or
        ((registry.made occurrence.action).find? fun request => request.id == number) := by
  simp only [request?, requests_outside outside, List.find?_append]

/-- A request that has just been made has not been looked at. -/
theorem asked_of_made {action : Action} (isMade : request ∈ registry.made action) :
    request.id = registry.requests.length ∧ request.stage = .asked := by
  unfold made at isMade
  split at isMade
  · obtain rfl := List.mem_singleton.mp isMade
    exact ⟨rfl, rfl⟩
  · exact absurd isMade List.not_mem_nil

/-- Actions from outside neither start nor end a probe. A request that is made from outside begins
in its first stage, and the others keep theirs. -/
theorem probes_outside (outside : occurrence.action.IsOutside) {number : RequestId}
    {purpose : ProbePurpose} {check : AliveCheck} :
    (registry.act occurrence).Probes number purpose check ↔
      registry.Probes number purpose check := by
  constructor
  · rintro ⟨request, found, stage⟩
    rw [request?_outside outside] at found
    rcases Option.or_eq_some_iff.mp found with earlier | ⟨-, new⟩
    · exact ⟨request, earlier, stage⟩
    · have asked := (asked_of_made (List.mem_of_find?_eq_some new)).2
      rw [asked] at stage
      cases stage
  · rintro ⟨request, found, stage⟩
    refine ⟨request, ?_, stage⟩
    rw [request?_outside outside, found]
    rfl

/-- A connection stays consistent whatever touches it. -/
theorem consistent_touched (event : Option Connection.Event) {connection : Connection}
    (consistent : connection.Consistent) : (connection.touched now event).Consistent := by
  cases event with
  | none => exact consistent
  | some event => exact Connection.consistent_next now event consistent

/-- Being touched from outside brings a connection no subscriber. -/
theorem mem_subscribers_touched {id : ConnectionId} {connection : Connection}
    (consistent : connection.Consistent) {entry : Subscriber}
    (listens : entry ∈
      (connection.touched occurrence.moment (registry.touch id occurrence.action)).subscribers) :
    entry ∈ connection.subscribers := by
  by_cases closed : (connection.touched occurrence.moment
      (registry.touch id occurrence.action)).phase = .closed
  · rw [(consistent_touched _ consistent).subscribers closed] at listens
    exact absurd listens List.not_mem_nil
  · exact (open_of_touched closed).2.2 ▸ listens

/-- Every connection remains consistent under actions from outside. -/
theorem consistent_outside (outside : occurrence.action.IsOutside)
    (consistent : registry.pool.Consistent) : (registry.act occurrence).pool.Consistent := by
  intro id connection found
  rcases (quiet_of_outside outside).found found with ⟨before, earlier, rfl⟩ | ⟨timings, rfl⟩
  · exact consistent_touched _ (consistent id before earlier)
  · exact Connection.consistent_new id timings

/-- A report that an action delivers goes to someone who listens to the connection. Only a sign of
life delivers reports, one for each who listens at that moment. -/
theorem listens_of_reported {action : Action} {delivery : Delivery}
    (reports : delivery ∈ registry.reported action) :
    ∃ id source connection entry, action = .event (.aliveResponse id source) ∧
      registry.pool.get? id = some connection ∧ entry ∈ connection.subscribers ∧
      delivery = ⟨entry.mailbox, connection.reportOf source⟩ := by
  unfold reported at reports
  split at reports
  · rename_i id source
    rw [Pool.aliveResponse_value] at reports
    cases found : registry.pool.get? id with
    | none =>
      rw [found] at reports
      exact absurd reports List.not_mem_nil
    | some connection =>
      rw [found] at reports
      obtain ⟨entry, listens, rfl⟩ := List.mem_map.mp reports
      exact ⟨id, source, connection, entry, rfl, found, listens, rfl⟩
  · exact absurd reports List.not_mem_nil

/-- Actions from outside keep a registry sound. Such an action touches connections one by one. What
it reports goes to those who listen, and these were subscribed by the probe. -/
theorem sound_outside (outside : occurrence.action.IsOutside) (sound : registry.Sound) :
    (registry.act occurrence).Sound where
  numbered id request found := by
    rw [request?_outside outside] at found
    rw [requests_outside outside, List.length_append]
    rcases Option.or_eq_some_iff.mp found with earlier | ⟨-, new⟩
    · exact Nat.lt_add_right _ (sound.numbered id request earlier)
    · have isMade := List.mem_of_find?_eq_some new
      have number : request.id = id := by simpa using List.find?_some new
      have next := (asked_of_made isMade).1
      rw [← number, next]
      exact Nat.lt_add_of_pos_right (List.length_pos_of_mem isMade)
  consistent := consistent_outside outside sound.consistent
  ascending := ascending_outside outside sound.ascending
  exclusive number purpose check probes := by
    rw [(lock_outside outside).1]
    exact sound.exclusive number purpose check ((probes_outside outside).mp probes)
  subscribed id connection entry found listens := by
    rcases (quiet_of_outside outside).found found with ⟨before, earlier, rfl⟩ | ⟨timings, rfl⟩
    · have already := mem_subscribers_touched (sound.consistent id before earlier) listens
      obtain ⟨purpose, check, probes, recorded⟩ :=
        sound.subscribed id before entry earlier already
      exact ⟨purpose, check, (probes_outside outside).mpr probes, recorded⟩
    · exact absurd listens List.not_mem_nil
  delivered delivery member := by
    rw [mail_outside outside] at member
    rcases List.mem_append.mp member with old | new
    · obtain ⟨purpose, check, probes⟩ := sound.delivered delivery old
      exact ⟨purpose, check, (probes_outside outside).mpr probes⟩
    · obtain ⟨id, source, connection, entry, -, found, listens, rfl⟩ := listens_of_reported new
      obtain ⟨purpose, check, probes, -⟩ := sound.subscribed id connection entry found listens
      exact ⟨purpose, check, (probes_outside outside).mpr probes⟩

/-! ## Moves -/

/-- A registry in which nobody probes, listens or waits for mail, and that is in order
otherwise, is sound. -/
theorem sound_of_idle
    (numbered : ∀ id request, registry.request? id = some request →
      id < registry.requests.length)
    (consistent : registry.pool.Consistent) (ascending : registry.table.Pairwise (· < ·))
    (idle : ∀ number purpose check, ¬ registry.Probes number purpose check)
    (unheard : ∀ id connection, registry.pool.get? id = some connection →
      connection.subscribers = [])
    (empty : registry.mail = []) : registry.Sound where
  numbered := numbered
  consistent := consistent
  ascending := ascending
  exclusive number purpose check probes := absurd probes (idle number purpose check)
  subscribed id connection entry found listens := by
    rw [unheard id connection found] at listens
    exact absurd listens List.not_mem_nil
  delivered delivery member := by
    rw [empty] at member
    exact absurd member List.not_mem_nil

/-- Moves make no requests. They set the stage of the one they are for; requests come from
outside. -/
theorem Move.length_requests (move : Move now request registry next) :
    next.requests.length = registry.requests.length := by
  cases move with
  | rests still => rfl
  | answersAtOnce asked known => exact List.length_map _
  | goesInLine asked unknown taken => exact List.length_map _
  | answersInTurn inLine holds known =>
    rw [release_value]
    exact List.length_map _
  | arbitrates arbitration =>
    cases arbitration with
    | grants turn unknown course =>
      rw [concluded_value]
      exact List.length_map _
    | probes turn unknown course => exact List.length_map _
    | concludes waited ends =>
      rw [concluded_value]
      exact List.length_map _

/-- Moves find no request that was not there before. -/
theorem Move.numbered (move : Move now request registry next)
    (found : registry.request? request.id = some request)
    (numbered : ∀ id request, registry.request? id = some request →
      id < registry.requests.length) :
    ∀ id request, next.request? id = some request → id < next.requests.length := by
  intro id other foundNext
  rw [move.length_requests]
  by_cases own : id = request.id
  · exact own ▸ numbered request.id request found
  · rw [move.request?_other own] at foundNext
    exact numbered id other foundNext

/-- A request whose stage has been set is found at that stage. -/
theorem stage_of_set {stage : RequestStage} {later : Request}
    (set : next.request? request.id = (registry.request? request.id).map fun found =>
      if request.id = request.id then { found with stage := stage } else found)
    (foundNext : next.request? request.id = some later) : later.stage = stage := by
  rw [set] at foundNext
  obtain ⟨before, -, rfl⟩ := Option.map_eq_some_iff.mp foundNext
  simp

/-- A request whose stage has been set to something else does not probe. -/
theorem unprobing_of_stage {stage : RequestStage}
    (set : next.request? request.id = (registry.request? request.id).map fun found =>
      if request.id = request.id then { found with stage := stage } else found)
    (other : ∀ purpose check, stage ≠ .probing purpose check) :
    ∀ found purpose check, next.request? request.id = some found →
      found.stage ≠ .probing purpose check := by
  intro found purpose check foundNext
  rw [stage_of_set set foundNext]
  exact other purpose check

/-- If a move leaves its own request without a probe, whoever probes afterwards is another
request that has probed before. -/
theorem Move.probes_of_other (move : Move now request registry next)
    (own : ∀ found purpose check, next.request? request.id = some found →
      found.stage ≠ .probing purpose check)
    {number : RequestId} {purpose : ProbePurpose} {check : AliveCheck}
    (probes : next.Probes number purpose check) :
    number ≠ request.id ∧ registry.Probes number purpose check := by
  obtain ⟨found, foundNext, stage⟩ := probes
  have other : number ≠ request.id := by
    rintro rfl
    exact own found purpose check foundNext stage
  rw [move.request?_other other] at foundNext
  exact ⟨other, found, foundNext, stage⟩

/-- A move that neither starts nor ends a probe and touches no connection keeps a registry
sound. -/
theorem Move.sound_of_aside (move : Move now request registry next) (sound : registry.Sound)
    (found : registry.request? request.id = some request) (asked : request.stage = .asked)
    (own : ∀ found purpose check, next.request? request.id = some found →
      found.stage ≠ .probing purpose check)
    (pool : next.pool = registry.pool) (mail : next.mail = registry.mail)
    (holder : next.lockHolder = registry.lockHolder) : next.Sound := by
  have kept : ∀ {number purpose check}, registry.Probes number purpose check →
      next.Probes number purpose check := by
    rintro number purpose check ⟨other, otherFound, stage⟩
    have different : number ≠ request.id := by
      rintro rfl
      obtain rfl : request = other := Option.some.inj (found.symm.trans otherFound)
      rw [asked] at stage
      cases stage
    exact ⟨other, (move.request?_other different).trans otherFound, stage⟩
  refine ⟨move.numbered found sound.numbered, pool ▸ sound.consistent, ?_, ?_, ?_, ?_⟩
  · rw [move.frame.1]
    exact sound.ascending
  · intro number purpose check probes
    rw [holder]
    exact sound.exclusive number purpose check (move.probes_of_other own probes).2
  · intro id connection entry foundNext listens
    rw [pool] at foundNext
    obtain ⟨purpose, check, probes, recorded⟩ :=
      sound.subscribed id connection entry foundNext listens
    exact ⟨purpose, check, kept probes, recorded⟩
  · intro delivery member
    rw [mail] at member
    obtain ⟨purpose, check, probes⟩ := sound.delivered delivery member
    exact ⟨purpose, check, kept probes⟩

/-- A move that leaves nobody probing keeps a registry sound if it leaves nobody listening and
no mail behind. -/
theorem Move.sound_of_idle (move : Move now request registry next) (sound : registry.Sound)
    (found : registry.request? request.id = some request)
    (idle : ∀ number purpose check, ¬ next.Probes number purpose check)
    (consistent : next.pool.Consistent)
    (unheard : ∀ id connection, next.pool.get? id = some connection →
      connection.subscribers = [])
    (empty : next.mail = []) : next.Sound := by
  refine Registry.sound_of_idle (move.numbered found sound.numbered) consistent ?_ idle unheard
    empty
  rw [move.frame.1]
  exact sound.ascending

/-- When a probe has ended, nobody listens any more. What is sound about the subscribers is that
each of them belongs to a probe under way. -/
theorem Sound.unheard_probed (sound : registry.Sound) {purpose : ProbePurpose}
    {check : AliveCheck} {number : RequestId} (probes : registry.Probes number purpose check)
    {id : ConnectionId} {connection : Connection}
    (found : (registry.probed check).pool.get? id = some connection) :
    connection.subscribers = [] := by
  rw [get?_probed] at found
  obtain ⟨before, earlier, rfl⟩ := Option.map_eq_some_iff.mp found
  apply List.eq_nil_iff_forall_not_mem.mpr
  intro entry listens
  -- every subscriber was recorded by this probe, so none survives its end
  obtain ⟨heard, unrecorded⟩ :=
    AliveCheck.mem_subscribers_left (sound.consistent id before earlier) listens
  obtain ⟨otherPurpose, otherCheck, otherProbes, recorded⟩ :=
    sound.subscribed id before entry earlier heard
  obtain ⟨-, -, rfl⟩ := sound.probes_unique probes otherProbes
  exact unrecorded recorded

/-- When a probe has ended, its mailbox was the only one. -/
theorem Sound.no_mail_probed (sound : registry.Sound) {purpose : ProbePurpose}
    {check : AliveCheck} {number : RequestId} (probes : registry.Probes number purpose check) :
    (registry.probed check).mail = [] := by
  apply List.filter_eq_nil_iff.mpr
  intro delivery member
  obtain ⟨otherPurpose, otherCheck, otherProbes⟩ := sound.delivered delivery member
  obtain ⟨rfl, -, rfl⟩ := sound.probes_unique probes otherProbes
  simp [(sound.exclusive _ _ _ probes).2]

/-- The connections that a probe has asked stay consistent. -/
theorem Sound.consistent_probed (sound : registry.Sound) (check : AliveCheck) :
    (registry.probed check).pool.Consistent := by
  intro id connection found
  rw [get?_probed] at found
  obtain ⟨before, earlier, rfl⟩ := Option.map_eq_some_iff.mp found
  exact AliveCheck.consistent_left (sound.consistent id before earlier)

/-- A decision keeps the connections consistent. -/
theorem consistent_concluded (code : Wire.ActivationCode) (consistent : registry.pool.Consistent) :
    (registry.concluded now request code).pool.Consistent := by
  intro id connection found
  rw [get?_concluded] at found
  obtain ⟨before, earlier, rfl⟩ := Option.map_eq_some_iff.mp found
  exact consistent_settled (consistent id before earlier)

/-- Whoever listens to a connection after a decision has listened before. -/
theorem unheard_concluded {code : Wire.ActivationCode}
    (unheard : ∀ id connection, registry.pool.get? id = some connection →
      connection.subscribers = [])
    {id : ConnectionId} {connection : Connection}
    (found : (registry.concluded now request code).pool.get? id = some connection) :
    connection.subscribers = [] := by
  rw [get?_concluded] at found
  obtain ⟨before, earlier, rfl⟩ := Option.map_eq_some_iff.mp found
  rw [subscribers_settled]
  exact unheard id before earlier

/-- The check of a probe that has just been started. -/
def startedCheck (now : Milliseconds) (request : Request) (targets : List ConnectionId)
    (registry : Registry) : AliveCheck :=
  ⟨targets, (AliveCheck.askTargets request.id targets registry.pool).value.2, request.id,
    now + AliveCheck.window⟩

/-- Whoever probes when a probe has just been started has started it, if nobody probed before. The
others keep their stages, and none of these is that of a probe. -/
theorem probes_probing_iff {purpose : ProbePurpose} {targets : List ConnectionId}
    (found : registry.request? request.id = some request)
    (idle : ∀ number purpose check, ¬ registry.Probes number purpose check)
    {number : RequestId} {otherPurpose : ProbePurpose} {check : AliveCheck} :
    (registry.probing now request purpose targets).Probes number otherPurpose check ↔
      number = request.id ∧ otherPurpose = purpose ∧
        check = registry.startedCheck now request targets := by
  constructor
  · rintro ⟨other, foundNext, stage⟩
    rw [request?_probing] at foundNext
    obtain ⟨before, earlier, rfl⟩ := Option.map_eq_some_iff.mp foundNext
    by_cases own : number = request.id
    · simp only [if_pos own] at stage
      obtain ⟨rfl, rfl⟩ := RequestStage.probing.inj stage
      exact ⟨own, rfl, rfl⟩
    · rw [if_neg own] at stage
      exact absurd ⟨before, earlier, stage⟩ (idle number otherPurpose check)
  · rintro ⟨rfl, rfl, rfl⟩
    refine ⟨_, (request?_probing ..).trans (by rw [found, Option.map_some, if_pos rfl]), rfl⟩

/-- Starting a probe while nobody probes keeps a registry sound. The probe has the lock, and its
subscriptions are exactly the listeners there are, as there were none before. -/
theorem Move.sound_of_probing {purpose : ProbePurpose} {targets : List ConnectionId}
    (move : Move now request registry (registry.probing now request purpose targets))
    (sound : registry.Sound) (found : registry.request? request.id = some request)
    (idle : ∀ number purpose check, ¬ registry.Probes number purpose check) :
    (registry.probing now request purpose targets).Sound where
  numbered := move.numbered found sound.numbered
  consistent id connection foundNext := by
    rw [get?_probing] at foundNext
    obtain ⟨before, earlier, rfl⟩ := Option.map_eq_some_iff.mp foundNext
    exact Connection.consistent_askedAmong (sound.consistent id before earlier)
  ascending := sound.ascending
  exclusive number otherPurpose check probes := by
    obtain ⟨rfl, -, rfl⟩ := (probes_probing_iff found idle).mp probes
    exact ⟨rfl, rfl⟩
  subscribed id connection entry foundNext listens := by
    obtain ⟨before, earlier, -⟩ :=
      Option.map_eq_some_iff.mp ((get?_probing ..).symm.trans foundNext)
    rcases AliveCheck.subscribers_askTargets request.id earlier foundNext listens with
      old | ⟨own, recorded⟩
    · rw [sound.unheard idle earlier] at old
      exact absurd old List.not_mem_nil
    · exact ⟨purpose, _, (probes_probing_iff found idle).mpr ⟨own, rfl, rfl⟩, recorded⟩
  delivered delivery member := by
    have empty : (registry.probing now request purpose targets).mail = [] := sound.no_mail idle
    rw [empty] at member
    exact absurd member List.not_mem_nil

/-- Moves keep a registry sound. Four moves leave the connections as they are, two decide and leave,
and one starts a probe; each group has its lemma. -/
theorem Move.sound (move : Move now request registry next) (sound : registry.Sound)
    (found : registry.request? request.id = some request) : next.Sound := by
  cases move with
  | rests still => exact sound
  | answersAtOnce asked known =>
    exact Move.sound_of_aside (.answersAtOnce asked known) sound found asked
      (unprobing_of_stage (request?_answer ..) (by simp)) rfl rfl rfl
  | goesInLine asked unknown taken =>
    have queued : Move now request registry _ := .goesInLine asked unknown taken
    exact queued.sound_of_aside sound found asked
      (unprobing_of_stage (request?_setStage ..) (by simp)) rfl rfl rfl
  | answersInTurn inLine holds known =>
    have idle := sound.idle_of_holder found holds (by simp [inLine])
    have answered : Move now request registry _ := .answersInTurn inLine holds known
    refine answered.sound_of_idle sound found ?_ ?_ ?_ ?_
    · intro number purpose check probes
      exact idle _ _ _ (answered.probes_of_other (unprobing_of_stage
        ((request?_release ..).trans (request?_answer ..)) (by simp)) probes).2
    · rw [release_value]
      exact sound.consistent
    · rw [release_value]
      exact fun id connection => sound.unheard idle
    · rw [release_value]
      exact sound.no_mail idle
  | arbitrates arbitration =>
    cases arbitration with
    | grants turn unknown course =>
      have idle := sound.idle_of_obtains found turn
      have granted : Move now request registry _ := .arbitrates (.grants turn unknown course)
      refine granted.sound_of_idle sound found ?_ ?_ ?_ ?_
      · intro number purpose check probes
        exact idle _ _ _ (granted.probes_of_other (unprobing_of_stage
          (request?_concluded ..) (by simp)) probes).2
      · exact consistent_concluded .success sound.consistent
      · intro id connection foundNext
        exact unheard_concluded (fun id connection => sound.unheard idle) foundNext
      · rw [concluded_value]
        exact sound.no_mail idle
    | probes turn unknown course =>
      have idle := sound.idle_of_obtains found turn
      exact (Move.arbitrates (.probes turn unknown course)).sound_of_probing sound found idle
    | concludes waited ends =>
      have probes : registry.Probes request.id _ _ := ⟨request, found, waited⟩
      have ended : Move now request registry _ := .arbitrates (.concludes waited ends)
      refine ended.sound_of_idle sound found ?_ ?_ ?_ ?_
      · intro number purpose check alsoProbes
        obtain ⟨other, earlier⟩ := ended.probes_of_other (unprobing_of_stage
          (request?_concluded ..) (by simp)) alsoProbes
        exact other (sound.probes_unique earlier probes).1
      · exact consistent_concluded _ (sound.consistent_probed _)
      · intro id connection foundNext
        exact unheard_concluded (fun id connection => sound.unheard_probed probes) foundNext
      · rw [concluded_value]
        exact sound.no_mail_probed probes

/-- Every occurrence keeps a registry sound. -/
theorem sound_act (occurrence : Occurrence) (sound : registry.Sound) :
    (registry.act occurrence).Sound := by
  rcases act_cases registry occurrence with outside | ⟨id, -, ⟨-, same⟩ | ⟨request, found, move⟩⟩
  · exact sound_outside outside sound
  · rw [same]
    exact sound
  · obtain rfl := id_of_request? found
    exact move.sound sound found

/-- Every history leads to a sound registry. -/
theorem sound_after (limit : Nat) (history : History) : (after limit history).Sound := by
  induction history using List.reverseRecOn with
  | nil => exact sound_new limit
  | append_singleton history occurrence inductionHypothesis =>
    rw [after_concat]
    exact sound_act occurrence inductionHypothesis

/-- The limit never changes. The induction is on the history, and each kind of occurrence
keeps it. -/
theorem limit_after (limit : Nat) (history : History) : (after limit history).limit = limit := by
  induction history using List.reverseRecOn with
  | nil => rfl
  | append_singleton history occurrence inductionHypothesis =>
    rw [after_concat]
    refine Eq.trans ?_ inductionHypothesis
    rcases act_cases (after limit history) occurrence with
      outside | ⟨id, -, ⟨-, same⟩ | ⟨request, -, move⟩⟩
    · exact (lock_outside outside).2.2
    · rw [same]
    · exact move.frame.2.1

end DiagnosticGateway.Registry
