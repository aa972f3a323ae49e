import DiagnosticGateway.Proofs.Registry.Placement
import DiagnosticGateway.Proofs.Registry.Succession
import DiagnosticGateway.Proofs.Without.Registry

/-!
# What strangers do to a registry

Strangers that ask for nothing are overlooked: no request is theirs, so they are not registered, no
probe asks them, and nobody listens to what they answer. Whatever happens to a registry keeps this
up as long as no stranger asks. Then what happens to a stranger leaves no trace without the
strangers, and everything else happens as if they were not there.
-/

namespace DiagnosticGateway.Registry

/-- A registry overlooks strangers. So strangers have no part in arbitration. -/
structure Overlooks (strange : ConnectionId → Bool) (registry : Registry) : Prop where
  sound : registry.Sound
  unregistered : registry.pool.Unregistered strange
  asked : ∀ number request, registry.request? number = some request →
    strange request.connection = false
  /-- No probe concerns a stranger. -/
  probed : ∀ number purpose check, registry.Probes number purpose check →
    (∀ target ∈ check.targets, strange target = false) ∧
      (∀ entry ∈ check.subscriptions, strange entry.1 = false) ∧
      ∀ holder, purpose = .holder holder → strange holder = false
  /-- No mail comes from a stranger. -/
  reported : ∀ delivery ∈ registry.mail, strange delivery.report.connection = false

variable {strange : ConnectionId → Bool} {registry next : Registry} {occurrence : Occurrence}
  {request : Request} {id : ConnectionId} {now : Milliseconds}

/-- A new registry has no strangers to overlook. -/
theorem overlooks_new (limit : Nat) : (new limit).Overlooks strange where
  sound := sound_new limit
  unregistered _ _ := rfl
  asked number request found := by cases found
  probed number purpose check probes := by
    obtain ⟨request, found, -⟩ := probes
    cases found
  reported delivery member := absurd member List.not_mem_nil

/-- Nobody listens to a stranger. -/
theorem Overlooks.unheard (overlooks : registry.Overlooks strange) (stranger : strange id = true)
    {connection : Connection} (found : registry.pool.get? id = some connection) :
    connection.subscribers = [] := by
  apply List.eq_nil_iff_forall_not_mem.mpr
  intro entry listens
  obtain ⟨purpose, check, probes, recorded⟩ :=
    overlooks.sound.subscribed id connection entry found listens
  have known := (overlooks.probed _ purpose check probes).2.1 _ recorded
  rw [stranger] at known
  cases known

/-! ## Strangers stay overlooked -/

/-- Mail that is there after an occurrence was there before, or comes from somebody who is heard.
Whoever is heard was subscribed by a probe that waits, and those are never strangers. -/
theorem mail_act (sound : registry.Sound) {delivery : Delivery}
    (member : delivery ∈ (registry.act occurrence).mail) :
    delivery ∈ registry.mail ∨ ∃ purpose check entry,
      registry.Probes delivery.mailbox purpose check ∧ entry ∈ check.subscriptions ∧
        delivery.report.connection = entry.1 := by
  rcases quiet_or_arbitrates registry occurrence with quiet | ⟨request, -, -, arbitration⟩
  · rw [quiet.mail] at member
    refine (List.mem_append.mp member).imp id fun reports => ?_
    obtain ⟨id, source, connection, entry, -, found, listens, rfl⟩ := listens_of_reported reports
    obtain ⟨purpose, check, probes, recorded⟩ := sound.subscribed id connection entry found listens
    exact ⟨purpose, check, _, probes, recorded, Pool.id_of_get? found⟩
  · refine Or.inl ?_
    generalize registry.act occurrence = next at *
    cases arbitration with
    | grants turn unknown course =>
      rw [concluded_value] at member
      exact member
    | probes turn unknown course => exact member
    | concludes waited ends =>
      rw [concluded_value] at member
      exact List.mem_of_mem_filter member

/-- A probe that begins does not concern a stranger. Targets are registered connections, and a
stranger is not registered. -/
theorem Overlooks.began (overlooks : registry.Overlooks strange) {purpose : ProbePurpose}
    {check : AliveCheck} (began : registry.Began occurrence request purpose check) :
    (∀ target ∈ check.targets, strange target = false) ∧
      (∀ entry ∈ check.subscriptions, strange entry.1 = false) ∧
      ∀ holder, purpose = .holder holder → strange holder = false := by
  have targets : ∀ target ∈ check.targets, strange target = false := by
    intro target member
    obtain ⟨-, held, holds⟩ :=
      registered_of_course overlooks.sound.consistent began.course target member
    exact overlooks.unregistered.known holds
  refine ⟨targets, ?_, ?_⟩
  · intro entry recorded
    rw [began.started] at recorded
    exact targets entry.1 (AliveCheck.target_of_recorded request.id recorded)
  · rintro holder rfl
    obtain ⟨alone, -, -, -⟩ := holder_of_course began.course
    exact targets holder (by simp [alone])

/-- As long as no stranger asks, strangers stay overlooked. A stranger that does not ask is never
decided about, so it is never registered, never a target and never subscribed. -/
theorem Overlooks.act (overlooks : registry.Overlooks strange)
    (asks : ∀ connection source, occurrence.action = .event (.request connection source) →
      strange connection = false) : (registry.act occurrence).Overlooks strange where
  sound := sound_act occurrence overlooks.sound
  unregistered id stranger := by
    by_contra registered
    obtain ⟨source, held⟩ := Option.ne_none_iff_exists'.mp registered
    have known : strange id = false := by
      rcases quiet_or_arbitrates registry occurrence with quiet | ⟨request, -, found, arbitration⟩
      · exact overlooks.unregistered.known
          (quiet.sourceAddress (sound_act occurrence overlooks.sound).consistent held)
      · rcases arbitration.sourceAddress overlooks.sound.consistent held with before | ⟨rfl, -⟩
        · exact overlooks.unregistered.known before
        · exact overlooks.asked request.id request found
    rw [stranger] at known
    cases known
  asked number request found := by
    rcases request?_of_act found with ⟨before, earlier, same⟩ | ⟨source, made⟩
    · exact same ▸ overlooks.asked number before earlier
    · exact asks request.connection source made
  probed number purpose check probes := by
    rcases probes_act probes with before | ⟨request, -, began⟩
    · exact overlooks.probed number purpose check before
    · exact overlooks.began began
  reported delivery member := by
    rcases mail_act overlooks.sound member with before | ⟨purpose, check, entry, probes, recorded, same⟩
    · exact overlooks.reported delivery before
    · rw [same]
      exact (overlooks.probed _ purpose check probes).2.1 entry recorded

/-- Queues have no say in who is overlooked. A queue that is written or dropped registers nobody and
asks for nothing. -/
theorem Overlooks.update (overlooks : registry.Overlooks strange) (number : ConnectionId)
    (change : Connection → Connection)
    (queue : ∀ connection, change connection =
      { connection with
        receiving := (change connection).receiving
        outbound := (change connection).outbound }) :
    { registry with pool := registry.pool.update number change }.Overlooks strange where
  sound := overlooks.sound.update number change queue
  unregistered id stranger := by
    by_contra registered
    obtain ⟨source, held⟩ := Option.ne_none_iff_exists'.mp registered
    obtain ⟨later, found, address⟩ := Pool.sourceAddress_eq_some_iff.mp held
    obtain ⟨before, foundBefore, same, -⟩ := found_of_queued queue found
    rw [same] at address
    have known := overlooks.unregistered.known
      (Pool.sourceAddress_eq_some_iff.mpr ⟨before, foundBefore, address⟩)
    rw [stranger] at known
    cases known
  asked := overlooks.asked
  probed := overlooks.probed
  reported := overlooks.reported

/-! ## What is done under new numbers -/

/-- The connection that an action concerns. -/
def subject (registry : Registry) : Action → Option ConnectionId
  | .event (.openConnection _) => some registry.nextConnection
  | .event (.add connection) | .event (.start connection) | .event (.request connection _)
  | .event (.aliveResponse connection _) | .event (.dataReceived connection)
  | .event (.send connection _) | .event (.stop connection) | .event (.remove connection)
  | .task (.timer connection) => some connection
  | .event .stopAll | .task (.request _) => none

namespace Action

/-- The action on the connection under its new number. -/
def renumbered (strange : ConnectionId → Bool) : Action → Action
  | .event (.openConnection timings) => .event (.openConnection timings)
  | .event (.add connection) => .event (.add (place strange connection))
  | .event (.start connection) => .event (.start (place strange connection))
  | .event (.request connection source) => .event (.request (place strange connection) source)
  | .event (.aliveResponse connection source) =>
    .event (.aliveResponse (place strange connection) source)
  | .event (.dataReceived connection) => .event (.dataReceived (place strange connection))
  | .event (.send connection message) => .event (.send (place strange connection) message)
  | .event (.stop connection) => .event (.stop (place strange connection))
  | .event (.remove connection) => .event (.remove (place strange connection))
  | .event .stopAll => .event .stopAll
  | .task (.timer connection) => .task (.timer (place strange connection))
  | .task (.request id) => .task (.request id)

end Action

/-- The occurrence under new numbers. -/
def Occurrence.renumbered (strange : ConnectionId → Bool) (occurrence : Occurrence) : Occurrence :=
  ⟨occurrence.moment, occurrence.action.renumbered strange⟩

/-- Taking an unknown number out of the table changes nothing. -/
theorem remove_value (id : ConnectionId) (registry : Registry) :
    (registry.remove id).value =
      { registry with table := registry.table.filter fun other => other != id } := by
  unfold remove
  split
  · rfl
  · rename_i missing
    have kept : registry.table.filter (fun other => other != id) = registry.table := by
      refine List.filter_eq_self.mpr fun other member => ?_
      rw [bne_iff_ne]
      rintro rfl
      exact missing (List.contains_iff_mem.mpr member)
    rw [kept]
    rfl

/-- Nothing is seen of what happens to a stranger that does not ask. It may be opened, started,
stopped or removed, may speak and may be spoken to; all of this concerns its own place in the pool
and in the table. -/
theorem Overlooks.act_of_strange (overlooks : registry.Overlooks strange)
    (concerns : registry.subject occurrence.action = some id) (stranger : strange id = true)
    (asks : ∀ source, occurrence.action ≠ .event (.request id source)) :
    (registry.act occurrence).without strange = registry.without strange := by
  obtain ⟨now, action⟩ := occurrence
  have changed : ∀ {pool : Pool}, pool.without strange = registry.pool.without strange →
      { registry with pool := pool }.without strange = registry.without strange := by
    intro pool same
    rw [without, same]
    rfl
  cases action with
  | event event =>
    cases event with
    | openConnection timings =>
      obtain rfl := Option.some.inj concerns
      have pool := Pool.without_insert strange
        (.new registry.nextConnection timings) registry.pool
      rw [show (Connection.new registry.nextConnection timings).id = registry.nextConnection from
        rfl, if_pos stranger] at pool
      show (registry.openConnection timings).1.without strange = _
      simp only [openConnection, without, pool, place_succ, stranger, if_true, Nat.add_zero]
    | add connection =>
      obtain rfl := Option.some.inj concerns
      show { registry with table := insertAscending connection registry.table }.without strange = _
      rw [without, places_insert_of_strange stranger]
      rfl
    | start connection =>
      obtain rfl := Option.some.inj concerns
      exact changed (Pool.without_change_of_strange stranger (Connection.start now)
        (Connection.id_next now .start) registry.pool)
    | request connection source =>
      obtain rfl := Option.some.inj concerns
      exact absurd rfl (asks source)
    | aliveResponse connection source =>
      obtain rfl := Option.some.inj concerns
      have silent : (registry.pool.aliveResponse connection source).value = [] := by
        rw [Pool.aliveResponse_value]
        cases found : registry.pool.get? connection with
        | none => rfl
        | some heard => simp [overlooks.unheard stranger found]
      show { registry with
        mail := registry.mail ++ (registry.pool.aliveResponse connection source).value }.without
          strange = _
      rw [silent, List.append_nil]
    | dataReceived connection =>
      obtain rfl := Option.some.inj concerns
      exact changed (Pool.without_update_of_strange stranger (Connection.dataReceived now)
        (Connection.id_next now .dataReceived) registry.pool)
    | send connection message =>
      obtain rfl := Option.some.inj concerns
      exact changed (Pool.without_send_of_strange stranger message registry.pool)
    | stop connection =>
      obtain rfl := Option.some.inj concerns
      exact changed (Pool.without_stop_of_strange stranger registry.pool)
    | remove connection =>
      obtain rfl := Option.some.inj concerns
      show (registry.remove connection).value.without strange = _
      rw [remove_value, without, places_erase_of_strange _ stranger]
      rfl
    | stopAll => cases concerns
  | task task =>
    cases task with
    | timer connection =>
      obtain rfl := Option.some.inj concerns
      exact changed (Pool.without_expire_of_strange stranger registry.pool)
    | request number => cases concerns

/-! ## The steps of requests -/

/-- Whose turn it is at the lock does not depend on the strangers, who never ask for it. -/
theorem obtains_without (turn : registry.Obtains request) :
    (registry.without strange).Obtains (request.renumbered strange) := by
  rcases turn with ⟨asked, free⟩ | ⟨inLine, holds⟩
  · exact Or.inl ⟨congrArg (RequestStage.renumbered strange) asked, free⟩
  · exact Or.inr ⟨congrArg (RequestStage.renumbered strange) inLine, holds⟩

/-- A probe registers no stranger. -/
theorem Overlooks.unregistered_probed (overlooks : registry.Overlooks strange)
    (check : AliveCheck) : (registry.probed check).pool.Unregistered strange := by
  intro id stranger
  by_contra registered
  obtain ⟨source, held⟩ := Option.ne_none_iff_exists'.mp registered
  have before := (sourceAddress_probed overlooks.sound.consistent held).1
  rw [overlooks.unregistered id stranger] at before
  cases before

/-- A request makes the same move without the strangers. Each move is recognised in the image,
where the holder of the address, the count of the registered and the targets are the same up
to their places. -/
theorem Overlooks.move (overlooks : registry.Overlooks strange)
    (found : registry.request? request.id = some request)
    (move : Move now request registry next) :
    Move now (request.renumbered strange) (registry.without strange) (next.without strange) := by
  have unregistered := overlooks.unregistered
  have known := overlooks.asked request.id request found
  have address : (registry.without strange).pool.sourceAddress
      (request.renumbered strange).connection =
        registry.pool.sourceAddress request.connection :=
    Pool.sourceAddress_without known registry.pool
  have staged : ∀ {stage}, request.stage = stage →
      (request.renumbered strange).stage = stage.renumbered strange :=
    fun same => congrArg (RequestStage.renumbered strange) same
  have way : ∀ {course}, registry.course request.connection request.source = course →
      (registry.without strange).course (request.renumbered strange).connection
        (request.renumbered strange).source = course.renumbered strange := by
    rintro course rfl
    exact course_without unregistered overlooks.sound.consistent known request.source
  cases move with
  | rests still =>
    exact .rests ((canStep_without strange now request registry).trans still)
  | answersAtOnce asked held =>
    rw [← answer_without]
    exact .answersAtOnce (staged asked) (address.trans held)
  | goesInLine asked unknown taken =>
    rw [← setStage_without]
    exact .goesInLine (staged asked) (address.trans unknown) taken
  | answersInTurn inLine holds held =>
    rw [← release_without, ← answer_without]
    exact .answersInTurn (staged inLine) holds (address.trans held)
  | arbitrates arbitration =>
    refine .arbitrates ?_
    cases arbitration with
    | grants turn unknown course =>
      rw [← concluded_without known]
      exact .grants (obtains_without turn) (address.trans unknown) (way course)
    | @probes purpose targets turn unknown course =>
      have knownTargets : ∀ target ∈ targets, strange target = false := by
        intro target member
        obtain ⟨-, held, holds⟩ :=
          registered_of_course overlooks.sound.consistent course target member
        exact unregistered.known holds
      rw [← probing_without knownTargets]
      exact .probes (obtains_without turn) (address.trans unknown) (way course)
    | @concludes purpose check waited ends =>
      obtain ⟨targets, subscribed, holder⟩ :=
        overlooks.probed request.id purpose check ⟨request, found, waited⟩
      have probed := probed_without targets subscribed overlooks.reported
      have knownReports := Mail.known_of_reported overlooks.reported check.mailbox
      have responses := AliveCheck.responses_renumbered targets knownReports
      have knownResponses : ∀ entry ∈ AliveCheck.responses check.targets
          (registry.mail.reports check.mailbox), strange entry.1 = false := by
        intro entry member
        obtain ⟨target, listed, rfl⟩ := List.mem_map.mp member
        exact targets target (List.mem_eraseDups.mp listed)
      have verdict := verdict_without (overlooks.unregistered_probed check) known holder
        knownResponses
      rw [← concluded_without known, ← verdict, ← probed, ← responses, ← Mail.reports_renumbered]
      exact .concludes (staged waited) ends

/-- A request takes the same step without the strangers. -/
theorem Overlooks.advance (overlooks : registry.Overlooks strange) (now : Milliseconds)
    (number : RequestId) :
    ((registry.without strange).advance now number).value =
      (registry.advance now number).value.without strange := by
  unfold Registry.advance
  rw [request?_without]
  cases found : registry.request? number with
  | none => rfl
  | some request =>
    obtain rfl := id_of_request? found
    exact (overlooks.move found (stepRequest_move now request registry)).eq_step.symm

/-- Everything that concerns no stranger happens as if there were none. For outside actions this is
seen field by field; the step of a request is carried over as the move it makes. -/
theorem Overlooks.act_of_known (overlooks : registry.Overlooks strange)
    (known : ∀ id, registry.subject occurrence.action = some id → strange id = false) :
    (registry.without strange).act (occurrence.renumbered strange) =
      (registry.act occurrence).without strange := by
  obtain ⟨now, action⟩ := occurrence
  have changed : ∀ {pool image : Pool}, image = pool.without strange →
      { registry.without strange with pool := image } =
        { registry with pool := pool }.without strange := by
    rintro pool image rfl
    rfl
  cases action with
  | event event =>
    cases event with
    | openConnection timings =>
      have pool := Pool.without_insert strange
        (.new registry.nextConnection timings) registry.pool
      have knownNext := known registry.nextConnection rfl
      rw [show (Connection.new registry.nextConnection timings).id = registry.nextConnection from
        rfl, knownNext] at pool
      show ((registry.without strange).openConnection timings).1 =
        (registry.openConnection timings).1.without strange
      simp only [openConnection, without, pool, place_succ, knownNext]
      rfl
    | add connection =>
      have table := places_insert_of_known (known connection rfl) overlooks.sound.ascending
      exact congrArg (fun table => { registry.without strange with table := table }) table
    | start connection =>
      exact changed (Pool.without_change_of_known (known connection rfl) (Connection.start now)
        (Connection.id_next now .start) (Connection.next_renumbered now .start) registry.pool)
    | request connection source =>
      show ((registry.without strange).request (place strange connection) source).1 =
        (registry.request connection source).1.without strange
      simp only [request, without, List.map_append, List.length_map]
      rfl
    | aliveResponse connection source =>
      have heard := Pool.aliveResponse_without (known connection rfl) source registry.pool
      show { registry.without strange with mail := (registry.without strange).mail ++
          ((registry.without strange).pool.aliveResponse (place strange connection) source).value } =
        { registry with mail := registry.mail ++
          (registry.pool.aliveResponse connection source).value }.without strange
      simp only [without, heard, List.map_append]
    | dataReceived connection =>
      exact changed (Pool.without_update_of_known (known connection rfl)
        (Connection.dataReceived now) (Connection.id_next now .dataReceived)
        (Connection.next_renumbered now .dataReceived) registry.pool)
    | send connection message =>
      exact changed (Pool.without_send_of_known (known connection rfl) message registry.pool)
    | stop connection =>
      exact changed (Pool.without_stop_of_known (known connection rfl) registry.pool)
    | remove connection =>
      have table := places_erase_of_known registry.table (known connection rfl)
      show ((registry.without strange).remove (place strange connection)).value =
        (registry.remove connection).value.without strange
      rw [remove_value, remove_value]
      exact congrArg (fun table => { registry.without strange with table := table }) table
    | stopAll =>
      have pool := Pool.without_stopAll strange registry.table registry.pool
      exact congrArg (fun pool => { registry.without strange with
        stopping := true, table := [], pool := pool }) pool
  | task task =>
    cases task with
    | timer connection =>
      exact changed (Pool.without_expire_of_known (known connection rfl) registry.pool)
    | request number => exact overlooks.advance now number

end DiagnosticGateway.Registry
