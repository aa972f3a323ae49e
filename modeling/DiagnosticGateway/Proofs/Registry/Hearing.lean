import DiagnosticGateway.Proofs.Registry.Session

/-!
# What a probe hears of a target

While a probe waits, a target that is still open holds the address with which it was registered
at the start, and reports to the mailbox of the probe. So the counting reports in that mailbox
name this one address, and there are some exactly if a response with it has arrived while the
target was open. Nothing that happens on another connection makes a difference.
-/

namespace DiagnosticGateway.Registry

/-- What a waiting probe has to do with one target that was registered with its own address,
once a response has been heard from it or has not. -/
structure Hears (number : RequestId) (target : ConnectionId) (own : UInt16) (heard : Bool)
    (registry : Registry) : Prop where
  /-- An open target holds its address and reports to the probe. -/
  listens : ∃ connection, registry.pool.get? target = some connection ∧
    (connection.phase ≠ .closed → connection.sourceAddress = some own ∧
      ∃ entry ∈ connection.subscribers, entry.mailbox = number)
  /-- The reports that count name that address. -/
  counts : ∀ source,
    source ∈ AliveCheck.counting (registry.mail.reports number) target ↔
      source = own ∧ heard = true

variable {registry : Registry} {occurrence look : Occurrence} {request : Request}
  {purpose : ProbePurpose} {check : AliveCheck} {limit : Nat} {past window : History}
  {number : RequestId} {target : ConnectionId} {own source : UInt16} {heard : Bool}

/-- An address counts if a report in the mailbox names it and the target held it then. -/
theorem mem_counting {mail : Mail} :
    source ∈ AliveCheck.counting (mail.reports number) target ↔
      ∃ delivery ∈ mail, delivery.mailbox = number ∧ delivery.report.connection = target ∧
        delivery.report.registered = some source ∧ delivery.report.reported = source := by
  simp only [AliveCheck.counting, Mail.reports, List.mem_map, List.mem_filter, Bool.and_eq_true,
    beq_iff_eq, AliveReport.confirms]
  constructor
  · rintro ⟨_, ⟨⟨delivery, ⟨member, mailbox⟩, rfl⟩, connection, confirms⟩, rfl⟩
    exact ⟨delivery, member, mailbox, connection, confirms, rfl⟩
  · rintro ⟨delivery, member, mailbox, connection, confirms, rfl⟩
    exact ⟨delivery.report, ⟨⟨delivery, ⟨member, mailbox⟩, rfl⟩, connection, confirms⟩, rfl⟩

/-- One action adds a counting report of a target exactly if it is a response with the address
of the target, and the target is open. -/
theorem mem_counting_reported (hears : registry.Hears number target own heard)
    (consistent : registry.pool.Consistent) {action : Action} :
    source ∈ AliveCheck.counting ((registry.reported action).reports number) target ↔
      source = own ∧ action = .event (.aliveResponse target own) ∧
        registry.pool.isOpen target = true := by
  obtain ⟨connection, found, holds⟩ := hears.listens
  rw [mem_counting]
  constructor
  · rintro ⟨delivery, member, -, reporter, registered, reported⟩
    obtain ⟨id, named, other, entry, rfl, otherFound, listens, rfl⟩ := listens_of_reported member
    obtain rfl : id = target := (Pool.id_of_get? otherFound).symm.trans reporter
    obtain rfl : connection = other := Option.some.inj (found.symm.trans otherFound)
    have opened : connection.phase ≠ .closed := by
      intro closed
      rw [(consistent id connection found).subscribers closed] at listens
      exact List.not_mem_nil listens
    have held : some own = some source := (holds opened).1.symm.trans registered
    obtain rfl := Option.some.inj held
    obtain rfl : named = own := reported
    exact ⟨rfl, rfl, Pool.isOpen_iff.mpr ⟨connection, found, opened⟩⟩
  · rintro ⟨rfl, rfl, isOpen⟩
    obtain ⟨other, otherFound, opened⟩ := Pool.isOpen_iff.mp isOpen
    obtain rfl : connection = other := Option.some.inj (found.symm.trans otherFound)
    obtain ⟨held, entry, listens, mailbox⟩ := holds opened
    refine ⟨⟨entry.mailbox, connection.reportOf source⟩, ?_, mailbox, ?_, held, rfl⟩
    · simp only [reported, Pool.aliveResponse_value, found, Option.elim_some]
      exact List.mem_map.mpr ⟨entry, listens, rfl⟩
    · exact Pool.id_of_get? found

/-- While nothing is arbitrated, a response of the target is heard when it arrives and stays
heard. -/
theorem Hears.act (hears : registry.Hears number target own heard)
    (quiet : registry.Quiet occurrence) (consistent : registry.pool.Consistent) :
    (registry.act occurrence).Hears number target own
      (heard || (occurrence.action = .event (.aliveResponse target own) &&
        registry.pool.isOpen target)) where
  listens := by
    obtain ⟨connection, found, holds⟩ := hears.listens
    refine ⟨_, quiet.get?_of_some found, ?_⟩
    intro stillOpen
    obtain ⟨opened, address, subscribers⟩ := open_of_touched stillOpen
    rw [address, subscribers]
    exact holds opened
  counts source := by
    have reports : (registry.mail ++ registry.reported occurrence.action).reports number =
        registry.mail.reports number ++ (registry.reported occurrence.action).reports number := by
      simp [Mail.reports]
    have joined : ∀ earlier later : List AliveReport,
        AliveCheck.counting (earlier ++ later) target =
          AliveCheck.counting earlier target ++ AliveCheck.counting later target := by
      simp [AliveCheck.counting]
    rw [quiet.mail, reports, joined, List.mem_append, hears.counts,
      mem_counting_reported hears consistent, ← and_or_left]
    simp

/-- A probe has heard nothing when it has just been started, and all its targets report to it.
Nobody was subscribed before, since nobody probed; so what reports to it from now on has been
subscribed by it. -/
theorem hears_of_began (sound : registry.Sound)
    (began : registry.Began look request purpose check) (member : target ∈ check.targets)
    (held : registry.pool.sourceAddress target = some own) :
    (registry.act look).Hears request.id target own false := by
  have idle := sound.idle_of_obtains began.found began.turn
  have distinct := nodup_of_course sound.ascending began.course
  obtain ⟨connection, found, address⟩ := Pool.sourceAddress_eq_some_iff.mp held
  have registered : connection.phase = .registeredActive :=
    (sound.consistent target connection found).address.mp (by simp [address])
  have opened : connection.phase ≠ .closed := by simp [registered]
  rw [began.act]
  constructor
  · refine ⟨connection.asked request.id, ?_, ?_⟩
    · rw [get?_probing, found, Option.map_some, Connection.askedAmong_of_mem distinct member]
    · intro _
      rw [Connection.asked_of_open opened]
      exact ⟨address, _, List.mem_append_right _ List.mem_cons_self, rfl⟩
  · intro source
    have empty : (registry.probing look.moment request purpose check.targets).mail = [] :=
      sound.no_mail idle
    rw [empty, mem_counting]
    simp

/-- A waiting probe counts the own address of a target, and only if it was given as a response
while the target was open. -/
theorem Session.hears (session : Session limit past look window request purpose check)
    (member : target ∈ check.targets)
    (held : (after limit past).pool.sourceAddress target = some own) :
    (after limit (past ++ look :: window)).Hears request.id target own
      (responds target own window ((after limit past).act look)) := by
  induction window using List.reverseRecOn with
  | nil =>
    rw [after_concat]
    exact hears_of_began (sound_after limit past) session.began member held
  | append_singleton window occurrence inductionHypothesis =>
    have hears := inductionHypothesis session.front
    have reached : ((after limit past).act look).replay window =
        after limit (past ++ look :: window) := by
      rw [after_append, replay_cons]
    rw [responds_concat, reached, ← List.cons_append, ← List.append_assoc, after_concat]
    exact hears.act session.quiet (sound_after limit _).consistent

end DiagnosticGateway.Registry
