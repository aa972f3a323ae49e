import DiagnosticGateway.Proofs.Registry.UniqueAddress

/-!
# The limit on registered connections

Three decisions register a connection, and each leaves room for it in its own way. A grant is
given only below the limit. A probe of everybody closes whoever does not answer, and succeeds
only if fewer than the limit have answered. A probe of the holder of an address does not look at
the limit at all: it succeeds only when the holder has given up its place. While a probe waits
the registered connections become fewer, so it does not matter what else happens meanwhile.
-/

namespace DiagnosticGateway.Registry

variable {registry next : Registry} {occurrence look : Occurrence} {request : Request}
  {purpose : ProbePurpose} {check : AliveCheck} {limit : Nat} {history past window : History}
  {now : Milliseconds} {id : ConnectionId}

/-- The registered connections of the table are the holders of addresses. -/
theorem mem_registered_iff (consistent : registry.pool.Consistent) :
    id ∈ registry.registered ↔ ∃ source, registry.Holds id source := by
  simp only [registered, List.mem_filter, consistent.isRegistered_iff, Holds, exists_and_left]

/-- No connection is counted twice. -/
theorem Sound.nodup_registered (sound : registry.Sound) : registry.registered.Nodup :=
  (sound.ascending.imp fun below => Nat.ne_of_lt below).filter _

/-- If every holder is among the given connections, no more than those are registered. -/
theorem Sound.length_registered_le (sound : registry.Sound) {among : List ConnectionId}
    (inside : ∀ id source, registry.Holds id source → id ∈ among) :
    registry.registered.length ≤ among.length := by
  apply sound.nodup_registered.length_le_of_subset
  intro id isRegistered
  obtain ⟨source, holds⟩ := (mem_registered_iff sound.consistent).mp isRegistered
  exact inside id source holds

/-- When a probe of everybody leads to a success, fewer than the limit are left: those who have
answered. -/
theorem Session.room_of_capacity
    (session : Session limit past look window request .capacity check)
    (orderly : Orderly limit (past ++ look :: window))
    (success : ((after limit (past ++ look :: window)).probed check).verdict
      { request with stage := .probing .capacity check } .capacity
      (AliveCheck.responses check.targets
        ((after limit (past ++ look :: window)).mail.reports check.mailbox)) = .success) :
    ∃ left : List ConnectionId, left.length < limit ∧ ∀ id source,
      ((after limit (past ++ look :: window)).probed check).Holds id source → id ∈ left := by
  have before := sound_after limit past
  obtain ⟨everybody, -, -⟩ := capacity_of_course session.began.course
  have distinct := nodup_of_course before.ascending session.began.course
  refine ⟨check.targets.filter fun target => AliveCheck.counting
    ((after limit (past ++ look :: window)).mail.reports check.mailbox) target ≠ [], ?_, ?_⟩
  · unfold verdict at success
    dsimp only at success
    split at success
    · cases success
    · rename_i room
      rw [AliveCheck.alive_responses distinct] at room
      have sameLimit : ((after limit (past ++ look :: window)).probed check).limit = limit :=
        limit_after limit _
      rw [sameLimit] at room
      exact Nat.lt_of_not_le room
  · intro id source holds
    obtain ⟨kept, heard⟩ := holds_of_probed (sound_after limit _).consistent holds
    have target : id ∈ check.targets := by
      rw [everybody]
      exact (mem_registered_iff before.consistent).mpr ⟨source, session.holds orderly kept⟩
    exact List.mem_filter.mpr ⟨target, by simpa using fun silent => heard ⟨target, silent⟩⟩

/-- When a probe of a holder leads to a success, the holder has given up its place. It was closed as
silent or has left the table, so there is one less than the limit had room for. -/
theorem Session.room_of_holder {holder : ConnectionId}
    (session : Session limit past look window request (.holder holder) check)
    (orderly : Orderly limit (past ++ look :: window))
    (within : (after limit past).registered.length ≤ limit)
    {responses : AliveCheck.Responses}
    (success : ((after limit (past ++ look :: window)).probed check).verdict
      { request with stage := .probing (.holder holder) check } (.holder holder) responses =
        .success) :
    ∃ left : List ConnectionId, left.length < limit ∧ ∀ id source,
      ((after limit (past ++ look :: window)).probed check).Holds id source → id ∈ left := by
  have before := sound_after limit past
  obtain ⟨-, listed, other, held⟩ := holder_of_course session.began.course
  have occupies : holder ∈ (after limit past).registered :=
    (mem_registered_iff before.consistent).mpr ⟨_, listed, held⟩
  refine ⟨(after limit past).registered.erase holder, ?_, ?_⟩
  · rw [List.length_erase_of_mem occupies]
    have inhabited := List.length_pos_of_mem occupies
    omega
  · intro id source holds
    have kept := (holds_of_probed (sound_after limit _).consistent holds).1
    have earlier := session.holds orderly kept
    have different : id ≠ holder := by
      rintro rfl
      -- the address of the holder has not changed, so somebody would still have it
      obtain rfl : request.source = source := Option.some.inj (held.symm.trans earlier.2)
      exact other (session.alone_of_success orderly success id holds)
    exact (List.mem_erase_of_ne different).mpr
      ((mem_registered_iff before.consistent).mpr ⟨source, earlier⟩)

/-- When a probe leads to a success, there is room for one connection. -/
theorem Session.room_of_success
    (session : Session limit past look window request purpose check)
    (orderly : Orderly limit (past ++ look :: window))
    (within : (after limit past).registered.length ≤ limit)
    (success : ((after limit (past ++ look :: window)).probed check).verdict
      { request with stage := .probing purpose check } purpose
      (AliveCheck.responses check.targets
        ((after limit (past ++ look :: window)).mail.reports check.mailbox)) = .success) :
    ∃ left : List ConnectionId, left.length < limit ∧ ∀ id source,
      ((after limit (past ++ look :: window)).probed check).Holds id source → id ∈ left := by
  cases purpose with
  | capacity => exact session.room_of_capacity orderly success
  | holder holder => exact session.room_of_holder orderly within success

/-- A success for which there is room stays within the limit. -/
theorem length_registered_concluded {code : Wire.ActivationCode} {left : List ConnectionId}
    (sound : (registry.concluded now request code).Sound) (room : left.length < limit)
    (inside : ∀ id source, registry.Holds id source → id ∈ left) :
    (registry.concluded now request code).registered.length ≤ limit := by
  have among : ∀ id source, (registry.concluded now request code).Holds id source →
      id ∈ request.connection :: left := by
    intro id source holds
    rcases holds_of_concluded holds with old | ⟨-, rfl, -⟩
    · exact List.mem_cons_of_mem _ (inside id source old)
    · exact List.mem_cons_self
  exact Nat.le_trans (sound.length_registered_le among) room

/-- One more occurrence stays within the limit if the whole past has kept to it. A quiet
occurrence registers nobody, a grant is given below the limit, and a probe that ends in a
success has found room. -/
theorem within_limit_act (orderly : Orderly limit (history ++ [occurrence]))
    (always : ∀ past, past <+: history → (after limit past).registered.length ≤ limit) :
    ((after limit history).act occurrence).registered.length ≤ limit := by
  obtain ⟨before, admissible⟩ := throughout_concat.mp orderly
  have sound := sound_after limit history
  have soundNext := sound_act occurrence sound
  have within := always history List.prefix_rfl
  have unchanged : (∀ id source, ((after limit history).act occurrence).Holds id source →
      (after limit history).Holds id source) →
        ((after limit history).act occurrence).registered.length ≤ limit := by
    intro fewer
    refine Nat.le_trans (soundNext.length_registered_le ?_) within
    intro id source holds
    exact (mem_registered_iff sound.consistent).mpr ⟨source, fewer id source holds⟩
  rcases quiet_or_arbitrates (after limit history) occurrence with
    quiet | ⟨request, -, found, arbitration⟩
  · apply unchanged
    intro id source holds
    exact (placed_of_orderly before).holds_of_quiet sound admissible quiet holds
  · generalize (after limit history).act occurrence = next at *
    cases arbitration with
    | grants turn unknown course =>
      have room := (alone_of_grant course).2
      rw [limit_after] at room
      apply length_registered_concluded soundNext room
      intro id source holds
      exact (mem_registered_iff sound.consistent).mpr ⟨source, holds⟩
    | probes turn unknown course =>
      apply unchanged
      intro id source holds
      exact holds_probing.mp holds
    | @concludes purpose check waited ends =>
      obtain ⟨past, look, window, begun, rfl, rfl, session⟩ := session_of_waiting found waited
      by_cases success : ((after limit (past ++ look :: window)).probed check).verdict
          { begun with stage := .probing purpose check } purpose
          (AliveCheck.responses check.targets
            ((after limit (past ++ look :: window)).mail.reports check.mailbox)) = .success
      · obtain ⟨left, room, inside⟩ := session.room_of_success before
          (always past (List.prefix_append ..)) success
        exact length_registered_concluded soundNext room inside
      · apply unchanged
        intro id source holds
        rcases holds_of_concluded holds with old | ⟨granted, -⟩
        · exact (holds_of_probed sound.consistent old).1
        · exact absurd granted success

/-- In every state that an orderly history leads to, no more connections are registered than the
registry was made for. -/
theorem length_registered_le_limit (orderly : Orderly limit history) :
    (after limit history).registered.length ≤ limit := by
  have always : ∀ past, past <+: history → (after limit past).registered.length ≤ limit := by
    induction history using List.reverseRecOn with
    | nil =>
      intro past front
      obtain rfl := List.prefix_nil.mp front
      exact Nat.zero_le _
    | append_singleton history occurrence inductionHypothesis =>
      have earlier := inductionHypothesis (throughout_concat.mp orderly).1
      intro past front
      rcases List.prefix_concat_iff.mp front with rfl | front
      · rw [after_concat]
        exact within_limit_act orderly earlier
      · exact earlier past front
  exact always history List.prefix_rfl

/-- With room for one connection only, the second takes the place of the first. -/
theorem length_registered_le_limit_handover :
    Orderly 1 handover ∧ (after 1 handover).registered = [2] ∧
      (after 1 handover).registered.length ≤ 1 := by
  have orderly : Orderly 1 handover := by decide +kernel
  exact ⟨orderly, by decide +kernel, length_registered_le_limit orderly⟩

end DiagnosticGateway.Registry
