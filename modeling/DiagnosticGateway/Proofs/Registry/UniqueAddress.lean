import DiagnosticGateway.Proofs.Registry.Placement

/-!
# No address has two holders

An address is looked up when a request obtains the lock, and it may be granted half a second
later without being looked up again. That is safe because the lock is kept in between: while a
probe waits nobody comes to hold an address, so an address that was free is still free when
the probe is judged. An address that was held is looked up again.
-/

namespace DiagnosticGateway.Registry

/-- No address has two holders. -/
def Unambiguous (registry : Registry) : Prop :=
  ∀ id other source, registry.Holds id source → registry.Holds other source → id = other

variable {registry : Registry} {occurrence look : Occurrence} {request : Request}
  {purpose : ProbePurpose} {check : AliveCheck} {limit : Nat} {history past window : History}
  {now : Milliseconds}

/-- A request is granted an address that nobody else holds, and only while there is room. Both were
looked at in the same step, so both hold when it is granted. -/
theorem alone_of_grant {connection : ConnectionId} {source : UInt16}
    (course : registry.course connection source = .grant) :
    (∀ id, registry.Holds id source → id = connection) ∧
      registry.registered.length < registry.limit := by
  unfold Registry.course at course
  split at course
  · cases course
  · rename_i free
    split at course
    · rename_i room
      exact ⟨otherHolder_eq_none_iff.mp free, room⟩
    · cases course

/-- When a probe leads to a success, nobody else holds the address any more. The former holder
was closed, or it has left while the probe was waiting; and nobody else could be registered
meanwhile. -/
theorem Session.alone_of_success
    (session : Session limit past look window request purpose check)
    (orderly : Orderly limit (past ++ look :: window)) {responses : AliveCheck.Responses}
    (success : ((after limit (past ++ look :: window)).probed check).verdict
      { request with stage := .probing purpose check } purpose responses = .success) :
    ∀ id, ((after limit (past ++ look :: window)).probed check).Holds id request.source →
      id = request.connection := by
  cases purpose with
  | capacity =>
    -- the address was free when the probe was started, and it has stayed free
    intro id holds
    have free := (capacity_of_course session.began.course).2.1
    have earlier := (holds_of_probed (sound_after limit _).consistent holds).1
    exact otherHolder_eq_none_iff.mp free id (session.holds orderly earlier)
  | holder holder =>
    apply otherHolder_eq_none_iff.mp
    unfold verdict at success
    dsimp only at success
    split at success
    · cases success
    · split at success
      · cases success
      · rename_i nobody
        exact Option.not_isSome_iff_eq_none.mp nobody

/-- A decision makes no address ambiguous if a success is granted to the only one who could
hold the address. -/
theorem unambiguous_concluded {code : Wire.ActivationCode} (before : registry.Unambiguous)
    (alone : code = .success → ∀ id, registry.Holds id request.source → id = request.connection) :
    (registry.concluded now request code).Unambiguous := by
  intro id other source holds otherHolds
  rcases holds_of_concluded holds with old | ⟨success, rfl, rfl⟩
  · rcases holds_of_concluded otherHolds with otherOld | ⟨success, rfl, rfl⟩
    · exact before id other source old otherOld
    · exact alone success id old
  · rcases holds_of_concluded otherHolds with otherOld | ⟨-, rfl, -⟩
    · exact (alone success other otherOld).symm
    · rfl

/-- In an orderly history no address ever has two holders. The induction is on the history. An
address is given at the lock only, where nobody else holds it. -/
theorem unambiguous_of_orderly (orderly : Orderly limit history) :
    (after limit history).Unambiguous := by
  induction history using List.reverseRecOn with
  | nil =>
    intro id other source holds
    exact absurd holds.1 List.not_mem_nil
  | append_singleton history occurrence inductionHypothesis =>
    obtain ⟨orderlyBefore, admissible⟩ := throughout_concat.mp orderly
    have before := inductionHypothesis orderlyBefore
    have sound := sound_after limit history
    rw [after_concat]
    rcases quiet_or_arbitrates (after limit history) occurrence with
      quiet | ⟨request, -, found, arbitration⟩
    · intro id other source holds otherHolds
      have placed := placed_of_orderly orderlyBefore
      exact before id other source (placed.holds_of_quiet sound admissible quiet holds)
        (placed.holds_of_quiet sound admissible quiet otherHolds)
    · generalize (after limit history).act occurrence = next at arbitration
      cases arbitration with
      | grants turn unknown course =>
        exact unambiguous_concluded before fun _ => (alone_of_grant course).1
      | probes turn unknown course =>
        intro id other source holds otherHolds
        exact before id other source (holds_probing.mp holds) (holds_probing.mp otherHolds)
      | concludes waited ends =>
        obtain ⟨past, look, window, begun, rfl, rfl, session⟩ := session_of_waiting found waited
        apply unambiguous_concluded
        · intro id other source holds otherHolds
          exact before id other source (holds_of_probed sound.consistent holds).1
            (holds_of_probed sound.consistent otherHolds).1
        · exact session.alone_of_success orderlyBefore

/-- In every state that an orderly history leads to, two connections of the table have different
addresses if they have any. The history may interleave any number of requests with responses,
data, stops, removals and expiring timers. -/
theorem sourceAddress_distinct (orderly : Orderly limit history) :
    ∀ id ∈ (after limit history).table, ∀ other ∈ (after limit history).table, id ≠ other →
      ∀ source, (after limit history).pool.sourceAddress id = some source →
        (after limit history).pool.sourceAddress other ≠ some source := by
  intro id listed other otherListed different source held otherHeld
  exact different (unambiguous_of_orderly orderly id other source ⟨listed, held⟩
    ⟨otherListed, otherHeld⟩)

/-- Two connections are served, and the second takes over the address of the first, which does
not answer when it is asked. -/
def handover : History :=
  [⟨0, .event (.openConnection ⟨2000, 300000⟩)⟩, ⟨0, .event (.add 1)⟩, ⟨0, .event (.start 1)⟩,
    ⟨10, .event (.request 1 0x0E00)⟩, ⟨10, .task (.request 0)⟩,
    ⟨20, .event (.openConnection ⟨2000, 300000⟩)⟩, ⟨20, .event (.add 2)⟩,
    ⟨20, .event (.start 2)⟩, ⟨30, .event (.request 2 0x0E00)⟩, ⟨30, .task (.request 1)⟩,
    ⟨530, .task (.request 1)⟩]

/-- After the handover both connections are listed, and only the second has the address. -/
theorem sourceAddress_distinct_handover :
    Orderly 2 handover ∧ 2 ∈ (after 2 handover).table ∧ 1 ∈ (after 2 handover).table ∧
      (after 2 handover).pool.sourceAddress 2 = some 0x0E00 ∧
      (after 2 handover).pool.sourceAddress 1 ≠ some 0x0E00 := by
  have orderly : Orderly 2 handover := by decide +kernel
  have listed : 2 ∈ (after 2 handover).table := by decide +kernel
  have alsoListed : 1 ∈ (after 2 handover).table := by decide +kernel
  have held : (after 2 handover).pool.sourceAddress 2 = some 0x0E00 := by decide +kernel
  exact ⟨orderly, listed, alsoListed, held,
    sourceAddress_distinct orderly 2 listed 1 alsoListed (by decide) 0x0E00 held⟩

end DiagnosticGateway.Registry
