import DiagnosticGateway.Proofs.Registry.Session

/-!
# Holders of addresses in orderly histories

A connection holds an address when the table lists it and it is registered. In an orderly
history nobody comes to hold an address unless a request is granted it: what has been added is
in the table until it is removed or closed, so adding it again brings nothing new. In
particular, while a probe waits, the holders can only become fewer.
-/

namespace DiagnosticGateway.Registry

/-- The connection is in the table and registered with the address. -/
def Holds (id : ConnectionId) (source : UInt16) (registry : Registry) : Prop :=
  id ∈ registry.table ∧ registry.pool.sourceAddress id = some source

/-- Where the connections of an orderly history are. -/
structure Placed (history : History) (registry : Registry) : Prop where
  registered : ∀ id source, registry.pool.sourceAddress id = some source → Added id history
  asked : ∀ number request, registry.request? number = some request →
    Added request.connection history
  added : ∀ id, Added id history → ∃ connection, registry.pool.get? id = some connection ∧
    (id ∈ registry.table ∨ connection.phase = .closed ∨ Removed id history)

variable {registry next : Registry} {occurrence look : Occurrence} {request : Request}
  {purpose : ProbePurpose} {check : AliveCheck} {limit : Nat} {history past window : History}
  {number : RequestId} {id : ConnectionId} {source : UInt16}

/-- A request found after an occurrence was there before, or has just been made. In either case it
is a request of that same connection. -/
theorem request?_of_act (found : (registry.act occurrence).request? number = some request) :
    (∃ before, registry.request? number = some before ∧
        before.connection = request.connection) ∨
      ∃ source, occurrence.action = .event (.request request.connection source) := by
  rcases act_cases registry occurrence with outside | ⟨id, -, ⟨-, same⟩ | ⟨mover, earlier, move⟩⟩
  · rw [request?_outside outside] at found
    rcases Option.or_eq_some_iff.mp found with earlier | ⟨-, new⟩
    · exact Or.inl ⟨request, earlier, rfl⟩
    · have isMade := List.mem_of_find?_eq_some new
      unfold made at isMade
      split at isMade
      · rename_i connection source asks
        obtain rfl := List.mem_singleton.mp isMade
        exact Or.inr ⟨source, asks⟩
      · exact absurd isMade List.not_mem_nil
  · rw [same] at found
    exact Or.inl ⟨request, found, rfl⟩
  · obtain rfl := id_of_request? earlier
    by_cases own : number = mover.id
    · subst own
      obtain ⟨stage, foundNext⟩ := move.request?_self earlier
      obtain rfl := Option.some.inj (foundNext.symm.trans found)
      exact Or.inl ⟨mover, earlier, rfl⟩
    · rw [move.request?_other own] at found
      exact Or.inl ⟨request, found, rfl⟩

/-- Whoever holds an address after an occurrence has been added. -/
theorem Placed.registered_act (placed : Placed history registry) (sound : registry.Sound)
    (held : (registry.act occurrence).pool.sourceAddress id = some source) :
    Added id history := by
  rcases quiet_or_arbitrates registry occurrence with quiet | ⟨request, -, found, arbitration⟩
  · exact placed.registered id source
      (quiet.sourceAddress (sound_act occurrence sound).consistent held)
  · rcases arbitration.sourceAddress sound.consistent held with before | ⟨rfl, -⟩
    · exact placed.registered id source before
    · exact placed.asked request.id request found

/-- Whatever has been added is in the table after an admissible occurrence, closed or removed. A
quiet occurrence can only remove or close it, and an arbitration leaves the table as it is. -/
theorem Placed.added_act (placed : Placed history registry)
    (admissible : Admissible history registry occurrence.action)
    (added : Added id (history ++ [occurrence])) :
    ∃ connection, (registry.act occurrence).pool.get? id = some connection ∧
      (id ∈ (registry.act occurrence).table ∨ connection.phase = .closed ∨
        Removed id (history ++ [occurrence])) := by
  rcases added_concat_iff.mp added with earlier | adds
  · obtain ⟨connection, found, place⟩ := placed.added id earlier
    obtain ⟨later, foundNext, closes⟩ := found_act occurrence found
    refine ⟨later, foundNext, ?_⟩
    rcases place with listed | closed | removed
    · rcases quiet_or_arbitrates registry occurrence with quiet | ⟨request, -, -, arbitration⟩
      · by_cases removes : occurrence.action = .event (.remove id)
        · exact Or.inr (Or.inr (removed_of_remove earlier removes))
        · by_cases stops : occurrence.action = .event .stopAll
          · -- the final stop empties the table, but it closes what was in there
            have touches : registry.touch id occurrence.action = some .stop := by
              rw [stops]
              exact if_pos listed
            rw [quiet.get?_of_some found, touches] at foundNext
            obtain rfl := Option.some.inj foundNext
            exact Or.inr (Or.inl (Connection.phase_stop connection))
          · exact Or.inl ((quiet.table id).mpr (Or.inr ⟨listed, removes, stops⟩))
      · rw [(Move.arbitrates arbitration).frame.1]
        exact Or.inl listed
    · exact Or.inr (Or.inl (closes closed))
    · exact Or.inr (Or.inr removed.concat)
  · have outside : occurrence.action.IsOutside := by
      rw [adds]
      trivial
    rw [adds] at admissible
    obtain ⟨connection, found⟩ := Option.isSome_iff_exists.mp admissible.1
    obtain ⟨later, foundNext, -⟩ := found_act occurrence found
    exact ⟨later, foundNext, Or.inl ((mem_table_outside outside).mpr (Or.inl adds))⟩

/-- Every connection of an orderly history is placed. The induction is on the history, whose
occurrences are all admissible. -/
theorem placed_of_orderly (orderly : Orderly limit history) :
    Placed history (after limit history) := by
  induction history using List.reverseRecOn with
  | nil =>
    refine ⟨?_, ?_, ?_⟩
    · intro id source held
      cases held
    · intro number request found
      cases found
    · rintro id ⟨occurrence, member, -⟩
      exact absurd member List.not_mem_nil
  | append_singleton history occurrence inductionHypothesis =>
    obtain ⟨before, admissible⟩ := throughout_concat.mp orderly
    have placed := inductionHypothesis before
    have sound := sound_after limit history
    rw [after_concat]
    refine ⟨?_, ?_, fun id added => placed.added_act admissible added⟩
    · intro id source held
      exact (placed.registered_act sound held).concat
    · intro number request found
      rcases request?_of_act found with ⟨earlier, foundBefore, same⟩ | ⟨source, asks⟩
      · exact same ▸ (placed.asked number earlier foundBefore).concat
      · rw [asks] at admissible
        exact Added.concat admissible

/-! ## Holders become fewer -/

/-- Whoever holds an address after a quiet, admissible occurrence has held it before. It could only
have come into the table now, and an admissible addition is one of a connection that was never
registered. -/
theorem Placed.holds_of_quiet (placed : Placed history registry) (sound : registry.Sound)
    (admissible : Admissible history registry occurrence.action)
    (quiet : registry.Quiet occurrence) (holds : (registry.act occurrence).Holds id source) :
    registry.Holds id source := by
  obtain ⟨listed, held⟩ := holds
  have heldBefore := quiet.sourceAddress (sound_act occurrence sound).consistent held
  refine ⟨?_, heldBefore⟩
  rcases (quiet.table id).mp listed with adds | ⟨listedBefore, -, -⟩
  · -- it was added earlier, and it is neither closed nor removed
    obtain ⟨connection, found, place⟩ := placed.added id (placed.registered id source heldBefore)
    rw [adds] at admissible
    rcases place with already | closed | removed
    · exact already
    · have isRegistered := (sound.consistent.isRegistered_iff id).mpr ⟨source, heldBefore⟩
      obtain ⟨same, alsoFound, registered⟩ := Pool.isRegistered_iff.mp isRegistered
      obtain rfl : connection = same := Option.some.inj (found.symm.trans alsoFound)
      rw [closed] at registered
      cases registered
    · exact absurd removed admissible.2
  · exact listedBefore

/-- Starting a probe makes no holder. -/
theorem holds_probing {now : Milliseconds} {targets : List ConnectionId} :
    (registry.probing now request purpose targets).Holds id source ↔ registry.Holds id source := by
  unfold Holds
  rw [sourceAddress_probing]
  rfl

/-- Whoever holds an address when a probe has ended has held it before and was not silent. -/
theorem holds_of_probed (consistent : registry.pool.Consistent)
    (holds : (registry.probed check).Holds id source) :
    registry.Holds id source ∧
      ¬ (id ∈ check.targets ∧
        AliveCheck.counting (registry.mail.reports check.mailbox) id = []) := by
  obtain ⟨kept, heard⟩ := sourceAddress_probed consistent holds.2
  exact ⟨⟨holds.1, kept⟩, heard⟩

/-- Whoever holds an address after a decision has held it before, unless it was granted. -/
theorem holds_of_concluded {now : Milliseconds} {code : Wire.ActivationCode}
    (holds : (registry.concluded now request code).Holds id source) :
    registry.Holds id source ∨
      code = .success ∧ id = request.connection ∧ source = request.source := by
  have listed : id ∈ registry.table := by
    have inTable := holds.1
    rw [concluded_value] at inTable
    exact inTable
  exact (sourceAddress_concluded holds.2).imp_left fun held => ⟨listed, held⟩

/-- Whoever holds an address while a probe waits has held it before the probe was started. The
induction is on the window, each occurrence of which is quiet; the probe itself registers nobody. -/
theorem Session.holds (session : Session limit past look window request purpose check)
    (orderly : Orderly limit (past ++ look :: window))
    (holds : (after limit (past ++ look :: window)).Holds id source) :
    (after limit past).Holds id source := by
  revert orderly holds
  refine session.induct (motive := fun window => Orderly limit (past ++ look :: window) →
    (after limit (past ++ look :: window)).Holds id source → (after limit past).Holds id source)
    ?_ ?_
  · intro _ holds
    rw [after_concat, session.began.act] at holds
    exact holds_probing.mp holds
  · intro earlier occurrence quiet inductionHypothesis orderly holds
    rw [← List.cons_append, ← List.append_assoc] at orderly holds
    obtain ⟨before, admissible⟩ := throughout_concat.mp orderly
    rw [after_concat] at holds
    exact inductionHypothesis before ((placed_of_orderly before).holds_of_quiet
      (sound_after limit _) admissible quiet holds)

/-- The search for another holder fails exactly if nobody else holds the address. The search goes
through the table, and holders are in the table. -/
theorem otherHolder_eq_none_iff {connection : ConnectionId} :
    registry.otherHolder connection source = none ↔
      ∀ id, registry.Holds id source → id = connection := by
  simp only [otherHolder, List.find?_eq_none, Bool.and_eq_true, bne_iff_ne, beq_iff_eq, not_and,
    Holds, and_imp]
  constructor
  · intro nobody id listed held
    by_contra other
    exact nobody id listed other held
  · intro alone id listed other held
    exact other (alone id listed held)

end DiagnosticGateway.Registry
