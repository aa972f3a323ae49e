import DiagnosticGateway.Proofs.Registry.Ruling

/-!
# A silent holder leaves its address free

When the probe of a holder is judged, the address is looked up once more before it is granted. In an
orderly history this search finds nobody: the holder was the only one with the address when it was
asked, nobody has come to hold it while the probe waited, and a holder that did not confirm it has
been closed. So a request is denied for the sake of a holder only if that holder has confirmed.
-/

namespace DiagnosticGateway.Registry

variable {registry : Registry} {request : Request} {check : AliveCheck} {limit : Nat}
  {history : History} {number : RequestId} {holder : ConnectionId}

/-- If the search for another holder finds nobody, judging a probe depends on the confirmation
alone, and what is logged does so, too. -/
theorem judge_holder (now : Milliseconds) (answers : AliveCheck.Responses)
    (vacant : answers.confirms holder request.source = false →
      registry.otherHolder request.connection request.source = none) :
    registry.judge now request (.holder holder) answers =
      if answers.confirms holder request.source then
        return (registry, .deniedSourceAddressActiveElsewhere)
      else registry.commit now request := by
  unfold judge
  dsimp only
  split
  · rfl
  · rename_i unconfirmed
    rw [vacant (Bool.eq_false_iff.mpr unconfirmed)]

/-- In an orderly history, whatever happens while a request waits for the probe of a holder and
whenever the probe ends: if the holder has not confirmed the address, no other connection of the
table holds it after the probe. So judging the probe comes to a denial only by the confirmation, and
never by finding the address still registered. -/
theorem vacant_after_silence (orderly : Orderly limit history)
    (found : (after limit history).request? number = some request)
    (waited : request.stage = .probing (.holder holder) check) (interrupted : Bool) :
    let before := after limit history
    let ended := (check.finish interrupted (before.mail.reports check.mailbox) before.pool).value
    let registry := { before with pool := ended.1, mail := before.mail.discard check.mailbox }
    (ended.2.confirms holder request.source = false →
      ∀ other ∈ registry.table, other ≠ request.connection →
        registry.pool.sourceAddress other ≠ some request.source) ∧
    ∀ now, registry.judge now request (.holder holder) ended.2 =
      if ended.2.confirms holder request.source then
        return (registry, .deniedSourceAddressActiveElsewhere)
      else registry.commit now request := by
  intro before ended registry
  have value : ended = (before.probed check |>.pool,
      AliveCheck.responses check.targets (before.mail.reports check.mailbox)) :=
    AliveCheck.finish_value interrupted _ check before.pool
  have reached : registry = before.probed check := by
    simp only [registry, value, probed]
  have vacant : ended.2.confirms holder request.source = false →
      registry.otherHolder request.connection request.source = none := by
    rw [reached, value]
    obtain ⟨past, look, window, begun, rfl, rfl, session⟩ := session_of_waiting found waited
    exact session.otherHolder_of_unconfirmed orderly
  refine ⟨?_, fun now => judge_holder now ended.2 vacant⟩
  intro silent other listed different held
  exact different (otherHolder_eq_none_iff.mp (vacant silent) other ⟨listed, held⟩)

/-- While the second connection of the handover waits, the first one is silent, and closing it
leaves the address free. -/
theorem vacant_after_silence_handover :
    Orderly 2 handover.dropLast ∧
      (after 2 handover.dropLast).request? 1 =
        some ⟨1, 2, 0x0E00, .probing (.holder 1) ⟨[1], [(1, 0)], 1, 530⟩⟩ ∧
      (after 2 handover.dropLast).pool.sourceAddress 1 = some 0x0E00 ∧
      ∀ other ∈ (after 2 handover.dropLast).table, other ≠ 2 →
        ((AliveCheck.finish false [] ⟨[1], [(1, 0)], 1, 530⟩
          (after 2 handover.dropLast).pool).value.1).sourceAddress other ≠ some 0x0E00 := by
  have orderly : Orderly 2 handover.dropLast := by decide +kernel
  have found : (after 2 handover.dropLast).request? 1 =
      some ⟨1, 2, 0x0E00, .probing (.holder 1) ⟨[1], [(1, 0)], 1, 530⟩⟩ := by decide +kernel
  have held : (after 2 handover.dropLast).pool.sourceAddress 1 = some 0x0E00 := by decide +kernel
  have unanswered : (after 2 handover.dropLast).mail.reports 1 = [] := by decide +kernel
  refine ⟨orderly, found, held, ?_⟩
  have vacant := (vacant_after_silence orderly found rfl false).1
  simp only [unanswered] at vacant
  exact vacant rfl

end DiagnosticGateway.Registry
