import DiagnosticGateway.Proofs.Gateway.Delivery

/-!
# How connections come to be open

A connection is opened when a socket that was accepted is served, and by nothing else. Whatever
else happens can only close connections. So what is open after an occurrence was open before it,
unless it is the connection of the socket that was served.
-/

namespace DiagnosticGateway

/-- Who is closed has ended the sending. -/
theorem Pool.Consistent.hasEnded {pool : Pool} (consistent : pool.Consistent) {id : ConnectionId}
    {connection : Connection} (found : pool.get? id = some connection)
    (closed : connection.phase = .closed) : pool.HasEnded id := by
  refine ⟨connection, found, ?_⟩
  cases sends : connection.sending with
  | false => rfl
  | true => exact absurd closed ((consistent id connection found).sending.mp sends)

namespace Registry

variable {own : RequestId → Prop} {before after registry : Registry} {id : ConnectionId}

/-- In a registry that is served, the open connections of the table are all that are open. -/
theorem Served.mem_openConnections (served : registry.Served) :
    id ∈ registry.openConnections ↔ registry.pool.isOpen id = true := by
  unfold openConnections
  rw [List.mem_filter, and_iff_right_iff_imp]
  intro opened
  obtain ⟨connection, found, isOpen⟩ := Pool.isOpen_iff.mp opened
  exact served.listed found isOpen

/-- No connection is counted twice. -/
theorem Sound.nodup_openConnections (sound : registry.Sound) : registry.openConnections.Nodup :=
  (sound.ascending.imp fun below => Nat.ne_of_lt below).filter _

/-- What is open in a registry that was led on was open before, or has a number that was free.
Nothing opens a closed connection again, and the only ones that come to be open are new. -/
theorem Leads.isOpen (leads : before.Leads own after) (sound : before.Sound)
    (opened : after.pool.isOpen id = true) :
    before.pool.isOpen id = true ∨ before.nextConnection ≤ id := by
  have kept := leads.keeps (motive := fun registry => registry.Sound ∧
    before.nextConnection ≤ registry.nextConnection ∧
    ∀ id, registry.pool.isOpen id = true →
      before.pool.isOpen id = true ∨ before.nextConnection ≤ id)
    ⟨sound, Nat.le_refl _, fun _ opened => Or.inl opened⟩ ?_
  · exact kept.2.2 id opened
  · rintro registry occurrence ⟨sound, below, earlier⟩
    refine ⟨sound_act occurrence sound, ?_, ?_⟩
    · by_cases opens : ∃ timings, occurrence.action = .event (.openConnection timings)
      · obtain ⟨timings, opens⟩ := opens
        rw [Registry.act, opens]
        exact Nat.le_succ_of_le below
      · have same : (registry.act occurrence).pool.numbers = registry.pool.numbers ∧
            (registry.act occurrence).nextConnection = registry.nextConnection :=
          numbers_act fun timings opened => opens ⟨timings, opened⟩
        rw [same.2]
        exact below
    · intro number opened
      obtain ⟨later, found, isOpen⟩ := Pool.isOpen_iff.mp opened
      rcases succeeds_act sound.consistent found with
        ⟨connection, foundBefore, succeeds⟩ | ⟨-, -, rfl, -⟩
      · exact earlier number
          (Pool.isOpen_iff.mpr ⟨connection, foundBefore, succeeds.opened isOpen⟩)
      · exact Or.inr below

end Registry

namespace Gateway

variable {gateway before after : Gateway} {id : SocketId} {connection number : ConnectionId}
  {holding : Connection} {socket : Socket} {events : List Log.Event}

/-- A writer opens no connection. Where it writes it may close a connection, and elsewhere all are
as they were. -/
theorem WritesAt.isOpen (writes : before.WritesAt id connection holding socket events after)
    (held : before.registry.pool.get? connection = some holding)
    (consistent : before.registry.pool.Consistent)
    (consistentLater : after.registry.pool.Consistent)
    (opened : after.registry.pool.isOpen number = true) :
    before.registry.pool.isOpen number = true := by
  obtain ⟨later, foundLater, isOpen⟩ := Pool.isOpen_iff.mp opened
  have found : ∃ earlier, before.registry.pool.get? number = some earlier := by
    by_cases own : number = connection
    · exact ⟨holding, own ▸ held⟩
    · exact ⟨later, (writes.connections number own).symm.trans foundLater⟩
  obtain ⟨earlier, found⟩ := found
  refine Pool.isOpen_iff.mpr ⟨earlier, found, fun closed => ?_⟩
  have ended := writes.ended held (consistent.hasEnded found closed)
  obtain ⟨same, alsoFound, closedLater, -⟩ := ended.isClosed consistentLater
  obtain rfl := Option.some.inj (foundLater.symm.trans alsoFound)
  exact isOpen closedLater

end Gateway

namespace Station

open Gateway

variable {station : Station} {occurrence : Occurrence} {id : ConnectionId}

/-- What is open after an occurrence was open before, or is the connection of a socket that was
served. -/
theorem isOpen_act (served : station.gateway.registry.Served) (able : station.CanHappen occurrence)
    (opened : (station.act occurrence).gateway.registry.pool.isOpen id = true) :
    station.gateway.registry.pool.isOpen id = true ∨
      (station.gateway.serves? occurrence.action).isSome = true ∧
        id = station.gateway.registry.nextConnection := by
  have servedLater := served_act served able
  cases writes : occurrence.action.writes with
  | false =>
    have leads : station.gateway.registry.Leads _ (station.act occurrence).gateway.registry :=
      conducts_act occurrence writes station
    refine (leads.isOpen served.sound opened).imp_right fun fresh => ?_
    obtain ⟨later, found, -⟩ := Pool.isOpen_iff.mp opened
    have used : id ∈ (station.act occurrence).gateway.registry.pool.numbers :=
      List.mem_map.mpr ⟨later, List.mem_of_find?_eq_some found, Pool.id_of_get? found⟩
    have below := servedLater.numbered.below id used
    rw [(intake_act occurrence station).next] at below
    split at below
    · rename_i serves
      exact ⟨serves, Nat.le_antisymm (Nat.le_of_lt_succ below) fresh⟩
    · exact absurd below (Nat.not_lt_of_le fresh)
  | true =>
    obtain ⟨number, socket, connection, holding, -, -, -, held, step⟩ :=
      write_of_writes able writes
    exact Or.inl (step.isOpen held served.sound.consistent servedLater.sound.consistent opened)

end Station

end DiagnosticGateway
