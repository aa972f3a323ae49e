import DiagnosticGateway.Proofs.Registry.Soundness

/-!
# Numbers, timers and readers

A registry gives each connection a number of its own, so the timer that may expire under a
number is that of the connection found there. Nothing that happens to a registry takes the
reader of an outbound queue away, so whatever is sent to an open connection is queued.
-/

namespace DiagnosticGateway.Registry

/-- No number is used twice, and the next one is free. -/
structure Numbered (registry : Registry) : Prop where
  distinct : registry.pool.numbers.Nodup
  below : ∀ id ∈ registry.pool.numbers, id < registry.nextConnection

variable {registry next : Registry} {occurrence : Occurrence} {request : Request}
  {limit : Nat} {history : History} {now : Milliseconds} {id : ConnectionId}
  {connection : Connection}

/-- Moves use no new number: connections are changed in their places. -/
theorem Move.numbers (move : Move now request registry next) :
    next.pool.numbers = registry.pool.numbers := by
  have settles : ∀ (code : Wire.ActivationCode) (registry : Registry),
      (registry.concluded now request code).pool.numbers = registry.pool.numbers := by
    intro code registry
    rw [concluded_value]
    dsimp only
    split
    · exact Pool.numbers_ask request.connection (Connection.activate now request.source)
        (Connection.id_next now (.activate request.source)) registry.pool
    · rfl
  cases move with
  | rests still => rfl
  | answersAtOnce asked known => rfl
  | goesInLine asked unknown taken => rfl
  | answersInTurn inLine holds known => rw [release_value]; rfl
  | arbitrates arbitration =>
    cases arbitration with
    | grants turn unknown course => exact settles _ _
    | probes turn unknown course => exact AliveCheck.numbers_askTargets ..
    | concludes waited ends =>
      refine (settles _ _).trans ?_
      exact (AliveCheck.numbers_closeSilent ..).trans (AliveCheck.numbers_unsubscribeAll ..)

/-- Only opening a connection uses a new number. Events change a connection in its place, and the
steps of requests do so with those they ask or decide about. -/
theorem numbers_act (kept : ∀ timings, occurrence.action ≠ .event (.openConnection timings)) :
    (registry.act occurrence).pool.numbers = registry.pool.numbers ∧
      (registry.act occurrence).nextConnection = registry.nextConnection := by
  rcases act_cases registry occurrence with outside | ⟨id, -, ⟨-, same⟩ | ⟨request, -, move⟩⟩
  · obtain ⟨now, action⟩ := occurrence
    cases action with
    | event event =>
      cases event with
      | openConnection timings => exact absurd rfl (kept timings)
      | start connection =>
        exact ⟨Pool.numbers_change connection _ (Connection.id_next now .start) _, rfl⟩
      | dataReceived connection =>
        exact ⟨Pool.numbers_update connection _ (Connection.id_next now .dataReceived) _, rfl⟩
      | send connection message =>
        exact ⟨Pool.numbers_change connection _ (Connection.id_next now (.send message)) _, rfl⟩
      | stop connection =>
        exact ⟨Pool.numbers_change connection _ Connection.id_stop _, rfl⟩
      | stopAll => exact ⟨Pool.numbers_stopAll .., rfl⟩
      | remove connection =>
        simp only [act, apply, remove]
        split <;> exact ⟨rfl, rfl⟩
      | _ => exact ⟨rfl, rfl⟩
    | task task =>
      cases task with
      | request number => exact outside.elim
      | timer connection => exact ⟨Pool.numbers_expire .., rfl⟩
  · rw [same]
    exact ⟨rfl, rfl⟩
  · exact ⟨move.numbers, move.frame.2.2.1⟩

/-- Every occurrence uses each number once. The new number is the next one, which is above all that
were used. -/
theorem Numbered.act (numbered : registry.Numbered) (occurrence : Occurrence) :
    (registry.act occurrence).Numbered := by
  by_cases opens : ∃ timings, occurrence.action = .event (.openConnection timings)
  · obtain ⟨timings, opens⟩ := opens
    have numbers : (registry.act occurrence).pool.numbers =
        registry.pool.numbers ++ [registry.nextConnection] := by
      rw [Registry.act, opens]
      exact Pool.numbers_insert ..
    have following : (registry.act occurrence).nextConnection = registry.nextConnection + 1 := by
      rw [Registry.act, opens]
      rfl
    refine ⟨?_, ?_⟩
    · rw [numbers]
      refine List.nodup_append.mpr ⟨numbered.distinct, by simp, ?_⟩
      intro id used other isNext
      obtain rfl := List.mem_singleton.mp isNext
      exact Nat.ne_of_lt (numbered.below id used)
    · intro id used
      rw [numbers] at used
      rw [following]
      rcases List.mem_append.mp used with old | new
      · exact Nat.lt_succ_of_lt (numbered.below id old)
      · obtain rfl := List.mem_singleton.mp new
        exact Nat.lt_succ_self _
  · have kept : (registry.act occurrence).pool.numbers = registry.pool.numbers ∧
        (registry.act occurrence).nextConnection = registry.nextConnection :=
      numbers_act fun timings opened => opens ⟨timings, opened⟩
    refine ⟨?_, ?_⟩
    · rw [kept.1]
      exact numbered.distinct
    · rw [kept.1, kept.2]
      exact numbered.below

/-- Every history uses each number once. -/
theorem numbered_after (limit : Nat) (history : History) : (after limit history).Numbered := by
  induction history using List.reverseRecOn with
  | nil => exact ⟨List.nodup_nil, fun _ member => absurd member List.not_mem_nil⟩
  | append_singleton history occurrence inductionHypothesis =>
    rw [after_concat]
    exact inductionHypothesis.act occurrence

/-- A timer expires only if it is that of the connection and has come. A task can happen if it is
listed as enabled, and timers are listed by their deadlines. -/
theorem due_of_canHappen (numbered : registry.Numbered)
    (possible : registry.CanHappen occurrence)
    (expires : occurrence.action = .task (.timer id)) :
    ∃ connection timer, registry.pool.get? id = some connection ∧
      connection.timer = some timer ∧ timer.deadline ≤ occurrence.moment := by
  obtain ⟨moment, action⟩ := occurrence
  obtain rfl : action = .task (.timer id) := expires
  have enabled : (Task.timer id) ∈ registry.enabled moment := possible
  rcases List.mem_append.mp enabled with timer | request
  · obtain ⟨other, expired, same⟩ := List.mem_map.mp timer
    obtain rfl := Task.timer.inj same
    exact Pool.due_of_expired numbered.distinct expired
  · obtain ⟨request, -, same⟩ := List.mem_map.mp request
    cases same

/-! ## Readers -/

/-- Every occurrence leaves every queue its reader. In the registry by itself there is no writer
that could go away; that happens in a gateway, after the close. -/
theorem receiving_after (limit : Nat) (history : History)
    (found : (after limit history).pool.get? id = some connection) :
    connection.receiving = true := by
  induction history using List.reverseRecOn generalizing connection with
  | nil => cases found
  | append_singleton history occurrence inductionHypothesis =>
    have settles : ∀ (now : Milliseconds) (request : Request) (code : Wire.ActivationCode)
        (before : Connection), (settled now request code id before).receiving =
          before.receiving := by
      intro now request code before
      unfold settled
      split
      · unfold Connection.activate
        cases before.phase <;> rfl
      · rfl
    rw [after_concat] at found
    rcases quiet_or_arbitrates (after limit history) occurrence with
      quiet | ⟨request, -, -, arbitration⟩
    · rcases quiet.found found with ⟨before, earlier, rfl⟩ | ⟨timings, rfl⟩
      · cases touches : (after limit history).touch id occurrence.action with
        | none => exact inductionHypothesis earlier
        | some event =>
          exact (Connection.receiving_next _ before (touch_isPassive touches)).trans
            (inductionHypothesis earlier)
      · rfl
    · generalize (after limit history).act occurrence = next at *
      cases arbitration with
      | grants turn unknown course =>
        rw [get?_concluded] at found
        obtain ⟨before, earlier, rfl⟩ := Option.map_eq_some_iff.mp found
        exact (settles ..).trans (inductionHypothesis earlier)
      | probes turn unknown course =>
        rw [get?_probing] at found
        obtain ⟨before, earlier, rfl⟩ := Option.map_eq_some_iff.mp found
        exact Connection.receiving_askedAmong.trans (inductionHypothesis earlier)
      | concludes waited ends =>
        rw [get?_concluded, get?_probed, Option.map_map] at found
        obtain ⟨before, earlier, rfl⟩ := Option.map_eq_some_iff.mp found
        exact (settles ..).trans (AliveCheck.receiving_left.trans (inductionHypothesis earlier))

end DiagnosticGateway.Registry
