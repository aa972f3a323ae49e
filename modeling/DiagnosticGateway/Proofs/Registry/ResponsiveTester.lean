import DiagnosticGateway.Proofs.Connection.Renewal
import DiagnosticGateway.Proofs.Registry.ActivationRule
import DiagnosticGateway.Proofs.Registry.Upkeep

/-!
# A responsive tester keeps its registration

A registered connection can be closed by its timer, by a probe or from outside. If data arrives
in time, every probe that asks the connection is answered before it is judged, and nobody stops
the connection, then it stays registered with its address. It does not matter what happens on
other connections, and how many probes follow each other: a response is reported to the probe
that asked, and the probe that is under way is the only one.
-/

namespace DiagnosticGateway.Registry

/-- The moment at which data arrived last on a connection, or else the given one. -/
def lastHeard (id : ConnectionId) (since : Milliseconds) (course : History) : Milliseconds :=
  course.foldl
    (fun latest occurrence =>
      if occurrence.action = .event (.dataReceived id) then occurrence.moment else latest)
    since

/-- An occurrence queues an alive check request on a connection. -/
def QueuesCheck (id : ConnectionId) (occurrence : Occurrence) (registry : Registry) : Prop :=
  ∃ before next, registry.pool.get? id = some before ∧
    (registry.act occurrence).pool.get? id = some next ∧
    next.outbound = before.outbound ++ [.aliveCheckRequest]

/-- A connection becomes registered with an address, and its tester attends to it from then
on. -/
structure Attended (limit : Nat) (before : History) (becoming : Occurrence) (later : History)
    (id : ConnectionId) (source : UInt16) (connection : Connection) : Prop where
  possible : Possible limit (before ++ becoming :: later)
  unregistered : (after limit before).pool.sourceAddress id = none
  found : (after limit (before ++ [becoming])).pool.get? id = some connection
  registered : connection.sourceAddress = some source
  unstopped : ∀ occurrence ∈ later,
    occurrence.action ≠ .event (.stop id) ∧ occurrence.action ≠ .event .stopAll
  /-- Data arrives before each deadline. -/
  fed : Throughout later fun first occurrence =>
    occurrence.moment < lastHeard id becoming.moment first + connection.timings.general
  /-- Every alive check request is answered before the probe that has queued it is judged. -/
  replies : ∀ first look window ending rest request purpose check,
    later = first ++ look :: window ++ ending :: rest →
    Session limit (before ++ becoming :: first) look window request purpose check →
    QueuesCheck id look (after limit (before ++ becoming :: first)) →
    ending.action = .task (.request request.id) →
    (after limit (before ++ becoming :: first ++ look :: window)).probeEnds ending.moment check =
      true →
    ∃ reply ∈ window, reply.action = .event (.aliveResponse id source)

variable {registry next : Registry} {occurrence becoming look : Occurrence} {request : Request}
  {purpose : ProbePurpose} {check : AliveCheck} {limit : Nat}
  {before later first past window : History} {id : ConnectionId} {source : UInt16}
  {connection current : Connection} {timings : Timings} {deadline now : Milliseconds}
  {code : Wire.ActivationCode}

/-- A tester was heard last by the last occurrence, or when it was heard last before. -/
theorem lastHeard_concat (since : Milliseconds) :
    lastHeard id since (first ++ [occurrence]) =
      if occurrence.action = .event (.dataReceived id) then occurrence.moment
      else lastHeard id since first := by
  simp [lastHeard]

/-- What was attended to for longer was attended to for a while. All conditions are about every
occurrence of the history, and so they hold of a shorter one. -/
theorem Attended.front
    (attended : Attended limit before becoming (later ++ [occurrence]) id source connection) :
    Attended limit before becoming later id source connection where
  possible := by
    have possible := attended.possible
    rw [← List.cons_append, ← List.append_assoc] at possible
    exact (throughout_concat.mp possible).1
  unregistered := attended.unregistered
  found := attended.found
  registered := attended.registered
  unstopped earlier member := attended.unstopped earlier (List.mem_append_left _ member)
  fed := (throughout_concat.mp attended.fed).1
  replies first look window ending rest request purpose check split :=
    attended.replies first look window ending (rest ++ [occurrence]) request purpose check
      (by simp [split])

/-! ## What the deadline of a registered connection depends on -/

/-- The events that an action passes on to a connection. -/
theorem touch_cases {event : Connection.Event} {action : Action}
    (touches : registry.touch id action = some event) :
    action = .event (.start id) ∧ event = .start ∨
      action = .event (.dataReceived id) ∧ event = .dataReceived ∨
      (∃ message, action = .event (.send id message) ∧ event = .send message) ∨
      action = .event (.stop id) ∨ action = .event .stopAll ∨ action = .task (.timer id) := by
  unfold touch at touches
  split at touches
  case h_7 => cases touches
  all_goals
    split at touches
    · simp_all
    · cases touches

/-- A quiet occurrence leaves a registered connection its deadline, or data sets it anew. Neither a
stop nor its timer is among the occurrences that are considered, so it cannot be closed by them. -/
theorem Quiet.runsUntil (quiet : registry.Quiet occurrence)
    (found : registry.pool.get? id = some current)
    (runs : current.RunsUntil source timings deadline)
    (unstopped : occurrence.action ≠ .event (.stop id) ∧ occurrence.action ≠ .event .stopAll)
    (undue : occurrence.action ≠ .task (.timer id)) :
    ∃ following, (registry.act occurrence).pool.get? id = some following ∧
      following.RunsUntil source timings
        (if occurrence.action = .event (.dataReceived id) then
          occurrence.moment + timings.general
        else deadline) := by
  refine ⟨_, quiet.get?_of_some found, ?_⟩
  cases touches : registry.touch id occurrence.action with
  | none =>
    have silent : occurrence.action ≠ .event (.dataReceived id) := by
      intro feeds
      rw [feeds] at touches
      simp [touch] at touches
    rw [if_neg silent]
    exact runs
  | some event =>
    rcases touch_cases touches with
      ⟨starts, rfl⟩ | ⟨feeds, rfl⟩ | ⟨message, sends, rfl⟩ | stops | stops | expires
    · rw [if_neg (by simp [starts])]
      have same : current.touched occurrence.moment (some .start) = current := runs.start
      rw [same]
      exact runs
    · rw [if_pos feeds]
      exact runs.dataReceived
    · rw [if_neg (by simp [sends])]
      exact runs.send message
    · exact absurd stops unstopped.1
    · exact absurd stops unstopped.2
    · exact absurd expires undue

/-- A decision leaves a registered connection as it is. -/
theorem settled_of_runsUntil (runs : current.RunsUntil source timings deadline) :
    settled now request code id current = current := by
  unfold settled
  rw [Connection.activate_of_settled now request.source (Or.inr runs.registered)]
  exact ite_self _

/-- An arbitration leaves a registered connection its deadline, unless it ends a probe that has
not heard from it. -/
theorem Arbitration.runsUntil (arbitration : Arbitration now request registry next)
    (found : registry.pool.get? id = some current)
    (runs : current.RunsUntil source timings deadline)
    (heard : ∀ purpose check, request.stage = .probing purpose check →
      registry.probeEnds now check = true →
      ¬ (id ∈ check.targets ∧
        AliveCheck.counting (registry.mail.reports check.mailbox) id = [])) :
    ∃ following, next.pool.get? id = some following ∧
      following.RunsUntil source timings deadline := by
  cases arbitration with
  | grants turn unknown course =>
    refine ⟨current, ?_, runs⟩
    rw [get?_concluded, found, Option.map_some, settled_of_runsUntil runs]
  | probes turn unknown course =>
    refine ⟨_, by rw [get?_probing, found, Option.map_some], ?_⟩
    exact runs.askedAmong _ _ _
  | concludes waited ends =>
    have left := AliveCheck.runsUntil_left runs (heard _ _ waited ends)
    refine ⟨_, ?_, left⟩
    rw [get?_concluded, get?_probed, found, Option.map_some, Option.map_some,
      settled_of_runsUntil left]

/-- A connection that a decision registers has its first deadline. It is counted from the moment of
the decision, by the general time of the connection. -/
theorem runsUntil_settled (consistent : current.Consistent) (unknown : current.sourceAddress = none)
    (held : (settled now request code id current).sourceAddress = some source) :
    (settled now request code id current).RunsUntil source
      (settled now request code id current).timings
      (now + (settled now request code id current).timings.general) := by
  by_cases granted : code = .success ∧ id = request.connection
  · simp only [settled, if_pos granted] at held ⊢
    have unregistered : current.phase ≠ .registeredActive := by
      intro registered
      have address := consistent.address.mpr registered
      simp [unknown] at address
    by_cases closed : current.phase = .closed
    · rw [Connection.activate_of_settled now request.source (Or.inl closed), unknown] at held
      cases held
    · have runs : Connection.RunsUntil request.source current.timings
          (now + current.timings.general) (current.activate now request.source).value.1 :=
        Connection.runsUntil_activate closed unregistered
      obtain rfl : request.source = source := Option.some.inj (runs.address.symm.trans held)
      rw [runs.timed]
      exact runs
  · simp only [settled, if_neg granted, unknown] at held
    cases held

/-- The occurrence by which a connection becomes registered gives it its first deadline. That is the
occurrence in which its request is granted, at the lock or after a probe. -/
theorem runsUntil_of_becoming (consistent : registry.pool.Consistent)
    (consistentNext : (registry.act becoming).pool.Consistent)
    (unregistered : registry.pool.sourceAddress id = none)
    (found : (registry.act becoming).pool.get? id = some connection)
    (registered : connection.sourceAddress = some source) :
    connection.RunsUntil source connection.timings
      (becoming.moment + connection.timings.general) := by
  have held : (registry.act becoming).pool.sourceAddress id = some source :=
    Pool.sourceAddress_eq_some_iff.mpr ⟨connection, found, registered⟩
  have unknown : ∀ {earlier : Connection}, registry.pool.get? id = some earlier →
      earlier.sourceAddress = none := by
    intro earlier foundEarlier
    have address := unregistered
    rwa [Pool.sourceAddress, foundEarlier] at address
  rcases quiet_or_arbitrates registry becoming with quiet | ⟨request, -, -, arbitration⟩
  · rw [quiet.sourceAddress consistentNext held] at unregistered
    cases unregistered
  · generalize registry.act becoming = next at *
    cases arbitration with
    | grants turn _ course =>
      rw [get?_concluded] at found
      obtain ⟨earlier, foundEarlier, rfl⟩ := Option.map_eq_some_iff.mp found
      exact runsUntil_settled (consistent id earlier foundEarlier) (unknown foundEarlier) registered
    | probes turn _ course =>
      rw [sourceAddress_probing, unregistered] at held
      cases held
    | concludes waited ends =>
      rw [get?_concluded, get?_probed, Option.map_map] at found
      obtain ⟨earlier, foundEarlier, rfl⟩ := Option.map_eq_some_iff.mp found
      have consistentEarlier := consistent id earlier foundEarlier
      refine runsUntil_settled (AliveCheck.consistent_left consistentEarlier) ?_ registered
      apply Option.eq_none_iff_forall_ne_some.mpr
      intro other address
      have kept := (AliveCheck.sourceAddress_left consistentEarlier address).1
      rw [unknown foundEarlier] at kept
      cases kept

/-! ## The probes that ask the connection -/

/-- A probe that asks a connection, and waits after the connection has become registered, was
started after that. -/
theorem Session.started_later
    (session : Session limit past look window request purpose check)
    (member : id ∈ check.targets) (unregistered : (after limit before).pool.sourceAddress id = none)
    (held : (after limit (before ++ [becoming])).pool.sourceAddress id = some source)
    (split : before ++ becoming :: first = past ++ look :: window) :
    ∃ earlier, past = before ++ becoming :: earlier ∧ first = earlier ++ look :: window := by
  have registered := registered_of_course (sound_after limit past).consistent session.began.course
    id member
  rcases List.append_eq_append_iff.mp split with ⟨between, rfl, rest⟩ | ⟨between, rfl, rest⟩
  · cases between with
    | nil =>
      rw [List.append_nil, unregistered] at registered
      obtain ⟨-, own, address⟩ := registered
      cases address
    | cons head earlier =>
      obtain ⟨rfl, rfl⟩ := List.cons.inj rest
      exact ⟨earlier, rfl, rfl⟩
  · cases between with
    | nil =>
      rw [List.append_nil] at unregistered
      rw [unregistered] at registered
      obtain ⟨-, own, address⟩ := registered
      cases address
    | cons head earlier =>
      -- it would have become registered while the probe waited
      obtain ⟨rfl, rfl⟩ := List.cons.inj rest
      have meanwhile : Session limit past look (earlier ++ [becoming]) request purpose check :=
        session.upTo ⟨first, by simp⟩
      have consistent :=
        (sound_after limit (past ++ look :: earlier ++ [becoming])).consistent
      rw [after_concat] at held consistent
      rw [meanwhile.quiet.sourceAddress consistent held] at unregistered
      cases unregistered

/-- A registered connection that is asked by a probe finds a request in its queue. -/
theorem Session.queues (session : Session limit past look window request purpose check)
    (member : id ∈ check.targets) (found : (after limit past).pool.get? id = some current)
    (runs : current.RunsUntil source timings deadline) :
    QueuesCheck id look (after limit past) := by
  have sound := sound_after limit past
  refine ⟨current, current.asked request.id, found, ?_, ?_⟩
  · rw [(session.began.changes sound.ascending).2, found]
    exact congrArg some (if_pos member)
  · exact runs.outbound_asked (sound.consistent id current found)
      (receiving_after limit past found) request.id

/-- A probe that is judged has heard from the connection that is attended to. The probe has begun
after the connection was registered, so its answer within the window is one that the probe has
listened to. -/
theorem Attended.heard
    (attended : Attended limit before becoming (first ++ [occurrence]) id source connection)
    (always : ∀ earlier, earlier <+: first → ∃ current,
      (after limit (before ++ becoming :: earlier)).pool.get? id = some current ∧
        current.RunsUntil source connection.timings
          (lastHeard id becoming.moment earlier + connection.timings.general))
    (step : occurrence.action = .task (.request request.id))
    (found : (after limit (before ++ becoming :: first)).request? request.id = some request)
    (waited : request.stage = .probing purpose check)
    (ends : (after limit (before ++ becoming :: first)).probeEnds occurrence.moment check = true) :
    ¬ (id ∈ check.targets ∧ AliveCheck.counting
      ((after limit (before ++ becoming :: first)).mail.reports check.mailbox) id = []) := by
  rintro ⟨member, silent⟩
  obtain ⟨past, look, window, begun, split, rfl, session⟩ := session_of_waiting found waited
  have held : (after limit (before ++ [becoming])).pool.sourceAddress id = some source :=
    Pool.sourceAddress_eq_some_iff.mpr ⟨connection, attended.found, attended.registered⟩
  obtain ⟨earlier, rfl, rfl⟩ :=
    session.started_later member attended.unregistered held split
  obtain ⟨current, foundThen, runs⟩ := always earlier (List.prefix_append ..)
  rw [split] at silent ends
  -- the request in its queue was answered within the window
  obtain ⟨reply, inWindow, answers⟩ := attended.replies earlier look window occurrence [] begun
    purpose check (by simp) session (session.queues member foundThen runs) step
    (by simpa using ends)
  obtain ⟨start, rest, rfl⟩ := List.append_of_mem inWindow
  have address := Pool.sourceAddress_eq_some_iff.mpr ⟨current, foundThen, runs.address⟩
  have confirmed : (after limit (before ++ becoming :: earlier)).confirms look
      (start ++ reply :: rest) id = true := by
    rw [confirms, address]
    apply (responds_iff _).mpr
    refine ⟨start, reply, rest, rfl, answers, ?_⟩
    obtain ⟨answering, foundAnswering, runsOn⟩ :=
      always (earlier ++ look :: start) ⟨reply :: rest, by simp⟩
    have reached : ((after limit (before ++ becoming :: earlier)).act look).replay start =
        after limit (before ++ becoming :: (earlier ++ look :: start)) := by
      rw [← replay_cons, ← after_append]
      simp
    rw [reached]
    exact Pool.isOpen_iff.mpr ⟨answering, foundAnswering, by simp [runsOn.registered]⟩
  rw [(session.silent_iff member).mp silent] at confirmed
  cases confirmed

/-! ## The whole run -/

/-- One more occurrence leaves the connection that is attended to registered. A quiet occurrence
leaves the deadline or renews it. An arbitration could only close it as silent in a probe, and it
was heard there. -/
theorem Attended.runs_next
    (attended : Attended limit before becoming (first ++ [occurrence]) id source connection)
    (always : ∀ earlier, earlier <+: first → ∃ current,
      (after limit (before ++ becoming :: earlier)).pool.get? id = some current ∧
        current.RunsUntil source connection.timings
          (lastHeard id becoming.moment earlier + connection.timings.general)) :
    ∃ current,
      ((after limit (before ++ becoming :: first)).act occurrence).pool.get? id = some current ∧
        current.RunsUntil source connection.timings
          (lastHeard id becoming.moment (first ++ [occurrence]) + connection.timings.general) := by
  obtain ⟨current, found, runs⟩ := always first List.prefix_rfl
  rw [lastHeard_concat]
  rcases quiet_or_arbitrates (after limit (before ++ becoming :: first)) occurrence with
    quiet | ⟨request, step, foundRequest, arbitration⟩
  · have unstopped := attended.unstopped occurrence (by simp)
    have undue : occurrence.action ≠ .task (.timer id) := by
      intro expires
      have possible := attended.possible
      rw [← List.cons_append, ← List.append_assoc] at possible
      obtain ⟨same, timer, alsoFound, running, come⟩ := due_of_canHappen
        (numbered_after limit (before ++ becoming :: first)) (throughout_concat.mp possible).2
        expires
      obtain rfl : current = same := Option.some.inj (found.symm.trans alsoFound)
      obtain rfl := Option.some.inj (runs.timer.symm.trans running)
      exact absurd (throughout_concat.mp attended.fed).2 (Nat.not_lt.mpr come)
    obtain ⟨following, foundNext, runsNext⟩ := quiet.runsUntil found runs unstopped undue
    refine ⟨following, foundNext, ?_⟩
    split at runsNext
    · rename_i feeds
      rw [if_pos feeds]
      exact runsNext
    · rename_i silent
      rw [if_neg silent]
      exact runsNext
  · rw [if_neg (by simp [step])]
    refine arbitration.runsUntil found runs ?_
    intro purpose check waited ends
    exact attended.heard always step foundRequest waited ends

/-- The connection that is attended to is registered all the time, and its timer is the one that
data has set last. -/
theorem Attended.runs
    (attended : Attended limit before becoming later id source connection) :
    ∀ first, first <+: later → ∃ current,
      (after limit (before ++ becoming :: first)).pool.get? id = some current ∧
        current.RunsUntil source connection.timings
          (lastHeard id becoming.moment first + connection.timings.general) := by
  induction later using List.reverseRecOn with
  | nil =>
    intro first front
    obtain rfl := List.prefix_nil.mp front
    have found := attended.found
    have consistent := (sound_after limit (before ++ [becoming])).consistent
    rw [after_concat] at found consistent
    refine ⟨connection, by rw [after_concat, found], ?_⟩
    exact runsUntil_of_becoming (sound_after limit before).consistent consistent
      attended.unregistered found attended.registered
  | append_singleton later occurrence inductionHypothesis =>
    have always := inductionHypothesis attended.front
    intro first front
    rcases List.prefix_concat_iff.mp front with rfl | front
    · rw [← List.cons_append, ← List.append_assoc, after_concat]
      exact attended.runs_next always
    · exact always first front

/-- A responsive tester is never evicted: a connection that is attended to stays registered with
its address, at every moment from then on. -/
theorem stays_registered
    (attended : Attended limit before becoming later id source connection) :
    ∀ first, first <+: later → ∃ current,
      (after limit (before ++ becoming :: first)).pool.get? id = some current ∧
        current.phase = .registeredActive ∧ current.sourceAddress = some source := by
  intro first front
  obtain ⟨current, found, runs⟩ := attended.runs first front
  exact ⟨current, found, runs.registered, runs.address⟩

/-- Two connections are served and ask for the same address. -/
def rivalry : History :=
  [⟨0, .event (.openConnection ⟨2000, 1000⟩)⟩, ⟨0, .event (.add 1)⟩, ⟨0, .event (.start 1)⟩,
    ⟨5, .event (.openConnection ⟨2000, 1000⟩)⟩, ⟨5, .event (.add 2)⟩, ⟨5, .event (.start 2)⟩,
    ⟨10, .event (.request 1 0x0E00)⟩, ⟨10, .event (.request 2 0x0E00)⟩]

/-- The first connection after it has been granted the address. -/
def incumbent : Connection :=
  { Connection.new 1 ⟨2000, 1000⟩ with
    phase := .registeredActive
    sourceAddress := some 0x0E00
    timer := some ⟨.general, 2, 1010⟩
    generation := 2 }

/-- The first connection is probed for the sake of the second, and answers. -/
def challenge : History :=
  [⟨10, .task (.request 1)⟩, ⟨100, .event (.aliveResponse 1 0x0E00)⟩, ⟨510, .task (.request 1)⟩]

/-- The first connection keeps the address for which the second has asked. The second request starts
a probe, the first connection answers it, and when the window ends the address is denied. -/
theorem stays_registered_challenge :
    Attended 2 rivalry ⟨10, .task (.request 0)⟩ challenge 1 0x0E00 incumbent ∧
      ∃ current,
        (after 2 (rivalry ++ ⟨10, .task (.request 0)⟩ :: challenge)).pool.get? 1 = some current ∧
          current.phase = .registeredActive ∧ current.sourceAddress = some 0x0E00 := by
  have attended : Attended 2 rivalry ⟨10, .task (.request 0)⟩ challenge 1 0x0E00 incumbent := by
    refine ⟨by decide +kernel, by decide +kernel, by decide +kernel, rfl, by decide +kernel,
      by decide +kernel, ?_⟩
    intro first look window ending rest request purpose check split session _ step _
    have starts := session.began.step
    match first, split with
    | [], split =>
      obtain ⟨rfl, remaining⟩ := List.cons.inj split
      match window, remaining with
      | [], remaining =>
        obtain ⟨rfl, -⟩ := List.cons.inj remaining
        cases step
      | reply :: _, remaining =>
        obtain ⟨rfl, -⟩ := List.cons.inj remaining
        exact ⟨_, List.mem_cons_self, rfl⟩
    | [_], split =>
      obtain ⟨-, remaining⟩ := List.cons.inj split
      obtain ⟨rfl, -⟩ := List.cons.inj remaining
      cases starts
    | _ :: _ :: others, split =>
      have short := congrArg List.length split
      simp only [challenge, List.length_cons, List.length_append, List.length_nil] at short
      omega
  exact ⟨attended, stays_registered attended challenge List.prefix_rfl⟩

end DiagnosticGateway.Registry
