import DiagnosticGateway.Proofs.Registry.Ruling
import DiagnosticGateway.Proofs.Registry.Succession

/-!
# What stands behind a denial

A request is denied because others are there: all places are taken, or the address is. Both are
found out by a probe, and the probe counts the connections that have confirmed their addresses in
its course. A connection that has confirmed may still leave before the probe ends, and it counts
nevertheless. So a denial does not show that the others are there when it is given. It shows
that they were when the probe began, that they have confirmed it since, and that they are still
there unless they have left in the meantime.
-/

namespace DiagnosticGateway.Registry

/-- A connection leaves in a course of occurrences: it is removed from the table, or it closes. -/
def Departs (id : ConnectionId) (course : History) (registry : Registry) : Prop :=
  ∃ earlier occurrence later, course = earlier ++ occurrence :: later ∧
    (occurrence.action = .event (.remove id) ∨
      (registry.replay earlier).pool.isOpen id = true ∧
        (registry.replay (earlier ++ [occurrence])).pool.isOpen id = false)

/-- A connection of the table held an address when a probe began and has confirmed it in the
course of the probe. When the probe has led to a registry, the connection holds the address still,
unless it has left meanwhile. -/
structure Vouches (limit : Nat) (past : History) (look : Occurrence) (window : History)
    (reached : Registry) (id : ConnectionId) (source : UInt16) : Prop where
  held : (after limit past).Holds id source
  /-- It was registered with the address when its response came. -/
  confirmed : ∃ before response rest, window = before ++ response :: rest ∧
    response.action = .event (.aliveResponse id source) ∧
    (after limit (past ++ look :: before)).pool.sourceAddress id = some source
  remains : reached.Holds id source ∨ ((after limit past).act look).Departs id window

/-- As many connections as may be registered stand behind the denial of a request, by the probe
for which it has waited. -/
def Occupied (limit : Nat) (history : History) (number : RequestId) (reached : Registry) : Prop :=
  ∃ past look window begun purpose check, history = past ++ look :: window ∧ begun.id = number ∧
    Session limit past look window begun purpose check ∧
    ∃ among : List ConnectionId, among.Nodup ∧ limit ≤ among.length ∧
      ∀ id ∈ among, ∃ source, Vouches limit past look window reached id source

/-- Another connection stands behind the denial of an address: it holds the address, or it has
vouched for it in the probe for which the request has waited. -/
def Contested (limit : Nat) (history : History) (request : Request) (reached : Registry) : Prop :=
  ∃ other, other ≠ request.connection ∧
    (reached.Holds other request.source ∨
      ∃ past look window begun purpose check, history = past ++ look :: window ∧
        begun.id = request.id ∧ Session limit past look window begun purpose check ∧
        Vouches limit past look window reached other request.source)

variable {registry next : Registry} {occurrence look ending : Occurrence} {request : Request}
  {purpose : ProbePurpose} {check : AliveCheck} {limit : Nat} {history past window : History}
  {number : RequestId} {now : Milliseconds} {code : Wire.ActivationCode} {id : ConnectionId}
  {source : UInt16}

/-! ## Staying and leaving -/

/-- The final stop closes what is in the table, each connection by a stop of its own. It is shown by
way of what the action does to the one connection. -/
theorem closed_of_stopAll (listed : id ∈ registry.table) (opened : registry.pool.isOpen id = true)
    (stops : occurrence.action = .event .stopAll) :
    (registry.act occurrence).pool.isOpen id = false := by
  obtain ⟨connection, found, -⟩ := Pool.isOpen_iff.mp opened
  have outside : occurrence.action.IsOutside := by
    rw [stops]
    trivial
  have touches : registry.touch id occurrence.action = some .stop := by
    rw [stops]
    exact if_pos listed
  have foundNext := (quiet_of_outside outside).get?_of_some found
  rw [touches] at foundNext
  by_contra isOpen
  obtain ⟨later, alsoFound, stillOpen⟩ := Pool.isOpen_iff.mp (by simpa using isOpen)
  obtain rfl := Option.some.inj (foundNext.symm.trans alsoFound)
  exact stillOpen (Connection.phase_stop connection)

/-- An open connection of the table stays there and open, or it leaves. The induction is on the
course, and the first occurrence that removes or closes it is the one by which it departs. -/
theorem stays_or_departs (listed : id ∈ registry.table)
    (opened : registry.pool.isOpen id = true) (course : History) :
    id ∈ (registry.replay course).table ∧ (registry.replay course).pool.isOpen id = true ∨
      registry.Departs id course := by
  induction course generalizing registry with
  | nil => exact Or.inl ⟨listed, opened⟩
  | cons occurrence rest inductionHypothesis =>
    by_cases removes : occurrence.action = .event (.remove id)
    · exact Or.inr ⟨[], occurrence, rest, rfl, Or.inl removes⟩
    cases stillOpen : (registry.act occurrence).pool.isOpen id with
    | false => exact Or.inr ⟨[], occurrence, rest, rfl, Or.inr ⟨opened, stillOpen⟩⟩
    | true =>
      have running : occurrence.action ≠ .event .stopAll := by
        intro stops
        rw [closed_of_stopAll listed opened stops] at stillOpen
        cases stillOpen
      rcases inductionHypothesis (mem_table_act listed removes running) stillOpen with
        stays | ⟨earlier, last, later, rfl, departs⟩
      · exact Or.inl stays
      · exact Or.inr ⟨occurrence :: earlier, last, later, rfl, departs⟩

/-! ## Confirmations -/

/-- A connection that is open while a probe waits that has asked it holds the address that it held
when the probe began. -/
theorem Session.sourceAddress (session : Session limit past look window request purpose check)
    (member : id ∈ check.targets) (held : (after limit past).pool.sourceAddress id = some source)
    (opened : (after limit (past ++ look :: window)).pool.isOpen id = true) :
    (after limit (past ++ look :: window)).pool.sourceAddress id = some source := by
  obtain ⟨connection, found, holds⟩ := (session.hears member held).listens
  obtain ⟨same, alsoFound, isOpen⟩ := Pool.isOpen_iff.mp opened
  obtain rfl := Option.some.inj (found.symm.trans alsoFound)
  exact Pool.sourceAddress_eq_some_iff.mpr ⟨connection, found, (holds isOpen).1⟩

/-- The end of a probe takes no address from a connection that was heard, and a denial takes none
from anybody. -/
theorem holds_of_heard (holds : registry.Holds id source)
    (heard : AliveCheck.counting (registry.mail.reports check.mailbox) id ≠ [])
    (denied : code ≠ .success) :
    ((registry.probed check).concluded now request code).Holds id source := by
  obtain ⟨listed, held⟩ := holds
  obtain ⟨connection, found, address⟩ := Pool.sourceAddress_eq_some_iff.mp held
  refine ⟨?_, Pool.sourceAddress_eq_some_iff.mpr ?_⟩
  · rw [concluded_value]
    exact listed
  · refine ⟨_, by rw [get?_concluded, get?_probed, found, Option.map_some, Option.map_some], ?_⟩
    rw [AliveCheck.left_of_heard fun silent => heard silent.2, settled,
      if_neg fun granted => denied granted.1]
    exact address

/-- Whoever has confirmed its address in the course of a probe vouches for it when the probe has
led to a denial. -/
theorem Session.vouches (session : Session limit past look window request purpose check)
    (member : id ∈ check.targets) (held : (after limit past).pool.sourceAddress id = some source)
    (confirms : (after limit past).confirms look window id = true) (denied : code ≠ .success)
    (asker : Request) :
    Vouches limit past look window
      (((after limit (past ++ look :: window)).probed check).concluded now asker code) id
      source := by
  have sound := sound_after limit past
  obtain ⟨listed, -⟩ := registered_of_course sound.consistent session.began.course id member
  have reached : ∀ course, ((after limit past).act look).replay course =
      after limit (past ++ look :: course) := by
    intro course
    rw [after_append, replay_cons]
  refine ⟨⟨listed, held⟩, ?_, ?_⟩
  · rw [Registry.confirms, held, Option.any_some] at confirms
    obtain ⟨before, response, rest, rfl, responds, opened⟩ := (responds_iff window).mp confirms
    rw [reached] at opened
    exact ⟨before, response, rest, rfl, responds,
      (session.upTo (List.prefix_append ..)).sourceAddress member held opened⟩
  · have listedNext : id ∈ ((after limit past).act look).table := by
      rw [session.began.act]
      exact listed
    have openedNext : ((after limit past).act look).pool.isOpen id = true := by
      apply (sound_act look sound).consistent.isOpen_of_registered
      rw [session.began.act, sourceAddress_probing]
      exact held
    refine (stays_or_departs listedNext openedNext window).imp_left ?_
    rintro ⟨stays, opened⟩
    rw [reached] at stays opened
    refine holds_of_heard ⟨stays, session.sourceAddress member held opened⟩ ?_ denied
    intro silent
    rw [(session.silent_iff member).mp silent] at confirms
    cases confirms

/-! ## Denials -/

/-- A request that has come to a stage is answered by that stage. No other stage has an answer. -/
theorem answered_of_set {stage : RequestStage}
    (set : next.request? request.id = (registry.request? request.id).map fun found =>
      if request.id = request.id then { found with stage := stage } else found)
    (returns : next.answer? request.id = some code) : stage = .answered code := by
  obtain ⟨later, foundNext, answers⟩ := Option.bind_eq_some_iff.mp returns
  have is := stage_of_set set foundNext
  rw [is] at answers
  cases stage with
  | answered given => exact congrArg RequestStage.answered (Option.some.inj answers)
  | asked => cases answers
  | inLine => cases answers
  | probing purpose check => cases answers

/-- A request that returns with a denial for the sake of others has waited for a probe, and is
denied by its outcome. -/
theorem concludes_of_denied (found : registry.request? request.id = some request)
    (undecided : registry.answer? request.id = none)
    (returns : (registry.act occurrence).answer? request.id = some code)
    (denied : code = .deniedAllSocketsRegistered ∨ code = .deniedSourceAddressActiveElsewhere) :
    ∃ purpose check, request.stage = .probing purpose check ∧
      registry.act occurrence =
        (registry.probed check).concluded occurrence.moment request code ∧
      code = (registry.probed check).verdict request purpose
        (AliveCheck.responses check.targets (registry.mail.reports check.mailbox)) := by
  have own : occurrence.action = .task (.request request.id) := by
    by_contra other
    rw [answer?, request?_unless_step found other, ← found, ← answer?, undecided] at returns
    cases returns
  have unknown : ∀ held : UInt16, knownAnswer held request.source ≠ code := by
    rintro held rfl
    unfold knownAnswer at denied
    split at denied <;> simp at denied
  have move := move_of_step found own
  generalize registry.act occurrence = next at *
  cases move with
  | rests still =>
    rw [undecided] at returns
    cases returns
  | answersAtOnce asked known =>
    exact absurd (RequestStage.answered.inj (answered_of_set (request?_answer ..) returns))
      (unknown _)
  | goesInLine asked unknown taken => cases answered_of_set (request?_setStage ..) returns
  | answersInTurn inLine holds known =>
    exact absurd (RequestStage.answered.inj
      (answered_of_set ((request?_release ..).trans (request?_answer ..)) returns)) (unknown _)
  | arbitrates arbitration =>
    cases arbitration with
    | grants turn unknown course =>
      obtain rfl := RequestStage.answered.inj (answered_of_set (request?_concluded ..) returns)
      simp at denied
    | probes turn unknown course => cases answered_of_set (request?_probing ..) returns
    | concludes waited ends =>
      have decided := RequestStage.answered.inj (answered_of_set (request?_concluded ..) returns)
      exact ⟨_, _, waited, by rw [decided], decided.symm⟩

/-- Only a probe of everybody denies for want of room, and only if enough have confirmed. Each of
those that have confirmed is in the table or has left it since, and there are at least as many as
the limit. -/
theorem Session.occupied (session : Session limit past look window request purpose check)
    (denied : ((after limit (past ++ look :: window)).probed check).verdict
      { request with stage := .probing purpose check } purpose
      (AliveCheck.responses check.targets
        ((after limit (past ++ look :: window)).mail.reports check.mailbox)) =
          .deniedAllSocketsRegistered) (asker : Request) :
    Occupied limit (past ++ look :: window) request.id
      (((after limit (past ++ look :: window)).probed check).concluded now asker
        .deniedAllSocketsRegistered) := by
  have sound := sound_after limit past
  cases purpose with
  | holder holder =>
    unfold verdict at denied
    dsimp only at denied
    split at denied
    · cases denied
    · split at denied <;> cases denied
  | capacity =>
    rw [session.verdict_capacity] at denied
    split at denied
    · rename_i enough
      refine ⟨past, look, window, request, .capacity, check, rfl, rfl, session, _, ?_, enough, ?_⟩
      · exact (nodup_of_course sound.ascending session.began.course).filter _
      · intro id member
        obtain ⟨target, confirms⟩ := List.mem_filter.mp member
        obtain ⟨-, source, held⟩ :=
          registered_of_course sound.consistent session.began.course id target
        exact ⟨source, session.vouches target held confirms (by simp) asker⟩
    · cases denied

/-- Only a probe of a holder denies an address, and only if the holder has confirmed it or somebody
still has it. -/
theorem Session.contested (session : Session limit past look window request purpose check)
    (denied : ((after limit (past ++ look :: window)).probed check).verdict
      { request with stage := .probing purpose check } purpose
      (AliveCheck.responses check.targets
        ((after limit (past ++ look :: window)).mail.reports check.mailbox)) =
          .deniedSourceAddressActiveElsewhere) :
    Contested limit (past ++ look :: window) { request with stage := .probing purpose check }
      (((after limit (past ++ look :: window)).probed check).concluded now
        { request with stage := .probing purpose check } .deniedSourceAddressActiveElsewhere) := by
  cases purpose with
  | capacity =>
    unfold verdict at denied
    dsimp only at denied
    split at denied <;> cases denied
  | holder holder =>
    obtain ⟨-, -, other, held⟩ := holder_of_course session.began.course
    unfold verdict at denied
    dsimp only at denied
    split at denied
    · rename_i named
      obtain ⟨target, counted⟩ := (AliveCheck.confirms_responses ..).mp named
      have confirms : (after limit past).confirms look window holder = true := by
        by_contra silent
        rw [(session.silent_iff target).mpr (by simpa using silent)] at counted
        exact List.not_mem_nil counted
      exact ⟨holder, other, Or.inr ⟨past, look, window, request, _, check, rfl, rfl, session,
        session.vouches target held confirms (by simp) _⟩⟩
    · split at denied
      · rename_i still
        obtain ⟨remaining, isOther⟩ := Option.isSome_iff_exists.mp still
        have holds := List.find?_some isOther
        simp only [Bool.and_eq_true, bne_iff_ne, beq_iff_eq] at holds
        refine ⟨remaining, holds.1, Or.inl ⟨?_, ?_⟩⟩
        · rw [concluded_value]
          exact List.mem_of_find?_eq_some isOther
        · rw [concluded_value, if_neg (by simp)]
          exact holds.2
      · cases denied

/-- Whenever a request returns with a denial for the sake of others, the others stand behind it:
as many connections as may be registered, or another one with the address. Each was there when
the probe began and has confirmed its address since, and is still there unless it has left in the
course of the probe. -/
theorem denials_justified (found : (after limit history).request? number = some request)
    (undecided : (after limit history).answer? number = none)
    (returns : (after limit (history ++ [ending])).answer? number = some code) :
    (code = .deniedAllSocketsRegistered →
        Occupied limit history number (after limit (history ++ [ending]))) ∧
      (code = .deniedSourceAddressActiveElsewhere →
        Contested limit history request (after limit (history ++ [ending]))) := by
  obtain rfl := id_of_request? found
  rw [after_concat] at returns ⊢
  constructor
  · rintro rfl
    obtain ⟨purpose, check, waited, reached, decided⟩ :=
      concludes_of_denied found undecided returns (Or.inl rfl)
    obtain ⟨past, look, window, begun, rfl, rfl, session⟩ := session_of_waiting found waited
    rw [reached]
    exact session.occupied decided.symm _
  · rintro rfl
    obtain ⟨purpose, check, waited, reached, decided⟩ :=
      concludes_of_denied found undecided returns (Or.inr rfl)
    obtain ⟨past, look, window, begun, rfl, rfl, session⟩ := session_of_waiting found waited
    rw [reached]
    exact session.contested decided.symm

/-- The first tester has the only place, or the address that the second asks for. It answers the
probe and closes its connection before the probe ends. -/
def parting (source : UInt16) : History :=
  [⟨0, .event (.openConnection ⟨2000, 300000⟩)⟩, ⟨0, .event (.add 1)⟩, ⟨0, .event (.start 1)⟩,
    ⟨10, .event (.request 1 0x0E00)⟩, ⟨10, .task (.request 0)⟩,
    ⟨20, .event (.openConnection ⟨2000, 300000⟩)⟩, ⟨20, .event (.add 2)⟩,
    ⟨20, .event (.start 2)⟩, ⟨30, .event (.request 2 source)⟩, ⟨30, .task (.request 1)⟩,
    ⟨40, .event (.aliveResponse 1 0x0E00)⟩, ⟨50, .event (.stop 1)⟩]

/-- When the probe ends. -/
def verdictTime : Occurrence :=
  ⟨530, .task (.request 1)⟩

/-- The second tester is denied although nobody is registered any more, for want of room or for an
address that is free. -/
theorem denied_for_the_departed :
    (Orderly 1 (parting 0x0E01 ++ [verdictTime]) ∧ Possible 1 (parting 0x0E01 ++ [verdictTime]) ∧
      (after 1 (parting 0x0E01)).answer? 1 = none ∧
      (after 1 (parting 0x0E01 ++ [verdictTime])).answer? 1 = some .deniedAllSocketsRegistered ∧
      ¬ 1 ≤ (after 1 (parting 0x0E01 ++ [verdictTime])).registered.length) ∧
    (Orderly 2 (parting 0x0E00 ++ [verdictTime]) ∧ Possible 2 (parting 0x0E00 ++ [verdictTime]) ∧
      (after 2 (parting 0x0E00)).answer? 1 = none ∧
      (after 2 (parting 0x0E00 ++ [verdictTime])).answer? 1 =
        some .deniedSourceAddressActiveElsewhere ∧
      ¬ ∃ other, other ≠ 2 ∧
        (after 2 (parting 0x0E00 ++ [verdictTime])).Holds other 0x0E00) := by
  refine ⟨⟨by decide +kernel, by decide +kernel, by decide +kernel, by decide +kernel,
    by decide +kernel⟩, by decide +kernel, by decide +kernel, by decide +kernel,
    by decide +kernel, ?_⟩
  rintro ⟨other, -, listed, held⟩
  have table : (after 2 (parting 0x0E00 ++ [verdictTime])).table = [1, 2] := by decide +kernel
  have nobody : ∀ id ∈ [1, 2],
      (after 2 (parting 0x0E00 ++ [verdictTime])).pool.sourceAddress id = none := by
    decide +kernel
  rw [table] at listed
  rw [nobody other listed] at held
  cases held

/-- The denial of the second tester has the first behind it, which has left since it confirmed its
address. -/
theorem denials_justified_parting :
    (after 1 (parting 0x0E01)).request? 1 ≠ none ∧
      (after 1 (parting 0x0E01 ++ [verdictTime])).answer? 1 = some .deniedAllSocketsRegistered ∧
      Occupied 1 (parting 0x0E01) 1 (after 1 (parting 0x0E01 ++ [verdictTime])) := by
  have made : (after 1 (parting 0x0E01)).request? 1 ≠ none := by decide +kernel
  obtain ⟨request, found⟩ := Option.ne_none_iff_exists'.mp made
  have undecided : (after 1 (parting 0x0E01)).answer? 1 = none := by decide +kernel
  have returns : (after 1 (parting 0x0E01 ++ [verdictTime])).answer? 1 =
      some .deniedAllSocketsRegistered := by decide +kernel
  exact ⟨made, returns, (denials_justified found undecided returns).1 rfl⟩

end DiagnosticGateway.Registry
