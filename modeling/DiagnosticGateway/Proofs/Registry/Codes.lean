import DiagnosticGateway.Proofs.Registry.Denial

/-!
# The codes of decisions

Whatever a request is answered, the code of the answer is one of those that have a name. It is
granted, or it is denied for the address of its own connection, for that of another connection, or
for want of room.
-/

namespace DiagnosticGateway.Registry

open Wire (ActivationCode)

/-- Every request that was decided has got a code with a name. -/
def DecidesByName (registry : Registry) : Prop :=
  ∀ number code, registry.answer? number = some code → ∀ byte, code ≠ .reserved byte

variable {registry next : Registry} {request : Request} {now : Milliseconds}
  {occurrence : Occurrence} {code : ActivationCode}

/-- A new registry has decided nothing. -/
theorem decidesByName_new (limit : Nat) : (new limit).DecidesByName := by
  intro number code returns
  cases returns

/-- The answer for a connection that holds an address has a name. -/
theorem knownAnswer_ne_reserved (held source : UInt16) (byte : UInt8) :
    knownAnswer held source ≠ .reserved byte := by
  unfold knownAnswer
  split <;> simp

/-- The outcome of a probe has a name. The cases are the purposes of a probe, and the two or three
outcomes of each. -/
theorem verdict_ne_reserved (purpose : ProbePurpose) (responses : AliveCheck.Responses)
    (byte : UInt8) : registry.verdict request purpose responses ≠ .reserved byte := by
  unfold verdict
  cases purpose with
  | capacity =>
    dsimp only
    split <;> simp
  | holder holder =>
    dsimp only
    split
    · simp
    · split <;> simp

/-- A request that is answered after its step was answered before it, or has got a code with a
name. -/
theorem Move.named (move : Move now request registry next)
    (returns : next.answer? request.id = some code) :
    registry.answer? request.id = some code ∨ ∀ byte, code ≠ .reserved byte := by
  cases move with
  | rests still => exact Or.inl returns
  | answersAtOnce asked known =>
    obtain rfl := RequestStage.answered.inj (answered_of_set (request?_answer ..) returns)
    exact Or.inr (knownAnswer_ne_reserved _ _)
  | goesInLine asked unknown taken => cases answered_of_set (request?_setStage ..) returns
  | answersInTurn inLine holds known =>
    obtain rfl := RequestStage.answered.inj
      (answered_of_set ((request?_release ..).trans (request?_answer ..)) returns)
    exact Or.inr (knownAnswer_ne_reserved _ _)
  | arbitrates arbitration =>
    cases arbitration with
    | grants turn unknown course =>
      obtain rfl := RequestStage.answered.inj (answered_of_set (request?_concluded ..) returns)
      exact Or.inr (by simp)
    | probes turn unknown course => cases answered_of_set (request?_probing ..) returns
    | concludes waited ends =>
      have decided := RequestStage.answered.inj (answered_of_set (request?_concluded ..) returns)
      rw [← decided]
      exact Or.inr (verdict_ne_reserved _ _)

/-- Whatever happens, codes that are given have names. Codes are given by the three ways of deciding
a request, and each of them is a constructor with a name. -/
theorem DecidesByName.act (named : registry.DecidesByName) (occurrence : Occurrence) :
    (registry.act occurrence).DecidesByName := by
  intro number code returns
  obtain ⟨later, foundLater, answers⟩ := Option.bind_eq_some_iff.mp returns
  by_cases own : occurrence.action = .task (.request number)
  · cases found : registry.request? number with
    | none =>
      rw [act_of_missing found own] at returns
      exact named number code returns
    | some request =>
      obtain rfl := id_of_request? found
      exact ((move_of_step found own).named returns).elim (named _ code) id
  · rcases request?_before foundLater own with earlier | asked
    · exact named number code (Option.bind_eq_some_iff.mpr ⟨later, earlier, answers⟩)
    · rw [asked] at answers
      cases answers

end DiagnosticGateway.Registry
