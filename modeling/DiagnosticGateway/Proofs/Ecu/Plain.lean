import DiagnosticGateway.Config.Basic
import DiagnosticGateway.Proofs.Ecu.Response
import DiagnosticGateway.Proofs.Wire.Legible

/-!
# ECUs without hooks

An ECU that has no hook answers from its lookup table, or rejects a request, or is busy. A reject
and a busy answer have three bytes. No line of a lookup table has an empty response, so what the ECU
says can be carried by a diagnostic message as long as the responses that are configured are short
enough.
-/

namespace DiagnosticGateway

open Wire (Carriable)

namespace Ecu

/-- The response of a line, if it can be read, is short enough for a diagnostic message. -/
def LookupRule.HasRoom (rule : LookupRule) : Prop :=
  ∀ response ∈ (Text.Hex.decode (Text.withoutBlanks rule.response)).toOption,
    response.length < UInt32.size - 4

instance (rule : LookupRule) : Decidable rule.HasRoom :=
  inferInstanceAs (Decidable (∀ response ∈ Except.toOption _, _))

/-- An ECU without a hook, whose lookup table gives what a diagnostic message can carry. -/
structure Plain (ecu : Ecu) : Prop where
  unhooked : ecu.hook = none
  carriable : ∀ entry ∈ ecu.lookup.entries, Carriable entry.response

variable {ecu : Ecu} {event : Event} {request response : Message}

/-- A negative response can be carried. -/
theorem carriable_negativeResponse (service reason : UInt8) :
    Carriable (Uds.negativeResponse service reason) where
  something := List.cons_ne_nil _ _
  bounded := by simp [Uds.negativeResponse, UInt32.size]

namespace Plain

/-- Whether an ECU is plain depends on its hook and its lookup table alone. -/
theorem congr {later : Ecu} (plain : ecu.Plain) (hook : later.hook = ecu.hook)
    (lookup : later.lookup = ecu.lookup) : later.Plain where
  unhooked := hook.trans plain.unhooked
  carriable := lookup ▸ plain.carriable

/-- What the lookup table gives, or else the reject, can be carried. -/
theorem carriable_tableReply (plain : ecu.Plain) (request : Message) :
    Carriable (ecu.tableReply request) := by
  unfold tableReply LookupTable.find?
  cases found : ecu.lookup.entries.find? (LookupEntry.answers (request.data.take ecu.maxLookup)) with
  | none => exact carriable_negativeResponse _ _
  | some entry => exact plain.carriable entry (List.mem_of_find?_eq_some found)

/-- The worker answers from the lookup table. -/
theorem answerTo_value (plain : ecu.Plain) (request : Message) :
    (ecu.answerTo request).value = (ecu.tableReply request, false) := by
  rw [(Ecu.answerTo_value request ecu).1, plain.unhooked]
  rfl

/-- An ECU says something that a diagnostic message can carry, or nothing. -/
def Says (outcome : Outcome) : Prop :=
  outcome.ecu.Plain ∧ ∀ emission ∈ outcome.emissions, Carriable emission.message.data

/-- A plain ECU may say nothing. -/
theorem says_nothing (plain : ecu.Plain) : Says ⟨ecu, []⟩ :=
  ⟨plain, fun _ member => absurd member List.not_mem_nil⟩

/-- A plain ECU may say what can be carried. -/
theorem says_emit (plain : ecu.Plain) (carriable : Carriable response.data) :
    Says (ecu.emit response).value := by
  refine ⟨plain.congr rfl rfl, fun emission member => ?_⟩
  obtain ⟨listener, -, rfl⟩ := List.mem_map.mp member
  exact carriable

/-- A plain ECU says nothing when a request is put to it. It may say that it is busy, and this has
three bytes. -/
theorem says_put (plain : ecu.Plain) (request : Message) : Says (ecu.put request).value := by
  unfold put
  split
  · exact says_nothing plain
  split
  · let busy := ecu.responseTo request
      (Uds.negativeResponse (Uds.requestService request.data) Uds.busyRepeatRequest)
    have carriable : Carriable busy.data := carriable_negativeResponse _ _
    obtain ⟨still, said⟩ := plain.says_emit carriable
    simp only [Logged.value_bind]
    split
    · exact ⟨still.congr rfl rfl, said⟩
    · exact ⟨still, said⟩
  · split
    · exact says_nothing (plain.congr rfl rfl)
    · exact says_nothing plain

/-- A plain ECU says at most the response from its table, and that can be carried. Without a hook
the answer is that of the table, or the reject. -/
theorem says_work (plain : ecu.Plain) : Says ecu.work.value := by
  unfold work
  split
  · rename_i request waiting _
    have taken : Plain { ecu with queue := some waiting } := plain.congr rfl rfl
    have answered : Plain { ecu with queue := some waiting, busy := false } := plain.congr rfl rfl
    simp only [process, Logged.value_bind, taken.answerTo_value, Bool.false_eq_true, if_false]
    refine answered.says_emit ?_
    exact taken.carriable_tableReply request
  · exact says_nothing plain

/-- Whatever happens to a plain ECU, unless it gets a hook, it stays plain, and what it says can be
carried. -/
theorem says_apply (plain : ecu.Plain) (unset : ∀ hook, event ≠ .setHook hook) :
    Says (ecu.apply event).value := by
  cases event with
  | put request => exact plain.says_put request
  | work => exact plain.says_work
  | setHook hook => exact absurd rfl (unset hook)
  | addListener id => exact says_nothing (plain.congr rfl rfl)
  | dropListener id => exact says_nothing (plain.congr rfl rfl)
  | start =>
    simp only [apply, start]
    split <;> exact says_nothing (plain.congr rfl rfl)
  | stop =>
    simp only [apply, stop]
    split <;> exact says_nothing (plain.congr rfl rfl)
  | release =>
    simp only [apply, release]
    split <;> exact says_nothing (plain.congr rfl rfl)

end Plain

/-! ## Configured ECUs -/

/-- What a line gives was decoded from its response and is not empty. The room was given for the
decoded bytes, so the entry fits into a message. -/
theorem LookupEntry.carriable_ofRule {library : Pattern.Library} {rule : LookupRule}
    {entry : LookupEntry} (read : ofRule library rule = .ok entry) (room : rule.HasRoom) :
    Carriable entry.response := by
  unfold ofRule at read
  split at read
  · cases read
  split at read
  · cases read
  · cases read
  · rename_i response filled decoded
    obtain rfl := Except.ok.inj read
    refine ⟨filled, room response ?_⟩
    rw [decoded]
    rfl

/-- Every entry of a table was read from a line. The induction is on the lines, each of which gives
one entry. -/
theorem LookupTable.rule_of_mem {library : Pattern.Library} {rules : List LookupRule}
    {entries : List LookupEntry} (read : entriesOf library rules = .ok entries)
    {entry : LookupEntry} (member : entry ∈ entries) :
    ∃ rule ∈ rules, LookupEntry.ofRule library rule = .ok entry := by
  induction rules generalizing entries with
  | nil =>
    obtain rfl := Except.ok.inj read
    cases member
  | cons rule rest inductionHypothesis =>
    unfold entriesOf at read
    split at read
    · cases read
    rename_i first readFirst
    split at read
    · cases read
    rename_i others readOthers
    obtain rfl := Except.ok.inj read
    rcases List.mem_cons.mp member with rfl | later
    · exact ⟨rule, List.mem_cons_self, readFirst⟩
    · obtain ⟨origin, listed, readLater⟩ := inductionHypothesis readOthers later
      exact ⟨origin, List.mem_cons_of_mem _ listed, readLater⟩

end Ecu

/-- An ECU of a configuration has no hook, and is plain if its responses are short enough. An entry
gives the response of its line, so what can be carried is decided by the configuration. -/
theorem EcuConfig.plain_build {library : Pattern.Library} {config : EcuConfig}
    {maxLookup maxLogging : Nat} {ecu : Ecu}
    (built : config.build library maxLookup maxLogging = .ok ecu)
    (room : ∀ rule ∈ config.lookup, rule.HasRoom) : ecu.Plain := by
  unfold build lookupTable Ecu.LookupTable.ofRules at built
  split at built
  · cases built
  rename_i table read
  obtain rfl := Except.ok.inj built
  refine ⟨rfl, fun entry member => ?_⟩
  split at read
  · rename_i other tabled
    obtain rfl := Except.ok.inj read
    split at tabled
    · cases tabled
    · rename_i entries readAll
      obtain rfl := Except.ok.inj tabled
      obtain ⟨rule, listed, readRule⟩ := Ecu.LookupTable.rule_of_mem readAll member
      exact Ecu.LookupEntry.carriable_ofRule readRule (room rule listed)
  · cases read

/-- Every ECU was built from a configuration. The configurations are taken one after the other, and
the first that fails ends it; so all of them have been built. -/
theorem EcuConfig.origin_of_mem {library : Pattern.Library} {configs : List EcuConfig}
    {maxLookup maxLogging : Nat} {ecus : List Ecu}
    (built : configs.mapM (build library maxLookup maxLogging) = .ok ecus) {ecu : Ecu}
    (member : ecu ∈ ecus) :
    ∃ config ∈ configs, config.build library maxLookup maxLogging = .ok ecu := by
  induction configs generalizing ecus with
  | nil =>
    obtain rfl := Except.ok.inj built
    cases member
  | cons first rest inductionHypothesis =>
    rw [List.mapM_cons] at built
    cases builtFirst : first.build library maxLookup maxLogging with
    | error fault =>
      rw [builtFirst] at built
      cases built
    | ok head =>
      cases builtRest : rest.mapM (build library maxLookup maxLogging) with
      | error fault =>
        rw [builtFirst, builtRest] at built
        cases built
      | ok others =>
        rw [builtFirst, builtRest] at built
        obtain rfl := Except.ok.inj built
        rcases List.mem_cons.mp member with rfl | later
        · exact ⟨first, List.mem_cons_self, builtFirst⟩
        · obtain ⟨origin, listed, same⟩ := inductionHypothesis builtRest later
          exact ⟨origin, List.mem_cons_of_mem _ listed, same⟩

namespace GatewayConfig

/-- The responses of all lookup tables are short enough for diagnostic messages. -/
def HasRoom (config : GatewayConfig) : Prop :=
  ∀ ecu ∈ config.ecus, ∀ rule ∈ ecu.lookup, rule.HasRoom

instance (config : GatewayConfig) : Decidable config.HasRoom :=
  inferInstanceAs (Decidable (∀ ecu ∈ config.ecus, ∀ rule ∈ ecu.lookup, _))

/-- The ECUs of such a configuration are plain. -/
theorem plain_buildEcus {library : Pattern.Library} {config : GatewayConfig} {ecus : List Ecu}
    (built : config.buildEcus library = .ok ecus) (room : config.HasRoom) :
    ∀ ecu ∈ ecus, ecu.Plain := by
  intro ecu member
  obtain ⟨origin, listed, same⟩ := EcuConfig.origin_of_mem built member
  exact EcuConfig.plain_build same (room origin listed)

end GatewayConfig

end DiagnosticGateway
