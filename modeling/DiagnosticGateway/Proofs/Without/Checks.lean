import DiagnosticGateway.Proofs.Connection.Probing
import DiagnosticGateway.Proofs.Without.Connections

/-!
# Alive checks without strangers

An alive check concerns its targets only. If no target is strange, the check takes the same course
without the strangers, and its targets have new numbers.
-/

namespace DiagnosticGateway

namespace Mail

variable {strange : ConnectionId → Bool}

/-- A mailbox keeps its reports, each under the place of its connection. The mailbox is not
renumbered, as requests are made by those who are not strange. -/
theorem reports_renumbered (mailbox : MailboxId) (mail : Mail) :
    Mail.reports mailbox (mail.map (Delivery.renumbered strange)) =
      (Mail.reports mailbox mail).map (AliveReport.renumbered strange) := by
  unfold reports
  induction mail with
  | nil => rfl
  | cons first rest inductionHypothesis =>
    have same : (first.renumbered strange).mailbox = first.mailbox := rfl
    by_cases here : first.mailbox = mailbox
    · simp [here, inductionHypothesis, Delivery.renumbered]
    · simp [same, here, inductionHypothesis]

/-- If no stranger reports to anybody, none reports to a given mailbox. -/
theorem known_of_reported {mail : Mail}
    (reported : ∀ delivery ∈ mail, strange delivery.report.connection = false)
    (mailbox : MailboxId) :
    ∀ report ∈ Mail.reports mailbox mail, strange report.connection = false := by
  intro report member
  obtain ⟨delivery, chosen, rfl⟩ := List.mem_map.mp member
  exact reported delivery (List.mem_of_mem_filter chosen)

/-- A mailbox is emptied under the places as it is under the numbers. -/
theorem discard_renumbered (mailbox : MailboxId) (mail : Mail) :
    Mail.discard mailbox (mail.map (Delivery.renumbered strange)) =
      (Mail.discard mailbox mail).map (Delivery.renumbered strange) := by
  unfold discard
  rw [List.filter_map]
  rfl

end Mail

namespace AliveCheck

/-- Connections with their subscriptions, under their new numbers. -/
def renumberedEntries {entry : Type} (strange : ConnectionId → Bool)
    (entries : List (ConnectionId × entry)) : List (ConnectionId × entry) :=
  entries.map fun entry => (place strange entry.1, entry.2)

/-- The check of the connections under their new numbers. -/
def renumbered (strange : ConnectionId → Bool) (check : AliveCheck) : AliveCheck :=
  { check with
    targets := check.targets.map (place strange)
    subscriptions := renumberedEntries strange check.subscriptions }

variable {strange : ConnectionId → Bool} {target : ConnectionId} {targets : List ConnectionId}
  {reports : List AliveReport}

/-! ## The start of a check -/

/-- Asking a target that is no stranger is asking its place. -/
theorem askTarget_without (known : strange target = false) (mailbox : MailboxId) (pool : Pool) :
    (askTarget mailbox (place strange target) (pool.without strange)).value =
      ((askTarget mailbox target pool).value.1.without strange,
        (askTarget mailbox target pool).value.2) := by
  have asked := Pool.without_ask_of_known known
    (fun connection => (return connection.subscribe mailbox : Logged _))
    (Connection.id_next 0 (.subscribe mailbox)) (Connection.subscribe_renumbered mailbox) pool
  simp only [askTarget, Logged.value_bind, asked]
  split
  · simp only [Logged.value_bind, Logged.value_pure, Pool.without_send_of_known known]
  · rfl

/-- The targets are asked at their places in their order, and each gets the subscription it would
have got. -/
theorem askTargets_without (known : ∀ target ∈ targets, strange target = false)
    (mailbox : MailboxId) (pool : Pool) :
    (askTargets mailbox (targets.map (place strange)) (pool.without strange)).value =
      ((askTargets mailbox targets pool).value.1.without strange,
        renumberedEntries strange (askTargets mailbox targets pool).value.2) := by
  induction targets generalizing pool with
  | nil => rfl
  | cons first rest inductionHypothesis =>
    have asked := askTarget_without (known first List.mem_cons_self) mailbox pool
    have later := inductionHypothesis (fun target member => known target
      (List.mem_cons_of_mem _ member)) (askTarget mailbox first pool).value.1
    simp only [List.map_cons, askTargets, Logged.value_bind, Logged.value_pure, asked, later]
    congr 1
    cases (askTarget mailbox first pool).value.2 <;> rfl

/-! ## The end of a check -/

/-- The check ceases to listen to the same connections. The induction is on the subscriptions, which
are ended one after the other. -/
theorem unsubscribeAll_without {subscriptions : List (ConnectionId × SubscriberId)}
    (known : ∀ entry ∈ subscriptions, strange entry.1 = false) (pool : Pool) :
    unsubscribeAll (renumberedEntries strange subscriptions) (pool.without strange) =
      (unsubscribeAll subscriptions pool).without strange := by
  induction subscriptions generalizing pool with
  | nil => rfl
  | cons first rest inductionHypothesis =>
    have ended := Pool.without_update_of_known (known first List.mem_cons_self)
      (Connection.unsubscribe first.2) (fun _ => rfl) (fun _ => rfl) pool
    have later := inductionHypothesis (fun entry member => known entry
      (List.mem_cons_of_mem _ member))
      (pool.update first.1 (Connection.unsubscribe first.2))
    rw [← ended] at later
    exact later

/-- Reports count for the same connections under their new numbers. The reports that are counted are
all from connections that are known, so no two of them get the same place. -/
theorem counting_renumbered (known : strange target = false)
    (knownReports : ∀ report ∈ reports, strange report.connection = false) :
    counting (reports.map (AliveReport.renumbered strange)) (place strange target) =
      counting reports target := by
  induction reports with
  | nil => rfl
  | cons first rest inductionHypothesis =>
    have later := inductionHypothesis fun report member =>
      knownReports report (List.mem_cons_of_mem _ member)
    have here : ((first.renumbered strange).connection == place strange target) =
        (first.connection == target) := by
      rw [Bool.eq_iff_iff, beq_iff_eq, beq_iff_eq]
      exact place_inj (knownReports first List.mem_cons_self) known
    have same : (first.renumbered strange).confirms = first.confirms := rfl
    unfold counting at later ⊢
    rw [List.map_cons, List.filter_cons, List.filter_cons, here, same]
    cases first.connection == target && first.confirms
    · exact later
    · exact congrArg (first.reported :: ·) later

/-- Numbers that are not strange repeat under their new numbers where they repeat. The recursion is
that of the function, on the list without the first number. -/
theorem eraseDups_place : (targets : List ConnectionId) →
    (∀ target ∈ targets, strange target = false) →
    (targets.map (place strange)).eraseDups = targets.eraseDups.map (place strange)
  | [], _ => rfl
  | first :: rest, known => by
    have apart : (rest.map (place strange)).filter (fun other => !other == place strange first) =
        (rest.filter fun other => !other == first).map (place strange) := by
      rw [List.filter_map]
      congr 1
      refine List.filter_congr fun other member => ?_
      have same := place_inj (known other (List.mem_cons_of_mem _ member))
        (known first List.mem_cons_self)
      simp [same]
    rw [List.map_cons, List.eraseDups_cons, List.eraseDups_cons, List.map_cons, apart,
      eraseDups_place _ fun target member => known target
        (List.mem_cons_of_mem _ (List.mem_of_mem_filter member))]
termination_by targets => targets.length
decreasing_by exact Nat.lt_succ_of_le (List.length_filter_le ..)

/-- The responses to a check are those of its targets, listed under their places. -/
theorem responses_renumbered (known : ∀ target ∈ targets, strange target = false)
    (knownReports : ∀ report ∈ reports, strange report.connection = false) :
    responses (targets.map (place strange)) (reports.map (AliveReport.renumbered strange)) =
      renumberedEntries strange (responses targets reports) := by
  unfold responses renumberedEntries
  rw [eraseDups_place targets known, List.map_map, List.map_map]
  refine List.map_congr_left fun target member => ?_
  have knownTarget := known target (List.mem_eraseDups.mp member)
  simp only [Function.comp_apply, counting_renumbered knownTarget knownReports]

/-- The same targets are silent, and they are closed. The induction is on the targets, and the
reports of each are the same ones. -/
theorem closeSilent_without (known : ∀ target ∈ targets, strange target = false)
    (knownReports : ∀ report ∈ reports, strange report.connection = false) (pool : Pool) :
    (closeSilent (reports.map (AliveReport.renumbered strange)) (targets.map (place strange))
        (pool.without strange)).value =
      (closeSilent reports targets pool).value.without strange := by
  induction targets generalizing pool with
  | nil => rfl
  | cons first rest inductionHypothesis =>
    have later := inductionHypothesis fun target member =>
      known target (List.mem_cons_of_mem _ member)
    have knownFirst := known first List.mem_cons_self
    rw [List.map_cons, closeSilent, closeSilent, counting_renumbered knownFirst knownReports]
    split
    · simp only [Logged.value_bind, Pool.without_stop_of_known knownFirst]
      exact later _
    · exact later _

/-! ## What responses come to -/

/-- Places do not change which addresses have shown to be alive. -/
theorem alive_renumbered (responses : Responses) :
    Responses.alive (renumberedEntries strange responses) = responses.alive := by
  unfold Responses.alive renumberedEntries
  rw [List.filter_map, List.length_map]
  rfl

/-- Whether a target has confirmed an address can be read off its place. Different numbers that are
not strange have different places. -/
theorem confirms_renumbered {responses : Responses}
    (known : ∀ entry ∈ responses, strange entry.1 = false) (knownTarget : strange target = false)
    (source : UInt16) :
    Responses.confirms (renumberedEntries strange responses) (place strange target) source =
      responses.confirms target source := by
  unfold Responses.confirms renumberedEntries
  induction responses with
  | nil => rfl
  | cons first rest inductionHypothesis =>
    have here : (place strange first.1 == place strange target) = (first.1 == target) := by
      rw [Bool.eq_iff_iff, beq_iff_eq, beq_iff_eq]
      exact place_inj (known first List.mem_cons_self) knownTarget
    have later := inductionHypothesis fun entry member => known entry (List.mem_cons_of_mem _ member)
    rw [List.map_cons, List.any_cons, List.any_cons, here, later]

end AliveCheck

end DiagnosticGateway
