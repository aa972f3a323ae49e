import DiagnosticGateway.Proofs.AliveCheck.Course

/-!
# The conduct of an alive check

An alive check asks each open target once for every time it is named and waits. The wait is over
when the window has elapsed or the sign ends it, and then the check judges. While it waits, an
open target has as many listeners as it was named, so each response that names the registered
address is reported that many times, in the order in which the responses arrive. Whatever else
happens meanwhile, other checks included, adds and takes away no report of this check.
-/

namespace DiagnosticGateway

namespace AliveCheck

/-- Every address of a list, several times in a row. -/
def repeated (times : Nat) (addresses : List UInt16) : List UInt16 :=
  addresses.flatMap (List.replicate times)

/-- No address is not repeated. -/
@[simp] theorem repeated_nil (times : Nat) : repeated times [] = [] := rfl

/-- Addresses that are repeated stay in their order. -/
@[simp] theorem repeated_append (times : Nat) (earlier later : List UInt16) :
    repeated times (earlier ++ later) = repeated times earlier ++ repeated times later := by
  simp [repeated]

/-- One address is repeated as often as it is heard. -/
theorem repeated_singleton (times : Nat) (address : UInt16) :
    repeated times [address] = List.replicate times address := by
  simp [repeated]

/-- What is repeated at all is lost only if there was nothing. -/
theorem repeated_eq_nil {times : Nat} (some : 0 < times) {addresses : List UInt16} :
    repeated times addresses = [] ↔ addresses = [] := by
  cases addresses with
  | nil => simp
  | cons address rest =>
    obtain ⟨once, rfl⟩ := Nat.exists_eq_succ_of_ne_zero (Nat.ne_of_gt some)
    simp [repeated, List.replicate_succ]

/-- The reports on a target are counted in their order. -/
theorem counting_append (earlier later : List AliveReport) (target : ConnectionId) :
    counting (earlier ++ later) target = counting earlier target ++ counting later target := by
  simp [counting]

/-- Without its repetitions a list names nothing twice. -/
theorem nodup_eraseDups : (targets : List ConnectionId) → targets.eraseDups.Nodup
  | [] => List.nodup_nil
  | target :: rest => by
    rw [List.eraseDups_cons, List.nodup_cons]
    refine ⟨?_, nodup_eraseDups _⟩
    simp [List.mem_eraseDups]
termination_by targets => targets.length
decreasing_by exact Nat.lt_succ_of_le (List.length_filter_le ..)

/-- Reports that are all the same count all or not at all. -/
theorem counting_replicate (times : Nat) (report : AliveReport) (target : ConnectionId) :
    counting (List.replicate times report) target =
      repeated times
        (if report.connection = target ∧ report.registered = some report.reported then
          [report.reported] else []) := by
  by_cases counts : report.connection = target ∧ report.registered = some report.reported
  · rw [if_pos counts, repeated_singleton]
    simp [counting, AliveReport.confirms, counts.1, counts.2]
  · rw [if_neg counts, repeated_nil]
    simp only [not_and] at counts
    simpa [counting, AliveReport.confirms] using fun _ => counts

end AliveCheck

namespace Mail

/-- The reports in a mailbox keep the order in which they came. -/
theorem reports_append (mailbox : MailboxId) (earlier later : Mail) :
    reports mailbox (earlier ++ later) = reports mailbox earlier ++ reports mailbox later := by
  simp [reports]

/-- The reports in one mailbox are there when another has been emptied. -/
theorem reports_discard {mailbox other : MailboxId} (different : other ≠ mailbox) (mail : Mail) :
    reports mailbox (discard other mail) = reports mailbox mail := by
  simp only [reports, discard, List.filter_filter]
  congr 1
  apply List.filter_congr
  intro delivery _
  by_cases own : delivery.mailbox = mailbox
  · simp [own, Ne.symm different]
  · simp [own]

/-- A report that goes to every subscriber comes to a mailbox once for each of its listeners. A
mailbox may be named by several subscribers, so reports are counted and not only found. -/
theorem reports_subscribers (mailbox : MailboxId) (connection : Connection)
    (report : AliveReport) :
    reports mailbox (connection.subscribers.map fun entry => ⟨entry.mailbox, report⟩) =
      List.replicate (connection.listeners mailbox) report := by
  unfold Connection.listeners
  induction connection.subscribers with
  | nil => rfl
  | cons entry rest inductionHypothesis =>
    simp only [reports, List.map_cons] at inductionHypothesis ⊢
    by_cases own : entry.mailbox = mailbox
    · simp [own, inductionHypothesis, List.replicate_succ]
    · simp [own, inductionHypothesis]

end Mail

namespace Simulation.AliveCheckBench

open AliveCheck

variable {bench : AliveCheckBench} {now start moment : Milliseconds} {number other : Nat}
  {run : CheckRun} {check : AliveCheck} {id : ConnectionId} {connection : Connection}
  {happening : Happening} {course before during : Course}

/-! ## The responses in a course -/

/-- The address by which a happening counts for a connection: a response has arrived on it while
it is open, and names the address that is registered. -/
def reply (id : ConnectionId) (happening : Happening) (bench : AliveCheckBench) : List UInt16 :=
  match happening with
  | .event other (.aliveResponse source) _ =>
    if other = id ∧ bench.registry.pool.isOpen id = true ∧
        bench.registry.pool.sourceAddress id = some source then
      [source]
    else []
  | _ => []

/-- The addresses that count for a connection in a course, in the order of their arrival. -/
def replies (id : ConnectionId) : Course → AliveCheckBench → List UInt16
  | [], _ => []
  | entry :: rest, bench => bench.reply id entry.2 ++ replies id rest (bench.meet entry.1 entry.2)

/-- The last happening of a course may be one more reply. -/
theorem replies_concat (course : Course) (entry : Milliseconds × Happening) :
    bench.replies id (course ++ [entry]) =
      bench.replies id course ++ (bench.follow course).reply id entry.2 := by
  induction course generalizing bench with
  | nil => simp [replies, follow]
  | cons first rest inductionHypothesis =>
    simp only [List.cons_append, replies, inductionHypothesis, follow, List.foldl_cons,
      List.append_assoc]

/-! ## One happening while a check waits -/

/-- The targets of a check are listened to as long as they are open. -/
def Listened (bench : AliveCheckBench) (number : Nat) (run : CheckRun) : Prop :=
  ∀ id connection, bench.registry.pool.get? id = some connection → connection.phase ≠ .closed →
    connection.listeners number = run.targets.count id

/-- A check that asks gets its listeners. There is one listener for each time a target is listed, as
long as the target is open. -/
theorem listened_begun (kept : bench.Kept) (found : bench.runs[number]? = some run)
    (ready : run.stage = .ready) : (bench.begun now number run).Listened number run := by
  intro id connection asked opened
  obtain ⟨earlier, before, rfl⟩ := Option.map_eq_some_iff.mp
    ((get?_askTargets number id run.targets bench.registry.pool).symm.trans asked)
  rw [Connection.phase_askedAmong] at opened
  have nobody : earlier.listeners number = 0 := by
    refine List.countP_eq_zero.mpr fun entry listens => ?_
    have idle : ∀ waiter check, ¬ bench.Waits number waiter check := by
      rintro waiter check ⟨alsoFound, waiting⟩
      obtain rfl := Option.some.inj (found.symm.trans alsoFound)
      rw [ready] at waiting
      cases waiting
    simpa using kept.no_listener idle before entry listens
  rw [Connection.listeners_askedAmong opened, nobody, if_pos rfl, Nat.zero_add]

/-- A check that asks later gets no listener of another mailbox, and a check that ends takes
none. -/
theorem Listened.goOn (kept : bench.Kept) (waits : bench.Waits number run check)
    (listened : bench.Listened number run)
    (still : (bench.meet now (.goOn other)).Waits number run check) :
    (bench.meet now (.goOn other)).Listened number run := by
  have progress := goesOn now other bench
  generalize bench.meet now (.goOn other) = later at progress still
  cases progress with
  | rests unable => exact listened
  | @begins beginner found ready =>
    have different : number ≠ other := by
      rintro rfl
      obtain rfl := Option.some.inj (found.symm.trans waits.1)
      cases ready.symm.trans waits.2
    intro id connection asked opened
    obtain ⟨earlier, before, rfl⟩ := Option.map_eq_some_iff.mp
      ((get?_askTargets other id beginner.targets bench.registry.pool).symm.trans asked)
    rw [Connection.phase_askedAmong] at opened
    rw [Connection.listeners_askedAmong opened, if_neg different, Nat.add_zero]
    exact listened id earlier before opened
  | @ends ender held waited due =>
    have different : number ≠ other := by
      rintro rfl
      have finished := runs_setStage_self
        (.finished now (responses held.targets (bench.registry.mail.reports number))) waited.1
      obtain rfl := Option.some.inj (finished.symm.trans still.1)
      cases still.2
    intro id connection left opened
    obtain ⟨earlier, before, rfl⟩ := Option.map_eq_some_iff.mp
      ((get?_finish _ _ held id bench.registry.pool).symm.trans left)
    have heard : ¬ (id ∈ held.targets ∧
        counting (bench.registry.mail.reports other) id = []) := fun silent =>
      opened (left_of_silent silent)
    rw [left_of_heard heard] at opened ⊢
    refine Eq.trans ?_ (listened id earlier before opened)
    simp only [Connection.listeners, List.countP_filter]
    refine List.countP_congr fun entry listens => ?_
    have kind : entry.mailbox = number → (id, entry.id) ∉ held.subscriptions := by
      rintro rfl recorded
      obtain ⟨same, alsoBefore, -, mailbox⟩ := kept.recorded waited recorded
      obtain rfl := Option.some.inj (before.symm.trans alsoBefore)
      exact different (mailbox entry listens rfl)
    simpa using kind

/-- Whatever happens, the targets of a check that waits are listened to. A listener goes with the
close of its connection or with the end of its check, and neither has come for an open target of a
check that waits. -/
theorem Listened.meet (kept : bench.Kept) (waits : bench.Waits number run check)
    (listened : bench.Listened number run) (still : (bench.meet now happening).Waits number run check) :
    (bench.meet now happening).Listened number run := by
  cases happening with
  | opening timings =>
    intro id connection found opened
    rcases Option.or_eq_some_iff.mp ((Pool.get?_insert ..).symm.trans found) with old | ⟨none, new⟩
    · exact listened id connection old opened
    · have strange : id ∉ run.targets := by
        intro named
        obtain ⟨known, present⟩ := kept.present run (List.mem_of_getElem? waits.1) id named
        rw [none] at present
        cases present
      split at new
      · obtain rfl := Option.some.inj new
        rw [List.count_eq_zero.mpr strange]
        rfl
      · cases new
  | event subject event apart =>
    intro id connection found opened
    obtain ⟨earlier, before, rfl⟩ := Option.map_eq_some_iff.mp
      ((get?_occur now subject event bench.registry id).symm.trans found)
    by_cases here : id = subject
    · rw [if_pos here] at opened ⊢
      obtain ⟨open_, same⟩ := Connection.subscribers_next now apart opened
      rw [Connection.listeners, same]
      exact listened id earlier before open_
    · rw [if_neg here] at opened ⊢
      exact listened id earlier before opened
  | call window targets sign =>
    by_cases exist : targets.all fun target => (bench.registry.pool.get? target).isSome
    · have met : bench.meet now (.call window targets sign) = (bench.call window targets sign).1 :=
        if_pos exist
      rw [met]
      exact listened
    · have met : bench.meet now (.call window targets sign) = bench := if_neg exist
      rw [met]
      exact listened
  | signal sign interrupted =>
    have same : (bench.signal sign interrupted).registry = bench.registry := by
      unfold AliveCheckBench.signal
      split <;> rfl
    intro id connection found
    exact listened id connection (same ▸ found)
  | abandon sign => exact listened
  | goOn other => exact Listened.goOn kept waits listened still

/-- A response on an open connection that is listened to is reported as often as the connection
is a target. -/
theorem counting_event (kept : bench.Kept) (listened : bench.Listened number run)
    (subject : ConnectionId) (source : UInt16) :
    counting (Mail.reports number (bench.registry.pool.aliveResponse subject source).value) id =
      repeated (run.targets.count id)
        (bench.reply id (.event subject (.aliveResponse source) rfl)) := by
  rw [Pool.aliveResponse_value]
  cases found : bench.registry.pool.get? subject with
  | none =>
    have nobody : bench.registry.pool.isOpen subject = false := by simp [Pool.isOpen, found]
    by_cases here : subject = id
    · subst here
      simp [reply, nobody, Mail.reports, counting]
    · simp [reply, here, Mail.reports, counting]
  | some connection =>
    rw [Option.elim_some, Mail.reports_subscribers, counting_replicate]
    have name : connection.id = subject := Pool.id_of_get? found
    have address : bench.registry.pool.sourceAddress subject = connection.sourceAddress := by
      simp [Pool.sourceAddress, found]
    by_cases here : subject = id
    · subst here
      by_cases closed : connection.phase = .closed
      · have nobody : connection.listeners number = 0 := by
          simp [Connection.listeners,
            (kept.consistent subject connection found).subscribers closed]
        have shut : bench.registry.pool.isOpen subject = false := by
          simp [Pool.isOpen, found, Connection.isClosed, closed]
        rw [nobody]
        simp [reply, shut, repeated]
      · have opened : bench.registry.pool.isOpen subject = true :=
          Pool.isOpen_iff.mpr ⟨connection, found, closed⟩
        rw [listened subject connection found closed]
        simp [reply, opened, address, name, Connection.reportOf]
    · have apart : connection.id ≠ id := name ▸ here
      simp [reply, here, apart, Connection.reportOf]

/-- What happens while a check waits adds to its reports those of the response that it is. The
response is reported once for each listener, and that is as often as its connection is a target of
the check. -/
theorem counting_meet (kept : bench.Kept) (listened : bench.Listened number run)
    (waits : bench.Waits number run check)
    (still : (bench.meet now happening).Waits number run check) :
    counting ((bench.meet now happening).registry.mail.reports number) id =
      counting (bench.registry.mail.reports number) id ++
        repeated (run.targets.count id) (bench.reply id happening) := by
  have quiet : ∀ later : AliveCheckBench,
      later.registry.mail.reports number = bench.registry.mail.reports number →
        bench.reply id happening = [] →
          counting (later.registry.mail.reports number) id =
            counting (bench.registry.mail.reports number) id ++
              repeated (run.targets.count id) (bench.reply id happening) := by
    intro later same nothing
    rw [same, nothing, repeated_nil, List.append_nil]
  cases happening with
  | event subject event apart =>
    have mail : (bench.meet now (.event subject event apart)).registry.mail = _ :=
      mail_occur event bench.registry
    cases event with
    | aliveResponse source =>
      have more : (bench.meet now (.event subject (.aliveResponse source) apart)).registry.mail =
          bench.registry.mail ++ (bench.registry.pool.aliveResponse subject source).value := rfl
      rw [more, Mail.reports_append, counting_append, counting_event kept listened]
    | _ =>
      refine quiet _ ?_ rfl
      rw [mail]
      cases bench.registry.pool.get? subject <;> simp [Connection.apply]
  | opening timings => exact quiet _ rfl rfl
  | call window targets sign =>
    refine quiet _ ?_ rfl
    unfold AliveCheckBench.meet
    dsimp only
    split <;> rfl
  | signal sign interrupted =>
    refine quiet _ ?_ rfl
    unfold AliveCheckBench.meet AliveCheckBench.signal
    dsimp only
    split <;> rfl
  | abandon sign => exact quiet _ rfl rfl
  | goOn other =>
    have progress := goesOn now other bench
    generalize bench.meet now (.goOn other) = later at progress still
    cases progress with
    | rests unable => exact quiet _ rfl rfl
    | begins found ready => exact quiet _ rfl rfl
    | @ends ender held waited due =>
      have different : other ≠ number := by
        rintro rfl
        have finished := runs_setStage_self
          (.finished now (responses held.targets (bench.registry.mail.reports other))) waited.1
        obtain rfl := Option.some.inj (finished.symm.trans still.1)
        cases still.2
      exact quiet _ (Mail.reports_discard different _) rfl

end Simulation.AliveCheckBench

end DiagnosticGateway
