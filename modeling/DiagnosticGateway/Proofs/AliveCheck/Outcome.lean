import DiagnosticGateway.Proofs.AliveCheck.Conduct

/-!
# What an alive check comes to

Every check that was started is accounted for. It is ready and can ask at any time, or it has
asked and waits, or it has judged. The course of happenings then shows the moments at which it
asked and judged, and what it found in between.
-/

namespace DiagnosticGateway.Simulation.AliveCheckBench

open AliveCheck

variable {bench : AliveCheckBench} {now start moment : Milliseconds} {number other : Nat}
  {run : CheckRun} {check : AliveCheck} {id : ConnectionId} {connection : Connection}
  {happening : Happening} {course before during : Course} {answers : Responses}

/-! ## How a check comes to its stage -/

/-- A check changes only when it goes on itself. A call adds one that is ready, behind the others,
and what is signalled changes the sign and not the check. -/
theorem runs_meet (found : (bench.meet now happening).runs[number]? = some run) :
    bench.runs[number]? = some run ∨ run.stage = .ready ∨ happening = .goOn number := by
  cases happening with
  | opening timings => exact Or.inl found
  | event subject event apart => exact Or.inl found
  | abandon sign => exact Or.inl found
  | signal sign interrupted =>
    refine Or.inl (Eq.trans ?_ found)
    unfold AliveCheckBench.meet AliveCheckBench.signal
    dsimp only
    split <;> rfl
  | call window targets sign =>
    by_cases exist : targets.all fun target => (bench.registry.pool.get? target).isSome
    · have met : bench.meet now (.call window targets sign) = (bench.call window targets sign).1 :=
        if_pos exist
      rw [met, AliveCheckBench.call, List.getElem?_append] at found
      split at found
      · exact Or.inl found
      · obtain rfl := List.mem_singleton.mp (List.mem_of_getElem? found)
        exact Or.inr (Or.inl rfl)
    · have met : bench.meet now (.call window targets sign) = bench := if_neg exist
      rw [met] at found
      exact Or.inl found
  | goOn other =>
    by_cases own : number = other
    · exact Or.inr (Or.inr (own ▸ rfl))
    · refine Or.inl ?_
      have progress := goesOn now other bench
      generalize bench.meet now (.goOn other) = later at progress found
      cases progress with
      | rests unable => exact found
      | begins ready => exact (runs_setStage_other _ own).symm.trans found
      | ends waits due => exact (runs_setStage_other _ own).symm.trans found

/-- A check that waits has waited before, or has just asked. When it has just asked, its wait is the
one that the bench was to start for it at that moment. -/
theorem waits_meet (waits : (bench.meet now happening).Waits number run check) :
    bench.Waits number run check ∨ happening = .goOn number ∧
      bench.runs[number]? = some { run with stage := .ready } ∧
        check = bench.started now number run := by
  rcases runs_meet waits.1 with earlier | ready | rfl
  · exact Or.inl ⟨earlier, waits.2⟩
  · cases ready.symm.trans waits.2
  · have progress := goesOn now number bench
    generalize bench.meet now (.goOn number) = later at progress waits
    cases progress with
    | rests unable => exact Or.inl waits
    | @begins beginner found ready =>
      have own := runs_setStage_self
        (.waiting (bench.started now number beginner)) found
      obtain rfl := Option.some.inj (own.symm.trans waits.1)
      obtain rfl := CheckStage.waiting.inj waits.2
      refine Or.inr ⟨rfl, found.trans (congrArg some ?_), rfl⟩
      obtain ⟨window, targets, sign, stage⟩ := beginner
      cases ready
      rfl
    | @ends ender held waited due =>
      have own := runs_setStage_self
        (.finished now (responses held.targets (bench.registry.mail.reports number))) waited.1
      obtain rfl := Option.some.inj (own.symm.trans waits.1)
      cases waits.2

/-- A check that has judged has done so before, or has just ended its wait. In the second case its
answers are those of the reports that lie in its mailbox at that moment. -/
theorem finished_meet (found : (bench.meet now happening).runs[number]? = some run)
    (finished : run.stage = .finished moment answers) :
    bench.runs[number]? = some run ∨ happening = .goOn number ∧ now = moment ∧
      ∃ check, bench.Waits number { run with stage := .waiting check } check ∧
        bench.Over now run check ∧
        answers = responses check.targets (bench.registry.mail.reports number) := by
  rcases runs_meet found with earlier | ready | rfl
  · exact Or.inl earlier
  · cases ready.symm.trans finished
  · have progress := goesOn now number bench
    generalize bench.meet now (.goOn number) = later at progress found
    cases progress with
    | rests unable => exact Or.inl found
    | @begins beginner foundBefore ready =>
      have own := runs_setStage_self
        (.waiting (bench.started now number beginner)) foundBefore
      obtain rfl := Option.some.inj (own.symm.trans found)
      cases finished
    | @ends ender held waited due =>
      have own := runs_setStage_self
        (.finished now (responses held.targets (bench.registry.mail.reports number))) waited.1
      obtain rfl := Option.some.inj (own.symm.trans found)
      obtain ⟨rfl, rfl⟩ := CheckStage.finished.inj finished
      refine Or.inr ⟨rfl, rfl, held, ⟨waited.1.trans (congrArg some ?_), rfl⟩, due, rfl⟩
      obtain ⟨window, targets, sign, stage⟩ := ender
      cases waited.2
      rfl

/-- No check is shown without a look. A look is taken by whoever runs the bench, between two
courses. -/
theorem unshown_meet (unshown : ∀ run ∈ bench.runs, run.stage ≠ .shown) :
    ∀ run ∈ (bench.meet now happening).runs, run.stage ≠ .shown := by
  intro run member shown
  obtain ⟨number, found⟩ := List.getElem?_of_mem member
  rcases runs_meet found with earlier | ready | rfl
  · exact unshown run (List.mem_of_getElem? earlier) shown
  · cases ready.symm.trans shown
  · have progress := goesOn now number bench
    generalize bench.meet now (.goOn number) = later at progress found
    cases progress with
    | rests unable => exact unshown run (List.mem_of_getElem? found) shown
    | begins foundBefore ready =>
      obtain rfl := Option.some.inj ((runs_setStage_self _ foundBefore).symm.trans found)
      cases shown
    | ends waited due =>
      obtain rfl := Option.some.inj ((runs_setStage_self _ waited.1).symm.trans found)
      cases shown

/-- On a bench that was empty no outcome has been shown: showing it is no part of a course. -/
theorem unshown_follow (course : Course) :
    ∀ run ∈ (empty.follow course).runs, run.stage ≠ .shown := by
  induction course using List.reverseRecOn with
  | nil => exact fun _ member => absurd member List.not_mem_nil
  | append_singleton course entry inductionHypothesis =>
    rw [follow_concat]
    exact unshown_meet inductionHypothesis

/-! ## The wait -/

/-- The bench some time after a check has asked. -/
def since (start : Milliseconds) (number : Nat) (during : Course) (bench : AliveCheckBench) :
    AliveCheckBench :=
  (bench.meet start (.goOn number)).follow during

/-- A check that has asked at one moment and has waited ever since. -/
structure Sitting (bench : AliveCheckBench) (start : Milliseconds) (number : Nat)
    (during : Course) (run : CheckRun) (check : AliveCheck) : Prop where
  called : bench.runs[number]? = some { run with stage := .ready }
  started : check = bench.started start number run
  waits : ∀ sofar, sofar <+: during → (bench.since start number sofar).Waits number run check

/-- A check that waits has asked at one moment of the course and has waited ever since. The
induction is on the course from its end: each happening before leaves the check waiting, until the
one in which it has asked. -/
theorem sitting_of_waits (waits : (empty.follow course).Waits number run check) :
    ∃ before start during, course = before ++ (start, .goOn number) :: during ∧
      (empty.follow before).Sitting start number during run check := by
  induction course using List.reverseRecOn with
  | nil => cases waits.1
  | append_singleton course entry inductionHypothesis =>
    have now := waits
    rw [follow_concat] at waits
    rcases waits_meet waits with earlier | ⟨own, called, started⟩
    · obtain ⟨before, start, during, rfl, sitting⟩ := inductionHypothesis earlier
      refine ⟨before, start, during ++ [entry], by simp, sitting.called, sitting.started, ?_⟩
      intro sofar front
      rcases List.prefix_concat_iff.mp front with rfl | front
      · simpa [since, follow] using now
      · exact sitting.waits sofar front
    · obtain ⟨start, happening⟩ := entry
      obtain rfl : happening = .goOn number := own
      refine ⟨course, start, [], rfl, called, started, ?_⟩
      intro sofar front
      obtain rfl := List.prefix_nil.mp front
      exact waits

/-- A check that still sits at the end has sat all the time. -/
theorem Sitting.front {entry : Milliseconds × Happening}
    (sitting : bench.Sitting start number (during ++ [entry]) run check) :
    bench.Sitting start number during run check :=
  ⟨sitting.called, sitting.started, fun sofar front =>
    sitting.waits sofar (front.trans (List.prefix_append ..))⟩

/-- The check that sits was begun by asking its targets. It was ready, so the step could be taken,
and a step that is taken by a check that is ready is the one that asks. -/
theorem Sitting.asked (sitting : bench.Sitting start number during run check) :
    bench.meet start (.goOn number) =
      bench.begun start number { run with stage := .ready } := by
  have able : Task.run number ∈ bench.enabled start :=
    run_mem_enabled.mpr ⟨_, sitting.called, rfl⟩
  have progress := goesOn start number bench
  generalize bench.meet start (.goOn number) = later at progress
  cases progress with
  | rests unable => exact absurd able unable
  | begins found ready =>
    obtain rfl := Option.some.inj (sitting.called.symm.trans found)
    rfl
  | ends waited due =>
    obtain rfl := Option.some.inj (sitting.called.symm.trans waited.1)
    cases waited.2

/-- On a bench where a check sits, the checks keep to themselves. -/
theorem Kept.since (kept : bench.Kept) (start : Milliseconds) (number : Nat) (during : Course) :
    (bench.since start number during).Kept :=
  (kept.meet (.goOn number)).follow during

/-- The last happening is met by the bench as the check has found it so far. -/
theorem since_concat (entry : Milliseconds × Happening) :
    bench.since start number (during ++ [entry]) =
      (bench.since start number during).meet entry.1 entry.2 :=
  follow_concat during entry

/-- While a check waits, its targets are listened to, and its reports are those of the responses
that have come since it asked. -/
theorem Sitting.heard (sitting : bench.Sitting start number during run check) (kept : bench.Kept) :
    (bench.since start number during).Listened number run ∧
      ∀ id, counting ((bench.since start number during).registry.mail.reports number) id =
        repeated (run.targets.count id)
          ((bench.meet start (.goOn number)).replies id during) := by
  induction during using List.reverseRecOn with
  | nil =>
    refine ⟨?_, ?_⟩
    · have listened : (bench.begun start number { run with stage := .ready }).Listened number
          { run with stage := .ready } := listened_begun kept sitting.called rfl
      rwa [← sitting.asked] at listened
    · intro id
      have nothing : bench.registry.mail.reports number = [] := by
        refine List.map_eq_nil_iff.mpr (List.filter_eq_nil_iff.mpr fun delivery member => ?_)
        intro own
        obtain ⟨waiter, held, waits⟩ := kept.delivered delivery member
        rw [show delivery.mailbox = number by simpa using own] at waits
        obtain rfl := Option.some.inj (sitting.called.symm.trans waits.1)
        cases waits.2
      have same : (bench.since start number []).registry.mail = bench.registry.mail := by
        rw [show bench.since start number [] = _ from sitting.asked]
        rfl
      rw [same, nothing]
      rfl
  | append_singleton during entry inductionHypothesis =>
    obtain ⟨listened, heard⟩ := inductionHypothesis sitting.front
    have keptBefore := kept.since start number during
    have waits := sitting.front.waits during List.prefix_rfl
    have still := sitting.waits (during ++ [entry]) List.prefix_rfl
    rw [since_concat] at still ⊢
    refine ⟨listened.meet keptBefore waits still, ?_⟩
    intro id
    rw [counting_meet keptBefore listened waits still, heard, replies_concat, repeated_append]
    rfl

/-- A check that waits can end its wait exactly when its window has elapsed or its sign says
so. -/
theorem Sitting.enabled_iff (sitting : bench.Sitting start number during run check)
    {sofar : Course} (front : sofar <+: during) :
    Task.run number ∈ (bench.since start number sofar).enabled now ↔
      ((bench.since start number sofar).signs run.sign).endsWait = true ∨
        start + run.window ≤ now := by
  rw [(sitting.waits sofar front).enabled_iff, Over, sitting.started]
  rfl

/-! ## The judgement -/

/-- What a check did that started to ask on `bench`, at the moment `start`, and judged at the
moment `finish`, with the course `during` in between. -/
structure Conducted (bench : AliveCheckBench) (start : Milliseconds) (number : Nat)
    (during : Course) (finish : Milliseconds) (run : CheckRun) (answers : Responses) : Prop where
  /-- An open target that is read gets one request for every time it is named. -/
  asks : ∀ id connection, bench.registry.pool.get? id = some connection →
    ∃ asked, (bench.meet start (.goOn number)).registry.pool.get? id = some asked ∧
      asked.outbound = connection.outbound ++
        (if connection.phase ≠ .closed ∧ connection.receiving = true then
          List.replicate (run.targets.count id) .aliveCheckRequest
        else []) ∧
      asked.phase = connection.phase ∧ asked.sourceAddress = connection.sourceAddress
  /-- It can end its wait when the window has elapsed or the sign says so, and not before. -/
  waits : ∀ sofar, sofar <+: during → ∀ now,
    Task.run number ∈ (bench.since start number sofar).enabled now ↔
      ((bench.since start number sofar).signs run.sign).endsWait = true ∨ start + run.window ≤ now
  /-- It ends its wait the first time that it goes on and can. -/
  ends : Task.run number ∈ (bench.since start number during).enabled finish
  first : ∀ sofar now, sofar ++ [(now, .goOn number)] <+: during →
    Task.run number ∉ (bench.since start number sofar).enabled now
  /-- There is one answer for each target. -/
  keys : (answers.map Prod.fst).Nodup ∧ ∀ id, id ∈ answers.map Prod.fst ↔ id ∈ run.targets
  /-- The answer consists of the responses that counted, each as often as the target was named. -/
  lists : ∀ id addresses, (id, addresses) ∈ answers →
    addresses = repeated (run.targets.count id)
      ((bench.meet start (.goOn number)).replies id during)
  /-- Targets without a response are closed. Any other connection loses the subscribers of the
  check and is otherwise left alone. -/
  closes : ∀ id connection, (bench.since start number during).registry.pool.get? id = some connection →
    ((bench.since start number during).meet finish (.goOn number)).registry.pool.get? id =
      some (if id ∈ run.targets ∧ (bench.meet start (.goOn number)).replies id during = [] then
          connection.stop.value
        else
          { connection with subscribers := connection.subscribers.filter fun entry =>
              entry.mailbox ≠ number })

/-- A check asks each of its targets as often as it is listed, and nobody else. -/
theorem Sitting.asks (sitting : bench.Sitting start number during run check) (kept : bench.Kept)
    (found : bench.registry.pool.get? id = some connection) :
    ∃ asked, (bench.meet start (.goOn number)).registry.pool.get? id = some asked ∧
      asked.outbound = connection.outbound ++
        (if connection.phase ≠ .closed ∧ connection.receiving = true then
          List.replicate (run.targets.count id) .aliveCheckRequest
        else []) ∧
      asked.phase = connection.phase ∧ asked.sourceAddress = connection.sourceAddress := by
  refine ⟨connection.askedAmong number id run.targets, ?_,
    Connection.outbound_askedAmong (kept.consistent id connection found),
    Connection.phase_askedAmong, Connection.sourceAddress_askedAmong⟩
  rw [sitting.asked]
  exact (get?_askTargets number id run.targets bench.registry.pool).trans (by rw [found]; rfl)

/-- A check whose wait is over ends it when it goes on. Such a step can be taken, and a check that
waits does nothing else with it. -/
theorem Waits.ended (waits : bench.Waits number run check) (due : bench.Over now run check) :
    bench.meet now (.goOn number) = bench.ended now number run check := by
  have able := waits.enabled_iff.mpr due
  have progress := goesOn now number bench
  generalize bench.meet now (.goOn number) = later at progress
  cases progress with
  | rests unable => exact absurd able unable
  | begins found ready =>
    obtain rfl := Option.some.inj (waits.1.symm.trans found)
    cases ready.symm.trans waits.2
  | ends waited alsoOver =>
    obtain rfl := Option.some.inj (waits.1.symm.trans waited.1)
    obtain rfl := CheckStage.waiting.inj (waits.2.symm.trans waited.2)
    rfl

/-- The subscribers that a check has recorded are those that report to it. Two checks never share a
mailbox, so the mailbox alone tells whose subscriber it is. -/
theorem Kept.recorded_iff (kept : bench.Kept) (waits : bench.Waits number run check)
    (found : bench.registry.pool.get? id = some connection) {entry : Subscriber}
    (listens : entry ∈ connection.subscribers) :
    (id, entry.id) ∈ check.subscriptions ↔ entry.mailbox = number := by
  constructor
  · intro member
    obtain ⟨same, alsoFound, -, mailbox⟩ := kept.recorded waits member
    obtain rfl := Option.some.inj (found.symm.trans alsoFound)
    exact mailbox entry listens rfl
  · rintro rfl
    obtain ⟨-, waiter, held, waited, member⟩ := kept.listening found listens
    obtain rfl := Option.some.inj (waits.1.symm.trans waited.1)
    obtain rfl := CheckStage.waiting.inj (waits.2.symm.trans waited.2)
    exact member

/-- A check that has waited and goes on conducts itself well. The subscriptions, the window and the
sign are followed through the wait, and at its end the reports in its mailbox are exactly those of
its targets since it has asked. -/
theorem Sitting.conducted (sitting : bench.Sitting start number during run check)
    (kept : bench.Kept)
    (due : (bench.since start number during).Over moment run check) :
    bench.Conducted start number during moment run
      (responses check.targets ((bench.since start number during).registry.mail.reports number)) where
  asks id connection found := sitting.asks kept found
  waits sofar front now := sitting.enabled_iff front
  ends := (sitting.waits during List.prefix_rfl).enabled_iff.mpr due
  first sofar now front := by
    have waits := sitting.waits sofar ((List.prefix_append ..).trans front)
    have still := sitting.waits _ front
    intro able
    rw [since_concat, waits.ended (waits.enabled_iff.mp able)] at still
    obtain same := Option.some.inj ((runs_setStage_self _ waits.1).symm.trans still.1)
    have stage := (congrArg CheckRun.stage same).trans still.2
    cases stage
  keys := by
    have targets : check.targets = run.targets := by rw [sitting.started]; rfl
    have names : (responses check.targets
        ((bench.since start number during).registry.mail.reports number)).map Prod.fst =
          run.targets.eraseDups := by
      simp [responses, targets, Function.comp_def]
    rw [names]
    exact ⟨nodup_eraseDups _, fun id => List.mem_eraseDups⟩
  lists id addresses member := by
    obtain ⟨target, -, same⟩ := List.mem_map.mp member
    obtain ⟨rfl, rfl⟩ := Prod.mk.inj same
    exact (sitting.heard kept).2 target
  closes id connection found := by
    have waits := sitting.waits during List.prefix_rfl
    have keptNow := kept.since start number during
    have targets : check.targets = run.targets := by rw [sitting.started]; rfl
    have left := get?_finish (decide (moment < check.deadline))
      ((bench.since start number during).registry.mail.reports number) check id
      (bench.since start number during).registry.pool
    rw [found, Option.map_some] at left
    rw [waits.ended due]
    refine left.trans (congrArg some ?_)
    have silent : id ∈ check.targets ∧
        counting ((bench.since start number during).registry.mail.reports number) id = [] ↔
          id ∈ run.targets ∧ (bench.meet start (.goOn number)).replies id during = [] := by
      rw [targets, (sitting.heard kept).2 id]
      exact and_congr_right fun named => repeated_eq_nil (List.count_pos_iff.mpr named)
    split
    · rename_i quiet
      exact left_of_silent_value (keptNow.consistent id connection found) (silent.mpr quiet)
    · rename_i heard
      rw [left_of_heard fun quiet => heard (silent.mp quiet)]
      refine congrArg (fun subscribers => { connection with subscribers := subscribers }) ?_
      refine List.filter_congr fun entry listens => ?_
      simp [keptNow.recorded_iff waits found listens]

/-- How a check is accounted for in a course. One that waits has asked at some moment, can end its
wait when its window has elapsed or its sign says so, and judges when it does. -/
def Accounted (course : Course) (number : Nat) (run : CheckRun) : Prop :=
  match run.stage with
  | .ready => ∀ now, Task.run number ∈ (empty.follow course).enabled now
  | .waiting _ =>
    ∃ before start during, course = before ++ (start, .goOn number) :: during ∧
      ∀ now,
        (Task.run number ∈ (empty.follow course).enabled now ↔
          ((empty.follow course).signs run.sign).endsWait = true ∨ start + run.window ≤ now) ∧
        (Task.run number ∈ (empty.follow course).enabled now →
          ∃ answers, ((empty.follow course).meet now (.goOn number)).runs[number]? =
            some { run with stage := .finished now answers })
  | .finished moment answers =>
    ∃ before start during later,
      course = before ++ (start, .goOn number) :: (during ++ (moment, .goOn number) :: later) ∧
        (empty.follow before).Conducted start number during moment run answers
  | .shown => False

/-- Where a check has judged at one moment of a course, it was conducted up to there. The course is
searched backwards for the step that has judged and from there for the one that has asked. -/
theorem conducted_of_finished (found : (empty.follow course).runs[number]? = some run)
    (finished : run.stage = .finished moment answers) :
    ∃ before start during later,
      course = before ++ (start, .goOn number) :: (during ++ (moment, .goOn number) :: later) ∧
        (empty.follow before).Conducted start number during moment run answers := by
  induction course using List.reverseRecOn with
  | nil => cases found
  | append_singleton course entry inductionHypothesis =>
    rw [follow_concat] at found
    rcases finished_meet found finished with earlier | ⟨own, sameMoment, check, waits, due, rfl⟩
    · obtain ⟨before, start, during, later, rfl, conducted⟩ := inductionHypothesis earlier
      exact ⟨before, start, during, later ++ [entry], by simp, conducted⟩
    · obtain ⟨before, start, during, rfl, sitting⟩ := sitting_of_waits waits
      obtain ⟨_, _⟩ := entry
      cases own
      cases sameMoment
      have upToNow : empty.follow (before ++ (start, .goOn number) :: during) =
          (empty.follow before).since start number during := by
        simp [since, follow]
      rw [upToNow] at due ⊢
      have conducted := sitting.conducted (kept_empty.follow before) due
      exact ⟨before, start, during, [], by simp, conducted.asks, conducted.waits, conducted.ends,
        conducted.first, conducted.keys, conducted.lists, conducted.closes⟩

/-- Every check that was started is accounted for, and a check that does not wait has no
subscriber. -/
theorem check_conducted (course : Course) {number : Nat} {run : CheckRun}
    (called : (empty.follow course).runs[number]? = some run) :
    Accounted course number run ∧
      ((∀ check, run.stage ≠ .waiting check) → ∀ id connection,
        (empty.follow course).registry.pool.get? id = some connection →
          ∀ entry ∈ connection.subscribers, entry.mailbox ≠ number) := by
  have kept := kept_empty.follow course
  refine ⟨?_, ?_⟩
  · unfold Accounted
    split
    · rename_i ready
      intro now
      exact run_mem_enabled.mpr ⟨run, called, by simp [canStep, ready]⟩
    · rename_i check waiting
      have waits : (empty.follow course).Waits number run check := ⟨called, waiting⟩
      obtain ⟨before, start, during, rfl, sitting⟩ := sitting_of_waits waits
      have upToNow : empty.follow (before ++ (start, .goOn number) :: during) =
          (empty.follow before).since start number during := by
        simp [since, follow]
      refine ⟨before, start, during, rfl, fun now => ⟨?_, ?_⟩⟩
      · rw [upToNow]
        exact sitting.enabled_iff List.prefix_rfl
      · intro able
        rw [waits.ended (waits.enabled_iff.mp able)]
        exact ⟨_, runs_setStage_self _ called⟩
    · rename_i moment answers finished
      exact conducted_of_finished called finished
    · rename_i shown
      exact unshown_follow course run (List.mem_of_getElem? called) shown
  · intro idle id connection found
    refine kept.no_listener ?_ found
    rintro waiter check ⟨alsoCalled, waiting⟩
    obtain rfl := Option.some.inj (called.symm.trans alsoCalled)
    exact idle check waiting

/-- A course with two connections. The first is a target twice and answers, the second is a
target once and is silent. -/
def answeredOnce : Course :=
  [(0, .opening ⟨2000, 300000⟩),
    (0, .event 1 (.activate 0x0E00) rfl),
    (0, .opening ⟨2000, 300000⟩),
    (10, .call 500 [1, 2, 1] 0),
    (10, .goOn 0),
    (100, .event 1 (.aliveResponse 0x0E00) rfl),
    (510, .goOn 0)]

/-- The check of this course has judged when its window had elapsed. -/
theorem answeredOnce_conducted :
    (empty.follow answeredOnce).runs[0]? =
        some ⟨500, [1, 2, 1], 0, .finished 510 [(1, [0x0E00, 0x0E00]), (2, [])]⟩ ∧
      Accounted answeredOnce 0
        ⟨500, [1, 2, 1], 0, .finished 510 [(1, [0x0E00, 0x0E00]), (2, [])]⟩ :=
  have called : (empty.follow answeredOnce).runs[0]? =
      some ⟨500, [1, 2, 1], 0, .finished 510 [(1, [0x0E00, 0x0E00]), (2, [])]⟩ := rfl
  ⟨called, (check_conducted answeredOnce called).1⟩

end DiagnosticGateway.Simulation.AliveCheckBench
