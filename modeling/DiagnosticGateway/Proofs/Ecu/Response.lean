import DiagnosticGateway.Proofs.Ecu.Service

/-!
# One response for each request

An ECU keeps four things apart: whether it runs, whether it is busy, whether a request is held, and
its queue. In every state that it can come to they agree with what its desk is occupied with, and
whatever it sends is a reply of that desk, sent once to everybody who listens.

So every request that is put to a running ECU has one response: at once if another request waits or
is held, and otherwise by the worker's next step, unless the ECU is stopped before that.
-/

namespace DiagnosticGateway.Ecu

/-- The responses that a log tells of, each with the tester that it goes to. -/
def responses (events : List Log.Event) : List (UInt16 × Bytes) :=
  events.filterMap fun event =>
    match event with
    | .ecuResponse _ target data => some (target, data.bytes)
    | _ => none

/-- The responses in two stretches of events follow one another. -/
theorem responses_append (earlier later : List Log.Event) :
    responses (earlier ++ later) = responses earlier ++ responses later :=
  List.filterMap_append

namespace Duty

/-- Whether the ECU runs. -/
def running : Duty → Bool
  | closed => false
  | _ => true

/-- Whether a request is in flight. -/
def busy : Duty → Bool
  | pending _ _ => true
  | holding => true
  | _ => false

/-- Whether a request is held. -/
def held : Duty → Bool
  | holding => true
  | _ => false

/-- The requests that wait for the worker. -/
def queue : Duty → Option (List Message)
  | closed => none
  | pending _ request => some [request]
  | _ => some []

end Duty

/-- The ECU as it is while it does the service: its flags and its queue are those of the duty, and
the hook is the one that was set last. -/
def onDuty (origin : Ecu) (service : Service) (listeners : List Listener) : Ecu :=
  { origin with
    hook := hookIn service.past
    running := service.duty.running
    busy := service.duty.busy
    held := service.duty.held
    queue := service.duty.queue
    listeners := listeners }

/-- An ECU does the service, and those listen to it whom the events have left. -/
structure Serves (ecu origin : Ecu) (service : Service) : Prop where
  state : ecu = origin.onDuty service ecu.listeners
  audience : (ecu.listeners.filter Listener.present).map Listener.id = audience service.past

/-- An ECU has gone on with its service, and what it has sent and logged meanwhile are the replies
that have come to it. -/
structure GoesOn (origin : Ecu) (before after : Service) (outcome : Logged Outcome) : Prop where
  serves : outcome.value.ecu.Serves origin after
  tells : ∃ more, after.replies = before.replies ++ more ∧
    outcome.value.emissions = more.flatMap Reply.emissions ∧
    responses outcome.events =
      more.map fun reply => (reply.response.target, reply.response.data)

variable {origin ecu : Ecu} {service : Service} {event : Event}

/-- A listener that is added comes last, and one that is dropped is gone. -/
theorem audience_concat (past : List Event) (event : Event) :
    audience (past ++ [event]) =
      match event with
      | .addListener id => audience past ++ [id]
      | .dropListener id => (audience past).filter fun other => other ≠ id
      | _ => audience past := by
  rw [audience, List.foldl_append]
  cases event <;> rfl

/-- The hook is the one that was set last. -/
theorem hookIn_concat (past : List Event) (event : Event) :
    hookIn (past ++ [event]) =
      match event with
      | .setHook hook => some hook
      | _ => hookIn past := by
  rw [hookIn, List.foldl_append]
  cases event <;> rfl

/-- What the worker answers is the hook's data, or else comes from the lookup table. The hook may
hold the ECU busy, may answer at once or may leave the answer to the table. -/
theorem answerTo_value (request : Message) (ecu : Ecu) :
    (ecu.answerTo request).value = ecu.workerReply ecu.hook request ∧
      responses (ecu.answerTo request).events = [] := by
  have looked : (ecu.lookupOrReject request).value = ecu.tableReply request ∧
      responses (ecu.lookupOrReject request).events = [] := by
    unfold lookupOrReject tableReply
    cases ecu.lookup.find? (request.data.take ecu.maxLookup) <;> exact ⟨rfl, rfl⟩
  unfold answerTo workerReply
  cases ecu.hook with
  | none => exact ⟨congrArg (·, false) looked.1, by simpa using looked.2⟩
  | some hook =>
    simp only
    cases hook request with
    | proceed => exact ⟨congrArg (·, false) looked.1, by simpa using looked.2⟩
    | _ => exact ⟨rfl, rfl⟩

variable {listeners : List Listener}

/-- A step without a response. -/
theorem goesOn_silently {after : Service} {outcome : Logged Outcome}
    (heard : (listeners.filter Listener.present).map Listener.id = audience after.past)
    (replies : after.replies = service.replies)
    (value : outcome.value = ⟨origin.onDuty after listeners, []⟩)
    (unsaid : responses outcome.events = []) : GoesOn origin service after outcome := by
  refine ⟨by rw [value]; exact ⟨rfl, heard⟩, [], ?_, ?_, ?_⟩
  · rw [replies, List.append_nil]
  · rw [value]
    rfl
  · rw [unsaid]
    rfl

/-- A response is sent to everybody who listens, once. Who listens is known from the past events, so
the reply is sent to the audience of that moment. -/
theorem goesOn_emit {number : Nat} {request : Message} {data : Bytes} {after : Service}
    {outcome : Logged Outcome}
    (heard : (listeners.filter Listener.present).map Listener.id = audience service.past)
    (past : audience after.past = audience service.past)
    (replies : after.replies = (service.answer origin number request data).replies)
    (value : outcome.value = ⟨origin.onDuty after (listeners.filter Listener.present),
      (listeners.filter Listener.present).map fun listener =>
        ⟨listener.id, ⟨origin.physical, request.source, .physical, data⟩⟩⟩)
    (said : responses outcome.events = [(request.source, data)]) :
    GoesOn origin service after outcome := by
  refine ⟨⟨?_, ?_⟩, _, replies, ?_, ?_⟩
  · rw [value]
    rfl
  · rw [value, past, ← heard]
    simp [onDuty]
  · rw [value]
    simp [Reply.emissions, ← heard, Function.comp_def]
  · rw [said]
    rfl

/-- A request that is put waits for the worker if the desk is free, and is answered as busy if
another one is in flight. -/
theorem goesOn_put
    (heard : (listeners.filter Listener.present).map Listener.id = audience service.past)
    (request : Message) :
    GoesOn origin service (service.meet origin (.put request))
      ((origin.onDuty service listeners).put request) := by
  have audience := audience_concat service.past (.put request)
  have hook := hookIn_concat service.past (.put request)
  obtain ⟨past, duty, replies⟩ := service
  cases duty with
  | closed | free =>
    refine goesOn_silently (heard.trans audience.symm) rfl ?_ rfl
    simp only [onDuty, Service.past_meet, hook]
    rfl
  | pending | holding =>
    refine goesOn_emit heard audience rfl ?_ rfl
    simp only [onDuty, Service.past_meet, hook]
    rfl

/-- The worker replies to the request that waits. The service notes the request as free or held
according to the same answer, and the listeners of that moment get it. -/
theorem goesOn_work
    (heard : (listeners.filter Listener.present).map Listener.id = audience service.past) :
    GoesOn origin service (service.meet origin .work) (origin.onDuty service listeners).work := by
  have audience := audience_concat service.past .work
  have hook := hookIn_concat service.past .work
  obtain ⟨past, duty, replies⟩ := service
  cases duty with
  | pending number request =>
    let taken : Ecu := { origin.onDuty ⟨past, .pending number request, replies⟩ listeners with
      queue := some [] }
    obtain ⟨answer, unsaid⟩ := answerTo_value request taken
    have works : (origin.onDuty ⟨past, .pending number request, replies⟩ listeners).work =
        taken.process request := rfl
    have reply : taken.workerReply taken.hook request =
        origin.workerReply (hookIn past) request := rfl
    rw [works]
    refine goesOn_emit heard audience rfl ?_ ?_
    · simp only [process, Logged.value_bind, answer, reply, onDuty, Service.past_meet, hook,
        Service.duty_meet, Service.change, Service.work]
      cases (origin.workerReply (hookIn past) request).2 <;> rfl
    · simp only [process, Logged.events_bind, answer, reply, responses_append, unsaid]
      split <;> rfl
  | _ =>
    refine goesOn_silently (heard.trans audience.symm) rfl ?_ rfl
    simp only [onDuty, Service.past_meet, hook]
    rfl

/-- Of those who are there, the ones under the number go away. Those who were away already are not
counted on either side. -/
theorem present_dropListener (id : ListenerId) (listeners : List Listener) :
    ((listeners.map fun listener =>
        if listener.id = id then { listener with present := false } else listener).filter
          Listener.present).map Listener.id =
      ((listeners.filter Listener.present).map Listener.id).filter fun other => other ≠ id := by
  induction listeners with
  | nil => rfl
  | cons first rest inductionHypothesis =>
    by_cases gone : first.id = id
    · by_cases there : first.present = true <;> simp [gone, there, inductionHypothesis]
    · by_cases there : first.present = true <;> simp [gone, there, inductionHypothesis]

/-- Whatever happens to an ECU, it goes on with its service. There is one case for each event; only
putting a request and working on one add replies. -/
theorem goesOn_apply (serves : ecu.Serves origin service) (event : Event) :
    GoesOn origin service (service.meet origin event) (ecu.apply event) := by
  obtain ⟨state, heard⟩ := serves
  have audience := audience_concat service.past event
  have hook := hookIn_concat service.past event
  rw [state]
  cases event with
  | put request => exact goesOn_put heard request
  | work => exact goesOn_work heard
  | start | stop | release =>
    obtain ⟨past, duty, replies⟩ := service
    cases duty <;>
      refine goesOn_silently (heard.trans audience.symm) rfl ?_ rfl <;>
      simp only [onDuty, Service.past_meet, hook] <;> rfl
  | setHook next =>
    refine goesOn_silently (heard.trans audience.symm) rfl ?_ rfl
    simp only [onDuty, Service.past_meet, hook]
    rfl
  | addListener id =>
    have joined : ((ecu.addListener id).listeners.filter Listener.present).map Listener.id =
        Ecu.audience (service.past ++ [.addListener id]) := by
      rw [audience, ← heard]
      simp [Ecu.addListener]
    refine goesOn_silently joined rfl ?_ rfl
    simp only [onDuty, Service.past_meet, hook]
    rfl
  | dropListener id =>
    have left : ((ecu.dropListener id).listeners.filter Listener.present).map Listener.id =
        Ecu.audience (service.past ++ [.dropListener id]) := by
      rw [audience, ← heard]
      exact present_dropListener id ecu.listeners
    refine goesOn_silently left rfl ?_ rfl
    simp only [onDuty, Service.past_meet, hook]
    rfl

/-- However long it runs, an ECU goes on with its service. The induction is on the events. The
replies of each are added to those before. -/
theorem goesOn_run (serves : ecu.Serves origin service) (events : List Event) :
    GoesOn origin service (service.meetAll origin events) (ecu.run events) := by
  induction events generalizing ecu service with
  | nil => exact ⟨serves, [], (List.append_nil _).symm, rfl, rfl⟩
  | cons event rest inductionHypothesis =>
    obtain ⟨stillServes, first, added, sent, said⟩ := goesOn_apply serves event
    obtain ⟨laterServes, more, addedLater, sentLater, saidLater⟩ := inductionHypothesis stillServes
    refine ⟨laterServes, first ++ more, ?_, ?_, ?_⟩
    · rw [Service.meetAll_cons, addedLater, added, List.append_assoc]
    · simp only [run, Logged.value_bind, Logged.value_pure, sent, sentLater, List.flatMap_append]
    · simp only [run, Logged.events_bind, Logged.events_pure, List.append_nil, responses_append,
        said, saidLater, List.map_append]

/-- An ECU that was not started yet is about to begin its service. -/
theorem serves_new (name : String) (physical functional : UInt16) (lookup : LookupTable)
    (maxLookup maxLogging : Nat) :
    (new name physical functional lookup maxLookup maxLogging).Serves
      (new name physical functional lookup maxLookup maxLogging) .unused :=
  ⟨rfl, rfl⟩

/-- A request that is put to a running ECU has one response. It is answered as busy at once if
another request waits or is held, which ends the hold, and otherwise by the worker's next step, with
the data of the hook or else with that of the lookup table or else with a reject. It has none if the
ECU is stopped before that step, or did not run when the request was put.

All that the ECU sends are such responses. Each goes from its physical address to whoever put the
request, and once to everybody who was added before it and is still there, in the order in which the
responses are given. -/
theorem put_answered_once (name : String) (physical functional : UInt16) (lookup : LookupTable)
    (maxLookup maxLogging : Nat) (past : List Event) (request : Message) (future : List Event) :
    let origin := new name physical functional lookup maxLookup maxLogging
    let events := past ++ .put request :: future
    let before := Service.unused.meetAll origin past
    let after := Service.unused.meetAll origin events
    let answer := fun (data : Bytes) (audience : List ListenerId) =>
      (⟨past.length, ⟨physical, request.source, .physical, data⟩, audience⟩ : Reply)
    ((origin.run past).value.ecu.Serves origin before ∧
      (origin.run events).value.ecu.Serves origin after) ∧
    ((origin.run events).value.emissions = after.replies.flatMap Reply.emissions ∧
      responses (origin.run events).events =
        after.replies.map fun reply => (reply.response.target, reply.response.data)) ∧
    (∀ reply ∈ after.replies, ∃ request data, events[reply.number]? = some (.put request) ∧
      reply.response = ⟨physical, request.source, .physical, data⟩) ∧
    (after.repliesTo past.length =
      match before.duty with
      | .closed => []
      | .free =>
        (Service.untilTurn future).elim [] fun waited =>
          let turn := past ++ .put request :: waited
          [answer (origin.workerReply (hookIn turn) request).1 (audience turn)]
      | _ => [answer (busyReply request) (audience past)]) ∧
    (before.duty = .holding →
      (Service.unused.meetAll origin (past ++ [.put request])).duty = .free) := by
  intro origin events before after answer
  have begins : origin.Serves origin .unused :=
    serves_new name physical functional lookup maxLookup maxLogging
  have pastBefore : before.past = past := Service.past_meetAll past
  have pastAfter : after.past = events := Service.past_meetAll events
  have honest : after.Honest origin := Service.honest_unused.meetAll events
  obtain ⟨serves, more, replies, sent, said⟩ := goesOn_run begins events
  have all : after.replies = more := replies
  refine ⟨⟨(goesOn_run begins past).serves, serves⟩, ⟨?_, ?_⟩, ?_, ?_, ?_⟩
  · rw [all]
    exact sent
  · rw [all]
    exact said
  · rw [← pastAfter]
    exact honest.replied
  · have replied := Service.repliesTo_put
      (Service.honest_unused.meetAll past : before.Honest origin) request future
    rw [← Service.meetAll_append, pastBefore] at replied
    exact replied
  · intro holds
    rw [Service.meetAll_append, Service.meetAll_cons, Service.meetAll_nil, Service.duty_meet]
    show (before.put origin request).duty = .free
    rw [Service.put, holds]

end DiagnosticGateway.Ecu
