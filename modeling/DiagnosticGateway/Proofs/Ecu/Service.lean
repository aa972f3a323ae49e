import Mathlib.Data.List.Induction
import DiagnosticGateway.Ecu.Run

/-!
# The service of an ECU

To those who put requests and listen, an ECU is a desk where one request is dealt with at a time. It
is closed, or free, or has a request that waits for the worker, or holds one that was answered. The
service of an ECU is told from the events alone: what the desk is occupied with, and the replies
that were given so far, each with the number of the event that put its request and with the
listeners that it went to.

A request is replied to when it is put or when the worker takes it, and never again: once it neither
waits nor is about to be put, its replies stay what they are.
-/

namespace DiagnosticGateway.Ecu

/-- What an ECU is occupied with. It is told from the events so far, without looking at the ECU. -/
inductive Duty where
  /-- The ECU does not run. -/
  | closed
  /-- No request is in flight. -/
  | free
  /-- The request with a number waits for the worker. -/
  | pending (number : Nat) (request : Message)
  /-- A request was answered and is held. -/
  | holding
  deriving DecidableEq

/-- A response with the number of the event that put its request, and the listeners that it goes
to. -/
structure Reply where
  number : Nat
  response : Message
  audience : List ListenerId
  deriving DecidableEq

/-- What has become of the events so far. -/
structure Service where
  /-- The events, oldest first. -/
  past : List Event
  duty : Duty
  /-- The replies, oldest first. -/
  replies : List Reply

/-- The listeners that some events have added and that are still there, in the order in which they
were added. -/
def audience (events : List Event) : List ListenerId :=
  events.foldl (fun present event =>
    match event with
    | .addListener id => present ++ [id]
    | .dropListener id => present.filter fun other => other ≠ id
    | _ => present) []

/-- The hook that some events have set last. -/
def hookIn (events : List Event) : Option Hook :=
  events.foldl (fun hook event =>
    match event with
    | .setHook next => some next
    | _ => hook) none

/-- The response of the lookup table to the first bytes of a request, or a reject. -/
def tableReply (request : Message) (ecu : Ecu) : Bytes :=
  (ecu.lookup.find? (request.data.take ecu.maxLookup)).getD [0x7F, request.data.headD 0, 0x10]

/-- What the worker answers under a hook, and whether the request is held. -/
def workerReply (hook : Option Hook) (request : Message) (ecu : Ecu) : Bytes × Bool :=
  match hook with
  | none => (ecu.tableReply request, false)
  | some hook =>
    match hook request with
    | .respond data => (data, false)
    | .respondAndHold data => (data, true)
    | .proceed => (ecu.tableReply request, false)

/-- The answer to a request that finds another one in flight. -/
def busyReply (request : Message) : Bytes :=
  [0x7F, request.data.headD 0, 0x21]

/-- The deliveries of a reply. -/
def Reply.emissions (reply : Reply) : List Emission :=
  reply.audience.map fun listener => ⟨listener, reply.response⟩

namespace Service

/-- Before the first event. -/
def unused : Service := ⟨[], .closed, []⟩

/-- Reply to a request that was put under a number. -/
def answer (ecu : Ecu) (number : Nat) (request : Message) (data : Bytes) (service : Service) :
    Service :=
  { service with
    replies := service.replies ++
      [⟨number, ⟨ecu.physical, request.source, .physical, data⟩, audience service.past⟩] }

/-- A request is put. -/
def put (ecu : Ecu) (request : Message) (service : Service) : Service :=
  let number := service.past.length
  match service.duty with
  | .closed => service
  | .free => { service with duty := .pending number request }
  | .pending _ _ => service.answer ecu number request (busyReply request)
  | .holding => { service.answer ecu number request (busyReply request) with duty := .free }

/-- The worker takes a step. -/
def work (ecu : Ecu) (service : Service) : Service :=
  match service.duty with
  | .pending number request =>
    let reply := ecu.workerReply (hookIn service.past) request
    { service.answer ecu number request reply.1 with
      duty := if reply.2 then .holding else .free }
  | _ => service

/-- What an event does to the service. -/
def change (ecu : Ecu) (event : Event) (service : Service) : Service :=
  match event with
  | .start => if service.duty = .closed then { service with duty := .free } else service
  | .stop => { service with duty := .closed }
  | .put request => service.put ecu request
  | .release => if service.duty = .holding then { service with duty := .free } else service
  | .work => service.work ecu
  | _ => service

/-- The service after one more event. -/
def meet (ecu : Ecu) (event : Event) (service : Service) : Service :=
  { service.change ecu event with past := service.past ++ [event] }

/-- The service after some more events. -/
def meetAll (ecu : Ecu) (events : List Event) (service : Service) : Service :=
  events.foldl (fun service event => service.meet ecu event) service

/-- The replies to the request that was put under a number. -/
def repliesTo (number : Nat) (service : Service) : List Reply :=
  service.replies.filter fun reply => reply.number = number

variable {ecu : Ecu} {service : Service} {event : Event} {number : Nat} {request : Message}

/-- The past grows by the event that was met. -/
@[simp] theorem past_meet : (service.meet ecu event).past = service.past ++ [event] := rfl

/-- The duty after an event is the one the event changes it to. -/
@[simp] theorem duty_meet : (service.meet ecu event).duty = (service.change ecu event).duty := rfl

/-- The replies after an event are those the event leaves. -/
@[simp] theorem replies_meet :
    (service.meet ecu event).replies = (service.change ecu event).replies := rfl

/-- Meeting nothing changes nothing. -/
@[simp] theorem meetAll_nil : service.meetAll ecu [] = service := rfl

/-- The first of several events is met first. -/
@[simp] theorem meetAll_cons (rest : List Event) :
    service.meetAll ecu (event :: rest) = (service.meet ecu event).meetAll ecu rest := rfl

/-- Events that are met in two parts are met as one. -/
theorem meetAll_append (events later : List Event) :
    service.meetAll ecu (events ++ later) = (service.meetAll ecu events).meetAll ecu later := by
  simp [meetAll]

/-- The past grows by all the events, in their order. -/
theorem past_meetAll (events : List Event) :
    (service.meetAll ecu events).past = service.past ++ events := by
  induction events generalizing service with
  | nil => simp
  | cons event rest inductionHypothesis => simp [inductionHypothesis]

/-- What an event adds to the replies: one reply at most, to the request that it puts or to the one
that waited. -/
theorem replies_change (ecu : Ecu) (event : Event) (service : Service) :
    (service.change ecu event).replies = service.replies ∨
      ∃ request data number,
        (service.change ecu event).replies = (service.answer ecu number request data).replies ∧
          (number = service.past.length ∧ event = .put request ∨
            service.duty = .pending number request) := by
  cases event with
  | start =>
    simp only [change]
    split <;> exact Or.inl rfl
  | release =>
    simp only [change]
    split <;> exact Or.inl rfl
  | put request =>
    simp only [change, put]
    cases service.duty with
    | closed => exact Or.inl rfl
    | free => exact Or.inl rfl
    | pending => exact Or.inr ⟨request, _, _, rfl, Or.inl ⟨rfl, rfl⟩⟩
    | holding => exact Or.inr ⟨request, _, _, rfl, Or.inl ⟨rfl, rfl⟩⟩
  | work =>
    simp only [change, work]
    cases service.duty with
    | pending number request => exact Or.inr ⟨request, _, number, rfl, Or.inr rfl⟩
    | _ => exact Or.inl rfl
  | _ => exact Or.inl rfl

/-- Only the request that an event puts comes to wait. Every other event leaves the duty as it
is or ends it. -/
theorem pending_of_change (waits : (service.change ecu event).duty = .pending number request) :
    service.duty = .pending number request ∨
      number = service.past.length ∧ event = .put request := by
  cases event with
  | start =>
    simp only [change] at waits
    split at waits
    · cases waits
    · exact Or.inl waits
  | stop => cases waits
  | release =>
    simp only [change] at waits
    split at waits
    · cases waits
    · exact Or.inl waits
  | put other =>
    simp only [change, put] at waits
    cases duty : service.duty with
    | closed => simp [duty] at waits
    | free =>
      simp only [duty, Duty.pending.injEq] at waits
      obtain ⟨rfl, rfl⟩ := waits
      exact Or.inr ⟨rfl, rfl⟩
    | pending earlier kept =>
      simp only [duty, answer, Duty.pending.injEq] at waits
      obtain ⟨rfl, rfl⟩ := waits
      exact Or.inl rfl
    | holding => simp [duty] at waits
  | work =>
    simp only [change, work] at waits
    cases duty : service.duty with
    | pending earlier kept =>
      simp only [duty] at waits
      split at waits <;> cases waits
    | _ => simp [duty] at waits
  | _ => exact Or.inl waits

/-! ## Requests and their replies -/

/-- Whatever waits was put under its number, and every reply goes from the ECU to whoever put its
request. -/
structure Honest (ecu : Ecu) (service : Service) : Prop where
  replied : ∀ reply ∈ service.replies, ∃ request data,
    service.past[reply.number]? = some (.put request) ∧
      reply.response = ⟨ecu.physical, request.source, .physical, data⟩
  pending : ∀ number request, service.duty = .pending number request →
    service.past[number]? = some (.put request)

/-- A service that has met nothing is honest. -/
theorem honest_unused : unused.Honest ecu :=
  ⟨fun _ member => absurd member List.not_mem_nil, fun _ _ waits => by cases waits⟩

/-- What was put keeps its number when another event is met. -/
theorem getElem?_past_meet (there : service.past[number]? = some (.put request)) :
    (service.meet ecu event).past[number]? = some (.put request) := by
  obtain ⟨within, -⟩ := List.getElem?_eq_some_iff.mp there
  rwa [past_meet, List.getElem?_append_left within]

/-- An event keeps a service honest: what comes to wait was just put, and what is replied was
waiting. -/
theorem Honest.meet (honest : service.Honest ecu) (event : Event) :
    (service.meet ecu event).Honest ecu := by
  constructor
  · intro reply member
    have earlier : reply ∈ service.replies → ∃ request data,
        (service.meet ecu event).past[reply.number]? = some (.put request) ∧
          reply.response = ⟨ecu.physical, request.source, .physical, data⟩ := by
      intro replied
      obtain ⟨request, data, there, response⟩ := honest.replied reply replied
      exact ⟨request, data, getElem?_past_meet there, response⟩
    rw [replies_meet] at member
    rcases replies_change ecu event service with same | ⟨request, data, number, adds, whose⟩
    · exact earlier (same ▸ member)
    · rw [adds, answer] at member
      rcases List.mem_append.mp member with replied | new
      · exact earlier replied
      · obtain rfl := List.mem_singleton.mp new
        rcases whose with ⟨rfl, rfl⟩ | waits
        · exact ⟨request, data, by simp, rfl⟩
        · exact ⟨request, data, getElem?_past_meet (honest.pending number request waits), rfl⟩
  · intro number request waits
    rcases pending_of_change waits with waited | ⟨rfl, rfl⟩
    · exact getElem?_past_meet (honest.pending number request waited)
    · simp

/-- A service stays honest whatever it meets. -/
theorem Honest.meetAll (honest : service.Honest ecu) (events : List Event) :
    (service.meetAll ecu events).Honest ecu := by
  induction events generalizing service with
  | nil => exact honest
  | cons event rest inductionHypothesis => exact inductionHypothesis (honest.meet event)

/-- Nothing is replied to before it is put. -/
theorem Honest.unreplied (honest : service.Honest ecu) :
    service.repliesTo service.past.length = [] := by
  refine List.filter_eq_nil_iff.mpr fun reply member same => ?_
  obtain ⟨request, data, there, -⟩ := honest.replied reply member
  obtain ⟨within, -⟩ := List.getElem?_eq_some_iff.mp there
  exact absurd (of_decide_eq_true same) (Nat.ne_of_lt within)

/-- The replies to a number depend on the replies alone. -/
theorem repliesTo_congr {later : Service} (same : later.replies = service.replies)
    (number : Nat) : later.repliesTo number = service.repliesTo number := by
  rw [repliesTo, same, repliesTo]

/-- An answer is a reply to the request it was given for, and to no other. -/
theorem repliesTo_answer (data : Bytes) (other : Nat) :
    (service.answer ecu number request data).repliesTo other =
      service.repliesTo other ++
        if number = other then
          [⟨number, ⟨ecu.physical, request.source, .physical, data⟩, audience service.past⟩]
        else [] := by
  by_cases same : number = other <;> simp [repliesTo, answer, same]

/-- A request was put and does not wait any more. -/
structure Settled (number : Nat) (service : Service) : Prop where
  put : number < service.past.length
  free : ∀ request, service.duty ≠ .pending number request

/-- A request that is settled gets no further reply. Its number is below the number of what was put,
so it cannot be given to another request either. -/
theorem Settled.meet (settled : service.Settled number) (ecu : Ecu) (event : Event) :
    (service.meet ecu event).Settled number ∧
      (service.meet ecu event).repliesTo number = service.repliesTo number := by
  refine ⟨⟨?_, fun request waits => ?_⟩, ?_⟩
  · rw [past_meet, List.length_append]
    exact Nat.lt_of_lt_of_le settled.put (Nat.le_add_right _ _)
  · rcases pending_of_change waits with waited | ⟨same, -⟩
    · exact settled.free request waited
    · exact Nat.ne_of_lt settled.put same
  · rcases replies_change ecu event service with same | ⟨request, data, other, adds, whose⟩
    · exact repliesTo_congr same number
    · refine (repliesTo_congr adds number).trans ?_
      have different : other ≠ number := by
        rintro rfl
        rcases whose with ⟨same, -⟩ | waits
        · exact Nat.ne_of_lt settled.put same
        · exact settled.free request waits
      rw [repliesTo_answer, if_neg different, List.append_nil]

/-- A number that is settled gets no further reply, whatever comes. -/
theorem Settled.meetAll (settled : service.Settled number) (events : List Event) :
    (service.meetAll ecu events).repliesTo number = service.repliesTo number := by
  induction events generalizing service with
  | nil => rfl
  | cons event rest inductionHypothesis =>
    obtain ⟨still, same⟩ := settled.meet ecu event
    exact (inductionHypothesis still).trans same

/-- A request that waits goes on waiting until the worker takes a step or the ECU is stopped. A
second request that is put meanwhile is answered as busy under its own number. -/
theorem pending_meet (ecu : Ecu) (waits : service.duty = .pending number request)
    (put : number < service.past.length) (unworked : event ≠ .work) (running : event ≠ .stop) :
    (service.meet ecu event).duty = .pending number request ∧
      (service.meet ecu event).repliesTo number = service.repliesTo number := by
  have different : service.past.length ≠ number := Nat.ne_of_gt put
  cases event with
  | work => exact absurd rfl unworked
  | stop => exact absurd rfl running
  | put other =>
    have value : service.change ecu (.put other) =
        service.answer ecu service.past.length other (busyReply other) := by
      simp only [change, Service.put, waits]
    refine ⟨by rw [duty_meet, value]; exact waits, ?_⟩
    rw [repliesTo_congr ((replies_meet).trans (congrArg replies value)), repliesTo_answer,
      if_neg different, List.append_nil]
  | start =>
    have value : service.change ecu .start = service := by simp [change, waits]
    exact ⟨by rw [duty_meet, value, waits], repliesTo_congr (congrArg replies value) number⟩
  | release =>
    have value : service.change ecu .release = service := by simp [change, waits]
    exact ⟨by rw [duty_meet, value, waits], repliesTo_congr (congrArg replies value) number⟩
  | _ => exact ⟨waits, rfl⟩

/-- The events up to the worker's next step, unless the ECU is stopped before it. -/
def untilTurn : List Event → Option (List Event)
  | [] => none
  | .work :: _ => some []
  | .stop :: _ => none
  | event :: rest => (untilTurn rest).map fun waited => event :: waited

/-- A request that waits is replied to by the worker's next step, and if the ECU is stopped before
that, never. -/
theorem repliesTo_pending (waits : service.duty = .pending number request)
    (put : number < service.past.length) (future : List Event) :
    (service.meetAll ecu future).repliesTo number =
      service.repliesTo number ++
        (untilTurn future).elim [] fun waited =>
          let past := service.past ++ waited
          [⟨number, ⟨ecu.physical, request.source, .physical,
            (ecu.workerReply (hookIn past) request).1⟩, audience past⟩] := by
  induction future generalizing service with
  | nil => simp [untilTurn]
  | cons event rest inductionHypothesis =>
    have later : number < (service.meet ecu event).past.length := by
      rw [past_meet, List.length_append]
      exact Nat.lt_of_lt_of_le put (Nat.le_add_right _ _)
    by_cases works : event = .work
    · subst works
      have value : service.change ecu .work =
          { service.answer ecu number request
              (ecu.workerReply (hookIn service.past) request).1 with
            duty := if (ecu.workerReply (hookIn service.past) request).2 then .holding
              else .free } := by
        simp only [change, work, waits]
      have settled : (service.meet ecu .work).Settled number := by
        refine ⟨later, fun other pending => ?_⟩
        rw [duty_meet, value] at pending
        simp only at pending
        split at pending <;> cases pending
      rw [meetAll_cons, settled.meetAll,
        repliesTo_congr ((replies_meet).trans (congrArg replies value))]
      refine (repliesTo_answer _ _).trans ?_
      simp [untilTurn]
    · by_cases stops : event = .stop
      · subst stops
        have settled : (service.meet ecu .stop).Settled number :=
          ⟨later, fun other pending => by cases pending⟩
        rw [meetAll_cons, settled.meetAll]
        exact (List.append_nil _).symm
      · obtain ⟨still, same⟩ := pending_meet ecu waits put works stops
        have goesOn : untilTurn (event :: rest) =
            (untilTurn rest).map fun waited => event :: waited := by
          cases event <;> first | rfl | exact absurd rfl works | exact absurd rfl stops
        rw [meetAll_cons, inductionHypothesis still later, same, goesOn]
        cases untilTurn rest <;> simp

/-- What becomes of a request that is put: nothing if the ECU is closed, a busy reply at once if
another one is in flight, and otherwise the reply of the worker's next step. -/
theorem repliesTo_put (honest : service.Honest ecu) (request : Message) (future : List Event) :
    (service.meetAll ecu (.put request :: future)).repliesTo service.past.length =
      match service.duty with
      | .closed => []
      | .free =>
        (untilTurn future).elim [] fun waited =>
          let past := service.past ++ .put request :: waited
          [⟨service.past.length, ⟨ecu.physical, request.source, .physical,
            (ecu.workerReply (hookIn past) request).1⟩, audience past⟩]
      | _ =>
        [⟨service.past.length, ⟨ecu.physical, request.source, .physical, busyReply request⟩,
          audience service.past⟩] := by
  have none := honest.unreplied
  have later : service.past.length < (service.meet ecu (.put request)).past.length := by simp
  rw [meetAll_cons]
  cases duty : service.duty with
  | closed =>
    have value : service.change ecu (.put request) = service := by simp only [change, put, duty]
    have settled : (service.meet ecu (.put request)).Settled service.past.length :=
      ⟨later, fun other pending => by rw [duty_meet, value, duty] at pending; cases pending⟩
    rw [settled.meetAll, repliesTo_congr ((replies_meet).trans (congrArg replies value)), none]
  | free =>
    have waits : (service.meet ecu (.put request)).duty =
        .pending service.past.length request := by
      simp only [duty_meet, change, put, duty]
    have same : (service.meet ecu (.put request)).repliesTo service.past.length = [] := by
      rw [← none]
      exact repliesTo_congr (by simp only [replies_meet, change, put, duty]) _
    rw [repliesTo_pending waits later, same]
    simp
  | pending number other =>
    have value : service.change ecu (.put request) =
        service.answer ecu service.past.length request (busyReply request) := by
      simp only [change, put, duty]
    have settled : (service.meet ecu (.put request)).Settled service.past.length := by
      refine ⟨later, fun again pending => ?_⟩
      rw [duty_meet, value] at pending
      obtain ⟨within, -⟩ := List.getElem?_eq_some_iff.mp (honest.pending _ _ pending)
      exact absurd within (Nat.lt_irrefl _)
    rw [settled.meetAll, repliesTo_congr ((replies_meet).trans (congrArg replies value)),
      repliesTo_answer, none, if_pos rfl, List.nil_append]
  | holding =>
    have value : service.change ecu (.put request) =
        { service.answer ecu service.past.length request (busyReply request) with
          duty := .free } := by
      simp only [change, put, duty]
    have settled : (service.meet ecu (.put request)).Settled service.past.length :=
      ⟨later, fun again pending => by rw [duty_meet, value] at pending; cases pending⟩
    rw [settled.meetAll, repliesTo_congr ((replies_meet).trans (congrArg replies value))]
    refine (repliesTo_answer _ _).trans ?_
    rw [none, if_pos rfl, List.nil_append]

end Service

end DiagnosticGateway.Ecu
