import DiagnosticGateway.Proofs.Ecu.Balance
import DiagnosticGateway.Proofs.Ecu.Response

/-!
# The desk of an ECU and its audience

A reply settles the request that it answers: the request was open before it and is settled after it,
so no request is replied to twice. The desk of an ECU keeps its service together with these facts.

Whoever listens to an ECU under a number hears those replies in whose audience the number is, and
hears each of them once as long as the number is there once.
-/

namespace DiagnosticGateway.Ecu

/-- What others do to an ECU leaves the listener under a number alone. -/
def Event.Leaves (id : ListenerId) : Event → Prop
  | .addListener other | .dropListener other => other ≠ id
  | _ => True

namespace Service

/-- The replies that an event adds. -/
def added (ecu : Ecu) (event : Event) (service : Service) : List Reply :=
  (service.meet ecu event).replies.drop service.replies.length

variable {ecu : Ecu} {service : Service} {event : Event} {request : Message} {data : Bytes}
  {number : Nat}

/-- An event that leaves the replies as they are has added none. -/
theorem added_of_same (same : (service.change ecu event).replies = service.replies) :
    service.added ecu event = [] := by
  rw [added, replies_meet, same, List.drop_length]

/-- An answer adds one reply: from the ECU, to whoever put the request, before the listeners of that
moment. -/
theorem added_of_answer
    (answers : (service.change ecu event).replies =
      (service.answer ecu number request data).replies) :
    service.added ecu event =
      [⟨number, ⟨ecu.physical, request.source, .physical, data⟩, audience service.past⟩] := by
  rw [added, replies_meet, answers, answer, List.drop_left]

/-- The replies after an event are the earlier ones and what the event has added. -/
theorem replies_meet_added (ecu : Ecu) (event : Event) (service : Service) :
    (service.meet ecu event).replies = service.replies ++ service.added ecu event := by
  rw [replies_meet]
  rcases replies_change ecu event service with same | ⟨request, data, number, answers, -⟩
  · rw [added_of_same same, List.append_nil, same]
  · rw [added_of_answer answers, answers, answer]

/-- Only a request that is put and the worker's step are replied to. A start or a release may change
the duty, but it answers nothing. -/
theorem added_of_unasked (unput : ∀ request, event ≠ .put request) (unworked : event ≠ .work) :
    service.added ecu event = [] := by
  refine added_of_same ?_
  cases event with
  | start | release =>
    simp only [change]
    split <;> rfl
  | put request => exact absurd rfl (unput request)
  | work => exact absurd rfl unworked
  | _ => rfl

/-- What is put is new. -/
theorem unsettled_length : ¬ service.Settled service.past.length := fun settled =>
  absurd settled.put (Nat.lt_irrefl _)

/-- A request is open when it is replied to, and is settled by that. Either it is the one that
waits, and the worker replies, or it is the one being put, and the ECU is busy with another. -/
theorem Honest.settles (honest : service.Honest ecu) (event : Event) :
    (service.change ecu event).replies = service.replies ∨
      ∃ request data number, (service.change ecu event).replies =
          (service.answer ecu number request data).replies ∧
        ¬ service.Settled number ∧ (service.meet ecu event).Settled number := by
  cases event with
  | put request =>
    have put : service.past.length < (service.meet ecu (.put request)).past.length := by simp
    cases duty : service.duty with
    | closed | free => exact Or.inl (by simp only [change, Service.put, duty])
    | pending number other =>
      have value : service.change ecu (.put request) =
          service.answer ecu service.past.length request (busyReply request) := by
        simp only [change, Service.put, duty]
      refine Or.inr ⟨request, _, _, congrArg replies value, unsettled_length, put, ?_⟩
      intro again waits
      rw [duty_meet, value] at waits
      obtain ⟨within, -⟩ := List.getElem?_eq_some_iff.mp (honest.pending _ _ waits)
      exact absurd within (Nat.lt_irrefl _)
    | holding =>
      have value : service.change ecu (.put request) =
          { service.answer ecu service.past.length request (busyReply request) with
            duty := .free } := by
        simp only [change, Service.put, duty]
      refine Or.inr ⟨request, busyReply request, _, by rw [value], unsettled_length, put, ?_⟩
      intro again waits
      rw [duty_meet, value] at waits
      cases waits
  | work =>
    cases duty : service.duty with
    | pending number request =>
      let reply := ecu.workerReply (hookIn service.past) request
      have value : service.change ecu .work =
          { service.answer ecu number request reply.1 with
            duty := if reply.2 then .holding else .free } := by
        simp only [change, work, duty, reply]
      obtain ⟨within, -⟩ := List.getElem?_eq_some_iff.mp (honest.pending _ _ duty)
      refine Or.inr ⟨request, reply.1, number, by rw [value],
        fun settled => settled.free request duty, ?_, fun again waits => ?_⟩
      · rw [past_meet, List.length_append]
        exact Nat.lt_of_lt_of_le within (Nat.le_add_right _ _)
      · rw [duty_meet, value] at waits
        simp only at waits
        split at waits <;> cases waits
    | _ => exact Or.inl (by simp only [change, work, duty])
  | start | release =>
    refine Or.inl ?_
    simp only [change]
    split <;> rfl
  | _ => exact Or.inl rfl

/-- An event adds no reply, or one that goes to everybody who listens and settles its request. -/
theorem Honest.added_cases (honest : service.Honest ecu) (event : Event) :
    service.added ecu event = [] ∨
      ∃ reply, service.added ecu event = [reply] ∧ reply.audience = audience service.past ∧
        ¬ service.Settled reply.number ∧ (service.meet ecu event).Settled reply.number := by
  rcases honest.settles event with same | ⟨request, data, number, answers, was, becomes⟩
  · exact Or.inl (added_of_same same)
  · exact Or.inr ⟨_, added_of_answer answers, rfl, was, becomes⟩

/-- No request is replied to twice, and whatever was replied to is settled. -/
structure Single (service : Service) : Prop where
  distinct : (service.replies.map Reply.number).Nodup
  settled : ∀ reply ∈ service.replies, service.Settled reply.number

/-- A service that has met nothing has replied to nothing. -/
theorem single_unused : unused.Single :=
  ⟨List.nodup_nil, fun _ member => absurd member List.not_mem_nil⟩

/-- An event adds at most one reply, and only to the request that waited until then. A number that
was replied to before is settled, and so it is not the one that is replied to now. -/
theorem Single.meet (single : service.Single) (honest : service.Honest ecu) (event : Event) :
    (service.meet ecu event).Single := by
  have still := fun reply member => ((single.settled reply member).meet ecu event).1
  have replies := replies_meet_added ecu event service
  rcases honest.added_cases event with none | ⟨reply, one, -, was, becomes⟩
  · rw [none, List.append_nil] at replies
    exact ⟨replies ▸ single.distinct, replies ▸ still⟩
  · rw [one] at replies
    refine ⟨?_, fun other member => ?_⟩
    · rw [replies, List.map_append]
      refine List.nodup_append.mpr ⟨single.distinct, List.pairwise_singleton _ _, ?_⟩
      rintro number earlier _ new rfl
      obtain ⟨other, member, same⟩ := List.mem_map.mp earlier
      obtain rfl := List.mem_singleton.mp new
      exact was (same ▸ single.settled other member)
    · rw [replies] at member
      rcases List.mem_append.mp member with earlier | new
      · exact still other earlier
      · obtain rfl := List.mem_singleton.mp new
        exact becomes

end Service

/-- The desk of an ECU: how the ECU was made, and what has become of the events since. -/
structure Desk where
  origin : Ecu
  service : Service
  honest : service.Honest origin
  single : service.Single

namespace Desk

/-- The desk of an ECU to which nothing has happened yet. -/
def unused (origin : Ecu) : Desk :=
  ⟨origin, .unused, Service.honest_unused, Service.single_unused⟩

/-- The desk after one more event. -/
def meet (event : Event) (desk : Desk) : Desk where
  origin := desk.origin
  service := desk.service.meet desk.origin event
  honest := desk.honest.meet event
  single := desk.single.meet desk.honest event

/-- The desk after some more events. -/
def meetAll (events : List Event) (desk : Desk) : Desk :=
  events.foldl (fun desk event => desk.meet event) desk

/-- The replies that an event brings to whoever listens under a number. -/
def news (id : ListenerId) (event : Event) (desk : Desk) : List Reply :=
  (desk.service.added desk.origin event).filter fun reply => id ∈ reply.audience

/-- How many listeners under a number are there. -/
def hearing (id : ListenerId) (desk : Desk) : Nat :=
  (audience desk.service.past).count id

/-- The desk is the one of an ECU. -/
def IsOf (ecu : Ecu) (desk : Desk) : Prop :=
  ecu.Serves desk.origin desk.service

variable {ecu : Ecu} {desk : Desk} {id : ListenerId} {event : Event}

/-- The past of a desk grows by the events, in their order. -/
theorem past_meetAll (events : List Event) (desk : Desk) :
    (desk.meetAll events).service.past = desk.service.past ++ events := by
  induction events generalizing desk with
  | nil => exact (List.append_nil _).symm
  | cons event rest inductionHypothesis =>
    refine (inductionHypothesis (desk.meet event)).trans ?_
    simp [meet]

/-- The replies of a desk grow by what an event adds. -/
theorem replies_meet (event : Event) (desk : Desk) :
    (desk.meet event).service.replies =
      desk.service.replies ++ desk.service.added desk.origin event :=
  Service.replies_meet_added desk.origin event desk.service

/-- An ECU that goes on keeps its desk. -/
theorem IsOf.apply (own : desk.IsOf ecu) (event : Event) :
    (desk.meet event).IsOf (ecu.apply event).value.ecu :=
  (goesOn_apply own event).serves

/-- A desk that meets the events of its ECU remains the desk of that ECU. -/
theorem IsOf.run (own : desk.IsOf ecu) (events : List Event) :
    (desk.meetAll events).IsOf (ecu.run events).value.ecu := by
  induction events generalizing ecu desk with
  | nil => exact own
  | cons event rest inductionHypothesis => exact inductionHypothesis (own.apply event)

/-! ## Listeners -/

/-- What an event does to the number of those who listen under a number. A drop takes away all
listeners under the number, however many there were. -/
theorem hearing_meet (id : ListenerId) (event : Event) (desk : Desk) :
    (desk.meet event).hearing id =
      match event with
      | .addListener other => desk.hearing id + if other = id then 1 else 0
      | .dropListener other => if other = id then 0 else desk.hearing id
      | _ => desk.hearing id := by
  have audience : audience (desk.meet event).service.past = _ :=
    audience_concat desk.service.past event
  unfold hearing
  rw [audience]
  cases event with
  | addListener other =>
    by_cases here : other = id <;> simp [here]
  | dropListener other =>
    by_cases here : other = id
    · simp [here, List.count_eq_zero]
    · simp [here, List.count_filter, Ne.symm here]
  | _ => rfl

/-- An event that does not add or drop a listener leaves its hearing as it is. -/
theorem hearing_of_leaves (leaves : event.Leaves id) :
    (desk.meet event).hearing id = desk.hearing id := by
  rw [hearing_meet]
  cases event with
  | addListener other => simp [show other ≠ id from leaves]
  | dropListener other => simp [show other ≠ id from leaves]
  | _ => rfl

/-- Nor do several such events change it. -/
theorem hearing_meetAll {events : List Event} (leave : ∀ event ∈ events, event.Leaves id)
    (desk : Desk) : (desk.meetAll events).hearing id = desk.hearing id := by
  induction events generalizing desk with
  | nil => rfl
  | cons event rest inductionHypothesis =>
    obtain ⟨leaves, leaveRest⟩ := List.forall_mem_cons.mp leave
    exact (inductionHypothesis leaveRest (desk.meet event)).trans (hearing_of_leaves leaves)

/-- Whoever does not listen hears nothing. -/
theorem news_of_unheard (unheard : desk.hearing id = 0) : desk.news id event = [] := by
  refine List.filter_eq_nil_iff.mpr fun reply member => ?_
  rcases desk.honest.added_cases event with none | ⟨only, one, audience, -⟩
  · rw [none] at member
    cases member
  · rw [one] at member
    obtain rfl := List.mem_singleton.mp member
    simpa [audience] using List.count_eq_zero.mp unheard

/-- Whoever listens once hears of a reply once. The audience is a list, and a listener hears the
reply as often as it stands there. -/
theorem heard_emissions (id : ListenerId) (reply : Reply) (once : reply.audience.count id ≤ 1) :
    (reply.emissions.filter fun emission => emission.listener == id).map Emission.message =
      (if id ∈ reply.audience then [reply] else []).map Reply.response := by
  have heard : (reply.emissions.filter fun emission => emission.listener == id).map
      Emission.message = List.replicate (reply.audience.count id) reply.response := by
    simp only [Reply.emissions, List.filter_map, List.map_map, Function.comp_def]
    rw [List.filter_beq, List.map_replicate]
  rw [heard]
  by_cases there : id ∈ reply.audience
  · have count : reply.audience.count id = 1 := Nat.le_antisymm once (List.count_pos_iff.mpr there)
    simp [there, count]
  · simp [there, List.count_eq_zero.mpr there]

/-- Whoever listens to an ECU once hears the news from its desk. The news is the reply that the
event adds, if there is one and the listener was in its audience. -/
theorem IsOf.heard (own : desk.IsOf ecu) (once : desk.hearing id ≤ 1) (event : Event) :
    (ecu.apply event).value.heard id = (desk.news id event).map Reply.response := by
  obtain ⟨-, more, replies, sent, -⟩ := goesOn_apply own event
  have all : desk.service.added desk.origin event = more := by
    rw [Service.added, replies, List.drop_left]
  rw [Outcome.heard, sent, news, ← all]
  rcases desk.honest.added_cases event with none | ⟨reply, one, audience, -⟩
  · rw [none]
    rfl
  · have heard := heard_emissions id reply (by rwa [audience])
    rw [one, List.flatMap_singleton, heard]
    by_cases there : id ∈ reply.audience <;> simp [there]

end Desk

end DiagnosticGateway.Ecu
