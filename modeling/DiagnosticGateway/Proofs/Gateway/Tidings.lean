import DiagnosticGateway.Proofs.Ecu.Desk
import DiagnosticGateway.Proofs.Gateway.Chronicle

/-!
# Tidings from the ECUs

Every ECU of a gateway has its desk, and an event at one of them leaves the others as they are. The
tidings of some events are the replies which the gateway hears meanwhile, in order, each with the
number of its ECU. They are what the gateway takes in to be routed, and none of them comes twice.
-/

namespace DiagnosticGateway.Gateway

open Ecu (Desk)

/-- A reply that the gateway has heard, with the number of the ECU that gave it. -/
structure Tiding where
  index : Nat
  reply : Ecu.Reply
  deriving DecidableEq

/-- The request to which it replies: the number of the ECU, and the number of the event there that
put the request. -/
def Tiding.request (tiding : Tiding) : Nat × Nat :=
  (tiding.index, tiding.reply.number)

/-- The desks of several ECUs after some events, each with the number of its ECU. -/
def desksAfter (events : List (Nat × Ecu.Event)) (desks : List Desk) : List Desk :=
  events.foldl (fun desks entry => desks.modify entry.1 (Desk.meet entry.2)) desks

/-- The tidings that one event brings. -/
def news (entry : Nat × Ecu.Event) (desks : List Desk) : List Tiding :=
  ((desks[entry.1]?).elim [] (Desk.news listener entry.2)).map (Tiding.mk entry.1)

/-- The tidings that some events bring, oldest first. -/
def tidings : List (Nat × Ecu.Event) → List Desk → List Tiding
  | [], _ => []
  | entry :: rest, desks => news entry desks ++ tidings rest (desksAfter [entry] desks)

/-- The desks are those of the ECUs. -/
def Manned (desks : List Desk) (gateway : Gateway) : Prop :=
  ∀ index : Nat, gateway.ecus[index]? = none ∧ desks[index]? = none ∨
    ∃ ecu desk, gateway.ecus[index]? = some ecu ∧ desks[index]? = some desk ∧ desk.IsOf ecu

/-- How often the gateway may be heard at its desks. -/
def HeardBy (times : Nat → Prop) (desks : List Desk) : Prop :=
  ∀ desk ∈ desks, times (desk.hearing listener)

/-- An ECU as it comes to a gateway: how it was made, and what others have done to it before. The
listener of the gateway is not among those that it has heard of. -/
structure Newcomer where
  name : String
  physical : UInt16
  functional : UInt16
  lookup : Ecu.LookupTable
  maxLookup : Nat
  maxLogging : Nat
  past : List Ecu.Event
  unheard : ∀ event ∈ past, event.Leaves listener

namespace Newcomer

/-- The ECU as it was made. -/
def origin (newcomer : Newcomer) : Ecu :=
  .new newcomer.name newcomer.physical newcomer.functional newcomer.lookup newcomer.maxLookup
    newcomer.maxLogging

/-- The ECU as it has become since. -/
def ecu (newcomer : Newcomer) : Ecu :=
  (newcomer.origin.run newcomer.past).value.ecu

/-- The desk of the ECU. -/
def desk (newcomer : Newcomer) : Desk :=
  (Desk.unused newcomer.origin).meetAll newcomer.past

end Newcomer

variable {gateway : Gateway} {desks : List Desk} {entry : Nat × Ecu.Event}
  {events later : List (Nat × Ecu.Event)} {index : Nat} {tiding : Tiding}

/-! ## The desks -/

/-- Events that come to the desks in two parts come to them as one. -/
theorem desksAfter_append (events later : List (Nat × Ecu.Event)) (desks : List Desk) :
    desksAfter (events ++ later) desks = desksAfter later (desksAfter events desks) :=
  List.foldl_append

/-- Every desk goes through its own events. The events that go to other ECUs are passed over, so a
desk meets those at its own index in their order. -/
theorem getElem?_desksAfter (events : List (Nat × Ecu.Event)) (desks : List Desk) (index : Nat) :
    (desksAfter events desks)[index]? =
      (desks[index]?).map (Desk.meetAll (eventsAt index events)) := by
  induction events generalizing desks with
  | nil => exact Option.map_id_apply.symm
  | cons entry rest inductionHypothesis =>
    obtain ⟨number, event⟩ := entry
    refine (inductionHypothesis (desks.modify number (Desk.meet event))).trans ?_
    rw [List.getElem?_modify]
    cases desks[index]? with
    | none => rfl
    | some desk =>
      by_cases here : number = index
      · simp [here, eventsAt, Desk.meetAll]
      · simp [here, eventsAt, Desk.meetAll]

/-- Desks that meet what the ECUs go through remain the desks of these ECUs. -/
theorem Manned.undergo (manned : gateway.Manned desks) (events : List (Nat × Ecu.Event)) :
    (gateway.undergo events).Manned (desksAfter events desks) := by
  intro index
  rw [getElem?_undergo, getElem?_desksAfter]
  rcases manned index with ⟨nobody, nothing⟩ | ⟨ecu, desk, there, found, own⟩
  · exact Or.inl ⟨by rw [nobody, Option.map_none], by rw [nothing, Option.map_none]⟩
  · rw [there, found]
    exact Or.inr ⟨_, _, rfl, rfl, own.run (eventsAt index events)⟩

/-- ECUs that come to a gateway bring their desks. -/
theorem manned_newcomers {newcomers : List Newcomer}
    (ecus : gateway.ecus = newcomers.map Newcomer.ecu) :
    gateway.Manned (newcomers.map Newcomer.desk) := by
  intro index
  rw [ecus, List.getElem?_map, List.getElem?_map]
  cases newcomers[index]? with
  | none => exact Or.inl ⟨rfl, rfl⟩
  | some newcomer =>
    have made : (Desk.unused newcomer.origin).IsOf newcomer.origin := Ecu.serves_new _ _ _ _ _ _
    exact Or.inr ⟨_, _, rfl, rfl, made.run newcomer.past⟩

/-! ## Who listens -/

/-- The gateway does not listen at the desk of a newcomer. -/
theorem heardBy_newcomers (newcomers : List Newcomer) :
    HeardBy (· = 0) (newcomers.map Newcomer.desk) := by
  intro desk member
  obtain ⟨newcomer, -, rfl⟩ := List.mem_map.mp member
  exact Desk.hearing_meetAll newcomer.unheard _

/-- As long as nobody adds or drops the gateway, it is heard as often as before. The induction is on
the events: each is met by one desk, whose hearing it leaves as it is. -/
theorem heardBy_desksAfter {times : Nat → Prop} (heard : HeardBy times desks)
    (leave : ∀ entry ∈ events, entry.2.Leaves listener) :
    HeardBy times (desksAfter events desks) := by
  induction events generalizing desks with
  | nil => exact heard
  | cons entry rest inductionHypothesis =>
    obtain ⟨leaves, leaveRest⟩ := List.forall_mem_cons.mp leave
    refine inductionHypothesis (fun desk member => ?_) leaveRest
    obtain ⟨index, found⟩ := List.getElem?_of_mem member
    rw [List.getElem?_modify] at found
    obtain ⟨before, earlier, rfl⟩ := Option.map_eq_some_iff.mp found
    have held := heard before (List.mem_of_getElem? earlier)
    split
    · rwa [Desk.hearing_of_leaves leaves]
    · exact held

/-- A gateway that does not listen gets no tidings. A reply is told to whoever listens at that
moment, and the gateway listens nowhere all along. -/
theorem tidings_of_unheard (unheard : HeardBy (· = 0) desks)
    (leave : ∀ entry ∈ events, entry.2.Leaves listener) : tidings events desks = [] := by
  induction events generalizing desks with
  | nil => rfl
  | cons entry rest inductionHypothesis =>
    obtain ⟨leaves, leaveRest⟩ := List.forall_mem_cons.mp leave
    have first : news entry desks = [] := by
      unfold news
      cases found : desks[entry.1]? with
      | none => rfl
      | some desk =>
        rw [Option.elim_some, Desk.news_of_unheard (unheard desk (List.mem_of_getElem? found))]
        rfl
    rw [tidings, first, List.nil_append]
    exact inductionHypothesis
      (heardBy_desksAfter unheard (List.forall_mem_singleton.mpr leaves)) leaveRest

/-- Without requests and without steps of workers there are no tidings. Replies are given when a
request is put or when it is worked on; no other event adds to them. -/
theorem tidings_of_unasked
    (unasked : ∀ entry ∈ events, (∀ request, entry.2 ≠ .put request) ∧ entry.2 ≠ .work) :
    tidings events desks = [] := by
  induction events generalizing desks with
  | nil => rfl
  | cons entry rest inductionHypothesis =>
    obtain ⟨⟨unput, unworked⟩, unaskedRest⟩ := List.forall_mem_cons.mp unasked
    have first : news entry desks = [] := by
      unfold news
      cases desks[entry.1]? with
      | none => rfl
      | some desk =>
        rw [Option.elim_some, Desk.news, Ecu.Service.added_of_unasked unput unworked]
        rfl
    rw [tidings, first, List.nil_append]
    exact inductionHypothesis unaskedRest

/-- The events at an index keep their order. -/
theorem eventsAt_append (index : Nat) (events later : List (Nat × Ecu.Event)) :
    eventsAt index (events ++ later) = eventsAt index events ++ eventsAt index later := by
  simp [eventsAt]

/-- Events that are brought to some ECUs, the same to each. Each number occurs once, so there is
exactly one event for an ECU among them. -/
theorem eventsAt_map {numbers : List Nat} (distinct : numbers.Nodup) (index : Nat)
    (event : Ecu.Event) :
    eventsAt index (numbers.map fun number => (number, event)) =
      if index ∈ numbers then [event] else [] := by
  have own : eventsAt index (numbers.map fun number => (number, event)) =
      List.replicate (numbers.count index) event := by
    simp only [eventsAt, List.filter_map, List.map_map, Function.comp_def]
    rw [List.filter_beq, List.map_replicate]
  rw [own]
  split
  · rename_i there
    rw [List.count_eq_one_of_mem distinct there]
    rfl
  · rename_i missing
    rw [List.count_eq_zero.mpr missing]
    rfl

/-- When the ECUs are launched, each of them gets the gateway as its listener and is then
started. -/
theorem eventsAt_launching {numbers : List Nat} (distinct : numbers.Nodup) (index : Nat) :
    eventsAt index (launching numbers) =
      if index ∈ numbers then [.addListener listener, .start] else [] := by
  induction numbers with
  | nil => rfl
  | cons number rest inductionHypothesis =>
    obtain ⟨once, distinctRest⟩ := List.nodup_cons.mp distinct
    have split : launching (number :: rest) =
        [(number, .addListener listener), (number, .start)] ++ launching rest := rfl
    rw [split, eventsAt_append, inductionHypothesis distinctRest]
    by_cases here : index = number
    · subst here
      simp [eventsAt, once]
    · simp [eventsAt, here, Ne.symm here]

/-- When the ECUs are dismissed, each of them is stopped and then loses the gateway as its
listener. -/
theorem eventsAt_dismissing {numbers : List Nat} (distinct : numbers.Nodup) (index : Nat) :
    eventsAt index (dismissing numbers) =
      if index ∈ numbers then [.stop, .dropListener listener] else [] := by
  rw [dismissing, eventsAt_append, eventsAt_map distinct, eventsAt_map distinct]
  split <;> rfl

/-- Every desk has met the events that were brought to its index. -/
theorem mem_desksAfter {later : Desk} (member : later ∈ desksAfter events desks) :
    ∃ index < desks.length, ∃ desk ∈ desks, later = desk.meetAll (eventsAt index events) := by
  obtain ⟨index, found⟩ := List.getElem?_of_mem member
  rw [getElem?_desksAfter] at found
  obtain ⟨desk, earlier, rfl⟩ := Option.map_eq_some_iff.mp found
  obtain ⟨within, -⟩ := List.getElem?_eq_some_iff.mp earlier
  exact ⟨index, within, desk, List.mem_of_getElem? earlier, rfl⟩

/-- A gateway that launches its ECUs listens to each of them once. -/
theorem heardBy_launching (unheard : HeardBy (· = 0) desks) :
    HeardBy (· ≤ 1) (desksAfter (launching (List.range desks.length)) desks) := by
  intro later member
  obtain ⟨index, within, desk, there, rfl⟩ := mem_desksAfter member
  have none : desk.hearing listener = 0 := unheard desk there
  rw [eventsAt_launching List.nodup_range, if_pos (List.mem_range.mpr within)]
  show ((desk.meet (.addListener listener)).meet .start).hearing listener ≤ 1
  simp [Desk.hearing_meet, none]

/-- A gateway that dismisses its ECUs does not listen any more. -/
theorem heardBy_dismissing (desks : List Desk) :
    HeardBy (· = 0) (desksAfter (dismissing (List.range desks.length)) desks) := by
  intro later member
  obtain ⟨index, within, desk, -, rfl⟩ := mem_desksAfter member
  rw [eventsAt_dismissing List.nodup_range, if_pos (List.mem_range.mpr within)]
  show ((desk.meet .stop).meet (.dropListener listener)).hearing listener = 0
  simp [Desk.hearing_meet]

/-- Whatever the gateway is told by ECUs that it listens to once are tidings. If it listened twice
it would be told twice; so the bound on how often it is heard is what makes the two lists equal. -/
theorem Manned.saidBy (manned : gateway.Manned desks) (once : HeardBy (· ≤ 1) desks)
    (leave : ∀ entry ∈ events, entry.2.Leaves listener) :
    (gateway.saidBy events).map Prod.snd =
      (tidings events desks).map fun tiding => tiding.reply.response := by
  induction events generalizing gateway desks with
  | nil => rfl
  | cons entry rest inductionHypothesis =>
    obtain ⟨leaves, leaveRest⟩ := List.forall_mem_cons.mp leave
    have first : gateway.said entry.1 entry.2 =
        (news entry desks).map fun tiding => tiding.reply.response := by
      unfold said news
      rcases manned entry.1 with ⟨nobody, nothing⟩ | ⟨ecu, desk, there, found, own⟩
      · rw [nobody, nothing]
        rfl
      · rw [there, found, Option.elim_some, Option.elim_some,
          own.heard (once desk (List.mem_of_getElem? found)), List.map_map]
        rfl
    have next := inductionHypothesis (manned.undergo [entry])
      (heardBy_desksAfter once (List.forall_mem_singleton.mpr leaves)) leaveRest
    have own : ((gateway.said entry.1 entry.2).map fun response => (entry.1, response)).map
        Prod.snd = gateway.said entry.1 entry.2 := by simp [Function.comp_def]
    rw [Gateway.saidBy, tidings, List.map_append, List.map_append, own, first, ← next]
    rfl

/-! ## Tidings and replies -/

/-- The tidings of two lists of events follow one another, the second brought to desks that have met
the first. -/
theorem tidings_append (events later : List (Nat × Ecu.Event)) (desks : List Desk) :
    tidings (events ++ later) desks =
      tidings events desks ++ tidings later (desksAfter events desks) := by
  induction events generalizing desks with
  | nil => rfl
  | cons entry rest inductionHypothesis =>
    rw [List.cons_append, tidings, tidings, inductionHypothesis, List.append_assoc]
    rfl

/-- A last event adds its news. -/
theorem tidings_concat (events : List (Nat × Ecu.Event)) (entry : Nat × Ecu.Event)
    (desks : List Desk) :
    tidings (events ++ [entry]) desks = tidings events desks ++ news entry (desksAfter events desks) := by
  rw [tidings_append, tidings, tidings, List.append_nil]

/-- What brings a tiding has added its reply at the desk of its ECU. Events at ECUs that the gateway
does not have bring none. -/
theorem mem_news (member : tiding ∈ news entry desks) :
    entry.1 = tiding.index ∧ ∃ desk, desks[tiding.index]? = some desk ∧
      tiding.reply ∈ desk.service.added desk.origin entry.2 := by
  obtain ⟨reply, told, rfl⟩ := List.mem_map.mp member
  cases found : desks[entry.1]? with
  | none =>
    rw [found] at told
    cases told
  | some desk =>
    rw [found] at told
    exact ⟨rfl, desk, rfl, List.mem_of_mem_filter told⟩

/-- Every tiding is a reply that was given at the desk of its ECU. The induction is from the end of
the events: a reply that has been given stays among the replies of its desk. -/
theorem replied_of_mem_tidings (member : tiding ∈ tidings events desks) :
    ∃ desk, (desksAfter events desks)[tiding.index]? = some desk ∧
      tiding.reply ∈ desk.service.replies := by
  induction events using List.reverseRecOn with
  | nil => cases member
  | append_singleton past entry inductionHypothesis =>
    have after : (desksAfter (past ++ [entry]) desks)[tiding.index]? =
        ((desksAfter past desks)[tiding.index]?).map fun desk =>
          if entry.1 = tiding.index then desk.meet entry.2 else desk := by
      rw [desksAfter_append]
      exact List.getElem?_modify ..
    rw [after]
    rw [tidings_concat] at member
    rcases List.mem_append.mp member with earlier | new
    · obtain ⟨desk, found, replied⟩ := inductionHypothesis earlier
      rw [found, Option.map_some]
      refine ⟨_, rfl, ?_⟩
      split
      · exact (desk.replies_meet entry.2) ▸ List.mem_append_left _ replied
      · exact replied
    · obtain ⟨here, desk, found, added⟩ := mem_news new
      rw [found, Option.map_some, if_pos here]
      exact ⟨_, rfl, (desk.replies_meet entry.2) ▸ List.mem_append_right _ added⟩

/-- What was replied to before brings no tiding. A desk replies to a request at most once. -/
theorem unsettled_of_mem_news (member : tiding ∈ news entry desks) {desk : Desk}
    (found : desks[tiding.index]? = some desk) : ¬ desk.service.Settled tiding.reply.number := by
  obtain ⟨-, same, there, added⟩ := mem_news member
  obtain rfl := Option.some.inj (there.symm.trans found)
  rcases same.honest.added_cases entry.2 with none | ⟨reply, one, -, was, -⟩
  · rw [none] at added
    cases added
  · rw [one] at added
    obtain rfl := List.mem_singleton.mp added
    exact was

/-- One event does not bring the same news twice. One event adds at most one reply at a desk. -/
theorem nodup_news (entry : Nat × Ecu.Event) (desks : List Desk) :
    ((news entry desks).map Tiding.request).Nodup := by
  unfold news
  cases desks[entry.1]? with
  | none => exact List.nodup_nil
  | some desk =>
    rw [Option.elim_some, Desk.news]
    rcases desk.honest.added_cases entry.2 with none | ⟨reply, one, -⟩
    · rw [none]
      exact List.nodup_nil
    · rw [one]
      by_cases there : listener ∈ reply.audience <;> simp [there]

/-- The gateway hears of one reply at most to any request. Within one event there is one reply at
most, and a request that has been replied to is settled for the events to come. -/
theorem nodup_tidings (events : List (Nat × Ecu.Event)) (desks : List Desk) :
    ((tidings events desks).map Tiding.request).Nodup := by
  induction events using List.reverseRecOn with
  | nil => exact List.nodup_nil
  | append_singleton past entry inductionHypothesis =>
    rw [tidings_concat, List.map_append]
    refine List.nodup_append.mpr ⟨inductionHypothesis, nodup_news entry _, ?_⟩
    rintro request earlier _ new rfl
    obtain ⟨first, told, same⟩ := List.mem_map.mp earlier
    obtain ⟨second, again, sameAgain⟩ := List.mem_map.mp new
    obtain ⟨desk, found, replied⟩ := replied_of_mem_tidings told
    obtain ⟨index, number⟩ := Prod.mk.inj (same.trans sameAgain.symm)
    rw [index] at found
    exact unsettled_of_mem_news again found (number ▸ desk.single.settled first.reply replied)

end DiagnosticGateway.Gateway
