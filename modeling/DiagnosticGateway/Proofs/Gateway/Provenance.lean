import DiagnosticGateway.Proofs.Gateway.Conservation
import DiagnosticGateway.Proofs.Gateway.Posting
import DiagnosticGateway.Proofs.Gateway.Tidings

/-!
# Where responses come from

Whatever happens at a station, the responses that wait to be routed are the last tidings from the
ECUs, and those before them were routed in their order. So the response that is routed next is known
by its place among the tidings: it is a reply to a request that was put before, in one of the scenes
that were played already, unless the ECU had it when it came to the gateway.
-/

namespace DiagnosticGateway.Station

open Gateway
open Ecu (Desk)

/-- Others leave the place of the gateway among the listeners of an ECU alone. -/
def Action.Leaves : Action → Prop
  | .event (.ecu _ change) => change.Leaves listener
  | _ => True

/-- What a scene brings to the ECUs, each event with the number of its ECU. -/
def Scene.brings (scene : Scene) : List (Nat × Ecu.Event) :=
  scene.before.ecuEvents scene.occurrence

/-- What a history brings to the ECUs, oldest first. -/
def brought (history : History) (station : Station) : List (Nat × Ecu.Event) :=
  (station.scenes history).flatMap Scene.brings

/-- The tidings that a history brings, oldest first, if the ECUs had some desks before it. -/
def tidings (desks : List Desk) (history : History) (station : Station) : List Tiding :=
  Gateway.tidings (station.brought history) desks

/-- The tiding that is routed next. -/
def nextTiding? (desks : List Desk) (history : History) (station : Station) : Option Tiding :=
  (station.tidings desks history)[(station.routings history).length]?

variable {station : Station} {history past : History} {occurrence : Occurrence} {desks : List Desk}

/-- What two stretches of history bring is what the first brings and then what the second brings,
from where the first led. -/
theorem brought_append (history later : History) (station : Station) :
    station.brought (history ++ later) =
      station.brought history ++ (station.replay history).brought later := by
  rw [brought, scenes_append, List.flatMap_append]
  rfl

/-- A last occurrence brings its events after all the others. -/
theorem brought_concat (history : History) (occurrence : Occurrence) (station : Station) :
    station.brought (history ++ [occurrence]) =
      station.brought history ++ (station.replay history).ecuEvents occurrence := by
  rw [brought_append]
  exact congrArg (station.brought history ++ ·) (List.append_nil _)

/-- The routings of two stretches of history follow one another. -/
theorem routings_append (history later : History) (station : Station) :
    station.routings (history ++ later) =
      station.routings history ++ (station.replay history).routings later := by
  induction history generalizing station with
  | nil => rfl
  | cons first rest inductionHypothesis =>
    rw [List.cons_append, routings, routings, inductionHypothesis, List.append_assoc]
    rfl

/-- A last occurrence is a routing, or it adds none. -/
theorem routings_concat (history : History) (occurrence : Occurrence) (station : Station) :
    station.routings (history ++ [occurrence]) =
      station.routings history ++ ((station.replay history).routing? occurrence).toList := by
  rw [routings_append, routings, routings, List.append_nil]

/-! ## What becomes of responses -/

/-- How an occurrence bears on the ECUs and on what waits to be routed. -/
inductive Bears (occurrence : Occurrence) (station : Station) : Prop
  /-- The gateway starts, and listens to its ECUs from now on. -/
  | starts (created : station.gateway.phase = .created)
      (untaken : occurrence.action.taken = 0)
      (brings : station.ecuEvents occurrence = launching station.gateway.ecuNumbers)
      (running : (station.act occurrence).gateway.running?.isSome = true)
      (routing : (station.act occurrence).gateway.routing = true)
      (responses : (station.act occurrence).gateway.responses = station.gateway.responses) :
      Bears occurrence station
  /-- The gateway stops, and listens no more. What waited is lost. -/
  | stops (untaken : occurrence.action.taken = 0)
      (brings : station.ecuEvents occurrence = dismissing station.gateway.ecuNumbers)
      (stopped : (station.act occurrence).gateway.phase = .stopped)
      (responses : (station.act occurrence).gateway.responses = []) :
      Bears occurrence station
  /-- A response may be routed, and others may come to wait behind those that were there. -/
  | goesOn (brings : station.ecuEvents occurrence = station.gateway.activity occurrence.action)
      (phase : (station.act occurrence).gateway.phase = station.gateway.phase)
      (routing : (station.act occurrence).gateway.routing = station.gateway.routing ∨
        station.gateway.ecus = [])
      (responses : (station.act occurrence).gateway.responses =
        station.gateway.responses.drop occurrence.action.taken ++
          if station.gateway.routing then
            (station.gateway.saidBy (station.gateway.activity occurrence.action)).map Prod.snd
          else []) :
      Bears occurrence station

/-- What goes on without routing anything. -/
theorem bears_of_undergo
    (brings : station.ecuEvents occurrence = station.gateway.activity occurrence.action)
    (untaken : occurrence.action.taken = 0)
    (phase : (station.act occurrence).gateway.phase = station.gateway.phase)
    (routing : (station.act occurrence).gateway.routing = station.gateway.routing)
    (responses : (station.act occurrence).gateway.responses =
      (station.gateway.undergo (station.gateway.activity occurrence.action)).responses) :
    station.Bears occurrence := by
  refine .goesOn brings phase (Or.inl routing) ?_
  rw [responses, undergo_value, untaken, List.drop_zero]
  dsimp only
  split <;> simp

/-- What does not touch the gateway bears on nothing. -/
theorem bears_of_unchanged (brings : station.ecuEvents occurrence = [])
    (idle : station.gateway.activity occurrence.action = [])
    (untaken : occurrence.action.taken = 0)
    (same : (station.act occurrence).gateway = station.gateway) : station.Bears occurrence := by
  refine bears_of_undergo (brings.trans idle.symm) untaken (by rw [same]) (by rw [same]) ?_
  rw [same, idle]
  rfl

/-- A gateway that was created starts or fails to, and either is what the start results in. -/
theorem start_outcomes (moment : Milliseconds) (created : station.gateway.phase = .created) :
    (∃ fault network, (station.start moment).value =
        ({ station with network := network }, .error fault)) ∨
      ∃ sockets network, (station.start moment).value =
        (⟨(station.gateway.run moment sockets).value, network⟩, .ok sockets) := by
  simp only [start, created, Logged.value_bind]
  obtain ⟨fault | sockets, network⟩ :=
    (Sockets.opened station.gateway.config station.network).value
  · exact Or.inl ⟨_, network, rfl⟩
  · exact Or.inr ⟨sockets, network, rfl⟩

/-- A gateway that runs routes responses, and none has come in by its start. -/
theorem run_routes (moment : Milliseconds) (sockets : Sockets) (gateway : Gateway) :
    (gateway.run moment sockets).value.running?.isSome = true ∧
      (gateway.run moment sockets).value.routing = true ∧
      (gateway.run moment sockets).value.responses = gateway.responses := by
  rw [run_value]
  dsimp only
  rw [undergo_value, saidBy_launching]
  exact ⟨rfl, rfl, List.append_nil _⟩

/-- A start either launches the ECUs or, when it fails or comes again, leaves the gateway as it
was. -/
theorem bears_of_start (moment : Milliseconds) (station : Station) :
    station.Bears ⟨moment, .event .start⟩ := by
  have acts : station.act ⟨moment, .event .start⟩ = (station.start moment).value.1 := rfl
  cases phase : station.gateway.phase with
  | created =>
    rcases start_outcomes moment phase with ⟨fault, network, fails⟩ | ⟨sockets, network, starts⟩
    · refine bears_of_unchanged ?_ rfl rfl ?_
      · simp only [ecuEvents, fails]
      · rw [acts, fails]
    · obtain ⟨running, routing, responses⟩ := run_routes moment sockets station.gateway
      refine .starts phase rfl ?_ ?_ ?_ ?_
      · simp only [ecuEvents, starts]
      all_goals rw [acts, starts]
      · exact running
      · exact routing
      · exact responses
  | _ =>
    have same : (station.start moment).value = (station, .error .alreadyStarted) := by
      simp only [start, phase, Logged.value_pure]
    refine bears_of_unchanged ?_ rfl rfl ?_
    · simp only [ecuEvents, same]
    · rw [acts, same]

/-- A stop dismisses the ECUs of a running gateway; a gateway that does not run has none to
dismiss. -/
theorem bears_of_stop (moment : Milliseconds) (station : Station) :
    station.Bears ⟨moment, .event .stop⟩ := by
  have acts : station.act ⟨moment, .event .stop⟩ = station.stop.value := rfl
  cases phase : station.gateway.phase with
  | running sockets =>
    have halts : station.stop.value.gateway = station.gateway.halt.value := by
      simp only [stop, phase, Logged.value_bind, Logged.value_pure]
    refine .stops rfl ?_ ?_ ?_
    · simp only [ecuEvents, running?, phase, Option.isSome_some, if_true]
    · rw [acts, halts]
      exact (halt_value station.gateway).1
    · rw [acts, halts]
      simp only [halt, Logged.value_bind, changeEcus_value]
      rw [undergo_value]
      rfl
  | _ =>
    have same : station.stop.value = station := by simp only [stop, phase, Logged.value_pure]
    refine bears_of_unchanged ?_ rfl rfl ?_
    · simp only [ecuEvents, running?, phase]
      rfl
    · rw [acts, same]

/-- Routing takes the response that has waited longest, and an empty queue ends the collector's task
only when no ECU is left that could send. -/
theorem bears_of_route (moment : Milliseconds)
    (able : station.CanHappen ⟨moment, .task .route⟩) :
    station.Bears ⟨moment, .task .route⟩ := by
  have acts : (station.act ⟨moment, .task .route⟩).gateway = station.gateway.route.value := rfl
  have routes : station.gateway.canRoute = true := mem_enabled.mp able
  cases waits : station.gateway.responses with
  | nil =>
    have value : station.gateway.route.value = { station.gateway with routing := false } := by
      simp only [route, waits]
      rfl
    have empty : station.gateway.ecus = [] := by
      simp only [canRoute, waits, List.isEmpty_nil, Bool.not_true, Bool.false_or,
        Bool.and_eq_true] at routes
      exact List.isEmpty_iff.mp routes.2
    refine .goesOn rfl ?_ (Or.inr empty) ?_
    all_goals rw [acts, value]
    simp [waits, activity, Gateway.saidBy]
  | cons response rest =>
    have value : ∃ registry, station.gateway.route.value =
        { station.gateway with responses := rest, registry := registry } := by
      simp only [route, waits, onResponse]
      cases station.gateway.registry.lookup response.target with
      | none => exact ⟨_, rfl⟩
      | some connection => exact ⟨_, rfl⟩
    obtain ⟨registry, value⟩ := value
    refine .goesOn rfl ?_ (Or.inl ?_) ?_
    all_goals rw [acts, value]
    simp [waits, Action.taken, activity, Gateway.saidBy]

/-- Every occurrence is the start, the stop, or goes on. The tasks that touch neither the ECUs nor
the responses leave all fields as they are, and so they go on trivially. -/
theorem bears (served : station.gateway.registry.Served) (able : station.CanHappen occurrence) :
    station.Bears occurrence := by
  obtain ⟨moment, action⟩ := occurrence
  cases action with
  | event event =>
    cases event with
    | start => exact bears_of_start moment station
    | stop => exact bears_of_stop moment station
    | ecu index event =>
      have same : (station.act ⟨moment, .event (.ecu index event)⟩).gateway =
          station.gateway.undergo [(index, event)] := rfl
      exact bears_of_undergo rfl rfl (by rw [same, undergo_value]) (by rw [same, undergo_value]) rfl
    | _ =>
      have proceeds := proceeds_act served able (by simp) (by simp) (by simp) (by simp)
      exact bears_of_undergo rfl rfl proceeds.phase proceeds.routing proceeds.responses
  | task task =>
    cases task with
    | route => exact bears_of_route moment able
    | _ =>
      have proceeds := proceeds_act served able (by simp) (by simp) (by simp) (by simp)
      exact bears_of_undergo rfl rfl proceeds.phase proceeds.routing proceeds.responses

/-! ## What waits to be routed -/

/-- How a gateway stands to its ECUs, when it has heard some tidings and routed some responses. It
listens once at each desk, and not at all unless it runs and routes responses. What waits to be
routed are the last tidings, behind those that were routed. -/
structure Informed (desks : List Desk) (tidings : List Tiding) (routed : List Ecu.Message)
    (gateway : Gateway) : Prop where
  manned : gateway.Manned desks
  once : HeardBy (· ≤ 1) desks
  unheard : gateway.running? = none ∨ gateway.routing = false → HeardBy (· = 0) desks
  waits : gateway.phase ≠ .stopped →
    tidings.map (fun tiding => tiding.reply.response) = routed ++ gateway.responses
  ended : gateway.phase = .stopped → gateway.responses = []

/-- The tidings of two stretches of history follow one another, the second brought to desks that
have met the first. -/
theorem tidings_append (desks : List Desk) (past later : History) (station : Station) :
    station.tidings desks (past ++ later) =
      station.tidings desks past ++
        (station.replay past).tidings (desksAfter (station.brought past) desks) later := by
  rw [tidings, brought_append, Gateway.tidings_append]
  rfl

/-- A last occurrence adds its tidings, brought to the desks as the history left them. -/
theorem tidings_concat (desks : List Desk) (past : History) (occurrence : Occurrence)
    (station : Station) :
    station.tidings desks (past ++ [occurrence]) =
      station.tidings desks past ++
        Gateway.tidings ((station.replay past).ecuEvents occurrence)
          (desksAfter (station.brought past) desks) := by
  rw [tidings_append]
  exact congrArg (fun brings => _ ++ Gateway.tidings brings _) (List.append_nil _)

/-- The desks of a gateway have the numbers of its ECUs. At every place there is an ECU with its
desk, or neither. -/
theorem length_manned {gateway : Gateway} (manned : gateway.Manned desks) :
    gateway.ecuNumbers = List.range desks.length := by
  have same : ∀ index : Nat, gateway.ecus.length ≤ index ↔ desks.length ≤ index := by
    intro index
    rw [← List.getElem?_eq_none_iff, ← List.getElem?_eq_none_iff]
    rcases manned index with ⟨nobody, nothing⟩ | ⟨ecu, desk, there, found, -⟩
    · simp [nobody, nothing]
    · simp [there, found]
  have length : gateway.ecus.length = desks.length :=
    Nat.le_antisymm ((same _).mpr (Nat.le_refl _)) ((same _).mp (Nat.le_refl _))
  rw [ecuNumbers, length]

/-- No step of a task takes the gateway off the listeners of an ECU or puts it there again. Requests
are put by readers and worked on by workers, and neither concerns who listens. -/
theorem leaves_activity (gateway : Gateway) {action : Action} (leaves : action.Leaves) :
    ∀ entry ∈ gateway.activity action, entry.2.Leaves listener := by
  intro entry member
  cases action with
  | event event =>
    cases event with
    | ecu index change =>
      obtain rfl := List.mem_singleton.mp member
      exact leaves
    | _ => cases member
  | task task =>
    cases task with
    | read id =>
      obtain ⟨-, -, -, -, -, -, -, -, -, target, -, rfl⟩ := mem_handedBy member
      trivial
    | work index =>
      obtain rfl := List.mem_singleton.mp member
      trivial
    | _ => cases member

/-- Launching puts no request to an ECU and lets none work. -/
theorem unasked_launching (numbers : List Nat) :
    ∀ entry ∈ launching numbers, (∀ request, entry.2 ≠ .put request) ∧ entry.2 ≠ .work := by
  intro entry member
  obtain ⟨number, -, listed⟩ := List.mem_flatMap.mp member
  simp only [List.mem_cons, List.not_mem_nil, or_false] at listed
  rcases listed with rfl | rfl <;> simp

/-- Dismissing puts no request to an ECU and lets none work. -/
theorem unasked_dismissing (numbers : List Nat) :
    ∀ entry ∈ dismissing numbers, (∀ request, entry.2 ≠ .put request) ∧ entry.2 ≠ .work := by
  intro entry member
  rcases List.mem_append.mp member with listed | listed
  all_goals
    obtain ⟨number, -, rfl⟩ := List.mem_map.mp listed
    simp

/-- A gateway stays informed, whatever happens. The three ways in which an occurrence bears on the
ECUs are its cases; the step in which a response is routed moves one tiding from those that wait to
those that went. -/
theorem Informed.act {tidings : List Tiding} {routed : List Ecu.Message}
    (informed : Informed desks tidings routed station.gateway)
    (served : station.gateway.registry.Served) (able : station.CanHappen occurrence)
    (leaves : occurrence.action.Leaves) :
    Informed (desksAfter (station.ecuEvents occurrence) desks)
      (tidings ++ Gateway.tidings (station.ecuEvents occurrence) desks)
      (routed ++ station.gateway.responses.take occurrence.action.taken)
      (station.act occurrence).gateway := by
  have manned : (station.act occurrence).gateway.Manned
      (desksAfter (station.ecuEvents occurrence) desks) := by
    have still := informed.manned.undergo (station.ecuEvents occurrence)
    rwa [Manned, ← ecus_act] at still
  have numbers := length_manned informed.manned
  rcases bears served able with
    ⟨created, untaken, brings, running, routing, responses⟩ |
    ⟨untaken, brings, stopped, responses⟩ | ⟨brings, phase, routing, responses⟩
  · have unheard : HeardBy (· = 0) desks := informed.unheard (Or.inl (by rw [running?, created]))
    rw [brings, numbers] at manned ⊢
    refine ⟨manned, heardBy_launching unheard, ?_, fun _ => ?_, fun stopped => ?_⟩
    · rintro (none | unrouted)
      · rw [none] at running
        cases running
      · rw [routing] at unrouted
        cases unrouted
    · rw [tidings_of_unasked (unasked_launching _), untaken, responses]
      simpa using informed.waits (by rw [created]; simp)
    · rw [running?, stopped] at running
      cases running
  · rw [brings, numbers] at manned ⊢
    have unheard := heardBy_dismissing desks
    exact ⟨manned, fun desk member => (unheard desk member).le.trans (Nat.zero_le 1),
      fun _ => unheard, fun goes => absurd stopped goes, fun _ => responses⟩
  · have leave := leaves_activity station.gateway leaves
    rw [brings] at manned ⊢
    have said := informed.manned.saidBy informed.once leave
    -- Where nothing is routed, nothing is heard either.
    have silent : station.gateway.running? = none ∨ station.gateway.routing = false →
        Gateway.tidings (station.gateway.activity occurrence.action) desks = [] := fun apart =>
      tidings_of_unheard (informed.unheard apart) leave
    have heard : (if station.gateway.routing then
          (station.gateway.saidBy (station.gateway.activity occurrence.action)).map Prod.snd
        else []) = (Gateway.tidings (station.gateway.activity occurrence.action) desks).map
          fun tiding => tiding.reply.response := by
      cases routes : station.gateway.routing with
      | true => exact said
      | false =>
        rw [silent (Or.inr routes)]
        rfl
    rw [heard] at responses
    refine ⟨manned, heardBy_desksAfter informed.once leave, fun apart => ?_, fun goes => ?_,
      fun stopped => ?_⟩
    · refine heardBy_desksAfter ?_ leave
      rcases routing with same | empty
      · rw [running?, phase, same] at apart
        exact informed.unheard apart
      · have length := congrArg List.length numbers
        simp only [ecuNumbers, empty, List.length_range, List.length_nil] at length
        rw [List.length_eq_zero_iff.mp length.symm]
        exact fun _ member => absurd member List.not_mem_nil
    · rw [List.map_append, informed.waits (phase ▸ goes), responses, List.append_assoc,
        List.append_assoc, ← List.append_assoc (List.take _ _), List.take_append_drop]
    · rw [phase] at stopped
      rw [responses, informed.ended stopped, silent (Or.inl (by rw [running?, stopped]))]
      simp

/-- A gateway that was just made is informed: it has heard nothing. -/
theorem informed_withEcus {library : Pattern.Library} {config : GatewayConfig}
    {newcomers : List Newcomer} {gateway : Gateway}
    (made : withEcus library config (newcomers.map Newcomer.ecu) = .ok gateway) :
    Informed (newcomers.map Newcomer.desk) [] [] gateway := by
  have unheard := heardBy_newcomers newcomers
  rw [eq_of_withEcus made]
  exact ⟨manned_newcomers rfl, fun desk member => (unheard desk member).le.trans (Nat.zero_le 1),
    fun _ => unheard, fun _ => rfl, fun _ => rfl⟩

/-- After a possible history in which others leave its place alone, a gateway is informed. The
induction is on the history, and each occurrence adds to the tidings what it brings. -/
theorem Possible.informed (possible : station.Possible history)
    (served : station.gateway.registry.Served)
    (informed : Informed desks [] [] station.gateway)
    (leave : ∀ occurrence ∈ history, occurrence.action.Leaves) :
    Informed (desksAfter (station.brought history) desks) (station.tidings desks history)
      ((station.routings history).map Routing.response) (station.replay history).gateway := by
  revert leave
  refine possible.byOccurrence (fun _ => informed) ?_
  intro past occurrence front able inductionHypothesis leave
  have leaves := leave occurrence (by simp)
  have next := (inductionHypothesis fun other member => leave other (by simp [member])).act
    (front.served served) able leaves
  rw [replay_concat, brought_concat, desksAfter_append, tidings_concat, routings_concat,
    List.map_append, routing?_response]
  exact next

/-- The response that is routed belongs to the next tiding. A gateway that was stopped has no
responses left, so there is a place for the argument to hold. -/
theorem nextTiding?_of_routing {response : Ecu.Message} {rest : List Ecu.Message}
    (informed : Informed (desksAfter (station.brought past) desks) (station.tidings desks past)
      ((station.routings past).map Routing.response) (station.replay past).gateway)
    (waits : (station.replay past).gateway.responses = response :: rest) :
    ∃ tiding, station.nextTiding? desks past = some tiding ∧
      tiding.reply.response = response := by
  have goes : (station.replay past).gateway.phase ≠ .stopped := by
    intro stopped
    rw [informed.ended stopped] at waits
    cases waits
  have split := informed.waits goes
  have place : ((station.tidings desks past).map fun tiding => tiding.reply.response)[
      (station.routings past).length]? = some response := by
    rw [split, waits, List.getElem?_append_right (by simp)]
    simp
  rw [List.getElem?_map] at place
  exact Option.map_eq_some_iff.mp place

/-- After a response is routed, another tiding is next, and it replies to another request. The
tidings are all distinct in their requests, and routing goes through them in their order. -/
theorem nextTiding?_after {later : History} {first second : Tiding} {routing : Routing}
    (next : station.nextTiding? desks past = some first)
    (routes : (station.replay past).routing? occurrence = some routing)
    (longer : past ++ [occurrence] <+: later)
    (nextLater : station.nextTiding? desks later = some second) :
    first.request ≠ second.request := by
  obtain ⟨rest, split⟩ := longer
  have further : (station.routings past).length < (station.routings later).length := by
    rw [← split, routings_append, routings_concat, routes, List.length_append, List.length_append]
    exact Nat.lt_of_lt_of_le (Nat.lt_succ_self _) (Nat.le_add_right _ _)
  obtain ⟨within, -⟩ := List.getElem?_eq_some_iff.mp next
  have still : (station.tidings desks later)[(station.routings past).length]? = some first := by
    rw [← split, List.append_assoc, tidings_append, List.getElem?_append_left within]
    exact next
  have distinct : ((station.tidings desks later).map Tiding.request).Nodup :=
    nodup_tidings (station.brought later) desks
  obtain ⟨withinLater, -⟩ := List.getElem?_eq_some_iff.mp still
  rw [nextTiding?] at nextLater
  intro same
  have places : ((station.tidings desks later).map Tiding.request)[
        (station.routings past).length]? =
      ((station.tidings desks later).map Tiding.request)[(station.routings later).length]? := by
    rw [List.getElem?_map, List.getElem?_map, still, nextLater, Option.map_some, Option.map_some,
      same]
  exact Nat.ne_of_lt further
    ((List.getElem?_inj (by rwa [List.length_map]) distinct).mp places)

/-! ## The request behind a reply -/

/-- The scene that brings an ECU its event with a number, among some scenes. -/
def bringing (index : Nat) : List Scene → Nat → Option Scene
  | [], _ => none
  | scene :: rest, number =>
    let own := eventsAt index scene.brings
    if number < own.length then some scene else bringing index rest (number - own.length)

/-- The events at an index are those that were brought there. -/
theorem mem_eventsAt {index : Nat} {event : Ecu.Event} {events : List (Nat × Ecu.Event)} :
    event ∈ eventsAt index events ↔ (index, event) ∈ events := by
  simp [eventsAt]

/-- Whatever comes to an ECU is brought by a scene. The induction is on the scenes: the event is one
of the first scene, or is counted on in the others. -/
theorem bringing_of_getElem? {index number : Nat} {event : Ecu.Event} {scenes : List Scene}
    (there : (eventsAt index (scenes.flatMap Scene.brings))[number]? = some event) :
    ∃ scene ∈ scenes, bringing index scenes number = some scene ∧
      (index, event) ∈ scene.brings := by
  induction scenes generalizing number with
  | nil => simp [eventsAt] at there
  | cons scene rest inductionHypothesis =>
    rw [List.flatMap_cons, eventsAt_append] at there
    by_cases here : number < (eventsAt index scene.brings).length
    · rw [List.getElem?_append_left here] at there
      exact ⟨scene, List.mem_cons_self, if_pos here,
        mem_eventsAt.mp (List.mem_of_getElem? there)⟩
    · rw [List.getElem?_append_right (Nat.not_lt.mp here)] at there
      obtain ⟨later, member, found, brings⟩ := inductionHypothesis there
      exact ⟨later, List.mem_cons_of_mem _ member, (if_neg here).trans found, brings⟩

end DiagnosticGateway.Station
