import DiagnosticGateway.Proofs.Registry.Soundness
import DiagnosticGateway.Proofs.Without.Checks

/-!
# Registries without strangers

A registry may leave out strange connections and number the others by their places. Whatever
happens to another connection happens in the same way without the strangers, and what happens to a
strange connection is not seen. The condition is that the strangers are not registered: then no
lookup finds them and none of them is probed.
-/

namespace DiagnosticGateway

namespace ProbePurpose

def renumbered (strange : ConnectionId → Bool) : ProbePurpose → ProbePurpose
  | capacity => .capacity
  | holder connection => .holder (place strange connection)

end ProbePurpose

namespace RequestStage

def renumbered (strange : ConnectionId → Bool) : RequestStage → RequestStage
  | asked => .asked
  | inLine => .inLine
  | probing purpose check => .probing (purpose.renumbered strange) (check.renumbered strange)
  | answered code => .answered code

end RequestStage

namespace Request

/-- The request of the connection under its new number. -/
def renumbered (strange : ConnectionId → Bool) (request : Request) : Request :=
  { request with
    connection := place strange request.connection
    stage := request.stage.renumbered strange }

end Request

section Places

variable {strange : Nat → Bool} {number : Nat} {numbers : List Nat}

/-- A stranger that is entered into a list of numbers has no place among the known ones. The
induction is on the list, up to the place at which it is entered. -/
theorem places_insert_of_strange (stranger : strange number = true) :
    places strange (Registry.insertAscending number numbers) = places strange numbers := by
  unfold places
  induction numbers with
  | nil => simp [Registry.insertAscending, stranger]
  | cons first rest inductionHypothesis =>
    unfold Registry.insertAscending
    split
    · simp [stranger]
    · split
      · rfl
      · rw [List.filter_cons, List.filter_cons]
        split
        · rw [List.map_cons, List.map_cons, inductionHypothesis]
        · exact inductionHypothesis

/-- A number below all others comes to the front. -/
theorem insertAscending_of_below (below : ∀ other ∈ numbers, number < other) :
    Registry.insertAscending number numbers = number :: numbers := by
  cases numbers with
  | nil => rfl
  | cons first rest => exact if_pos (below first List.mem_cons_self)

/-- A known number is entered at its place: whether numbers become places before or after it is
entered comes to the same. -/
theorem places_insert_of_known (known : strange number = false)
    (ascending : numbers.Pairwise (· < ·)) :
    Registry.insertAscending (place strange number) (places strange numbers) =
      places strange (Registry.insertAscending number numbers) := by
  induction numbers with
  | nil => simp [places, Registry.insertAscending, known]
  | cons first rest inductionHypothesis =>
    obtain ⟨below, restAscending⟩ := List.pairwise_cons.mp ascending
    have later := inductionHypothesis restAscending
    cases stranger : strange first with
    | true =>
      have front : ∀ numbers, places strange (first :: numbers) = places strange numbers := by
        intro numbers
        simp [places, stranger]
      have different : number ≠ first := by
        rintro rfl
        rw [known] at stranger
        cases stranger
      rw [front]
      by_cases before : number < first
      · have belowPlaces : ∀ other ∈ places strange rest, place strange number < other := by
          intro other member
          obtain ⟨origin, chosen, rfl⟩ := List.mem_map.mp member
          exact (place_lt_place_iff known).mpr
            (Nat.lt_trans before (below origin (List.mem_of_mem_filter chosen)))
        rw [insertAscending_of_below belowPlaces, Registry.insertAscending, if_pos before]
        simp [places, stranger, known]
      · rw [Registry.insertAscending, if_neg before, if_neg different, front]
        exact later
    | false =>
      have front : ∀ numbers, places strange (first :: numbers) =
          place strange first :: places strange numbers := by
        intro numbers
        simp [places, stranger]
      rw [front, Registry.insertAscending, Registry.insertAscending, later]
      simp only [place_lt_place_iff known, place_inj known stranger]
      split
      · simp [places, known, stranger]
      · split <;> simp [front]

end Places

/-- No stranger is registered. -/
def Pool.Unregistered (strange : ConnectionId → Bool) (pool : Pool) : Prop :=
  ∀ id, strange id = true → pool.sourceAddress id = none

/-- Strangers are never registered, so whoever holds an address is known. -/
theorem Pool.Unregistered.known {strange : ConnectionId → Bool} {pool : Pool} {id : ConnectionId}
    {source : UInt16} (unregistered : pool.Unregistered strange)
    (held : pool.sourceAddress id = some source) : strange id = false := by
  cases stranger : strange id with
  | true =>
    rw [unregistered id stranger] at held
    cases held
  | false => rfl

namespace Registry

/-- The registry without strange connections. -/
def without (strange : ConnectionId → Bool) (registry : Registry) : Registry :=
  { registry with
    pool := registry.pool.without strange
    table := places strange registry.table
    nextConnection := place strange registry.nextConnection
    requests := registry.requests.map (Request.renumbered strange)
    mail := registry.mail.map (Delivery.renumbered strange) }

namespace Course

/-- The course under new numbers. -/
def renumbered (strange : ConnectionId → Bool) : Course → Course
  | grant => .grant
  | probe purpose targets => .probe (purpose.renumbered strange) (targets.map (place strange))

end Course

variable {strange : ConnectionId → Bool} {registry next : Registry} {request : Request}
  {now : Milliseconds}

/-! ## Requests and the lock -/

/-- Without strangers the requests are the same, with places instead of numbers. -/
theorem request?_without (id : RequestId) (registry : Registry) :
    (registry.without strange).request? id =
      (registry.request? id).map (Request.renumbered strange) := by
  simp only [request?, without, List.find?_map]
  rfl

/-- Whether a request can move on has nothing to do with numbers. -/
theorem canStep_without (strange : ConnectionId → Bool) (now : Milliseconds)
    (request : Request) (registry : Registry) :
    (registry.without strange).canStep now (request.renumbered strange) =
      registry.canStep now request := by
  obtain ⟨id, connection, source, stage⟩ := request
  cases stage <;> rfl

/-- Without strangers the same requests have been answered, and with the same codes. -/
theorem answer?_without (strange : ConnectionId → Bool) (id : RequestId) (registry : Registry) :
    (registry.without strange).answer? id = registry.answer? id := by
  unfold answer?
  rw [request?_without]
  cases registry.request? id with
  | none => rfl
  | some request =>
    obtain ⟨number, connection, source, stage⟩ := request
    cases stage <;> rfl

/-- A request comes to a stage without strangers as it does with them. -/
theorem setStage_without (strange : ConnectionId → Bool) (id : RequestId) (stage : RequestStage)
    (registry : Registry) :
    (registry.without strange).setStage id (stage.renumbered strange) =
      (registry.setStage id stage).without strange := by
  simp only [setStage, without, List.map_map, mk.injEq, true_and, and_true]
  refine List.map_congr_left fun request _ => ?_
  have same : (request.renumbered strange).id = request.id := rfl
  simp only [Function.comp_apply, same]
  split <;> rfl

/-- A request is answered without strangers as it is with them, and the decision is noted in the
same way. -/
theorem answer_without (now : Milliseconds) (request : Request) (code : Wire.ActivationCode)
    (registry : Registry) :
    (registry.without strange).answer now (request.renumbered strange) code =
      (registry.answer now request code).without strange := by
  have staged := setStage_without strange request.id (.answered code) registry
  unfold answer
  rw [show (request.renumbered strange).id = request.id from rfl, show
    (RequestStage.answered code) = (RequestStage.answered code).renumbered strange from rfl, staged]
  rfl

/-- The lock is released to the same request without strangers, since all requests keep their
numbers. -/
theorem release_without (registry : Registry) :
    (registry.without strange).release = registry.release.without strange := by
  rw [release_value, release_value]
  rfl

/-! ## Lookups -/

/-- Whoever holds an address is found at its place without strangers, because no stranger holds
any. -/
theorem lookup_without (unregistered : registry.pool.Unregistered strange) (source : UInt16) :
    (registry.without strange).lookup source = (registry.lookup source).map (place strange) := by
  refine find?_places ?_ ?_
  · intro id held
    exact unregistered.known (by simpa using held)
  · intro id known
    rw [without, Pool.sourceAddress_without known]

/-- Another holder of an address is found at its place without strangers. A stranger holds no
address, so the search passes it by. -/
theorem otherHolder_without (unregistered : registry.pool.Unregistered strange)
    {connection : ConnectionId} (known : strange connection = false) (source : UInt16) :
    (registry.without strange).otherHolder (place strange connection) source =
      (registry.otherHolder connection source).map (place strange) := by
  refine find?_places ?_ ?_
  · intro id held
    rw [Bool.and_eq_true, beq_iff_eq] at held
    exact unregistered.known held.2
  · intro id knownId
    have apart : (place strange id != place strange connection) = (id != connection) := by
      rw [Bool.eq_iff_iff, bne_iff_ne, bne_iff_ne]
      exact (place_inj knownId known).not
    rw [apart, without, Pool.sourceAddress_without knownId]

/-- All connections that are registered are known. -/
theorem known_of_registered (unregistered : registry.pool.Unregistered strange)
    (consistent : registry.pool.Consistent) :
    ∀ id ∈ registry.registered, strange id = false := by
  intro id member
  have isRegistered := List.of_mem_filter member
  obtain ⟨source, held⟩ := (consistent.isRegistered_iff id).mp isRegistered
  exact unregistered.known held

/-- The connections that are registered are the same without strangers, in the same order. -/
theorem registered_without (unregistered : registry.pool.Unregistered strange)
    (consistent : registry.pool.Consistent) :
    (registry.without strange).registered = registry.registered.map (place strange) := by
  rw [← places_of_known (known_of_registered unregistered consistent)]
  refine filter_places fun id known => ?_
  rw [without, Pool.isRegistered_without known]

/-- Without the strangers there are no more open connections. -/
theorem length_openConnections_without (registry : Registry) :
    (registry.without strange).openConnections.length ≤ registry.openConnections.length := by
  have chosen : (registry.without strange).openConnections =
      places strange registry.openConnections := by
    refine filter_places fun id known => ?_
    rw [without, Pool.isOpen_without known]
  rw [chosen, places, List.length_map]
  exact List.length_filter_le ..

/-! ## Arbitration -/

/-- What a request comes to when it obtains the lock depends on registered connections and the limit
only, so it is the same without strangers. -/
theorem course_without (unregistered : registry.pool.Unregistered strange)
    (consistent : registry.pool.Consistent) {connection : ConnectionId}
    (known : strange connection = false) (source : UInt16) :
    (registry.without strange).course (place strange connection) source =
      (registry.course connection source).renumbered strange := by
  unfold course
  rw [otherHolder_without unregistered known, registered_without unregistered consistent,
    List.length_map]
  cases registry.otherHolder connection source with
  | some holder => rfl
  | none =>
    simp only [Option.map_none]
    split <;> split <;> first | rfl | contradiction

/-- The registration of a known connection is the same without strangers. -/
theorem committed_without (known : strange request.connection = false) (now : Milliseconds)
    (pool : Pool) :
    committed now (request.renumbered strange) (pool.without strange) =
      (committed now request pool).without strange :=
  congrArg Prod.fst (Pool.without_ask_of_known known (Connection.activate now request.source)
    (Connection.id_next now (.activate request.source))
    (Connection.activate_renumbered now request.source) pool)

/-- A request of a known connection is concluded in the same way without strangers. The lock goes to
the next in line, and the line has no strangers in it. -/
theorem concluded_without (known : strange request.connection = false) (now : Milliseconds)
    (code : Wire.ActivationCode) (registry : Registry) :
    (registry.without strange).concluded now (request.renumbered strange) code =
      (registry.concluded now request code).without strange := by
  have pool : (if code = .success then
        committed now (request.renumbered strange) (registry.pool.without strange)
      else registry.pool.without strange) =
        (if code = .success then committed now request registry.pool
          else registry.pool).without strange := by
    split
    · exact committed_without known now registry.pool
    · rfl
  unfold concluded
  rw [← release_without, ← answer_without]
  exact congrArg (fun pool => release (answer now (request.renumbered strange) code
    { registry.without strange with pool := pool })) pool

/-- A probe of known connections begins in the same way without strangers: it subscribes to them in
the same order and asks each of them. -/
theorem probing_without {targets : List ConnectionId}
    (known : ∀ target ∈ targets, strange target = false) (now : Milliseconds) (request : Request)
    (purpose : ProbePurpose) (registry : Registry) :
    (registry.without strange).probing now (request.renumbered strange)
        (purpose.renumbered strange) (targets.map (place strange)) =
      (registry.probing now request purpose targets).without strange := by
  have asked := AliveCheck.askTargets_without known request.id registry.pool
  unfold probing
  rw [← setStage_without]
  simp only [show (request.renumbered strange).id = request.id from rfl, without, asked]
  rfl

/-- A probe ends in the same way without strangers if neither its targets nor the reports it has got
are of strangers. The silent among the targets are closed then. -/
theorem probed_without {check : AliveCheck}
    (known : ∀ target ∈ check.targets, strange target = false)
    (subscribed : ∀ entry ∈ check.subscriptions, strange entry.1 = false)
    (reported : ∀ delivery ∈ registry.mail, strange delivery.report.connection = false) :
    (registry.without strange).probed (check.renumbered strange) =
      (registry.probed check).without strange := by
  have knownReports := Mail.known_of_reported reported check.mailbox
  simp only [probed, without, AliveCheck.renumbered, Mail.reports_renumbered,
    Mail.discard_renumbered, AliveCheck.unsubscribeAll_without subscribed,
    AliveCheck.closeSilent_without known knownReports]

/-- The responses that a probe has collected lead to the same verdict without strangers. The number
of those alive is not changed by their new numbers, and neither is who confirms. -/
theorem verdict_without (unregistered : registry.pool.Unregistered strange)
    (known : strange request.connection = false) {purpose : ProbePurpose}
    (knownHolder : ∀ holder, purpose = .holder holder → strange holder = false)
    {responses : AliveCheck.Responses}
    (knownResponses : ∀ entry ∈ responses, strange entry.1 = false) :
    (registry.without strange).verdict (request.renumbered strange) (purpose.renumbered strange)
        (AliveCheck.renumberedEntries strange responses) =
      registry.verdict request purpose responses := by
  cases purpose with
  | capacity =>
    simp only [verdict, ProbePurpose.renumbered, AliveCheck.alive_renumbered]
    rfl
  | holder holder =>
    have confirms := AliveCheck.confirms_renumbered knownResponses (knownHolder holder rfl)
      request.source
    have otherHolder := otherHolder_without unregistered known request.source
    simp only [verdict, ProbePurpose.renumbered, Request.renumbered, confirms, otherHolder,
      Option.isSome_map]

end Registry

end DiagnosticGateway
