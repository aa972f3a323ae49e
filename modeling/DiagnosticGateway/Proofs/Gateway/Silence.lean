import Mathlib.Logic.Relation
import Mathlib.Order.WellFounded
import DiagnosticGateway.Proofs.Gateway.Mailbox
import DiagnosticGateway.Proofs.Wire.Legible

/-!
# Answers are not answered

What a gateway sends as a datagram, be it an answer or an announcement, is of a kind to which no
gateway has anything to say, and it is legible, so that no gateway mistakes it for something else.
When a datagram is sent to gateways and whatever they send is passed on to gateways again, each of
them answers no more often than it has got the datagram itself, and the exchange comes to an end.
-/

namespace DiagnosticGateway

/-- The message is one that a gateway sends as a datagram: a refusal, an announcement or a response
to a request. -/
def Wire.Message.isNotice : Wire.Message → Bool
  | genericNack _ | vehicleAnnouncement _ | entityStatusResponse _ | powerModeResponse _ => true
  | _ => false

/-- What a gateway takes of a datagram is such a message. -/
def Wire.bearsNotice (bytes : Bytes) : Bool :=
  match Wire.Message.ofDatagram (bytes.take Gateway.maxDatagram) with
  | .ok message => message.isNotice
  | .error _ => false

namespace Gateway

open Wire

variable {gateway : Gateway} {message : Message} {bytes : Bytes}

/-- A gateway has nothing to say to such a message. -/
theorem replyTo_of_isNotice (notice : message.isNotice = true) : gateway.replyTo message = none := by
  cases message <;> first | rfl | cases notice

/-- A datagram that bears a notice gets no reply. The reply depends only on the part of the datagram
that is taken, and so does the notice. -/
theorem reply_of_bearsNotice (notice : bearsNotice bytes = true) :
    gateway.reply (bytes.take maxDatagram) = none := by
  cases found : Message.ofDatagram (bytes.take maxDatagram) with
  | ok message =>
    simp only [bearsNotice, found] at notice
    simp only [reply, found]
    exact replyTo_of_isNotice notice
  | error fault =>
    simp only [bearsNotice, found] at notice
    cases notice

/-- The notices of a gateway are short. The announcement of a vehicle with all its fields is the
longest of them. -/
theorem length_payload_of_isNotice (notice : message.isNotice = true) :
    message.payload.length ≤ 33 := by
  cases message with
  | genericNack code => exact Nat.le_of_ble_eq_true rfl
  | powerModeResponse mode => exact Nat.le_of_ble_eq_true rfl
  | vehicleAnnouncement body =>
    obtain ⟨vin, address, eid, gid, action, status⟩ := body
    cases status <;> simp [Message.payload, Announcement.write, trailing]
  | entityStatusResponse body =>
    obtain ⟨node, most, opened, size⟩ := body
    cases size <;> simp [Message.payload, EntityStatus.write, trailing]
  | _ => cases notice

/-- A notice is legible if its code is named. A reserved code could be read back as another one with
the same byte. -/
theorem legible_of_isNotice (notice : message.isNotice = true)
    (named : ∀ code, message = .genericNack code → ∀ byte, code ≠ .reserved byte) :
    message.Legible where
  bounded := Nat.lt_of_le_of_lt (length_payload_of_isNotice notice) (by decide)
  unveiled := by
    cases message with
    | genericNack code =>
      rintro ⟨byte, reserved, -⟩
      exact named code rfl byte reserved
    | _ => first | exact id | cases notice
  carries := by
    cases message <;> first | rfl | cases notice

/-- A legible notice is recognised by whoever receives it. -/
theorem bearsNotice_encode (notice : message.isNotice = true) (legible : message.Legible) :
    bearsNotice message.encode = true := by
  have short : message.encode.length ≤ maxDatagram := by
    have length := length_payload_of_isNotice notice
    rw [Message.encode, List.length_append, Header.length_write]
    simp only [maxDatagram, Header.size]
    omega
  rw [bearsNotice, List.take_of_length_le short, legible.ofDatagram]
  exact notice

/-- What a gateway replies is a notice that is legible. The codes of negative acknowledges are
looked at separately, because a reserved one would not come back as it was. -/
theorem notice_of_reply (replies : gateway.reply bytes = some message) :
    message.isNotice = true ∧ message.Legible := by
  have plain : ∀ {notice : Message}, notice.isNotice = true →
      (∀ code, notice ≠ .genericNack code) → notice.isNotice = true ∧ notice.Legible :=
    fun notice other => ⟨notice, legible_of_isNotice notice fun code same => absurd same (other code)⟩
  unfold reply at replies
  split at replies
  · unfold replyTo at replies
    split at replies
    · obtain rfl := Option.some.inj replies
      exact plain rfl nofun
    · split at replies
      · obtain rfl := Option.some.inj replies
        exact plain rfl nofun
      · cases replies
    · split at replies
      · obtain rfl := Option.some.inj replies
        exact plain rfl nofun
      · cases replies
    · obtain rfl := Option.some.inj replies
      exact plain rfl nofun
    · obtain rfl := Option.some.inj replies
      exact plain rfl nofun
    · cases replies
  · rename_i fault _
    obtain rfl := Option.some.inj replies
    refine ⟨rfl, legible_of_isNotice rfl ?_⟩
    rintro code same byte rfl
    cases fault <;> cases same

end Gateway

namespace Station

open Gateway Wire

variable {scene : Scene} {message : Message} {target peer : Net.Endpoint} {bytes : Bytes}

/-- What a gateway sends as a datagram is a notice that is legible. The two cases are a reply and an
announcement. -/
theorem Scene.notice_of_transmits (transmits : scene.transmits? = some (message, target)) :
    message.isNotice = true ∧ message.Legible := by
  unfold transmits? at transmits
  split at transmits
  · split at transmits
    · obtain ⟨answer, replies, same⟩ := Option.map_eq_some_iff.mp transmits
      obtain ⟨rfl, -⟩ := Prod.mk.inj same
      exact notice_of_reply replies
    · cases transmits
  · obtain ⟨rfl, -⟩ := Prod.mk.inj (Option.some.inj transmits)
    exact ⟨rfl, legible_of_isNotice rfl nofun⟩
  · cases transmits

/-- The datagrams that are sent in a scene. -/
def Scene.sends (scene : Scene) : List Net.Datagram :=
  scene.after.network.sent.drop scene.before.network.sent.length

/-- No more than one datagram is sent in a scene, and it is the message that is to be sent. -/
theorem Scene.sends_cases (scene : Scene) :
    scene.sends = [] ∨ ∃ message target sockets, scene.transmits? = some (message, target) ∧
      scene.before.gateway.running? = some sockets ∧
        scene.sends = [⟨sockets.udp, target, message.encode⟩] := by
  rcases sent_act scene.before scene.occurrence with
    same | ⟨message, target, sockets, transmits, runs, grown⟩
  · left
    rw [sends, after, same, List.drop_length]
  · right
    refine ⟨message, target, sockets, transmits, runs, ?_⟩
    rw [sends, after, grown, List.drop_left]

/-- What is sent in a scene comes behind what was sent before. -/
theorem Scene.sent_after (scene : Scene) :
    scene.after.network.sent = scene.before.network.sent ++ scene.sends := by
  rcases sent_act scene.before scene.occurrence with same | ⟨message, target, sockets, -, -, grown⟩
  · rw [sends, after, same, List.drop_length, List.append_nil]
  · rw [sends, after, grown, List.drop_left]

/-- Whatever a gateway sends as a datagram bears a notice. -/
theorem Scene.bearsNotice_of_sends {datagram : Net.Datagram} (sent : datagram ∈ scene.sends) :
    bearsNotice datagram.bytes = true := by
  rcases scene.sends_cases with none | ⟨message, target, sockets, transmits, -, one⟩
  · rw [none] at sent
    cases sent
  · rw [one] at sent
    obtain rfl := List.mem_singleton.mp sent
    obtain ⟨notice, legible⟩ := notice_of_transmits transmits
    exact bearsNotice_encode notice legible

/-- A gateway that takes a notice leaves the network alone. -/
theorem Scene.network_of_bearsNotice (takes : scene.takes? = some (.datagram peer bytes))
    (notice : bearsNotice bytes = true) : scene.after.network = scene.before.network := by
  obtain ⟨receives, rest, waits⟩ := takes?_eq_some_iff.mp takes
  obtain ⟨before, moment, action⟩ := scene
  obtain rfl : action = .task .receive := receives
  show (before.receive moment).value.network = _
  rw [receive_datagram waits, reply_of_bearsNotice notice]
  rfl

/-- In a scene that takes a notice, nothing is sent. -/
theorem Scene.sends_of_bearsNotice (takes : scene.takes? = some (.datagram peer bytes))
    (notice : bearsNotice bytes = true) : scene.sends = [] := by
  rw [sends, network_of_bearsNotice takes notice, List.drop_length]

end Station

/-! ## Exchanges between gateways -/

/-- A scene of some possible life of a gateway, on whatever network. -/
def Gateway.Plays (gateway : Gateway) (scene : Station.Scene) : Prop :=
  ∃ network history, (Station.mk gateway network).Possible history ∧
    scene ∈ (Station.mk gateway network).scenes history

/-- A datagram on its way to a gateway of a fleet. -/
structure Flight where
  /-- The number of the gateway. -/
  receiver : Nat
  peer : Net.Endpoint
  bytes : Bytes

/-- A datagram and what has come of it: the datagrams that are on their way, and the numbers of the
gateways that have sent one, once for each datagram that they sent. -/
structure Relay where
  flying : List Flight
  senders : List Nat

namespace Relay

open Wire

/-- A datagram is sent to some gateways. -/
def launch (receivers : List Nat) (peer : Net.Endpoint) (bytes : Bytes) : Relay where
  flying := receivers.map fun receiver => ⟨receiver, peer, bytes⟩
  senders := []

/-- How many datagrams that bear no notice are on their way to a gateway. -/
def questions (receiver : Nat) (relay : Relay) : Nat :=
  relay.flying.countP fun flight => flight.receiver == receiver && !bearsNotice flight.bytes

/-- What can happen to a datagram on its way. -/
inductive Step (fleet : List Gateway) : Relay → Relay → Prop
  /-- It is lost. -/
  | lost {earlier later : List Flight} {senders : List Nat} (flight : Flight) :
      Step fleet ⟨earlier ++ flight :: later, senders⟩ ⟨earlier ++ later, senders⟩
  /-- Its receiver takes it. What the receiver sends is passed on to any number of gateways. -/
  | taken {earlier later onward : List Flight} {senders : List Nat} {flight : Flight}
      {gateway : Gateway} {scene : Station.Scene} (receives : fleet[flight.receiver]? = some gateway)
      (plays : gateway.Plays scene)
      (takes : scene.takes? = some (.datagram flight.peer flight.bytes))
      (passed : ∀ next ∈ onward, ∃ datagram ∈ scene.sends, next.bytes = datagram.bytes) :
      Step fleet ⟨earlier ++ flight :: later, senders⟩
        ⟨earlier ++ later ++ onward, senders ++ scene.sends.map fun _ => flight.receiver⟩

variable {fleet : List Gateway} {relay after : Relay} {receiver : Nat}

/-- What is passed on bears no question. -/
theorem countP_passed {scene : Station.Scene} {onward : List Flight}
    (passed : ∀ next ∈ onward, ∃ datagram ∈ scene.sends, next.bytes = datagram.bytes)
    (counts : Flight → Bool) :
    onward.countP (fun next => counts next && !bearsNotice next.bytes) = 0 := by
  refine List.countP_eq_zero.mpr fun next member => ?_
  obtain ⟨datagram, sent, same⟩ := passed next member
  simp [same, Station.Scene.bearsNotice_of_sends sent]

/-- Whoever sends something has used up a question. A datagram that is lost is a question less, and
one that is taken gives at most one datagram, which is a notice and so no question. -/
theorem questions_step (step : Step fleet relay after) (receiver : Nat) :
    after.senders.count receiver + after.questions receiver ≤
      relay.senders.count receiver + relay.questions receiver := by
  cases step with
  | lost flight =>
    simp only [questions, List.countP_append, List.countP_cons]
    omega
  | @taken earlier later onward senders flight gateway scene receives plays takes passed =>
    have notices := countP_passed passed fun next => next.receiver == receiver
    simp only [questions, List.countP_append, List.countP_cons, List.count_append, notices]
    cases notice : bearsNotice flight.bytes with
    | true =>
      rw [Station.Scene.sends_of_bearsNotice takes notice]
      simp
    | false =>
      rcases scene.sends_cases with none | ⟨_, _, _, _, _, one⟩
      · simp [none]
      · simp only [one, List.map_cons, List.map_nil, List.count_singleton, Bool.not_false,
          Bool.and_true]
        omega

/-- Whatever happens, no gateway sends more often than it was asked. -/
theorem questions_run (run : Relation.ReflTransGen (Step fleet) relay after) (receiver : Nat) :
    after.senders.count receiver + after.questions receiver ≤
      relay.senders.count receiver + relay.questions receiver := by
  induction run with
  | refl => exact Nat.le_refl _
  | tail _ step inductionHypothesis =>
    exact Nat.le_trans (questions_step step receiver) inductionHypothesis

/-- A datagram that is sent to some gateways asks each of them as often as it was sent to it, and a
notice asks nobody. -/
theorem questions_launch (receivers : List Nat) (peer : Net.Endpoint) (bytes : Bytes)
    (receiver : Nat) :
    (launch receivers peer bytes).questions receiver =
      if bearsNotice bytes then 0 else receivers.count receiver := by
  rw [questions, launch, List.countP_map]
  cases notice : bearsNotice bytes with
  | true => simp [Function.comp_def, notice]
  | false => simp [Function.comp_def, notice, List.count]

/-- How many questions are on their way, and how many datagrams. -/
def extent (relay : Relay) : Nat × Nat :=
  (relay.flying.countP fun flight => !bearsNotice flight.bytes, relay.flying.length)

/-- With every step there are fewer questions, or no more of them and fewer datagrams. The questions
come first in the measure; the notices that are sent for them count among the datagrams only. -/
theorem extent_step (step : Step fleet relay after) :
    Prod.Lex (· < ·) (· < ·) after.extent relay.extent := by
  rw [Prod.lex_iff]
  cases step with
  | lost flight =>
    simp only [extent, List.countP_append, List.countP_cons, List.length_append, List.length_cons]
    split <;> omega
  | @taken earlier later onward senders flight gateway scene receives plays takes passed =>
    have notices := countP_passed passed fun _ => true
    simp only [Bool.true_and] at notices
    simp only [extent, List.countP_append, List.countP_cons, List.length_append, List.length_cons,
      notices]
    cases notice : bearsNotice flight.bytes with
    | true =>
      have nothing : onward = [] := by
        refine List.eq_nil_iff_forall_not_mem.mpr fun next member => ?_
        obtain ⟨datagram, sent, -⟩ := passed next member
        rw [Station.Scene.sends_of_bearsNotice takes notice] at sent
        cases sent
      simp [nothing]
    | false =>
      left
      simp

/-- Gateways that do not answer what other gateways have sent. The second clause is about a datagram
that is passed from one to another: it comes to an end after as many answers as there were copies of
the question. -/
structure Discreet (fleet : List Gateway) : Prop where
  /-- Whatever one gateway has sent as a datagram, an answer or an announcement, another one that
  takes it leaves the network alone. -/
  unanswered : ∀ first ∈ fleet, ∀ second ∈ fleet, ∀ scene other, first.Plays scene →
    second.Plays other → ∀ datagram ∈ scene.sends, ∀ peer,
      other.takes? = some (.datagram peer datagram.bytes) →
        other.after.network = other.before.network
  /-- Of whatever is passed on, each gateway sends no more datagrams than it has got copies of the
  first one. -/
  once : ∀ receivers peer bytes after,
    Relation.ReflTransGen (Step fleet) (launch receivers peer bytes) after →
      ∀ receiver, after.senders.count receiver ≤ receivers.count receiver
  /-- If the first one was sent by a gateway, nobody sends anything more. -/
  silent : ∀ gateway ∈ fleet, ∀ scene, gateway.Plays scene → ∀ datagram ∈ scene.sends,
    ∀ receivers peer after,
      Relation.ReflTransGen (Step fleet) (launch receivers peer datagram.bytes) after →
        after.senders = []
  /-- No exchange goes on forever. -/
  ends : WellFounded fun after before => Step fleet before after

/-- Gateways do not answer each other's answers, whatever their configurations and their states, and
every exchange between them comes to an end. -/
theorem answers_unanswered (fleet : List Gateway) : Discreet fleet where
  unanswered _ _ _ _ _ _ _ _ _ sent _ takes :=
    Station.Scene.network_of_bearsNotice takes (Station.Scene.bearsNotice_of_sends sent)
  once receivers peer bytes after run receiver := by
    have bound := questions_run run receiver
    rw [questions_launch] at bound
    have asked : (if bearsNotice bytes then 0 else receivers.count receiver) ≤
        receivers.count receiver := by
      split
      · exact Nat.zero_le _
      · exact Nat.le_refl _
    have fresh : (launch receivers peer bytes).senders.count receiver = 0 := rfl
    omega
  silent gateway _ scene _ datagram sent receivers peer after run := by
    refine List.eq_nil_iff_forall_not_mem.mpr fun receiver member => ?_
    have bound := questions_run run receiver
    rw [questions_launch, if_pos (Station.Scene.bearsNotice_of_sends sent)] at bound
    have fresh : (launch receivers peer datagram.bytes).senders.count receiver = 0 := rfl
    have some := List.count_pos_iff.mpr member
    omega
  ends := Subrelation.wf extent_step
    (InvImage.wf extent (WellFounded.prod_lex Nat.lt_wfRel.wf Nat.lt_wfRel.wf))

end Relay

end DiagnosticGateway
