import DiagnosticGateway.Proofs.Gateway.Conservation
import DiagnosticGateway.Proofs.Gateway.Mailbox
import DiagnosticGateway.Proofs.Wire.Admission

/-!
# The answers to datagrams

What a gateway owes the sender of a datagram is said of the datagram as it was sent. One that does
not begin with a sound header is refused for that, one of an unknown type for its type, and one
whose sizes do not agree for its size. A valid request has its response, and every other valid
message has none.

A gateway takes no more than `maxDatagram` bytes of a datagram. A datagram that is longer is refused
for its size, although it may be valid as it was sent, since what was taken of it is shorter than
was announced. There is one gap: if a sound header announces just what was taken, the gateway cannot
see that the datagram is too long. Nothing is said of such a datagram here.
-/

namespace DiagnosticGateway

namespace Gateway

open Wire

/-- The response to a valid message of a type with some payload, if it has one. It is said of the
payload's bytes, so that the law does not depend on how they are read. -/
def response (kind : PayloadType) (payload : Bytes) (gateway : Gateway) : Option Message :=
  match kind with
  | .vehicleIdentificationRequest => some gateway.vehicleAnnouncement
  | .vehicleIdentificationRequestWithEid =>
    if payload = gateway.identity.eid.toList then some gateway.vehicleAnnouncement else none
  | .vehicleIdentificationRequestWithVin =>
    if payload = gateway.identity.vin.toList then some gateway.vehicleAnnouncement else none
  | .entityStatusRequest => some gateway.entityStatus
  | .powerModeRequest => some (.powerModeResponse powerMode)
  | _ => none

/-- What a gateway owes the sender of a datagram. -/
inductive Owes (gateway : Gateway) : Bytes → Option Message → Prop
  /-- There is no sound header. -/
  | malformed {bytes : Bytes} (malformed : Malformed bytes) :
      Owes gateway bytes (some (.genericNack .incorrectPatternFormat))
  /-- The header is sound, but the type is not understood. -/
  | unknown {header : Header} {payload : Bytes}
      (accepted : Header.acceptsVersion header.version header.payloadCode = true)
      (unknown : ∀ kind : PayloadType, kind.code ≠ header.payloadCode) :
      Owes gateway (header.write ++ payload) (some (.genericNack .unknownPayloadType))
  /-- The datagram has not the size that was announced, the type does not admit that size, or the
  datagram is too long. -/
  | misfit {header : Header} {payload : Bytes} {kind : PayloadType}
      (accepted : Header.acceptsVersion header.version header.payloadCode = true)
      (known : kind.code = header.payloadCode)
      (misfit : payload.length ≠ header.payloadLength.toNat ∨
        kind.admits header.payloadLength.toNat = false ∨
          maxDatagram < (header.write ++ payload).length) :
      Owes gateway (header.write ++ payload) (some (.genericNack .invalidPayloadLength))
  /-- The datagram is valid. -/
  | valid {header : Header} {payload : Bytes} {kind : PayloadType}
      (accepted : Header.acceptsVersion header.version header.payloadCode = true)
      (known : kind.code = header.payloadCode)
      (announced : payload.length = header.payloadLength.toNat)
      (admitted : kind.admits header.payloadLength.toNat = true)
      (whole : (header.write ++ payload).length ≤ maxDatagram) :
      Owes gateway (header.write ++ payload) (gateway.response kind payload)

/-- A datagram is too long, but its header is sound, what is taken of it has just the size that was
announced, and the type admits that size. -/
def Poses (bytes : Bytes) : Prop :=
  maxDatagram < bytes.length ∧ ∃ (header : Header) (payload : Bytes) (kind : PayloadType),
    bytes = header.write ++ payload ∧
      Header.acceptsVersion header.version header.payloadCode = true ∧
      kind.code = header.payloadCode ∧ header.payloadLength.toNat = maxDatagram - Header.size ∧
      kind.admits (maxDatagram - Header.size) = true

variable {gateway : Gateway} {bytes payload : Bytes} {kind : PayloadType} {message : Message}
  {answer : Option Message}

/-- A message is answered by its type and its payload. The payload that was read is the one that the
message writes. -/
theorem replyTo_eq_response (read : kind.readPayload payload = some message) :
    gateway.replyTo message = gateway.response kind payload := by
  obtain ⟨rfl, written, -, -⟩ := Message.payload_of_readPayload read
  cases message with
  | vehicleIdentificationRequestWithEid eid =>
    have written : eid.toList = payload := written
    simp only [replyTo, response, Message.payloadType, ← written, Octets.ext_iff]
  | vehicleIdentificationRequestWithVin vin =>
    have written : vin.toList = payload := written
    simp only [replyTo, response, Message.payloadType, ← written, Octets.ext_iff]
  | _ => rfl

/-- A header keeps its place when the end of a datagram is cut off. -/
theorem take_datagram (header : Header) (payload : Bytes) :
    (header.write ++ payload).take maxDatagram =
      header.write ++ payload.take (maxDatagram - Header.size) := by
  rw [List.take_append, List.take_of_length_le, header.length_write]
  exact Nat.le_of_ble_eq_true rfl

/-- What is owed is what the gateway answers to the bytes that it takes. One case for each way of
owing. What is cut off at the end of a long datagram changes the answer only where its header
announces what was cut, and that is excluded. -/
theorem Owes.reply (owes : gateway.Owes bytes answer) (honest : ¬ Poses bytes) :
    gateway.reply (bytes.take maxDatagram) = answer := by
  cases owes with
  | malformed malformed =>
    obtain ⟨fault, refused, code⟩ :=
      (malformed.take maxDatagram (by decide)).ofDatagram
    simp [Gateway.reply, refused, code]
  | unknown accepted unknown =>
    simp [Gateway.reply, take_datagram, Message.ofDatagram_unknown accepted unknown,
      Fault.nackCode]
  | @misfit header payload kind accepted known misfit =>
    have cut : (payload.take (maxDatagram - Header.size)).length ≠ header.payloadLength.toNat ∨
        kind.admits (payload.take (maxDatagram - Header.size)).length = false := by
      by_contra agrees
      obtain ⟨taken, admitted⟩ := not_or.mp agrees
      rw [Decidable.not_not, List.length_take] at taken
      rw [Bool.not_eq_false, List.length_take] at admitted
      by_cases short : payload.length ≤ maxDatagram - Header.size
      · rw [Nat.min_eq_right short] at taken admitted
        rcases misfit with apart | refused | long
        · exact apart taken
        · rw [← taken, admitted] at refused
          cases refused
        · rw [List.length_append, header.length_write] at long
          simp only [maxDatagram, Header.size] at short long
          omega
      · have beyond := Nat.lt_of_not_le short
        rw [Nat.min_eq_left (Nat.le_of_lt beyond)] at taken admitted
        refine honest ⟨?_, header, payload, kind, rfl, accepted, known, taken.symm, admitted⟩
        rw [List.length_append, header.length_write]
        simp only [maxDatagram, Header.size] at beyond ⊢
        omega
    simp [Gateway.reply, take_datagram, Message.ofDatagram_misfit accepted known cut,
      Fault.nackCode]
  | @valid header payload kind accepted known announced admitted whole =>
    rw [← announced] at admitted
    obtain ⟨message, read, found⟩ := Message.ofDatagram_fits accepted known announced admitted
    rw [List.take_of_length_le whole, Gateway.reply, found]
    exact replyTo_eq_response read

/-- Something is owed for every datagram, if only nothing. The bytes are malformed, or they have a
header with a type that is unknown, a length that is not admitted, or a payload that is read. -/
theorem exists_owes (gateway : Gateway) (bytes : Bytes) : ∃ answer, gateway.Owes bytes answer := by
  rcases malformed_or_header bytes with malformed | ⟨header, payload, accepted, rfl⟩
  · exact ⟨_, .malformed malformed⟩
  cases found : PayloadType.ofCode? header.payloadCode with
  | none =>
    refine ⟨_, .unknown accepted fun kind known => ?_⟩
    rw [PayloadType.ofCode?_eq_some_iff.mpr known] at found
    cases found
  | some kind =>
    have known := PayloadType.ofCode?_eq_some_iff.mp found
    by_cases fits : payload.length = header.payloadLength.toNat ∧
        kind.admits header.payloadLength.toNat = true ∧
          (header.write ++ payload).length ≤ maxDatagram
    · exact ⟨_, .valid accepted known fits.1 fits.2.1 fits.2.2⟩
    · refine ⟨_, .misfit accepted known ?_⟩
      simpa only [not_and_or, Bool.not_eq_true, Nat.not_le] using fits

end Gateway

namespace Station

open Gateway

/-- What a gateway makes of the datagrams that arrive. It speaks of the order in which datagrams are
taken, of when the next one can be, and of what is sent for each of them. -/
structure AnswersDatagrams (history : History) (station : Station) : Prop where
  /-- As long as it runs, what has arrived is taken in the order of its arrival, and the rest
  waits. -/
  ordered : (station.replay history).gateway.running?.isSome = true →
    station.arrived history = station.taken history ++ (station.replay history).gateway.receipts
  /-- As long as it runs and something waits, it can go on, unless it pauses after a failure. -/
  ready : ∀ now, (station.replay history).gateway.running?.isSome = true →
    (station.replay history).gateway.receipts ≠ [] →
      ((station.replay history).gateway.pausedUntil.all fun moment => moment ≤ now) = true →
        .receive ∈ (station.replay history).gateway.enabled now
  /-- One answer is owed for a datagram, or none, and as the datagram is taken this and nothing else
  is handed to the network, with the sender of the datagram as its target. -/
  settled : ∀ scene ∈ station.scenes history, ∀ peer bytes,
    scene.takes? = some (.datagram peer bytes) → ¬ Poses bytes →
      ∃ sockets answer, scene.before.gateway.running? = some sockets ∧
        (∀ other, scene.before.gateway.Owes bytes other ↔ other = answer) ∧
          scene.after.network = handing sockets peer answer scene.before.network
  /-- Apart from that, nothing is sent but announcements. -/
  unasked : ∀ scene ∈ station.scenes history,
    (∀ peer bytes, scene.takes? ≠ some (.datagram peer bytes)) →
      scene.occurrence.action ≠ .task .announce →
        scene.after.network.sent = scene.before.network.sent

variable {station : Station} {history : History} {scene : Scene} {peer : Net.Endpoint}
  {bytes : Bytes}

/-- A datagram that is taken is settled. It is taken while the gateway runs, so there are sockets
from which the answer goes out, and the answer is the one that is owed. -/
theorem Possible.settled (possible : station.Possible history)
    (member : scene ∈ station.scenes history)
    (takes : scene.takes? = some (.datagram peer bytes)) (honest : ¬ Poses bytes) :
    ∃ sockets answer, scene.before.gateway.running? = some sockets ∧
      (∀ other, scene.before.gateway.Owes bytes other ↔ other = answer) ∧
        scene.after.network = handing sockets peer answer scene.before.network := by
  obtain ⟨-, -, -, able⟩ := possible.of_mem_scenes member
  obtain ⟨receives, rest, waits⟩ := Scene.takes?_eq_some_iff.mp takes
  obtain ⟨before, moment, action⟩ := scene
  obtain rfl : action = .task .receive := receives
  have ready : before.gateway.canReceive moment = true := mem_enabled.mp able
  simp only [canReceive, Bool.and_eq_true] at ready
  obtain ⟨sockets, runs⟩ := Option.isSome_iff_exists.mp ready.1.1
  refine ⟨sockets, before.gateway.reply (bytes.take maxDatagram), runs, ?_, ?_⟩
  · intro other
    constructor
    · intro owes
      exact (owes.reply honest).symm
    · rintro rfl
      obtain ⟨answer, owes⟩ := exists_owes before.gateway bytes
      rw [owes.reply honest]
      exact owes
  · show (before.receive moment).value.network = _
    rw [receive_value runs waits]

/-- Whoever neither takes a datagram nor announces the vehicle sends nothing. A datagram that is
sent answers one that was taken or is an announcement, and there is no third kind. -/
theorem Scene.sent_of_unasked
    (untaken : ∀ peer bytes, scene.takes? ≠ some (.datagram peer bytes))
    (unannounced : scene.occurrence.action ≠ .task .announce) :
    scene.after.network.sent = scene.before.network.sent := by
  refine (sent_act scene.before scene.occurrence).resolve_right ?_
  rintro ⟨message, target, sockets, transmits, -, -⟩
  unfold transmits? at transmits
  split at transmits
  · rename_i receives
    split at transmits
    · rename_i peer bytes rest waits
      exact untaken peer bytes (takes?_eq_some_iff.mpr ⟨receives, rest, waits⟩)
    · cases transmits
  · rename_i announces
    exact unannounced announces
  · cases transmits

end Station

namespace Gateway

open Station

/-- A gateway that runs takes every datagram that arrives, one after the other, and gives its sender
what is owed for it, but for datagrams that pose as shorter ones. -/
theorem datagrams_answered {library : Pattern.Library} {config : GatewayConfig} {ecus : List Ecu}
    {gateway : Gateway} (made : withEcus library config ecus = .ok gateway) {network : Net.Network}
    {history : History} (possible : (Station.mk gateway network).Possible history) :
    (Station.mk gateway network).AnswersDatagrams history where
  ordered running := by
    have empty : gateway.receipts = [] := by rw [eq_of_withEcus made]
    refine arrived_eq empty fun stopped => ?_
    obtain ⟨sockets, runs⟩ := running?_isSome_iff.mp running
    rw [stopped] at runs
    cases runs
  ready now running waits unpaused := by
    refine mem_enabled.mpr ?_
    simp only [Able, canReceive, running, unpaused, Bool.true_and, Bool.and_true,
      Bool.not_eq_true', List.isEmpty_eq_false_iff]
    exact waits
  settled _ member _ _ takes honest := possible.settled member takes honest
  unasked _ _ untaken unannounced := Scene.sent_of_unasked untaken unannounced

/-- A tester asks the vehicle who it is. -/
def inquiry : History :=
  [⟨0, .event .start⟩,
    ⟨0, .event (.receipt (.datagram ⟨.v4 .loopback, 50001⟩
      Wire.Message.vehicleIdentificationRequest.encode))⟩]

/-- The vehicle presents itself to the tester. The request for its identification was the first
datagram to arrive, and the answer goes back to where it came from. -/
theorem datagrams_answered_inquiry :
    ∃ sockets, ((Station.mk demonstration .new).replay
        (inquiry ++ [⟨0, .task .receive⟩])).network =
      handing sockets ⟨.v4 .loopback, 50001⟩ (some demonstration.vehicleAnnouncement)
        ((Station.mk demonstration .new).replay inquiry).network := by
  let station := Station.mk demonstration .new
  have possible : station.Possible (inquiry ++ [⟨0, .task .receive⟩]) := by decide +kernel
  have answers := datagrams_answered demonstration_made possible
  have takes : (Scene.mk (station.replay inquiry) ⟨0, .task .receive⟩).takes? =
      some (.datagram ⟨.v4 .loopback, 50001⟩
        Wire.Message.vehicleIdentificationRequest.encode) := by decide +kernel
  have honest : ¬ Poses Wire.Message.vehicleIdentificationRequest.encode :=
    fun poses => absurd poses.1 (by decide)
  obtain ⟨sockets, answer, -, owed, handed⟩ :=
    answers.settled _ (mem_scenes_concat inquiry _ station) _ _ takes honest
  have owes : (station.replay inquiry).gateway.Owes
      Wire.Message.vehicleIdentificationRequest.encode
      (some (station.replay inquiry).gateway.vehicleAnnouncement) :=
    @Owes.valid _ Wire.Message.vehicleIdentificationRequest.header []
      .vehicleIdentificationRequest rfl rfl rfl rfl (by decide)
  obtain rfl := (owed _).mp owes
  refine ⟨sockets, (congrArg Station.network (replay_concat inquiry _ station)).trans ?_⟩
  exact handed

/-- A diagnostic message of more than `maxDatagram` bytes, as a header and a payload. -/
def overlong : Wire.Header × Bytes :=
  (⟨0x02, 0x8001, 4089⟩, List.replicate 4089 0x00)

/-- A tester sends this message as a datagram. -/
def overlongInquiry : History :=
  [⟨0, .event .start⟩,
    ⟨0, .event (.receipt (.datagram ⟨.v4 .loopback, 50001⟩
      (overlong.1.write ++ overlong.2)))⟩,
    ⟨0, .task .receive⟩]

/-- The message is valid and no request, and still it is refused for its size. -/
theorem valid_datagram_refused :
    withEcus Pattern.Plain.library demonstration.config [holdingEcu] = .ok demonstration ∧
      (Station.mk demonstration .new).Possible overlongInquiry ∧
      Wire.Header.acceptsVersion overlong.1.version overlong.1.payloadCode = true ∧
      Wire.PayloadType.diagnosticMessage.code = overlong.1.payloadCode ∧
      overlong.2.length = overlong.1.payloadLength.toNat ∧
      Wire.PayloadType.diagnosticMessage.admits overlong.2.length = true ∧
      demonstration.response .diagnosticMessage overlong.2 = none ∧
      ((Station.mk demonstration .new).replay overlongInquiry).network.sent.map
          (fun datagram => (datagram.target, datagram.bytes)) =
        [(⟨.v4 .loopback, 50001⟩, (Wire.Message.genericNack .invalidPayloadLength).encode)] := by
  refine ⟨demonstration_made, ?_, rfl, rfl, ?_, ?_, rfl, ?_⟩ <;> decide +kernel

end Gateway

end DiagnosticGateway
