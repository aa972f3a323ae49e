import DiagnosticGateway.Proofs.Wire.RoundTrip
import DiagnosticGateway.Wire.Frame

/-!
# Which datagrams are messages

A payload is read exactly if its type admits its length: whatever the bytes are, a reader fails for
want of bytes or because some are left over, and for no other reason. So whether a datagram is a
message shows in its header and in its size, and a datagram that is none is refused for the first of
three reasons: it does not begin with a sound header, the type is not understood, or the sizes do
not agree.
-/

namespace DiagnosticGateway.Wire

variable {field : Type} {bytes payload : Bytes} {kind : PayloadType} {header : Header}
  {message : Message}

/-! ## Fields -/

/-- A reader takes its number of bytes from the front if there are as many. -/
def Consumes (size : Nat) (read : Bytes → Option (field × Bytes)) : Prop :=
  ∀ bytes : Bytes, size ≤ bytes.length →
    ∃ value rest, read bytes = some (value, rest) ∧ bytes.length = size + rest.length

/-- A byte can be read where there is one. -/
theorem consumes_byte : Consumes 1 readByte := by
  intro bytes enough
  match bytes, enough with
  | byte :: rest, _ => exact ⟨byte, rest, rfl, by simp [Nat.add_comm]⟩

/-- A word of two bytes can be read where there are two. -/
theorem consumes_word16 : Consumes 2 readWord16 := by
  intro bytes enough
  match bytes, enough with
  | high :: low :: rest, _ => exact ⟨_, rest, rfl, by simp; omega⟩

/-- A word of four bytes can be read where there are four. -/
theorem consumes_word32 : Consumes 4 readWord32 := by
  intro bytes enough
  match bytes, enough with
  | _ :: _ :: _ :: _ :: rest, _ => exact ⟨_, rest, rfl, by simp; omega⟩

/-- Octets can be read where there are as many bytes. -/
theorem consumes_octets (size : Nat) : Consumes size (Octets.read size) := by
  intro bytes enough
  refine ⟨_, _, dif_pos enough, ?_⟩
  rw [List.length_drop]
  omega

/-- A trailing field may be there as a whole or not at all. -/
theorem Consumes.trailing {size : Nat} {read : Bytes → Option (field × Bytes)}
    (consumes : Consumes size read) (fits : bytes.length = 0 ∨ bytes.length = size) :
    ∃ found, readTrailing read bytes = some found := by
  cases bytes with
  | nil => exact ⟨none, rfl⟩
  | cons first more =>
    have whole : (first :: more).length = size := fits.resolve_left (by simp)
    obtain ⟨value, rest, reads, length⟩ := consumes (first :: more) (Nat.le_of_eq whole.symm)
    have nothing : rest = [] := List.eq_nil_of_length_eq_zero (by omega)
    exact ⟨some value, by simp [readTrailing, reads, nothing]⟩

/-! ## Bodies -/

/-- An announcement of an admitted length is read, with its sync status or without it. Each field
takes its bytes, and what is left in the end is one byte or none. -/
theorem Announcement.exists_read (fits : payload.length = 32 ∨ payload.length = 33) :
    ∃ body, read payload = some body := by
  obtain ⟨vin, rest, readsVin, length⟩ := consumes_octets 17 payload (by omega)
  obtain ⟨address, rest, readsAddress, length⟩ := consumes_word16 rest (by omega)
  obtain ⟨eid, rest, readsEid, length⟩ := consumes_octets 6 rest (by omega)
  obtain ⟨gid, rest, readsGid, length⟩ := consumes_octets 6 rest (by omega)
  obtain ⟨action, rest, readsAction, length⟩ := consumes_byte rest (by omega)
  have left : rest.length = 0 ∨ rest.length = 1 := by omega
  obtain ⟨status, readsStatus⟩ := consumes_byte.trailing left
  exact ⟨⟨vin, address, eid, gid, action, status⟩,
    by simp [read, readsVin, readsAddress, readsEid, readsGid, readsAction, readsStatus]⟩

/-- An activation request of an admitted length is read; every type code means some type. -/
theorem ActivationRequest.exists_read (fits : payload.length = 7 ∨ payload.length = 11) :
    ∃ body, read payload = some body := by
  obtain ⟨source, rest, readsSource, length⟩ := consumes_word16 payload (by omega)
  obtain ⟨activation, rest, readsType, length⟩ := consumes_byte rest (by omega)
  obtain ⟨reserved, rest, readsReserved, length⟩ := consumes_word32 rest (by omega)
  have left : rest.length = 0 ∨ rest.length = 4 := by omega
  obtain ⟨oem, readsOem⟩ := (consumes_octets 4).trailing left
  exact ⟨⟨source, .ofByte activation, oem⟩,
    by simp [read, readsSource, readsType, readsReserved, readsOem]⟩

/-- An activation response of an admitted length is read; every code means something. Four bytes are
left for the last field, or none. -/
theorem ActivationResponse.exists_read (fits : payload.length = 9 ∨ payload.length = 13) :
    ∃ body, read payload = some body := by
  obtain ⟨tester, rest, readsTester, length⟩ := consumes_word16 payload (by omega)
  obtain ⟨entity, rest, readsEntity, length⟩ := consumes_word16 rest (by omega)
  obtain ⟨code, rest, readsCode, length⟩ := consumes_byte rest (by omega)
  obtain ⟨reserved, rest, readsReserved, length⟩ := consumes_word32 rest (by omega)
  have left : rest.length = 0 ∨ rest.length = 4 := by omega
  obtain ⟨oem, readsOem⟩ := (consumes_octets 4).trailing left
  exact ⟨⟨tester, entity, .ofByte code, oem⟩,
    by simp [read, readsTester, readsEntity, readsCode, readsReserved, readsOem]⟩

/-- An entity status of an admitted length is read, with its data size or without it. -/
theorem EntityStatus.exists_read (fits : payload.length = 3 ∨ payload.length = 7) :
    ∃ body, read payload = some body := by
  obtain ⟨node, rest, readsNode, length⟩ := consumes_byte payload (by omega)
  obtain ⟨most, rest, readsMost, length⟩ := consumes_byte rest (by omega)
  obtain ⟨opened, rest, readsOpened, length⟩ := consumes_byte rest (by omega)
  have left : rest.length = 0 ∨ rest.length = 4 := by omega
  obtain ⟨size, readsSize⟩ := consumes_word32.trailing left
  exact ⟨⟨node, most, opened, size⟩, by simp [read, readsNode, readsMost, readsOpened, readsSize]⟩

/-- Two addresses and one byte of user data make a diagnostic message. All that follows the
addresses is user data. -/
theorem Diagnostic.exists_read (enough : 5 ≤ payload.length) :
    ∃ body, read payload = some body := by
  obtain ⟨source, rest, readsSource, length⟩ := consumes_word16 payload (by omega)
  obtain ⟨target, rest, readsTarget, length⟩ := consumes_word16 rest (by omega)
  cases rest with
  | nil =>
    rw [List.length_nil] at length
    omega
  | cons first more =>
    exact ⟨⟨source, target, first :: more⟩, by simp [read, readsSource, readsTarget]⟩

/-- Two addresses and a code make an acknowledge, the message it answers being optional. -/
theorem Acknowledge.exists_read {code : Type} (ofByte : UInt8 → code)
    (enough : 5 ≤ payload.length) : ∃ body, read ofByte payload = some body := by
  obtain ⟨source, rest, readsSource, length⟩ := consumes_word16 payload (by omega)
  obtain ⟨target, rest, readsTarget, length⟩ := consumes_word16 rest (by omega)
  obtain ⟨byte, rest, readsByte, length⟩ := consumes_byte rest (by omega)
  exact ⟨⟨source, target, ofByte byte, rest⟩, by simp [read, readsSource, readsTarget, readsByte]⟩

/-! ## Payloads -/

/-- A payload whose length is admitted is read. So between a header that is accepted and a message
there is only the length; no content of a payload is refused. -/
theorem PayloadType.exists_readPayload (admitted : kind.admits payload.length = true) :
    ∃ message, kind.readPayload payload = some message := by
  cases kind with
  | genericNack =>
    match payload, admitted with
    | [byte], _ => exact ⟨_, rfl⟩
  | vehicleIdentificationRequestWithEid =>
    exact ⟨_, congrArg (Option.map _) (dif_pos (beq_iff_eq.mp admitted))⟩
  | vehicleIdentificationRequestWithVin =>
    exact ⟨_, congrArg (Option.map _) (dif_pos (beq_iff_eq.mp admitted))⟩
  | vehicleAnnouncement =>
    obtain ⟨body, reads⟩ := Announcement.exists_read (by simpa [admits] using admitted)
    exact ⟨_, congrArg (Option.map _) reads⟩
  | routingActivationRequest =>
    obtain ⟨body, reads⟩ := ActivationRequest.exists_read (by simpa [admits] using admitted)
    exact ⟨_, congrArg (Option.map _) reads⟩
  | routingActivationResponse =>
    obtain ⟨body, reads⟩ := ActivationResponse.exists_read (by simpa [admits] using admitted)
    exact ⟨_, congrArg (Option.map _) reads⟩
  | aliveCheckResponse =>
    match payload, admitted with
    | [_, _], _ => exact ⟨_, rfl⟩
  | entityStatusResponse =>
    obtain ⟨body, reads⟩ := EntityStatus.exists_read (by simpa [admits] using admitted)
    exact ⟨_, congrArg (Option.map _) reads⟩
  | powerModeResponse =>
    match payload, admitted with
    | [mode], _ => exact ⟨_, rfl⟩
  | diagnosticMessage =>
    obtain ⟨body, reads⟩ := Diagnostic.exists_read (of_decide_eq_true admitted)
    exact ⟨_, congrArg (Option.map _) reads⟩
  | diagnosticMessagePositiveAck =>
    obtain ⟨body, reads⟩ :=
      Acknowledge.exists_read DiagnosticAckCode.ofByte (of_decide_eq_true admitted)
    exact ⟨_, congrArg (Option.map _) reads⟩
  | diagnosticMessageNegativeAck =>
    obtain ⟨body, reads⟩ :=
      Acknowledge.exists_read DiagnosticNackCode.ofByte (of_decide_eq_true admitted)
    exact ⟨_, congrArg (Option.map _) reads⟩
  | _ =>
    match payload, admitted with
    | [], _ => exact ⟨_, rfl⟩

/-- The payload of a message has an admitted length, unless the message lacks user data. The
optional parts are what makes two lengths admissible for some types. -/
theorem Message.admits_length_payload (carries : message.lacksData = false) :
    message.payloadType.admits message.payload.length = true := by
  have optional : ∀ oem : Option (Octets 4), (trailing Octets.toList oem).length = 0 ∨
      (trailing Octets.toList oem).length = 4 := by
    rintro (_ | octets)
    · exact Or.inl rfl
    · exact Or.inr octets.length_eq
  cases message with
  | vehicleIdentificationRequestWithEid eid => simp [payloadType, payload, PayloadType.admits]
  | vehicleIdentificationRequestWithVin vin => simp [payloadType, payload, PayloadType.admits]
  | vehicleAnnouncement body =>
    obtain ⟨vin, address, eid, gid, action, status⟩ := body
    cases status <;> simp [payloadType, payload, PayloadType.admits, Announcement.write, trailing]
  | routingActivationRequest body =>
    have length := optional body.oemSpecific
    simp only [payloadType, payload, PayloadType.admits, ActivationRequest.write,
      List.length_append, List.length_cons, length_word16, Bool.or_eq_true, beq_iff_eq]
    simp only [reservedField, List.length_cons, List.length_nil]
    omega
  | routingActivationResponse body =>
    have length := optional body.oemSpecific
    simp only [payloadType, payload, PayloadType.admits, ActivationResponse.write,
      List.length_append, List.length_cons, length_word16, Bool.or_eq_true, beq_iff_eq]
    simp only [reservedField, List.length_cons, List.length_nil]
    omega
  | entityStatusResponse body =>
    obtain ⟨node, most, opened, size⟩ := body
    cases size <;> simp [payloadType, payload, PayloadType.admits, EntityStatus.write, trailing]
  | diagnosticMessage body =>
    have some : body.userData ≠ [] := by simpa [lacksData] using carries
    have long := List.length_pos_iff.mpr some
    simp only [payloadType, payload, PayloadType.admits, Diagnostic.write, List.length_append,
      length_word16, decide_eq_true_eq]
    omega
  | diagnosticMessagePositiveAck body =>
    simp [payloadType, payload, PayloadType.admits, Acknowledge.write]
    omega
  | diagnosticMessageNegativeAck body =>
    simp [payloadType, payload, PayloadType.admits, Acknowledge.write]
    omega
  | _ => rfl

/-- Clearing what is reserved leaves the length as it is. -/
@[simp] theorem PayloadType.length_cleared (kind : PayloadType) (payload : Bytes) :
    (kind.cleared payload).length = payload.length := by
  unfold cleared clearedFrom
  split <;> simp

/-- A payload is read exactly if its type admits its length. -/
theorem PayloadType.readPayload_isSome_iff :
    (kind.readPayload payload).isSome = true ↔ kind.admits payload.length = true := by
  rw [Option.isSome_iff_exists]
  constructor
  · rintro ⟨message, read⟩
    obtain ⟨rfl, written, -, carries⟩ := Message.payload_of_readPayload read
    rw [← length_cleared message.payloadType, ← written]
    exact Message.admits_length_payload carries
  · exact exists_readPayload

/-! ## Datagrams -/

/-- The bytes do not begin with a sound header: there are too few of them, the second is not the
complement of the first, or the first is no version that is accepted with the type that follows. -/
inductive Malformed : Bytes → Prop
  | short {bytes : Bytes} (few : bytes.length < Header.size) : Malformed bytes
  | unsound {version inverse typeHigh typeLow : UInt8} {rest : Bytes}
      (refused : ¬ (inverse = ~~~version ∧
        Header.acceptsVersion version (joinWord16 typeHigh typeLow) = true)) :
      Malformed (version :: inverse :: typeHigh :: typeLow :: rest)

/-- Bytes that do not begin with a sound header do not, however many of them are left out behind
the place of the header. -/
theorem Malformed.take (malformed : Malformed bytes) (count : Nat) (enough : 4 ≤ count) :
    Malformed (bytes.take count) := by
  cases malformed with
  | short few =>
    refine .short ?_
    rw [List.length_take]
    omega
  | unsound refused =>
    obtain ⟨more, rfl⟩ := Nat.exists_eq_add_of_le' enough
    exact .unsound refused

/-- Bytes that do not begin with a sound header are refused for that. Too few bytes are reported as
such, and a wrong version or complement under the same code. -/
theorem Malformed.refused (malformed : Malformed bytes) :
    ∃ fault, Header.read bytes = .error fault ∧ fault.nackCode = .incorrectPatternFormat := by
  cases malformed with
  | short few =>
    refine ⟨.truncated bytes.length, ?_, rfl⟩
    unfold Header.read
    split
    · simp [Header.size] at few
      omega
    · rfl
  | @unsound version inverse typeHigh typeLow rest refused =>
    unfold Header.read
    split
    · rename_i same
      obtain ⟨rfl, rfl, rfl, rfl, -⟩ := by simpa only [List.cons.injEq] using same
      refine ⟨_, if_neg fun accepted => refused ⟨?_, accepted.2⟩, rfl⟩
      rw [accepted.1, UInt8.not_not]
    · exact ⟨_, rfl, rfl⟩

/-- All other bytes are a sound header with something behind it. The header can be written again
from what was read, and that is how the bytes split. -/
theorem malformed_or_header (bytes : Bytes) :
    Malformed bytes ∨ ∃ (header : Header) (payload : Bytes),
      Header.acceptsVersion header.version header.payloadCode = true ∧
        bytes = header.write ++ payload := by
  by_cases short : bytes.length < Header.size
  · exact Or.inl (.short short)
  have whole : Header.size ≤ bytes.length := Nat.le_of_not_lt short
  match bytes, whole with
  | version :: inverse :: typeHigh :: typeLow :: first :: second :: third :: fourth :: rest, _ =>
    by_cases sound : inverse = ~~~version ∧
        Header.acceptsVersion version (joinWord16 typeHigh typeLow) = true
    · obtain ⟨rfl, accepted⟩ := sound
      refine Or.inr ⟨⟨version, joinWord16 typeHigh typeLow, joinWord32 first second third fourth⟩,
        rest, accepted, ?_⟩
      simp [Header.write]
    · exact Or.inl (.unsound sound)

/-- A malformed datagram is refused as an incorrect pattern, which is the first thing that is looked
at. -/
theorem Malformed.ofDatagram (malformed : Malformed bytes) :
    ∃ fault, Message.ofDatagram bytes = .error fault ∧
      fault.nackCode = .incorrectPatternFormat := by
  obtain ⟨fault, refused, code⟩ := malformed.refused
  exact ⟨fault, by simp [Message.ofDatagram, refused], code⟩

/-- A message of a type that is not understood is refused for that. -/
theorem Message.ofDatagram_unknown
    (accepted : Header.acceptsVersion header.version header.payloadCode = true)
    (unknown : ∀ kind : PayloadType, kind.code ≠ header.payloadCode) :
    ofDatagram (header.write ++ payload) = .error (.unknownPayloadType header.payloadCode) := by
  have missing : PayloadType.ofCode? header.payloadCode = none :=
    Option.eq_none_iff_forall_ne_some.mpr fun kind found =>
      unknown kind (PayloadType.ofCode?_eq_some_iff.mp found)
  simp [ofDatagram, Header.read_write header accepted, Header.kind, missing]

/-- A message whose size is not the one that was announced, or not one that its type admits, is
refused for that. -/
theorem Message.ofDatagram_misfit
    (accepted : Header.acceptsVersion header.version header.payloadCode = true)
    (known : kind.code = header.payloadCode)
    (misfit : payload.length ≠ header.payloadLength.toNat ∨ kind.admits payload.length = false) :
    ofDatagram (header.write ++ payload) =
      .error (.invalidPayloadLength header.payloadCode payload.length) := by
  have found := PayloadType.ofCode?_eq_some_iff.mpr known
  have behind : (header.write ++ payload).drop Header.size = payload :=
    List.drop_left' header.length_write
  simp only [ofDatagram, Header.read_write header accepted, Header.kind, found, behind, decode]
  split
  · rename_i fits
    have unread : kind.readPayload payload = none := by
      rw [← Option.not_isSome_iff_eq_none, PayloadType.readPayload_isSome_iff]
      simp [misfit.resolve_left (not_not_intro fits)]
    simp [unread, known]
  · rfl

/-- Every other datagram is a message. -/
theorem Message.ofDatagram_fits
    (accepted : Header.acceptsVersion header.version header.payloadCode = true)
    (known : kind.code = header.payloadCode)
    (announced : payload.length = header.payloadLength.toNat)
    (admitted : kind.admits payload.length = true) :
    ∃ message, kind.readPayload payload = some message ∧
      ofDatagram (header.write ++ payload) = .ok message := by
  obtain ⟨message, read⟩ := PayloadType.exists_readPayload admitted
  have found := PayloadType.ofCode?_eq_some_iff.mpr known
  have behind : (header.write ++ payload).drop Header.size = payload :=
    List.drop_left' header.length_write
  refine ⟨message, read, ?_⟩
  simp [ofDatagram, Header.read_write header accepted, Header.kind, found, behind, announced,
    decode, read]

end DiagnosticGateway.Wire
