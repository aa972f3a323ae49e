import DiagnosticGateway.Proofs.Wire.Admission

/-!
# The grammar of headers and payloads

The eight bytes of a header follow one pattern, and a payload follows the length rule of its type.
Both are stated here on the bytes alone, beside what is accepted.

The length rule is all that stands between a payload and its reader. A reader takes its fields one
after the other without a look at what is left, and takes a trailing field if there are enough bytes
for it. To read past the end of the payload would be a fault of the program and no refusal, so it is
kept apart: a reader without checks has no value there. Behind the length rule of its type no reader
gets that far, and it reads what the reader with checks reads.
-/

namespace DiagnosticGateway.Wire

variable {field : Type} {bytes payload : Bytes} {kind : PayloadType} {message : Message}

/-! ## Headers -/

/-- Which versions stand with which payload types: versions 1, 2 and 3 with every type, and version
255 with the types 1, 2 and 3. -/
def Header.Versioned (version : UInt8) (payloadCode : UInt16) : Prop :=
  version ∈ [1, 2, 3] ∨ version = 255 ∧ payloadCode ∈ [1, 2, 3]

/-- The bytes begin with a version, its complement, a payload type and a length, and the version
stands with the payload type. -/
def Header.Leads (bytes : Bytes) : Prop :=
  ∃ version typeHigh typeLow rest,
    bytes = version :: ~~~version :: typeHigh :: typeLow :: rest ∧ 4 ≤ rest.length ∧
      Versioned version (joinWord16 typeHigh typeLow)

/-- The payload types 1, 2 and 3 are the requests for the vehicle's identity. -/
theorem PayloadType.identifiesVehicle_iff :
    kind.identifiesVehicle = true ↔ kind.code ∈ [1, 2, 3] := by
  cases kind <;> decide

/-- The version byte that is accepted is the one of the grammar: one of the three versions of the
protocol, or the unspecified one in a request that identifies vehicles. -/
theorem Header.acceptsVersion_iff {version : UInt8} {payloadCode : UInt16} :
    acceptsVersion version payloadCode = true ↔ Versioned version payloadCode := by
  unfold acceptsVersion Versioned
  by_cases unspecified : version = unspecifiedVersion
  · have same : version = 255 := unspecified
    have unnumbered : (255 : UInt8) ∉ [1, 2, 3] := by decide
    rw [if_pos unspecified]
    cases found : PayloadType.ofCode? payloadCode with
    | none =>
      have unlisted : payloadCode ∉ [1, 2, 3] := by
        intro listed
        simp only [List.mem_cons, List.not_mem_nil, or_false] at listed
        rcases listed with rfl | rfl | rfl <;> exact absurd found (by decide)
      simp [same, unnumbered, unlisted]
    | some kind =>
      obtain rfl := PayloadType.ofCode?_eq_some_iff.mp found
      simp only [PayloadType.identifiesVehicle_iff, same, unnumbered, false_or, true_and]
  · have other : version ≠ 255 := unspecified
    rw [if_neg unspecified]
    simp only [Bool.and_eq_true, decide_eq_true_eq, List.mem_cons, List.not_mem_nil, or_false,
      other, false_and, ← UInt8.toNat_inj, UInt8.reduceToNat]
    omega

/-- A header is read exactly from bytes that begin with one. The bytes are split as the decoder
splits them, and what it demands of them is what the grammar says. -/
theorem Header.exists_read_iff : (∃ header, read bytes = .ok header) ↔ Leads bytes := by
  constructor
  · rintro ⟨header, accepted⟩
    rcases malformed_or_header bytes with malformed | ⟨found, payload, sound, rfl⟩
    · obtain ⟨fault, refused, -⟩ := malformed.refused
      cases refused.symm.trans accepted
    · obtain ⟨version, payloadCode, payloadLength⟩ := found
      refine ⟨version, _, _, word32 payloadLength ++ payload, rfl, by simp, ?_⟩
      rw [joinWord16_bytes]
      exact acceptsVersion_iff.mp sound
  · rintro ⟨version, typeHigh, typeLow, rest, rfl, enough, versioned⟩
    match rest, enough with
    | first :: second :: third :: fourth :: rest, _ =>
      refine ⟨_, if_pos ⟨UInt8.not_not.symm, acceptsVersion_iff.mpr versioned⟩⟩

/-- A header that was read is written as the bytes that it was read from. -/
theorem Header.write_of_read {header : Header} (accepted : read bytes = .ok header) :
    header.write = bytes.take size := by
  rcases malformed_or_header bytes with malformed | ⟨found, payload, sound, rfl⟩
  · obtain ⟨fault, refused, -⟩ := malformed.refused
    cases refused.symm.trans accepted
  · rw [read_write found sound] at accepted
    cases accepted
    exact (List.take_left' header.length_write).symm

/-- Too few bytes are refused with their number. -/
theorem Header.read_short (few : bytes.length < size) :
    read bytes = .error (.truncated bytes.length) := by
  unfold read
  split
  · simp [size] at few
    omega
  · rfl

/-- Enough bytes that are no header are refused with the first two of them. -/
theorem Header.read_unsound (enough : size ≤ bytes.length) (unsound : ¬ Leads bytes) :
    ∃ version inverse, bytes.take 2 = [version, inverse] ∧
      read bytes = .error (.incorrectPattern version inverse) := by
  match bytes, enough with
  | version :: inverse :: typeHigh :: typeLow :: first :: second :: third :: fourth :: rest, _ =>
    refine ⟨version, inverse, rfl, if_neg ?_⟩
    rintro ⟨complement, accepted⟩
    refine unsound ⟨version, typeHigh, typeLow, first :: second :: third :: fourth :: rest, ?_,
      by simp, acceptsVersion_iff.mp accepted⟩
    rw [complement, UInt8.not_not]

/-! ## Length rules -/

/-- Which lengths a payload may have. -/
inductive LengthRule where
  /-- One length. -/
  | exactly (length : Nat)
  /-- The length of a body, alone or with the trailing field. -/
  | withOrWithout (body tail : Nat)
  /-- A least length. -/
  | atLeast (least : Nat)

/-- Whether a length follows a rule. -/
def LengthRule.Allows (length : Nat) : LengthRule → Prop
  | exactly only => length = only
  | withOrWithout body tail => length = body ∨ length = body + tail
  | atLeast least => least ≤ length

instance (length : Nat) (rule : LengthRule) : Decidable (rule.Allows length) := by
  cases rule <;> unfold LengthRule.Allows <;> infer_instance

/-- The length rule of a payload type. -/
def PayloadType.lengthRule : PayloadType → LengthRule
  | genericNack => .exactly 1
  | vehicleIdentificationRequest => .exactly 0
  | vehicleIdentificationRequestWithEid => .exactly 6
  | vehicleIdentificationRequestWithVin => .exactly 17
  | vehicleAnnouncement => .withOrWithout 32 1
  | routingActivationRequest => .withOrWithout 7 4
  | routingActivationResponse => .withOrWithout 9 4
  | aliveCheckRequest => .exactly 0
  | aliveCheckResponse => .exactly 2
  | entityStatusRequest => .exactly 0
  | entityStatusResponse => .withOrWithout 3 4
  | powerModeRequest => .exactly 0
  | powerModeResponse => .exactly 1
  | diagnosticMessage => .atLeast 5
  | diagnosticMessagePositiveAck => .atLeast 5
  | diagnosticMessageNegativeAck => .atLeast 5

/-- The lengths that are admitted are those of the type's length rule. -/
theorem PayloadType.admits_iff {length : Nat} :
    kind.admits length = true ↔ kind.lengthRule.Allows length := by
  cases kind <;> simp [admits, lengthRule, LengthRule.Allows]

/-! ## Readers without checks -/

/-- Take a trailing field of the given size if there are enough bytes for it. What is left then is
not looked at. -/
def takeTrailing (size : Nat) (read : Bytes → Option (field × Bytes)) (bytes : Bytes) :
    Option (Option field) :=
  if size ≤ bytes.length then (read bytes).map fun found => some found.1 else some none

/-- The fields of a vehicle announcement. -/
def Announcement.take (payload : Bytes) : Option Announcement := do
  let (vin, rest) ← Octets.read 17 payload
  let (logicalAddress, rest) ← readWord16 rest
  let (eid, rest) ← Octets.read 6 rest
  let (gid, rest) ← Octets.read 6 rest
  let (furtherAction, rest) ← readByte rest
  let syncStatus ← takeTrailing 1 readByte rest
  some ⟨vin, logicalAddress, eid, gid, furtherAction, syncStatus⟩

/-- The fields of a routing activation request. -/
def ActivationRequest.take (payload : Bytes) : Option ActivationRequest := do
  let (sourceAddress, rest) ← readWord16 payload
  let (activationType, rest) ← readByte rest
  let (_, rest) ← readWord32 rest
  let oemSpecific ← takeTrailing 4 (Octets.read 4) rest
  some ⟨sourceAddress, ActivationType.ofByte activationType, oemSpecific⟩

/-- The fields of a routing activation response. -/
def ActivationResponse.take (payload : Bytes) : Option ActivationResponse := do
  let (testerAddress, rest) ← readWord16 payload
  let (entityAddress, rest) ← readWord16 rest
  let (code, rest) ← readByte rest
  let (_, rest) ← readWord32 rest
  let oemSpecific ← takeTrailing 4 (Octets.read 4) rest
  some ⟨testerAddress, entityAddress, ActivationCode.ofByte code, oemSpecific⟩

/-- The fields of an entity status response. -/
def EntityStatus.take (payload : Bytes) : Option EntityStatus := do
  let (nodeType, rest) ← readByte payload
  let (maxConcurrentSockets, rest) ← readByte rest
  let (openSockets, rest) ← readByte rest
  let maxDataSize ← takeTrailing 4 readWord32 rest
  some ⟨nodeType, maxConcurrentSockets, openSockets, maxDataSize⟩

/-- The addresses of a diagnostic message and what comes behind them. -/
def Diagnostic.take (payload : Bytes) : Option Diagnostic := do
  let (sourceAddress, rest) ← readWord16 payload
  let (targetAddress, userData) ← readWord16 rest
  some ⟨sourceAddress, targetAddress, userData⟩

/-- The message of this type whose fields stand in the payload. There is none if a field lies
outside it. -/
def PayloadType.take (payload : Bytes) : PayloadType → Option Message
  | genericNack => (readByte payload).map fun found => .genericNack (.ofByte found.1)
  | vehicleIdentificationRequest => some .vehicleIdentificationRequest
  | vehicleIdentificationRequestWithEid =>
    (Octets.read 6 payload).map fun found => .vehicleIdentificationRequestWithEid found.1
  | vehicleIdentificationRequestWithVin =>
    (Octets.read 17 payload).map fun found => .vehicleIdentificationRequestWithVin found.1
  | vehicleAnnouncement => (Announcement.take payload).map .vehicleAnnouncement
  | routingActivationRequest => (ActivationRequest.take payload).map .routingActivationRequest
  | routingActivationResponse => (ActivationResponse.take payload).map .routingActivationResponse
  | aliveCheckRequest => some .aliveCheckRequest
  | aliveCheckResponse => (readWord16 payload).map fun found => .aliveCheckResponse found.1
  | entityStatusRequest => some .entityStatusRequest
  | entityStatusResponse => (EntityStatus.take payload).map .entityStatusResponse
  | powerModeRequest => some .powerModeRequest
  | powerModeResponse => (readByte payload).map fun found => .powerModeResponse found.1
  | diagnosticMessage => (Diagnostic.take payload).map .diagnosticMessage
  | diagnosticMessagePositiveAck =>
    (Acknowledge.read DiagnosticAckCode.ofByte payload).map .diagnosticMessagePositiveAck
  | diagnosticMessageNegativeAck =>
    (Acknowledge.read DiagnosticNackCode.ofByte payload).map .diagnosticMessageNegativeAck

/-- A reader that succeeds has taken its number of bytes. -/
def Consumed (size : Nat) (read : Bytes → Option (field × Bytes)) : Prop :=
  ∀ bytes value rest, read bytes = some (value, rest) → bytes.length = size + rest.length

/-- A byte that was read is gone from the front. -/
theorem consumed_byte : Consumed 1 readByte := by
  intro bytes value rest reads
  rw [readByte_eq_some_iff.mp reads, List.length_cons, Nat.add_comm]

/-- A word of four bytes that was read is gone from the front. -/
theorem consumed_word32 : Consumed 4 readWord32 := by
  intro bytes value rest reads
  rw [readWord32_eq_some_iff.mp reads, List.length_append, length_word32]

/-- Octets that were read are gone from the front. -/
theorem consumed_octets {size : Nat} : Consumed size (Octets.read size) := by
  intro bytes value rest reads
  rw [Octets.read_eq_some_iff.mp reads, List.length_append, value.length_eq]

/-- A trailing field that ends its payload is taken without a check. Since the field has a size, an
empty rest and one that holds it can be told apart by their lengths. -/
theorem takeTrailing_of_readTrailing {size : Nat} {read : Bytes → Option (field × Bytes)}
    {found : Option field} (consumed : Consumed size read) (sized : 0 < size)
    (reads : readTrailing read bytes = some found) : takeTrailing size read bytes = some found := by
  unfold readTrailing at reads
  unfold takeTrailing
  split at reads
  · cases reads
    exact if_neg (Nat.not_le.mpr sized)
  · split at reads
    · rename_i value taken
      cases reads
      have enough : size ≤ bytes.length := Nat.le_of_eq (consumed _ _ _ taken).symm
      rw [if_pos enough, taken]
      rfl
    · cases reads

/-- An announcement that is read takes its fields from their places. -/
theorem Announcement.take_of_read {body : Announcement} (reads : read payload = some body) :
    take payload = some body := by
  simp only [read, Option.bind_eq_bind, Option.bind_eq_some_iff, Prod.exists,
    Option.some.injEq] at reads
  obtain ⟨vin, rest, readsVin, address, rest, readsAddress, eid, rest, readsEid, gid, rest,
    readsGid, action, rest, readsAction, status, readsStatus, rfl⟩ := reads
  have taken := takeTrailing_of_readTrailing consumed_byte (by decide) readsStatus
  simp [take, readsVin, readsAddress, readsEid, readsGid, readsAction, taken]

/-- An activation request that is read takes its fields from their places, skipping what is
reserved. -/
theorem ActivationRequest.take_of_read {body : ActivationRequest}
    (reads : read payload = some body) : take payload = some body := by
  simp only [read, Option.bind_eq_bind, Option.bind_eq_some_iff, Prod.exists,
    Option.some.injEq] at reads
  obtain ⟨source, rest, readsSource, activation, rest, readsType, reserved, rest, readsReserved,
    oem, readsOem, rfl⟩ := reads
  have taken := takeTrailing_of_readTrailing consumed_octets (by decide) readsOem
  simp [take, readsSource, readsType, readsReserved, taken]

/-- An activation response that is read takes its fields from their places, skipping what is
reserved. -/
theorem ActivationResponse.take_of_read {body : ActivationResponse}
    (reads : read payload = some body) : take payload = some body := by
  simp only [read, Option.bind_eq_bind, Option.bind_eq_some_iff, Prod.exists,
    Option.some.injEq] at reads
  obtain ⟨tester, rest, readsTester, entity, rest, readsEntity, code, rest, readsCode, reserved,
    rest, readsReserved, oem, readsOem, rfl⟩ := reads
  have taken := takeTrailing_of_readTrailing consumed_octets (by decide) readsOem
  simp [take, readsTester, readsEntity, readsCode, readsReserved, taken]

/-- An entity status that is read takes its fields from their places. -/
theorem EntityStatus.take_of_read {body : EntityStatus} (reads : read payload = some body) :
    take payload = some body := by
  simp only [read, Option.bind_eq_bind, Option.bind_eq_some_iff, Prod.exists,
    Option.some.injEq] at reads
  obtain ⟨node, rest, readsNode, most, rest, readsMost, opened, rest, readsOpened, size, readsSize,
    rfl⟩ := reads
  have taken := takeTrailing_of_readTrailing consumed_word32 (by decide) readsSize
  simp [take, readsNode, readsMost, readsOpened, taken]

/-- A diagnostic message that is read takes its addresses from the front, and the rest is its user
data. -/
theorem Diagnostic.take_of_read {body : Diagnostic} (reads : read payload = some body) :
    take payload = some body := by
  obtain ⟨-, rfl⟩ := read_eq_some_iff.mp reads
  simp [take, write]

/-- The only field of a payload that ends behind it. -/
theorem take_of_ended (read : Bytes → Option (field × Bytes)) (make : field → Message)
    (reads : ((read payload).bind fun found => ended (make found.1) found.2) = some message) :
    ((read payload).map fun found => make found.1) = some message := by
  obtain ⟨found, taken, finished⟩ := Option.bind_eq_some_iff.mp reads
  rw [taken, Option.map_some, (ended_eq_some_iff.mp finished).2]

/-- Bytes that make up octets are read as these with nothing left over. -/
theorem Octets.read_of_ofList? {size : Nat} {octets : Octets size}
    (found : ofList? size payload = some octets) : read size payload = some (octets, []) := by
  rw [read_eq_some_iff, List.append_nil]
  exact ofList?_eq_some_iff.mp found

/-- What is read with checks is read without them. Each type takes its fields from their places; the
checks had only to see that there is nothing left over. -/
theorem PayloadType.take_of_readPayload (reads : kind.readPayload payload = some message) :
    kind.take payload = some message := by
  cases kind with
  | genericNack =>
    exact take_of_ended readByte (fun code => .genericNack (.ofByte code)) reads
  | aliveCheckResponse => exact take_of_ended readWord16 .aliveCheckResponse reads
  | powerModeResponse => exact take_of_ended readByte .powerModeResponse reads
  | vehicleIdentificationRequestWithEid =>
    obtain ⟨eid, found, rfl⟩ := Option.map_eq_some_iff.mp reads
    simp [take, Octets.read_of_ofList? found]
  | vehicleIdentificationRequestWithVin =>
    obtain ⟨vin, found, rfl⟩ := Option.map_eq_some_iff.mp reads
    simp [take, Octets.read_of_ofList? found]
  | vehicleAnnouncement =>
    obtain ⟨body, found, rfl⟩ := Option.map_eq_some_iff.mp reads
    simp [take, Announcement.take_of_read found]
  | routingActivationRequest =>
    obtain ⟨body, found, rfl⟩ := Option.map_eq_some_iff.mp reads
    simp [take, ActivationRequest.take_of_read found]
  | routingActivationResponse =>
    obtain ⟨body, found, rfl⟩ := Option.map_eq_some_iff.mp reads
    simp [take, ActivationResponse.take_of_read found]
  | entityStatusResponse =>
    obtain ⟨body, found, rfl⟩ := Option.map_eq_some_iff.mp reads
    simp [take, EntityStatus.take_of_read found]
  | diagnosticMessage =>
    obtain ⟨body, found, rfl⟩ := Option.map_eq_some_iff.mp reads
    simp [take, Diagnostic.take_of_read found]
  | diagnosticMessagePositiveAck => exact reads
  | diagnosticMessageNegativeAck => exact reads
  | vehicleIdentificationRequest => exact congrArg some (ended_eq_some_iff.mp reads).2
  | aliveCheckRequest => exact congrArg some (ended_eq_some_iff.mp reads).2
  | entityStatusRequest => exact congrArg some (ended_eq_some_iff.mp reads).2
  | powerModeRequest => exact congrArg some (ended_eq_some_iff.mp reads).2

/-! ## Messages -/

/-- The message with the given header and payload, read behind the length rule of its type by a
reader without checks. It has no value if the reader gets outside the payload. -/
def Message.decodeByRule (header : Header) (payload : Bytes) : Option (Except Fault Message) :=
  match header.kind with
  | .error fault => some (.error fault)
  | .ok kind =>
    if kind.lengthRule.Allows payload.length then (kind.take payload).map .ok
    else some (.error (.invalidPayloadLength kind.code payload.length))

/-- Behind the length rule of its type no reader gets outside the payload, and what it reads there
is what the checked readers read. -/
theorem Message.decodeByRule_eq (header : Header) (payload : Bytes) :
    decodeByRule header payload = some (decode header payload) := by
  unfold decodeByRule decode
  cases header.kind with
  | error fault => rfl
  | ok kind =>
    by_cases allowed : kind.lengthRule.Allows payload.length
    · obtain ⟨message, reads⟩ :=
        PayloadType.exists_readPayload (PayloadType.admits_iff.mpr allowed)
      simp [allowed, reads, PayloadType.take_of_readPayload reads]
    · have unread : kind.readPayload payload = none := by
        rw [← Option.not_isSome_iff_eq_none, PayloadType.readPayload_isSome_iff,
          PayloadType.admits_iff]
        exact allowed
      simp [allowed, unread]

/-- A header names a payload type exactly if its code is the code of that type. -/
theorem Header.kind_eq_ok_iff {header : Header} :
    header.kind = .ok kind ↔ kind.code = header.payloadCode := by
  unfold Header.kind
  rw [← PayloadType.ofCode?_eq_some_iff]
  cases PayloadType.ofCode? header.payloadCode <;> simp

/-- A message is read exactly from a payload of a known type whose length follows the rule of that
type. -/
theorem Message.exists_decode_iff {header : Header} :
    (∃ message, decode header payload = .ok message) ↔
      ∃ kind : PayloadType, kind.code = header.payloadCode ∧
        kind.lengthRule.Allows payload.length := by
  simp only [← Header.kind_eq_ok_iff, ← PayloadType.admits_iff,
    ← PayloadType.readPayload_isSome_iff, Option.isSome_iff_exists]
  unfold decode
  cases header.kind with
  | error fault => simp
  | ok kind =>
    cases reads : kind.readPayload payload <;> simp [reads]

/-- A payload of a type that is not known is refused for that. -/
theorem Message.decode_unknown {header : Header}
    (unknown : ∀ kind : PayloadType, kind.code ≠ header.payloadCode) :
    decode header payload = .error (.unknownPayloadType header.payloadCode) := by
  have missing : PayloadType.ofCode? header.payloadCode = none :=
    Option.eq_none_iff_forall_ne_some.mpr fun kind found =>
      unknown kind (PayloadType.ofCode?_eq_some_iff.mp found)
  simp [decode, Header.kind, missing]

/-- A payload whose length does not follow the rule of its type is refused with that type and that
length. -/
theorem Message.decode_misfit {header : Header} (known : kind.code = header.payloadCode)
    (misfit : ¬ kind.lengthRule.Allows payload.length) :
    decode header payload =
      .error (.invalidPayloadLength header.payloadCode payload.length) := by
  have unread : kind.readPayload payload = none := by
    rw [← Option.not_isSome_iff_eq_none, PayloadType.readPayload_isSome_iff,
      PayloadType.admits_iff]
    exact misfit
  simp [decode, Header.kind_eq_ok_iff.mpr known, unread, known]

/-- The codec accepts its grammar and nothing else. Of any bytes a header is read exactly if they
begin with one, it is written as the eight bytes that it was read from, and other bytes are refused
with their number if there are not eight of them, and with the first two of them otherwise. Under
any header a message is read exactly from a payload of a known type whose length follows the rule of
that type, another payload is refused for its type or for its length, and no byte outside the
payload is read. -/
theorem accepts_exactly_grammar :
    (∀ bytes : Bytes,
      ((∃ header, Header.read bytes = .ok header) ↔ Header.Leads bytes) ∧
      (∀ header, Header.read bytes = .ok header → header.write = bytes.take 8) ∧
      (bytes.length < 8 → Header.read bytes = .error (.truncated bytes.length)) ∧
      (8 ≤ bytes.length → ¬ Header.Leads bytes →
        ∃ version inverse, bytes.take 2 = [version, inverse] ∧
          Header.read bytes = .error (.incorrectPattern version inverse))) ∧
    (∀ (header : Header) (payload : Bytes),
      ((∃ message, Message.decode header payload = .ok message) ↔
        ∃ kind : PayloadType, kind.code = header.payloadCode ∧
          kind.lengthRule.Allows payload.length) ∧
      ((∀ kind : PayloadType, kind.code ≠ header.payloadCode) →
        Message.decode header payload = .error (.unknownPayloadType header.payloadCode)) ∧
      (∀ kind : PayloadType, kind.code = header.payloadCode →
        ¬ kind.lengthRule.Allows payload.length →
          Message.decode header payload =
            .error (.invalidPayloadLength header.payloadCode payload.length)) ∧
      Message.decodeByRule header payload = some (Message.decode header payload)) := by
  constructor
  · intro bytes
    exact ⟨Header.exists_read_iff, fun _ => Header.write_of_read, Header.read_short,
      Header.read_unsound⟩
  · intro header payload
    exact ⟨Message.exists_decode_iff, Message.decode_unknown,
      fun _ => Message.decode_misfit, Message.decodeByRule_eq header payload⟩

end DiagnosticGateway.Wire
