import DiagnosticGateway.Proofs.Wire.Payload

/-!
# Messages there and back

A message that is written is read again, with its code in canonical form. Only a diagnostic
message without user data can be written and not be read. A payload that is read is written again
with its reserved field cleared, so reading loses nothing but what stands in that field.
-/

namespace DiagnosticGateway.Wire

variable {payload : Bytes} {kind : PayloadType} {message : Message}

/-! ## The header -/

/-- A header that was written is read again, whatever comes behind it. -/
theorem Header.read_write (header : Header)
    (accepted : acceptsVersion header.version header.payloadCode = true) (rest : Bytes) :
    read (header.write ++ rest) = .ok header := by
  obtain ⟨version, code, length⟩ := header
  have complement : version = ~~~(~~~version) := by simp
  simp only [write, word16, word32, List.cons_append, List.nil_append, read, joinWord16_bytes,
    joinWord32_bytes]
  exact if_pos ⟨complement, accepted⟩

namespace PayloadType

/-- Where the reserved field of a payload begins, if it has one. -/
def reservedFrom? : PayloadType → Option Nat
  | routingActivationRequest => some 3
  | routingActivationResponse => some 5
  | _ => none

/-- Whether a position of a payload belongs to its reserved field. -/
def Reserves (kind : PayloadType) (position : Nat) : Prop :=
  ∃ start, kind.reservedFrom? = some start ∧ start ≤ position ∧ position < start + 4

/-- The payload with its reserved field set to zero. -/
def cleared (payload : Bytes) (kind : PayloadType) : Bytes :=
  match kind.reservedFrom? with
  | some start => clearedFrom start payload
  | none => payload

/-- Clearing touches nothing outside the reserved field. -/
theorem getElem?_cleared {position : Nat} (outside : ¬ kind.Reserves position) :
    (kind.cleared payload)[position]? = payload[position]? := by
  unfold cleared
  split
  · rename_i start begins
    have spared : ¬ (start ≤ position ∧ position < start + 4) := fun inside =>
      outside ⟨start, begins, inside⟩
    simp [clearedFrom, spared]
  · rfl

end PayloadType

namespace Message

/-! ## From messages to bytes and back -/

/-- The message with its code in canonical form. -/
def canonical : Message → Message
  | genericNack code => genericNack (GenericNackCode.table.canonical code)
  | routingActivationRequest body => routingActivationRequest
    { body with activationType := ActivationType.table.canonical body.activationType }
  | routingActivationResponse body => routingActivationResponse
    { body with code := ActivationCode.table.canonical body.code }
  | diagnosticMessagePositiveAck body => diagnosticMessagePositiveAck
    { body with code := DiagnosticAckCode.table.canonical body.code }
  | diagnosticMessageNegativeAck body => diagnosticMessageNegativeAck
    { body with code := DiagnosticNackCode.table.canonical body.code }
  | message => message

/-- The message has a reserved code although the byte of the code has a name. -/
def Veiled : Message → Prop
  | genericNack code => GenericNackCode.table.Veiled code
  | routingActivationRequest body => ActivationType.table.Veiled body.activationType
  | routingActivationResponse body => ActivationCode.table.Veiled body.code
  | diagnosticMessagePositiveAck body => DiagnosticAckCode.table.Veiled body.code
  | diagnosticMessageNegativeAck body => DiagnosticNackCode.table.Veiled body.code
  | _ => False

/-- The message is a diagnostic message without user data. -/
def lacksData : Message → Bool
  | diagnosticMessage body => body.userData.isEmpty
  | _ => false

/-- A message is its own canonical form unless it is veiled. The messages that are veiled are those
with a code that is reserved though its number stands for something. -/
theorem canonical_eq_self_iff (message : Message) :
    message.canonical = message ↔ ¬ message.Veiled := by
  cases message with
  | genericNack code =>
    rw [Veiled, ← GenericNackCode.table.canonical_eq_self_iff]
    simp [canonical]
  | routingActivationRequest body =>
    rw [Veiled, ← ActivationType.table.canonical_eq_self_iff]
    obtain ⟨source, activation, oem⟩ := body
    simp [canonical]
  | routingActivationResponse body =>
    rw [Veiled, ← ActivationCode.table.canonical_eq_self_iff]
    obtain ⟨tester, entity, code, oem⟩ := body
    simp [canonical]
  | diagnosticMessagePositiveAck body =>
    rw [Veiled, ← DiagnosticAckCode.table.canonical_eq_self_iff]
    obtain ⟨source, target, code, previous⟩ := body
    simp [canonical]
  | diagnosticMessageNegativeAck body =>
    rw [Veiled, ← DiagnosticNackCode.table.canonical_eq_self_iff]
    obtain ⟨source, target, code, previous⟩ := body
    simp [canonical]
  | _ => simp [canonical, Veiled]

/-- The payload of a message is read as the canonical form of the message. A diagnostic message
without user data is the one that is not read. -/
theorem readPayload_payload (message : Message) :
    message.payloadType.readPayload message.payload =
      if message.lacksData then none else some message.canonical := by
  cases message with
  | genericNack code =>
    exact congrArg (fun meant => some (genericNack meant))
      (GenericNackCode.table.ofByte_toByte_eq_canonical code)
  | vehicleIdentificationRequestWithEid eid =>
    exact congrArg (Option.map _) (Octets.ofList?_toList eid)
  | vehicleIdentificationRequestWithVin vin =>
    exact congrArg (Option.map _) (Octets.ofList?_toList vin)
  | vehicleAnnouncement body =>
    exact congrArg (Option.map _) (Announcement.read_eq_some_iff.mpr rfl)
  | routingActivationRequest body => exact congrArg (Option.map _) body.read_write
  | routingActivationResponse body => exact congrArg (Option.map _) body.read_write
  | aliveCheckResponse source =>
    have word : word16 source = word16 source ++ [] := (List.append_nil _).symm
    simp only [payloadType, PayloadType.readPayload, payload]
    rw [word, readWord16_word16]
    rfl
  | entityStatusResponse body =>
    exact congrArg (Option.map _) (EntityStatus.read_eq_some_iff.mpr rfl)
  | diagnosticMessage body =>
    have lacks : (diagnosticMessage body).lacksData = body.userData.isEmpty := rfl
    refine (congrArg (Option.map diagnosticMessage) body.read_write).trans ?_
    rw [lacks]
    split <;> rfl
  | diagnosticMessagePositiveAck body =>
    exact congrArg (Option.map _) (body.read_write DiagnosticAckCode.table)
  | diagnosticMessageNegativeAck body =>
    exact congrArg (Option.map _) (body.read_write DiagnosticNackCode.table)
  | _ => rfl

/-- A message that lacks user data consists of its two addresses. -/
theorem length_payload_of_lacksData (lacks : message.lacksData = true) :
    message.payloadType = .diagnosticMessage ∧ message.payload.length = 4 := by
  cases message with
  | diagnosticMessage body =>
    refine ⟨rfl, ?_⟩
    have empty : body.userData = [] := List.isEmpty_iff.mp lacks
    simp [payload, Diagnostic.write, empty]
  | _ => cases lacks

/-- Behind the header of a message comes its payload. -/
theorem drop_encode (message : Message) : message.encode.drop Header.size = message.payload :=
  List.drop_left' message.header.length_write

/-- Which message is found depends on the payload type and the payload. Versions and lengths have
been looked at with the header and do not matter any more. -/
theorem decode_eq_ok_iff {header : Header} :
    decode header payload = .ok message ↔
      ∃ kind : PayloadType, kind.code = header.payloadCode ∧
        kind.readPayload payload = some message := by
  unfold decode Header.kind
  constructor
  · intro decoded
    cases known : PayloadType.ofCode? header.payloadCode with
    | none => simp [known] at decoded
    | some kind =>
      refine ⟨kind, PayloadType.ofCode?_eq_some_iff.mp known, ?_⟩
      cases read : kind.readPayload payload with
      | none => simp [known, read] at decoded
      | some found =>
        simp only [known, read, Except.ok.injEq] at decoded
        rw [decoded]
  · rintro ⟨kind, known, read⟩
    simp [← known, read]

/-- What is written is read again: the header is that of the current version and announces the
payload, and the payload is that of the message with its code in canonical form, which is the
message itself unless it is veiled. The exception is a diagnostic message without user data. -/
theorem decode_encode (message : Message) (bounded : message.payload.length < UInt32.size) :
    ∃ header, Header.read message.encode = .ok header ∧ header.version = 2 ∧
      header.payloadCode = message.payloadType.code ∧
      header.payloadLength.toNat = (message.encode.drop Header.size).length ∧
      decode header (message.encode.drop Header.size) =
        (if message.lacksData then .error (.invalidPayloadLength 0x8001 4)
        else .ok message.canonical) ∧
      (message.canonical = message ↔ ¬ message.Veiled) := by
  refine ⟨message.header, ?_, rfl, rfl, ?_, ?_, message.canonical_eq_self_iff⟩
  · exact Header.read_write message.header rfl message.payload
  · rw [drop_encode]
    exact UInt32.toNat_ofNat_of_lt' bounded
  · have kind : message.header.kind = .ok message.payloadType := by
      simp [header, Header.ofPayload, Header.kind]
    simp only [drop_encode, decode, kind, readPayload_payload]
    cases lacks : message.lacksData with
    | false => rfl
    | true =>
      obtain ⟨type, length⟩ := length_payload_of_lacksData lacks
      simp [type, length, PayloadType.code]

/-- An answer whose code is reserved for the byte of success is read as success. The code that was
written and the one that is read have the same byte. -/
theorem decode_encode_veiled :
    let veiled := routingActivationResponse ⟨0x0E80, 0x1000, .reserved 0x10, none⟩
    veiled.payload.length < UInt32.size ∧ veiled.Veiled ∧
      ∃ header, Header.read veiled.encode = .ok header ∧ header.payloadLength.toNat = 9 ∧
        decode header (veiled.encode.drop Header.size) =
          .ok (activationResponse 0x0E80 0x1000 .success) := by
  intro veiled
  have bounded : veiled.payload.length < UInt32.size := by decide
  obtain ⟨header, read, -, -, length, decoded, named⟩ := decode_encode veiled bounded
  refine ⟨bounded, ?_, header, read, length, decoded⟩
  exact Classical.byContradiction fun unveiled => absurd (named.mpr unveiled) (by decide)

/-! ## From bytes to messages and back -/

/-- A message that was read has the type under which it was read and is in canonical form. It
does not lack user data, and its payload is what was read with the reserved field cleared. -/
theorem payload_of_readPayload (read : kind.readPayload payload = some message) :
    message.payloadType = kind ∧ message.payload = kind.cleared payload ∧
      message.canonical = message ∧ message.lacksData = false := by
  cases kind with
  | genericNack =>
    simp only [PayloadType.readPayload, Option.bind_eq_bind, Option.bind_eq_some_iff, Prod.exists,
      readByte_eq_some_iff, ended_eq_some_iff] at read
    obtain ⟨byte, _, rfl, rfl, rfl⟩ := read
    refine ⟨rfl, ?_, ?_, rfl⟩
    · exact congrArg (fun byte => [byte]) (GenericNackCode.table.toByte_ofByte byte)
    · exact congrArg genericNack (GenericNackCode.table.canonical_ofByte byte)
  | vehicleIdentificationRequest =>
    obtain ⟨rfl, rfl⟩ := ended_eq_some_iff.mp read
    exact ⟨rfl, rfl, rfl, rfl⟩
  | vehicleIdentificationRequestWithEid =>
    obtain ⟨eid, found, rfl⟩ := Option.map_eq_some_iff.mp read
    exact ⟨rfl, (Octets.ofList?_eq_some_iff.mp found).symm, rfl, rfl⟩
  | vehicleIdentificationRequestWithVin =>
    obtain ⟨vin, found, rfl⟩ := Option.map_eq_some_iff.mp read
    exact ⟨rfl, (Octets.ofList?_eq_some_iff.mp found).symm, rfl, rfl⟩
  | vehicleAnnouncement =>
    obtain ⟨body, found, rfl⟩ := Option.map_eq_some_iff.mp read
    exact ⟨rfl, (Announcement.read_eq_some_iff.mp found).symm, rfl, rfl⟩
  | routingActivationRequest =>
    obtain ⟨body, found, rfl⟩ := Option.map_eq_some_iff.mp read
    obtain ⟨named, written⟩ := body.write_of_read found
    exact ⟨rfl, written, by simp only [canonical, named], rfl⟩
  | routingActivationResponse =>
    obtain ⟨body, found, rfl⟩ := Option.map_eq_some_iff.mp read
    obtain ⟨named, written⟩ := body.write_of_read found
    exact ⟨rfl, written, by simp only [canonical, named], rfl⟩
  | aliveCheckRequest =>
    obtain ⟨rfl, rfl⟩ := ended_eq_some_iff.mp read
    exact ⟨rfl, rfl, rfl, rfl⟩
  | aliveCheckResponse =>
    simp only [PayloadType.readPayload, Option.bind_eq_bind, Option.bind_eq_some_iff, Prod.exists,
      readWord16_eq_some_iff, ended_eq_some_iff] at read
    obtain ⟨source, _, rfl, rfl, rfl⟩ := read
    exact ⟨rfl, (List.append_nil _).symm, rfl, rfl⟩
  | entityStatusRequest =>
    obtain ⟨rfl, rfl⟩ := ended_eq_some_iff.mp read
    exact ⟨rfl, rfl, rfl, rfl⟩
  | entityStatusResponse =>
    obtain ⟨body, found, rfl⟩ := Option.map_eq_some_iff.mp read
    exact ⟨rfl, (EntityStatus.read_eq_some_iff.mp found).symm, rfl, rfl⟩
  | powerModeRequest =>
    obtain ⟨rfl, rfl⟩ := ended_eq_some_iff.mp read
    exact ⟨rfl, rfl, rfl, rfl⟩
  | powerModeResponse =>
    simp only [PayloadType.readPayload, Option.bind_eq_bind, Option.bind_eq_some_iff, Prod.exists,
      readByte_eq_some_iff, ended_eq_some_iff] at read
    obtain ⟨mode, _, rfl, rfl, rfl⟩ := read
    exact ⟨rfl, rfl, rfl, rfl⟩
  | diagnosticMessage =>
    obtain ⟨body, found, rfl⟩ := Option.map_eq_some_iff.mp read
    obtain ⟨carries, layout⟩ := Diagnostic.read_eq_some_iff.mp found
    exact ⟨rfl, layout.symm, rfl, by simpa [lacksData] using carries⟩
  | diagnosticMessagePositiveAck =>
    obtain ⟨body, found, rfl⟩ := Option.map_eq_some_iff.mp read
    obtain ⟨named, written⟩ := body.write_of_read DiagnosticAckCode.table found
    exact ⟨rfl, written, by simp only [canonical, named], rfl⟩
  | diagnosticMessageNegativeAck =>
    obtain ⟨body, found, rfl⟩ := Option.map_eq_some_iff.mp read
    obtain ⟨named, written⟩ := body.write_of_read DiagnosticNackCode.table found
    exact ⟨rfl, written, by simp only [canonical, named], rfl⟩

/-- What is read is written again: the message has the type that was announced and its payload is
the one that was read with the reserved field cleared. That payload is read as the same message,
and a payload of the type that differs anywhere else is read as another one. -/
theorem encode_of_decode {header : Header} (decoded : decode header payload = .ok message) :
    message.payloadType.code = header.payloadCode ∧
      message.encode.drop Header.size = message.payloadType.cleared payload ∧
      ∀ again : Header, again.payloadCode = header.payloadCode →
        decode again (message.encode.drop Header.size) = .ok message ∧
        ∀ other otherMessage position, decode again other = .ok otherMessage →
          ¬ message.payloadType.Reserves position → other[position]? ≠ payload[position]? →
            otherMessage ≠ message := by
  obtain ⟨kind, known, read⟩ := decode_eq_ok_iff.mp decoded
  obtain ⟨rfl, written, named, carries⟩ := payload_of_readPayload read
  rw [drop_encode]
  refine ⟨known, written, ?_⟩
  intro again same
  constructor
  · refine decode_eq_ok_iff.mpr ⟨message.payloadType, known.trans same.symm, ?_⟩
    rw [readPayload_payload, carries, named]
    rfl
  · rintro other _ position alsoDecoded outside differs rfl
    obtain ⟨otherKind, -, alsoRead⟩ := decode_eq_ok_iff.mp alsoDecoded
    obtain ⟨rfl, alsoWritten, -⟩ := payload_of_readPayload alsoRead
    have agree := congrArg (fun bytes => bytes[position]?) (written.symm.trans alsoWritten)
    simp only [PayloadType.getElem?_cleared outside] at agree
    exact differs agree.symm

/-- A request with a word in its reserved field is written without that word, and is read apart
from a request that differs in its last byte. -/
theorem encode_of_decode_request :
    let header : Header := ⟨3, 0x0005, 11⟩
    let payload : Bytes := [0x0E, 0x80, 0xE0, 1, 2, 3, 4, 5, 6, 7, 8]
    let other : Bytes := [0x0E, 0x80, 0xE0, 1, 2, 3, 4, 5, 6, 7, 9]
    let message := routingActivationRequest
      ⟨0x0E80, .centralSecurity, some ⟨[5, 6, 7, 8], rfl⟩⟩
    decode header payload = .ok message ∧
      message.encode.drop Header.size = [0x0E, 0x80, 0xE0, 0, 0, 0, 0, 5, 6, 7, 8] ∧
      decode header (message.encode.drop Header.size) = .ok message ∧
      (decode header other).toOption.isSome = true ∧ decode header other ≠ .ok message := by
  intro header payload other message
  have decoded : decode header payload = .ok message := rfl
  obtain ⟨-, written, again⟩ := encode_of_decode decoded
  obtain ⟨same, apart⟩ := again header rfl
  refine ⟨decoded, written, same, rfl, fun alsoDecoded => ?_⟩
  have outside : ¬ message.payloadType.Reserves 10 := by
    rintro ⟨start, begins, -, inside⟩
    cases begins
    exact absurd inside (by decide)
  exact apart other message 10 alsoDecoded outside (by decide) rfl

end Message

end DiagnosticGateway.Wire
