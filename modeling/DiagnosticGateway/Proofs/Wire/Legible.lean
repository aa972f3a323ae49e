import DiagnosticGateway.Proofs.Wire.RoundTrip
import DiagnosticGateway.Wire.Frame

/-!
# Legible messages

Not every message that can be built can be read again after it was written. The length of its
payload may not fit in the header, its code may have another meaning, or it may lack user data. A
message without these three faults is legible, and so is everything that is made up of legible
messages: a stream of bytes says which messages were written to it, one after the other.
-/

namespace DiagnosticGateway.Wire

/-- A message that is read as what it is. -/
structure Message.Legible (message : Message) : Prop where
  /-- The header has room for the length of the payload. -/
  bounded : message.payload.length < UInt32.size
  /-- The code is the one that its byte means. -/
  unveiled : ¬ message.Veiled
  carries : message.lacksData = false

/-- The bytes spell some messages, one after the other. The header of each is accepted, the length
that it announces is that of the payload, and what it announces is the message. -/
inductive Spells : Bytes → List Message → Prop
  | nothing : Spells [] []
  | next {lead payload rest : Bytes} {header : Header} {message : Message} {messages : List Message}
      (whole : lead.length = Header.size)
      (accepted : Header.read (lead ++ (payload ++ rest)) = .ok header)
      (exact : header.payloadLength.toNat = payload.length)
      (decoded : Message.decode header payload = .ok message) (later : Spells rest messages) :
      Spells (lead ++ (payload ++ rest)) (message :: messages)

namespace Message.Legible

variable {message : Message}

/-- A legible message is decoded as itself. -/
theorem decode (legible : message.Legible) :
    Message.decode message.header message.payload = .ok message := by
  refine decode_eq_ok_iff.mpr ⟨message.payloadType, rfl, ?_⟩
  rw [readPayload_payload, legible.carries, message.canonical_eq_self_iff.mpr legible.unveiled]
  rfl

/-- The header of a legible message announces its payload. -/
theorem announced (legible : message.Legible) :
    message.header.payloadLength.toNat = message.payload.length :=
  UInt32.toNat_ofNat_of_lt' legible.bounded

/-- A legible message that is sent as a datagram arrives. -/
theorem ofDatagram (legible : message.Legible) :
    Message.ofDatagram message.encode = .ok message := by
  have accepted : Header.read message.encode = .ok message.header :=
    Header.read_write message.header rfl message.payload
  have known : message.header.kind = .ok message.payloadType := by
    simp [header, Header.ofPayload, Header.kind]
  simp [Message.ofDatagram, accepted, known, drop_encode, legible.announced, legible.decode]

/-- The bytes of a legible message spell it, in front of whatever is spelt behind. -/
theorem spells (legible : message.Legible) {rest : Bytes} {messages : List Message}
    (later : Spells rest messages) : Spells (message.encode ++ rest) (message :: messages) := by
  rw [encode, List.append_assoc]
  exact .next message.header.length_write (Header.read_write message.header rfl _)
    legible.announced legible.decode later

end Message.Legible

/-! ## Legible messages -/

/-- The data that a diagnostic message can carry: there is some, and the header has room for it and
for the two addresses before it. -/
structure Carriable (data : Bytes) : Prop where
  something : data ≠ []
  bounded : data.length < UInt32.size - 4

namespace Message

variable {source target : UInt16} {data : Bytes}

/-- A diagnostic message is legible if its data can be carried in a frame. -/
theorem legible_diagnostic (carriable : Carriable data) :
    (diagnostic source target data).Legible where
  bounded := by
    have room := carriable.bounded
    simp only [diagnostic, payload, Diagnostic.write, List.length_append, length_word16,
      UInt32.size] at room ⊢
    omega
  unveiled := id
  carries := List.isEmpty_eq_false_iff.mpr carriable.something

/-- A request for a sign of life is legible. -/
theorem legible_aliveCheckRequest : aliveCheckRequest.Legible where
  bounded := by decide
  unveiled := id
  carries := rfl

/-- A positive acknowledge is legible. -/
theorem legible_diagnosticAck : (diagnosticAck source target).Legible where
  bounded := by simp [diagnosticAck, payload, Acknowledge.write, UInt32.size]
  unveiled := by
    rintro ⟨byte, reserved, -⟩
    cases reserved
  carries := rfl

/-- A message with a code is legible if the code has a name. -/
theorem legible_diagnosticNack {code : DiagnosticNackCode} (named : ∀ byte, code ≠ .reserved byte) :
    (diagnosticNack source target code).Legible where
  bounded := by simp [diagnosticNack, payload, Acknowledge.write, UInt32.size]
  unveiled := fun ⟨byte, reserved, _⟩ => named byte reserved
  carries := rfl

/-- An activation response is legible under each code that has a name. -/
theorem legible_activationResponse {code : ActivationCode} (named : ∀ byte, code ≠ .reserved byte) :
    (activationResponse source target code).Legible where
  bounded := by
    simp [activationResponse, payload, ActivationResponse.write, reservedField, trailing,
      UInt32.size]
  unveiled := fun ⟨byte, reserved, _⟩ => named byte reserved
  carries := rfl

/-- A negative acknowledge of a header is legible under each code that has a name. -/
theorem legible_genericNack {code : GenericNackCode} (named : ∀ byte, code ≠ .reserved byte) :
    (genericNack code).Legible where
  bounded := by simp [payload, UInt32.size]
  unveiled := fun ⟨byte, reserved, _⟩ => named byte reserved
  carries := rfl

end Message

/-- Legible messages that are written one after the other are read one after the other. -/
theorem spells_flatMap {messages : List Message} (legible : ∀ message ∈ messages, message.Legible) :
    Spells (messages.flatMap Message.encode) messages := by
  induction messages with
  | nil => exact .nothing
  | cons message rest inductionHypothesis =>
    exact (legible message List.mem_cons_self).spells
      (inductionHypothesis fun other member => legible other (List.mem_cons_of_mem _ member))

/-! ## Where messages end -/

/-- A stream that begins with a legible message begins with no other one. The header tells where the
first message ends, and what lies up to there is read as one message only. -/
theorem Message.Legible.eq_of_append {first second : Message} (legible : first.Legible)
    (other : second.Legible) {rest later : Bytes}
    (same : first.encode ++ rest = second.encode ++ later) : first = second ∧ rest = later := by
  have header : first.header = second.header := by
    have accepted : ∀ (message : Message) (rest : Bytes),
        Header.read (message.encode ++ rest) = .ok message.header := by
      intro message rest
      rw [encode, List.append_assoc]
      exact Header.read_write message.header rfl _
    have read := accepted first rest
    rw [same, accepted second later] at read
    exact (Except.ok.inj read).symm
  have length : first.encode.length = second.encode.length := by
    rw [encode, encode, List.length_append, List.length_append, ← legible.announced,
      ← other.announced, header]
  obtain ⟨encoded, behind⟩ := List.append_inj same length
  have payload : first.payload = second.payload := by
    rw [encode, encode, header] at encoded
    exact List.append_cancel_left encoded
  have decoded := legible.decode
  rw [header, payload, other.decode] at decoded
  exact ⟨(Except.ok.inj decoded).symm, behind⟩

/-- If a stream of legible messages begins like another one, its messages are the first ones of the
other. -/
theorem prefix_of_flatMap {messages others : List Message}
    (legible : ∀ message ∈ messages, message.Legible) (also : ∀ message ∈ others, message.Legible)
    (begins : messages.flatMap Message.encode <+: others.flatMap Message.encode) :
    messages <+: others := by
  induction messages generalizing others with
  | nil => exact List.nil_prefix
  | cons message rest inductionHypothesis =>
    obtain ⟨behind, same⟩ := begins
    rw [List.flatMap_cons, List.append_assoc] at same
    cases others with
    | nil =>
      have length := congrArg List.length same
      simp [Message.encode, Header.length_write, Header.size] at length
    | cons other more =>
      rw [List.flatMap_cons] at same
      obtain ⟨rfl, further⟩ :=
        (legible message List.mem_cons_self).eq_of_append (also other List.mem_cons_self) same
      refine List.cons_prefix_cons.mpr ⟨rfl, ?_⟩
      exact inductionHypothesis (fun next member => legible next (List.mem_cons_of_mem _ member))
        (fun next member => also next (List.mem_cons_of_mem _ member)) ⟨behind, further⟩

end DiagnosticGateway.Wire
