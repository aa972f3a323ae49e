import DiagnosticGateway.Proofs.Wire.Stream

/-!
# Segments of a stream

A stream is made of segments: a header that is accepted and exactly the bytes that it announces,
whatever they are. The first segment of a stream is taken from it as a whole, also when it is
refused, and it is judged by its own bytes alone. What comes behind the last segment is too short
to be one.
-/

namespace DiagnosticGateway.Wire

/-- A header that is accepted, with the bytes that it announces. -/
structure Segment where
  /-- The bytes of the header. -/
  lead : Bytes
  header : Header
  payload : Bytes
  length_lead : lead.length = Header.size
  accepted : Header.read lead = .ok header
  length_payload : payload.length = header.payloadLength.toNat

/-- Bytes that end before a segment does. -/
def Incomplete (tail : Bytes) : Prop :=
  tail.length < Header.size ∨
    ∃ header, Header.read tail = .ok header ∧
      tail.length < Header.size + header.payloadLength.toNat

namespace Segment

/-- The bytes of a segment. -/
def bytes (segment : Segment) : Bytes :=
  segment.lead ++ segment.payload

/-- What a segment comes to: a type that is not understood is refused first, then a payload beyond
the limit, and otherwise the payload is read as its type demands. -/
def verdict (limit : UInt32) (segment : Segment) : Except Fault Message :=
  match PayloadType.ofCode? segment.header.payloadCode with
  | none => .error (.unknownPayloadType segment.header.payloadCode)
  | some _ =>
    if limit < segment.header.payloadLength then
      .error (.messageTooLarge segment.header.payloadLength limit)
    else Message.decode segment.header segment.payload

end Segment

variable {limit : UInt32} {tail more : Bytes}

/-- A frame is judged as its segment says. The kind is judged first, then the length against the
limit, then the payload. -/
theorem Frame.judge_eq_verdict (segment : Segment) :
    Frame.judge limit segment.header segment.payload = segment.verdict limit := by
  unfold Frame.judge Header.kind Segment.verdict Header.checkLength
  cases PayloadType.ofCode? segment.header.payloadCode with
  | none => rfl
  | some kind =>
    by_cases fits : segment.header.payloadLength ≤ limit
    · have within : ¬ limit < segment.header.payloadLength := UInt32.not_lt.mpr fits
      simp [fits, within]
    · have beyond : limit < segment.header.payloadLength := UInt32.not_le.mp fits
      simp [fits, beyond]

/-- The first segment of a stream is taken as a whole, and nothing behind it is touched.
Whether it is accepted or refused, the reader has come to the end of its payload, or of its
header if that was refused. -/
theorem Frame.read?_segment (segment : Segment) (more : Bytes) :
    Frame.read? limit (segment.bytes ++ more) = some ⟨segment.verdict limit, more⟩ := by
  have leads : (segment.bytes ++ more).drop Header.size = segment.payload ++ more := by
    rw [Segment.bytes, List.append_assoc]
    exact List.drop_left' segment.length_lead
  have whole : ¬ (segment.bytes ++ more).length < Header.size := by
    simp [Segment.bytes, segment.length_lead]
  have accepted : Header.read (segment.bytes ++ more) = .ok segment.header := by
    rw [Segment.bytes, List.append_assoc,
      Header.read_append (Nat.le_of_eq segment.length_lead.symm), segment.accepted]
  have there : ¬ (segment.payload ++ more).length < segment.header.payloadLength.toNat := by
    simp [segment.length_payload]
  simp only [Frame.read?, if_neg whole, accepted, leads, if_neg there,
    List.take_left' segment.length_payload, List.drop_left' segment.length_payload,
    Frame.judge_eq_verdict]

/-- Nothing is taken from what is too short to be a segment. Either the header is not there as a
whole, or the payload that it announces. -/
theorem Frame.read?_incomplete (incomplete : Incomplete tail) : Frame.read? limit tail = none := by
  unfold Frame.read?
  rcases incomplete with short | ⟨header, accepted, short⟩
  · exact if_pos short
  · by_cases leadless : tail.length < Header.size
    · exact if_pos leadless
    · have missing : (tail.drop Header.size).length < header.payloadLength.toNat := by
        rw [List.length_drop]
        omega
      rw [if_neg leadless]
      simp only [accepted, if_pos missing]

end DiagnosticGateway.Wire
