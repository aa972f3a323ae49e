import DiagnosticGateway.Proofs.Gateway.Reception
import DiagnosticGateway.Proofs.Wire.Admission

/-!
# Streams and datagrams agree

The same bytes may come as a datagram or at the front of a stream. The two are read by different
checks in a different order: only a stream has a limit, and only a datagram can be shorter or longer
than its header announces. Where both can hold a message they hold the same one, and they refuse the
same bytes for the same fault. A payload that is cut short is refused in a datagram, and on a stream
it is waited for, so there it comes to the end of the stream.

The first answer that a stream gives is settled by all its bytes at once. It does not depend on how
they are cut when they arrive or on when the frame is asked for.
-/

namespace DiagnosticGateway

open Wire

variable {limit : UInt32} {bytes : Bytes} {header : Header} {fault : Fault}

/-! ## One string of bytes, read twice -/

/-- A header is read only where there are enough bytes for one. -/
theorem Wire.Header.size_le_of_read (accepted : Header.read bytes = .ok header) :
    Header.size ≤ bytes.length := by
  refine Nat.le_of_not_lt fun few => ?_
  obtain ⟨fault, refused, -⟩ := (Malformed.short few).refused
  cases refused.symm.trans accepted

/-- A datagram as long as its header announces, within the limit, is a frame with nothing behind it,
and what it holds is the same. -/
theorem Wire.Frame.read?_whole (accepted : Header.read bytes = .ok header)
    (whole : bytes.length = Header.size + header.payloadLength.toNat)
    (within : header.payloadLength ≤ limit) :
    Frame.read? limit bytes = some ⟨Message.ofDatagram bytes, []⟩ := by
  have leads : ¬ bytes.length < Header.size := by omega
  have behind : (bytes.drop Header.size).length = header.payloadLength.toNat := by
    rw [List.length_drop]
    omega
  have all : (bytes.drop Header.size).take header.payloadLength.toNat = bytes.drop Header.size :=
    List.take_of_length_le (Nat.le_of_eq behind)
  have nothing : (bytes.drop Header.size).drop header.payloadLength.toNat = [] :=
    List.drop_of_length_le (Nat.le_of_eq behind)
  have judged : Frame.judge limit header (bytes.drop Header.size) = Message.ofDatagram bytes := by
    simp only [Frame.judge, Message.ofDatagram, accepted, Header.checkLength, if_pos within,
      if_pos behind]
  simp only [Frame.read?, if_neg leads, accepted, behind, Nat.lt_irrefl, if_false, all, nothing,
    judged]

/-- A datagram of a known type that is shorter than its header announces is refused with the number
of its payload bytes. -/
theorem Wire.Message.ofDatagram_short {kind : PayloadType}
    (accepted : Header.read bytes = .ok header) (known : kind.code = header.payloadCode)
    (short : bytes.length < Header.size + header.payloadLength.toNat) :
    Message.ofDatagram bytes =
      .error (.invalidPayloadLength header.payloadCode (bytes.length - Header.size)) := by
  have leads := Header.size_le_of_read accepted
  have found := PayloadType.ofCode?_eq_some_iff.mpr known
  have fewer : ¬ bytes.length - Header.size = header.payloadLength.toNat := by omega
  simp [Message.ofDatagram, accepted, Header.kind, found, List.length_drop, fewer]

/-- Enough bytes that do not begin with a header are refused on a stream for the fault of the
header. -/
theorem Wire.Frame.read?_refused (refused : Header.read bytes = .error fault)
    (leads : Header.size ≤ bytes.length) :
    Frame.read? limit bytes = some ⟨.error fault, bytes.drop Header.size⟩ := by
  simp [Frame.read?, Nat.not_lt.mpr leads, refused]

/-- A datagram whose header is refused is refused for the same fault. -/
theorem Wire.Message.ofDatagram_refused (refused : Header.read bytes = .error fault) :
    Message.ofDatagram bytes = .error fault := by
  simp [Message.ofDatagram, refused]

/-! ## The first answer of a stream -/

/-- The first frame that was taken from some bytes was in front of them. -/
theorem Wire.Takes.first {content : Except Fault Message} {contents : List (Except Fault Message)}
    {left : Bytes} (takes : Takes limit bytes (content :: contents) left) :
    (Frame.read? limit bytes).map Frame.content = some content ∧
      ∀ frame, Frame.read? limit bytes = some frame → Takes limit frame.rest contents left := by
  cases takes with
  | next front rest =>
    refine ⟨by rw [front]; rfl, fun frame same => ?_⟩
    cases front.symm.trans same
    exact rest

namespace Reception

variable {arrived : Bytes} {reception : Reception}

/-- The answers hold the first frames of the bytes that have arrived, and the rest of the bytes are
unread. -/
def Drawn (limit : UInt32) (arrived : Bytes) (reception : Reception) : Prop :=
  ∃ contents, reception.answers = contents.map some ∧
    Takes limit arrived contents reception.socket.incoming

/-- While the stream goes on, whatever happens leaves its first frames answered and the rest of its
bytes unread. -/
theorem Drawn.meet (drawn : Drawn limit arrived reception)
    (flowing : reception.socket.ending = none) (happening : Happening) :
    Drawn limit (arrived ++ arriving [happening]) (reception.meet limit happening) ∧
      (reception.meet limit happening).socket.ending = none := by
  obtain ⟨contents, answers, takes⟩ := drawn
  cases happening with
  | chunk bytes =>
    have alone : arriving [.chunk bytes] = bytes := List.append_nil bytes
    rw [alone]
    exact ⟨⟨contents, answers, takes.arrive bytes⟩, flowing⟩
  | read =>
    have none : arrived ++ arriving [.read] = arrived := List.append_nil arrived
    rw [none]
    cases front : Frame.read? limit reception.socket.incoming with
    | none =>
      have waits : reception.meet limit .read = reception := by
        simp [Reception.meet, Reception.read, Socket.inbound?, front, flowing]
      rw [waits]
      exact ⟨⟨contents, answers, takes⟩, flowing⟩
    | some frame =>
      have reads : reception.meet limit .read =
          ⟨{ reception.socket with incoming := frame.rest },
            reception.answers ++ [some frame.content]⟩ := by
        simp [Reception.meet, Reception.read, Socket.inbound?, front]
      rw [reads]
      refine ⟨⟨contents ++ [frame.content], ?_, takes.concat front⟩, flowing⟩
      rw [answers, List.map_append]
      rfl

/-- While no end of the stream comes, what a reader has drawn is drawn from the bytes that have
arrived. -/
theorem Drawn.follow (drawn : Drawn limit arrived reception)
    (flowing : reception.socket.ending = none) (course : List Happening) :
    Drawn limit (arrived ++ arriving course) (reception.follow limit course) ∧
      (reception.follow limit course).socket.ending = none := by
  induction course generalizing reception arrived with
  | nil =>
    have none : arrived ++ arriving [] = arrived := List.append_nil arrived
    rw [none]
    exact ⟨drawn, flowing⟩
  | cons happening rest inductionHypothesis =>
    obtain ⟨next, flows⟩ := drawn.meet flowing happening
    have later := inductionHypothesis next flows
    have split : arriving (happening :: rest) = arriving [happening] ++ arriving rest := by
      simp [arriving]
    rw [split, ← List.append_assoc]
    exact later

/-- After the end of the stream the next read is answered. The first answer is the first frame
of all the bytes, or the end of the stream if they hold none, and what is unread was behind
that frame. -/
theorem Drawn.finish (drawn : Drawn limit arrived reception)
    (flowing : reception.socket.ending = none) :
    (reception.finish.read limit).answers.head? =
        some ((Frame.read? limit arrived).map Frame.content) ∧
      ∀ frame, Frame.read? limit arrived = some frame →
        ∃ contents, Takes limit frame.rest contents
          (reception.finish.read limit).socket.incoming := by
  obtain ⟨contents, answers, takes⟩ := drawn
  have ends : reception.finish =
      ⟨{ reception.socket with ending := some .closed }, contents.map some⟩ := by
    rw [← answers]
    simp only [Reception.finish, Socket.finish]
    rw [flowing]
  rw [ends]
  cases front : Frame.read? limit reception.socket.incoming with
  | none =>
    have reads : (Reception.mk { reception.socket with ending := some .closed }
        (contents.map some)).read limit =
        ⟨{ reception.socket with ending := some .closed }, contents.map some ++ [none]⟩ := by
      simp [Reception.read, Socket.inbound?, front]
    rw [reads]
    cases contents with
    | nil =>
      cases takes
      simp [front]
    | cons content more =>
      obtain ⟨first, rest⟩ := takes.first
      exact ⟨by rw [first]; rfl, fun frame whole => ⟨more, rest frame whole⟩⟩
  | some frame =>
    have reads : (Reception.mk { reception.socket with ending := some .closed }
        (contents.map some)).read limit =
        ⟨{ reception.socket with ending := some .closed, incoming := frame.rest },
          (contents ++ [frame.content]).map some⟩ := by
      simp [Reception.read, Socket.inbound?, front]
    rw [reads]
    have taken := takes.concat front
    obtain ⟨content, more, same⟩ :=
      List.exists_cons_of_ne_nil (List.concat_ne_nil frame.content contents)
    rw [same] at taken ⊢
    obtain ⟨first, rest⟩ := taken.first
    exact ⟨by rw [first]; rfl, fun frame whole => ⟨more, rest frame whole⟩⟩

/-- Once a read of a stream that has arrived as a whole is answered, what is unread was behind its
first frame. -/
theorem Drawn.unread (drawn : Drawn limit arrived reception) (answered : reception.answers ≠ [])
    {frame : Frame} (front : Frame.read? limit arrived = some frame) :
    ∃ contents, Takes limit frame.rest contents reception.socket.incoming := by
  obtain ⟨contents, answers, takes⟩ := drawn
  cases contents with
  | nil => exact absurd answers answered
  | cons content more => exact ⟨more, takes.first.2 frame front⟩

/-- A stream of bytes and a datagram of the same bytes are read alike, however the bytes are cut
when they arrive and whenever their first frame is asked for. If they are a header and exactly what
it announces, within the limit, then the first answer of the stream is what the datagram holds,
message or fault, and nothing is unread from then on. If the type is known and there are fewer bytes
than announced, still within the limit, the stream is answered with its end, and the datagram is
refused with the number of payload bytes it has. And if eight bytes or more do not begin with a
header, both are refused for the same fault. -/
theorem stream_agrees_with_datagram (limit : UInt32) (peer : Net.Endpoint)
    (refusal : Option Net.SystemFault) (course : List Happening) :
    let bytes := arriving course
    let arrived := (Reception.mk (.new peer refusal) []).follow limit course
    let ended := arrived.finish.read limit
    (∀ header, Header.read bytes = .ok header →
      bytes.length = 8 + header.payloadLength.toNat → header.payloadLength ≤ limit →
        ended.answers.head? = some (some (Message.ofDatagram bytes)) ∧
          ended.socket.incoming = [] ∧
          (arrived.answers ≠ [] → arrived.socket.incoming = [])) ∧
    (∀ header, Header.read bytes = .ok header →
      bytes.length < 8 + header.payloadLength.toNat → header.payloadLength ≤ limit →
      ∀ kind : PayloadType, kind.code = header.payloadCode →
        ended.answers.head? = some none ∧
          Message.ofDatagram bytes =
            .error (.invalidPayloadLength header.payloadCode (bytes.length - 8))) ∧
    (∀ fault, Header.read bytes = .error fault → 8 ≤ bytes.length →
      ended.answers.head? = some (some (.error fault)) ∧
        Message.ofDatagram bytes = .error fault) := by
  intro bytes arrived ended
  have begins : Drawn limit [] ⟨.new peer refusal, []⟩ := ⟨[], rfl, .nothing⟩
  obtain ⟨drawn, flows⟩ := begins.follow rfl course
  obtain ⟨first, unread⟩ := drawn.finish flows
  refine ⟨?_, ?_, ?_⟩
  · intro header accepted whole within
    have front : Frame.read? limit bytes = some ⟨Message.ofDatagram bytes, []⟩ :=
      Frame.read?_whole accepted whole within
    have nothing : ∀ {contents left}, Takes limit [] contents left → left = [] := by
      intro contents left takes
      cases takes with
      | nothing => rfl
      | next front rest => cases front
    refine ⟨first.trans ?_, ?_, fun answered => ?_⟩
    · exact congrArg (some ∘ Option.map Frame.content) front
    · obtain ⟨contents, takes⟩ := unread _ front
      exact nothing takes
    · obtain ⟨contents, takes⟩ := drawn.unread answered front
      exact nothing takes
  · intro header accepted short within kind known
    have cut : Frame.read? limit bytes = none :=
      Frame.read?_incomplete (Or.inr ⟨header, accepted, short⟩)
    refine ⟨first.trans ?_, Message.ofDatagram_short accepted known short⟩
    exact congrArg (some ∘ Option.map Frame.content) cut
  · intro fault refused leads
    refine ⟨first.trans ?_, Message.ofDatagram_refused refused⟩
    exact congrArg (some ∘ Option.map Frame.content) (Frame.read?_refused refused leads)

end Reception

end DiagnosticGateway
