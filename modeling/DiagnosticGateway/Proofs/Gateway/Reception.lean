import DiagnosticGateway.Proofs.Gateway.Intake
import DiagnosticGateway.Proofs.Wire.Segment

/-!
# Receiving a stream

Bytes arrive at a socket in chunks, and its reader asks for the next frame whenever it likes. A
read that finds neither a whole frame nor the end of the stream waits. However the bytes are cut
and whenever the reads fall, the answers are those of the segments of the stream, one for each and
in their order, and nothing after them but the end.
-/

namespace DiagnosticGateway

open Wire

/-- A socket and the answers that the reads of its stream have got: what a frame holds, or nothing
at the end of the stream. -/
structure Reception where
  socket : Socket
  answers : List (Option (Except Fault Message))

namespace Reception

/-- Something that happens to a socket that is read. -/
inductive Happening where
  /-- A chunk of bytes arrives. -/
  | chunk (bytes : Bytes)
  /-- The next frame is asked for. -/
  | read

/-- One read. A frame is taken from what has arrived, and the end of a stream stays where it is. -/
def read (limit : UInt32) (reception : Reception) : Reception :=
  match reception.socket.inbound? limit with
  | none => reception
  | some (.frame frame) =>
    ⟨{ reception.socket with incoming := frame.rest }, reception.answers ++ [some frame.content]⟩
  | some (.ended _) => { reception with answers := reception.answers ++ [none] }

/-- The reception after something has happened. -/
def meet (limit : UInt32) (happening : Happening) (reception : Reception) : Reception :=
  match happening with
  | .chunk bytes => { reception with socket := reception.socket.deliver bytes }
  | .read => reception.read limit

/-- The reception after a course of happenings. -/
def follow (limit : UInt32) (course : List Happening) (reception : Reception) : Reception :=
  course.foldl (fun current happening => current.meet limit happening) reception

/-- The stream ends. -/
def finish (reception : Reception) : Reception :=
  { reception with socket := reception.socket.finish .closed }

/-- The bytes that arrive in a course. -/
def arriving (course : List Happening) : Bytes :=
  course.flatMap fun happening =>
    match happening with
    | .chunk bytes => bytes
    | .read => []

/-- The answers that a number of reads get from a stream. -/
def answersOf (limit : UInt32) (segments : List Segment) (reads : Nat) :
    List (Option (Except Fault Message)) :=
  (segments.take reads).map (fun segment => some (segment.verdict limit)) ++
    List.replicate (reads - segments.length) none

/-- What is left of a stream after a number of reads. -/
def leftOf (segments : List Segment) (tail : Bytes) (reads : Nat) : Bytes :=
  (segments.drop reads).flatMap Segment.bytes ++ tail

variable {limit : UInt32} {segments : List Segment} {tail future : Bytes} {reception : Reception}
  {taken : Nat}

/-- Some answers were given, and the rest of the stream has arrived or still will. -/
structure Stands (limit : UInt32) (segments : List Segment) (tail future : Bytes) (taken : Nat)
    (reception : Reception) : Prop where
  answers : reception.answers = answersOf limit segments taken
  left : reception.socket.incoming ++ future = leftOf segments tail taken

/-- What is left begins with the next segment. -/
theorem leftOf_of_lt (more : taken < segments.length) :
    leftOf segments tail taken = segments[taken].bytes ++ leftOf segments tail (taken + 1) := by
  rw [leftOf, List.drop_eq_getElem_cons more, List.flatMap_cons, List.append_assoc]
  rfl

/-- After all segments the tail is left. -/
theorem leftOf_of_le (past : segments.length ≤ taken) : leftOf segments tail taken = tail := by
  rw [leftOf, List.drop_of_length_le past]
  rfl

/-- The next answer is the verdict on the next segment. -/
theorem answersOf_of_lt (more : taken < segments.length) :
    answersOf limit segments (taken + 1) =
      answersOf limit segments taken ++ [some (segments[taken].verdict limit)] := by
  have before : taken - segments.length = 0 := by omega
  have after : taken + 1 - segments.length = 0 := by omega
  rw [answersOf, answersOf, before, after, List.take_succ_eq_append_getElem more]
  simp only [List.map_append, List.map_cons, List.map_nil, List.replicate_zero, List.append_nil]

/-- After all segments every further answer is that there is none. -/
theorem answersOf_of_le (past : segments.length ≤ taken) :
    answersOf limit segments (taken + 1) = answersOf limit segments taken ++ [none] := by
  have next : taken + 1 - segments.length = taken - segments.length + 1 := by omega
  rw [answersOf, answersOf, next, List.take_of_length_le past,
    List.take_of_length_le (Nat.le_succ_of_le past), List.replicate_succ', List.append_assoc]

/-- What a read takes is the next segment of the stream, though not all of the stream is
there. A frame that is there is not changed by what arrives later, so it is read from the
whole stream as well. -/
theorem Stands.front (incomplete : Incomplete tail)
    (stands : Stands limit segments tail future taken reception) {frame : Frame}
    (front : Frame.read? limit reception.socket.incoming = some frame) :
    ∃ more : taken < segments.length, frame.content = segments[taken].verdict limit ∧
      frame.rest ++ future = leftOf segments tail (taken + 1) := by
  have whole := Frame.read?_append front future
  rw [stands.left] at whole
  rcases Nat.lt_or_ge taken segments.length with more | past
  · rw [leftOf_of_lt more, Frame.read?_segment] at whole
    obtain ⟨content, rest⟩ := Frame.mk.inj (Option.some.inj whole)
    exact ⟨more, content.symm, rest.symm⟩
  · rw [leftOf_of_le past, Frame.read?_incomplete incomplete] at whole
    cases whole

/-- Taking the frame in front answers with the next segment. The bytes of that segment are gone from
the stream, and those of the others are left. -/
theorem Stands.take (incomplete : Incomplete tail)
    (stands : Stands limit segments tail future taken reception) {frame : Frame}
    (front : Frame.read? limit reception.socket.incoming = some frame) :
    reception.read limit =
        ⟨{ reception.socket with incoming := frame.rest },
          reception.answers ++ [some frame.content]⟩ ∧
      taken < segments.length ∧
      Stands limit segments tail future (taken + 1) (reception.read limit) := by
  obtain ⟨more, content, rest⟩ := stands.front incomplete front
  have reads : reception.read limit =
      ⟨{ reception.socket with incoming := frame.rest },
        reception.answers ++ [some frame.content]⟩ := by
    simp [Reception.read, Socket.inbound?, front]
  refine ⟨reads, more, ?_⟩
  rw [reads]
  exact ⟨by rw [answersOf_of_lt more, stands.answers, content], rest⟩

/-- While the stream has not ended, a read takes the next segment or waits. What waits is less
than a frame. -/
theorem Stands.read_open (incomplete : Incomplete tail)
    (stands : Stands limit segments tail future taken reception) (within : taken ≤ segments.length)
    (flowing : reception.socket.ending = none) :
    (reception.read limit).socket.ending = none ∧
      ∃ later, later ≤ segments.length ∧
        Stands limit segments tail future later (reception.read limit) := by
  cases front : Frame.read? limit reception.socket.incoming with
  | none =>
    have waits : reception.read limit = reception := by
      simp [Reception.read, Socket.inbound?, front, flowing]
    rw [waits]
    exact ⟨flowing, taken, within, stands⟩
  | some frame =>
    obtain ⟨reads, more, later⟩ := stands.take incomplete front
    exact ⟨by rw [reads]; exact flowing, taken + 1, more, later⟩

/-- Once the stream has ended, every read is answered: by the next segment, and by the end when
there is none. -/
theorem Stands.read_ended (incomplete : Incomplete tail)
    (stands : Stands limit segments tail [] taken reception)
    (ended : reception.socket.ending = some .closed) :
    (reception.read limit).socket.ending = some .closed ∧
      Stands limit segments tail [] (taken + 1) (reception.read limit) := by
  cases front : Frame.read? limit reception.socket.incoming with
  | none =>
    have past : segments.length ≤ taken := by
      refine Nat.le_of_not_lt fun more => ?_
      have left := stands.left
      rw [List.append_nil, leftOf_of_lt more] at left
      rw [left, Frame.read?_segment] at front
      cases front
    have reads : reception.read limit =
        { reception with answers := reception.answers ++ [none] } := by
      simp [Reception.read, Socket.inbound?, front, ended]
    rw [reads]
    refine ⟨ended, ?_, ?_⟩
    · rw [answersOf_of_le past, stands.answers]
    · have left := stands.left
      rw [leftOf_of_le past] at left
      rw [leftOf_of_le (Nat.le_succ_of_le past)]
      exact left
  | some frame =>
    obtain ⟨reads, -, later⟩ := stands.take incomplete front
    exact ⟨by rw [reads]; exact ended, later⟩

/-- While a stream arrives, its reads are answered by its segments. The induction is on the course:
a delivery brings the stream further, and a read takes one segment if it has arrived as a whole. -/
theorem Stands.follow (incomplete : Incomplete tail) (course : List Happening)
    (stands : Stands limit segments tail (arriving course) taken reception)
    (within : taken ≤ segments.length) (flowing : reception.socket.ending = none) :
    (reception.follow limit course).socket.ending = none ∧
      ∃ later, later ≤ segments.length ∧
        Stands limit segments tail [] later (reception.follow limit course) := by
  induction course generalizing reception taken with
  | nil => exact ⟨flowing, taken, within, stands⟩
  | cons happening rest inductionHypothesis =>
    cases happening with
    | chunk bytes =>
      refine inductionHypothesis ⟨stands.answers, ?_⟩ within flowing
      have left : reception.socket.incoming ++ (bytes ++ arriving rest) =
          leftOf segments tail taken := stands.left
      rwa [← List.append_assoc] at left
    | read =>
      have waiting : Stands limit segments tail (arriving rest) taken reception := stands
      obtain ⟨flows, later, bounded, stands⟩ := waiting.read_open incomplete within flowing
      exact inductionHypothesis stands bounded flows

/-- After the end of a stream, its reads are answered by what is left of it and then by its end. -/
theorem Stands.follow_reads (incomplete : Incomplete tail) (reads : Nat)
    (stands : Stands limit segments tail [] taken reception)
    (ended : reception.socket.ending = some .closed) :
    Stands limit segments tail [] (taken + reads)
      (reception.follow limit (List.replicate reads .read)) := by
  induction reads generalizing reception taken with
  | zero => exact stands
  | succ reads inductionHypothesis =>
    obtain ⟨ends, later⟩ := stands.read_ended incomplete ended
    have rest := inductionHypothesis later ends
    rw [Nat.add_right_comm] at rest
    exact rest

/-- However a stream of segments is cut when it arrives at a new socket, and whenever its frames
are asked for, the answers are the verdicts on its segments in their order, and every answer takes
its segment from the stream and nothing else. When the stream has ended, each further read is
answered, by the segments that are left and then by the end. -/
theorem answers_follow (limit : UInt32) (segments : List Segment) (tail : Bytes)
    (incomplete : Incomplete tail) (peer : Net.Endpoint) (fault : Option Net.SystemFault)
    (course : List Happening)
    (carries : arriving course = segments.flatMap Segment.bytes ++ tail) :
    let arrived := (Reception.mk (.new peer fault) []).follow limit course
    ∃ taken ≤ segments.length,
      arrived.answers = (segments.take taken).map (fun segment => some (segment.verdict limit)) ∧
      arrived.socket.incoming = (segments.drop taken).flatMap Segment.bytes ++ tail ∧
      ∀ reads,
        let ended := arrived.finish.follow limit (List.replicate reads .read)
        ended.answers =
          (segments.take (taken + reads)).map (fun segment => some (segment.verdict limit)) ++
            List.replicate (taken + reads - segments.length) none ∧
        ended.socket.incoming =
          (segments.drop (taken + reads)).flatMap Segment.bytes ++ tail := by
  intro arrived
  have begins : Stands limit segments tail (arriving course) 0 ⟨.new peer fault, []⟩ :=
    ⟨by simp [answersOf], carries⟩
  obtain ⟨flowing, taken, within, stands⟩ :=
    begins.follow incomplete course (Nat.zero_le _) rfl
  have none : taken - segments.length = 0 := Nat.sub_eq_zero_of_le within
  refine ⟨taken, within, ?_, ?_, fun reads => ?_⟩
  · simpa [answersOf, none] using stands.answers
  · simpa [leftOf] using stands.left
  · have ends : arrived.finish.socket = { arrived.socket with ending := some .closed } := by
      simp only [finish, Socket.finish]
      rw [flowing]
    have finished : Stands limit segments tail [] taken arrived.finish :=
      ⟨stands.answers, by rw [ends]; exact stands.left⟩
    have later := finished.follow_reads incomplete reads (by rw [ends])
    exact ⟨later.answers, by simpa [leftOf] using later.left⟩

/-- A message of a type that is not understood, one beyond the limit and an alive check request,
in chunks that fall across their bounds. -/
theorem answers_follow_refusals :
    let unknown : Segment := ⟨[2, 0xFD, 0x12, 0x34, 0, 0, 0, 2], ⟨2, 0x1234, 2⟩, [0xAA, 0xBB],
      rfl, rfl, rfl⟩
    let large : Segment := ⟨[2, 0xFD, 0x80, 0x01, 0, 0, 0, 5], ⟨2, 0x8001, 5⟩, [0, 1, 2, 3, 4],
      rfl, rfl, rfl⟩
    let alive : Segment := ⟨[2, 0xFD, 0, 7, 0, 0, 0, 0], ⟨2, 7, 0⟩, [], rfl, rfl, rfl⟩
    let course : List Happening :=
      [.chunk [2, 0xFD, 0x12], .read, .chunk [0x34, 0, 0, 0, 2, 0xAA, 0xBB, 2, 0xFD, 0x80], .read,
        .read, .chunk [0x01, 0, 0, 0, 5, 0, 1, 2, 3], .read,
        .chunk [4, 2, 0xFD, 0, 7, 0, 0, 0, 0, 2, 0xFD, 0x80]]
    let arrived := (Reception.mk (.new ⟨.v4 .loopback, 50001⟩ none) []).follow 4 course
    Incomplete [2, 0xFD, 0x80] ∧
      arriving course = [unknown, large, alive].flatMap Segment.bytes ++ [2, 0xFD, 0x80] ∧
      ((arrived.finish.follow 4 (List.replicate 3 .read)).answers =
        [some (.error (.unknownPayloadType 0x1234)), some (.error (.messageTooLarge 5 4)),
          some (.ok .aliveCheckRequest), none]) := by
  intro unknown large alive course arrived
  have incomplete : Incomplete [2, 0xFD, 0x80] := Or.inl (by decide)
  refine ⟨incomplete, rfl, ?_⟩
  obtain ⟨taken, within, answers, -, later⟩ := answers_follow 4 [unknown, large, alive]
    [2, 0xFD, 0x80] incomplete ⟨.v4 .loopback, 50001⟩ none course rfl
  -- One frame was whole when it was asked for.
  have one : taken = 1 := by
    have count := congrArg List.length answers
    have answered : arrived.answers.length = 1 := rfl
    rw [answered, List.length_map, List.length_take, Nat.min_eq_left within] at count
    exact count.symm
  subst one
  exact (later 3).1

end Reception

/-- A step of a gateway's reader is a read of the stream of its socket. Without an answer it waits,
and it finishes with the end of the stream. Any other answer is what the gateway is told to have
arrived on the connection, and what the read leaves of the stream is what stays unread. -/
theorem Gateway.readNext_eq_read (gateway : Gateway) (now : Milliseconds) (id : SocketId)
    (socket : Socket) (connection : ConnectionId) :
    gateway.readNext now id socket connection =
      let reads := (Reception.mk socket []).read gateway.config.maxDataSize
      (match reads.answers with
      | [] => return gateway
      | none :: _ => do
        socket.ending.elim (return ()) (logEnd connection)
        gateway.finishReading id socket.peer connection
      | some content :: _ => do
        let taken := gateway.updateSocket id fun socket =>
          { socket with incoming := reads.socket.incoming }
        let (answered, flow) ← taken.onFrame now connection content
        answered.continueReading id socket.peer connection flow) := by
  unfold readNext Reception.read Socket.inbound?
  cases Frame.read? gateway.config.maxDataSize socket.incoming with
  | some frame => rfl
  | none =>
    cases socket.ending <;> rfl

end DiagnosticGateway
