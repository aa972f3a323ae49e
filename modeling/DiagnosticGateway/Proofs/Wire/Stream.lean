import DiagnosticGateway.Wire.Frame

/-!
# Frames in a stream

A frame that is there as a whole does not depend on the bytes behind it. So what a stream carries
can be said of all its bytes at once, however they are cut when they arrive, and as long as only
whole frames are taken from its front.
-/

namespace DiagnosticGateway.Wire

/-- A stream carries the contents of its frames, one after the other. -/
inductive Carries (limit : UInt32) : Bytes → Except Fault Message → Prop where
  | first {bytes : Bytes} {frame : Frame} (front : Frame.read? limit bytes = some frame) :
      Carries limit bytes frame.content
  | later {bytes : Bytes} {frame : Frame} {content : Except Fault Message}
      (front : Frame.read? limit bytes = some frame) (rest : Carries limit frame.rest content) :
      Carries limit bytes content

/-- Some more bytes of a stream have arrived, and one frame at most was taken from its front. -/
def Flows (limit : UInt32) (before arrived after : Bytes) : Prop :=
  after = before ++ arrived ∨
    ∃ frame, Frame.read? limit before = some frame ∧ after = frame.rest ++ arrived

/-- The contents of the first frames of a stream, in their order, and the bytes that are left. -/
inductive Takes (limit : UInt32) : Bytes → List (Except Fault Message) → Bytes → Prop where
  | nothing {bytes : Bytes} : Takes limit bytes [] bytes
  | next {bytes left : Bytes} {frame : Frame} {contents : List (Except Fault Message)}
      (front : Frame.read? limit bytes = some frame) (rest : Takes limit frame.rest contents left) :
      Takes limit bytes (frame.content :: contents) left

variable {limit : UInt32} {bytes before arrived after left : Bytes} {frame : Frame}
  {content : Except Fault Message} {contents : List (Except Fault Message)}

/-- A header is read off the front, whatever follows it. -/
theorem Header.read_append (whole : Header.size ≤ bytes.length) (more : Bytes) :
    Header.read (bytes ++ more) = Header.read bytes := by
  match bytes, whole with
  | _ :: _ :: _ :: _ :: _ :: _ :: _ :: _ :: _, _ => rfl

/-- A frame that is there as a whole is the same, whatever comes behind it. This is why it makes no
difference in which portions a stream arrives. -/
theorem Frame.read?_append (front : Frame.read? limit bytes = some frame) (more : Bytes) :
    Frame.read? limit (bytes ++ more) = some ⟨frame.content, frame.rest ++ more⟩ := by
  unfold Frame.read? at front
  split at front
  · cases front
  · rename_i long
    have whole : Header.size ≤ bytes.length := Nat.le_of_not_lt long
    have still : ¬ (bytes ++ more).length < Header.size := by
      rw [List.length_append]
      omega
    have rest : (bytes ++ more).drop Header.size = bytes.drop Header.size ++ more :=
      List.drop_append_of_le_length whole
    simp only [Frame.read?, if_neg still, Header.read_append whole more, rest]
    cases reads : Header.read bytes with
    | error fault =>
      rw [reads] at front
      obtain rfl := Option.some.inj front
      rfl
    | ok header =>
      rw [reads] at front
      simp only at front ⊢
      split at front
      · cases front
      · rename_i there
        obtain rfl := Option.some.inj front
        have enough : header.payloadLength.toNat ≤ (bytes.drop Header.size).length :=
          Nat.le_of_not_lt there
        have more : ¬ (bytes.drop Header.size ++ more).length < header.payloadLength.toNat := by
          rw [List.length_append]
          omega
        rw [if_neg more, List.take_append_of_le_length enough,
          List.drop_append_of_le_length enough]

/-- A stream carries what its first frame holds and what it carries behind that frame. The first
frame of given bytes is only one. -/
theorem carries_iff (front : Frame.read? limit bytes = some frame) :
    Carries limit bytes content ↔ content = frame.content ∨ Carries limit frame.rest content := by
  constructor
  · rintro (same | ⟨same, later⟩)
    · obtain rfl := Option.some.inj (same.symm.trans front)
      exact Or.inl rfl
    · obtain rfl := Option.some.inj (same.symm.trans front)
      exact Or.inr later
  · rintro (rfl | later)
    · exact .first front
    · exact .later front later

/-- A stream without a whole frame carries nothing. -/
theorem not_carries (short : Frame.read? limit bytes = none) : ¬ Carries limit bytes content := by
  rintro (same | ⟨same, -⟩)
  · cases short.symm.trans same
  · cases short.symm.trans same

/-- What a stream carries from now on is carried by all that was there before. -/
theorem Flows.carries (flows : Flows limit before arrived after) {future : Bytes}
    (carries : Carries limit (after ++ future) content) :
    Carries limit (before ++ (arrived ++ future)) content := by
  rcases flows with rfl | ⟨frame, front, rfl⟩
  · rwa [← List.append_assoc]
  · refine .later (Frame.read?_append front _) ?_
    rwa [List.append_assoc] at carries

/-- Bytes that arrive later come behind what is left. -/
theorem Takes.arrive (takes : Takes limit bytes contents left) (more : Bytes) :
    Takes limit (bytes ++ more) contents (left ++ more) := by
  induction takes with
  | nothing => exact .nothing
  | next front _ inductionHypothesis =>
    have first := Takes.next (Frame.read?_append front more) inductionHypothesis
    exact first

/-- One more frame is taken from what is left. -/
theorem Takes.concat (takes : Takes limit bytes contents left)
    (front : Frame.read? limit left = some frame) :
    Takes limit bytes (contents ++ [frame.content]) frame.rest := by
  induction takes with
  | nothing => exact .next front .nothing
  | next first _ inductionHypothesis => exact .next first (inductionHypothesis front)

end DiagnosticGateway.Wire
