import DiagnosticGateway.Bytes

/-!
# Reading UTF-8

Bytes are read as a text character by character. A sequence is accepted if it is the
shortest form of a character; the length of the first byte's sequence and the range of its
second byte decide how far a sequence goes that is not accepted. Reading strictly fails
there; reading for display puts one replacement character for the longest start of a
sequence that could have been continued, or for a single byte that starts none.
-/

namespace DiagnosticGateway.Text.Utf8

/-- The number of bytes of a sequence and the range of its second byte, by the first byte. -/
def shape? (first : UInt8) : Option (Nat × Nat × Nat) :=
  let code := first.toNat
  if code < 0x80 then some (1, 0, 0)
  else if 0xC2 ≤ code && code ≤ 0xDF then some (2, 0x80, 0xBF)
  else if code = 0xE0 then some (3, 0xA0, 0xBF)
  else if code = 0xED then some (3, 0x80, 0x9F)
  else if 0xE1 ≤ code && code ≤ 0xEF then some (3, 0x80, 0xBF)
  else if code = 0xF0 then some (4, 0x90, 0xBF)
  else if 0xF1 ≤ code && code ≤ 0xF3 then some (4, 0x80, 0xBF)
  else if code = 0xF4 then some (4, 0x80, 0x8F)
  else none

/-- Whether a byte lies in a range. -/
def within (low high : Nat) (byte : UInt8) : Bool :=
  low ≤ byte.toNat && byte.toNat ≤ high

/-- The bytes that continue a sequence with the given first byte, as far as they are there. -/
def continuation (length low high : Nat) (rest : Bytes) : Bytes :=
  match rest with
  | [] => []
  | second :: more =>
    if 1 < length && within low high second then
      second :: (more.take (length - 2)).takeWhile (within 0x80 0xBF)
    else
      []

/-- The character with the given first byte and continuation. -/
def charOf (first : UInt8) (continued : Bytes) : Char :=
  let start :=
    match continued.length with
    | 0 => first.toNat
    | 1 => first.toNat % 32
    | 2 => first.toNat % 16
    | _ => first.toNat % 8
  Char.ofNat (continued.foldl (fun code byte => code * 64 + byte.toNat % 64) start)

/-- The next character, or `none` for a faulty sequence, and the bytes after it. -/
def next (first : UInt8) (rest : Bytes) : Option Char × Bytes :=
  match shape? first with
  | none => (none, rest)
  | some (length, low, high) =>
    let continued := continuation length low high rest
    let after := rest.drop continued.length
    if continued.length + 1 = length then (some (charOf first continued), after)
    else (none, after)

theorem length_next (first : UInt8) (rest : Bytes) : (next first rest).2.length ≤ rest.length := by
  unfold next
  split
  · exact Nat.le_refl _
  · dsimp only
    split <;> simp

/-- The characters of a string of bytes, with `none` for every faulty sequence. -/
def decode : Bytes → List (Option Char)
  | [] => []
  | first :: rest => (next first rest).1 :: decode (next first rest).2
  termination_by bytes => bytes.length
  decreasing_by
    have bound := length_next first rest
    simp only [List.length_cons]
    omega

/-- The text of a string of bytes, if it has no faulty sequence. -/
def strict? (bytes : Bytes) : Option String :=
  ((decode bytes).mapM id).map String.ofList

/-- The text of a string of bytes, with a replacement character for every faulty sequence. -/
def display (bytes : Bytes) : String :=
  String.ofList ((decode bytes).map fun found => found.getD '\uFFFD')

end DiagnosticGateway.Text.Utf8
