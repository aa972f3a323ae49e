import DiagnosticGateway.Bytes

/-!
# Big-endian words

The wire carries 16- and 32-bit words with the most significant byte first. A word is
written to a list of bytes and read from the front of one; a reader returns what it did not
use. The laws say that reading undoes writing, and that the bytes read are the bytes that
writing the word would give.
-/

namespace DiagnosticGateway.Wire

/-- The two bytes of a 16-bit word, most significant first. -/
def word16 (word : UInt16) : Bytes :=
  [UInt8.ofNat (word.toNat / 256), UInt8.ofNat word.toNat]

/-- The four bytes of a 32-bit word, most significant first. -/
def word32 (word : UInt32) : Bytes :=
  [UInt8.ofNat (word.toNat / 16777216), UInt8.ofNat (word.toNat / 65536),
    UInt8.ofNat (word.toNat / 256), UInt8.ofNat word.toNat]

/-- The 16-bit word with the given two bytes. -/
def joinWord16 (high low : UInt8) : UInt16 :=
  UInt16.ofNat (high.toNat * 256 + low.toNat)

/-- The 32-bit word with the given four bytes. -/
def joinWord32 (first second third fourth : UInt8) : UInt32 :=
  UInt32.ofNat
    (first.toNat * 16777216 + second.toNat * 65536 + third.toNat * 256 + fourth.toNat)

/-- Read one byte. -/
def readByte : Bytes → Option (UInt8 × Bytes)
  | byte :: rest => some (byte, rest)
  | [] => none

/-- Read a 16-bit word. -/
def readWord16 : Bytes → Option (UInt16 × Bytes)
  | high :: low :: rest => some (joinWord16 high low, rest)
  | _ => none

/-- Read a 32-bit word. -/
def readWord32 : Bytes → Option (UInt32 × Bytes)
  | first :: second :: third :: fourth :: rest =>
    some (joinWord32 first second third fourth, rest)
  | _ => none

@[simp] theorem length_word16 (word : UInt16) : (word16 word).length = 2 := rfl

@[simp] theorem length_word32 (word : UInt32) : (word32 word).length = 4 := rfl

/-- Joining the two bytes of a word gives the word. -/
theorem joinWord16_bytes (word : UInt16) :
    joinWord16 (UInt8.ofNat (word.toNat / 256)) (UInt8.ofNat word.toNat) = word := by
  have bounded := word.toNat_lt
  apply UInt16.toNat_inj.mp
  simp only [joinWord16, UInt16.toNat_ofNat', UInt8.toNat_ofNat']
  omega

/-- Joining the four bytes of a word gives the word. -/
theorem joinWord32_bytes (word : UInt32) :
    joinWord32 (UInt8.ofNat (word.toNat / 16777216)) (UInt8.ofNat (word.toNat / 65536))
      (UInt8.ofNat (word.toNat / 256)) (UInt8.ofNat word.toNat) = word := by
  have bounded := word.toNat_lt
  apply UInt32.toNat_inj.mp
  simp only [joinWord32, UInt32.toNat_ofNat', UInt8.toNat_ofNat']
  omega

/-- Splitting a joined word gives its two bytes. -/
@[simp] theorem word16_join (high low : UInt8) : word16 (joinWord16 high low) = [high, low] := by
  have highBounded := high.toNat_lt
  have lowBounded := low.toNat_lt
  have value : (joinWord16 high low).toNat = high.toNat * 256 + low.toNat := by
    simp only [joinWord16, UInt16.toNat_ofNat']
    omega
  simp only [word16, value, List.cons.injEq, and_true]
  constructor <;> apply UInt8.toNat_inj.mp <;> simp only [UInt8.toNat_ofNat'] <;> omega

/-- Splitting a joined word gives its four bytes. -/
@[simp] theorem word32_join (first second third fourth : UInt8) :
    word32 (joinWord32 first second third fourth) = [first, second, third, fourth] := by
  have firstBounded := first.toNat_lt
  have secondBounded := second.toNat_lt
  have thirdBounded := third.toNat_lt
  have fourthBounded := fourth.toNat_lt
  have value : (joinWord32 first second third fourth).toNat =
      first.toNat * 16777216 + second.toNat * 65536 + third.toNat * 256 + fourth.toNat := by
    simp only [joinWord32, UInt32.toNat_ofNat']
    omega
  simp only [word32, value, List.cons.injEq, and_true]
  refine ⟨?_, ?_, ?_, ?_⟩ <;> apply UInt8.toNat_inj.mp <;> simp only [UInt8.toNat_ofNat'] <;> omega

@[simp] theorem readWord16_word16 (word : UInt16) (rest : Bytes) :
    readWord16 (word16 word ++ rest) = some (word, rest) := by
  simp only [word16, List.cons_append, List.nil_append, readWord16, joinWord16_bytes]

@[simp] theorem readWord32_word32 (word : UInt32) (rest : Bytes) :
    readWord32 (word32 word ++ rest) = some (word, rest) := by
  simp only [word32, List.cons_append, List.nil_append, readWord32, joinWord32_bytes]

/-- A word is read exactly from a string that begins with its bytes. -/
theorem readWord16_eq_some_iff {bytes rest : Bytes} {word : UInt16} :
    readWord16 bytes = some (word, rest) ↔ bytes = word16 word ++ rest := by
  constructor
  · intro found
    match bytes, found with
    | high :: low :: tail, found =>
      simp only [readWord16, Option.some.injEq, Prod.mk.injEq] at found
      obtain ⟨rfl, rfl⟩ := found
      simp
  · rintro rfl
    simp

/-- A word is read exactly from a string that begins with its bytes. -/
theorem readWord32_eq_some_iff {bytes rest : Bytes} {word : UInt32} :
    readWord32 bytes = some (word, rest) ↔ bytes = word32 word ++ rest := by
  constructor
  · intro found
    match bytes, found with
    | first :: second :: third :: fourth :: tail, found =>
      simp only [readWord32, Option.some.injEq, Prod.mk.injEq] at found
      obtain ⟨rfl, rfl⟩ := found
      simp
  · rintro rfl
    simp

end DiagnosticGateway.Wire
