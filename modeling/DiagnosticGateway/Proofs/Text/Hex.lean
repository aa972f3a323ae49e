import Mathlib.Data.List.Basic
import DiagnosticGateway.Text.Hex

/-!
# Hexadecimal text and the bytes that it denotes

A text denotes a string of bytes if its characters, in upper case, are the digits of the bytes.
These are the texts that can be read: digits are single bytes in UTF-8, and no byte of another
character is one.
-/

namespace DiagnosticGateway

/-! ## The bytes of a text -/

/-- The loop that lists the bytes of an array collects them in reverse, from a position to the
end. -/
theorem toList_loop (bytes : ByteArray) (position : Nat) (read : List UInt8) :
    ByteArray.toList.loop bytes position read =
      read.reverse ++ bytes.data.toList.drop position := by
  fun_induction ByteArray.toList.loop bytes position read with
  | case1 position read within inductionHypothesis =>
    have inside : position < bytes.data.toList.length := by simpa using within
    rw [inductionHypothesis, List.drop_eq_getElem_cons inside]
    simp [ByteArray.get!, within]
  | case2 position read outside =>
    have beyond : bytes.data.toList.length ≤ position := by simpa using outside
    rw [List.drop_eq_nil_of_le beyond, List.append_nil]

/-- The bytes of a text are those of its characters. -/
theorem Bytes.ofText_eq (text : String) :
    Bytes.ofText text = text.toList.flatMap String.utf8EncodeChar := by
  have encoded : text.toUTF8 = text.toList.utf8Encode := String.utf8Encode_toList.symm
  rw [Bytes.ofText, encoded, ByteArray.toList, toList_loop, List.utf8Encode,
    List.toList_data_toByteArray]
  rfl

/-- An ASCII character is encoded as one byte, its own code. -/
theorem utf8EncodeChar_of_ascii {char : Char} (ascii : char.toNat < 0x80) :
    String.utf8EncodeChar char = [UInt8.ofNat char.toNat] := by
  have low : char.val.toNat ≤ 127 := Nat.le_of_lt_succ ascii
  simp only [String.utf8EncodeChar, low, if_true]
  rfl

/-- A character beyond ASCII has no byte below 128. Each byte of such a character has a marker in
its upper bits, the first one as the others. -/
theorem high_of_mem_utf8EncodeChar {char : Char} (beyond : 0x80 ≤ char.toNat) {byte : UInt8}
    (member : byte ∈ String.utf8EncodeChar char) : 0x80 ≤ byte.toNat := by
  have high : ¬ char.val.toNat ≤ 127 := Nat.not_le.mpr beyond
  have marked : ∀ value base, 0x80 ≤ base → base + value < 256 →
      0x80 ≤ (UInt8.ofNat (value + base)).toNat := by
    intro value base large small
    rw [UInt8.toNat_ofNat', Nat.mod_eq_of_lt (by omega)]
    omega
  simp only [String.utf8EncodeChar, high, if_false] at member
  split at member
  · simp only [List.mem_cons, List.not_mem_nil, or_false] at member
    rcases member with rfl | rfl <;> refine marked _ _ ?_ ?_ <;> omega
  split at member
  · simp only [List.mem_cons, List.not_mem_nil, or_false] at member
    rcases member with rfl | rfl | rfl <;> refine marked _ _ ?_ ?_ <;> omega
  · simp only [List.mem_cons, List.not_mem_nil, or_false] at member
    rcases member with rfl | rfl | rfl | rfl <;> refine marked _ _ ?_ ?_ <;> omega

/-- The bytes of an ASCII text are the numbers of its characters. -/
theorem Bytes.ofText_of_ascii {text : String} (ascii : ∀ char ∈ text.toList, char.toNat < 0x80) :
    Bytes.ofText text = text.toList.map fun char => UInt8.ofNat char.toNat := by
  rw [Bytes.ofText_eq, List.map_eq_flatMap]
  exact List.flatMap_congr fun char member => utf8EncodeChar_of_ascii (ascii char member)

namespace Text.Hex

/-- Whether a character is a digit, in either case. -/
def isDigit (char : Char) : Bool :=
  ('0' ≤ char && char ≤ '9') || ('A' ≤ char && char ≤ 'F') || ('a' ≤ char && char ≤ 'f')

/-- The values of the digits of a string of bytes, most significant first. -/
def halves (bytes : Bytes) : List Nat :=
  bytes.flatMap fun byte => [byte.toNat / 16, byte.toNat % 16]

variable {bytes digits : Bytes} {text : String} {position : Nat}

/-- Bytes are spelt by the digits of their halves, the higher half first. -/
theorem upperChars_eq (bytes : Bytes) : upperChars bytes = (halves bytes).map upperDigit := by
  rw [upperChars, charsWith, halves, List.map_flatMap]
  rfl

/-- Every byte has two halves. -/
theorem length_halves (bytes : Bytes) : (halves bytes).length = 2 * bytes.length := by
  simp [halves, List.length_flatMap, Nat.mul_comm]

/-- Every byte is spelt by two characters. -/
theorem length_upperChars (bytes : Bytes) : (upperChars bytes).length = 2 * bytes.length := by
  rw [upperChars_eq, List.length_map, length_halves]

/-- Half a byte is below sixteen. -/
theorem lt_of_mem_halves {value : Nat} (member : value ∈ halves bytes) : value < 16 := by
  obtain ⟨byte, -, half⟩ := List.mem_flatMap.mp member
  have bound := byte.toNat_lt
  simp only [List.mem_cons, List.not_mem_nil, or_false] at half
  omega

/-- Bytes with the same digits are the same. A byte is its upper half times sixteen and its
lower half. -/
theorem halves_inj {other : Bytes} (same : halves bytes = halves other) : bytes = other := by
  induction bytes generalizing other with
  | nil =>
    cases other with
    | nil => rfl
    | cons byte rest => cases same
  | cons byte rest inductionHypothesis =>
    cases other with
    | nil => cases same
    | cons second others =>
      obtain ⟨high, low, later⟩ : byte.toNat / 16 = second.toNat / 16 ∧
          byte.toNat % 16 = second.toNat % 16 ∧ halves rest = halves others := by
        simpa [halves] using same
      have equal : byte = second := UInt8.toNat.inj (by omega)
      rw [equal, inductionHypothesis later]

/-! ## Digits as characters and as bytes -/

/-- An ASCII character spells a digit in either case if its byte reads as that digit. -/
theorem toUpper_eq_iff {char : Char} (ascii : char.toNat < 0x80) {value : Nat}
    (small : value < 16) :
    char.toUpper = upperDigit value ↔ digit? (UInt8.ofNat char.toNat) = some value := by
  have table : ∀ code < 128, ∀ value < 16,
      (Char.ofNat code).toUpper = upperDigit value ↔ digit? (UInt8.ofNat code) = some value := by
    decide +kernel
  have entry := table char.toNat ascii value small
  rwa [Char.ofNat_toNat] at entry

/-- An ASCII character is a digit exactly if its byte is read as one. -/
theorem isDigit_iff {char : Char} (ascii : char.toNat < 0x80) :
    isDigit char = (digit? (UInt8.ofNat char.toNat)).isSome := by
  have table : ∀ code < 128,
      isDigit (Char.ofNat code) = (digit? (UInt8.ofNat code)).isSome := by
    decide +kernel
  have entry := table char.toNat ascii
  rwa [Char.ofNat_toNat] at entry

/-- No byte above 127 is a digit. -/
theorem digit?_of_high {byte : UInt8} (high : 0x80 ≤ byte.toNat) : digit? byte = none := by
  unfold digit?
  simp only [Bool.and_eq_true, decide_eq_true_eq]
  rw [if_neg (by omega), if_neg (by omega), if_neg (by omega)]

/-- The digits are ASCII characters. -/
theorem ascii_of_isDigit {char : Char} (digit : isDigit char = true) : char.toNat < 0x80 := by
  have bounds : ∀ first last : Char, first ≤ char → char ≤ last → last.toNat < 0x80 →
      char.toNat < 0x80 := fun first last _ upTo small =>
    Nat.lt_of_le_of_lt (UInt32.le_iff_toNat_le.mp upTo) small
  simp only [isDigit, Bool.or_eq_true, Bool.and_eq_true, decide_eq_true_eq] at digit
  rcases digit with (⟨lower, upper⟩ | ⟨lower, upper⟩) | ⟨lower, upper⟩ <;>
    exact bounds _ _ lower upper (by decide)

/-- A text has digits for characters if it has digits for bytes. This is why bytes can be read
without decoding the text: no byte of another character looks like a digit. -/
theorem all_isDigit_iff (text : String) :
    (∀ char ∈ text.toList, isDigit char = true) ↔
      ∀ byte ∈ Bytes.ofText text, (digit? byte).isSome = true := by
  rw [Bytes.ofText_eq]
  constructor
  · intro spelled byte member
    obtain ⟨char, listed, encoded⟩ := List.mem_flatMap.mp member
    have ascii := ascii_of_isDigit (spelled char listed)
    rw [utf8EncodeChar_of_ascii ascii] at encoded
    rw [List.mem_singleton.mp encoded, ← isDigit_iff ascii]
    exact spelled char listed
  · intro digits char listed
    rcases Nat.lt_or_ge char.toNat 0x80 with ascii | beyond
    · rw [isDigit_iff ascii]
      refine digits _ (List.mem_flatMap.mpr ⟨char, listed, ?_⟩)
      rw [utf8EncodeChar_of_ascii ascii]
      exact List.mem_singleton_self _
    · obtain ⟨byte, encoded⟩ :=
        List.exists_mem_of_ne_nil _ (String.utf8EncodeChar_ne_nil (c := char))
      have digit := digits byte (List.mem_flatMap.mpr ⟨char, listed, encoded⟩)
      rw [digit?_of_high (high_of_mem_utf8EncodeChar beyond encoded)] at digit
      cases digit

/-- A text of digits has one byte for each. -/
theorem length_ofText_of_digits (spelled : ∀ char ∈ text.toList, isDigit char = true) :
    (Bytes.ofText text).length = text.toList.length := by
  rw [Bytes.ofText_of_ascii fun char member => ascii_of_isDigit (spelled char member),
    List.length_map]

/-! ## Reading -/

/-- The position of the first byte that is no digit, or the length if there is none. -/
def firstStray (digits : Bytes) : Nat :=
  digits.findIdx fun byte => (digit? byte).isNone

/-- A digit stands for a number below sixteen. -/
theorem lt_of_digit? {byte : UInt8} {value : Nat} (digit : digit? byte = some value) :
    value < 16 := by
  unfold digit? at digit
  simp only [Bool.and_eq_true, decide_eq_true_eq] at digit
  grind

/-- A digit is read as its value, wherever it stands. -/
theorem digitAt_of_digit {byte : UInt8} {value : Nat} (digit : digit? byte = some value) :
    digitAt byte position = .ok value := by
  rw [digitAt, digit]

/-- A byte that is no digit is a fault that names it and where it stands. -/
theorem digitAt_of_stray {byte : UInt8} (stray : digit? byte = none) :
    digitAt byte position = .error (.invalidDigit byte position) := by
  rw [digitAt, stray]

/-- Pairs of digits are read as the bytes that have them. The induction takes two digits at a time,
as the reader does, and needs their number to be even. -/
theorem decodePairs_of_digits : ∀ {digits : Bytes} (position : Nat), digits.length % 2 = 0 →
    (∀ byte ∈ digits, (digit? byte).isSome = true) →
      ∃ bytes, decodePairs position digits = .ok bytes ∧
        digits.map digit? = (halves bytes).map some
  | [], _, _, _ => ⟨[], rfl, rfl⟩
  | [_], _, even, _ => by cases even
  | high :: low :: rest, position, even, spelled => by
    obtain ⟨upperHalf, first⟩ := Option.isSome_iff_exists.mp (spelled high List.mem_cons_self)
    obtain ⟨lowerHalf, second⟩ :=
      Option.isSome_iff_exists.mp (spelled low (List.mem_cons_of_mem _ List.mem_cons_self))
    have evenRest : rest.length % 2 = 0 := by
      simp only [List.length_cons] at even
      omega
    obtain ⟨bytes, read, same⟩ := decodePairs_of_digits (position + 2) evenRest fun byte member =>
      spelled byte (List.mem_cons_of_mem _ (List.mem_cons_of_mem _ member))
    have upperSmall := lt_of_digit? first
    have lowerSmall := lt_of_digit? second
    have number :
        (UInt8.ofNat (upperHalf * 16 + lowerHalf)).toNat = upperHalf * 16 + lowerHalf := by
      rw [UInt8.toNat_ofNat']
      exact Nat.mod_eq_of_lt (by omega)
    refine ⟨UInt8.ofNat (upperHalf * 16 + lowerHalf) :: bytes, ?_, ?_⟩
    · simp only [decodePairs, digitAt_of_digit first, digitAt_of_digit second, read]
    · have upper : (upperHalf * 16 + lowerHalf) / 16 = upperHalf := by omega
      have lower : (upperHalf * 16 + lowerHalf) % 16 = lowerHalf := by omega
      have cons : halves (UInt8.ofNat (upperHalf * 16 + lowerHalf) :: bytes) =
          upperHalf :: lowerHalf :: halves bytes := by
        simp only [halves, List.flatMap_cons, number, upper, lower]
        rfl
      rw [cons]
      simp [first, second, same]

/-- Of pairs with other bytes the first such byte is reported. It may be the first or the second of
its pair; its position is counted from the start of the text. -/
theorem decodePairs_of_stray : ∀ {digits : Bytes} (position : Nat), digits.length % 2 = 0 →
    (¬ ∀ byte ∈ digits, (digit? byte).isSome = true) →
      decodePairs position digits = .error
        (.invalidDigit (digits.getD (firstStray digits) 0) (position + firstStray digits))
  | [], _, _, stray => absurd (fun _ member => absurd member List.not_mem_nil) stray
  | [_], _, even, _ => by cases even
  | high :: low :: rest, position, even, stray => by
    cases first : digit? high with
    | none =>
      have here : firstStray (high :: low :: rest) = 0 := by
        simp [firstStray, List.findIdx_cons, first]
      simp only [decodePairs, digitAt_of_stray first, here]
      rfl
    | some upperHalf =>
      cases second : digit? low with
      | none =>
        have here : firstStray (high :: low :: rest) = 1 := by
          simp [firstStray, List.findIdx_cons, first, second]
        simp only [decodePairs, digitAt_of_digit first, digitAt_of_stray second, here]
        rfl
      | some lowerHalf =>
        have there : firstStray (high :: low :: rest) = firstStray rest + 2 := by
          simp [firstStray, List.findIdx_cons, first, second]
        have evenRest : rest.length % 2 = 0 := by
          simp only [List.length_cons] at even
          omega
        have strayRest : ¬ ∀ byte ∈ rest, (digit? byte).isSome = true := by
          simpa [first, second] using stray
        have later := decodePairs_of_stray (position + 2) evenRest strayRest
        have moved : position + 2 + firstStray rest = position + (firstStray rest + 2) := by omega
        simp only [decodePairs, digitAt_of_digit first, digitAt_of_digit second, later, there,
          moved]
        rfl

/-- A text with an odd number of bytes is refused before its digits are looked at. -/
theorem decode_of_odd (odd : ¬ (Bytes.ofText text).length % 2 = 0) :
    decode text = .error .oddLength := by
  rw [decode, if_neg odd]

/-- A text of even length with a stray character is refused, and the fault names its first stray
byte. That byte may be one of several that encode the character. -/
theorem decode_of_stray (even : (Bytes.ofText text).length % 2 = 0)
    (stray : ¬ ∀ char ∈ text.toList, isDigit char = true) :
    decode text = .error (.invalidDigit
      ((Bytes.ofText text).getD (firstStray (Bytes.ofText text)) 0)
      (firstStray (Bytes.ofText text))) := by
  rw [decode, if_pos even, decodePairs_of_stray 0 even (mt (all_isDigit_iff text).mpr stray),
    Nat.zero_add]

/-- A text of digits of even length is read: two characters for a byte, and the halves of the bytes
are the values of the digits. -/
theorem decode_of_digits (even : (Bytes.ofText text).length % 2 = 0)
    (spelled : ∀ char ∈ text.toList, isDigit char = true) :
    ∃ bytes, decode text = .ok bytes ∧ 2 * bytes.length = text.toList.length ∧
      (Bytes.ofText text).map digit? = (halves bytes).map some := by
  obtain ⟨bytes, read, same⟩ := decodePairs_of_digits 0 even ((all_isDigit_iff text).mp spelled)
  refine ⟨bytes, (if_pos even).trans read, ?_, same⟩
  rw [← length_ofText_of_digits spelled, ← length_halves]
  simpa using (congrArg List.length same).symm

/-! ## What a text denotes -/

/-- A character that is a digit of some value in upper case is a digit. A character beyond ASCII is
never spelt like a digit in upper case. -/
theorem isDigit_of_toUpper {char : Char} {value : Nat} (small : value < 16)
    (spells : char.toUpper = upperDigit value) : isDigit char = true := by
  have table : ∀ value < 16, (upperDigit value).toNat < 0x80 := by decide
  have ascii : char.toNat < 0x80 := by
    have bounded := table value small
    rw [← spells] at bounded
    unfold Char.toUpper at bounded
    split at bounded
    · rename_i letter
      exact Nat.lt_of_le_of_lt (UInt32.le_iff_toNat_le.mp letter.2) (by decide)
    · exact bounded
  rw [isDigit_iff ascii, (toUpper_eq_iff ascii small).mp spells]
  rfl

/-- Digits, read one by one in upper case. For each of them the table of digits is looked up once,
in both cases of the letters. -/
theorem toUpper_eq_digits_iff {chars : List Char} {values : List Nat}
    (spelled : ∀ char ∈ chars, isDigit char = true) (small : ∀ value ∈ values, value < 16) :
    chars.map Char.toUpper = values.map upperDigit ↔
      (chars.map fun char => UInt8.ofNat char.toNat).map digit? = values.map some := by
  induction chars generalizing values with
  | nil => cases values <;> simp
  | cons char rest inductionHypothesis =>
    cases values with
    | nil => simp
    | cons value others =>
      have ascii := ascii_of_isDigit (spelled char List.mem_cons_self)
      have later := inductionHypothesis
        (fun other member => spelled other (List.mem_cons_of_mem _ member))
        fun other member => small other (List.mem_cons_of_mem _ member)
      simp only [List.map_cons, List.cons.injEq, later,
        toUpper_eq_iff ascii (small value List.mem_cons_self)]

/-- Digits in either case spell some bytes exactly if they stand for the halves of these bytes. -/
theorem upperChars_iff_of_digits (spelled : ∀ char ∈ text.toList, isDigit char = true) :
    text.toList.map Char.toUpper = upperChars bytes ↔
      (Bytes.ofText text).map digit? = (halves bytes).map some := by
  have ascii : ∀ char ∈ text.toList, char.toNat < 0x80 := fun char member =>
    ascii_of_isDigit (spelled char member)
  rw [upperChars_eq, Bytes.ofText_of_ascii ascii]
  exact toUpper_eq_digits_iff spelled fun value member => lt_of_mem_halves member

/-- A text denotes the bytes whose digits it spells, in upper or lower case. No other text can be
read. -/
theorem decode_eq_ok_iff :
    decode text = .ok bytes ↔ text.toList.map Char.toUpper = upperChars bytes := by
  constructor
  · intro read
    by_cases even : (Bytes.ofText text).length % 2 = 0
    · by_cases spelled : ∀ char ∈ text.toList, isDigit char = true
      · obtain ⟨others, readOthers, -, same⟩ := decode_of_digits even spelled
        obtain rfl := Except.ok.inj (readOthers.symm.trans read)
        exact (upperChars_iff_of_digits spelled).mpr same
      · cases (decode_of_stray even spelled).symm.trans read
    · cases (decode_of_odd even).symm.trans read
  · intro spells
    have spelled : ∀ char ∈ text.toList, isDigit char = true := by
      intro char member
      have listed : char.toUpper ∈ upperChars bytes := spells ▸ List.mem_map_of_mem member
      rw [upperChars_eq] at listed
      obtain ⟨value, half, same⟩ := List.mem_map.mp listed
      exact isDigit_of_toUpper (lt_of_mem_halves half) same.symm
    have same := (upperChars_iff_of_digits spelled).mp spells
    have even : (Bytes.ofText text).length % 2 = 0 := by
      have lengths := congrArg List.length same
      rw [List.length_map, List.length_map, length_halves] at lengths
      omega
    obtain ⟨others, read, -, sameOthers⟩ := decode_of_digits even spelled
    rw [read, halves_inj (List.map_injective_iff.mpr (fun _ _ => Option.some.inj)
      (same.symm.trans sameOthers))]

end Text.Hex

end DiagnosticGateway
