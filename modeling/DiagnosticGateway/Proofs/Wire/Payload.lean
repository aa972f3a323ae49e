import DiagnosticGateway.Proofs.Wire.CodeTable
import DiagnosticGateway.Wire.Decoding
import DiagnosticGateway.Wire.Encoding

/-!
# What a payload says

A reader succeeds on exactly those payloads that have the layout of its type, and finds there what
the layout says. The layouts are those of the writers, except that a code may stand as any of its
bytes and a reserved field may hold any word. So a payload that was written is read again in
canonical form, and writing what was read gives back the payload with its reserved field cleared.
-/

namespace DiagnosticGateway.Wire

variable {field value code : Type} {bytes rest payload : Bytes}

/-! ## Fields -/

/-- A byte is read exactly off the front of the bytes. -/
theorem readByte_eq_some_iff {byte : UInt8} :
    readByte bytes = some (byte, rest) ↔ bytes = byte :: rest := by
  cases bytes <;> simp [readByte]

/-- A reader that has to come to the end succeeds only if no byte is left over. -/
theorem ended_eq_some_iff {result found : value} :
    ended result bytes = some found ↔ bytes = [] ∧ result = found := by
  cases bytes <;> simp [ended]

/-- A trailing field stands there as it is written, or nothing stands there. A field that is written
as no bytes at all could not be told from one that is missing; that is why it has to be visible. -/
theorem readTrailing_eq_some_iff {read : Bytes → Option (field × Bytes)} {write : field → Bytes}
    (reads : ∀ {bytes value rest}, read bytes = some (value, rest) ↔ bytes = write value ++ rest)
    (visible : ∀ value, write value ≠ []) {found : Option field} :
    readTrailing read bytes = some found ↔ bytes = trailing write found := by
  have whole : ∀ {bytes value}, read bytes = some (value, []) ↔ bytes = write value := by
    intro bytes value
    rw [reads, List.append_nil]
  cases found with
  | none =>
    cases bytes with
    | nil => simp [readTrailing, trailing]
    | cons first more =>
      simp only [readTrailing, trailing]
      split <;> simp
  | some value =>
    cases bytes with
    | nil => simpa [readTrailing, trailing] using (visible value).symm
    | cons first more =>
      simp only [readTrailing, trailing, ← whole]
      split
      · rename_i other read
        simp [read]
      · rename_i unread
        simpa using unread value

/-- The optional status at the end of a payload is absent or is its last byte. -/
theorem readTrailing_byte {found : Option UInt8} :
    readTrailing readByte bytes = some found ↔
      bytes = trailing (fun status => [status]) found :=
  readTrailing_eq_some_iff readByte_eq_some_iff (fun _ => List.cons_ne_nil _ _)

/-- An optional word at the end is absent or takes the four bytes that are left. -/
theorem readTrailing_word32 {found : Option UInt32} :
    readTrailing readWord32 bytes = some found ↔ bytes = trailing word32 found :=
  readTrailing_eq_some_iff readWord32_eq_some_iff (fun _ => List.cons_ne_nil _ _)

/-- An optional group of four octets at the end is absent or takes the four bytes that are left. -/
theorem readTrailing_octets {found : Option (Octets 4)} :
    readTrailing (Octets.read 4) bytes = some found ↔ bytes = trailing Octets.toList found := by
  refine readTrailing_eq_some_iff Octets.read_eq_some_iff ?_
  intro octets empty
  have length := octets.length_eq
  rw [empty] at length
  cases length

/-- Octets are made of exactly as many bytes as they have. So octets are given by their bytes, and
the bytes by them. -/
theorem Octets.ofList?_eq_some_iff {size : Nat} {octets : Octets size} :
    ofList? size bytes = some octets ↔ bytes = octets.toList := by
  constructor
  · intro found
    unfold ofList? at found
    split at found
    · exact congrArg toList (Option.some.inj found)
    · cases found
  · rintro rfl
    exact ofList?_toList octets

/-- The bytes with the four from a position on set to zero. -/
def clearedFrom (start : Nat) (bytes : Bytes) : Bytes :=
  bytes.mapIdx fun position byte => if start ≤ position ∧ position < start + 4 then 0 else byte

/-- A change that spares every position of a string leaves the string as it is. -/
theorem mapIdx_eq_self {change : Nat → UInt8 → UInt8}
    (spares : ∀ position byte, position < bytes.length → change position byte = byte) :
    bytes.mapIdx change = bytes := by
  apply List.ext_getElem
  · simp
  · intro position _ inside
    simpa using spares position _ inside

/-- Clearing sets the word at the position to zero. The bytes before the word and behind it are left
as they are. -/
theorem clearedFrom_append (front : Bytes) (word : UInt32) (rest : Bytes) :
    clearedFrom front.length (front ++ (word32 word ++ rest)) =
      front ++ (reservedField ++ rest) := by
  unfold clearedFrom
  rw [List.mapIdx_append, List.mapIdx_append]
  congr 1
  · refine mapIdx_eq_self fun position byte before => if_neg ?_
    omega
  congr 1
  · simp only [word32, reservedField, List.mapIdx_cons, List.mapIdx_nil]
    simp only [List.cons.injEq, and_true]
    refine ⟨?_, ?_, ?_, ?_⟩ <;> exact if_pos (by omega)
  · refine mapIdx_eq_self fun position byte _ => if_neg ?_
    rw [length_word32]
    omega

/-! ## Bodies -/

/-- An announcement is read from the bytes it is written as, and from no others. The reader is
followed field by field, in both directions. -/
theorem Announcement.read_eq_some_iff {body : Announcement} :
    read payload = some body ↔ payload = body.write := by
  obtain ⟨vin, address, eid, gid, action, status⟩ := body
  simp only [read, write, Option.bind_eq_bind, Option.bind_eq_some_iff, Prod.exists,
    Octets.read_eq_some_iff, readWord16_eq_some_iff, readByte_eq_some_iff, readTrailing_byte,
    Option.some.injEq, mk.injEq]
  constructor
  · rintro ⟨_, _, rfl, _, _, rfl, _, _, rfl, _, _, rfl, _, _, rfl, _, rfl, rfl, rfl, rfl, rfl,
      rfl, rfl⟩
    rfl
  · rintro rfl
    exact ⟨_, _, rfl, _, _, rfl, _, _, rfl, _, _, rfl, _, _, rfl, _, rfl, rfl, rfl, rfl, rfl, rfl,
      rfl⟩

/-- An activation request is read whatever its four reserved bytes hold, and all type codes that
mean the same type are read as it. -/
theorem ActivationRequest.read_eq_some_iff {body : ActivationRequest} :
    read payload = some body ↔ ∃ byte reserved, body.activationType = ActivationType.ofByte byte ∧
      payload = word16 body.sourceAddress ++ (byte :: (word32 reserved ++
        trailing Octets.toList body.oemSpecific)) := by
  obtain ⟨source, activation, oem⟩ := body
  simp only [read, Option.bind_eq_bind, Option.bind_eq_some_iff, Prod.exists,
    readWord16_eq_some_iff, readByte_eq_some_iff, readWord32_eq_some_iff, readTrailing_octets,
    Option.some.injEq, mk.injEq]
  constructor
  · rintro ⟨_, _, rfl, byte, _, rfl, reserved, _, rfl, _, rfl, rfl, rfl, rfl⟩
    exact ⟨byte, reserved, rfl, rfl⟩
  · rintro ⟨byte, reserved, rfl, rfl⟩
    exact ⟨_, _, rfl, _, _, rfl, _, _, rfl, _, rfl, rfl, rfl, rfl⟩

/-- An activation response is read whatever its reserved bytes hold; as in the request, codes that
are reserved are read as one. -/
theorem ActivationResponse.read_eq_some_iff {body : ActivationResponse} :
    read payload = some body ↔ ∃ byte reserved, body.code = ActivationCode.ofByte byte ∧
      payload = word16 body.testerAddress ++ (word16 body.entityAddress ++ (byte ::
        (word32 reserved ++ trailing Octets.toList body.oemSpecific))) := by
  obtain ⟨tester, entity, code, oem⟩ := body
  simp only [read, Option.bind_eq_bind, Option.bind_eq_some_iff, Prod.exists,
    readWord16_eq_some_iff, readByte_eq_some_iff, readWord32_eq_some_iff, readTrailing_octets,
    Option.some.injEq, mk.injEq]
  constructor
  · rintro ⟨_, _, rfl, _, _, rfl, byte, _, rfl, reserved, _, rfl, _, rfl, rfl, rfl, rfl, rfl⟩
    exact ⟨byte, reserved, rfl, rfl⟩
  · rintro ⟨byte, reserved, rfl, rfl⟩
    exact ⟨_, _, rfl, _, _, rfl, _, _, rfl, _, _, rfl, _, rfl, rfl, rfl, rfl, rfl⟩

/-- An entity status is read from the bytes it is written as, and from no others. The last field may
be missing, and then no byte is left for it. -/
theorem EntityStatus.read_eq_some_iff {body : EntityStatus} :
    read payload = some body ↔ payload = body.write := by
  obtain ⟨node, most, opened, size⟩ := body
  simp only [read, write, Option.bind_eq_bind, Option.bind_eq_some_iff, Prod.exists,
    readByte_eq_some_iff, readTrailing_word32, Option.some.injEq, mk.injEq]
  constructor
  · rintro ⟨_, _, rfl, _, _, rfl, _, _, rfl, _, rfl, rfl, rfl, rfl, rfl⟩
    rfl
  · rintro rfl
    exact ⟨_, _, rfl, _, _, rfl, _, _, rfl, _, rfl, rfl, rfl, rfl, rfl⟩

/-- A diagnostic message is read from the bytes it is written as, if there is at least one byte of
user data. -/
theorem Diagnostic.read_eq_some_iff {body : Diagnostic} :
    read payload = some body ↔ body.userData ≠ [] ∧ payload = body.write := by
  obtain ⟨source, target, data⟩ := body
  simp only [read, write, Option.bind_eq_bind, Option.bind_eq_some_iff, Prod.exists,
    readWord16_eq_some_iff]
  constructor
  · rintro ⟨_, _, rfl, _, rest, rfl, found⟩
    cases rest with
    | nil => cases found
    | cons first more =>
      cases found
      exact ⟨List.cons_ne_nil _ _, rfl⟩
  · rintro ⟨carries, rfl⟩
    obtain ⟨first, more, rfl⟩ := List.exists_cons_of_ne_nil carries
    exact ⟨_, _, rfl, _, _, rfl, rfl⟩

/-- An acknowledge is read from its two addresses, a byte for its code and whatever follows, the
beginning of the message it answers. -/
theorem Acknowledge.read_eq_some_iff {ofByte : UInt8 → code} {body : Acknowledge code} :
    read ofByte payload = some body ↔ ∃ byte, body.code = ofByte byte ∧
      payload = word16 body.sourceAddress ++ (word16 body.targetAddress ++
        (byte :: body.previousData)) := by
  obtain ⟨source, target, written, previous⟩ := body
  simp only [read, Option.bind_eq_bind, Option.bind_eq_some_iff, Prod.exists,
    readWord16_eq_some_iff, readByte_eq_some_iff, Option.some.injEq, mk.injEq]
  constructor
  · rintro ⟨_, _, rfl, _, _, rfl, byte, _, rfl, rfl, rfl, rfl, rfl⟩
    exact ⟨byte, rfl, rfl⟩
  · rintro ⟨byte, rfl, rfl⟩
    exact ⟨_, _, rfl, _, _, rfl, _, _, rfl, rfl, rfl, rfl, rfl⟩

/-! ## Bodies there and back -/

/-- A request that was written is read back, its type in canonical form: a reserved code does not
come back as the number it was. -/
theorem ActivationRequest.read_write (body : ActivationRequest) :
    read body.write =
      some { body with activationType := ActivationType.table.canonical body.activationType } :=
  read_eq_some_iff.mpr ⟨_, 0, (ActivationType.table.ofByte_toByte_eq_canonical _).symm, rfl⟩

/-- A response that was written is read back with its code in canonical form. -/
theorem ActivationResponse.read_write (body : ActivationResponse) :
    read body.write = some { body with code := ActivationCode.table.canonical body.code } :=
  read_eq_some_iff.mpr ⟨_, 0, (ActivationCode.table.ofByte_toByte_eq_canonical _).symm, rfl⟩

/-- A diagnostic message is read again if it carries user data. Without any it can be written, but
nobody reads it. -/
theorem Diagnostic.read_write (body : Diagnostic) :
    read body.write = if body.userData.isEmpty then none else some body := by
  split
  · rename_i empty
    rw [List.isEmpty_iff] at empty
    refine Option.eq_none_iff_forall_ne_some.mpr fun found read => ?_
    obtain ⟨carries, layout⟩ := read_eq_some_iff.mp read
    have same : body.userData = found.userData := by
      simp only [write, word16, List.cons_append, List.nil_append, List.cons.injEq] at layout
      exact layout.2.2.2.2
    exact carries (same ▸ empty)
  · rename_i carries
    rw [List.isEmpty_iff] at carries
    exact read_eq_some_iff.mpr ⟨carries, rfl⟩

/-- An acknowledge that was written is read back with its code in canonical form, for positive and
negative codes alike. -/
theorem Acknowledge.read_write [DecidableEq code] (table : CodeTable code)
    (body : Acknowledge code) :
    read table.ofByte (body.write table.toByte) =
      some { body with code := table.canonical body.code } :=
  read_eq_some_iff.mpr ⟨_, (table.ofByte_toByte_eq_canonical _).symm, rfl⟩

/-- What is written for a request that was read is its source with the reserved field cleared,
and its type is in canonical form. -/
theorem ActivationRequest.write_of_read {body : ActivationRequest}
    (found : read payload = some body) :
    ActivationType.table.canonical body.activationType = body.activationType ∧
      body.write = clearedFrom 3 payload := by
  obtain ⟨byte, reserved, means, rfl⟩ := read_eq_some_iff.mp found
  have written : body.activationType.toByte = byte := by
    rw [means]
    exact ActivationType.table.toByte_ofByte byte
  have cleared := clearedFrom_append (word16 body.sourceAddress ++ [byte]) reserved
    (trailing Octets.toList body.oemSpecific)
  constructor
  · rw [means]
    exact ActivationType.table.canonical_ofByte byte
  · simpa [write, written] using cleared.symm

/-- What is written for a response that was read is its source with the reserved field cleared,
and its code is in canonical form. -/
theorem ActivationResponse.write_of_read {body : ActivationResponse}
    (found : read payload = some body) :
    ActivationCode.table.canonical body.code = body.code ∧
      body.write = clearedFrom 5 payload := by
  obtain ⟨byte, reserved, means, rfl⟩ := read_eq_some_iff.mp found
  have written : body.code.toByte = byte := by
    rw [means]
    exact ActivationCode.table.toByte_ofByte byte
  have cleared := clearedFrom_append
    (word16 body.testerAddress ++ (word16 body.entityAddress ++ [byte])) reserved
    (trailing Octets.toList body.oemSpecific)
  constructor
  · rw [means]
    exact ActivationCode.table.canonical_ofByte byte
  · simpa [write, written] using cleared.symm

/-- What is written for an acknowledge that was read is its source, and its code is in canonical
form. -/
theorem Acknowledge.write_of_read [DecidableEq code] (table : CodeTable code)
    {body : Acknowledge code} (found : read table.ofByte payload = some body) :
    table.canonical body.code = body.code ∧ body.write table.toByte = payload := by
  obtain ⟨byte, means, layout⟩ := read_eq_some_iff.mp found
  rw [means, table.canonical_ofByte]
  refine ⟨rfl, ?_⟩
  rw [write, means, table.toByte_ofByte, layout]

end DiagnosticGateway.Wire
