import DiagnosticGateway.Wire.Word

/-!
# Byte fields of fixed size

Identification numbers travel as fields of a fixed number of bytes. A field carries its
length in its type, so a message can only be built from fields of the right size and a
reader fails exactly when too few bytes are left.
-/

namespace DiagnosticGateway.Wire

/-- A field of exactly `size` bytes. -/
structure Octets (size : Nat) where
  /-- The bytes, in wire order. -/
  toList : Bytes
  /-- The field has its size. -/
  length_eq : toList.length = size
  deriving DecidableEq

namespace Octets

variable {size : Nat}

@[simp] theorem length_toList (field : Octets size) : field.toList.length = size :=
  field.length_eq

/-- Two fields with the same bytes are the same field. -/
@[ext] theorem ext {left right : Octets size} (same : left.toList = right.toList) :
    left = right := by
  cases left
  cases right
  cases same
  rfl

/-- The field with exactly these bytes, if their number is right. -/
def ofList? (size : Nat) (bytes : Bytes) : Option (Octets size) :=
  if exact : bytes.length = size then some ⟨bytes, exact⟩ else none

/-- Read a field from the front of a string of bytes. -/
def read (size : Nat) (bytes : Bytes) : Option (Octets size × Bytes) :=
  if enough : size ≤ bytes.length then
    some (⟨bytes.take size, by simp [List.length_take, Nat.min_eq_left enough]⟩, bytes.drop size)
  else
    none

@[simp] theorem ofList?_toList (field : Octets size) :
    ofList? size field.toList = some field := by
  simp [ofList?]

@[simp] theorem read_append (field : Octets size) (rest : Bytes) :
    read size (field.toList ++ rest) = some (field, rest) := by
  have exact := field.length_eq
  have enough : size ≤ (field.toList ++ rest).length := by simp
  simp only [read, enough, ↓reduceDIte, Option.some.injEq, Prod.mk.injEq]
  constructor
  · ext1
    simp [exact]
  · simp [exact]

/-- A field is read exactly from a string that begins with its bytes. -/
theorem read_eq_some_iff {bytes rest : Bytes} {field : Octets size} :
    read size bytes = some (field, rest) ↔ bytes = field.toList ++ rest := by
  constructor
  · intro found
    simp only [read] at found
    split at found
    · simp only [Option.some.injEq, Prod.mk.injEq] at found
      obtain ⟨rfl, rfl⟩ := found
      simp
    · simp at found
  · rintro rfl
    simp

end Octets

end DiagnosticGateway.Wire
