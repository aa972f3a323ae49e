import DiagnosticGateway.Wire.Code

/-!
# Tables of codes

A table gives every byte a meaning and every code a byte. The two sides agree on each byte, and
on each code that has a name. A reserved code is the exception: it can be built for a byte that
has a name, and then the meaning of its byte is not the code itself. The canonical form of a code
is what its byte means.
-/

namespace DiagnosticGateway.Wire

/-- A table of one-byte codes. What is proved of it holds for all codes of the protocol. -/
structure CodeTable (code : Type) where
  /-- The meaning of a byte. -/
  ofByte : UInt8 → code
  /-- The byte of a code. -/
  toByte : code → UInt8
  /-- The code that keeps a byte as it is. -/
  reserved : UInt8 → code
  toByte_ofByte : ∀ byte, toByte (ofByte byte) = byte
  toByte_reserved : ∀ byte, toByte (reserved byte) = byte
  /-- A code that is not reserved is the meaning of its byte. -/
  ofByte_toByte : ∀ code, (∀ byte, code ≠ reserved byte) → ofByte (toByte code) = code

namespace CodeTable

variable {code : Type} (table : CodeTable code)

/-- A byte has a name if it is the byte of a code that is not reserved. -/
def Named (byte : UInt8) : Prop :=
  ∃ named, table.toByte named = byte ∧ ∀ other, named ≠ table.reserved other

/-- A code is veiled if it is reserved although its byte has a name. -/
def Veiled (written : code) : Prop :=
  ∃ byte, written = table.reserved byte ∧ table.Named byte

/-- A reserved code gives way to the meaning of its byte, and any other code stays. -/
def canonical [DecidableEq code] (written : code) : code :=
  if written = table.reserved (table.toByte written) then table.ofByte (table.toByte written)
  else written

/-- The meaning of a byte is its reserved code exactly if the byte has no name. Two codes that are
reserved for different bytes are different. -/
theorem ofByte_eq_reserved_iff (byte : UInt8) :
    table.ofByte byte = table.reserved byte ↔ ¬ table.Named byte := by
  constructor
  · rintro unnamed ⟨named, rfl, other⟩
    exact other _ ((table.ofByte_toByte named other).symm.trans unnamed)
  · intro unnamed
    refine Classical.byContradiction fun named => unnamed ⟨_, table.toByte_ofByte byte, ?_⟩
    intro other reserved
    have same : byte = other := by
      rw [← table.toByte_ofByte byte, reserved, table.toByte_reserved]
    exact named (same ▸ reserved)

variable [DecidableEq code]

/-- What is read for a code that was written is its canonical form. -/
theorem ofByte_toByte_eq_canonical (written : code) :
    table.ofByte (table.toByte written) = table.canonical written := by
  unfold canonical
  split
  · rfl
  · rename_i other
    refine table.ofByte_toByte written ?_
    rintro byte rfl
    exact other (by rw [table.toByte_reserved])

/-- A code is its own canonical form unless it is veiled. A veiled code is one that the reader of
its byte would have named. -/
theorem canonical_eq_self_iff (written : code) :
    table.canonical written = written ↔ ¬ table.Veiled written := by
  constructor
  · rintro same ⟨byte, rfl, named⟩
    rw [← table.ofByte_toByte_eq_canonical, table.toByte_reserved] at same
    exact (table.ofByte_eq_reserved_iff byte).mp same named
  · intro unveiled
    unfold canonical
    split
    · rename_i reserved
      rw [(table.ofByte_eq_reserved_iff _).mpr fun named => unveiled ⟨_, reserved, named⟩]
      exact reserved.symm
    · rfl

/-- The meaning of a byte is in canonical form. -/
@[simp] theorem canonical_ofByte (byte : UInt8) :
    table.canonical (table.ofByte byte) = table.ofByte byte := by
  rw [← table.ofByte_toByte_eq_canonical, table.toByte_ofByte]

end CodeTable

/-- The table of header refusals. Its bytes are those of the header faults. -/
def GenericNackCode.table : CodeTable GenericNackCode where
  ofByte := ofByte
  toByte := toByte
  reserved := reserved
  toByte_ofByte byte := by
    unfold ofByte
    split <;> first | rfl | exact UInt8.toNat_inj.mp (Eq.symm ‹_›)
  toByte_reserved _ := rfl
  ofByte_toByte code other := by
    cases code with
    | reserved byte => exact absurd rfl (other byte)
    | _ => rfl

/-- The table of activation types. What has no name is kept as another type. -/
def ActivationType.table : CodeTable ActivationType where
  ofByte := ofByte
  toByte := toByte
  reserved := other
  toByte_ofByte byte := by
    unfold ofByte
    split <;> first | rfl | exact UInt8.toNat_inj.mp (Eq.symm ‹_›)
  toByte_reserved _ := rfl
  ofByte_toByte code different := by
    cases code with
    | other byte => exact absurd rfl (different byte)
    | _ => rfl

/-- The table of activation answers. Denials and grants are in one table. -/
def ActivationCode.table : CodeTable ActivationCode where
  ofByte := ofByte
  toByte := toByte
  reserved := reserved
  toByte_ofByte byte := by
    unfold ofByte
    split <;> first | rfl | exact UInt8.toNat_inj.mp (Eq.symm ‹_›)
  toByte_reserved _ := rfl
  ofByte_toByte code other := by
    cases code with
    | reserved byte => exact absurd rfl (other byte)
    | _ => rfl

/-- The table of positive acknowledges. Only one byte has a name. -/
def DiagnosticAckCode.table : CodeTable DiagnosticAckCode where
  ofByte := ofByte
  toByte := toByte
  reserved := reserved
  toByte_ofByte byte := by
    unfold ofByte
    split <;> first | rfl | exact UInt8.toNat_inj.mp (Eq.symm ‹_›)
  toByte_reserved _ := rfl
  ofByte_toByte code other := by
    cases code with
    | reserved byte => exact absurd rfl (other byte)
    | _ => rfl

/-- The table of negative acknowledges. Its bytes say why a diagnostic message was not taken. -/
def DiagnosticNackCode.table : CodeTable DiagnosticNackCode where
  ofByte := ofByte
  toByte := toByte
  reserved := reserved
  toByte_ofByte byte := by
    unfold ofByte
    split <;> first | rfl | exact UInt8.toNat_inj.mp (Eq.symm ‹_›)
  toByte_reserved _ := rfl
  ofByte_toByte code other := by
    cases code with
    | reserved byte => exact absurd rfl (other byte)
    | _ => rfl

end DiagnosticGateway.Wire
