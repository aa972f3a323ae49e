import DiagnosticGateway.Config.Basic
import DiagnosticGateway.Wire.Octets

/-!
# Validation of a configuration

A configuration is usable if the gateway has a name, its identification numbers denote the
right number of bytes, no limit is zero, and every ECU has a name and a lookup table that
can be read. The first condition that fails, in this order, is reported.
-/

namespace DiagnosticGateway

/-- The identification of a vehicle. -/
structure VehicleIdentity where
  vin : Wire.Octets 17
  eid : Wire.Octets 6
  gid : Wire.Octets 6
  logicalAddress : UInt16
  deriving DecidableEq

/-- Read a vehicle identification number: seventeen ASCII characters. The characters are looked at
before their number. -/
def readVin (text : String) : Except ConfigFault (Wire.Octets 17) :=
  if text.toList.all fun char => char.toNat < 0x80 then
    let bytes := Bytes.ofText text
    match Wire.Octets.ofList? 17 bytes with
    | some vin => .ok vin
    | none => .error (.invalidIdentifier "vin" (.wrongCharacters bytes.length))
  else
    .error (.invalidIdentifier "vin" .notAscii)

/-- Whether a character may stand between the digits of an identification number. -/
def isSeparator (char : Char) : Bool :=
  Text.isBlank char || char == ':' || char == '-'

/-- Read an identification number of six bytes, with separators anywhere. The digits are read before
their number is looked at, so an odd number of them is reported as such. -/
def readIdentifier (field text : String) : Except ConfigFault (Wire.Octets 6) :=
  let digits := String.ofList (text.toList.filter fun char => !isSeparator char)
  match Text.Hex.decode digits with
  | .error fault => .error (.invalidIdentifier field (.notHex fault))
  | .ok bytes =>
    match Wire.Octets.ofList? 6 bytes with
    | some identifier => .ok identifier
    | none => .error (.invalidIdentifier field (.wrongBytes bytes.length))

namespace GatewayConfig

/-- The identification that a configuration gives. The texts are read in a fixed order, and the
first that cannot be read is reported. -/
def identity (config : GatewayConfig) : Except ConfigFault VehicleIdentity := do
  let vin ← readVin config.vin
  let eid ← readIdentifier "eid" config.eid
  let gid ← readIdentifier "gid" config.gid
  return ⟨vin, eid, gid, config.logicalAddress⟩

/-- Check ECUs in order, the first of which stands at `index`. Of each one the name is looked at
before the table. -/
def validateEcus (library : Pattern.Library) :
    (index : Nat) → List EcuConfig → Except ConfigFault Unit
  | _, [] => .ok ()
  | index, ecu :: rest => do
    if Text.isAllBlank ecu.name then
      throw (.unnamedEcu index)
    discard (ecu.lookupTable library)
    validateEcus library (index + 1) rest

/-- Check a configuration. The conditions are tried in order, and nothing but the first that fails
is reported. -/
def validate (library : Pattern.Library) (config : GatewayConfig) : Except ConfigFault Unit := do
  if Text.isAllBlank config.name then
    throw .emptyName
  discard config.identity
  if config.maxRegisteredConnections = 0 then
    throw .noRegisteredConnections
  if config.initialInactivityTime = 0 then
    throw (.zeroDuration "initial_inactivity_time_ms")
  if config.generalInactivityTime = 0 then
    throw (.zeroDuration "general_inactivity_time_ms")
  validateEcus library 0 config.ecus

end GatewayConfig

end DiagnosticGateway
