import DiagnosticGateway.Ecu.Lookup
import DiagnosticGateway.Net.SystemFault

/-!
# Faults of a configuration

What can be wrong with a configuration, in the order in which it is found: the file, its
text, and then the values. Each fault says what is wrong, and its wording is decided here.
-/

namespace DiagnosticGateway

/-- Why a file cannot be read as text. -/
inductive FileFault where
  | system (fault : Net.SystemFault)
  /-- The path holds the character with the number zero. -/
  | nulInPath
  /-- The bytes are not UTF-8. -/
  | notText
  deriving DecidableEq, Repr

/-- The wording of a file's fault. -/
def FileFault.message : FileFault → String
  | system fault => fault.message
  | nulInPath => "file name contained an unexpected NUL byte"
  | notText => "stream did not contain valid UTF-8"

/-- Why a text is not an identification number. -/
inductive IdentifierFault where
  | notAscii
  | wrongCharacters (found : Nat)
  | notHex (fault : Text.Hex.Fault)
  | wrongBytes (found : Nat)
  deriving DecidableEq, Repr

/-- The wording of an identification number's fault. -/
def IdentifierFault.message : IdentifierFault → String
  | notAscii => "must be ASCII"
  | wrongCharacters found => "expected 17 characters, got " ++ toString found
  | notHex fault => fault.message
  | wrongBytes found => "expected 6 bytes, got " ++ toString found

/-- What is wrong with a configuration. -/
inductive ConfigFault where
  | unreadable (path : String) (fault : FileFault)
  /-- The text is no configuration. -/
  | unparsable
  | emptyName
  | invalidIdentifier (field : String) (fault : IdentifierFault)
  | noRegisteredConnections
  | zeroDuration (field : String)
  /-- The ECU at this place has no name. -/
  | unnamedEcu (index : Nat)
  | invalidLookup (ecu entry : String) (fault : Ecu.LookupFault)
  deriving DecidableEq, Repr

/-- The wording of a configuration's fault. -/
def ConfigFault.message : ConfigFault → String
  | unreadable path fault => "Failed to read config file " ++ path ++ ": " ++ fault.message
  | unparsable => "Failed to parse config"
  | emptyName => "Gateway name must not be empty"
  | invalidIdentifier field fault => "Invalid " ++ field ++ ": " ++ fault.message
  | noRegisteredConnections => "max_registered_connections must be at least 1"
  | zeroDuration field => field ++ " must be greater than zero"
  | unnamedEcu index => "ECU #" ++ toString index ++ " has no name"
  | invalidLookup ecu entry fault =>
    "ECU " ++ ecu ++ ": invalid lookup entry '" ++ entry ++ "': " ++ fault.message

end DiagnosticGateway
