/-!
# Code tables

Five fields of a message are one-byte codes with a table of meanings. A byte without a
meaning is kept as it is, and a reserved code is a value of its own: it can be built even
for a byte that has a meaning, and is then written as that byte but read back under its
meaning.
-/

namespace DiagnosticGateway.Wire

/-- Why a message was refused as a whole. -/
inductive GenericNackCode where
  | incorrectPatternFormat
  | unknownPayloadType
  | messageTooLarge
  | outOfMemory
  | invalidPayloadLength
  | reserved (byte : UInt8)
  deriving DecidableEq, Repr

/-- The kind of routing activation that a tester asks for. -/
inductive ActivationType where
  | default
  | wwhObd
  | centralSecurity
  | other (byte : UInt8)
  deriving DecidableEq, Repr

/-- The answer to a routing activation request. -/
inductive ActivationCode where
  | deniedUnknownSourceAddress
  | deniedAllSocketsRegistered
  | deniedDifferentSourceAddress
  | deniedSourceAddressActiveElsewhere
  | deniedMissingAuthentication
  | deniedRejectedConfirmation
  | deniedUnsupportedActivationType
  | deniedTlsRequired
  | success
  | successConfirmationRequired
  | reserved (byte : UInt8)
  deriving DecidableEq, Repr

/-- The code of a positive acknowledge of a diagnostic message. -/
inductive DiagnosticAckCode where
  | acknowledged
  | reserved (byte : UInt8)
  deriving DecidableEq, Repr

/-- The code of a negative acknowledge of a diagnostic message. -/
inductive DiagnosticNackCode where
  | invalidSourceAddress
  | unknownTargetAddress
  | messageTooLarge
  | outOfMemory
  | targetUnreachable
  | unknownNetwork
  | transportProtocolError
  | reserved (byte : UInt8)
  deriving DecidableEq, Repr

/-- The name of a code with a number, such as `Reserved(66)`. -/
def numberedName (family : String) (byte : UInt8) : String :=
  family ++ "(" ++ toString byte.toNat ++ ")"

namespace GenericNackCode

/-- The meaning of a byte. -/
def ofByte (byte : UInt8) : GenericNackCode :=
  match byte.toNat with
  | 0x00 => incorrectPatternFormat
  | 0x01 => unknownPayloadType
  | 0x02 => messageTooLarge
  | 0x03 => outOfMemory
  | 0x04 => invalidPayloadLength
  | _ => reserved byte

/-- The byte of a code. -/
def toByte : GenericNackCode → UInt8
  | incorrectPatternFormat => 0x00
  | unknownPayloadType => 0x01
  | messageTooLarge => 0x02
  | outOfMemory => 0x03
  | invalidPayloadLength => 0x04
  | reserved byte => byte

/-- The name of a code. -/
def name : GenericNackCode → String
  | incorrectPatternFormat => "IncorrectPatternFormat"
  | unknownPayloadType => "UnknownPayloadType"
  | messageTooLarge => "MessageTooLarge"
  | outOfMemory => "OutOfMemory"
  | invalidPayloadLength => "InvalidPayloadLength"
  | reserved byte => numberedName "Reserved" byte

end GenericNackCode

namespace ActivationType

/-- The meaning of a byte. -/
def ofByte (byte : UInt8) : ActivationType :=
  match byte.toNat with
  | 0x00 => default
  | 0x01 => wwhObd
  | 0xE0 => centralSecurity
  | _ => other byte

/-- The byte of an activation type. -/
def toByte : ActivationType → UInt8
  | default => 0x00
  | wwhObd => 0x01
  | centralSecurity => 0xE0
  | other byte => byte

/-- The name of an activation type. -/
def name : ActivationType → String
  | default => "Default"
  | wwhObd => "WwhObd"
  | centralSecurity => "CentralSecurity"
  | other byte => numberedName "Other" byte

/-- The gateway activates routing for these types only. -/
def isSupported : ActivationType → Bool
  | default => true
  | wwhObd => true
  | _ => false

end ActivationType

namespace ActivationCode

/-- The meaning of a byte. -/
def ofByte (byte : UInt8) : ActivationCode :=
  match byte.toNat with
  | 0x00 => deniedUnknownSourceAddress
  | 0x01 => deniedAllSocketsRegistered
  | 0x02 => deniedDifferentSourceAddress
  | 0x03 => deniedSourceAddressActiveElsewhere
  | 0x04 => deniedMissingAuthentication
  | 0x05 => deniedRejectedConfirmation
  | 0x06 => deniedUnsupportedActivationType
  | 0x07 => deniedTlsRequired
  | 0x10 => success
  | 0x11 => successConfirmationRequired
  | _ => reserved byte

/-- The byte of a code. -/
def toByte : ActivationCode → UInt8
  | deniedUnknownSourceAddress => 0x00
  | deniedAllSocketsRegistered => 0x01
  | deniedDifferentSourceAddress => 0x02
  | deniedSourceAddressActiveElsewhere => 0x03
  | deniedMissingAuthentication => 0x04
  | deniedRejectedConfirmation => 0x05
  | deniedUnsupportedActivationType => 0x06
  | deniedTlsRequired => 0x07
  | success => 0x10
  | successConfirmationRequired => 0x11
  | reserved byte => byte

/-- The name of a code. -/
def name : ActivationCode → String
  | deniedUnknownSourceAddress => "DeniedUnknownSourceAddress"
  | deniedAllSocketsRegistered => "DeniedAllSocketsRegistered"
  | deniedDifferentSourceAddress => "DeniedDifferentSourceAddress"
  | deniedSourceAddressActiveElsewhere => "DeniedSourceAddressActiveElsewhere"
  | deniedMissingAuthentication => "DeniedMissingAuthentication"
  | deniedRejectedConfirmation => "DeniedRejectedConfirmation"
  | deniedUnsupportedActivationType => "DeniedUnsupportedActivationType"
  | deniedTlsRequired => "DeniedTlsRequired"
  | success => "Success"
  | successConfirmationRequired => "SuccessConfirmationRequired"
  | reserved byte => numberedName "Reserved" byte

/-- Whether the socket stays open after an answer with this code. -/
def keepsSocketOpen : ActivationCode → Bool
  | success => true
  | successConfirmationRequired => true
  | _ => false

end ActivationCode

namespace DiagnosticAckCode

/-- The meaning of a byte. -/
def ofByte (byte : UInt8) : DiagnosticAckCode :=
  match byte.toNat with
  | 0x00 => acknowledged
  | _ => reserved byte

/-- The byte of a code. -/
def toByte : DiagnosticAckCode → UInt8
  | acknowledged => 0x00
  | reserved byte => byte

/-- The name of a code. -/
def name : DiagnosticAckCode → String
  | acknowledged => "Acknowledged"
  | reserved byte => numberedName "Reserved" byte

end DiagnosticAckCode

namespace DiagnosticNackCode

/-- The meaning of a byte. -/
def ofByte (byte : UInt8) : DiagnosticNackCode :=
  match byte.toNat with
  | 0x02 => invalidSourceAddress
  | 0x03 => unknownTargetAddress
  | 0x04 => messageTooLarge
  | 0x05 => outOfMemory
  | 0x06 => targetUnreachable
  | 0x07 => unknownNetwork
  | 0x08 => transportProtocolError
  | _ => reserved byte

/-- The byte of a code. -/
def toByte : DiagnosticNackCode → UInt8
  | invalidSourceAddress => 0x02
  | unknownTargetAddress => 0x03
  | messageTooLarge => 0x04
  | outOfMemory => 0x05
  | targetUnreachable => 0x06
  | unknownNetwork => 0x07
  | transportProtocolError => 0x08
  | reserved byte => byte

/-- The name of a code. -/
def name : DiagnosticNackCode → String
  | invalidSourceAddress => "InvalidSourceAddress"
  | unknownTargetAddress => "UnknownTargetAddress"
  | messageTooLarge => "MessageTooLarge"
  | outOfMemory => "OutOfMemory"
  | targetUnreachable => "TargetUnreachable"
  | unknownNetwork => "UnknownNetwork"
  | transportProtocolError => "TransportProtocolError"
  | reserved byte => numberedName "Reserved" byte

end DiagnosticNackCode

end DiagnosticGateway.Wire
