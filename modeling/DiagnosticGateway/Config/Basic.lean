import DiagnosticGateway.Config.Fault
import DiagnosticGateway.Connection.Basic
import DiagnosticGateway.Ecu.Basic
import DiagnosticGateway.Net.Ip

/-!
# Configuration

The configuration of a gateway and of the ECUs behind it, with identification numbers still
in their textual form. Numbers have the width that the configuration allows them.
-/

namespace DiagnosticGateway

/-- The configuration of one ECU. -/
structure EcuConfig where
  name : String
  physicalAddress : UInt16
  functionalAddress : UInt16
  /-- The lines of the lookup table, in order. -/
  lookup : List Ecu.LookupRule
  deriving DecidableEq, Repr

/-- The configuration of a gateway. -/
structure GatewayConfig where
  name : String
  /-- Where sockets are bound. -/
  localAddress : Net.Ip
  /-- The port to bind; zero leaves the choice to the system. -/
  localPort : UInt16
  /-- Where startup announcements go. -/
  broadcastAddress : Net.Ipv4
  broadcastEnable : Bool
  announcePort : UInt16
  /-- The group that the datagram socket joins. -/
  multicastAddress : Option Net.Ipv4
  logicalAddress : UInt16
  eid : String
  gid : String
  vin : String
  maxRegisteredConnections : Nat
  maxSockets : UInt8
  maxDataSize : UInt32
  initialInactivityTime : Milliseconds
  generalInactivityTime : Milliseconds
  maxLogging : Nat
  maxLookup : Nat
  ecus : List EcuConfig
  deriving DecidableEq

/-- How long connections may stay silent. -/
def GatewayConfig.timings (config : GatewayConfig) : Timings :=
  ⟨config.initialInactivityTime, config.generalInactivityTime⟩

/-- Values that a configuration has unless it says otherwise. -/
def GatewayConfig.defaultPort : UInt16 := 13400

/-- The configuration of a demonstration gateway, whose one ECU answers the request for the
identification number, a session request and the presence of a tester. -/
def GatewayConfig.demo : GatewayConfig where
  name := "gateway"
  localAddress := .v4 .unspecified
  localPort := GatewayConfig.defaultPort
  broadcastAddress := .broadcast
  broadcastEnable := false
  announcePort := GatewayConfig.defaultPort
  multicastAddress := none
  logicalAddress := 0x0010
  eid := "102030405060"
  gid := "102030405060"
  vin := "WVWZZZ1JZ3W386752"
  maxRegisteredConnections := 1
  maxSockets := 255
  maxDataSize := 65536
  initialInactivityTime := 2000
  generalInactivityTime := 300000
  maxLogging := 64
  maxLookup := 64
  ecus := [
    { name := "engine"
      physicalAddress := 0x0001
      functionalAddress := 0xE400
      lookup := [
        ⟨"22F190", "62F190" ++ Text.Hex.upper (Bytes.ofText "WVWZZZ1JZ3W386752")⟩,
        ⟨"1001", "5001003201F4"⟩,
        ⟨"3E00", "7E00"⟩] }]

namespace EcuConfig

/-- The lookup table of an ECU. A fault is reported with the name of the ECU and the text of
the line. -/
def lookupTable (library : Pattern.Library) (config : EcuConfig) :
    Except ConfigFault Ecu.LookupTable :=
  match Ecu.LookupTable.ofRules library config.lookup with
  | .ok table => .ok table
  | .error (rule, fault) => .error (.invalidLookup config.name rule.request fault)

/-- The ECU of a configuration. -/
def build (library : Pattern.Library) (maxLookup maxLogging : Nat) (config : EcuConfig) :
    Except ConfigFault Ecu :=
  match config.lookupTable library with
  | .error fault => .error fault
  | .ok table =>
    .ok (.new config.name config.physicalAddress config.functionalAddress table maxLookup maxLogging)

end EcuConfig

/-- The ECUs of a configuration. The first ECU whose table cannot be read is reported. -/
def GatewayConfig.buildEcus (library : Pattern.Library) (config : GatewayConfig) :
    Except ConfigFault (List Ecu) :=
  config.ecus.mapM (EcuConfig.build library config.maxLookup config.maxLogging)

end DiagnosticGateway
