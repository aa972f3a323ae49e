import DiagnosticGateway.Config.Validation
import DiagnosticGateway.Net.IpText
import DiagnosticGateway.Toml.Reading

/-!
# Configurations from texts

The table of a text becomes a configuration field by field. A field without a default must
be there, a value must be of its field's kind and in its range, and names that no field has
are ignored. An ECU and a rule may also be written as an array of their fields in order, of
which those with a default may be missing at the end.

How a table is read from a text and how its values become fields is up to libraries of the
gateway, for which the reader here stands in. What is proved begins with the configuration that
comes out.
-/

namespace DiagnosticGateway

namespace Toml.Value

/-- The value as a text. -/
def asString? : Value → Option String
  | string text => some text
  | _ => none

/-- The value as a truth value. -/
def asBoolean? : Value → Option Bool
  | boolean truth => some truth
  | _ => none

/-- The value as a number below a bound. -/
def asBelow? (bound : Nat) : Value → Option Nat
  | integer number => if 0 ≤ number && number < bound then some number.toNat else none
  | _ => none

/-- The value as a number of 8 bits. -/
def asUInt8? (value : Value) : Option UInt8 :=
  (value.asBelow? UInt8.size).map UInt8.ofNat

/-- The value as a number of 16 bits. -/
def asUInt16? (value : Value) : Option UInt16 :=
  (value.asBelow? UInt16.size).map UInt16.ofNat

/-- The value as a number of 32 bits. -/
def asUInt32? (value : Value) : Option UInt32 :=
  (value.asBelow? UInt32.size).map UInt32.ofNat

/-- The value as a number of 64 bits. -/
def asCount? (value : Value) : Option Nat :=
  value.asBelow? UInt64.size

/-- The value as the text of an address. -/
def asIp? (value : Value) : Option Net.Ip :=
  value.asString?.bind Net.IpText.ip?

/-- The value as the text of a version 4 address. -/
def asIpv4? (value : Value) : Option Net.Ipv4 :=
  value.asString?.bind Net.IpText.ipv4?

/-- The value as a list, given how to take an item. -/
def asList? {item : Type} (take : Value → Option item) : Value → Option (List item)
  | array items => items.mapM take
  | tables items => (items.map (Value.table .header)).mapM take
  | _ => none

/-- The fields of a value that is a table with these names, or the array of their values. -/
def asFields? (names : List String) : Value → Option Entries
  | table _ entries => some entries
  | array items => some (names.zip items)
  | _ => none

end Toml.Value

namespace Toml.Entries

/-- A field without a default. -/
def required {item : Type} (entries : Entries) (name : String) (take : Value → Option item) :
    Option item :=
  (entries.find? name).bind take

/-- A field with a default. -/
def optional {item : Type} (entries : Entries) (name : String) (take : Value → Option item)
    (default : item) : Option item :=
  match entries.find? name with
  | some value => take value
  | none => some default

end Toml.Entries

/-- The rule that a value denotes. -/
def Ecu.LookupRule.ofToml? (value : Toml.Value) : Option Ecu.LookupRule := do
  let fields ← value.asFields? ["request", "response"]
  let request ← fields.required "request" (·.asString?)
  let response ← fields.required "response" (·.asString?)
  return ⟨request, response⟩

/-- The configuration of an ECU that a value denotes. -/
def EcuConfig.ofToml? (value : Toml.Value) : Option EcuConfig := do
  let fields ← value.asFields? ["name", "physical_address", "functional_address", "lookup"]
  let name ← fields.required "name" (·.asString?)
  let physicalAddress ← fields.required "physical_address" (·.asUInt16?)
  let functionalAddress ← fields.required "functional_address" (·.asUInt16?)
  let lookup ← fields.optional "lookup" (·.asList? Ecu.LookupRule.ofToml?) []
  return { name, physicalAddress, functionalAddress, lookup }

namespace GatewayConfig

/-- The configuration that a table denotes. -/
def ofToml? (fields : Toml.Entries) : Option GatewayConfig := do
  let name ← fields.required "name" (·.asString?)
  let localAddress ← fields.optional "local_address" (·.asIp?) demo.localAddress
  let localPort ← fields.optional "local_port" (·.asUInt16?) demo.localPort
  let broadcastAddress ←
    fields.optional "broadcast_address" (·.asIpv4?) demo.broadcastAddress
  let broadcastEnable ←
    fields.optional "broadcast_enable" (·.asBoolean?) demo.broadcastEnable
  let announcePort ← fields.optional "announce_port" (·.asUInt16?) demo.announcePort
  let multicastAddress ←
    fields.optional "multicast_address" (fun value => value.asIpv4?.map some) none
  let logicalAddress ← fields.required "logical_address" (·.asUInt16?)
  let eid ← fields.required "eid" (·.asString?)
  let gid ← fields.required "gid" (·.asString?)
  let vin ← fields.required "vin" (·.asString?)
  let maxRegisteredConnections ←
    fields.optional "max_registered_connections" (·.asCount?) demo.maxRegisteredConnections
  let maxSockets ← fields.optional "max_sockets" (·.asUInt8?) demo.maxSockets
  let maxDataSize ← fields.optional "max_data_size" (·.asUInt32?) demo.maxDataSize
  let initialInactivityTime ←
    fields.optional "initial_inactivity_time_ms" (·.asCount?) demo.initialInactivityTime
  let generalInactivityTime ←
    fields.optional "general_inactivity_time_ms" (·.asCount?) demo.generalInactivityTime
  let maxLogging ← fields.optional "max_byte_array_size_logging" (·.asCount?) demo.maxLogging
  let maxLookup ← fields.optional "max_byte_array_size_lookup" (·.asCount?) demo.maxLookup
  let ecus ← fields.optional "ecus" (·.asList? EcuConfig.ofToml?) []
  return {
    name, localAddress, localPort, broadcastAddress, broadcastEnable, announcePort,
    multicastAddress, logicalAddress, eid, gid, vin, maxRegisteredConnections, maxSockets,
    maxDataSize, initialInactivityTime, generalInactivityTime, maxLogging, maxLookup, ecus }

/-- The configuration that a text denotes, if it is usable. -/
def ofText (library : Pattern.Library) (text : String) : Except ConfigFault GatewayConfig :=
  match (Toml.read? text).bind ofToml? with
  | none => .error .unparsable
  | some config =>
    match config.validate library with
    | .error fault => .error fault
    | .ok _ => .ok config

/-- The configuration in a file with the given outcome of reading it. -/
def ofFile (library : Pattern.Library) (path : String) (content : Except FileFault String) :
    Except ConfigFault GatewayConfig :=
  match content with
  | .error fault => .error (.unreadable path fault)
  | .ok text => ofText library text

end GatewayConfig

end DiagnosticGateway
