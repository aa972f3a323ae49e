import DiagnosticGateway.Bytes
import DiagnosticGateway.Net.Ip
import DiagnosticGateway.Net.SystemFault

/-!
# The network of a machine

The part of the operating system that gateways deal with: which sockets are bound and which
datagrams were sent. Every call can fail. A list of outcomes decides about the coming calls
of a kind, one entry for each; a call without an entry takes its course.

A port of zero asks for a free one, and these are given out in ascending order. Two sockets
of one protocol cannot share a port unless their addresses are different ones of the machine.
-/

namespace DiagnosticGateway.Net

/-- The protocol of a socket. -/
inductive Protocol where
  | tcp
  | udp
  deriving DecidableEq, Repr

/-- A bound socket. -/
structure Binding where
  protocol : Protocol
  endpoint : Endpoint
  deriving DecidableEq

/-- A datagram on its way. -/
structure Datagram where
  source : Endpoint
  target : Endpoint
  bytes : Bytes
  deriving DecidableEq

/-- The outcomes of the coming calls of one kind: a fault, or none. -/
abbrev Outcomes := List (Option SystemFault)

/-- The network as far as it concerns gateways. -/
structure Network where
  bound : List Binding
  /-- The next port that is given out. -/
  nextPort : Nat
  /-- The datagrams that were sent, oldest first. -/
  sent : List Datagram
  bindOutcomes : Outcomes
  broadcastOutcomes : Outcomes
  joinOutcomes : Outcomes
  addressOutcomes : Outcomes
  sendOutcomes : Outcomes
  deriving DecidableEq

namespace Network

/-- A network without sockets. -/
def new : Network where
  bound := []
  nextPort := 40001
  sent := []
  bindOutcomes := []
  broadcastOutcomes := []
  joinOutcomes := []
  addressOutcomes := []
  sendOutcomes := []

/-- Whether two addresses of one machine can belong to the same socket. -/
def overlap (first second : Ip) : Bool :=
  first == second || first.isUnspecified || second.isUnspecified

/-- Whether a socket of the protocol occupies an endpoint. -/
def isBound (protocol : Protocol) (endpoint : Endpoint) (network : Network) : Bool :=
  network.bound.any fun binding =>
    binding.protocol == protocol && binding.endpoint.port == endpoint.port &&
      overlap binding.endpoint.ip endpoint.ip

/-- Choose a port where none is asked for. -/
def choosePort (endpoint : Endpoint) (network : Network) : Endpoint × Network :=
  if endpoint.port = 0 then
    ({ endpoint with port := UInt16.ofNat network.nextPort },
      { network with nextPort := network.nextPort + 1 })
  else
    (endpoint, network)

/-- Bind a socket. A port that was given out stays used up even if binding then fails. -/
def bind (protocol : Protocol) (endpoint : Endpoint) (network : Network) :
    Except SystemFault Endpoint × Network :=
  let later := { network with bindOutcomes := network.bindOutcomes.tail }
  match network.bindOutcomes.head?.join with
  | some fault => (.error fault, later)
  | none =>
    let (chosen, later) := later.choosePort endpoint
    if later.isBound protocol chosen then (.error .addressInUse, later)
    else (.ok chosen, { later with bound := later.bound ++ [⟨protocol, chosen⟩] })

/-- Close a bound socket. -/
def release (protocol : Protocol) (endpoint : Endpoint) (network : Network) : Network :=
  { network with bound := network.bound.erase ⟨protocol, endpoint⟩ }

/-- Allow a socket to send to all stations. -/
def allowBroadcast (network : Network) : Option SystemFault × Network :=
  (network.broadcastOutcomes.head?.join,
    { network with broadcastOutcomes := network.broadcastOutcomes.tail })

/-- Have a socket join a group. Only a multicast address names a group. -/
def join (group : Ipv4) (network : Network) : Option SystemFault × Network :=
  let later := { network with joinOutcomes := network.joinOutcomes.tail }
  match network.joinOutcomes.head?.join with
  | some fault => (some fault, later)
  | none => (if group.isMulticast then none else some .invalidArgument, later)

/-- Ask for the address of a bound socket. -/
def address (network : Network) : Option SystemFault × Network :=
  (network.addressOutcomes.head?.join,
    { network with addressOutcomes := network.addressOutcomes.tail })

/-- Send a datagram. Nothing is said of its arrival. -/
def send (datagram : Datagram) (network : Network) : Option SystemFault × Network :=
  let later := { network with sendOutcomes := network.sendOutcomes.tail }
  match network.sendOutcomes.head?.join with
  | some fault => (some fault, later)
  | none => (none, { later with sent := later.sent ++ [datagram] })

end Network

end DiagnosticGateway.Net
