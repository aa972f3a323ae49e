/-!
# Internet addresses

Addresses of both versions with their usual text. Version 4 is four decimal bytes. Version 6
is eight hexadecimal groups; the longest run of at least two zero groups is written as two
colons, the first one of several equally long runs, and an address that embeds a version 4
address is written with that address at its end.

Reading is strict: no blanks, no leading zeros in a decimal byte, at most four digits in a
group, and two colons stand for at least one group.
-/

namespace DiagnosticGateway.Net

/-- A version 4 address. -/
structure Ipv4 where
  first : UInt8
  second : UInt8
  third : UInt8
  fourth : UInt8
  deriving DecidableEq, Repr

/-- A version 6 address: eight groups of 16 bits. -/
structure Ipv6 where
  /-- The groups, most significant first. -/
  groups : List UInt16
  /-- There are eight of them. -/
  length_eq : groups.length = 8
  deriving DecidableEq

/-- An address of either version. -/
inductive Ip where
  | v4 (address : Ipv4)
  | v6 (address : Ipv6)
  deriving DecidableEq

/-- An address with a port. -/
structure Endpoint where
  ip : Ip
  port : UInt16
  deriving DecidableEq

namespace Ipv4

/-- The address that stands for every address of the machine. -/
def unspecified : Ipv4 := ⟨0, 0, 0, 0⟩

/-- The address of all stations on the network. -/
def broadcast : Ipv4 := ⟨255, 255, 255, 255⟩

/-- The address of the machine itself. -/
def loopback : Ipv4 := ⟨127, 0, 0, 1⟩

/-- Whether the address names a multicast group. -/
def isMulticast (address : Ipv4) : Bool :=
  224 ≤ address.first.toNat && address.first.toNat ≤ 239

/-- The text of an address. -/
def text (address : Ipv4) : String :=
  toString address.first.toNat ++ "." ++ toString address.second.toNat ++ "." ++
    toString address.third.toNat ++ "." ++ toString address.fourth.toNat

end Ipv4

namespace Ipv6

/-- The version 4 address that an address embeds, if its first groups say that it does. -/
def embedded? (address : Ipv6) : Option Ipv4 :=
  match address.groups with
  | [0, 0, 0, 0, 0, 0xFFFF, high, low] =>
    some ⟨UInt8.ofNat (high.toNat / 256), UInt8.ofNat high.toNat, UInt8.ofNat (low.toNat / 256),
      UInt8.ofNat low.toNat⟩
  | _ => none

/-- The text of one group. -/
def groupText (group : UInt16) : String :=
  String.ofList (Nat.toDigits 16 group.toNat)

/-- The groups with colons between them. -/
def groupsText (groups : List UInt16) : String :=
  ":".intercalate (groups.map groupText)

/-- The number of zero groups at the front. -/
def zerosAtFront (groups : List UInt16) : Nat :=
  (groups.takeWhile (· == 0)).length

/-- Where the first longest run of zero groups starts, counted from `index`, and how long it is. -/
def longestZeros : Nat → List UInt16 → Nat × Nat
  | index, [] => (index, 0)
  | index, group :: rest =>
    let here := zerosAtFront (group :: rest)
    let later := longestZeros (index + 1) rest
    if later.2 ≤ here then (index, here) else later

/-- The text of an address. -/
def text (address : Ipv6) : String :=
  match address.embedded? with
  | some inner => "::ffff:" ++ inner.text
  | none =>
    let (start, length) := longestZeros 0 address.groups
    if 1 < length then
      groupsText (address.groups.take start) ++ "::" ++
        groupsText (address.groups.drop (start + length))
    else
      groupsText address.groups

end Ipv6

namespace Ip

/-- Whether the address stands for every address of the machine. -/
def isUnspecified : Ip → Bool
  | v4 address => address == Ipv4.unspecified
  | v6 address => address.groups.all (· == 0)

/-- The text of an address. -/
def text : Ip → String
  | v4 address => address.text
  | v6 address => address.text

end Ip

/-- The text of an endpoint. A version 6 address stands in brackets. -/
def Endpoint.text (endpoint : Endpoint) : String :=
  match endpoint.ip with
  | .v4 address => address.text ++ ":" ++ toString endpoint.port.toNat
  | .v6 address => "[" ++ address.text ++ "]:" ++ toString endpoint.port.toNat

end DiagnosticGateway.Net
