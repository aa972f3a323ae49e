import DiagnosticGateway.Net.Ip
import DiagnosticGateway.Text.Digits

/-!
# Reading internet addresses

A reader takes characters and returns what it read with the rest. A version 4 address is
read as four decimal bytes. A version 6 address is read as groups up to two adjacent colons
and, after them, groups again; each half may end in a version 4 address that fills two
groups, but in the first half only if the groups are then complete.
-/

namespace DiagnosticGateway.Net.IpText

open Text.Digits

/-- Read a byte in decimal without leading zeros. -/
def readByte (chars : List Char) : Option (UInt8 × List Char) :=
  let (digits, rest) := atFront 10 chars
  let leadingZero := digits.length > 1 && digits.head? == some 0
  let number := numberOf 10 digits
  if digits.isEmpty || leadingZero || 3 < digits.length || 255 < number then none
  else some (UInt8.ofNat number, rest)

/-- Read a hexadecimal group of at most four digits. -/
def readGroup (chars : List Char) : Option (UInt16 × List Char) :=
  let (digits, rest) := atFront 16 chars
  if digits.isEmpty || 4 < digits.length then none
  else some (UInt16.ofNat (numberOf 16 digits), rest)

/-- Read one given character. -/
def readChar (expected : Char) : List Char → Option (List Char)
  | char :: rest => if char = expected then some rest else none
  | [] => none

/-- Read a version 4 address. -/
def readIpv4 (chars : List Char) : Option (Ipv4 × List Char) := do
  let (first, rest) ← readByte chars
  let (second, rest) ← readByte (← readChar '.' rest)
  let (third, rest) ← readByte (← readChar '.' rest)
  let (fourth, rest) ← readByte (← readChar '.' rest)
  some (⟨first, second, third, fourth⟩, rest)

/-- The two groups that a version 4 address fills. -/
def groupsOf (address : Ipv4) : List UInt16 :=
  [UInt16.ofNat (address.first.toNat * 256 + address.second.toNat),
    UInt16.ofNat (address.third.toNat * 256 + address.fourth.toNat)]

/-- What reading a series of groups found. -/
structure Groups where
  /-- The groups, in order. -/
  groups : List UInt16
  /-- The series ended in a version 4 address. -/
  endsInIpv4 : Bool
  /-- What follows. -/
  rest : List Char

/-- Read at most `room` groups with colons between them. A version 4 address is tried before
a group wherever it has room. A separator that no group follows is not consumed. -/
def readGroups : (room : Nat) → (isFirst : Bool) → List Char → Groups
  | 0, _, chars => ⟨[], false, chars⟩
  | room + 1, isFirst, chars =>
    match if isFirst then some chars else readChar ':' chars with
    | none => ⟨[], false, chars⟩
    | some start =>
      match if 0 < room then readIpv4 start else none with
      | some (address, rest) => ⟨groupsOf address, true, rest⟩
      | none =>
        match readGroup start with
        | none => ⟨[], false, chars⟩
        | some (group, rest) =>
          let more := readGroups room false rest
          ⟨group :: more.groups, more.endsInIpv4, more.rest⟩

/-- The address with the given groups, if there are eight. -/
def ofGroups? (groups : List UInt16) : Option Ipv6 :=
  if exact : groups.length = 8 then some ⟨groups, exact⟩ else none

/-- Read a version 6 address. -/
def readIpv6 (chars : List Char) : Option (Ipv6 × List Char) :=
  let head := readGroups 8 true chars
  if head.groups.length = 8 then (ofGroups? head.groups).map (·, head.rest)
  else if head.endsInIpv4 then none
  else do
    let rest ← readChar ':' (← readChar ':' head.rest)
    let tail := readGroups (7 - head.groups.length) true rest
    let missing := 8 - head.groups.length - tail.groups.length
    let address ← ofGroups? (head.groups ++ List.replicate missing 0 ++ tail.groups)
    some (address, tail.rest)

/-- The result of a reader that used up its text. -/
def whole {value : Type} : Option (value × List Char) → Option value
  | some (value, []) => some value
  | _ => none

/-- The version 4 address with the given text. -/
def ipv4? (text : String) : Option Ipv4 :=
  whole (readIpv4 text.toList)

/-- The address of either version with the given text. -/
def ip? (text : String) : Option Ip :=
  match readIpv4 text.toList with
  | some (address, rest) => whole (some (.v4 address, rest))
  | none => (whole (readIpv6 text.toList)).map .v6

end DiagnosticGateway.Net.IpText
