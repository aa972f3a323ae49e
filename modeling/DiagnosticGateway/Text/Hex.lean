import DiagnosticGateway.Bytes
import DiagnosticGateway.Text.Quoted

/-!
# Hexadecimal text

Bytes are shown as two digits each and numbers padded with zeros to a width. Reading works
on the UTF-8 bytes of a text: an odd count of them is refused before any digit is looked at,
and otherwise the first byte that is no digit is reported with its position.
-/

namespace DiagnosticGateway.Text.Hex

/-- The uppercase digit of a value below sixteen. -/
def upperDigit (value : Nat) : Char :=
  if value < 10 then Char.ofNat (48 + value) else Char.ofNat (55 + value)

/-- The lowercase digit of a value below sixteen. -/
def lowerDigit (value : Nat) : Char :=
  if value < 10 then Char.ofNat (48 + value) else Char.ofNat (87 + value)

/-- The digits of each byte, most significant first. -/
def charsWith (digit : Nat → Char) (bytes : Bytes) : List Char :=
  bytes.flatMap fun byte => [digit (byte.toNat / 16), digit (byte.toNat % 16)]

/-- The uppercase digits of a string of bytes. -/
def upperChars (bytes : Bytes) : List Char :=
  charsWith upperDigit bytes

/-- The uppercase text of a string of bytes. -/
def upper (bytes : Bytes) : String :=
  String.ofList (upperChars bytes)

/-- The lowercase text of a string of bytes. -/
def lower (bytes : Bytes) : String :=
  String.ofList (charsWith lowerDigit bytes)

/-- The lowest `width` uppercase digits of a number. -/
def paddedChars : Nat → Nat → List Char
  | 0, _ => []
  | width + 1, value => paddedChars width (value / 16) ++ [upperDigit (value % 16)]

/-- A byte as `0xAB`. -/
def prefixedByte (byte : UInt8) : String :=
  "0x" ++ String.ofList (paddedChars 2 byte.toNat)

/-- A 16-bit word as `0xABCD`. -/
def prefixedWord (word : UInt16) : String :=
  "0x" ++ String.ofList (paddedChars 4 word.toNat)

/-- Why a text is not the hexadecimal form of a string of bytes. -/
inductive Fault where
  /-- The text has an odd number of bytes. -/
  | oddLength
  /-- The byte at this position is not a digit. -/
  | invalidDigit (byte : UInt8) (position : Nat)
  deriving DecidableEq, Repr

/-- The wording of a fault. A byte that is no digit is shown as the character with its number. -/
def Fault.message : Fault → String
  | .oddLength => "Odd number of digits"
  | .invalidDigit byte position =>
    "Invalid character " ++ Quoted.char (Char.ofNat byte.toNat) ++ " at position " ++
      toString position

/-- The value of a digit, in either case. -/
def digit? (byte : UInt8) : Option Nat :=
  let code := byte.toNat
  if 48 ≤ code && code ≤ 57 then some (code - 48)
  else if 65 ≤ code && code ≤ 70 then some (code - 55)
  else if 97 ≤ code && code ≤ 102 then some (code - 87)
  else none

/-- The value of the digit at a position, or the complaint that it is none. -/
def digitAt (byte : UInt8) (position : Nat) : Except Fault Nat :=
  match digit? byte with
  | some value => .ok value
  | none => .error (.invalidDigit byte position)

/-- Read digit pairs, the first of which stands at `position`. -/
def decodePairs : Nat → Bytes → Except Fault Bytes
  | _, [] => .ok []
  | _, [_] => .error .oddLength
  | position, high :: low :: rest =>
    match digitAt high position, digitAt low (position + 1) with
    | .error fault, _ => .error fault
    | .ok _, .error fault => .error fault
    | .ok upperHalf, .ok lowerHalf =>
      match decodePairs (position + 2) rest with
      | .error fault => .error fault
      | .ok bytes => .ok (UInt8.ofNat (upperHalf * 16 + lowerHalf) :: bytes)

/-- The bytes that a text denotes. The parity of its length is judged before its digits. -/
def decode (text : String) : Except Fault Bytes :=
  let bytes := Bytes.ofText text
  if bytes.length % 2 = 0 then decodePairs 0 bytes else .error .oddLength

end DiagnosticGateway.Text.Hex
