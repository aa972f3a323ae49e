import DiagnosticGateway.Text.Digits
import DiagnosticGateway.Toml.Value

/-!
# Numbers of a TOML text

An integer is decimal with an optional sign and without leading zeros, or hexadecimal, octal
or binary after its mark; a single underscore may stand between two digits. It must fit into
64 bits with a sign. A decimal number with a fraction or an exponent is not an integer
whatever it denotes, and it must not be too large for a double.

This is a part of the reader that stands in for a library of the gateway, outside of what is
proved.
-/

namespace DiagnosticGateway.Toml

open Text.Digits

/-- Read the digits after a first one, each possibly after an underscore. -/
def readMoreDigits (base : Nat) : List Char → Option (List Nat × List Char)
  | [] => some ([], [])
  | '_' :: [] => none
  | '_' :: char :: rest => do
    let digit ← value? base char
    let (digits, rest) ← readMoreDigits base rest
    some (digit :: digits, rest)
  | char :: rest =>
    match value? base char with
    | none => some ([], char :: rest)
    | some digit => do
      let (digits, rest) ← readMoreDigits base rest
      some (digit :: digits, rest)

/-- Read at least one digit. -/
def readDigits (base : Nat) : List Char → Option (List Nat × List Char)
  | [] => none
  | char :: rest => do
    let digit ← value? base char
    let (digits, rest) ← readMoreDigits base rest
    some (digit :: digits, rest)

/-- Read the digits of a decimal integer, of which a zero is the only one that starts with
zero. -/
def readDecimal : List Char → Option (List Nat × List Char)
  | '0' :: rest => some ([0], rest)
  | chars => readDigits 10 chars

/-- An integer, if it fits into 64 bits with a sign. -/
def integer? (number : Int) : Option Value :=
  if Int64.minValue.toInt ≤ number && number ≤ Int64.maxValue.toInt then some (.integer number)
  else none

/-- Read the digits of an integer in a base other than ten. -/
def readBased (base : Nat) (chars : List Char) : Option (Value × List Char) := do
  let (digits, rest) ← readDigits base chars
  let value ← integer? (numberOf base digits)
  some (value, rest)

/-- The least number that is rounded to infinity: half a unit above the largest double. -/
def doubleLimit : Nat := Nat.pow 2 1024 - Nat.pow 2 970

/-- Whether digits, scaled by a power of ten, denote a number that no double is near to. The
number is computed only where its order of magnitude leaves the question open. -/
def isTooLarge (digits : List Nat) (exponent : Int) : Bool :=
  let digits := digits.dropWhile (· == 0)
  let magnitude := exponent + digits.length
  if digits.isEmpty || magnitude < 300 then false
  else if 400 < magnitude then true
  else if 0 ≤ exponent then doubleLimit ≤ numberOf 10 digits * Nat.pow 10 exponent.toNat
  else doubleLimit * Nat.pow 10 (-exponent).toNat ≤ numberOf 10 digits

/-- Read the digits of a fraction after its point, if there is one. -/
def readFraction : List Char → Option (List Nat × List Char)
  | '.' :: rest => readDigits 10 rest
  | chars => some ([], chars)

/-- Read an exponent after its letter, with an optional sign. -/
def readPower : List Char → Option (Int × List Char)
  | '+' :: rest => (readDigits 10 rest).map fun read => ((numberOf 10 read.1 : Int), read.2)
  | '-' :: rest => (readDigits 10 rest).map fun read => (-(numberOf 10 read.1 : Int), read.2)
  | chars => (readDigits 10 chars).map fun read => ((numberOf 10 read.1 : Int), read.2)

/-- Read an exponent, if there is one. -/
def readExponent : List Char → Option (Int × List Char)
  | 'e' :: rest => readPower rest
  | 'E' :: rest => readPower rest
  | chars => some (0, chars)

/-- Read a decimal number after its sign. -/
def readUnsigned (negative : Bool) : List Char → Option (Value × List Char)
  | 'i' :: 'n' :: 'f' :: rest => some (.fraction, rest)
  | 'n' :: 'a' :: 'n' :: rest => some (.fraction, rest)
  | chars => do
    let (digits, afterDigits) ← readDecimal chars
    let (decimals, afterFraction) ← readFraction afterDigits
    let (exponent, rest) ← readExponent afterFraction
    if rest.length = afterDigits.length then
      let magnitude : Int := numberOf 10 digits
      let value ← integer? (if negative then -magnitude else magnitude)
      some (value, rest)
    else if !negative && isTooLarge (digits ++ decimals) (exponent - decimals.length) then
      none
    else
      some (.fraction, rest)

/-- Read a number. -/
def readNumber : List Char → Option (Value × List Char)
  | '0' :: 'x' :: rest => readBased 16 rest
  | '0' :: 'o' :: rest => readBased 8 rest
  | '0' :: 'b' :: rest => readBased 2 rest
  | '+' :: rest => readUnsigned false rest
  | '-' :: rest => readUnsigned true rest
  | chars => readUnsigned false chars

end DiagnosticGateway.Toml
