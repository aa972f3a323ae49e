/-!
# Digits

The digits of numbers in bases up to sixteen, in either case, and the number that a row of
them denotes, most significant digit first.
-/

namespace DiagnosticGateway.Text.Digits

/-- The value of a digit in the given base, at most sixteen. -/
def value? (base : Nat) (char : Char) : Option Nat :=
  let code := char.toNat
  let value :=
    if 48 ≤ code && code ≤ 57 then code - 48
    else if 97 ≤ code && code ≤ 102 then code - 87
    else if 65 ≤ code && code ≤ 70 then code - 55
    else 16
  if value < base then some value else none

/-- The values of the digits at the front, and what follows them. -/
def atFront (base : Nat) : List Char → List Nat × List Char
  | [] => ([], [])
  | char :: rest =>
    match value? base char with
    | some value =>
      let (values, rest) := atFront base rest
      (value :: values, rest)
    | none => ([], char :: rest)

/-- The number with the given digits. -/
def numberOf (base : Nat) (digits : List Nat) : Nat :=
  digits.foldl (fun number digit => number * base + digit) 0

end DiagnosticGateway.Text.Digits
