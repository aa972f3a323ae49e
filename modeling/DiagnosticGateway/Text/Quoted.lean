/-!
# Quoted characters of one byte

A character with a number below 256 is quoted for messages in single quotes. The quote and
the backslash are escaped, so are the usual control characters, and a character that has no
visible form is given by its number in lowercase hexadecimal.
-/

namespace DiagnosticGateway.Text.Quoted

/-- The lowercase hexadecimal digits of a number, without leading zeros. -/
def hexDigits (number : Nat) : List Char :=
  Nat.toDigits 16 number

/-- Whether a character below U+0100 has a visible form: all but the controls, the no-break
space and the soft hyphen. -/
def isVisible (char : Char) : Bool :=
  let number := char.toNat
  (0x20 ≤ number && number < 0x7F) || (0xA1 ≤ number && number ≠ 0xAD)

/-- The quoted form of a character below U+0100. -/
def char (char : Char) : String :=
  let body : List Char :=
    match char with
    | '\x00' => ['\\', '0']
    | '\t' => ['\\', 't']
    | '\n' => ['\\', 'n']
    | '\r' => ['\\', 'r']
    | '\'' => ['\\', '\'']
    | '\\' => ['\\', '\\']
    | other =>
      if isVisible other then [other]
      else ['\\', 'u', '\x7b'] ++ hexDigits other.toNat ++ ['\x7d']
  String.ofList (['\''] ++ body ++ ['\''])

end DiagnosticGateway.Text.Quoted
