/-!
# Layout of a TOML text

Blanks stand between the parts of a line. A line ends with a line feed, after an optional
carriage return, or with the text; a comment before its end is no part of it. Within an
array the ends of lines and comments count as blanks too.

This is a part of the reader that stands in for a library of the gateway, outside of what is
proved.
-/

namespace DiagnosticGateway.Toml

/-- A blank within a line. -/
def isBlank (char : Char) : Bool :=
  char == ' ' || char == '\t'

/-- A character that may stand in a comment or a string: no control character but the
tabulator. -/
def isPlain (char : Char) : Bool :=
  char == '\t' || (0x20 ≤ char.toNat && char.toNat ≠ 0x7F)

/-- Skip blanks. -/
def skipBlanks (chars : List Char) : List Char :=
  chars.dropWhile isBlank

/-- What follows the end of a line. -/
def newline? : List Char → Option (List Char)
  | '\n' :: rest => some rest
  | '\r' :: '\n' :: rest => some rest
  | _ => none

/-- Skip a comment up to the end of its line. -/
def skipComment : List Char → List Char
  | '#' :: rest => rest.dropWhile isPlain
  | chars => chars

/-- What follows a line of which only blanks and a comment are left. -/
def lineEnd? (chars : List Char) : Option (List Char) :=
  match skipComment (skipBlanks chars) with
  | [] => some []
  | rest => newline? rest

/-- Skip blanks, ends of lines and comments. -/
def skipLayout : (inComment : Bool) → List Char → List Char
  | _, [] => []
  | _, '\n' :: rest => skipLayout false rest
  | _, '\r' :: '\n' :: rest => skipLayout false rest
  | true, char :: rest => if isPlain char then skipLayout true rest else char :: rest
  | false, char :: rest =>
    if isBlank char then skipLayout false rest
    else if char = '#' then skipLayout true rest
    else char :: rest

end DiagnosticGateway.Toml
