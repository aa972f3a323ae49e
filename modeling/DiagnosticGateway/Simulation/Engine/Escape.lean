import DiagnosticGateway.Simulation.Engine.Expr
import DiagnosticGateway.Simulation.Engine.Property
import DiagnosticGateway.Text.Blank

/-!
# Characters and escapes of the pattern language

The smallest parts of a pattern: a character, an escape that stands for a character, for a
set of characters or for a condition on the position. Readers take the characters of the
pattern and return what follows; they give `none` where the text is no pattern. In extended
mode blanks and comments may stand between the characters of most constructs, and a comment
goes on to the end of its line.

This is a part of the engine of the benches, outside of what is proved.
-/

namespace DiagnosticGateway.Simulation.Engine

/-- The sets with an escape of one letter. -/
inductive ShortSet where
  | digit
  | space
  | word
  deriving DecidableEq, Repr

/-- The smallest parts of a pattern. -/
inductive Primitive where
  /-- A character. One that was given by two hexadecimal digits stands for a byte where
  characters are bytes. -/
  | char (value : Char) (givenAsByte : Bool)
  /-- Any character. -/
  | dot
  /-- A set with an escape of one letter. -/
  | short (set : ShortSet) (negated : Bool)
  /-- A set that is named by a property. -/
  | property (part : Option HexPart) (negated : Bool)
  /-- A condition on the position. -/
  | look (condition : Look)
  deriving DecidableEq, Repr

/-- Where a construct goes on in extended mode: after blanks and comments. -/
def skipBlanks : (inComment : Bool) → List Char → List Char
  | _, [] => []
  | true, char :: rest => skipBlanks (char != '\n') rest
  | false, char :: rest =>
    if Text.isBlank char then skipBlanks false rest
    else if char == '#' then skipBlanks true rest
    else char :: rest

/-- Where a construct goes on. -/
def skip (extended : Bool) (chars : List Char) : List Char :=
  if extended then skipBlanks false chars else chars

/-- The value of a hexadecimal digit. -/
def hexValue? (char : Char) : Option Nat :=
  let code := char.toNat
  if 48 ≤ code && code ≤ 57 then some (code - 48)
  else if 65 ≤ code && code ≤ 70 then some (code - 55)
  else if 97 ≤ code && code ≤ 102 then some (code - 87)
  else none

/-- The character with a number, if there is one. -/
def charOfNumber? (number : Nat) : Option Char :=
  if number < 0xD800 || (0xE000 ≤ number && number < 0x110000) then some (Char.ofNat number)
  else none

/-- Read exactly `count` hexadecimal digits. -/
def readHexDigits (extended : Bool) : (count number : Nat) → List Char → Option (Nat × List Char)
  | 0, number, chars => some (number, chars)
  | count + 1, number, chars =>
    match chars with
    | [] => none
    | char :: rest =>
      match hexValue? char with
      | some value => readHexDigits extended count (number * 16 + value) (skip extended rest)
      | none => none

/-- Read hexadecimal digits up to a closing brace. Blanks between them have been taken out. -/
def readBracedDigits : (digits number : Nat) → List Char → Option (Nat × List Char)
  | _, _, [] => none
  | digits, number, char :: rest =>
    if char == '\x7d' then if digits = 0 then none else some (number, rest)
    else
      match hexValue? char with
      | some value => readBracedDigits (digits + 1) (number * 16 + value) rest
      | none => none

/-- The characters without blanks and comments, as far as a closing brace. -/
def squeezeBraced (extended : Bool) (fuel : Nat) (chars : List Char) : List Char :=
  match fuel with
  | 0 => chars
  | fuel + 1 =>
    match skip extended chars with
    | [] => []
    | char :: rest =>
      if char == '\x7d' then char :: rest else char :: squeezeBraced extended fuel rest

/-- Read the number of a character after `x`, `u` or `U`, which have 2, 4 and 8 digits. -/
def readHexChar (extended : Bool) (digits : Nat) (chars : List Char) :
    Option (Primitive × List Char) :=
  match skip extended chars with
  | [] => none
  | first :: rest =>
    if first == '\x7b' then do
      let (number, rest) ← readBracedDigits 0 0 (squeezeBraced extended rest.length rest)
      let char ← charOfNumber? number
      some (.char char false, skip extended rest)
    else do
      let (number, rest) ← readHexDigits extended digits 0 (first :: rest)
      let char ← charOfNumber? number
      some (.char char (digits == 2), rest)

/-- The characters up to a closing brace, and what follows the brace. -/
def splitBrace : List Char → Option (List Char × List Char)
  | [] => none
  | char :: rest =>
    if char == '\x7d' then some ([], rest)
    else (splitBrace rest).map fun found => (char :: found.1, found.2)

/-- The characters before and after the first `!=`. -/
def splitUnequal : List Char → Option (List Char × List Char)
  | [] => none
  | '!' :: '=' :: rest => some ([], rest)
  | char :: rest => (splitUnequal rest).map fun found => (char :: found.1, found.2)

/-- The characters before and after the first occurrence of a character. -/
def splitAtChar (separator : Char) : List Char → Option (List Char × List Char)
  | [] => none
  | char :: rest =>
    if char == separator then some ([], rest)
    else (splitAtChar separator rest).map fun found => (char :: found.1, found.2)

/-- The set that a property escape denotes by the text between its braces. Only a capital letter
of the escape negates it: the sign for unequal counts as the one for equal. -/
def propertyOf (negated : Bool) (text : List Char) : Primitive :=
  match splitUnequal text with
  | some (property, value) => .property (Property.valued? property value) negated
  | none =>
    match splitAtChar ':' text with
    | some (property, value) => .property (Property.valued? property value) negated
    | none =>
      match splitAtChar '=' text with
      | some (property, value) => .property (Property.valued? property value) negated
      | none => .property (Property.named? text) negated

/-- Read a property: one letter, or a name in braces. -/
def readProperty (extended negated : Bool) (chars : List Char) : Option (Primitive × List Char) :=
  match skip extended chars with
  | [] => none
  | first :: rest =>
    if first == '\x7b' then do
      let (name, rest) ← splitBrace (squeezeBraced extended rest.length rest)
      some (propertyOf negated name, rest)
    else if first == '\\' then none
    else some (.property (Property.named? [first]) negated, skip extended rest)

/-- Characters that a backslash always turns into themselves. -/
def isMeta (char : Char) : Bool :=
  ['\\', '.', '+', '*', '?', '(', ')', '|', '[', ']', '\x7b', '\x7d', '^', '$', '#', '&', '-',
    '~'].contains char

/-- Whether a backslash turns a character into itself: any ASCII character that is no letter, no
digit and no angle bracket. -/
def isEscapable (char : Char) : Bool :=
  isMeta char || (char.toNat < 0x80 && !char.isAlphanum && char != '<' && char != '>')

/-- Whether a character can stand in the name of a word condition. -/
def isConditionChar (char : Char) : Bool :=
  char.isAlpha || char == '-'

/-- The characters of a word condition's name, and what follows them. -/
def takeCondition (extended : Bool) : (fuel : Nat) → List Char → List Char × List Char
  | 0, chars => ([], chars)
  | fuel + 1, chars =>
    match chars with
    | [] => ([], [])
    | char :: rest =>
      if isConditionChar char then
        let (name, rest) := takeCondition extended fuel (skip extended rest)
        (char :: name, rest)
      else ([], char :: rest)

/-- Read what follows an escaped `b`. A brace with a name makes it a special condition; a brace
with anything else is left to the repetition that it begins. -/
def readWordCondition (extended : Bool) (chars : List Char) : Option (Primitive × List Char) :=
  match chars with
  | [] => some (.look .wordBoundary, [])
  | first :: rest =>
    if first == '\x7b' then
      match skip extended rest with
      | [] => none
      | second :: more =>
        if isConditionChar second then
          let (name, after) := takeCondition extended chars.length (second :: more)
          match after with
          | [] => none
          | brace :: after =>
            if brace != '\x7d' then none
            else
              match String.ofList name with
              | "start" => some (.look .wordStart, after)
              | "end" => some (.look .wordEnd, after)
              | "start-half" => some (.look .wordStartHalf, after)
              | "end-half" => some (.look .wordEndHalf, after)
              | _ => none
        else some (.look .wordBoundary, chars)
    else some (.look .wordBoundary, chars)

/-- Read an escape after its backslash. -/
def readEscape (extended : Bool) : List Char → Option (Primitive × List Char)
  | [] => none
  | char :: rest =>
    match char with
    | 'x' => readHexChar extended 2 rest
    | 'u' => readHexChar extended 4 rest
    | 'U' => readHexChar extended 8 rest
    | 'p' => readProperty extended false rest
    | 'P' => readProperty extended true rest
    | 'd' => some (.short .digit false, rest)
    | 'D' => some (.short .digit true, rest)
    | 's' => some (.short .space false, rest)
    | 'S' => some (.short .space true, rest)
    | 'w' => some (.short .word false, rest)
    | 'W' => some (.short .word true, rest)
    | 'a' => some (.char '\x07' false, rest)
    | 'f' => some (.char '\x0c' false, rest)
    | 't' => some (.char '\t' false, rest)
    | 'n' => some (.char '\n' false, rest)
    | 'r' => some (.char '\r' false, rest)
    | 'v' => some (.char '\x0b' false, rest)
    | 'A' => some (.look .textStart, rest)
    | 'z' => some (.look .textEnd, rest)
    | 'b' => readWordCondition extended rest
    | 'B' => some (.look .notWordBoundary, rest)
    | '<' => some (.look .wordStart, rest)
    | '>' => some (.look .wordEnd, rest)
    | _ => if isEscapable char then some (.char char false, rest) else none

/-- Read a primitive outside of a bracketed set. -/
def readPrimitive (extended : Bool) : List Char → Option (Primitive × List Char)
  | [] => none
  | '\\' :: rest => readEscape extended rest
  | '.' :: rest => some (.dot, rest)
  | '^' :: rest => some (.look .textStart, rest)
  | '$' :: rest => some (.look .textEnd, rest)
  | char :: rest => some (.char char false, rest)

end DiagnosticGateway.Simulation.Engine
