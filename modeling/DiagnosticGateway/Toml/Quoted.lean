import DiagnosticGateway.Text.Digits
import DiagnosticGateway.Toml.Layout

/-!
# Strings of a TOML text

A string stands between two marks on one line, or between three marks on each side over
several. In a basic string a backslash introduces an escape; a literal string has none. The
end of a line right after the three opening marks is no part of the string, an escaped end of
a line vanishes with the blanks and line ends after it, and up to two marks may stand right
before the three closing ones.

A reader takes the characters after the opening mark and returns the characters of the
string with what follows its closing mark.

This is a part of the reader that stands in for a library of the gateway, outside of what is
proved.
-/

namespace DiagnosticGateway.Toml

/-- The kinds of strings. -/
inductive Quote where
  | basic
  | literal
  deriving DecidableEq, Repr

namespace Quote

/-- The character that opens and closes a string. -/
def mark : Quote → Char
  | basic => '"'
  | literal => '\''

/-- Whether a backslash introduces an escape. -/
def hasEscapes : Quote → Bool
  | basic => true
  | literal => false

end Quote

/-- The character of an escape by a single letter. -/
def shortEscape? : Char → Option Char
  | 'b' => some '\x08'
  | 't' => some '\t'
  | 'n' => some '\n'
  | 'f' => some '\x0c'
  | 'r' => some '\r'
  | '"' => some '"'
  | '\\' => some '\\'
  | _ => none

/-- The character whose number is written in hexadecimal. -/
def numberedChar? (digits : List Char) : Option Char := do
  let values ← digits.mapM (Text.Digits.value? 16)
  let number := Text.Digits.numberOf 16 values
  if number.isValidChar then some (Char.ofNat number) else none

/-- Read the number of a character in `count` digits. -/
def readNumbered (count : Nat) (chars : List Char) : Option (Char × List Char) :=
  if count ≤ chars.length then
    (numberedChar? (chars.take count)).map (·, chars.drop count)
  else
    none

/-- Read an escape, from the character after the backslash. -/
def readEscape : List Char → Option (Char × List Char)
  | [] => none
  | 'u' :: rest => readNumbered 4 rest
  | 'U' :: rest => readNumbered 8 rest
  | char :: rest => (shortEscape? char).map (·, rest)

theorem length_readNumbered {count : Nat} {chars rest : List Char} {char : Char}
    (read : readNumbered count chars = some (char, rest)) : rest.length ≤ chars.length := by
  unfold readNumbered at read
  split at read
  · obtain ⟨_, _, same⟩ := Option.map_eq_some_iff.1 read
    cases same
    simp
  · cases read

theorem length_readEscape {chars rest : List Char} {char : Char}
    (read : readEscape chars = some (char, rest)) : rest.length < chars.length := by
  unfold readEscape at read
  split at read
  · cases read
  · have := length_readNumbered read
    simp only [List.length_cons]
    omega
  · have := length_readNumbered read
    simp only [List.length_cons]
    omega
  · obtain ⟨_, _, same⟩ := Option.map_eq_some_iff.1 read
    cases same
    simp

/-- Put a character in front of a string that was read. -/
def prepend (char : Char) : Option (List Char × List Char) → Option (List Char × List Char) :=
  Option.map fun read => (char :: read.1, read.2)

/-- Read a string on one line. -/
def readLine (quote : Quote) : List Char → Option (List Char × List Char)
  | [] => none
  | char :: rest =>
    if char = quote.mark then some ([], rest)
    else if char = '\\' && quote.hasEscapes then
      match _ : readEscape rest with
      | none => none
      | some (escaped, after) => prepend escaped (readLine quote after)
    else if isPlain char then prepend char (readLine quote rest)
    else none
  termination_by chars => chars.length
  decreasing_by
    · have := length_readEscape ‹_›
      simp only [List.length_cons]
      omega
    · simp

/-- The end of a string over several lines, from the character after a mark: two more marks,
and up to two in front of them that are part of the string. -/
def closing? (quote : Quote) : List Char → Option (List Char × List Char)
  | second :: third :: after =>
    if second = quote.mark && third = quote.mark then
      let extra := (after.take 2).takeWhile (· = quote.mark)
      some (extra, after.drop extra.length)
    else
      none
  | _ => none

/-- Whether only blanks are left of a line that another one follows. -/
def endsLine (chars : List Char) : Bool :=
  (newline? (skipBlanks chars)).isSome

/-- Read a string over several lines. While `skipping`, blanks and ends of lines vanish. -/
def readBlock (quote : Quote) : (skipping : Bool) → List Char → Option (List Char × List Char)
  | _, [] => none
  | true, '\n' :: rest => readBlock quote true rest
  | true, '\r' :: '\n' :: rest => readBlock quote true rest
  | false, '\n' :: rest => prepend '\n' (readBlock quote false rest)
  | false, '\r' :: '\n' :: rest => prepend '\n' (readBlock quote false rest)
  | skipping, char :: rest =>
    if skipping && isBlank char then readBlock quote true rest
    else if char = quote.mark then
      match closing? quote rest with
      | some (extra, after) => some (extra, after)
      | none => prepend char (readBlock quote false rest)
    else if char = '\\' && quote.hasEscapes then
      if endsLine rest then readBlock quote true rest
      else
        match _ : readEscape rest with
        | none => none
        | some (escaped, after) => prepend escaped (readBlock quote false after)
    else if isPlain char then prepend char (readBlock quote false rest)
    else none
  termination_by _ chars => chars.length
  decreasing_by
    all_goals
      first
        | exact Nat.lt_succ_of_lt (length_readEscape ‹_›)
        | (simp only [List.length_cons]; omega)

/-- What was read, as a text. -/
def asText : Option (List Char × List Char) → Option (String × List Char) :=
  Option.map fun read => (String.ofList read.1, read.2)

/-- Read a string of either kind, from its opening mark. -/
def readString : List Char → Option (String × List Char)
  | '"' :: '"' :: '"' :: rest => asText (readBlock .basic false ((newline? rest).getD rest))
  | '"' :: rest => asText (readLine .basic rest)
  | '\'' :: '\'' :: '\'' :: rest => asText (readBlock .literal false ((newline? rest).getD rest))
  | '\'' :: rest => asText (readLine .literal rest)
  | _ => none

end DiagnosticGateway.Toml
