/-!
# Flags of the pattern language

Flags hold from where they are set to the end of the group in which they are set. A list of
flags is read up to the colon or parenthesis that ends it: a flag may be named once, and so
may the hyphen after which flags are cleared, which must not come last.

This is a part of the engine of the benches, outside of what is proved.
-/

namespace DiagnosticGateway.Simulation.Engine

/-- The flags that hold at a place of a pattern. Flags that make no difference for which texts
match are read and forgotten. -/
structure Flags where
  /-- Letters match in both cases. -/
  foldCase : Bool
  /-- Characters are code points; otherwise they are bytes. -/
  unicode : Bool
  /-- Blanks and comments are skipped. -/
  extended : Bool
  deriving DecidableEq, Repr

/-- The flags at the start of a pattern. -/
def Flags.initial : Flags := ⟨false, true, false⟩

/-- The letters of the flags. -/
def flagLetters : List Char := ['i', 'm', 's', 'U', 'u', 'R', 'x']

/-- Set or clear the flag with a letter. -/
def Flags.assign (letter : Char) (value : Bool) (flags : Flags) : Flags :=
  match letter with
  | 'i' => { flags with foldCase := value }
  | 'u' => { flags with unicode := value }
  | 'x' => { flags with extended := value }
  | _ => flags

/-- The letters and hyphens up to a colon or closing parenthesis, that character, and what
follows it. -/
def splitFlags : List Char → Option (List Char × Char × List Char)
  | [] => none
  | char :: rest =>
    if char == ':' || char == ')' then some ([], char, rest)
    else (splitFlags rest).map fun found => (char :: found.1, found.2)

/-- Whether a list of flags may stand in a pattern. -/
def areFlags (items : List Char) : Bool :=
  items.all (fun item => item == '-' || flagLetters.contains item) && items.eraseDups == items &&
    items.getLast? != some '-'

/-- The flags after a list of flags: those before the hyphen are set and those after it cleared. -/
def Flags.applyItems (flags : Flags) (items : List Char) : Flags :=
  let set := (items.takeWhile (· != '-')).foldl (fun flags letter => flags.assign letter true) flags
  (items.dropWhile (· != '-')).foldl (fun flags letter => flags.assign letter false) set

end DiagnosticGateway.Simulation.Engine
